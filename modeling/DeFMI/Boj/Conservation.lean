import DeFMI.Boj.Turns
set_option autoImplicit false

/-!
Conservation of central-bank money: balances less overdrafts move only by
registrations and by funds receipts, each of which counts once.
-/

namespace DeFMI.Boj
open Lib InPlace Table AList

def BojOp.registered : BojOp → ℤ
  | .registerParticipant r => r.participant.currentAccountBalanceYen
  | _ => 0

def BojOp.received : BojOp → ℤ
  | .applyFundsReceipt r => r.amountYen
  | _ => 0

def Position.net (q : Position) : ℤ := q.balance - q.overdraft

namespace BojLiquidityBook

variable {book next : BojLiquidityBook} {entity : Id} {now : ℕ}

def net (book : BojLiquidityBook) : ℤ :=
  total (fun _ p => (p.currentAccountBalanceYen : ℤ) - p.intradayOverdraftYen)
    book.participants

theorem net_eq (book : BojLiquidityBook) : book.net = total (fun _ q => q.net) book.positions := by
  rw [positions, total_mapValues]
  rfl

theorem net_of_positions (h : ∀ entity, next.positions.lookup entity = book.positions.lookup entity) :
    next.net = book.net := by
  rw [net_eq, net_eq]
  exact total_eq_of_lookup_eq h

theorem Puts.net {q : Position} (h : Puts entity q book next) :
    next.net = total (fun _ q => q.net) (book.positions.insert entity q) := by
  rw [net_eq]
  exact total_eq_of_lookup_eq h.positions

theorem Puts.net_of_lookup {was q : Position} (h : Puts entity q book next)
    (hwas : book.positions.lookup entity = some was) : next.net + was.net = book.net + q.net := by
  rw [h.net, net_eq book]
  exact total_insert_of_lookup (fun _ (q : Position) => q.net) hwas

/-- What the buyer pays, in cash or by a draw, is what the seller receives. -/
theorem Delivers.net {r : SimultaneousCollateralDvp} {buyer seller : Position}
    {lot : JgbCollateralLot} {consumed : ℕ}
    (h : Delivers r now buyer seller lot consumed book next) : next.net = book.net := by
  have hseller : (book.positions.insert r.buyerLegalEntityId
      ⟨buyer.balance + (r.paymentYen - buyer.balance) - r.paymentYen, buyer.exposure,
        buyer.overdraft + (r.paymentYen - buyer.balance)⟩).lookup r.sellerLegalEntityId =
      some seller := by
    rw [lookup_insert_ne h.parties.symm, h.seller_position]
  have hfirst := total_insert_of_lookup
    (w := ⟨buyer.balance + (r.paymentYen - buyer.balance) - r.paymentYen, buyer.exposure,
      buyer.overdraft + (r.paymentYen - buyer.balance)⟩)
    (fun _ (q : Position) => q.net) h.buyer_position
  have hsecond := total_insert_of_lookup
    (w := ⟨seller.balance + (r.paymentYen - min seller.overdraft r.paymentYen), seller.exposure,
      seller.overdraft - min seller.overdraft r.paymentYen⟩)
    (fun _ (q : Position) => q.net) hseller
  rw [net_eq, net_eq, total_eq_of_lookup_eq h.positions]
  simp only [Position.net] at hfirst hsecond ⊢
  omega

attribute [local simp] BojOp.registered BojOp.received

theorem Effect.net {op : BojOp} (h : Effect now op book next) :
    next.net = book.net + (op.registered + op.received) := by
  cases op with
  | registerParticipant r =>
    obtain ⟨hfresh, hzero, hputs, _⟩ := h
    have hnone : r.participant.legalEntityId ∉ book.positions := by
      rw [← lookup_eq_none, positions_lookup, lookup_eq_none.mpr hfresh]
      rfl
    rw [hputs.net, total_insert_of_not_mem _ hnone, ← net_eq]
    simp only [BojOp.registered, BojOp.received, Position.net, BojParticipant.position, hzero]
    omega
  | pledgeCollateral | releaseIntradayLiquidity =>
    obtain ⟨_, _, hrows⟩ := h
    simp [net_of_positions hrows.positions]
  | revalueCollateral =>
    obtain ⟨_, _, _, _, _, _, _, hrows⟩ := h
    simp [net_of_positions hrows.positions]
  | reserveIntradayLiquidity =>
    obtain ⟨_, _, _, _, hrows⟩ := h
    simp [net_of_positions hrows.positions]
  | returnCollateral =>
    obtain ⟨_, _, _, _, _, _, _, _, hrows⟩ := h
    simp [net_of_positions hrows.positions]
  | applyFundsReceipt =>
    obtain ⟨_, _, q, hq, hputs⟩ := h
    have hmoved := hputs.net_of_lookup hq
    simp only [BojOp.registered, BojOp.received, Position.net] at hmoved ⊢
    omega
  | updateOtherSecuredExposure =>
    obtain ⟨q, hq, _, hputs, _⟩ := h
    have hmoved := hputs.net_of_lookup hq
    simp only [BojOp.registered, BojOp.received, Position.net] at hmoved ⊢
    omega
  | openBusinessDay | endBusinessDay =>
    simp [net_of_positions h.positions]
  | settleSimultaneousCollateralDvp =>
    obtain ⟨buyer, seller, lot, consumed, hdelivers⟩ := h
    simp [hdelivers.net]

def receives (receipt : Id) (step : Step BojLiquidityBook (ℕ × BojOp)) : Bool :=
  match step.op.2 with
  | .applyFundsReceipt r => r.receiptId = receipt
  | _ => false

theorem Effect.receipts {op : BojOp} (h : Effect now op book next) :
    (∃ r, op = .applyFundsReceipt r ∧ r.receiptId ∉ book.appliedFundsReceipts ∧
      next.appliedFundsReceipts = insert r.receiptId book.appliedFundsReceipts) ∨
      (∀ r, op ≠ .applyFundsReceipt r) ∧
        next.appliedFundsReceipts = book.appliedFundsReceipts := by
  cases op with
  | registerParticipant => exact .inr ⟨by simp, h.2.2.2⟩
  | pledgeCollateral => exact .inr ⟨by simp, h.2.2.receipts⟩
  | revalueCollateral =>
    obtain ⟨_, _, _, _, _, _, _, hrows⟩ := h
    exact .inr ⟨by simp, hrows.receipts⟩
  | reserveIntradayLiquidity => exact .inr ⟨by simp, h.2.2.2.2.receipts⟩
  | releaseIntradayLiquidity =>
    obtain ⟨_, _, hrows⟩ := h
    exact .inr ⟨by simp, hrows.receipts⟩
  | returnCollateral =>
    obtain ⟨_, _, _, _, _, _, _, _, hrows⟩ := h
    exact .inr ⟨by simp, hrows.receipts⟩
  | applyFundsReceipt r => exact .inl ⟨r, rfl, h.1, h.2.1⟩
  | updateOtherSecuredExposure =>
    obtain ⟨_, _, _, _, hreceipts⟩ := h
    exact .inr ⟨by simp, hreceipts⟩
  | openBusinessDay | endBusinessDay => exact .inr ⟨by simp, Rows.receipts h⟩
  | settleSimultaneousCollateralDvp =>
    obtain ⟨_, _, _, _, hdelivers⟩ := h
    exact .inr ⟨by simp, hdelivers.receipts⟩

theorem receives_at_most_once (hk : book.Shaped) (receipt : Id) (calls : List (ℕ × BojOp)) :
    (history perform book calls).countP (receives receipt) ≤ 1 := by
  refine (countP_history_le_one Shaped (fun book => receipt ∈ book.appliedFundsReceipts)
    (receives receipt) ?_ ?_ calls hk).1
  · intro s call outcome t hs h
    obtain ⟨hdone, ht⟩ := perform_done hs h
    rcases hdone.effect.receipts with ⟨r, hop, hfresh, hinsert⟩ | ⟨hother, hsame⟩
    · refine ⟨ht, fun hmem => by simp [hinsert, hmem], ?_⟩
      intro hreceives
      obtain rfl : r.receiptId = receipt := by simpa [receives, hop] using hreceives
      exact ⟨hfresh, by simp [hinsert]⟩
    · refine ⟨ht, fun hmem => hsame ▸ hmem, ?_⟩
      intro hreceives
      unfold receives at hreceives
      split at hreceives
      · next r hop => exact absurd hop (hother r)
      · cases hreceives
  · intro s call e t hs h
    rw [perform_restores h]
    exact ⟨hs, id⟩

section Owners

variable {key : Id} {lot : JgbCollateralLot}

def OwnerKept (key : Id) (lot : JgbCollateralLot) (next : BojLiquidityBook) : Prop :=
  ∃ lot', next.collateralLots.lookup key = some lot' ∧
    lot'.ownerLegalEntityId = lot.ownerLegalEntityId

theorem ownerKept_of_eq (h : next.collateralLots = book.collateralLots)
    (hlot : book.collateralLots.lookup key = some lot) : OwnerKept key lot next :=
  ⟨lot, by rw [h, hlot], rfl⟩

theorem Done.owner {op : BojOp} (h : Done now op book next)
    (hlot : book.collateralLots.lookup key = some lot) :
    OwnerKept key lot next ∨ ∃ r lot', op = .settleSimultaneousCollateralDvp r ∧ r.lotId = key ∧
      next.collateralLots.lookup key = some lot' ∧
      lot.ownerLegalEntityId = r.sellerLegalEntityId ∧
      lot'.ownerLegalEntityId = r.buyerLegalEntityId := by
  rcases h.rows with ⟨r, _, he⟩ | ⟨_, ht⟩
  · exact .inl (ownerKept_of_eq he.lots hlot)
  · rcases ht.lots key with hsame | ⟨_, lot', hlot', _, _, hwritten⟩
    · exact .inl ⟨lot, hsame.trans hlot, rfl⟩
    · rcases (hwritten lot hlot).1 with hop | howner
      · have heffect := h.effect
        cases op with
        | settleSimultaneousCollateralDvp r =>
          obtain ⟨_, _, was, _, hdelivers⟩ := heffect
          have hlots := hdelivers.lots
          rw [hlots] at hlot'
          rcases lookup_insert_cases hlot' with ⟨rfl, rfl⟩ | ⟨hne, hold⟩
          · obtain rfl := Option.some.inj (hlot.symm.trans hdelivers.lot_found)
            refine .inr ⟨r, _, rfl, rfl, by rw [hlots, lookup_insert], hdelivers.owner, rfl⟩
          · refine .inl ⟨lot, by rw [hlots, lookup_insert_ne hne, hlot], rfl⟩
        | _ => simp [BojOp.delivers] at hop
      · exact .inl ⟨lot', hlot', howner⟩

end Owners

/-- After any calls from the empty book, balances less overdrafts are the
registered balances plus the applied receipts, with no receipt applied twice; no
one has a balance and an overdraft; and the next call, whatever it is, changes
the owner of a lot only by a successful delivery from its seller to its buyer. -/
theorem money_conserved (calls : List (ℕ × BojOp)) :
    let book := run perform BojLiquidityBook.empty calls
    let accepted := history perform BojLiquidityBook.empty calls
    book.net = (accepted.map fun step => step.op.2.registered).sum +
        (accepted.map fun step => step.op.2.received).sum ∧
      (∀ receipt, accepted.countP (receives receipt) ≤ 1) ∧
      (∀ entity p, book.participants.lookup entity = some p →
        p.currentAccountBalanceYen = 0 ∨ p.intradayOverdraftYen = 0) ∧
      ∀ call result next, perform call book = (result, next) →
        ∀ key lot, book.collateralLots.lookup key = some lot →
          OwnerKept key lot next ∨
            ∃ r lot', call.2 = .settleSimultaneousCollateralDvp r ∧ result.isOk = true ∧
              r.lotId = key ∧ next.collateralLots.lookup key = some lot' ∧
              lot.ownerLegalEntityId = r.sellerLegalEntityId ∧
              lot'.ownerLegalEntityId = r.buyerLegalEntityId := by
  intro book accepted
  have hk : book.Shaped := run_shaped calls
  refine ⟨?_, fun receipt => receives_at_most_once empty_shaped receipt calls, ?_, ?_⟩
  · have hnet : book.net = _ := run_eq_add_history net
      (fun call : ℕ × BojOp => call.2.registered + call.2.received)
      (fun s call outcome t hs h =>
        ⟨(perform_done hs h).2, (perform_done hs h).1.effect.net⟩)
      (fun _ _ _ _ _ h => perform_restores h) calls empty_shaped
    rw [hnet, List.sum_map_add]
    simp [net, BojLiquidityBook.empty, accepted]
  · intro entity p hp
    have hcash := (hk.participants entity p hp).2.2.2.2.2
    tauto
  · intro call result next h key lot hlot
    cases result with
    | ok =>
      rcases (perform_done hk h).1.owner hlot with hkept | ⟨r, lot', hop, hmoved⟩
      · exact Or.inl hkept
      · exact Or.inr ⟨r, lot', hop, rfl, hmoved⟩
    | error => exact Or.inl (ownerKept_of_eq (by rw [perform_restores h]) hlot)

end BojLiquidityBook

section Sample

theorem money_conserved_sample :
    (history BojLiquidityBook.perform BojLiquidityBook.empty
        (sampleOpening ++ sampleTrade)).length = 5 ∧
      (run BojLiquidityBook.perform BojLiquidityBook.empty
        (sampleOpening ++ sampleTrade)).net = 90 := by
  refine ⟨by decide +kernel, ?_⟩
  rw [(BojLiquidityBook.money_conserved (sampleOpening ++ sampleTrade)).1]
  decide +kernel

end Sample
end DeFMI.Boj
