import DeFMI.Boj.Turns
set_option autoImplicit false

/-!
Coverage of participants: what the central bank is owed or has promised never
exceeds the pledged collateral because of an operation that succeeded, lots
being revalued apart.
-/

namespace DeFMI.Boj
open Lib InPlace AList List Option BojOp

namespace BojLiquidityBook

/-- Other exposure, overdraft and live reservations are within the collateral,
as the code computes them. -/
def Covered (book : BojLiquidityBook) (entity : Id) (now : ℕ) : Prop :=
  ∃ p reserved worth, book.participants.lookup entity = some p ∧
    book.liveReserved entity now = .ok reserved ∧ book.collateralValue entity = .ok worth ∧
    p.otherSecuredExposureYen + p.intradayOverdraftYen + reserved ≤ worth

variable {book next : BojLiquidityBook} {entity : Id} {now : ℕ}

theorem covered_iff (hk : book.Shaped) : book.Covered entity now ↔
    ∃ q, book.positions.lookup entity = some q ∧
      q.exposure + q.overdraft + book.reserved entity now ≤ book.collateral entity ∧
      book.collateral entity < 2 ^ 64 := by
  constructor
  · rintro ⟨p, reserved, worth, hp, hreserved, hworth, hle⟩
    obtain ⟨rfl, _⟩ := liveReserved_ok hreserved
    obtain ⟨rfl, hlt⟩ := collateralValue_ok hworth
    exact ⟨p.position, position_of_lookup hp, hle, hlt⟩
  · rintro ⟨q, hq, hle, hlt⟩
    rw [positions_lookup, map_eq_some_iff] at hq
    obtain ⟨p, hp, rfl⟩ := hq
    exact ⟨p, _, _, hp, liveReserved_of_lt (by omega), collateralValue_of_lt hk.worth hlt, hle⟩

theorem Covered.later {later : ℕ} (hk : book.Shaped) (h : now ≤ later)
    (hc : book.Covered entity now) : book.Covered entity later := by
  rw [covered_iff hk] at hc ⊢
  obtain ⟨q, hq, hle, hlt⟩ := hc
  have hmono : book.reserved entity later ≤ book.reserved entity now := reserved_mono h
  exact ⟨q, hq, by omega, hlt⟩

theorem Covered.of_le (hk : book.Shaped) (hk' : next.Shaped) (hc : book.Covered entity now)
    (hq : ∀ q, book.positions.lookup entity = some q → ∃ q', next.positions.lookup entity = some q' ∧
      q'.exposure + q'.overdraft ≤ q.exposure + q.overdraft)
    (hreserved : next.reserved entity now ≤ book.reserved entity now)
    (hcollateral : next.collateral entity = book.collateral entity) : next.Covered entity now := by
  rw [covered_iff hk] at hc
  rw [covered_iff hk']
  obtain ⟨q, hposition, hle, hlt⟩ := hc
  obtain ⟨q', hposition', hle'⟩ := hq q hposition
  exact ⟨q', hposition', by omega, by omega⟩

theorem Covered.of_rows {reservations : Table Id IntradayReservation} (hk : book.Shaped)
    (hk' : next.Shaped) (h : Rows book.collateralLots reservations book next)
    (hreserved : next.reserved entity now ≤ book.reserved entity now)
    (hc : book.Covered entity now) : next.Covered entity now := by
  refine hc.of_le hk hk' ?_ hreserved ?_
  · intro q hq
    exact ⟨q, (h.positions entity).trans hq, Nat.le_refl _⟩
  · unfold collateral
    rw [h.lots]

theorem Covered.of_puts {was q : Position} (hk : book.Shaped) (hk' : next.Shaped)
    (h : Puts entity q book next) (hwas : book.positions.lookup entity = some was)
    (hle : q.exposure + q.overdraft ≤ was.exposure + was.overdraft)
    (hc : book.Covered entity now) : next.Covered entity now := by
  refine hc.of_le hk hk' ?_ ?_ ?_
  · intro q' hq'
    obtain rfl := some.inj (hwas.symm.trans hq')
    exact ⟨q, by rw [h.positions, lookup_insert], hle⟩
  · simp only [reserved, h.reservations, Nat.le_refl]
  · simp only [collateral, h.lots]

end BojLiquidityBook

/-- The operations the coverage of `entity` may be lost by. -/
def BojOp.unsettles (entity : Id) : BojOp → Bool
  | .registerParticipant r => r.participant.legalEntityId = entity
  | .revalueCollateral _ => true
  | _ => false

namespace BojLiquidityBook

variable {book next : BojLiquidityBook} {entity : Id} {now : ℕ}

namespace Delivers

variable {r : SimultaneousCollateralDvp} {buyer seller : Position} {lot : JgbCollateralLot}
  {consumed : ℕ}

theorem collateral (h : Delivers r now buyer seller lot consumed book next) (entity : Id) :
    next.collateral entity +
        (if r.sellerLegalEntityId = entity ∧ lot.pledged = true then lot.value else 0) =
      book.collateral entity +
        (if r.buyerLegalEntityId = entity ∧ r.buyerPledgesOnReceipt = true then lot.value
          else 0) := by
  have hmoved := collateral_insert entity h.lots h.lot_found
  simpa only [JgbCollateralLot.backs, JgbCollateralLot.value, h.owner] using hmoved

theorem reserved (h : Delivers r now buyer seller lot consumed book next) (entity : Id) :
    next.reserved entity now + (if r.buyerLegalEntityId = entity then consumed else 0) =
      book.reserved entity now := by
  rcases h.reservations with ⟨rfl, hrows⟩ | ⟨v, hv, hentity, hlive, rfl, draw, hrows⟩
  · unfold BojLiquidityBook.reserved
    rw [hrows]
    simp
  · have hmoved := reserved_insert entity now hrows hv
    rw [holds_of_not_active entity now (r := { v with status := .consumed, consumedYen := draw })
      (by simp)] at hmoved
    simpa [IntradayReservation.holds, hentity, hlive] using hmoved

theorem covered (hk' : next.Shaped) (h : Delivers r now buyer seller lot consumed book next) :
    next.Covered r.buyerLegalEntityId now ∧ next.Covered r.sellerLegalEntityId now := by
  have hne := h.parties
  have hbuyer := h.buyer_covered
  have hbound := h.buyer_bound
  have hseller := h.seller_covered
  have hsbound := h.seller_bound
  constructor
  · have hcollateral := h.collateral r.buyerLegalEntityId
    have hreserved := h.reserved r.buyerLegalEntityId
    simp only [hne.symm, false_and, if_false, true_and, if_true] at hcollateral hreserved
    rw [covered_iff hk', h.positions, lookup_insert_ne hne, lookup_insert]
    refine ⟨_, rfl, ?_, ?_⟩
    · simp only
      omega
    · omega
  · have hcollateral := h.collateral r.sellerLegalEntityId
    have hreserved := h.reserved r.sellerLegalEntityId
    simp only [hne, false_and, if_false, true_and] at hcollateral hreserved
    rw [covered_iff hk', h.positions, lookup_insert]
    refine ⟨_, rfl, ?_, ?_⟩
    · simp only
      omega
    · omega

end Delivers

theorem delivery_covered {r : SimultaneousCollateralDvp} (hk' : next.Shaped)
    (h : Effect now (.settleSimultaneousCollateralDvp r) book next)
    (hparty : entity ∈ (BojOp.settleSimultaneousCollateralDvp r).parties book) :
    next.Covered entity now := by
  obtain ⟨buyer, seller, lot, consumed, hdelivers⟩ := h
  obtain ⟨hbuyer, hseller⟩ := hdelivers.covered hk'
  simp only [parties, expects, map_cons, map_nil, mem_cons,
    not_mem_nil, or_false] at hparty
  rcases hparty with rfl | rfl
  · exact hbuyer
  · exact hseller

theorem mem_returnCollateral_parties {r : ReturnCollateral} :
    entity ∈ (BojOp.returnCollateral r).parties book ↔
      ∃ lot, book.collateralLots.lookup r.lotId = some lot ∧ lot.ownerLegalEntityId = entity := by
  cases hlot : book.collateralLots.lookup r.lotId with
  | none => simp [parties, expects, hlot]
  | some => simp [parties, expects, hlot, eq_comm]

theorem reserve_covered {r : ReserveIntradayLiquidity} (hk' : next.Shaped)
    (h : Effect now (.reserveIntradayLiquidity r) book next) :
    next.Covered r.legalEntityId now := by
  obtain ⟨hfresh, hexpires, ⟨q, hq, hle⟩, hlt, hrows⟩ := h
  have hreserved := reserved_insert_fresh r.legalEntityId now hrows.reservations hfresh
  simp only [IntradayReservation.holds, IntradayReservation.isLive, hexpires, and_self,
    decide_true, if_true] at hreserved
  rw [covered_iff hk']
  simp only [collateral, hrows.lots] at hle hlt ⊢
  exact ⟨q, (hrows.positions _).trans hq, by omega, hlt⟩

theorem return_covered {r : ReturnCollateral} {lot : JgbCollateralLot} (hk' : next.Shaped)
    (h : Effect now (.returnCollateral r) book next)
    (hlot : book.collateralLots.lookup r.lotId = some lot) :
    next.Covered lot.ownerLegalEntityId now := by
  obtain ⟨lot', q, hlot', _, hpledged, hq, hle, hlt, hrows⟩ := h
  rw [hlot] at hlot'
  cases hlot'
  have hcollateral := collateral_insert lot.ownerLegalEntityId hrows.lots hlot
  simp only [JgbCollateralLot.backs, hpledged, and_self, if_true, Bool.false_eq_true, and_false,
    if_false] at hcollateral
  rw [covered_iff hk']
  simp only [reserved, hrows.reservations] at hle ⊢
  exact ⟨q, (hrows.positions _).trans hq, by omega, by omega⟩

/-- The participants an operation is about stay covered, each operation for its own reason. -/
theorem Effect.covered {op : BojOp} (hk : book.Shaped) (hk' : next.Shaped)
    (h : Effect now op book next) (hop : op.unsettles entity = false)
    (hparty : entity ∈ op.parties book) (hc : book.Covered entity now) :
    next.Covered entity now := by
  cases op with
  | registerParticipant => simp [parties, expects] at hparty
  | pledgeCollateral r =>
    obtain rfl : entity = r.lot.ownerLegalEntityId := mem_singleton.mp hparty
    obtain ⟨hfresh, hbound, hrows⟩ := h
    have hcollateral := collateral_insert_fresh r.lot.ownerLegalEntityId hrows.lots hfresh
    rw [covered_iff hk] at hc
    rw [covered_iff hk']
    obtain ⟨q, hq, hle, hlt⟩ := hc
    refine ⟨q, (hrows.positions _).trans hq, ?_, hbound⟩
    simp only [reserved, hrows.reservations] at hle ⊢
    omega
  | revalueCollateral => simp [unsettles] at hop
  | reserveIntradayLiquidity r =>
    obtain rfl : entity = r.legalEntityId := mem_singleton.mp hparty
    exact reserve_covered hk' h
  | releaseIntradayLiquidity r =>
    obtain ⟨v, hv, hrows⟩ := h
    refine hc.of_rows hk hk' hrows ?_
    have hreserved := reserved_insert entity now hrows.reservations hv
    rw [holds_of_not_active entity now (r := { v with status := .released }) (by simp)]
      at hreserved
    omega
  | returnCollateral =>
    obtain ⟨lot, hlot, rfl⟩ := mem_returnCollateral_parties.mp hparty
    exact return_covered hk' h hlot
  | applyFundsReceipt r =>
    obtain rfl : entity = r.legalEntityId := mem_singleton.mp hparty
    obtain ⟨_, _, q, hq, hputs⟩ := h
    exact hc.of_puts hk hk' hputs hq (by simp only; omega)
  | updateOtherSecuredExposure r =>
    obtain rfl : entity = r.legalEntityId := mem_singleton.mp hparty
    obtain ⟨q, hq, hincrease, hputs, _⟩ := h
    rcases hincrease with hless | hcovered
    · exact hc.of_puts hk hk' hputs hq (by simp only; omega)
    · rw [covered_iff hk] at hc
      rw [covered_iff hk', hputs.positions, lookup_insert]
      obtain ⟨_, _, _, hlt⟩ := hc
      simp only [collateral, reserved, hputs.lots, hputs.reservations] at hcovered hlt ⊢
      exact ⟨_, rfl, hcovered, hlt⟩
  | openBusinessDay | endBusinessDay =>
    exact hc.of_rows hk hk' h (reserved_releaseAll entity now h.reservations)
  | settleSimultaneousCollateralDvp => exact delivery_covered hk' h hparty

theorem Done.covered {op : BojOp} (hk : book.Shaped) (hk' : next.Shaped)
    (h : Done now op book next) (hop : op.unsettles entity = false)
    (hc : book.Covered entity now) : next.Covered entity now := by
  rcases h.rows with ⟨r, rfl, he⟩ | ⟨_, ht⟩
  · have hne : entity ≠ r.participant.legalEntityId := by
      rintro rfl
      simp [unsettles] at hop
    refine hc.of_le hk hk' ?_ ?_ ?_
    · intro q hq
      refine ⟨q, ?_, Nat.le_refl _⟩
      rwa [positions_lookup, he.participants, lookup_insert_ne hne, ← positions_lookup]
    · simp only [reserved, he.reservations, Nat.le_refl]
    · simp only [collateral, he.lots]
  · by_cases hparty : entity ∈ op.parties book
    · exact h.effect.covered hk hk' hop hparty hc
    · obtain ⟨hcollateral, hreserved⟩ := ht.same_sums hparty now
      refine hc.of_le hk hk' ?_ (Nat.le_of_eq hreserved) hcollateral
      intro q hq
      refine ⟨q, ?_, Nat.le_refl _⟩
      rwa [positions_lookup, ht.others entity hparty, ← positions_lookup]

/-- New credit to `entity`, or collateral taken from it: a higher overdraft, a
new reservation, a lot that is no longer pledged or no longer its own. -/
def Draws (entity : Id) (book next : BojLiquidityBook) : Prop :=
  (∃ p p', book.participants.lookup entity = some p ∧ next.participants.lookup entity = some p' ∧
      p.intradayOverdraftYen < p'.intradayOverdraftYen) ∨
    (∃ key r, key ∉ book.reservations ∧ next.reservations.lookup key = some r ∧
      r.legalEntityId = entity) ∨
    ∃ key lot lot', book.collateralLots.lookup key = some lot ∧
      lot.ownerLegalEntityId = entity ∧ next.collateralLots.lookup key = some lot' ∧
      (lot.pledged = true ∧ lot'.pledged = false ∨ lot'.ownerLegalEntityId ≠ entity)

/-- Only some operations draw, and only on the participants they are about. -/
theorem Turned.draws {op : BojOp} (h : Turned now op book next)
    (hdraws : Draws entity book next) : entity ∈ op.parties book ∧ op.draws = true := by
  rcases hdraws with ⟨p, p', hp, hp', hlt⟩ | ⟨key, v, hfresh, hv, rfl⟩ |
    ⟨key, lot, lot', hlot, rfl, hlot', hgone⟩
  · rcases h.cases entity with ⟨hparty, q, q', hq, hq', hturn, _⟩ | ⟨_, hsame⟩
    · obtain rfl := some.inj (hp.symm.trans hq)
      obtain rfl := some.inj (hp'.symm.trans hq')
      refine ⟨hparty, ?_⟩
      by_contra hop
      have hle := hturn.undrawn (by simpa using hop)
      omega
    · obtain rfl := some.inj (hp'.symm.trans (hsame.trans hp))
      omega
  · rcases h.reservations.rows hv with hold | ⟨hparty, _, hreserves | ⟨hkey, _⟩⟩
    · exact absurd (Table.mem_of_lookup hold) hfresh
    · exact ⟨hparty, by cases op <;> simp_all [reserves, draws]⟩
    · exact absurd hkey hfresh
  · have hmoved : lot' ≠ lot := by
      grind
    constructor
    · by_contra hparty
      exact hmoved (some.inj (hlot'.symm.trans ((h.lots.frame hparty).mp hlot)))
    · rcases h.lots.rows hlot' with hold | ⟨_, _, hwritten⟩
      · exact absurd (some.inj (hold.symm.trans hlot)) hmoved
      · obtain ⟨howner, hdraws | hpledged⟩ := hwritten lot hlot
        · exact hdraws
        · rcases hgone with ⟨hwas, hnot⟩ | hother
          · simp [hpledged hwas] at hnot
          · cases op <;> simp_all [delivers, draws]

theorem Enrolled.not_draws {p : BojParticipant} (h : Enrolled p book next) :
    ¬ Draws entity book next := by
  grind [Draws, Enrolled]

theorem Done.draws_covered {op : BojOp} (hk' : next.Shaped) (h : Done now op book next)
    (hdraws : Draws entity book next) : next.Covered entity now := by
  rcases h.rows with ⟨r, rfl, he⟩ | ⟨_, ht⟩
  · exact absurd hdraws he.not_draws
  · obtain ⟨hparty, hop⟩ := ht.draws hdraws
    have heffect := h.effect
    cases op with
    | reserveIntradayLiquidity r =>
      obtain rfl : entity = r.legalEntityId := mem_singleton.mp hparty
      exact reserve_covered hk' heffect
    | returnCollateral =>
      obtain ⟨lot, hlot, rfl⟩ := mem_returnCollateral_parties.mp hparty
      exact return_covered hk' heffect hlot
    | settleSimultaneousCollateralDvp => exact delivery_covered hk' heffect hparty
    | _ => simp [draws] at hop

theorem run_covered {t final : ℕ} {later : List (ℕ × BojOp)} (hk : book.Shaped)
    (htimes : (t :: later.map Prod.fst).IsChain (· ≤ ·))
    (hfinal : ∀ now ∈ t :: later.map Prod.fst, now ≤ final) (hc : book.Covered entity t)
    (hops : ∀ step ∈ history perform book later, step.op.2.unsettles entity = false) :
    (run perform book later).Covered entity final := by
  induction later generalizing book t with
  | nil => exact hc.later hk (hfinal t (by simp))
  | cons call later ih =>
    obtain ⟨hle, htail⟩ : t ≤ call.1 ∧ (call.1 :: later.map Prod.fst).IsChain (· ≤ ·) := by
      simpa using htimes
    have hfinal' : ∀ now ∈ call.1 :: later.map Prod.fst, now ≤ final := by
      intro now hnow
      exact hfinal now (mem_cons_of_mem _ hnow)
    cases h : perform call book with
    | mk result next =>
      rw [run_cons_eq h]
      cases result with
      | ok =>
        rw [history_cons_ok h] at hops
        obtain ⟨hdone, hk'⟩ := perform_done hk h
        have hop := hops _ mem_cons_self
        refine ih hk' htail hfinal' ?_ fun step hstep => hops step (mem_cons_of_mem _ hstep)
        exact hdone.covered hk hk' hop (hc.later hk hle)
      | error =>
        rw [history_cons_error h] at hops
        obtain rfl := perform_restores h
        exact ih hk htail hfinal' (hc.later hk hle) hops

/-- From the empty book on: a successful operation at `now` keeps covered
everyone who was covered at an earlier time `t` (its own registration and
revaluations apart), leaves covered everyone it draws on, and so a covered
participant stays covered along every later run with rising times. -/
theorem coverage_kept (calls : List (ℕ × BojOp)) (entity : Id) :
    let book := run perform BojLiquidityBook.empty calls
    (∀ t now op outcome next, t ≤ now → perform (now, op) book = (.ok outcome, next) →
      (op.unsettles entity = false → book.Covered entity t → next.Covered entity now) ∧
        (Draws entity book next → next.Covered entity now)) ∧
      ∀ t later final, (t :: later.map Prod.fst).IsChain (· ≤ ·) →
        (∀ now ∈ t :: later.map Prod.fst, now ≤ final) → book.Covered entity t →
        (∀ step ∈ history perform book later, step.op.2.unsettles entity = false) →
        (run perform book later).Covered entity final := by
  intro book
  have hk : book.Shaped := run_shaped calls
  constructor
  · intro t now op outcome next hle h
    obtain ⟨hdone, hk'⟩ := perform_done hk h
    exact ⟨fun hop hc => hdone.covered hk hk' hop (hc.later hk hle),
      fun hdraws => hdone.draws_covered hk' hdraws⟩
  · intro t later final htimes hfinal hc hops
    exact run_covered hk htimes hfinal hc hops

end BojLiquidityBook

section Sample

instance BojLiquidityBook.Covered.decidable (book : BojLiquidityBook) (entity : Id) (now : ℕ) :
    Decidable (book.Covered entity now) :=
  match hp : book.participants.lookup entity, hr : book.liveReserved entity now,
      hc : book.collateralValue entity with
  | some p, .ok reserved, .ok worth =>
    decidable_of_iff (p.otherSecuredExposureYen + p.intradayOverdraftYen + reserved ≤ worth) (by
      constructor
      · intro h
        exact ⟨p, reserved, worth, hp, hr, hc, h⟩
      · rintro ⟨p', reserved', worth', hp', hr', hc', h⟩
        rw [hp] at hp'
        rw [hr] at hr'
        rw [hc] at hc'
        cases hp'
        cases hr'
        cases hc'
        exact h)
  | none, _, _ => isFalse (by rintro ⟨p', _, _, hp', _⟩; rw [hp] at hp'; cases hp')
  | some _, .error _, _ => isFalse (by rintro ⟨_, r', _, _, hr', _⟩; rw [hr] at hr'; cases hr')
  | some _, .ok _, .error _ =>
    isFalse (by rintro ⟨_, _, c', _, _, hc', _⟩; rw [hc] at hc'; cases hc')

/-- The buyer draws on the lot that it buys. -/
theorem coverage_kept_sample :
    let book := run BojLiquidityBook.perform BojLiquidityBook.empty sampleOpening
    book.Covered (bojId 1) 2 ∧ (history BojLiquidityBook.perform book sampleTrade).length = 2 ∧
      (run BojLiquidityBook.perform book sampleTrade).Covered (bojId 1) 6 := by
  intro book
  have hcovered : book.Covered (bojId 1) 2 := by decide +kernel
  refine ⟨hcovered, by decide +kernel, ?_⟩
  refine (BojLiquidityBook.coverage_kept sampleOpening (bojId 1)).2 2 sampleTrade 6 ?_ ?_
    hcovered ?_
  · decide
  · decide
  · decide +kernel

end Sample
end DeFMI.Boj
