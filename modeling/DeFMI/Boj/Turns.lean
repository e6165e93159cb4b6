import DeFMI.Boj.Effects
set_option autoImplicit false

/-!
What each operation of the liquidity book does: its effect on money and collateral, and
the rows it writes. The participants it names are moved on by one, everything about the
others stays as it was, and what is written passes the checks of the stored book.
-/

namespace DeFMI.Boj
open Lib Table AList JgbCollateralLot

namespace BojOp

/-- The participants an operation is about, with the sequence it expects of each. -/
def expects (book : BojLiquidityBook) : BojOp → List (Id × ℕ)
  | .registerParticipant _ => []
  | .pledgeCollateral r => [(r.lot.ownerLegalEntityId, r.expectedParticipantSequence)]
  | .revalueCollateral r => (book.collateralLots.lookup r.lotId).toList.map fun lot =>
    (lot.ownerLegalEntityId, r.expectedParticipantSequence)
  | .reserveIntradayLiquidity r => [(r.legalEntityId, r.expectedParticipantSequence)]
  | .releaseIntradayLiquidity r => [(r.legalEntityId, r.expectedParticipantSequence)]
  | .returnCollateral r => (book.collateralLots.lookup r.lotId).toList.map fun lot =>
    (lot.ownerLegalEntityId, r.expectedParticipantSequence)
  | .applyFundsReceipt r => [(r.legalEntityId, r.expectedParticipantSequence)]
  | .updateOtherSecuredExposure r => [(r.legalEntityId, r.expectedParticipantSequence)]
  | .openBusinessDay r => [(r.legalEntityId, r.expectedParticipantSequence)]
  | .settleSimultaneousCollateralDvp r =>
    [(r.buyerLegalEntityId, r.expectedBuyerSequence),
      (r.sellerLegalEntityId, r.expectedSellerSequence)]
  | .endBusinessDay r => [(r.legalEntityId, r.expectedParticipantSequence)]

def parties (book : BojLiquidityBook) (op : BojOp) : List Id := (op.expects book).map Prod.fst

/-- The lot an operation is about, with the sequence it expects of it. -/
def expectsLot : BojOp → Option (Id × ℕ)
  | .revalueCollateral r => some (r.lotId, r.expectedLotSequence)
  | .returnCollateral r => some (r.lotId, r.expectedLotSequence)
  | .settleSimultaneousCollateralDvp r => some (r.lotId, r.expectedLotSequence)
  | _ => none

def registers : BojOp → Bool
  | .registerParticipant _ => true
  | _ => false

def opens : BojOp → Bool
  | .openBusinessDay _ => true
  | _ => false

def closes : BojOp → Bool
  | .endBusinessDay _ => true
  | _ => false

def reserves : BojOp → Bool
  | .reserveIntradayLiquidity _ => true
  | _ => false

def delivers : BojOp → Bool
  | .settleSimultaneousCollateralDvp _ => true
  | _ => false

/-- The operations that give credit or hand collateral out. -/
def draws : BojOp → Bool
  | .reserveIntradayLiquidity _ | .returnCollateral _ | .settleSimultaneousCollateralDvp _ => true
  | _ => false

end BojOp

/-- A reservation an operation has written: a new one, or an old one that is over. -/
def IntradayReservation.Written (op : BojOp) (book : BojLiquidityBook) (key : Id)
    (v : IntradayReservation) : Prop :=
  v.Shaped key ∧ (op.reserves = true ∨ key ∈ book.reservations ∧ v.status ≠ .active)

/-- A lot an operation has written: only some operations take it from its owner's pledges. -/
def JgbCollateralLot.Written (op : BojOp) (book : BojLiquidityBook) (key : Id)
    (lot : JgbCollateralLot) : Prop :=
  lot.Shaped key ∧ ∀ was, book.collateralLots.lookup key = some was →
    (op.delivers = true ∨ lot.ownerLegalEntityId = was.ownerLegalEntityId) ∧
      (op.draws = true ∨ (was.pledged = true → lot.pledged = true))

/-- What an operation does to a participant it is about. -/
structure Turn (now : ℕ) (op : BojOp) (p p' : BojParticipant) : Prop where
  sequence : p'.sequence = p.sequence + 1
  ids : p'.legalEntityId = p.legalEntityId ∧ p'.fundsAccountId = p.fundsAccountId ∧
    p'.jgbAccountId = p.jgbAccountId
  day : op.opens = false →
    p'.businessDay = p.businessDay ∧ p'.repaymentDeadline = p.repaymentDeadline
  opened : op.opens = true → p.intradayOverdraftYen = 0 ∧ p.businessDayClosed = true ∧
    p.repaymentDeadline ≤ now ∧ p.businessDay < p'.businessDay ∧ now < p'.repaymentDeadline
  closed : p'.businessDayClosed =
    if op.opens then false else if op.closes then true else p.businessDayClosed
  closing : op.closes = true → p.businessDayClosed = false
  overdue : p'.status = .overdue ↔ op.opens = false ∧
    if op.closes then p.intradayOverdraftYen ≠ 0 else p.status = .overdue
  credit : op.reserves = true ∨ p.intradayOverdraftYen < p'.intradayOverdraftYen →
    p.businessDayClosed = false ∧ now < p.repaymentDeadline
  undrawn : op.draws = false → p'.intradayOverdraftYen ≤ p.intradayOverdraftYen
  cash : p.currentAccountBalanceYen = 0 ∨ p.intradayOverdraftYen = 0 →
    p'.currentAccountBalanceYen = 0 ∨ p'.intradayOverdraftYen = 0

theorem Turn.shaped {now : ℕ} {op : BojOp} {p p' : BojParticipant} {key : Id}
    (h : Turn now op p p') (hp : p.Shaped key) : p'.Shaped key := by
  obtain ⟨hkey, hzero, hday, hdeadline, hoverdue, hcash⟩ := hp
  obtain ⟨hentity, hfunds, hjgb⟩ := h.ids
  have hnextCash := h.cash (by tauto)
  have hclosed := h.closed
  have hnextOverdue := h.overdue
  unfold BojParticipant.Shaped
  rw [hentity, hfunds, hjgb]
  cases hopens : op.opens with
  | true =>
    obtain ⟨_, _, _, hlater, hnow⟩ := h.opened hopens
    simp only [hopens] at hnextOverdue
    refine ⟨hkey, hzero, by omega, by omega, ?_, by tauto⟩
    simp [hnextOverdue]
  | false =>
    obtain ⟨hsame, hsame'⟩ := h.day hopens
    simp only [hopens] at hclosed hnextOverdue
    refine ⟨hkey, hzero, by rwa [hsame], by rwa [hsame'], ?_, by tauto⟩
    cases hcloses : op.closes <;> simp_all

namespace BojLiquidityBook

variable {book next : BojLiquidityBook} {entity : Id} {now : ℕ} {op : BojOp}

/-- The sums the code makes for a participant stay within a word. -/
def Fits (book : BojLiquidityBook) (p : BojParticipant) (now : ℕ) : Prop :=
  book.collateral p.legalEntityId < 2 ^ 64 ∧
    p.otherSecuredExposureYen + p.intradayOverdraftYen + book.reserved p.legalEntityId now < 2 ^ 64

abbrev TouchesLots (op : BojOp) (book : BojLiquidityBook) (owners : List Id)
    (next : BojLiquidityBook) : Prop :=
  Touches JgbCollateralLot.ownerLegalEntityId owners (JgbCollateralLot.Written op book)
    book.collateralLots next.collateralLots

abbrev TouchesReservations (op : BojOp) (book : BojLiquidityBook) (owners : List Id)
    (next : BojLiquidityBook) : Prop :=
  Touches IntradayReservation.legalEntityId owners (IntradayReservation.Written op book)
    book.reservations next.reservations

structure Turned (now : ℕ) (op : BojOp) (book next : BojLiquidityBook) : Prop where
  parties : ∀ x ∈ op.expects book, ∃ p p', book.participants.lookup x.1 = some p ∧
    next.participants.lookup x.1 = some p' ∧ p.sequence = x.2 ∧ Turn now op p p' ∧
    (book.Fits p now → next.Fits p' now)
  others : ∀ entity, entity ∉ op.parties book →
    next.participants.lookup entity = book.participants.lookup entity
  lots : TouchesLots op book (op.parties book) next
  reservations : TouchesReservations op book (op.parties book) next

theorem turned_single {expected : ℕ} {p p' : BojParticipant}
    (hexpects : op.expects book = [(entity, expected)])
    (hp : book.participants.lookup entity = some p) (hexpected : p.sequence = expected)
    (hnext : next.participants = book.participants.insert entity p') (hturn : Turn now op p p')
    (hfits : book.Fits p now → next.Fits p' now)
    (hlots : TouchesLots op book [entity] next)
    (hreservations : TouchesReservations op book [entity] next) :
    Turned now op book next := by
  have hparties : op.parties book = [entity] := by simp [BojOp.parties, hexpects]
  constructor
  case parties => grind
  case others => grind
  case lots => rwa [hparties]
  case reservations => rwa [hparties]

/-- A refresh rewrites one status, and neither makes nor unmakes an overdue participant. -/
theorem refreshStatusByKey_eq_ok (h : book.refreshStatusByKey entity now = .ok next) :
    ∃ p status, book.participants.lookup entity = some p ∧
      (status = .overdue ↔ p.status = .overdue) ∧ book.Fits p now ∧
      next = book.putParticipant { p with status } entity := by
  simp only [refreshStatusByKey, ok_iff] at h
  obtain ⟨p, hp, _, hworth, _, hrequired, rfl⟩ := h
  obtain ⟨rfl, hrequired⟩ := required_ok hrequired
  obtain ⟨rfl, hworth⟩ := collateralValue_ok hworth
  refine ⟨p, _, hp, ?_, ⟨hworth, hrequired⟩, rfl⟩
  split_ifs <;> simp_all

theorem Shaped.key_of_refreshed {p : BojParticipant} (hbook : book.Shaped)
    (h : book.refreshStatusByKey entity now = .ok next)
    (hp : next.participants.lookup entity = some p) : p.legalEntityId = entity := by
  obtain ⟨q, status, hq, _, _, rfl⟩ := refreshStatusByKey_eq_ok h
  obtain rfl : _ = p := by simpa [putParticipant] using hp
  exact (hbook.participants _ _ hq).1.symm

/-- Most operations write the row and refresh its status at the end. -/
theorem turned_of_refresh {mid after : BojLiquidityBook} {expected : ℕ} {p q : BojParticipant}
    (hafter : mid.refreshStatusByKey entity now = .ok after)
    (hexpects : op.expects book = [(entity, expected)])
    (hp : book.participants.lookup entity = some p) (hexpected : p.sequence = expected)
    (hmid : mid.participants = book.participants.insert entity q)
    (hnext : next.participants = after.participants ∧ next.collateralLots = after.collateralLots ∧
      next.reservations = after.reservations)
    (hturn : ∀ status, (status = .overdue ↔ q.status = .overdue) → Turn now op p { q with status })
    (hlots : TouchesLots op book [entity] mid)
    (hreservations : TouchesReservations op book [entity] mid) :
    Turned now op book next := by
  obtain ⟨q', status, hq, hstatus, hfits, rfl⟩ := refreshStatusByKey_eq_ok hafter
  obtain rfl : q = q' := by simpa [hmid] using hq
  obtain ⟨hparticipants, hnextLots, hnextReservations⟩ := hnext
  refine turned_single hexpects hp hexpected ?_ (hturn status hstatus) ?_ (by rwa [TouchesLots, hnextLots])
    (by rwa [TouchesReservations, hnextReservations])
  · rw [hparticipants, putParticipant, hmid, insert_insert]
  · intro _
    unfold Fits collateral reserved
    rwa [hnextLots, hnextReservations]

/-- The others refresh the status first and write the refreshed row. -/
theorem turned_of_refreshed {mid : BojLiquidityBook} {expected : ℕ} {q p' : BojParticipant}
    (hmid : book.refreshStatusByKey entity now = .ok mid)
    (hexpects : op.expects book = [(entity, expected)])
    (hq : mid.participants.lookup entity = some q) (hexpected : q.sequence = expected)
    (hnext : next.participants = mid.participants.insert entity p')
    (hturn : ∀ p status, (status = .overdue ↔ p.status = .overdue) → q = { p with status } →
      Turn now op p p') (hfits : mid.Fits q now → next.Fits p' now)
    (hlots : TouchesLots op mid [entity] next)
    (hreservations : TouchesReservations op mid [entity] next) :
    Turned now op book next := by
  obtain ⟨p, status, hp, hstatus, _, rfl⟩ := refreshStatusByKey_eq_ok hmid
  obtain rfl : _ = q := by simpa [putParticipant] using hq
  refine turned_single hexpects hp hexpected ?_ (hturn p status hstatus rfl) hfits hlots
    hreservations
  rw [hnext, putParticipant, insert_insert]

section Operations

variable {headroom left value : ℕ} {status : ParticipantStatus}

attribute [local simp] BojOp.opens BojOp.closes BojOp.reserves BojOp.draws

theorem reserved_putReservation_le (entity : Id) (now : ℕ) {v : IntradayReservation} {key : Id}
    (hfresh : key ∉ book.reservations) :
    (book.putReservation v key).reserved entity now ≤ v.amountYen + book.reserved entity now := by
  rw [reserved_insert_fresh entity now rfl hfresh]
  unfold IntradayReservation.holds
  split <;> omega

theorem collateral_putLot_le {entity key : Id} {old lot : JgbCollateralLot}
    (hold : book.collateralLots.lookup key = some old) (h : lot.backs entity ≤ old.backs entity) :
    (book.putLot lot key).collateral entity ≤ book.collateral entity := by
  have hsum := collateral_insert entity (by rfl : (book.putLot lot key).collateralLots = _) hold
  omega

theorem applyFundsReceipt_ok {r : ApplyFundsReceipt} {outcome : FundsReceiptOutcome}
    (h : book.applyFundsReceipt r now = .ok (outcome, next)) :
    Effect now (.applyFundsReceipt r) book next ∧ Turned now (.applyFundsReceipt r) book next := by
  simp only [applyFundsReceipt, ok_iff, checkedAdd_eq_some, Prod.mk.injEq, checkSequence_eq_ok] at h
  obtain ⟨_, _, hfresh, p, hp, hexpected, _, ⟨rfl, _⟩, _, hn, mid, hmid, _, rfl⟩ := h
  obtain rfl := bumped_eq_ok hn
  constructor
  · obtain ⟨hrefresh, _⟩ := refreshStatusByKey_ok hmid
    refine ⟨hfresh, ?_, p.position, position_of_lookup hp, ?_⟩
    · simp only [applied, hrefresh.receipts, putParticipant]
    · have hputs := Puts.trans (puts_putParticipant (by rfl)) hrefresh
      exact ⟨hputs.positions, hputs.lots, hputs.reservations⟩
  · refine turned_of_refresh hmid rfl hp hexpected rfl ⟨rfl, rfl, rfl⟩ ?_ (.refl _) (.refl _)
    intro status hstatus
    constructor <;> simp [hstatus]
    case cash => omega

theorem updateOtherSecuredExposure_ok {r : UpdateOtherSecuredExposure}
    (h : book.updateOtherSecuredExposure r now = .ok (headroom, next)) :
    Effect now (.updateOtherSecuredExposure r) book next ∧
      Turned now (.updateOtherSecuredExposure r) book next := by
  simp only [updateOtherSecuredExposure, ok_iff, Prod.mk.injEq, checkSequence_eq_ok] at h
  obtain ⟨_, _, p, hp, hexpected, required, hrequired, hcovers, _, hn, mid, hmid, _, _, _, rfl⟩ := h
  obtain rfl := bumped_eq_ok hn
  constructor
  · obtain ⟨rfl, _⟩ := required_ok hrequired
    have hsame := (refreshStatusByKey_ok hmid).1.trans (sameMoney_applied mid r.operationId)
    exact ⟨p.position, position_of_lookup hp, coversIncrease_ok hcovers,
      Puts.trans (puts_putParticipant (by rfl)) hsame, hsame.receipts⟩
  · refine turned_of_refresh hmid rfl hp hexpected rfl ⟨rfl, rfl, rfl⟩ ?_ (.refl _) (.refl _)
    intro status hstatus
    constructor <;> simp [hstatus]

section
variable (hbook : book.Shaped)
include hbook

theorem pledgeCollateral_ok {r : PledgeCollateral}
    (h : book.pledgeCollateral r now = .ok (value, next)) :
    Effect now (.pledgeCollateral r) book next ∧ Turned now (.pledgeCollateral r) book next := by
  simp only [pledgeCollateral, ok_iff, Prod.mk.injEq, checkSequence_eq_ok] at h
  obtain ⟨_, hshape, v, hvalue, p, hp, hexpected, _, _, hn, mid, hmid, _, rfl⟩ := h
  obtain rfl := bumped_eq_ok hn
  constructor
  · obtain ⟨hrefresh, hbound⟩ := refreshStatusByKey_ok hmid
    have hsame := hrefresh.trans (sameMoney_applied mid r.operationId)
    have hput : SameMoney book (book.putParticipant { p with sequence := p.sequence + 1 }
        r.lot.ownerLegalEntityId) := sameMoney_putParticipant hp rfl
    refine ⟨hshape.2.2.2, ?_, (Rows.before hput (Rows.putLot _ _ _)).after hsame⟩
    have hlt := hbound _ (lookup_insert _)
    rw [← (hbook.participants _ p hp).1] at hlt
    rwa [hsame.collateral]
  · refine turned_of_refresh hmid rfl hp hexpected rfl ⟨rfl, rfl, rfl⟩ ?_ ?_ (.refl _)
    · intro status hstatus
      constructor <;> simp [hstatus]
    · have hnone : book.collateralLots.lookup r.lot.lotId = none :=
        lookup_eq_none.mpr hshape.2.2.2
      exact .insert (by simp [hnone]) (by simp) ⟨⟨rfl, hshape.1, v, hvalue⟩, by simp [hnone]⟩

theorem revalueCollateral_ok {r : RevalueCollateral}
    (h : book.revalueCollateral r now = .ok (value, next)) :
    Effect now (.revalueCollateral r) book next ∧ Turned now (.revalueCollateral r) book next := by
  simp only [revalueCollateral, ok_iff, Prod.mk.injEq, checkSequence_eq_ok] at h
  obtain ⟨_, lot, hlot, hlotExpected, _, _, hm, v, hvalue, p, hp, hexpected, _, hn, _, _, mid, hmid,
    _, rfl⟩ := h
  obtain rfl := bumped_eq_ok hm
  obtain rfl := bumped_eq_ok hn
  constructor
  · have hrows := ((Rows.putLot book _ r.lotId).after (sameMoney_putParticipant hp (by rfl))).after
      ((refreshStatusByKey_ok hmid).1.trans (sameMoney_applied mid r.operationId))
    exact ⟨lot, _, hlot, hlotExpected, by rfl, by rfl, by rfl, hrows⟩
  · refine turned_of_refresh hmid (by simp [BojOp.expects, hlot]) hp hexpected rfl ⟨rfl, rfl, rfl⟩
      ?_ ?_ (.refl _)
    · intro status hstatus
      constructor <;> simp [hstatus]
    · obtain ⟨⟨hkey, hzero, _⟩, _⟩ := hbook.lots _ _ hlot
      exact .insert (by simp [hlot]) (by simp) ⟨⟨hkey, hzero, v, hvalue⟩, by simp [hlot]⟩

theorem reserveIntradayLiquidity_ok {r : ReserveIntradayLiquidity}
    (h : book.reserveIntradayLiquidity r now = .ok (left, next)) :
    Effect now (.reserveIntradayLiquidity r) book next ∧
      Turned now (.reserveIntradayLiquidity r) book next := by
  simp only [reserveIntradayLiquidity, ok_iff, Prod.mk.injEq, checkSequence_eq_ok] at h
  obtain ⟨_, hshape, mid, hmid, p, hp, hexpected, hopen, headroom, hheadroom, hamount, _, hn, _,
    rfl⟩ := h
  obtain rfl := bumped_eq_ok hn
  obtain ⟨hrefresh, _⟩ := refreshStatusByKey_ok hmid
  obtain ⟨q, hq, rfl, hlt⟩ := availableHeadroom_ok hheadroom
  have hpositive : r.amountYen ≠ 0 := hshape.2.1
  have hfresh : r.reservationId ∉ mid.reservations := by
    rw [hrefresh.reservations]
    exact hshape.2.2.2
  constructor
  · rw [hrefresh.positions] at hq
    rw [hrefresh.collateral] at hlt hamount
    rw [hrefresh.reserved] at hamount
    refine ⟨hshape.2.2.2, hshape.2.2.1, ⟨q, hq, by omega⟩, hlt, ?_⟩
    rw [← hrefresh.lots, ← hrefresh.reservations]
    exact Rows.before hrefresh (((Rows.putReservation mid _ r.reservationId).after
      (sameMoney_putParticipant hp (by rfl))).after (sameMoney_applied _ r.operationId))
  · refine turned_of_refreshed hmid rfl hp hexpected rfl ?_ ?_ (.refl _) ?_
    · intro q status hstatus hrow
      subst hrow
      constructor <;> simp_all
    · intro hfits
      obtain rfl := Option.some.inj ((position_of_lookup hp).symm.trans hq)
      have hkey := hbook.key_of_refreshed hmid hp
      refine ⟨hfits.1, lt_of_le_of_lt (Nat.add_le_add_left
        (reserved_putReservation_le p.legalEntityId now hfresh) _) ?_⟩
      simp only [BojParticipant.position] at hamount
      simp only [hkey]
      omega
    · refine .insert ?_ (by simp) ⟨⟨rfl, hshape.1, hshape.2.1, ?_, by simp⟩, .inl rfl⟩
      · intro v hv
        exact absurd (mem_of_lookup hv) hfresh
      · have := hshape.2.2.1
        simp only
        omega

theorem Shaped.released {key : Id} {v : IntradayReservation}
    (hv : book.reservations.lookup key = some v) (hactive : v.status = .active) :
    ({ v with status := .released } : IntradayReservation).Written op book key := by
  grind [IntradayReservation.Shaped, IntradayReservation.Written, Shaped]

theorem Shaped.releaseAll_touches (entity : Id) :
    Touches IntradayReservation.legalEntityId [entity] (IntradayReservation.Written op book)
      book.reservations (book.releaseAll entity).reservations := by
  refine .mapValues fun key v hv => ?_
  split
  · next h => exact .inr ⟨by simp [h.1], by simp [h.1], hbook.released hv h.2⟩
  · exact .inl rfl

theorem releaseIntradayLiquidity_ok {r : ReleaseIntradayLiquidity}
    (h : book.releaseIntradayLiquidity r now = .ok (headroom, next)) :
    Effect now (.releaseIntradayLiquidity r) book next ∧
      Turned now (.releaseIntradayLiquidity r) book next := by
  simp only [releaseIntradayLiquidity, ok_iff, Prod.mk.injEq, checkSequence_eq_ok] at h
  obtain ⟨_, p, hp, hexpected, v, hv, hactive, _, hn, mid, hmid, _, _, _, rfl⟩ := h
  obtain rfl := bumped_eq_ok hn
  constructor
  · exact ⟨v, hv, ((Rows.putReservation book _ r.reservationId).after
      (sameMoney_putParticipant hp (by rfl))).after
        ((refreshStatusByKey_ok hmid).1.trans (sameMoney_applied _ _))⟩
  · refine turned_of_refresh hmid rfl hp hexpected rfl ⟨rfl, rfl, rfl⟩ ?_ (.refl _) ?_
    · intro status hstatus
      constructor <;> simp [hstatus]
    · exact .insert (by simp [hv, hactive.1]) (by simp [hactive.1]) (hbook.released hv hactive.2)

theorem returnCollateral_ok {r : ReturnCollateral}
    (h : book.returnCollateral r now = .ok (left, next)) :
    Effect now (.returnCollateral r) book next ∧ Turned now (.returnCollateral r) book next := by
  simp only [returnCollateral, ok_iff, checkedSub_eq_some, Prod.mk.injEq, checkSequence_eq_ok] at h
  obtain ⟨_, lot, hlot, hlotExpected, hpledged, mid, hmid, p, hp, hexpected, _, value, hvalue,
    worth, hworth, _, ⟨hle, rfl⟩, required, hrequired, hcovered, _, hm, _, hn, _, rfl⟩ := h
  obtain rfl := bumped_eq_ok hm
  obtain rfl := bumped_eq_ok hn
  obtain ⟨hrefresh, _⟩ := refreshStatusByKey_ok hmid
  constructor
  · obtain rfl := collateralValueYen_ok hvalue
    obtain ⟨rfl, hlt⟩ := collateralValue_ok hworth
    obtain ⟨rfl, _⟩ := required_ok hrequired
    have hq := (hrefresh.positions _).symm.trans (position_of_lookup hp)
    rw [hrefresh.collateral] at hlt hle hcovered
    rw [hrefresh.reserved] at hcovered
    refine ⟨lot, p.position, hlot, hlotExpected, hpledged, hq, ?_, hlt, ?_⟩
    · simp only [BojParticipant.position]
      omega
    · rw [← hrefresh.lots, ← hrefresh.reservations]
      exact Rows.before hrefresh (((Rows.putLot mid _ r.lotId).after
        (sameMoney_putParticipant hp (by rfl))).after (sameMoney_applied _ r.operationId))
  · have hfound : mid.collateralLots.lookup r.lotId = some lot := hrefresh.lots ▸ hlot
    refine turned_of_refreshed hmid (by simp [BojOp.expects, hlot]) hp hexpected rfl ?_ ?_ ?_ (.refl _)
    · intro q status hstatus hrow
      subst hrow
      constructor <;> simp_all
    · intro hfits
      refine ⟨lt_of_le_of_lt (collateral_putLot_le hfound ?_) hfits.1, hfits.2⟩
      simp [backs]
    · obtain ⟨⟨hkey, hzero, _⟩, _⟩ := hbook.lots _ _ hlot
      exact .insert (by simp [hfound]) (by simp) ⟨⟨hkey, hzero, value, hvalue⟩,
        by simp [hfound]⟩

theorem openBusinessDay_ok {r : OpenBusinessDay}
    (h : book.openBusinessDay r now = .ok (status, next)) :
    Effect now (.openBusinessDay r) book next ∧ Turned now (.openBusinessDay r) book next := by
  simp only [openBusinessDay, ok_iff, Prod.mk.injEq, checkSequence_eq_ok] at h
  obtain ⟨_, p, hp, hexpected, hopen, _, hn, mid, hmid, _, _, _, rfl⟩ := h
  obtain rfl := bumped_eq_ok hn
  constructor
  · exact ((Rows.releaseAll book r.legalEntityId).after (sameMoney_putParticipant hp (by rfl))).after
      ((refreshStatusByKey_ok hmid).1.trans (sameMoney_applied mid r.operationId))
  · refine turned_of_refresh hmid rfl hp hexpected rfl ⟨rfl, rfl, rfl⟩ ?_ (.refl _)
      (hbook.releaseAll_touches _)
    intro status hstatus
    constructor <;> simp_all

theorem endBusinessDay_ok {r : EndBusinessDay}
    (h : book.endBusinessDay r now = .ok (status, next)) :
    Effect now (.endBusinessDay r) book next ∧ Turned now (.endBusinessDay r) book next := by
  simp only [endBusinessDay, ok_iff, Prod.mk.injEq, checkSequence_eq_ok] at h
  obtain ⟨_, p, hp, hexpected, _, hopen, _, hn, _, rfl⟩ := h
  obtain rfl := bumped_eq_ok hn
  constructor
  · exact ((Rows.releaseAll book r.legalEntityId).after (sameMoney_putParticipant hp (by rfl))).after
      (sameMoney_applied _ r.operationId)
  · refine turned_single rfl hp hexpected rfl ?_ ?_ (.refl _) (hbook.releaseAll_touches _)
    · constructor <;> simp [hopen]
    · intro hfits
      exact ⟨hfits.1, lt_of_le_of_lt (Nat.add_le_add_left (reserved_releaseAll _ _ rfl) _) hfits.2⟩

theorem settleSimultaneousCollateralDvp_ok {r : SimultaneousCollateralDvp} {outcome : DvpOutcome}
    (h : book.settleSimultaneousCollateralDvp r now = .ok (outcome, next)) :
    Effect now (.settleSimultaneousCollateralDvp r) book next ∧
      Turned now (.settleSimultaneousCollateralDvp r) book next := by
  simp only [settleSimultaneousCollateralDvp, ok_iff, Prod.mk.injEq, checkSequence_eq_ok] at h
  obtain ⟨_, hshape, first, hfirst, mid, hmid, buyer, hbuyer, seller, hseller, lot, hlot, hbseq,
    hsseq, hlseq, hopen, value, hvalue, named, hnamed, hcheckBuyer, hcheckSeller, settled, hdeliver,
    third, hthird, fourth, hfourth, _, rfl⟩ := h
  have hne : r.buyerLegalEntityId ≠ r.sellerLegalEntityId := hshape.2.2.1
  have hsame := (refreshStatusByKey_ok hfirst).1.trans (refreshStatusByKey_ok hmid).1
  have hsettled := (refreshStatusByKey_ok hthird).1.trans (refreshStatusByKey_ok hfourth).1
  obtain ⟨hparticipants, hlots, hreservations, hreceipts⟩ := deliver_ok hdeliver
  have hnamed := namedReservation_ok hnamed
  rw [hsame.lots] at hlot hlots
  constructor
  · obtain rfl := collateralValueYen_ok hvalue
    obtain ⟨hbcovered, hbbound⟩ := checkBuyer_ok hcheckBuyer
    obtain ⟨hscovered, hsbound⟩ := checkSeller_ok hcheckSeller
    rw [hsame.collateral] at hbcovered hbbound hscovered hsbound
    rw [hsame.reserved] at hbcovered hscovered
    refine ⟨buyer.position, seller.position, lot, named.2, ?_⟩
    constructor
    case parties => exact hne
    case buyer_position => exact (hsame.positions _).symm.trans (position_of_lookup hbuyer)
    case seller_position => exact (hsame.positions _).symm.trans (position_of_lookup hseller)
    case lot_found => exact hlot
    case owner => exact hopen.1
    case positions =>
      intro other
      refine (hsettled.positions other).trans ?_
      rw [positions_lookup, hparticipants]
      simp only [lookup_insert_eq_ite, ← hsame.positions, positions_lookup]
      split_ifs <;> rfl
    case lot_expected => exact hlseq
    case lots => exact hsettled.lots.trans hlots
    case reservations =>
      rcases hnamed with rfl | ⟨v, rfl, hv, hentity, hlive, _⟩
      · exact .inl ⟨rfl, hsettled.reservations.trans (hreservations.trans hsame.reservations)⟩
      · rw [hsame.reservations] at hv
        refine .inr ⟨v, hv, hentity, hlive, rfl, r.paymentYen - buyer.currentAccountBalanceYen,
          hsettled.reservations.trans (hreservations.trans ?_)⟩
        rw [← hsame.reservations]
        rfl
    case buyer_covered => exact hbcovered
    case buyer_bound => exact hbbound
    case seller_covered => exact hscovered
    case seller_bound => exact hsbound
    case receipts => exact hsettled.receipts.trans (hreceipts.trans hsame.receipts)
  · have hparties : (BojOp.settleSimultaneousCollateralDvp r).parties book =
        [r.buyerLegalEntityId, r.sellerLegalEntityId] := rfl
    constructor
    case parties =>
      obtain ⟨b, bs, hb, hbs, _, rfl⟩ := refreshStatusByKey_eq_ok hfirst
      obtain ⟨c, cs, hc, hcs, _, rfl⟩ := refreshStatusByKey_eq_ok hmid
      obtain ⟨b', bs', hb', hbs', hbfits, rfl⟩ := refreshStatusByKey_eq_ok hthird
      obtain ⟨c', cs', hc', hcs', hcfits, rfl⟩ := refreshStatusByKey_eq_ok hfourth
      clear hfirst hmid hthird hfourth hdeliver hcheckBuyer hcheckSeller hnamed hsame hsettled
      simp only [putParticipant, lookup_insert_eq_ite, hparticipants, hne, hne.symm, if_true,
        if_false, Option.some.injEq] at hbuyer hseller hc hb' hc'
      subst hbuyer hseller hb' hc'
      simp only [BojOp.expects, List.forall_mem_cons, List.not_mem_nil, false_imp_iff,
        implies_true, and_true]
      refine ⟨⟨b, _, hb, (lookup_insert_ne hne).trans (lookup_insert _), hbseq, ?_,
        fun _ => hbfits⟩, c, _, hc, lookup_insert _, hsseq, ?_, fun _ => hcfits⟩
      · constructor <;> simp_all
        case cash => omega
      · constructor <;> simp_all
        case cash => omega
    case others =>
      obtain ⟨_, _, _, _, _, rfl⟩ := refreshStatusByKey_eq_ok hfirst
      obtain ⟨_, _, _, _, _, rfl⟩ := refreshStatusByKey_eq_ok hmid
      obtain ⟨_, _, _, _, _, rfl⟩ := refreshStatusByKey_eq_ok hthird
      obtain ⟨_, _, _, _, _, rfl⟩ := refreshStatusByKey_eq_ok hfourth
      intro other hother
      simp only [hparties, List.mem_cons, List.not_mem_nil, or_false, not_or] at hother
      simp [applied, putParticipant, hparticipants, hother]
    case lots =>
      obtain ⟨⟨hkey, hzero, _⟩, _⟩ := hbook.lots _ _ hlot
      change Touches _ _ _ _ fourth.collateralLots
      rw [hsettled.lots, hlots, hparties]
      refine .insert (by simp [hlot, hopen.1]) (by simp) ⟨⟨hkey, ?_, value, hvalue⟩,
        by simp [BojOp.delivers]⟩
      simp_all [hasZero]
    case reservations =>
      change Touches _ _ _ _ fourth.reservations
      rw [hsettled.reservations, hreservations, hparties]
      rcases hnamed with rfl | ⟨v, rfl, hv, hentity, _, hdraw⟩
      · rw [consume, hsame.reservations]
        exact .refl _
      · rw [hsame.reservations] at hv
        obtain ⟨⟨hkey, hzero, hamount, hexpires, _⟩, _⟩ := hbook.reservations _ _ hv
        simp only [consume, putReservation, hsame.reservations]
        exact .insert (by simp [hv, hentity]) (by simp [hentity])
          ⟨⟨hkey, hzero, hamount, hexpires, by simp, hdraw⟩,
            .inr ⟨mem_of_lookup hv, by simp⟩⟩

end

structure Enrolled (p : BojParticipant) (book next : BojLiquidityBook) : Prop where
  fresh : p.legalEntityId ∉ book.participants
  shaped : p.Shaped p.legalEntityId
  start : p.sequence = 0 ∧ p.intradayOverdraftYen = 0 ∧ p.businessDayClosed = false ∧
    p.status = .active
  participants : next.participants = book.participants.insert p.legalEntityId p
  lots : next.collateralLots = book.collateralLots
  reservations : next.reservations = book.reservations

theorem registerParticipant_ok {r : RegisterParticipant}
    (h : book.registerParticipant r now = .ok next) :
    Effect now (.registerParticipant r) book next ∧ Enrolled r.participant book next := by
  simp only [registerParticipant, ok_iff] at h
  obtain ⟨_, hshape, hfresh, rfl⟩ := h
  obtain ⟨hzero, hday, hdeadline, hsequence, hoverdraft, hopen, hactive⟩ := hshape
  constructor
  · exact ⟨hfresh.1, hoverdraft, (puts_putParticipant rfl).trans (sameMoney_applied _ _), rfl⟩
  · refine ⟨hfresh.1, ⟨rfl, hzero, hday, by omega, ?_, ?_⟩,
      ⟨hsequence, hoverdraft, hopen, hactive⟩, rfl, rfl, rfl⟩
    · simp [hactive]
    · simp [hoverdraft]

/-- What a successful operation did: its effect, and the rows it wrote. -/
structure Done (now : ℕ) (op : BojOp) (book next : BojLiquidityBook) : Prop where
  effect : Effect now op book next
  rows : (∃ r, op = .registerParticipant r ∧ Enrolled r.participant book next) ∨
    op.registers = false ∧ Turned now op book next

theorem Done.turned (hop : op.registers = false)
    (h : Effect now op book next ∧ Turned now op book next) : Done now op book next :=
  ⟨h.1, .inr ⟨hop, h.2⟩⟩

theorem inner_done {outcome : BojOutcome} (hbook : book.Shaped)
    (h : book.inner now op = .ok (outcome, next)) : Done now op book next := by
  cases op <;> simp only [inner, map_eq_ok, Prod.mk.injEq] at h <;>
    obtain ⟨_, hinner, _, rfl⟩ := h
  case registerParticipant =>
    obtain ⟨heffect, he⟩ := registerParticipant_ok hinner
    exact ⟨heffect, .inl ⟨_, rfl, he⟩⟩
  case pledgeCollateral => exact .turned rfl (pledgeCollateral_ok hbook hinner)
  case revalueCollateral => exact .turned rfl (revalueCollateral_ok hbook hinner)
  case reserveIntradayLiquidity => exact .turned rfl (reserveIntradayLiquidity_ok hbook hinner)
  case releaseIntradayLiquidity => exact .turned rfl (releaseIntradayLiquidity_ok hbook hinner)
  case returnCollateral => exact .turned rfl (returnCollateral_ok hbook hinner)
  case applyFundsReceipt => exact .turned rfl (applyFundsReceipt_ok hinner)
  case updateOtherSecuredExposure => exact .turned rfl (updateOtherSecuredExposure_ok hinner)
  case openBusinessDay => exact .turned rfl (openBusinessDay_ok hbook hinner)
  case settleSimultaneousCollateralDvp =>
    exact .turned rfl (settleSimultaneousCollateralDvp_ok hbook hinner)
  case endBusinessDay => exact .turned rfl (endBusinessDay_ok hbook hinner)

end Operations

section
variable (h : Turned now op book next)
include h

theorem Turned.cases (entity : Id) :
    (entity ∈ op.parties book ∧ ∃ p p', book.participants.lookup entity = some p ∧
      next.participants.lookup entity = some p' ∧ Turn now op p p' ∧
      (book.Fits p now → next.Fits p' now)) ∨
    entity ∉ op.parties book ∧
      next.participants.lookup entity = book.participants.lookup entity := by
  by_cases hentity : entity ∈ op.parties book
  · obtain ⟨x, hx, rfl⟩ := List.mem_map.mp hentity
    obtain ⟨p, p', hp, hp', _, hturn⟩ := h.parties x hx
    exact .inl ⟨hentity, p, p', hp, hp', hturn⟩
  · exact .inr ⟨hentity, h.others entity hentity⟩

theorem Turned.mem (hentity : entity ∈ book.participants) : entity ∈ next.participants := by
  rcases h.cases entity with ⟨_, _, p', _, hp', _⟩ | ⟨_, hsame⟩
  · exact mem_of_lookup hp'
  · rwa [← lookup_isSome, hsame, lookup_isSome]

theorem Turned.mem_of_party (hentity : entity ∈ op.parties book) : entity ∈ next.participants := by
  rcases h.cases entity with ⟨_, _, p', _, hp', _⟩ | ⟨hother, _⟩
  · exact mem_of_lookup hp'
  · exact absurd hentity hother

theorem Turned.same_sums (hentity : entity ∉ op.parties book)
    (t : ℕ) : next.collateral entity = book.collateral entity ∧
      next.reserved entity t = book.reserved entity t := by
  constructor
  · refine total_eq_of_support fun key lot hlot => (h.lots.frame ?_).symm
    rintro howner
    simp_all [backs]
  · refine total_eq_of_support fun key v hv => (h.reservations.frame ?_).symm
    rintro hholder
    simp_all [IntradayReservation.holds]

end

/-- What an operation leaves behind on the copy passes the check of the copy. -/
theorem Done.shaped (h : Done now op book next) (hbook : book.Shaped) : next.Shaped := by
  rcases h.rows with ⟨r, _, he⟩ | ⟨_, ht⟩
  · constructor
    · rw [he.participants]
      exact forall_insert hbook.participants he.shaped
    · rw [he.participants, he.lots]
      exact fun key lot hlot => ⟨(hbook.lots key lot hlot).1, by simp [(hbook.lots key lot hlot).2]⟩
    · rw [he.participants, he.reservations]
      exact fun key v hv => ⟨(hbook.reservations key v hv).1, by simp [(hbook.reservations key v hv).2]⟩
  · constructor
    · intro key p' hp'
      rcases ht.cases key with ⟨_, p, q, hp, hq, hturn, _⟩ | ⟨_, hsame⟩
      · obtain rfl := Option.some.inj (hq.symm.trans hp')
        exact hturn.shaped (hbook.participants key p hp)
      · exact hbook.participants key p' (hsame.symm.trans hp')
    · intro key lot hlot
      rcases ht.lots.rows hlot with hold | ⟨hparty, hwritten⟩
      · exact ⟨(hbook.lots key lot hold).1, ht.mem (hbook.lots key lot hold).2⟩
      · exact ⟨hwritten.1, ht.mem_of_party hparty⟩
    · intro key v hv
      rcases ht.reservations.rows hv with hold | ⟨hparty, hwritten⟩
      · exact ⟨(hbook.reservations key v hold).1, ht.mem (hbook.reservations key v hold).2⟩
      · exact ⟨hwritten.1, ht.mem_of_party hparty⟩

theorem perform_done {call : ℕ × BojOp} {outcome : BojOutcome} (hbook : book.Shaped)
    (h : perform call book = (.ok outcome, next)) :
    Done call.1 call.2 book next ∧ next.Shaped := by
  have hdone := inner_done hbook (perform_inner h).1
  exact ⟨hdone, hdone.shaped hbook⟩

/-- The lot an operation names was at the sequence it expected and is one further. -/
theorem Effect.lot {x : Id × ℕ} (h : Effect now op book next) (hx : op.expectsLot = some x) :
    ∃ lot lot', book.collateralLots.lookup x.1 = some lot ∧ lot.sequence = x.2 ∧
      lot'.sequence = lot.sequence + 1 ∧
      next.collateralLots = book.collateralLots.insert x.1 lot' := by
  cases op <;> simp only [BojOp.expectsLot, reduceCtorEq, Option.some.injEq] at hx <;> subst hx
  case revalueCollateral =>
    obtain ⟨lot, lot', hlot, hexpected, hmoved, _, _, hrows⟩ := h
    exact ⟨lot, lot', hlot, hexpected, hmoved, hrows.lots⟩
  case returnCollateral =>
    obtain ⟨lot, _, hlot, hexpected, _, _, _, _, hrows⟩ := h
    exact ⟨lot, _, hlot, hexpected, rfl, hrows.lots⟩
  case settleSimultaneousCollateralDvp =>
    obtain ⟨_, _, lot, _, hdelivers⟩ := h
    exact ⟨lot, _, hdelivers.lot_found, hdelivers.lot_expected, rfl, hdelivers.lots⟩

theorem run_shaped (calls : List (ℕ × BojOp)) :
    (InPlace.run perform BojLiquidityBook.empty calls).Shaped :=
  InPlace.run_invariant (fun _ _ _ _ hs h => (perform_done hs h).2)
    (fun _ _ _ _ hs h => perform_restores h ▸ hs) calls empty_shaped

end BojLiquidityBook
end DeFMI.Boj
