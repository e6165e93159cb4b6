import DeFMI.Boj.Turns
set_option autoImplicit false

/-!
The business day of a participant: opened once the last one was closed, paid back and
over, and closed to new credit from its deadline on.
-/

namespace DeFMI.Boj
open Lib InPlace Table

namespace BojLiquidityBook

variable {book next : BojLiquidityBook} {entity : Id} {now : ℕ} {op : BojOp}

/-- Whoever has a reservation running has its day open. -/
def Holding (book : BojLiquidityBook) : Prop :=
  ∀ key v, book.reservations.lookup key = some v → v.status = .active →
    ∃ p, book.participants.lookup v.legalEntityId = some p ∧ p.businessDayClosed = false

theorem Effect.released (h : Effect now op book next) (hop : op.closes = true)
    (hentity : entity ∈ op.parties book) {key : Id} {v : IntradayReservation}
    (hv : next.reservations.lookup key = some v) (hholder : v.legalEntityId = entity) :
    v.status ≠ .active := by
  cases op with
  | endBusinessDay r =>
    obtain rfl : entity = r.legalEntityId := List.mem_singleton.mp hentity
    rw [h.reservations, releaseAll, lookup_mapValues, Option.map_eq_some_iff] at hv
    obtain ⟨w, _, rfl⟩ := hv
    split at hholder <;> simp_all
  | _ => simp [BojOp.closes] at hop

theorem Turned.holding (h : Turned now op book next) (heffect : Effect now op book next)
    (hold : book.Holding) : next.Holding := by
  intro key v hv hactive
  have hcases := h.cases v.legalEntityId
  rcases h.reservations.rows hv with hv' | ⟨hparty, hwritten⟩
  · obtain ⟨p, hp, hopen⟩ := hold key v hv' hactive
    rcases hcases with ⟨hparty, q, p', hq, hp', hturn, _⟩ | ⟨_, hsame⟩
    · obtain rfl := Option.some.inj (hq.symm.trans hp)
      refine ⟨p', hp', ?_⟩
      cases hcloses : op.closes with
      | false => simp [hturn.closed, hcloses, hopen]
      | true => exact absurd hactive (heffect.released hcloses hparty hv rfl)
    · exact ⟨p, hsame.trans hp, hopen⟩
  · have hreserves : op.reserves = true := by simpa [hactive] using hwritten.2
    rcases hcases with ⟨_, p, p', _, hp', hturn, _⟩ | ⟨hother, _⟩
    · refine ⟨p', hp', ?_⟩
      have hopen := (hturn.credit (Or.inl hreserves)).1
      cases op <;> simp_all [BojOp.reserves, hturn.closed, BojOp.opens, BojOp.closes]
    · exact absurd hparty hother

theorem Enrolled.holding {p : BojParticipant} (h : Enrolled p book next) (hold : book.Holding) :
    next.Holding := by
  grind [Enrolled, Holding]

structure Orderly (book : BojLiquidityBook) : Prop where
  shaped : book.Shaped
  holding : book.Holding

theorem perform_orderly {call : ℕ × BojOp} {outcome : BojOutcome} (hbook : book.Orderly)
    (h : perform call book = (.ok outcome, next)) : next.Orderly := by
  obtain ⟨hdone, hshaped⟩ := perform_done hbook.shaped h
  refine ⟨hshaped, ?_⟩
  rcases hdone.rows with ⟨r, _, he⟩ | ⟨_, ht⟩
  · exact he.holding hbook.holding
  · exact ht.holding hdone.effect hbook.holding

theorem run_orderly (calls : List (ℕ × BojOp)) :
    (run perform BojLiquidityBook.empty calls).Orderly :=
  run_invariant (fun _ _ _ _ hs h => perform_orderly hs h)
    (fun _ _ _ _ hs h => perform_restores h ▸ hs) calls
    ⟨empty_shaped, fun key v hv => by simp [BojLiquidityBook.empty] at hv⟩

/-- How one operation leaves the day of a participant that it found registered. -/
structure DayKept (now : ℕ) (op : BojOp) (party : Prop) (p p' : BojParticipant) : Prop where
  opening : op.opens = true ∧ party → p.businessDay < p'.businessDay ∧
    p.intradayOverdraftYen = 0 ∧ p.businessDayClosed = true ∧ p.repaymentDeadline ≤ now
  elsewhere : ¬(op.opens = true ∧ party) → p'.businessDay = p.businessDay
  overdraft : p.businessDayClosed = true ∨ p.repaymentDeadline ≤ now →
    p'.intradayOverdraftYen ≤ p.intradayOverdraftYen
  falls : p.status ≠ .overdue → (p'.status = .overdue ↔
    op.closes = true ∧ party ∧ p.intradayOverdraftYen ≠ 0)
  recovers : p.status = .overdue → (p'.status ≠ .overdue ↔ op.opens = true ∧ party)

theorem Turned.dayKept (h : Turned now op book next) (hbook : book.Shaped) {p : BojParticipant}
    (hp : book.participants.lookup entity = some p) :
    ∃ p', next.participants.lookup entity = some p' ∧
      DayKept now op (entity ∈ op.parties book) p p' := by
  have hoverdue : p.status = .overdue → p.businessDayClosed = true := by
    have hnot := (hbook.participants entity p hp).2.2.2.2.1
    simpa using hnot
  rcases h.cases entity with ⟨hparty, q, p', hq, hp', hturn, _⟩ | ⟨hother, hsame⟩
  · obtain rfl := Option.some.inj (hq.symm.trans hp)
    refine ⟨p', hp', ?_⟩
    have hday := hturn.day
    have hopened := hturn.opened
    have hclosing := hturn.closing
    have hstatus := hturn.overdue
    constructor
    case overdraft =>
      intro hover
      by_contra hrise
      obtain ⟨hopen, hbefore⟩ := hturn.credit (Or.inr (by omega))
      rcases hover with hclosed | hlate
      · simp [hopen] at hclosed
      · omega
    all_goals
      cases hopens : op.opens <;> cases hcloses : op.closes <;> simp_all
  · refine ⟨p, hsame.trans hp, ?_⟩
    constructor <;> simp_all

theorem Turned.noNewReservation (h : Turned now op book next) {p : BojParticipant}
    (hp : book.participants.lookup entity = some p)
    (hover : p.businessDayClosed = true ∨ p.repaymentDeadline ≤ now) {key : Id}
    {v : IntradayReservation} (hv : next.reservations.lookup key = some v)
    (hentity : v.legalEntityId = entity) : key ∈ book.reservations := by
  rcases h.reservations.rows hv with hold | ⟨hparty, _, hreserves | ⟨hkey, _⟩⟩
  · exact mem_of_lookup hold
  · rcases h.cases v.legalEntityId with ⟨_, q, _, hq, _, hturn, _⟩ | ⟨hother, _⟩
    · rw [hentity, hp] at hq
      obtain rfl := Option.some.inj hq
      have hopen := hturn.credit (Or.inl hreserves)
      rcases hover with hclosed | hlate
      · simp [hopen.1] at hclosed
      · omega
    · exact absurd hparty hother
  · exact hkey

/-- In every reachable book nobody with a closed day has a reservation running. A
successful operation changes a business day only by opening a later one, with no
overdraft and the old day closed and over; it gives no credit to a participant whose day
is closed or past its deadline; it makes a participant overdue only by closing its day on
an overdraft, and clears that only by opening a new day. Who is registered starts with
an open day and without overdraft. -/
theorem business_day_discipline (calls : List (ℕ × BojOp)) :
    let book := run perform BojLiquidityBook.empty calls
    (∀ entity p, book.participants.lookup entity = some p → p.businessDayClosed = true →
      ∀ key v, book.reservations.lookup key = some v → v.legalEntityId = entity →
        v.status ≠ .active) ∧
      ∀ now op outcome next, perform (now, op) book = (.ok outcome, next) →
        (∀ entity p, book.participants.lookup entity = some p →
          (∃ p', next.participants.lookup entity = some p' ∧
            DayKept now op (entity ∈ op.parties book) p p') ∧
          (p.businessDayClosed = true ∨ p.repaymentDeadline ≤ now →
            ∀ key v, next.reservations.lookup key = some v → v.legalEntityId = entity →
              key ∈ book.reservations)) ∧
        ∀ entity p', book.participants.lookup entity = none →
          next.participants.lookup entity = some p' →
          p'.businessDayClosed = false ∧ p'.intradayOverdraftYen = 0 ∧ p'.status = .active := by
  intro book
  obtain ⟨hbook, hholding⟩ : book.Orderly := run_orderly calls
  constructor
  · intro entity p hp hclosed key v hv hentity hactive
    obtain ⟨q, hq, hopen⟩ := hholding key v hv hactive
    rw [hentity] at hq
    obtain rfl := Option.some.inj (hp.symm.trans hq)
    simp [hopen] at hclosed
  · intro now op outcome next h
    rcases (perform_done hbook h).1.rows with ⟨r, rfl, he⟩ | ⟨_, ht⟩
    · refine ⟨fun entity p hp => ⟨⟨p, ?_, ?_⟩, ?_⟩, fun entity p' hnone hp' => ?_⟩
      · rw [he.participants]
        exact keeps_insert he.fresh _ _ hp
      · constructor <;> simp [BojOp.opens, BojOp.closes]
      · intro _ key v hv _
        rw [he.reservations] at hv
        exact mem_of_lookup hv
      · rw [he.participants] at hp'
        rcases lookup_insert_cases hp' with ⟨_, rfl⟩ | ⟨_, hold⟩
        · exact ⟨he.start.2.2.1, he.start.2.1, he.start.2.2.2⟩
        · simp [hnone] at hold
    · refine ⟨fun entity p hp => ⟨ht.dayKept hbook hp, ?_⟩, fun entity p' hnone hp' => ?_⟩
      · intro hover key v hv hentity
        exact ht.noNewReservation hp hover hv hentity
      · rcases ht.cases entity with ⟨_, p, _, hp, _⟩ | ⟨_, hsame⟩
        · simp [hnone] at hp
        · simp [hsame, hnone] at hp'

end BojLiquidityBook

def sampleDay : List (ℕ × BojOp) :=
  sampleOpening ++ [(100, .endBusinessDay ⟨bojId 108, bojId 2, 1⟩)]

def sampleNextDay : ℕ × BojOp := (101, .openBusinessDay ⟨bojId 109, bojId 2, 2, 20260901, 200⟩)

theorem business_day_discipline_sample :
    let book := run BojLiquidityBook.perform BojLiquidityBook.empty sampleDay
    ∃ outcome next p p', BojLiquidityBook.perform sampleNextDay book = (.ok outcome, next) ∧
      book.participants.lookup (bojId 2) = some p ∧
      next.participants.lookup (bojId 2) = some p' ∧ p.businessDay < p'.businessDay ∧
      p.intradayOverdraftYen = 0 ∧ p.businessDayClosed = true ∧ p.repaymentDeadline ≤ 101 := by
  intro book
  obtain ⟨outcome, h⟩ : ∃ outcome, (BojLiquidityBook.perform sampleNextDay book).1 = .ok outcome :=
    ⟨.status .active, by decide +kernel⟩
  obtain ⟨p, hp⟩ := Option.isSome_iff_exists.mp
    (show (book.participants.lookup (bojId 2)).isSome = true by decide +kernel)
  have hstep : BojLiquidityBook.perform sampleNextDay book = (.ok outcome, _) := Prod.ext h rfl
  obtain ⟨p', hp', hkept⟩ :=
    (((BojLiquidityBook.business_day_discipline sampleDay).2 _ _ _ _ hstep).1 _ p hp).1
  exact ⟨outcome, _, p, p', hstep, hp, hp', hkept.opening ⟨rfl, by decide +kernel⟩⟩

end DeFMI.Boj
