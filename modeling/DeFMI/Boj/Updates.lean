import DeFMI.Boj.Turns
set_option autoImplicit false

/-!
The liquidity book loses no update and never locks up: every participant's sequence
counts the operations made on it, and the sums of a book stay within their words.
-/

namespace DeFMI.Boj
open Lib InPlace Table List

namespace BojLiquidityBook

variable {book next : BojLiquidityBook} {entity : Id} {now : ℕ} {op : BojOp}

/-- The sequence of `entity` that an accepted operation was prepared against. -/
def prepared (entity : Id) (step : Step BojLiquidityBook (ℕ × BojOp)) : Option ℕ :=
  ((step.op.2.expects step.before).find? fun x => x.1 = entity).map Prod.snd

def sequenceOf (book : BojLiquidityBook) (entity : Id) : ℕ :=
  ((book.participants.lookup entity).map BojParticipant.sequence).getD 0

structure Counted (done : List (Step BojLiquidityBook (ℕ × BojOp)))
    (book : BojLiquidityBook) : Prop where
  shaped : book.Shaped
  sequences : ∀ entity, done.filterMap (prepared entity) = List.range (book.sequenceOf entity)

theorem Turned.counted (h : Turned now op book next) (entity : Id) :
    range (next.sequenceOf entity) = range (book.sequenceOf entity) ++
      (prepared entity ⟨book, (now, op), next⟩).toList := by
  cases hfind : (op.expects book).find? fun x => x.1 = entity with
  | none =>
    have hother : entity ∉ op.parties book := by
      intro hparty
      obtain ⟨x, hx, rfl⟩ := mem_map.mp hparty
      simpa using find?_eq_none.mp hfind x hx
    simp [prepared, hfind, sequenceOf, h.others entity hother]
  | some x =>
    obtain rfl : x.1 = entity := by simpa using find?_some hfind
    obtain ⟨p, p', hp, hp', hexpected, hturn, _⟩ := h.parties x (mem_of_find?_eq_some hfind)
    simp [prepared, hfind, sequenceOf, hp, hp', hturn.sequence, hexpected, range_succ]

theorem Done.counted (h : Done now op book next) (entity : Id) :
    range (next.sequenceOf entity) = range (book.sequenceOf entity) ++
      (prepared entity ⟨book, (now, op), next⟩).toList := by
  rcases h.rows with ⟨r, rfl, he⟩ | ⟨_, ht⟩
  · have hnone := AList.lookup_eq_none.mpr he.fresh
    by_cases hentity : entity = r.participant.legalEntityId
    · subst hentity
      simp [prepared, BojOp.expects, sequenceOf, he.participants, he.start.1, hnone]
    · simp [prepared, BojOp.expects, sequenceOf, he.participants, AList.lookup_insert_ne hentity]
  · exact ht.counted entity

theorem history_counted (calls : List (ℕ × BojOp)) :
    Counted (history perform BojLiquidityBook.empty calls)
      (run perform BojLiquidityBook.empty calls) := by
  rw [← nil_append (history _ _ _)]
  refine history_invariant ?_ (fun _ _ _ _ h => perform_restores h) calls
    ⟨empty_shaped, fun entity => rfl⟩
  intro done s call outcome t hcounted h
  obtain ⟨hdone, hshaped⟩ := perform_done hcounted.shaped h
  refine ⟨hshaped, fun entity => ?_⟩
  rw [filterMap_append, hcounted.sequences, hdone.counted entity]
  cases hprepared : prepared entity ⟨s, call, t⟩ <;> simp [hprepared]

/-- A successful operation moves on by one every participant it names, each of which was at
the sequence it expected, and leaves the rows, lots and reservations of all others alone. Where
it names a lot, as a delivery does, the same holds of the lot, and no other lot changes.
So no two successful operations were prepared against the same sequence of a participant,
and the sequence is the number of operations made on it. -/
theorem no_lost_update (calls : List (ℕ × BojOp)) :
    let book := run perform BojLiquidityBook.empty calls
    let accepted := history perform BojLiquidityBook.empty calls
    (∀ now op outcome next, op.registers = false →
      perform (now, op) book = (.ok outcome, next) →
      (∀ x ∈ op.expects book, ∃ p p', book.participants.lookup x.1 = some p ∧
        next.participants.lookup x.1 = some p' ∧ p.sequence = x.2 ∧
        p'.sequence = p.sequence + 1) ∧
      (∀ x ∈ op.expectsLot, ∃ lot lot', book.collateralLots.lookup x.1 = some lot ∧
        next.collateralLots.lookup x.1 = some lot' ∧ lot.sequence = x.2 ∧
        lot'.sequence = lot.sequence + 1 ∧
        ∀ other, other ≠ x.1 →
          next.collateralLots.lookup other = book.collateralLots.lookup other) ∧
      ∀ entity, entity ∉ op.parties book →
        next.participants.lookup entity = book.participants.lookup entity ∧
        (∀ key lot, lot.ownerLegalEntityId = entity →
          (book.collateralLots.lookup key = some lot ↔
            next.collateralLots.lookup key = some lot)) ∧
        ∀ key v, v.legalEntityId = entity →
          (book.reservations.lookup key = some v ↔ next.reservations.lookup key = some v)) ∧
      (∀ entity, (accepted.filterMap (prepared entity)).Nodup) ∧
      ∀ entity p, book.participants.lookup entity = some p →
        p.sequence = (accepted.filterMap (prepared entity)).length := by
  intro book accepted
  obtain ⟨hbook, hsequences⟩ : Counted accepted book := history_counted calls
  refine ⟨?_, fun entity => ?_, fun entity p hp => ?_⟩
  · intro now op outcome next hop h
    have hdone := (perform_done hbook h).1
    rcases hdone.rows with ⟨r, rfl, _⟩ | ⟨_, ht⟩
    · simp [BojOp.registers] at hop
    · refine ⟨?_, ?_, ?_⟩
      · intro x hx
        obtain ⟨p, p', hp, hp', hexpected, hturn, _⟩ := ht.parties x hx
        exact ⟨p, p', hp, hp', hexpected, hturn.sequence⟩
      · intro x hx
        obtain ⟨lot, lot', hlot, hexpected, hmoved, hlots⟩ := hdone.effect.lot hx
        refine ⟨lot, lot', hlot, by rw [hlots, AList.lookup_insert], hexpected, hmoved, ?_⟩
        intro other hother
        rw [hlots, AList.lookup_insert_ne hother]
      · intro entity hentity
        refine ⟨ht.others entity hentity, fun key lot howner => ?_, fun key v hholder => ?_⟩
        · exact ht.lots.frame (howner ▸ hentity)
        · exact ht.reservations.frame (hholder ▸ hentity)
  · rw [hsequences entity]
    exact List.nodup_range
  · simp [hsequences entity, sequenceOf, hp]

/-- Everything the code adds up for the participants fits, from time `t` on. -/
def Within (t : ℕ) (book : BojLiquidityBook) : Prop :=
  ∀ entity p, book.participants.lookup entity = some p → book.Fits p t

theorem Within.later {t : ℕ} (h : book.Within t) (hle : t ≤ now) : book.Within now := by
  intro entity p hp
  obtain ⟨hcollateral, hrequired⟩ := h entity p hp
  have hmono : book.reserved p.legalEntityId now ≤ book.reserved p.legalEntityId t :=
    reserved_mono hle
  exact ⟨hcollateral, by omega⟩

/-- The exposure a participant is registered with is a `u64`. -/
def typedExposure : BojOp → Prop
  | .registerParticipant r => r.participant.otherSecuredExposureYen < 2 ^ 64
  | _ => True

theorem Shaped.sums_of_unknown (hbook : book.Shaped) (hentity : entity ∉ book.participants)
    (t : ℕ) : book.collateral entity = 0 ∧ book.reserved entity t = 0 := by
  constructor
  · rw [← total_empty (κ := Id) fun _ lot => JgbCollateralLot.backs entity lot]
    refine total_eq_of_support fun key lot hlot => ?_
    have howner : book.collateralLots.lookup key ≠ some lot := by
      intro hrow
      have hmem := (hbook.lots key lot hrow).2
      simp_all [JgbCollateralLot.backs]
    simp [howner]
  · rw [← total_empty (κ := Id) fun _ v => IntradayReservation.holds entity t v]
    refine total_eq_of_support fun key v hv => ?_
    have hholder : book.reservations.lookup key ≠ some v := by
      intro hrow
      have hmem := (hbook.reservations key v hrow).2
      simp_all [IntradayReservation.holds]
    simp [hholder]

theorem Done.within (hbook : book.Shaped) (h : Done now op book next) (hop : typedExposure op)
    (hwithin : book.Within now) : next.Within now := by
  intro entity p' hp'
  rcases h.rows with ⟨r, rfl, he⟩ | ⟨_, ht⟩
  · have hsums : ∀ p, next.Fits p now ↔ book.Fits p now := by
      intro p
      simp only [Fits, collateral, reserved, he.lots, he.reservations]
    rw [hsums]
    rw [he.participants] at hp'
    rcases lookup_insert_cases hp' with ⟨_, rfl⟩ | ⟨_, hp⟩
    · obtain ⟨hcollateral, hreserved⟩ := hbook.sums_of_unknown he.fresh now
      have hoverdraft := he.start.2.1
      simp only [typedExposure] at hop
      simp only [Fits, hcollateral, hreserved, hoverdraft]
      omega
    · exact hwithin entity p' hp
  · rcases ht.cases entity with ⟨_, p, q, hp, hq, _, hfits⟩ | ⟨hother, hsame⟩
    · obtain rfl := Option.some.inj (hq.symm.trans hp')
      exact hfits (hwithin entity p hp)
    · rw [hsame] at hp'
      have hkey := (hbook.participants entity p' hp').1
      have hsums := ht.same_sums hother now
      obtain ⟨hcollateral, hrequired⟩ := hwithin entity p' hp'
      rw [← hkey] at hcollateral hrequired
      simp only [Fits, ← hkey, hsums.1, hsums.2]
      exact ⟨hcollateral, hrequired⟩

theorem run_within {t final : ℕ} {later : List (ℕ × BojOp)} (hbook : book.Shaped)
    (htimes : (t :: later.map Prod.fst).IsChain (· ≤ ·))
    (hfinal : ∀ now ∈ t :: later.map Prod.fst, now ≤ final)
    (htyped : ∀ call ∈ later, typedExposure call.2) (hwithin : book.Within t) :
    (run perform book later).Within final := by
  induction later generalizing book t with
  | nil => exact hwithin.later (hfinal t (by simp))
  | cons call later ih =>
    obtain ⟨hle, htail⟩ : t ≤ call.1 ∧ (call.1 :: later.map Prod.fst).IsChain (· ≤ ·) := by
      simpa using htimes
    obtain ⟨hcall, hlater⟩ := forall_mem_cons.mp htyped
    have hrest := (forall_mem_cons.mp hfinal).2
    cases h : perform call book with
    | mk result next =>
      rw [run_cons_eq h]
      cases result with
      | ok =>
        obtain ⟨hdone, hshaped⟩ := perform_done hbook h
        exact ih hshaped htail hrest hlater (hdone.within hbook hcall (hwithin.later hle))
      | error =>
        obtain rfl := perform_restores h
        exact ih hbook htail hrest hlater (hwithin.later hle)

/-- After calls at rising times the book validates, what an operation leaves on its copy
validates, and from the last call on the sums of every participant succeed and are exact. -/
theorem book_never_locks_up (calls : List (ℕ × BojOp))
    (htimes : (calls.map Prod.fst).IsChain (· ≤ ·))
    (htyped : ∀ call ∈ calls, typedExposure call.2) :
    let book := run perform BojLiquidityBook.empty calls
    book.validate = .ok () ∧
      (∀ now op outcome next, book.inner now op = .ok (outcome, next) →
        next.validate = .ok ()) ∧
      ∀ now, (∀ call ∈ calls, call.1 ≤ now) →
        ∀ entity p, book.participants.lookup entity = some p →
          book.collateralValue entity = .ok (book.collateral entity) ∧
          book.liveReserved entity now = .ok (book.reserved entity now) ∧
          book.availableHeadroom entity now = .ok (book.collateral entity -
            (p.otherSecuredExposureYen + p.intradayOverdraftYen + book.reserved entity now)) := by
  intro book
  have hbook : book.Shaped := run_shaped calls
  refine ⟨validate_eq_ok.mpr hbook, fun now op outcome next h => ?_, ?_⟩
  · exact validate_eq_ok.mpr ((inner_done hbook h).shaped hbook)
  · intro now hnow entity p hp
    have hwithin : book.Within now := by
      refine run_within empty_shaped (t := 0) ?_ ?_ htyped ?_
      · cases calls <;> simp_all
      · simpa using hnow
      · intro entity p hp
        simp [BojLiquidityBook.empty] at hp
    obtain ⟨hcollateral, hrequired⟩ := hwithin entity p hp
    rw [← (hbook.participants entity p hp).1] at hcollateral hrequired
    have hvalue := collateralValue_of_lt hbook.worth hcollateral
    have hreserved : book.liveReserved entity now = .ok (book.reserved entity now) :=
      liveReserved_of_lt (by omega)
    refine ⟨hvalue, hreserved, ?_⟩
    simp only [availableHeadroom, required, hreserved, hvalue, ok_iff, Option.bind_eq_bind,
      Option.bind_eq_some_iff, checkedAdd_eq_some]
    exact ⟨p, hp, _, ⟨_, ⟨rfl, by omega⟩, _, rfl, rfl, hrequired⟩, _, rfl, rfl⟩

end BojLiquidityBook

section Sample

/-- The book after the trade. -/
def tradedBook : BojLiquidityBook :=
  run BojLiquidityBook.perform BojLiquidityBook.empty (sampleOpening ++ sampleTrade)

theorem tradedBook_buyer : ∃ p, tradedBook.participants.lookup (bojId 1) = some p :=
  Option.isSome_iff_exists.mp (by decide +kernel)

theorem no_lost_update_sample :
    (history BojLiquidityBook.perform BojLiquidityBook.empty
        (sampleOpening ++ sampleTrade)).length = 5 ∧
      ∃ p, tradedBook.participants.lookup (bojId 1) = some p ∧ p.sequence = 2 := by
  obtain ⟨p, hp⟩ := tradedBook_buyer
  refine ⟨by decide +kernel, p, hp, ?_⟩
  rw [(BojLiquidityBook.no_lost_update (sampleOpening ++ sampleTrade)).2.2 (bojId 1) p hp]
  decide +kernel

theorem book_never_locks_up_sample : tradedBook.validate = .ok () ∧
    ∃ p, tradedBook.participants.lookup (bojId 1) = some p ∧
      tradedBook.availableHeadroom (bojId 1) 6 = .ok (tradedBook.collateral (bojId 1) -
        (p.otherSecuredExposureYen + p.intradayOverdraftYen + tradedBook.reserved (bojId 1) 6)) := by
  obtain ⟨p, hp⟩ := tradedBook_buyer
  obtain ⟨hvalid, _, hsums⟩ := BojLiquidityBook.book_never_locks_up (sampleOpening ++ sampleTrade)
    (by decide) (by simp [sampleOpening, sampleTrade, BojLiquidityBook.typedExposure, sampleParticipant])
  exact ⟨hvalid, p, hp, (hsums 6 (by decide) (bojId 1) p hp).2.2⟩

end Sample
end DeFMI.Boj
