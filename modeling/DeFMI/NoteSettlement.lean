import DeFMI.Notes
import DeFMI.Settlement
set_option autoImplicit false

/-!
Delivery versus payment over two note ledgers. Each leg spends one note into a
payee note and a change note; the payee's note is the first by convention.
-/

namespace DeFMI
open Lib

structure NoteLeg (V : Type) where
  ring : List ℕ
  eligibility : List Bool
  spend : SpendProof V
  notes : List (Note V)

abbrev LinkContext := Bytes × String

structure NoteDvpPackage (V : Type) where
  instruction : Instruction V
  securities : NoteLeg V
  cash : NoteLeg V
  quantityLink : CrossGeneratorProof LinkContext
  cashValueCommitment : V
  cashLink : CrossGeneratorProof LinkContext
  valueProof : ProductProof LinkContext

structure NoteStatement where
  nullifier : Bytes
  settled : Bool
  reason : String
  securitiesBefore : Bytes
  securitiesAfter : Bytes
  cashBefore : Bytes
  cashAfter : Bytes
  settledAt : ℕ

structure NoteReceipt extends NoteStatement where
  signature : Bytes

structure NoteDefmi (V Ven : Type) where
  key : Pedersen V
  securities : NoteLedger V
  cash : NoteLedger V
  venue : Ven
  signing : NoteStatement → Option Bytes

section Package

variable {V Ven : Type} [DecidableEq V]

def NoteLeg.carriesProvedValues (leg : NoteLeg V) : Check := do
  require (leg.notes.length = leg.spend.outputs.length) "a leg has a note without a commitment"
  require (∀ pair ∈ leg.notes.zip leg.spend.outputs, pair.1.valueCommitment = pair.2)
    "a leg's note does not carry its proved value"

namespace NoteDefmi

variable {api : VenueApi V Ven} {P : NoteParams V} {d d' : NoteDefmi V Ven}
  {package : NoteDvpPackage V} {now : ℕ} {context : Bytes}

/-- What is signed: the projected roots of a passed check, or the old roots
with the reason of the refusal. -/
def statement (api : VenueApi V Ven) (P : NoteParams V) (d : NoteDefmi V Ven)
    (package : NoteDvpPackage V) (now : ℕ) (status : Check) : Result NoteStatement :=
  match status with
  | .ok () => do
    let securitiesAfter ← d.securities.spendSnapshot P package.securities.spend
      package.securities.notes
    let cashAfter ← d.cash.spendSnapshot P package.cash.spend package.cash.notes
    pure ⟨api.nullifier package.instruction, true, "settled", d.securities.snapshot,
      securitiesAfter, d.cash.snapshot, cashAfter, now⟩
  | .error why =>
    .ok ⟨api.nullifier package.instruction, false, why, d.securities.snapshot,
      d.securities.snapshot, d.cash.snapshot, d.cash.snapshot, now⟩

/-- Both spends and the venue after signing; an error here is a panic. -/
def apply (api : VenueApi V Ven) (P : NoteParams V) (d : NoteDefmi V Ven)
    (package : NoteDvpPackage V) (now : ℕ) : Result (NoteDefmi V Ven) := do
  let securities ← d.securities.applySpend P package.securities.spend package.securities.notes
  let cash ← d.cash.applySpend P package.cash.spend package.cash.notes
  let venue ← api.settle d.venue package.instruction now
  pure { d with securities, cash, venue }

theorem apply_ok (h : d.apply api P package now = .ok d') :
    d.securities.applySpend P package.securities.spend package.securities.notes =
        .ok d'.securities ∧
      d.cash.applySpend P package.cash.spend package.cash.notes = .ok d'.cash := by
  simp only [apply, ok_iff] at h
  obtain ⟨securities, hs, cash, hc, _, _, rfl⟩ := h
  exact ⟨hs, hc⟩

theorem statement_settled {status : Check} {s : NoteStatement}
    (h : d.statement api P package now status = .ok s) (hs : s.settled = true) :
    status = .ok () := by
  cases status with
  | ok => rfl
  | error =>
    simp only [statement, Except.ok.injEq] at h
    subst h
    cases hs

variable [AddCommGroup V] [Module Scalar V]

/-- The first output of a leg under its tag against a commitment under the key;
an empty output list panics in the source and is ruled out by the range check. -/
def linkHolds (key : Pedersen V) (leg : NoteLeg V) (target : V)
    (link : CrossGeneratorProof LinkContext) (context : Bytes) (part : String) : Bool :=
  match leg.spend.outputs with
  | first :: _ => link.verify key.h (context, part) leg.spend.tag key.g first target
  | [] => false

def verify (api : VenueApi V Ven) (P : NoteParams V) (d : NoteDefmi V Ven)
    (package : NoteDvpPackage V) (now : ℕ) (context : Bytes) : Check := do
  api.verify d.venue package.instruction now
  d.securities.checkSpendConstrained P package.securities.ring package.securities.spend
    package.securities.eligibility (context ++ utf8 ":sec")
  d.cash.checkSpendConstrained P package.cash.ring package.cash.spend
    package.cash.eligibility (context ++ utf8 ":cash")
  package.securities.carriesProvedValues
  package.cash.carriesProvedValues
  require (linkHolds d.key package.securities package.instruction.amountCommitment
    package.quantityLink context "qty-link" = true)
    "securities leg does not deliver the instructed quantity"
  require (linkHolds d.key package.cash package.cashValueCommitment package.cashLink context
    "cash-link" = true) "the cash leg does not match the value it claims"
  require (package.valueProof.verify d.key.g d.key.h (context, "value")
    package.instruction.priceCommitment package.instruction.amountCommitment
    package.cashValueCommitment = true) "cash leg is not quantity times price"

/-- The outer `none` is a panic after signing. -/
def settle (api : VenueApi V Ven) (P : NoteParams V) (d : NoteDefmi V Ven)
    (package : NoteDvpPackage V) (now : ℕ) (context : Bytes) :
    Option (Result (NoteDefmi V Ven × NoteReceipt)) :=
  match d.statement api P package now (d.verify api P package now context) with
  | .error why => some (.error why)
  | .ok s =>
    match d.signing s with
    | none => some (.error "hybrid receipt signing failed before either rail changed")
    | some signature =>
      if s.settled = true then
        (d.apply api P package now).toOption.map fun d' => .ok (d', ⟨s, signature⟩)
      else some (.ok (d, ⟨s, signature⟩))

theorem settle_settled {r : NoteReceipt}
    (h : d.settle api P package now context = some (.ok (d', r))) (hr : r.settled = true) :
    d.verify api P package now context = .ok () ∧ d.apply api P package now = .ok d' := by
  unfold settle at h
  cases hs : d.statement api P package now (d.verify api P package now context) with
  | error => simp [hs] at h
  | ok s =>
    cases hsig : d.signing s with
    | none => simp [hs, hsig] at h
    | some =>
      simp only [hs, hsig] at h
      split at h
      · next hset =>
        cases happly : d.apply api P package now with
        | error => simp [happly, Except.toOption] at h
        | ok =>
          simp only [happly, Except.toOption, Option.map_some, Option.some.injEq,
            Except.ok.injEq, Prod.mk.injEq] at h
          exact ⟨statement_settled hs hset, by rw [h.1]⟩
      · grind

theorem linkHolds_sound {key : Pedersen V} {leg : NoteLeg V} {target : V}
    {link : CrossGeneratorProof LinkContext} {part : String}
    (h : linkHolds key leg target link context part = true) :
    ∃ first rest x, leg.spend.outputs = first :: rest ∧ Opens leg.spend.tag key.h first x ∧
      Opens key.g key.h target x := by
  unfold linkHolds at h
  cases hout : leg.spend.outputs with
  | nil => simp [hout] at h
  | cons first rest =>
    simp only [hout] at h
    obtain ⟨hfirst, htarget⟩ := CrossGeneratorProof.verify_sound h
    exact ⟨first, rest, link.value, rfl, hfirst, htarget⟩

theorem verify_ok (h : d.verify api P package now context = .ok ()) :
    api.verify d.venue package.instruction now = .ok () ∧
      d.securities.checkSpendConstrained P package.securities.ring package.securities.spend
        package.securities.eligibility (context ++ utf8 ":sec") = .ok () ∧
      d.cash.checkSpendConstrained P package.cash.ring package.cash.spend
        package.cash.eligibility (context ++ utf8 ":cash") = .ok () ∧
      linkHolds d.key package.securities package.instruction.amountCommitment
        package.quantityLink context "qty-link" = true ∧
      linkHolds d.key package.cash package.cashValueCommitment package.cashLink context
        "cash-link" = true ∧
      package.valueProof.verify d.key.g d.key.h (context, "value")
        package.instruction.priceCommitment package.instruction.amountCommitment
        package.cashValueCommitment = true := by
  simp only [verify, ok_iff] at h
  obtain ⟨hv, hsec, hcash, _, _, hq, hc, hp⟩ := h
  exact ⟨hv, hsec, hcash, hq, hc, hp⟩

theorem verify_first_outputs {q p : ℕ} (hi : Independent d.key.g d.key.h)
    (h : d.verify api P package now context = .ok ())
    (hq : Instructed d.key package.instruction q p) :
    (∃ first rest, package.securities.spend.outputs = first :: rest ∧
        Holds package.securities.spend.tag d.key.h first q) ∧
      ∃ first rest, package.cash.spend.outputs = first :: rest ∧
        Holds package.cash.spend.tag d.key.h first (q * p) := by
  obtain ⟨_, _, _, hqty, hlink, hvalue⟩ := verify_ok h
  obtain ⟨first, rest, x, hout, hfirst, hx⟩ := linkHolds_sound hqty
  obtain ⟨cashFirst, cashRest, y, hcashOut, hcashFirst, hy⟩ := linkHolds_sound hlink
  obtain ⟨hxq, hyv⟩ := hq.link_values hi hx hy hvalue
  rw [hxq] at hfirst
  rw [hyv] at hcashFirst
  exact ⟨⟨first, rest, hout, hfirst⟩, cashFirst, cashRest, hcashOut, hcashFirst⟩

/-- One key throughout, and rings whose notes hold ranged values under the
securities generator `A` and the cash generator `C`. -/
structure Deployed (d : NoteDefmi V Ven) (package : NoteDvpPackage V) (A C : V) : Prop where
  securities_key : d.securities.key = d.key
  cash_key : d.cash.key = d.key
  key_independent : Independent d.key.g d.key.h
  securities_independent : Independent A d.key.h
  cash_independent : Independent C d.key.h
  securities_backed : d.securities.RingBacked A package.securities.ring
  cash_backed : d.cash.RingBacked C package.cash.ring

/-- Accepted spends are sound exactly when the tag keeps their proved values in
range, and a settled package pays the instructed amounts exactly when each leg
that pays anything used a tag blinding its asset's generator. -/
theorem note_rail_sound_iff (api : VenueApi V Ven) (P : NoteParams V) (A C : V) :
    (∀ (l : NoteLedger V) (ring : List ℕ) (proof : SpendProof V) (eligibility : List Bool)
        (context : Bytes), Independent A l.key.h → l.RingBacked A ring →
        l.checkSpendConstrained P ring proof eligibility context = .ok () →
        (l.SpendSound A ring proof ↔ l.TagKeepsRange A proof)) ∧
      ∀ (d d' : NoteDefmi V Ven) (package : NoteDvpPackage V) (now : ℕ) (context : Bytes)
        (r : NoteReceipt), d.Deployed package A C → VenueProvesRanges api d.key →
        d.settle api P package now context = some (.ok (d', r)) → r.settled = true →
        ∃ q p, Instructed d.key package.instruction q p ∧
          ((d.securities.Pays A d'.securities package.securities.ring
                package.securities.spend q ∧
              d.cash.Pays C d'.cash package.cash.ring package.cash.spend (q * p)) ↔
            (q = 0 ∨ Reblinds A d.key.h package.securities.spend.tag) ∧
              (q * p = 0 ∨ Reblinds C d.key.h package.cash.spend.tag)) := by
  constructor
  · intro l ring proof eligibility context hi hb h
    exact NoteLedger.spendSound_iff h hi hb
  · intro d d' package now context r hd hv hs hr
    obtain ⟨hverify, happly⟩ := settle_settled hs hr
    obtain ⟨hvenue, hsec, hcash, _⟩ := verify_ok hverify
    obtain ⟨hsecApply, hcashApply⟩ := apply_ok happly
    obtain ⟨q, p, hq⟩ := hv _ _ _ hvenue
    obtain ⟨⟨first, rest, hout, hfirst⟩, cashFirst, cashRest, hcashOut, hcashFirst⟩ :=
      verify_first_outputs hd.key_independent hverify hq
    obtain ⟨hqb, hqp⟩ := hq.value_lt
    refine ⟨q, p, hq, and_congr ?_ ?_⟩
    · have hi := hd.securities_independent
      rw [← hd.securities_key] at hfirst hi ⊢
      exact NoteLedger.pays_iff hsec hsecApply hi hd.securities_backed hout hqb hfirst
    · have hi := hd.cash_independent
      rw [← hd.cash_key] at hcashFirst hi ⊢
      exact NoteLedger.pays_iff hcash hcashApply hi hd.cash_backed hcashOut hqp hcashFirst

end NoteDefmi
end Package

section Sample

def sampleParams : NoteParams Plane := ⟨(1, 0), (0, 1), fun _ => [], fun note => note.valueCommitment⟩

def plainNote (value : Plane) : Note Plane := ⟨(1, 0), value, (0, 0), []⟩

def samplePool (value : Plane) : NoteLedger Plane :=
  { NoteLedger.new planeKey 8 with notes := [plainNote value] }

/-- Spends the only note of the pool into two outputs proved under `tag`. -/
def sampleLeg (context : Bytes) (value tag first second : Plane) (x y : ℕ) : NoteLeg Plane where
  ring := [0]
  eligibility := [true]
  spend :=
    { serialPoint := (0, 1)
      pseudo := value
      ring := ⟨⟨context, tag, [first, second], [plainNote first, plainNote second]⟩, 0, 1, 0⟩
      outputs := [first, second]
      outputNotes := [plainNote first, plainNote second]
      outputRange := ⟨NoteLedger.rangeContext context tag, [(x, 0), (y, 0)]⟩
      outputRangeCommitments := [first, second]
      balance := ⟨NoteLedger.balanceContext context tag, 0⟩
      tag := tag }
  notes := [plainNote first, plainNote second]

def sampleNoteDefmi : NoteDefmi Plane Unit :=
  ⟨planeKey, samplePool (10, 0), samplePool (5, 0), (), fun _ => some []⟩

def sampleNotePackage (securities : NoteLeg Plane) : NoteDvpPackage Plane where
  instruction := sampleInstruction
  securities := securities
  cash := sampleLeg (utf8 ":cash") (5, 0) (1, 0) (3, 0) (2, 0) 3 2
  quantityLink := ⟨([], "qty-link"), 3, 0, 0⟩
  cashValueCommitment := (3, 0)
  cashLink := ⟨([], "cash-link"), 3, 0, 0⟩
  valueProof := ⟨([], "value"), 1, 0, 3, 0, 0⟩

def plainNotePackage : NoteDvpPackage Plane :=
  sampleNotePackage (sampleLeg (utf8 ":sec") (10, 0) (1, 0) (3, 0) (7, 0) 3 7)

/-- One half in the scalar field, far outside any range as a value. -/
def half : Scalar := 3618502788666131106986593281521497120428558179689953803000975469142727125495

def halvedNotePackage : NoteDvpPackage Plane :=
  sampleNotePackage (sampleLeg (utf8 ":sec") (10, 0) (half, 0) (3 * half, 0) (17 * half, 0) 3 17)

theorem samplePool_backed {value : Plane} (h : value.1.val < 2 ^ 8) :
    (samplePool value).RingBacked planeKey.g [0] := by
  intro i hi note hnote
  obtain rfl : i = 0 := List.mem_singleton.mp hi
  obtain rfl : plainNote value = note := Option.some.inj hnote
  refine ⟨value.1.val, h, holds_plane.mpr ?_⟩
  rw [ZMod.natCast_zmod_val]
  rfl

theorem sampleNoteDefmi_deployed {leg : NoteLeg Plane} (hring : leg.ring = [0]) :
    sampleNoteDefmi.Deployed (sampleNotePackage leg) planeKey.g planeKey.g where
  securities_key := rfl
  cash_key := rfl
  key_independent := planeKey_independent
  securities_independent := planeKey_independent
  cash_independent := planeKey_independent
  securities_backed := by
    simp only [sampleNotePackage, hring]
    exact samplePool_backed (by decide)
  cash_backed := samplePool_backed (by decide)

theorem sampleNoteDefmi_settle (leg : NoteLeg Plane) {d' : NoteDefmi Plane Unit}
    {s : NoteStatement} (hs : s.settled = true)
    (hverify : sampleNoteDefmi.verify sampleApi sampleParams (sampleNotePackage leg) 0 [] = .ok ())
    (hstatement : sampleNoteDefmi.statement sampleApi sampleParams (sampleNotePackage leg) 0
      (.ok ()) = .ok s)
    (happly : sampleNoteDefmi.apply sampleApi sampleParams (sampleNotePackage leg) 0 = .ok d') :
    sampleNoteDefmi.settle sampleApi sampleParams (sampleNotePackage leg) 0 [] =
      some (.ok (d', ⟨s, []⟩)) := by
  have hsign : sampleNoteDefmi.signing s = some [] := rfl
  simp [NoteDefmi.settle, hverify, hstatement, hsign, hs, happly, Except.toOption]

/-- Under the asset generator itself both parts apply and both sides hold. -/
theorem note_rail_sound_iff_plain :
    (samplePool (10, 0)).SpendSound planeKey.g [0] plainNotePackage.securities.spend ∧
      ∃ d' r, sampleNoteDefmi.settle sampleApi sampleParams plainNotePackage 0 [] =
          some (.ok (d', r)) ∧ r.settled = true ∧
        ∃ q p, Instructed planeKey plainNotePackage.instruction q p ∧
          sampleNoteDefmi.securities.Pays planeKey.g d'.securities [0]
            plainNotePackage.securities.spend q ∧
          sampleNoteDefmi.cash.Pays planeKey.g d'.cash [0] plainNotePackage.cash.spend (q * p) := by
  have hsound := NoteDefmi.note_rail_sound_iff sampleApi sampleParams planeKey.g planeKey.g
  have htag : NoteLedger.TagKeepsRange planeKey.g (samplePool (10, 0))
      plainNotePackage.securities.spend :=
    Or.inr ⟨1, reblinds_iff_scales.mp (Reblinds.refl _ _), by decide +kernel⟩
  have hspend := hsound.1 (samplePool (10, 0)) [0] plainNotePackage.securities.spend [true]
    (utf8 ":sec") planeKey_independent (samplePool_backed (by decide)) (by decide +kernel)
  have hs := sampleNoteDefmi_settle plainNotePackage.securities rfl (by decide +kernel) rfl rfl
  obtain ⟨q, p, hq, hpays⟩ := hsound.2 _ _ _ _ _ _ (sampleNoteDefmi_deployed rfl)
    sample_venueProvesRanges hs rfl
  obtain ⟨hsec, hcash⟩ := hpays.mpr ⟨Or.inr (Reblinds.refl _ _), Or.inr (Reblinds.refl _ _)⟩
  exact ⟨hspend.mpr htag, _, _, hs, rfl, q, p, hq, hsec, hcash⟩

/-- Under one half of the generator a settled package leaves outputs that are
outside the range and do not hold the instructed quantity. -/
theorem note_settle_halves_outputs :
    sampleNoteDefmi.Deployed halvedNotePackage planeKey.g planeKey.g ∧
      VenueProvesRanges sampleApi planeKey ∧
      Instructed planeKey halvedNotePackage.instruction 3 1 ∧
      ∃ d' r, sampleNoteDefmi.settle sampleApi sampleParams halvedNotePackage 0 [] =
          some (.ok (d', r)) ∧ r.settled = true ∧
        ¬ sampleNoteDefmi.securities.SpendSound planeKey.g halvedNotePackage.securities.ring
          halvedNotePackage.securities.spend ∧
        ¬ sampleNoteDefmi.securities.Pays planeKey.g d'.securities
          halvedNotePackage.securities.ring halvedNotePackage.securities.spend 3 := by
  have hs := sampleNoteDefmi_settle halvedNotePackage.securities rfl (by decide +kernel) rfl rfl
  have hunsound : ¬ sampleNoteDefmi.securities.SpendSound planeKey.g
      halvedNotePackage.securities.ring halvedNotePackage.securities.spend := by
    rintro ⟨_, _, _, _, _, _, hys, _⟩
    cases hys with
    | @cons _ y _ _ hfirst _ =>
      have hy : 3 * half = (y : Scalar) := holds_plane.mp hfirst.2
      have hlt : y < 2 ^ 8 := hfirst.1
      have hval := congrArg ZMod.val hy
      rw [ZMod.val_natCast_of_lt (lt_groupOrder (by omega))] at hval
      have hbig : ¬ (3 * half).val < 2 ^ 8 := by decide +kernel
      omega
  exact ⟨sampleNoteDefmi_deployed rfl, sample_venueProvesRanges, sample_instructed, _, _, hs, rfl,
    hunsound, fun hpays => hunsound hpays.1⟩

end Sample
end DeFMI
