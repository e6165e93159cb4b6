import DeFMI.Ledger
import DeFMI.Lib.Reader
set_option autoImplicit false

/-!
The wire form of a credit relation proof: two range proofs, each behind its length.
-/

namespace DeFMI
open Lib Stop List

/-- The proof as it travels, over the range proofs `R` of the proof library. -/
structure WireRelationProof (R : Type) where
  stateRange : R
  splitRange : R

structure RangeCodec (R : Type) where
  toBytes : R → Bytes
  fromBytes : Bytes → Option R

def relationMagic : Bytes := utf8 "QCRPROO1"

def maxWireProofBytes : ℕ := 2 ^ 20

namespace WireRelationProof

variable {R : Type} (c : RangeCodec R)

def toBytes (proof : WireRelationProof R) : Result Bytes := do
  let state := c.toBytes proof.stateRange
  let split := c.toBytes proof.splitRange
  require (¬(state = [] ∨ split = [] ∨ maxWireProofBytes < state.length ∨
    maxWireProofBytes < split.length)) "credit relation proof exceeds its wire bound"
  require (state.length < 2 ^ 32) "credit state proof length exceeds u32"
  require (split.length < 2 ^ 32) "credit split proof length exceeds u32"
  pure (relationMagic ++ (beBytes 4 state.length ++ (state ++ (beBytes 4 split.length ++ split))))

/-- The length field at an offset, which the caller has checked to be there. -/
def readLength (wire : Bytes) (offset : ℕ) (truncated outside : String) : Except Stop ℕ := do
  let field ← slice wire offset (offset + 4)
  let field ← lift (okOr (Reader.toArray 4 field) truncated)
  lift (require (¬(beValue field.val = 0 ∨ maxWireProofBytes < beValue field.val)) outside)
  pure (beValue field.val)

def fromBytes (wire : Bytes) : Except Stop (WireRelationProof R) := do
  lift (require (16 ≤ wire.length) "credit relation proof wire header is invalid")
  let start ← slice wire 0 8
  lift (require (start = relationMagic) "credit relation proof wire header is invalid")
  let stateLen ← readLength wire 8 "credit state proof length is truncated"
    "credit state proof length is outside its wire bound"
  let splitLenOffset ← lift (okOr (checkedAdd 12 stateLen)
    "credit relation proof length overflowed")
  lift (require ((checkedAdd splitLenOffset 4).any (· ≤ wire.length))
    "credit relation proof wire is truncated")
  let splitLen ← readLength wire splitLenOffset "credit split proof length is truncated"
    "credit split proof length is outside its wire bound"
  let splitOffset := splitLenOffset + 4
  lift (require ((checkedAdd splitOffset splitLen).any (· = wire.length))
    "credit relation proof wire has trailing or missing bytes")
  let state ← slice wire 12 splitLenOffset
  let stateRange ← lift (okOr (c.fromBytes state) "credit state range proof is invalid")
  let split ← slice wire splitOffset wire.length
  let splitRange ← lift (okOr (c.fromBytes split) "credit split range proof is invalid")
  pure ⟨stateRange, splitRange⟩

end WireRelationProof

/-- A range proof has one byte form, of a length in the wire's bound. -/
structure RangeCodec.Canonical {R : Type} (c : RangeCodec R) : Prop where
  fromBytes_eq_some : ∀ {bytes proof}, c.fromBytes bytes = some proof ↔ c.toBytes proof = bytes
  nonempty : ∀ proof, c.toBytes proof ≠ []
  bounded : ∀ proof, (c.toBytes proof).length ≤ maxWireProofBytes

theorem length_relationMagic : relationMagic.length = 8 := by decide +kernel

namespace WireRelationProof

variable {R : Type} {c : RangeCodec R} {proof : WireRelationProof R} {wire : Bytes}

theorem toBytes_eq_ok (hc : c.Canonical) : proof.toBytes c = .ok wire ↔
    relationMagic ++ (counted 4 (c.toBytes proof.stateRange) ++
      counted 4 (c.toBytes proof.splitRange)) = wire := by
  have hstate := hc.bounded proof.stateRange
  have hsplit := hc.bounded proof.splitRange
  have hbound : maxWireProofBytes < 2 ^ 32 := by decide
  simp only [toBytes, ok_iff, counted, append_assoc]
  simp [hc.nonempty, hstate.not_gt, hsplit.not_gt, (hstate.trans_lt hbound : _ < 4294967296),
    (hsplit.trans_lt hbound : _ < 4294967296)]

theorem readLength_eq_ok {offset n : ℕ} {truncated outside : String} :
    readLength wire offset truncated outside = .ok n ↔
      slice wire offset (offset + 4) = .ok (beBytes 4 n) ∧ n ≠ 0 ∧ n ≤ maxWireProofBytes := by
  simp only [readLength, ok_iff, lift_eq_ok, Reader.toArray_eq_some, not_or, not_lt]
  constructor
  · rintro ⟨_, hfield, field, rfl, hbound, rfl⟩
    have hvalue := beBytes_beValue field.val
    rw [field.property] at hvalue
    exact ⟨hvalue.symm ▸ hfield, hbound⟩
  · rintro ⟨hfield, hbound⟩
    have hvalue : beValue (beBytes 4 n) = n :=
      beValue_beBytes (hbound.2.trans_lt (by decide))
    exact ⟨_, hfield, ⟨_, length_beBytes 4 n⟩, rfl, by simpa only [hvalue], hvalue⟩

theorem readLength_ne_panic {offset : ℕ} (h : offset + 4 ≤ wire.length)
    (truncated outside : String) : readLength wire offset truncated outside ≠ .error .panic :=
  bind_ne_panic (slice_ne_panic (by omega) h) fun _ _ =>
    lift_bind_ne_panic fun _ _ => lift_bind_ne_panic fun _ _ => nofun

theorem fromBytes_eq_ok (hc : c.Canonical) :
    fromBytes c wire = .ok proof ↔ proof.toBytes c = .ok wire := by
  obtain ⟨stateRange, splitRange⟩ := proof
  rw [toBytes_eq_ok hc]
  simp only [fromBytes, ok_iff, lift_eq_ok, readLength_eq_ok, Option.any_eq_true,
    decide_eq_true_eq, checkedAdd_eq_some, hc.fromBytes_eq_some, counted, append_assoc,
    WireRelationProof.mk.injEq]
  constructor
  · rintro ⟨-, start, hstart, rfl, n, ⟨hfield, -⟩, _, ⟨-, rfl⟩, -, m, ⟨hfield', -⟩,
      ⟨_, ⟨-, rfl⟩, hlength⟩, _, hstate, state, rfl, _, hsplit, split, rfl, rfl, rfl⟩
    obtain ⟨hstart, -⟩ := drop_of_slice hstart
    obtain ⟨hfield, -⟩ := drop_of_slice hfield
    obtain ⟨hstate, hstateLen⟩ := drop_of_slice hstate
    obtain ⟨hfield', -⟩ := drop_of_slice hfield'
    obtain ⟨hsplit, hsplitLen⟩ := drop_of_slice hsplit
    obtain rfl : (c.toBytes state).length = n := by omega
    obtain rfl : (c.toBytes split).length = m := by omega
    rw [hfield, hstate, hfield', hsplit, drop_length, drop_zero] at hstart
    simpa using hstart.symm
  · intro hwire
    have hstateBound := hc.bounded stateRange
    have hsplitBound := hc.bounded splitRange
    have hstatePos := length_pos_iff.mpr (hc.nonempty stateRange)
    have hsplitPos := length_pos_iff.mpr (hc.nonempty splitRange)
    have hbound : maxWireProofBytes < 2 ^ 32 := by decide
    have hmagic := length_relationMagic
    have hfield := length_beBytes 4 (c.toBytes stateRange).length
    have hfield' := length_beBytes 4 (c.toBytes splitRange).length
    have hlength := congrArg length hwire
    simp only [length_append] at hlength
    obtain ⟨hstart, hrest⟩ := slice_of_drop (i := 0) (j := 8) hwire.symm (by omega) (by omega)
    obtain ⟨hstateLen, hrest⟩ := slice_of_drop (j := 12) hrest (by omega) (by omega)
    obtain ⟨hstate, hrest⟩ := slice_of_drop hrest rfl (by omega)
    obtain ⟨hsplitLen, hrest⟩ := slice_of_drop hrest rfl (by omega)
    obtain ⟨hsplit, -⟩ := slice_of_drop (j := wire.length)
      (hrest.trans (append_nil _).symm) (by omega) le_rfl
    rw [hfield'] at hsplitLen hsplit
    exact ⟨by omega, _, hstart, rfl, _, ⟨hstateLen, by omega⟩, _, ⟨by omega, rfl⟩,
      ⟨_, ⟨by omega, rfl⟩, by omega⟩, _, ⟨hsplitLen, by omega⟩, ⟨_, ⟨by omega, rfl⟩, by omega⟩, _,
      hstate, _, rfl, _, hsplit, _, rfl, rfl, rfl⟩

theorem fromBytes_ne_panic (wire : Bytes) : fromBytes c wire ≠ .error .panic := by
  refine lift_bind_ne_panic fun _ hlength => ?_
  have hlength : 16 ≤ wire.length := by simpa using hlength
  refine bind_ne_panic (slice_ne_panic (by omega) (by omega)) fun _ _ =>
    lift_bind_ne_panic fun _ _ =>
    bind_ne_panic (readLength_ne_panic (by omega) _ _) fun _ _ =>
    lift_bind_ne_panic fun offset hoffset => lift_bind_ne_panic fun _ hend => ?_
  simp only [lift_eq_ok, ok_iff, Option.any_eq_true, decide_eq_true_eq, checkedAdd_eq_some]
    at hoffset hend
  obtain ⟨_, ⟨-, rfl⟩, hend⟩ := hend
  exact bind_ne_panic (readLength_ne_panic hend _ _) fun _ _ =>
    lift_bind_ne_panic fun _ _ =>
    bind_ne_panic (slice_ne_panic (by omega) (by omega)) fun _ _ =>
    lift_bind_ne_panic fun _ _ =>
    bind_ne_panic (slice_ne_panic hend le_rfl) fun _ _ =>
    lift_bind_ne_panic fun _ _ => nofun

/-- Every proof is written and read back, the writer returns exactly the bytes the reader
accepted, and no bytes make the reader panic. -/
theorem relation_proof_wire (hc : c.Canonical) :
    (∀ proof, ∃ wire, toBytes c proof = .ok wire ∧ fromBytes c wire = .ok proof) ∧
      (∀ wire proof, fromBytes c wire = .ok proof → toBytes c proof = .ok wire) ∧
      ∀ wire, fromBytes c wire ≠ .error .panic := by
  refine ⟨fun proof => ?_, fun _ _ => (fromBytes_eq_ok hc).mp, fromBytes_ne_panic⟩
  obtain ⟨wire, hwire⟩ : ∃ wire, toBytes c proof = .ok wire := ⟨_, (toBytes_eq_ok hc).mpr rfl⟩
  exact ⟨wire, hwire, (fromBytes_eq_ok hc).mpr hwire⟩

end WireRelationProof

/-- Two range proofs, of one byte each. -/
def bitRange : RangeCodec Bool where
  toBytes b := [if b then 1 else 0]
  fromBytes bytes := if bytes = [0] then some false else if bytes = [1] then some true else none

theorem bitRange_canonical : bitRange.Canonical where
  fromBytes_eq_some := by
    intro bytes proof
    by_cases h0 : bytes = [0] <;> by_cases h1 : bytes = [1] <;> cases proof <;> simp_all [bitRange, eq_comm]
  nonempty := by simp [bitRange]
  bounded := by simp [bitRange, maxWireProofBytes]

theorem relation_proof_wire_bits :
    ∃ wire, WireRelationProof.toBytes bitRange ⟨true, false⟩ = .ok wire ∧
      WireRelationProof.fromBytes bitRange wire = .ok ⟨true, false⟩ :=
  (WireRelationProof.relation_proof_wire bitRange_canonical).1 _

end DeFMI
