import DeFMI.Ledger
import DeFMI.Lib.Reader
set_option autoImplicit false

/-!
The transport form of a note spend. Points, scalars, range proofs and ring proofs
come with codecs of their own.
-/

namespace DeFMI
open Lib

structure WireOpeningProof (V S : Type) where
  t : V
  zValue : S
  zBlinding : S

/-- A spend proof as it is carried: note bindings are digests, and the commitments of
the range proof are kept as bytes. -/
structure WireSpendProof (V S Ring Range : Type) where
  serialPoint : V
  pseudo : V
  ring : Ring
  outputs : List V
  outputNotes : List Id
  outputRange : Range
  outputRangeCommitments : List Id
  balance : WireOpeningProof V S
  tag : V

structure SpendCodecs (V S Ring Range : Type) where
  compress : V → Id
  decompress : Id → Option V
  scalarBytes : S → Id
  fromCanonicalBytes : Id → Option S
  ringBytes : Ring → Bytes
  ringFromBytes : Bytes → Result Ring
  rangeBytes : Range → Bytes
  rangeFromBytes : Bytes → Option Range

/-- Each value has one encoding, and nothing else is decoded. -/
structure SpendCodecs.Canonical {V S Ring Range : Type} (c : SpendCodecs V S Ring Range) : Prop where
  point : ∀ bytes v, c.decompress bytes = some v ↔ c.compress v = bytes
  scalar : ∀ bytes s, c.fromCanonicalBytes bytes = some s ↔ c.scalarBytes s = bytes
  ring : ∀ bytes p, c.ringFromBytes bytes = .ok p ↔ c.ringBytes p = bytes
  range : ∀ bytes p, c.rangeFromBytes bytes = some p ↔ c.rangeBytes p = bytes

def spendProofWireMagic : Bytes := utf8 "QOMMNSP2"
def maxSpendProofWire : ℕ := 2 ^ 21
def maxSpendVector : ℕ := 64

section Codec

variable {V S Ring Range : Type} (c : SpendCodecs V S Ring Range)

def pushPoint (v : V) : Bytes := (c.compress v).val

def pushScalar (s : S) : Bytes := (c.scalarBytes s).val

/-- The bytes after the magic. A count that does not fit four bytes is cut off, as by `as u32`. -/
def spendProofBody (p : WireSpendProof V S Ring Range) : Bytes :=
  pushPoint c p.serialPoint ++ (pushPoint c p.pseudo ++
    (counted 4 (c.ringBytes p.ring) ++
    (beBytes 4 p.outputs.length ++ (p.outputs.flatMap (pushPoint c) ++
    (beBytes 4 p.outputNotes.length ++ (p.outputNotes.flatMap Subtype.val ++
    (counted 4 (c.rangeBytes p.outputRange) ++
    (beBytes 4 p.outputRangeCommitments.length ++ (p.outputRangeCommitments.flatMap Subtype.val ++
    (pushPoint c p.balance.t ++ (pushScalar c p.balance.zValue ++
    (pushScalar c p.balance.zBlinding ++ pushPoint c p.tag))))))))))))

def encodeSpendProof (p : WireSpendProof V S Ring Range) : Result Bytes := do
  require (p.outputs.length ≤ maxSpendVector) "note-spend proof point vector exceeds its bound"
  require (p.outputNotes.length = p.outputs.length) "output note binding count mismatch"
  let range := c.rangeBytes p.outputRange
  require (¬(range = [] ∨ maxSpendProofWire < range.length))
    "note-spend range proof exceeds its bound"
  require (p.outputRangeCommitments.length ≤ maxSpendVector)
    "note-spend range commitments exceed their bound"
  let out := spendProofWireMagic ++ spendProofBody c p
  require (out.length ≤ maxSpendProofWire) "note-spend proof wire exceeds its bound"
  pure out

def readArray (n : ℕ) : Reader {bytes : Bytes // bytes.length = n} := do
  let bytes ← Reader.take "note-spend proof wire is truncated" n
  Reader.expect (Reader.toArray n bytes)

def readNumber : Reader ℕ := do
  let bytes ← readArray 4
  pure (beValue bytes.val)

def readCount : Reader ℕ := do
  let count ← readNumber
  Reader.lift (require (count ≤ maxSpendVector) "note-spend proof vector exceeds its bound")
  pure count

def readPoint : Reader V := do
  let encoded ← readArray 32
  Reader.lift (okOr (c.decompress encoded) "note-spend proof contains a non-canonical point")

def readScalar : Reader S := do
  let encoded ← readArray 32
  Reader.lift (okOr (c.fromCanonicalBytes encoded) "note-spend proof contains a non-canonical scalar")

def readPoints : Reader (List V) := do
  let count ← readCount
  Reader.many (readPoint c) count

def readRing : Reader Ring := do
  let length ← readNumber
  let bytes ← Reader.take "note-spend proof wire is truncated" length
  Reader.lift (c.ringFromBytes bytes)

def readOutputNotes (outputs : ℕ) : Reader (List Id) := do
  let count ← readCount
  Reader.lift (require (count = outputs) "output note binding count mismatch")
  Reader.many (readArray 32) count

def readRange : Reader Range := do
  let length ← readNumber
  Reader.lift (require (¬(length = 0 ∨ maxSpendProofWire < length))
    "note-spend range proof length is invalid")
  let bytes ← Reader.take "note-spend proof wire is truncated" length
  Reader.lift (okOr (c.rangeFromBytes bytes) "note-spend range proof is malformed")

def readCommitments : Reader (List Id) := do
  let count ← readCount
  Reader.many (readArray 32) count

def readBalance : Reader (WireOpeningProof V S) := do
  let t ← readPoint c
  let zValue ← readScalar c
  let zBlinding ← readScalar c
  pure ⟨t, zValue, zBlinding⟩

def readBody : Reader (WireSpendProof V S Ring Range) := do
  let serialPoint ← readPoint c
  let pseudo ← readPoint c
  let ring ← readRing c
  let outputs ← readPoints c
  let outputNotes ← readOutputNotes outputs.length
  let outputRange ← readRange c
  let outputRangeCommitments ← readCommitments
  let balance ← readBalance c
  let tag ← readPoint c
  pure ⟨serialPoint, pseudo, ring, outputs, outputNotes, outputRange, outputRangeCommitments,
    balance, tag⟩

def decodeSpendProof (raw : Bytes) : Except Stop (WireSpendProof V S Ring Range) :=
  if maxSpendProofWire < raw.length ∨ ¬ spendProofWireMagic <+: raw then
    .error (.error "note-spend proof wire has an invalid header or length")
  else
    match readBody c raw spendProofWireMagic.length with
    | .error e => .error e
    | .ok (p, i) =>
      if i ≠ raw.length then .error (.error "note-spend proof wire has trailing bytes") else .ok p

section Inversion
open Reader

theorem readArray_inverts (n : ℕ) : Inverts (readArray n) fun a bytes => bytes = a.val :=
  Inverts.ofArray (fun a ha => Inverts.expect (by simp [toArray, ha])) _

theorem readNumber_inverts :
    Inverts readNumber fun n bytes => n < 2 ^ 32 ∧ bytes = beBytes 4 n :=
  (readArray_inverts 4).value

theorem readCount_inverts :
    Inverts readCount fun n bytes => n ≤ maxSpendVector ∧ bytes = beBytes 4 n := by
  refine (readNumber_inverts.bind fun n _ _ => (Inverts.lift _).bind fun _ _ _ =>
    Inverts.pure n).congr ?_
  intro n bytes
  simp only [require_eq_ok]
  constructor
  · grind
  · rintro ⟨hn, rfl⟩
    have hlt : n < 2 ^ 32 := by
      simp only [maxSpendVector] at hn
      omega
    exact ⟨n, _, [], ⟨hlt, rfl⟩, ⟨(), [], [], ⟨hn, rfl⟩, ⟨rfl, rfl⟩, rfl⟩, by simp⟩

theorem readOutputNotes_inverts (outputs : ℕ) : Inverts (readOutputNotes outputs) fun notes bytes =>
    notes.length = outputs ∧ outputs ≤ maxSpendVector ∧
      bytes = beBytes 4 notes.length ++ notes.flatMap Subtype.val := by
  refine (readCount_inverts.bind fun n _ _ => (Inverts.lift _).bind fun _ _ _ =>
    (readArray_inverts 32).many n).congr fun notes bytes => ?_
  simp only [require_eq_ok]
  constructor
  · grind
  · grind

theorem readCommitments_inverts : Inverts readCommitments fun cs bytes =>
    cs.length ≤ maxSpendVector ∧ bytes = beBytes 4 cs.length ++ cs.flatMap Subtype.val := by
  refine (readCount_inverts.bind fun n _ _ => (readArray_inverts 32).many n).congr fun cs bytes => ?_
  simp

/-- What the encoder checks before it looks at the total length. -/
def WireSpendProof.Bounded (c : SpendCodecs V S Ring Range) (p : WireSpendProof V S Ring Range) :
    Prop :=
  p.outputs.length ≤ maxSpendVector ∧ p.outputNotes.length = p.outputs.length ∧
    ¬(c.rangeBytes p.outputRange = [] ∨ maxSpendProofWire < (c.rangeBytes p.outputRange).length) ∧
    p.outputRangeCommitments.length ≤ maxSpendVector

variable {c} {p : WireSpendProof V S Ring Range} {bytes : Bytes}

theorem encodeSpendProof_eq_ok :
    encodeSpendProof c p = .ok bytes ↔ p.Bounded c ∧ bytes.length ≤ maxSpendProofWire ∧
      bytes = spendProofWireMagic ++ spendProofBody c p := by
  simp only [encodeSpendProof, bind_eq_ok, require_eq_ok, pure_eq_ok, exists_const,
    WireSpendProof.Bounded, and_assoc]
  grind

theorem length_ringBytes_le (p : WireSpendProof V S Ring Range) :
    (c.ringBytes p.ring).length ≤ (spendProofBody c p).length := by
  simp only [spendProofBody, counted, List.length_append]
  omega

variable (hc : c.Canonical)
include hc

theorem readRing_inverts : Inverts (readRing c) fun p bytes =>
    (c.ringBytes p).length < 2 ^ 32 ∧ bytes = counted 4 (c.ringBytes p) := by
  refine (readNumber_inverts.bind fun n _ _ => (Inverts.take _ n).bind fun bytes _ _ =>
    Inverts.lift _).congr fun p bytes => ?_
  simp only [hc.ring, counted]
  constructor
  · grind
  · grind

theorem readRange_inverts : Inverts (readRange c) fun p bytes =>
    ¬(c.rangeBytes p = [] ∨ maxSpendProofWire < (c.rangeBytes p).length) ∧
      bytes = counted 4 (c.rangeBytes p) := by
  refine (readNumber_inverts.bind fun n _ _ => (Inverts.lift _).bind fun _ _ _ =>
    (Inverts.take _ n).bind fun bytes _ _ => Inverts.lift _).congr fun p bytes => ?_
  simp only [require_eq_ok, okOr_eq_ok, hc.range, counted]
  rw [← List.length_eq_zero_iff (l := c.rangeBytes p)]
  constructor
  · grind
  · rintro ⟨hn, rfl⟩
    have hlt : (c.rangeBytes p).length < 2 ^ 32 := by
      simp only [maxSpendProofWire] at hn
      omega
    exact ⟨_, _, _, ⟨hlt, rfl⟩, ⟨(), [], _, ⟨hn, rfl⟩,
      ⟨_, _, [], ⟨rfl, rfl⟩, ⟨rfl, rfl⟩, rfl⟩, rfl⟩, by simp⟩

theorem readPoint_inverts : Inverts (readPoint c) fun v bytes => bytes = pushPoint c v := by
  refine ((readArray_inverts 32).bind fun a _ _ => Inverts.lift _).congr fun v bytes => ?_
  simp [okOr_eq_ok, hc.point, pushPoint]

theorem readScalar_inverts : Inverts (readScalar c) fun s bytes => bytes = pushScalar c s := by
  refine ((readArray_inverts 32).bind fun a _ _ => Inverts.lift _).congr fun v bytes => ?_
  simp [okOr_eq_ok, hc.scalar, pushScalar]

theorem readPoints_inverts : Inverts (readPoints c) fun vs bytes =>
    vs.length ≤ maxSpendVector ∧ bytes = beBytes 4 vs.length ++ vs.flatMap (pushPoint c) := by
  refine (readCount_inverts.bind fun n _ _ => (readPoint_inverts hc).many n).congr fun vs bytes => ?_
  simp

theorem readBalance_inverts : Inverts (readBalance c) fun p bytes =>
    bytes = pushPoint c p.t ++ (pushScalar c p.zValue ++ pushScalar c p.zBlinding) := by
  refine ((readPoint_inverts hc).bind fun t _ _ => (readScalar_inverts hc).bind fun zValue _ _ =>
    (readScalar_inverts hc).bind fun zBlinding _ _ => Inverts.pure _).congr fun p bytes => ?_
  obtain ⟨t, zValue, zBlinding⟩ := p
  simp

theorem readBody_inverts : Inverts (readBody c) fun p bytes =>
    p.Bounded c ∧ (c.ringBytes p.ring).length < 2 ^ 32 ∧ bytes = spendProofBody c p := by
  refine ((readPoint_inverts hc).bind fun serialPoint _ _ => (readPoint_inverts hc).bind
    fun pseudo _ _ => (readRing_inverts hc).bind fun ring _ _ => (readPoints_inverts hc).bind
    fun outputs _ _ => (readOutputNotes_inverts outputs.length).bind fun notes _ _ =>
    (readRange_inverts hc).bind fun range _ _ => readCommitments_inverts.bind
    fun commitments _ _ => (readBalance_inverts hc).bind fun balance _ _ =>
    (readPoint_inverts hc).bind fun tag _ _ => Inverts.pure _).congr fun p bytes => ?_
  constructor
  · rintro ⟨serialPoint, _, _, rfl, ⟨pseudo, _, _, rfl, ⟨ring, _, _, ⟨hring, rfl⟩, ⟨outputs, _, _,
      ⟨houtputs, rfl⟩, ⟨notes, _, _, ⟨hnotes, _, rfl⟩, ⟨range, _, _, ⟨hrange, rfl⟩, ⟨commitments, _, _,
      ⟨hcommitments, rfl⟩, ⟨balance, _, _, rfl, ⟨tag, _, _, rfl, ⟨rfl, rfl⟩, rfl⟩, rfl⟩, rfl⟩, rfl⟩,
      rfl⟩, rfl⟩, rfl⟩, rfl⟩, rfl⟩
    exact ⟨⟨houtputs, hnotes, hrange, hcommitments⟩, hring, by simp [spendProofBody]⟩
  · rintro ⟨⟨houtputs, hnotes, hrange, hcommitments⟩, hring, rfl⟩
    refine ⟨_, _, _, rfl, ⟨_, _, _, rfl, ⟨_, _, _, ⟨hring, rfl⟩, ⟨_, _, _, ⟨houtputs, rfl⟩, ⟨_, _, _,
      ⟨hnotes, houtputs, rfl⟩, ⟨_, _, _, ⟨hrange, rfl⟩, ⟨_, _, _, ⟨hcommitments, rfl⟩, ⟨_, _, _, rfl,
      ⟨_, _, [], rfl, ⟨rfl, rfl⟩, rfl⟩, rfl⟩, rfl⟩, rfl⟩, rfl⟩, rfl⟩, rfl⟩, rfl⟩, ?_⟩
    simp [spendProofBody]

theorem decodeSpendProof_of_encode
    (h : encodeSpendProof c p = .ok bytes) : decodeSpendProof c bytes = .ok p := by
  obtain ⟨hbounded, hlength, rfl⟩ := encodeSpendProof_eq_ok.mp h
  have hring : (c.ringBytes p.ring).length < 2 ^ 32 := by
    have hle := length_ringBytes_le (c := c) p
    simp only [List.length_append, maxSpendProofWire] at hlength
    omega
  have hread := (readBody_inverts hc).complete (spendProofWireMagic ++ spendProofBody c p)
    spendProofWireMagic.length p _ [] ⟨hbounded, hring, rfl⟩ (by simp) (by simp)
  rw [List.length_append] at hlength
  simp [decodeSpendProof, hlength, hread]

theorem encodeSpendProof_of_decode
    (h : decodeSpendProof c bytes = .ok p) : encodeSpendProof c p = .ok bytes := by
  unfold decodeSpendProof at h
  split at h
  · simp at h
  · next hheader =>
    obtain ⟨hlength, rest, rfl⟩ := not_or.mp hheader |>.imp Nat.le_of_not_lt not_not.mp
    split at h
    · simp at h
    · next q i hread =>
      obtain ⟨_, body, ⟨hbounded, _, rfl⟩, hbytes⟩ :=
        (readBody_inverts hc).sound _ _ _ _ (by simp) hread
      split at h
      · simp at h
      · next hend =>
        obtain rfl : q = p := Except.ok.inj h
        rw [not_not.mp hend, List.drop_left, List.drop_length, List.append_nil] at hbytes
        exact encodeSpendProof_eq_ok.mpr ⟨hbounded, hlength, by rw [hbytes]⟩

theorem decodeSpendProof_ne_panic (raw : Bytes) : decodeSpendProof c raw ≠ .error .panic := by
  unfold decodeSpendProof
  split
  · simp
  · next hheader =>
    obtain ⟨_, rest, rfl⟩ := not_or.mp hheader |>.imp id not_not.mp
    have hstop := (readBody_inverts hc).noPanic (spendProofWireMagic ++ rest)
      spendProofWireMagic.length (by simp)
    split
    · next hread => simpa [hread] using hstop
    · split <;> simp

end Inversion

/-- With canonical component codecs the encoder and the decoder are inverse to each other,
and the decoder answers every byte string without leaving it. -/
theorem spend_proof_wire {c : SpendCodecs V S Ring Range} (hc : c.Canonical) :
    (∀ p bytes, encodeSpendProof c p = .ok bytes → decodeSpendProof c bytes = .ok p) ∧
    (∀ bytes p, decodeSpendProof c bytes = .ok p → encodeSpendProof c p = .ok bytes) ∧
    ∀ bytes, decodeSpendProof c bytes ≠ .error .panic :=
  ⟨fun _ _ => decodeSpendProof_of_encode hc, fun _ _ => encodeSpendProof_of_decode hc,
    decodeSpendProof_ne_panic hc⟩

end Codec

/-- A bit in 32 bytes. -/
def bitArray (b : Bool) : Id := Id.fill (if b then 1 else 0)

def fromBitArray (bytes : Id) : Option Bool :=
  if bytes = bitArray true then some true else if bytes = bitArray false then some false else none

/-- Points and scalars are bits, the proofs are bytes. -/
def bitCodecs : SpendCodecs Bool Bool Bytes Bytes :=
  ⟨bitArray, fromBitArray, bitArray, fromBitArray, id, .ok, id, some⟩

theorem bitCodecs_canonical : bitCodecs.Canonical := by
  have hbit (bytes : Id) (b : Bool) : fromBitArray bytes = some b ↔ bitArray b = bytes := by
    have hne : bitArray true ≠ bitArray false := by decide
    unfold fromBitArray
    cases b <;> grind
  exact ⟨hbit, hbit, fun _ _ => by simp [bitCodecs, eq_comm], fun _ _ => by simp [bitCodecs, eq_comm]⟩

def bitSpend : WireSpendProof Bool Bool Bytes Bytes :=
  ⟨true, false, [7], [true, false], [Id.fill 1, Id.fill 2], [8, 9], [Id.fill 3], ⟨true, true, false⟩,
    false⟩

theorem spend_proof_wire_sample :
    ∃ bytes, encodeSpendProof bitCodecs bitSpend = .ok bytes ∧
      decodeSpendProof bitCodecs bytes = .ok bitSpend :=
  ⟨spendProofWireMagic ++ spendProofBody bitCodecs bitSpend, by decide +kernel,
    (spend_proof_wire bitCodecs_canonical).1 _ _ (by decide +kernel)⟩

end DeFMI
