import DeFMI.StateSync
set_option autoImplicit false

/-!
The wire forms of state synchronisation: summaries, chunk requests and chunk
responses. Digests are arrays of 32 bytes here.
-/

namespace DeFMI
open Lib Stop List

def requestMagic : Bytes := utf8 "QOMMSSR1"
def responseMagic : Bytes := utf8 "QOMMSSD1"
def summaryBytes : ℕ := 8 + 2 + 4 + 7 * 32 + 8 + 8 + 8 + 4 + 4

structure ChunkRequest (H : Type) where
  summary : StateSummary H
  index : ℕ

variable {State : Type} (api : SyncApi State Id)

namespace StateSummary

def read : Reader (StateSummary Id) := do
  let start ← Reader.take "state-sync message is truncated" 8
  Reader.lift (require (start = summaryMagic) "state summary magic is unsupported")
  let version ← Reader.number "state-sync message is truncated" 2
  Reader.lift (require (version = summaryVersion) "state summary version is unsupported")
  let networkId ← Reader.number "state-sync message is truncated" 4
  let chainId ← Reader.array "state-sync message is truncated" 32
  let genesisHash ← Reader.array "state-sync message is truncated" 32
  let blockId ← Reader.array "state-sync message is truncated" 32
  let parentId ← Reader.array "state-sync message is truncated" 32
  let stateRoot ← Reader.array "state-sync message is truncated" 32
  let snapshotHash ← Reader.array "state-sync message is truncated" 32
  let chunkRoot ← Reader.array "state-sync message is truncated" 32
  let height ← Reader.u64 "state-sync message is truncated"
  let timestamp ← Reader.i64 "state-sync message is truncated"
  let snapshotLen ← Reader.number "state-sync message is truncated" 8
  let chunkSize ← Reader.number "state-sync message is truncated" 4
  let chunkCount ← Reader.number "state-sync message is truncated" 4
  pure ⟨networkId, chainId, genesisHash, blockId, parentId, stateRoot, snapshotHash, chunkRoot,
    height, timestamp, snapshotLen, chunkSize, chunkCount⟩

def decode (bytes : Bytes) : Except Stop (StateSummary Id) := do
  lift (require (bytes.length = summaryBytes) ("state summary has " ++ toString bytes.length
    ++ " bytes; expected " ++ toString summaryBytes))
  let summary ← read.run "state summary has trailing bytes" bytes
  lift (summary.validate api)
  let encoded ← lift (summary.encode api)
  lift (require (encoded = bytes) "state summary encoding is not canonical")
  pure summary

end StateSummary

namespace ChunkRequest

def encode (request : ChunkRequest Id) : Result Bytes := do
  require (request.index < request.summary.chunkCount)
    "state chunk request index is outside the summary"
  let summary ← request.summary.encode api
  pure (requestMagic ++ (summary ++ beBytes 4 request.index))

def decode (bytes : Bytes) : Except Stop (ChunkRequest Id) := do
  lift (require (bytes.length = 8 + summaryBytes + 4)
    "state chunk request has an unsupported envelope")
  let start ← slice bytes 0 8
  lift (require (start = requestMagic) "state chunk request has an unsupported envelope")
  let middle ← slice bytes 8 (8 + summaryBytes)
  let summary ← StateSummary.decode api middle
  let last ← slice bytes (8 + summaryBytes) bytes.length
  let index ← lift (okOr (Reader.toArray 4 last) "state chunk request is truncated")
  lift (require (beValue index.val < summary.chunkCount)
    "state chunk request index is outside the summary")
  pure ⟨summary, beValue index.val⟩

end ChunkRequest

namespace ChunkResponse

def encode (response : ChunkResponse Id) : Result Bytes := do
  response.dimensions
  require (response.proof.length < 2 ^ 16) "state chunk proof is too deep"
  require (response.bytes.length < 2 ^ 32) "state chunk is too large"
  pure (responseMagic ++ (response.summaryId.val ++ (beBytes 4 response.index ++
    (beBytes 4 response.chunkCount ++ (beBytes 2 response.proof.length ++
      (response.proof.flatMap Subtype.val ++ counted 4 response.bytes))))))

def read : Reader (ChunkResponse Id) := do
  let start ← Reader.take "state-sync message is truncated" 8
  Reader.lift (require (start = responseMagic) "state chunk response magic is unsupported")
  let summaryId ← Reader.array "state-sync message is truncated" 32
  let index ← Reader.number "state-sync message is truncated" 4
  let chunkCount ← Reader.number "state-sync message is truncated" 4
  let proofLen ← Reader.number "state-sync message is truncated" 2
  Reader.lift (require (proofLen ≤ maxMerkleDepth) "state chunk proof is too deep")
  let proof ← Reader.many (Reader.array "state-sync message is truncated" 32) proofLen
  let byteLen ← Reader.number "state-sync message is truncated" 4
  Reader.lift (require (¬(byteLen = 0 ∨ chunkBytes < byteLen))
    "state chunk length is outside its bound")
  let chunk ← Reader.take "state-sync message is truncated" byteLen
  pure ⟨summaryId, index, chunkCount, proof, chunk⟩

def decode (bytes : Bytes) : Except Stop (ChunkResponse Id) := do
  let response ← read.run "state chunk response has trailing bytes" bytes
  let _ ← lift response.encode
  pure response

end ChunkResponse

section Inversion
open Reader

theorem length_id (id : Id) : id.val.length = 32 := id.property

theorem length_summaryMagic : summaryMagic.length = 8 := by decide +kernel

theorem length_requestMagic : requestMagic.length = 8 := by decide +kernel

theorem length_responseMagic : responseMagic.length = 8 := by decide +kernel

namespace StateSummary

def wire (summary : StateSummary Id) : Bytes :=
  summaryMagic ++ (beBytes 2 summaryVersion ++ (beBytes 4 summary.networkId ++
    (summary.chainId.val ++ (summary.genesisHash.val ++ (summary.blockId.val ++
    (summary.parentId.val ++ (summary.stateRoot.val ++ (summary.snapshotHash.val ++
    (summary.chunkRoot.val ++ (beBytes 8 summary.height.toNat ++
    (beBytes 8 summary.timestamp.toUInt64.toNat ++ (beBytes 8 summary.snapshotLen ++
    (beBytes 4 summary.chunkSize ++ beBytes 4 summary.chunkCount)))))))))))))

/-- The machine types of the numbers that the model keeps as `ℕ`. -/
def Typed (summary : StateSummary Id) : Prop :=
  summary.networkId < 2 ^ 32 ∧ summary.snapshotLen < 2 ^ 64 ∧ summary.chunkSize < 2 ^ 32 ∧
    summary.chunkCount < 2 ^ 32

theorem length_wire (summary : StateSummary Id) : summary.wire.length = summaryBytes := by
  simp [wire, length_summaryMagic, length_id, summaryBytes]

theorem read_inverts :
    Inverts read fun summary bytes => summary.Typed ∧ bytes = summary.wire := by
  refine ((Inverts.take _ 8).bind fun start _ _ => (Inverts.lift _).bind fun _ _ _ =>
    (Inverts.number _ 2).bind fun version _ _ => (Inverts.lift _).bind fun _ _ _ =>
    (Inverts.number _ 4).bind fun networkId _ _ => (Inverts.array _ 32).bind fun chainId _ _ =>
    (Inverts.array _ 32).bind fun genesisHash _ _ => (Inverts.array _ 32).bind fun blockId _ _ =>
    (Inverts.array _ 32).bind fun parentId _ _ => (Inverts.array _ 32).bind fun stateRoot _ _ =>
    (Inverts.array _ 32).bind fun snapshotHash _ _ => (Inverts.array _ 32).bind
    fun chunkRoot _ _ => (Inverts.u64 _).bind fun height _ _ => (Inverts.i64 _).bind
    fun timestamp _ _ => (Inverts.number _ 8).bind fun snapshotLen _ _ =>
    (Inverts.number _ 4).bind fun chunkSize _ _ => (Inverts.number _ 4).bind fun chunkCount _ _ =>
    Inverts.pure _).congr fun summary bytes => ?_
  obtain ⟨networkId, chainId, genesisHash, blockId, parentId, stateRoot, snapshotHash, chunkRoot,
    height, timestamp, snapshotLen, chunkSize, chunkCount⟩ := summary
  have hversion : summaryVersion < 65536 := by decide
  simp [wire, Typed, length_summaryMagic, hversion]

theorem Typed.of_validate {summary : StateSummary Id} (hvalid : summary.validate api = .ok ())
    (hnetwork : summary.networkId < 2 ^ 32) : summary.Typed := by
  simp only [validate, ok_iff, maxSnapshotBytes, chunkBytes, not_or, not_lt, not_not, ne_eq]
    at hvalid
  obtain ⟨⟨-, -, -, -, -, -, -, -, hlen, hsize⟩, -, hcount⟩ := hvalid
  refine ⟨hnetwork, ?_, ?_, ?_⟩ <;> omega

variable {api} (hhash : api.hashBytes = Subtype.val)
include hhash

theorem encode_eq_ok {summary : StateSummary Id} {bytes : Bytes} :
    summary.encode api = .ok bytes ↔ summary.validate api = .ok () ∧ bytes = summary.wire := by
  simp only [encode, ok_iff, wire, hhash, append_assoc, eq_comm (a := bytes)]

theorem decode_eq_ok {summary : StateSummary Id} {bytes : Bytes} :
    decode api bytes = .ok summary ↔
      summary.encode api = .ok bytes ∧ summary.networkId < 2 ^ 32 := by
  simp only [decode, ok_iff, lift_eq_ok, read_inverts.run_ok, encode_eq_ok hhash]
  constructor
  · rintro ⟨-, _, ⟨htyped, rfl⟩, hvalid, _, -, -, rfl⟩
    exact ⟨⟨hvalid, rfl⟩, htyped.1⟩
  · rintro ⟨⟨hvalid, rfl⟩, hnetwork⟩
    exact ⟨length_wire _, _, ⟨.of_validate api hvalid hnetwork, rfl⟩, hvalid, _, ⟨hvalid, rfl⟩,
      rfl, rfl⟩

omit hhash in
theorem decode_ne_panic (bytes : Bytes) : decode api bytes ≠ .error .panic :=
  lift_bind_ne_panic fun _ _ =>
    bind_ne_panic (read_inverts.run_ne_panic _ _) fun _ _ =>
    lift_bind_ne_panic fun _ _ =>
    lift_bind_ne_panic fun _ _ =>
    lift_bind_ne_panic fun _ _ => nofun

end StateSummary

namespace ChunkRequest
variable {api} (hhash : api.hashBytes = Subtype.val)
include hhash

theorem decode_eq_ok {request : ChunkRequest Id} {bytes : Bytes} :
    decode api bytes = .ok request ↔
      request.encode api = .ok bytes ∧ request.summary.networkId < 2 ^ 32 := by
  obtain ⟨summary, index⟩ := request
  simp only [decode, encode, ok_iff, lift_eq_ok, slice_eq_ok, toArray_eq_some,
    StateSummary.decode_eq_ok hhash, ChunkRequest.mk.injEq]
  constructor
  · rintro ⟨hlength, start, ⟨-, -, hstart⟩, rfl, middle, ⟨-, -, hmiddle⟩, _, ⟨hencode, hnetwork⟩,
      last, ⟨-, -, hlast⟩, ⟨tail, htail⟩, rfl, hbound, rfl, rfl⟩
    have hvalue := beBytes_beValue last
    rw [htail] at hvalue
    refine ⟨⟨hbound, middle, hencode, ?_⟩, hnetwork⟩
    rw [hvalue, ← hstart, ← hmiddle, ← hlast, ← length_drop, take_length,
      Nat.add_sub_cancel_left, ← drop_drop, take_append_drop]
    exact take_append_drop 8 bytes
  · rintro ⟨⟨hbound, middle, hmiddle, rfl⟩, hnetwork⟩
    obtain ⟨hvalid, rfl⟩ := (StateSummary.encode_eq_ok hhash).mp hmiddle
    have hmagic := length_requestMagic
    have hwire := summary.length_wire
    have htyped := StateSummary.Typed.of_validate api hvalid hnetwork
    have hindex : index < 256 ^ 4 := hbound.trans htyped.2.2.2
    have hvalue := beValue_beBytes hindex
    refine ⟨by simp [hmagic, hwire, Nat.add_assoc], requestMagic, ⟨by omega, by simp [hmagic], ?_⟩,
      rfl, summary.wire, ⟨by omega, by simp [hmagic, hwire], ?_⟩, summary, ⟨hmiddle, hnetwork⟩,
      beBytes 4 index, ⟨by simp [hmagic, hwire], le_rfl, ?_⟩, ⟨_, length_beBytes 4 index⟩, rfl,
      by simpa [hvalue] using hbound, rfl, hvalue⟩
    · simp [← hmagic]
    · simp [← hmagic, ← hwire]
    · simp [← hmagic, ← hwire]
      omega

omit hhash in
theorem decode_ne_panic (bytes : Bytes) : decode api bytes ≠ .error .panic := by
  refine lift_bind_ne_panic fun _ hlength => ?_
  have hlength : bytes.length = 8 + summaryBytes + 4 := by simpa using hlength
  exact bind_ne_panic (slice_ne_panic (by omega) (by omega)) fun _ _ =>
    lift_bind_ne_panic fun _ _ =>
    bind_ne_panic (slice_ne_panic (by omega) (by omega)) fun _ _ =>
    bind_ne_panic (StateSummary.decode_ne_panic _) fun _ _ =>
    bind_ne_panic (slice_ne_panic (by omega) le_rfl) fun _ _ =>
    lift_bind_ne_panic fun _ _ =>
    lift_bind_ne_panic fun _ _ => nofun

end ChunkRequest

namespace ChunkResponse

def wire (response : ChunkResponse Id) : Bytes :=
  responseMagic ++ (response.summaryId.val ++ (beBytes 4 response.index ++
    (beBytes 4 response.chunkCount ++ (beBytes 2 response.proof.length ++
      (response.proof.flatMap Subtype.val ++ counted 4 response.bytes)))))

theorem read_inverts : Inverts read fun response bytes =>
    response.index < 2 ^ 32 ∧ response.chunkCount < 2 ^ 32 ∧
      response.proof.length ≤ maxMerkleDepth ∧
      (response.bytes ≠ [] ∧ response.bytes.length ≤ chunkBytes) ∧ bytes = response.wire := by
  refine ((Inverts.take _ 8).bind fun start _ _ => (Inverts.lift _).bind fun _ _ _ =>
    (Inverts.array _ 32).bind fun summaryId _ _ => (Inverts.number _ 4).bind fun index _ _ =>
    (Inverts.number _ 4).bind fun chunkCount _ _ => (Inverts.number _ 2).bind fun proofLen _ _ =>
    (Inverts.lift _).bind fun _ _ _ => ((Inverts.array _ 32).many proofLen).bind fun proof _ _ =>
    (Inverts.number _ 4).bind fun byteLen _ _ => (Inverts.lift _).bind fun _ _ _ =>
    (Inverts.take _ byteLen).bind fun chunk _ _ => Inverts.pure _).congr fun response bytes => ?_
  obtain ⟨summaryId, index, chunkCount, proof, chunk⟩ := response
  have hproof : proof.length ≤ maxMerkleDepth → proof.length < 65536 := by
    unfold maxMerkleDepth
    omega
  have hchunk : chunk.length ≤ chunkBytes → chunk.length < 4294967296 := by
    unfold chunkBytes
    omega
  simp [wire, length_responseMagic, counted]
  tauto

theorem dimensions_eq_ok {response : ChunkResponse Id} : response.dimensions = .ok () ↔
    response.summaryId ≠ Id.zero ∧ response.index < response.chunkCount ∧
      response.proof.length ≤ maxMerkleDepth ∧ response.bytes ≠ [] ∧
      response.bytes.length ≤ chunkBytes := by
  have hpos : response.index < response.chunkCount → response.chunkCount ≠ 0 := by omega
  simp only [dimensions, require_eq_ok, not_or, not_le, not_lt]
  tauto

theorem encode_eq_ok {response : ChunkResponse Id} {bytes : Bytes} :
    response.encode = .ok bytes ↔ response.dimensions = .ok () ∧ bytes = response.wire := by
  have hproof : response.proof.length ≤ maxMerkleDepth → response.proof.length < 2 ^ 16 := by
    unfold maxMerkleDepth
    omega
  have hchunk : response.bytes.length ≤ chunkBytes → response.bytes.length < 2 ^ 32 := by
    unfold chunkBytes
    omega
  simp only [encode, ok_iff, dimensions_eq_ok, wire, eq_comm (a := bytes)]
  tauto

theorem decode_eq_ok {response : ChunkResponse Id} {bytes : Bytes} :
    decode bytes = .ok response ↔ response.encode = .ok bytes ∧ response.chunkCount < 2 ^ 32 := by
  simp only [decode, ok_iff, lift_eq_ok, read_inverts.run_ok, encode_eq_ok, dimensions_eq_ok]
  constructor
  · rintro ⟨_, ⟨-, hcount, -, -, rfl⟩, _, ⟨hdimensions, -⟩, rfl⟩
    exact ⟨⟨hdimensions, rfl⟩, hcount⟩
  · rintro ⟨⟨hdimensions, rfl⟩, hcount⟩
    have hindex := hdimensions.2.1
    exact ⟨_, ⟨hindex.trans hcount, hcount, hdimensions.2.2.1, hdimensions.2.2.2, rfl⟩, _,
      ⟨hdimensions, rfl⟩, rfl⟩

theorem decode_ne_panic (bytes : Bytes) : decode bytes ≠ .error .panic :=
  bind_ne_panic (read_inverts.run_ne_panic _ _) fun _ _ =>
    lift_bind_ne_panic fun _ _ => nofun

end ChunkResponse

/-- Every message has one encoding, which is the only byte string its decoder accepts for it,
and no byte string makes a decoder panic. -/
theorem state_sync_wire (hhash : api.hashBytes = Subtype.val) :
    Codec (fun summary => summary.networkId < 2 ^ 32)
      (StateSummary.encode api) (StateSummary.decode api) ∧
    Codec (fun request => request.summary.networkId < 2 ^ 32)
      (ChunkRequest.encode api) (ChunkRequest.decode api) ∧
    Codec (fun response => response.chunkCount < 2 ^ 32)
      ChunkResponse.encode ChunkResponse.decode :=
  ⟨.of_iff (StateSummary.decode_eq_ok hhash) StateSummary.decode_ne_panic,
    .of_iff (ChunkRequest.decode_eq_ok hhash) ChunkRequest.decode_ne_panic,
    .of_iff ChunkResponse.decode_eq_ok ChunkResponse.decode_ne_panic⟩

end Inversion

def wireApi : SyncApi Unit Id where
  digest _ := Id.fill 1
  leafHash _ _ := Id.fill 2
  nodeHash _ _ := Id.fill 3
  hashBytes := Subtype.val
  zeroHash := Id.zero
  toVec _ := pure []
  fromSlice _ := pure ()
  validateState _ := pure ()
  root _ := Id.fill 4

def wireRequest : ChunkRequest Id :=
  ⟨⟨7, Id.fill 1, Id.fill 2, Id.fill 3, Id.fill 4, Id.fill 5, Id.fill 6, Id.fill 7, 8, 9,
    chunkBytes + 1, chunkBytes, 2⟩, 1⟩

theorem state_sync_wire_request :
    ChunkRequest.decode wireApi (requestMagic ++ (wireRequest.summary.wire ++ beBytes 4 1)) =
      .ok wireRequest :=
  (state_sync_wire wireApi rfl).2.1.decode_encode _ _ (by decide) (by decide +kernel)

end DeFMI
