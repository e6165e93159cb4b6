import DeFMI.Block
import DeFMI.Lib.Merkle
set_option autoImplicit false

/-!
State summaries: a block and a state are committed to as one snapshot, cut into
chunks under a Merkle root, and every chunk is sent with its own proof.
-/

namespace DeFMI
open Lib List Option Merkle

/-- The code a summary relies on and that is not its own: the hash functions,
the JSON codec of the state, and the state's own validation and root. The tree's
digests have a type of their own, so that their hashes can be free of collisions. -/
structure SyncApi (State H : Type) where
  digest : Bytes → Id
  leafHash : ℕ → Bytes → H
  nodeHash : H → H → H
  hashBytes : H → Bytes
  zeroHash : H
  toVec : State → Result Bytes
  fromSlice : Bytes → Result State
  validateState : State → Check
  root : State → Id

structure SyncApi.Ideal {State H : Type} (api : SyncApi State H) : Prop where
  leaf_inj : ∀ i b j c, api.leafHash i b = api.leafHash j c → i = j ∧ b = c
  node_inj : ∀ a b c d, api.nodeHash a b = api.nodeHash c d → a = c ∧ b = d
  digest_ne_zero : ∀ b, api.digest b ≠ Id.zero
  fromSlice_toVec : ∀ s b, api.toVec s = .ok b → api.fromSlice b = .ok s

def summaryMagic : Bytes := utf8 "QOMMSSM1"
def snapshotMagic : Bytes := utf8 "QOMMSNP1"
def summaryVersion : ℕ := 1
def snapshotDomain : Bytes := utf8 "QOMM:STATE-SYNC:SNAPSHOT:v1"
def chunkBytes : ℕ := 512 * 1024
def maxSnapshotBytes : ℕ := 66 * 1024 * 1024
def maxMerkleDepth : ℕ := 32

structure StateSummary (H : Type) where
  networkId : ℕ
  chainId : Id
  genesisHash : Id
  blockId : Id
  parentId : Id
  stateRoot : Id
  snapshotHash : Id
  chunkRoot : H
  height : UInt64
  timestamp : Int64
  snapshotLen : ℕ
  chunkSize : ℕ
  chunkCount : ℕ
  deriving DecidableEq

structure DecodedSnapshot (State : Type) where
  block : Block
  blockBytes : Bytes
  state : State

structure ChunkResponse (H : Type) where
  summaryId : Id
  index : ℕ
  chunkCount : ℕ
  proof : List H
  bytes : Bytes

variable {State H : Type}

section Definitions
variable [DecidableEq H] (api : SyncApi State H)

def SyncApi.encodeState (state : State) : Result Bytes := do
  api.validateState state
  api.toVec state

def SyncApi.decodeState (bytes : Bytes) : Result State := do
  let state ← api.fromSlice bytes
  api.validateState state
  let encoded ← api.encodeState state
  require (encoded = bytes) "consensus state is not in canonical encoding"
  pure state

def SyncApi.snapshotDigest (snapshot : Bytes) : Id :=
  api.digest (snapshotDomain ++ beBytes 8 snapshot.length ++ snapshot)

def SyncApi.merkleLeaves (pieces : List Bytes) : Result (List H) := do
  require (pieces ≠ [] ∧ pieces.length ≤ 2 ^ 32 - 1)
    "state snapshot chunk count is outside its bound"
  pure (pieces.mapIdx api.leafHash)

-- the two `okOr` below are array accesses of the source, always in range there
def SyncApi.merkleRoot (pieces : List Bytes) : Result H := do
  let level ← api.merkleLeaves pieces
  okOr (Merkle.root api.nodeHash level) "index out of bounds"

def SyncApi.merkleProof (pieces : List Bytes) (index : ℕ) : Result (List H) := do
  require (index < pieces.length) "state chunk proof index is outside the snapshot"
  let level ← api.merkleLeaves pieces
  let proof ← okOr (Merkle.proofFor api.nodeHash level index) "index out of bounds"
  require (proof.length ≤ maxMerkleDepth) "state chunk proof exceeds the supported depth"
  pure proof

def SyncApi.verifyMerkleProof (bytes : Bytes) (index count : ℕ) (proof : List H)
    (expectedRoot : H) : Bool :=
  decide (¬(count = 0 ∨ count ≤ index)) && decide (proof.length = Merkle.depth count) &&
    decide (Merkle.halvings proof.length count = 1) &&
    decide (Merkle.climb api.nodeHash (api.leafHash index bytes) index proof = expectedRoot)

namespace StateSummary

def validate (summary : StateSummary H) : Check := do
  require (¬(summary.chainId = Id.zero ∨ summary.genesisHash = Id.zero ∨
      summary.blockId = Id.zero ∨ summary.stateRoot = Id.zero ∨ summary.snapshotHash = Id.zero ∨
      summary.chunkRoot = api.zeroHash ∨ summary.timestamp < 0 ∨ summary.snapshotLen = 0 ∨
      maxSnapshotBytes < summary.snapshotLen ∨ summary.chunkSize ≠ chunkBytes))
    "state summary contains an invalid fixed field"
  let expected := (summary.snapshotLen + chunkBytes - 1) / chunkBytes
  require (¬(expected = 0 ∨ summary.chunkCount ≠ expected))
    "state summary chunk count does not match its snapshot length"

def encode (summary : StateSummary H) : Result Bytes := do
  summary.validate api
  pure (summaryMagic ++ beBytes 2 summaryVersion ++ beBytes 4 summary.networkId ++
    summary.chainId.val ++ summary.genesisHash.val ++ summary.blockId.val ++
    summary.parentId.val ++ summary.stateRoot.val ++ summary.snapshotHash.val ++
    api.hashBytes summary.chunkRoot ++ beBytes 8 summary.height.toNat ++
    beBytes 8 summary.timestamp.toUInt64.toNat ++ beBytes 8 summary.snapshotLen ++
    beBytes 4 summary.chunkSize ++ beBytes 4 summary.chunkCount)

def id (summary : StateSummary H) : Result Id := do
  let bytes ← summary.encode api
  pure (api.digest bytes)

end StateSummary

def snapshotOf (blockBytes stateBytes : Bytes) : Bytes :=
  snapshotMagic ++ (beBytes 4 blockBytes.length ++ (beBytes 8 stateBytes.length ++
    (blockBytes ++ stateBytes)))

def buildSummary (networkId : ℕ) (chainId genesisHash : Id) (block : Block) (state : State) :
    Result (StateSummary H × Bytes) := do
  let blockBytes ← block.encode
  let stateBytes ← api.encodeState state
  require (blockBytes.length < 2 ^ 32) "state snapshot block is too large"
  require (stateBytes.length < 2 ^ 64) "state snapshot state is too large"
  let snapshot := snapshotOf blockBytes stateBytes
  require (snapshot.length ≤ maxSnapshotBytes)
    ("state snapshot has " ++ toString snapshot.length ++ " bytes; maximum is "
      ++ toString maxSnapshotBytes)
  let pieces := chunks chunkBytes snapshot
  require (pieces.length < 2 ^ 32) "state snapshot has too many chunks"
  let blockId ← block.id api.digest
  let chunkRoot ← api.merkleRoot pieces
  let summary : StateSummary H :=
    { networkId, chainId, genesisHash, blockId, parentId := block.parentId,
      stateRoot := api.root state, snapshotHash := api.snapshotDigest snapshot, chunkRoot,
      height := block.height, timestamp := block.timestamp, snapshotLen := snapshot.length,
      chunkSize := chunkBytes, chunkCount := pieces.length }
  summary.validate api
  pure (summary, snapshot)

def decodeSnapshot (summary : StateSummary H) (snapshot : Bytes) :
    Result (DecodedSnapshot State) := do
  summary.validate api
  require (summary.snapshotLen = snapshot.length ∧
      api.snapshotDigest snapshot = summary.snapshotHash)
    "state snapshot length or digest differs from its summary"
  let chunkRoot ← api.merkleRoot (chunks chunkBytes snapshot)
  require (chunkRoot = summary.chunkRoot) "state snapshot chunks differ from their Merkle root"
  let (start, rest) ← take "state-sync message is truncated" 8 snapshot
  require (start = snapshotMagic) "state snapshot magic is unsupported"
  let (blockLen, rest) ← takeNumber "state-sync message is truncated" 4 rest
  let (stateLen, rest) ← takeNumber "state-sync message is truncated" 8 rest
  let (blockBytes, rest) ← take "state-sync message is truncated" blockLen rest
  let (stateBytes, rest) ← take "state-sync message is truncated" stateLen rest
  require (rest = []) "state snapshot has trailing bytes"
  let block ← Block.decode blockBytes
  let state ← api.decodeState stateBytes
  let blockId ← block.id api.digest
  require (¬(blockId ≠ summary.blockId ∨ block.parentId ≠ summary.parentId ∨
      block.height ≠ summary.height ∨ block.timestamp ≠ summary.timestamp ∨
      api.root state ≠ summary.stateRoot))
    "state snapshot block or state differs from its summary"
  pure ⟨block, blockBytes, state⟩

namespace ChunkResponse

def build (summary : StateSummary H) (snapshot : Bytes) (index : ℕ) : Result (ChunkResponse H) := do
  let _ ← decodeSnapshot api summary snapshot
  require (index < summary.chunkCount) "state chunk response index is outside the summary"
  let pieces := chunks chunkBytes snapshot
  let summaryId ← summary.id api
  let proof ← api.merkleProof pieces index
  let bytes ← okOr pieces[index]? "index out of bounds"
  pure { summaryId, index, chunkCount := summary.chunkCount, proof, bytes }

def dimensions (response : ChunkResponse H) : Check :=
  require (¬(response.summaryId = Id.zero ∨ response.chunkCount = 0 ∨
      response.chunkCount ≤ response.index ∨ maxMerkleDepth < response.proof.length ∨
      response.bytes = [] ∨ chunkBytes < response.bytes.length))
    "state chunk response contains invalid dimensions"

def expectedLen (response : ChunkResponse H) (summary : StateSummary H) : Result ℕ := do
  if response.index + 1 = response.chunkCount then
    let before := response.index * chunkBytes
    require (before ≤ summary.snapshotLen) "state chunk offset exceeds the snapshot"
    pure (summary.snapshotLen - before)
  else
    pure chunkBytes

def verify (response : ChunkResponse H) (summary : StateSummary H) : Check := do
  let summaryId ← summary.id api
  require (¬(response.summaryId ≠ summaryId ∨ response.chunkCount ≠ summary.chunkCount ∨
      response.chunkCount ≤ response.index))
    "state chunk response names another summary or index"
  let expectedLen ← response.expectedLen summary
  require (response.bytes.length = expectedLen ∧
      api.verifyMerkleProof response.bytes response.index response.chunkCount response.proof
        summary.chunkRoot = true)
    "state chunk data or Merkle proof is invalid"

end ChunkResponse

end Definitions

structure StateSummary.Commits [DecidableEq H] (api : SyncApi State H) (summary : StateSummary H)
    (snapshot : Bytes) : Prop where
  valid : summary.validate api = .ok ()
  len : summary.snapshotLen = snapshot.length
  hash : api.snapshotDigest snapshot = summary.snapshotHash
  root : api.merkleRoot (chunks chunkBytes snapshot) = .ok summary.chunkRoot
  count : summary.chunkCount = (chunks chunkBytes snapshot).length

section Codec
variable {api : SyncApi State H}

theorem decodeState_encodeState (hideal : api.Ideal) {state : State} {bytes : Bytes}
    (h : api.encodeState state = .ok bytes) : api.decodeState bytes = .ok state := by
  have hencode := h
  simp only [SyncApi.encodeState, ok_iff] at h
  obtain ⟨hvalid, hbytes⟩ := h
  refine bind_ok (hideal.fromSlice_toVec state bytes hbytes) ?_
  refine bind_ok hvalid ?_
  refine bind_ok hencode ?_
  exact bind_ok (require_ok rfl) rfl

theorem length_snapshotMagic : snapshotMagic.length = 8 := by decide +kernel

variable [DecidableEq H]

theorem buildSummary_ok (hideal : api.Ideal) {networkId : ℕ} {chainId genesisHash : Id}
    {block : Block} {state : State} {summary : StateSummary H} {snapshot : Bytes}
    (h : buildSummary api networkId chainId genesisHash block state = .ok (summary, snapshot)) :
    summary.Commits api snapshot ∧
      ∃ blockBytes, decodeSnapshot api summary snapshot = .ok ⟨block, blockBytes, state⟩ := by
  simp only [buildSummary, ok_iff] at h
  obtain ⟨blockBytes, hblock, stateBytes, hstate, hblockLen, hstateLen, hsize, hcount, blockId, hid,
    chunkRoot, hroot, hvalid, heq⟩ := h
  obtain ⟨rfl, rfl⟩ := Prod.mk.inj heq
  refine ⟨⟨hvalid, rfl, rfl, hroot, rfl⟩, blockBytes, ?_⟩
  have hblockWidth : blockBytes.length < 256 ^ 4 := by omega
  have hstateWidth : stateBytes.length < 256 ^ 8 := by omega
  have hstateTake : take "state-sync message is truncated" stateBytes.length (stateBytes ++ []) =
      .ok (stateBytes, []) := take_append rfl []
  rw [append_nil] at hstateTake
  refine bind_ok hvalid ?_
  refine bind_eq_ok.mpr ⟨(), require_ok ⟨rfl, rfl⟩, ?_⟩
  refine bind_ok hroot ?_
  refine bind_ok (require_ok rfl) ?_
  refine bind_ok (take_append length_snapshotMagic _) ?_
  refine bind_ok (require_ok rfl) ?_
  refine bind_ok (takeNumber_append hblockWidth _) ?_
  refine bind_ok (takeNumber_append hstateWidth _) ?_
  refine bind_ok (take_append rfl _) ?_
  refine bind_ok hstateTake ?_
  refine bind_ok (require_ok rfl) ?_
  refine bind_ok (Block.decode_encode hblock) ?_
  refine bind_ok (decodeState_encodeState hideal hstate) ?_
  refine bind_ok hid ?_
  exact bind_ok (require_ok (by simp)) rfl

end Codec

section Proofs
variable {api : SyncApi State H} {pieces : List Bytes} {root : H}

theorem merkleLeaves_ok {level : List H} (h : api.merkleLeaves pieces = .ok level) :
    (pieces ≠ [] ∧ pieces.length ≤ 2 ^ 32 - 1) ∧ level = pieces.mapIdx api.leafHash := by
  simp only [SyncApi.merkleLeaves, ok_iff] at h
  obtain ⟨hbound, rfl⟩ := h
  exact ⟨hbound, rfl⟩

theorem merkleRoot_ok (h : api.merkleRoot pieces = .ok root) :
    (pieces ≠ [] ∧ pieces.length ≤ 2 ^ 32 - 1) ∧
      Merkle.root api.nodeHash (pieces.mapIdx api.leafHash) = some root := by
  simp only [SyncApi.merkleRoot, ok_iff] at h
  obtain ⟨level, hlevel, hroot⟩ := h
  obtain ⟨hbound, rfl⟩ := merkleLeaves_ok hlevel
  exact ⟨hbound, hroot⟩

theorem merkleProof_exists (api : SyncApi State H) {index : ℕ} (hindex : index < pieces.length)
    (hbound : pieces.length ≤ 2 ^ 32 - 1) :
    ∃ proof, api.merkleProof pieces index = .ok proof ∧
      proof.length = depth pieces.length ∧
      proofFor api.nodeHash (pieces.mapIdx api.leafHash) index = some proof := by
  have hlength : index < (pieces.mapIdx api.leafHash).length := by simpa using hindex
  obtain ⟨proof, hproof, hdepth⟩ := proofFor_exists api.nodeHash hlength
  rw [length_mapIdx] at hdepth
  have hnonempty : pieces ≠ [] := by
    rintro rfl
    simp at hindex
  have hle : proof.length ≤ maxMerkleDepth := by
    rw [hdepth]
    exact depth_le (by simp only [maxMerkleDepth]; omega)
  refine ⟨proof, ?_, hdepth, hproof⟩
  refine bind_ok (require_ok hindex) ?_
  refine bind_eq_ok.mpr ⟨pieces.mapIdx api.leafHash, ?_, ?_⟩
  · exact bind_eq_ok.mpr ⟨(), require_ok ⟨hnonempty, hbound⟩, rfl⟩
  · refine bind_ok (okOr_eq_ok.mpr hproof) ?_
    exact bind_ok (require_ok hle) rfl

theorem merkleRoot_exists (api : SyncApi State H) (pieces : List Bytes) :
    (∃ root, api.merkleRoot pieces = .ok root) ↔ pieces ≠ [] ∧ pieces.length ≤ 2 ^ 32 - 1 := by
  constructor
  · rintro ⟨root, hroot⟩
    exact (merkleRoot_ok hroot).1
  · intro hbound
    have hlength : 0 < (pieces.mapIdx api.leafHash).length := by
      simpa using length_pos_iff.mpr hbound.1
    obtain ⟨root, hroot⟩ : ∃ root, Merkle.root api.nodeHash (pieces.mapIdx api.leafHash) =
        some root := root_exists hlength
    refine ⟨root, bind_eq_ok.mpr ⟨pieces.mapIdx api.leafHash, ?_, okOr_eq_ok.mpr hroot⟩⟩
    exact bind_ok (require_ok hbound) rfl

structure SyncApi.SeparateHashes (api : SyncApi State H) : Prop where
  leaf_inj : ∀ i b j c, api.leafHash i b = api.leafHash j c → i = j ∧ b = c
  node_inj : ∀ a b c d, api.nodeHash a b = api.nodeHash c d → a = c ∧ b = d
  separate : ∀ i b c d, api.leafHash i b ≠ api.nodeHash c d

theorem merkleRoot_inj (hashes : api.SeparateHashes) {pieces others : List Bytes}
    (hpieces : api.merkleRoot pieces = .ok root) (hothers : api.merkleRoot others = .ok root) :
    pieces = others := by
  have hnodup : ∀ pieces : List Bytes, (pieces.mapIdx api.leafHash).Nodup := by
    intro pieces
    refine pairwise_iff_getElem.mpr fun i j hi hj hlt heq => ?_
    rw [getElem_mapIdx, getElem_mapIdx] at heq
    exact absurd (hashes.leaf_inj _ _ _ _ heq).1 (by omega)
  have hheight : ∀ pieces : List Bytes, ∀ a ∈ pieces.mapIdx api.leafHash,
      Height api.nodeHash (fun a => ∃ i b, api.leafHash i b = a) 0 a := by
    intro pieces a ha
    obtain ⟨i, hi, rfl⟩ := mem_mapIdx.mp ha
    exact .leaf ⟨i, _, rfl⟩
  have hseparate : ∀ a b, ¬ ∃ i c, api.leafHash i c = api.nodeHash a b := by
    rintro a b ⟨i, c, h⟩
    exact hashes.separate i c a b h
  have hleaves := root_inj hashes.node_inj hseparate (hnodup pieces) (hnodup others)
    (hheight pieces) (hheight others) (merkleRoot_ok hpieces).2 (merkleRoot_ok hothers).2
  have hlength : pieces.length = others.length := by
    simpa using congrArg length hleaves
  refine ext_getElem hlength fun i hi hi' => ?_
  have hleaf : (pieces.mapIdx api.leafHash)[i]? = (others.mapIdx api.leafHash)[i]? := by rw [hleaves]
  rw [List.getElem?_mapIdx, List.getElem?_mapIdx, List.getElem?_eq_getElem hi,
    List.getElem?_eq_getElem hi'] at hleaf
  exact (hashes.leaf_inj _ _ _ _ (some.inj hleaf)).2

variable [DecidableEq H]

theorem verifyMerkleProof_iff
    (hleaf_inj : ∀ i b j c, api.leafHash i b = api.leafHash j c → i = j ∧ b = c)
    (hnode_inj : ∀ a b c d, api.nodeHash a b = api.nodeHash c d → a = c ∧ b = d)
    (hroot : api.merkleRoot pieces = .ok root) {index : ℕ} (hindex : index < pieces.length)
    {bytes : Bytes} {proof : List H} :
    api.verifyMerkleProof bytes index pieces.length proof root = true ↔
      pieces[index]? = some bytes ∧
        proofFor api.nodeHash (pieces.mapIdx api.leafHash) index = some proof := by
  obtain ⟨-, htree⟩ := merkleRoot_ok hroot
  have hlength : index < (pieces.mapIdx api.leafHash).length := by simpa using hindex
  have hleaf : (pieces.mapIdx api.leafHash)[index]? = some (api.leafHash index bytes) ↔
      pieces[index]? = some bytes := by
    rw [List.getElem?_mapIdx, List.getElem?_eq_getElem hindex]
    simp only [map_some, some.injEq]
    exact ⟨fun h => (hleaf_inj _ _ _ _ h).2, fun h => by rw [h]⟩
  have hclimb : proof.length = depth pieces.length →
      (climb api.nodeHash (api.leafHash index bytes) index proof = root ↔
        pieces[index]? = some bytes ∧
          proofFor api.nodeHash (pieces.mapIdx api.leafHash) index = some proof) := by
    intro hdepth
    have hfull : proof.length = depth (pieces.mapIdx api.leafHash).length := by
      simpa using hdepth
    have hiff := climb_eq_root_iff hnode_inj (h := api.leafHash index bytes) hlength
      hfull
    rw [htree, hleaf] at hiff
    rw [← hiff, some.injEq, eq_comm]
  simp only [SyncApi.verifyMerkleProof, Bool.and_eq_true, decide_eq_true_eq]
  constructor
  · rintro ⟨⟨⟨_, hdepth⟩, _⟩, hroot⟩
    exact (hclimb hdepth).mp hroot
  · rintro ⟨hpiece, hproof⟩
    obtain ⟨proof', hproof', hdepth⟩ := proofFor_exists api.nodeHash hlength
    rw [hproof, some.injEq] at hproof'
    subst hproof'
    rw [length_mapIdx] at hdepth
    refine ⟨⟨⟨by omega, hdepth⟩, ?_⟩, (hclimb hdepth).mpr ⟨hpiece, hproof⟩⟩
    rw [hdepth]
    exact halvings_depth (by omega)

/-- Every list that has a root has one proof for each position, which with the chunk
there is all that is accepted; and no two lists have the same root. -/
theorem merkle_proofs_exact (api : SyncApi State H) (hashes : api.SeparateHashes) :
    (∀ pieces : List Bytes,
      (∃ root, api.merkleRoot pieces = .ok root) ↔ pieces ≠ [] ∧ pieces.length ≤ 2 ^ 32 - 1) ∧
    (∀ (pieces : List Bytes) (root : H), api.merkleRoot pieces = .ok root →
      ∀ index < pieces.length, ∀ bytes proof,
        api.verifyMerkleProof bytes index pieces.length proof root = true ↔
          pieces[index]? = some bytes ∧ api.merkleProof pieces index = .ok proof) ∧
    ∀ (pieces others : List Bytes) (root : H), api.merkleRoot pieces = .ok root →
      api.merkleRoot others = .ok root → pieces = others := by
  refine ⟨merkleRoot_exists api, ?_, fun pieces others root => merkleRoot_inj hashes⟩
  intro pieces root hroot index hindex bytes proof
  obtain ⟨given, hgiven, -, htree⟩ :=
    merkleProof_exists api hindex (merkleRoot_ok hroot).1.2
  rw [verifyMerkleProof_iff hashes.leaf_inj hashes.node_inj hroot hindex, hgiven, htree,
    Option.some.injEq, Except.ok.injEq]

section Sample

/-- Symbolic digests: two of them are equal only when they were made alike. -/
inductive Tree where
  | zero : Tree
  | leaf : ℕ → Bytes → Tree
  | node : Tree → Tree → Tree
  deriving DecidableEq

def syncId (byte : UInt8) : Id := Id.fill byte

def syncApi : SyncApi Bytes Tree where
  digest _ := syncId 1
  leafHash := .leaf
  nodeHash := .node
  hashBytes _ := []
  zeroHash := .zero
  toVec := .ok
  fromSlice := .ok
  validateState _ := .ok ()
  root _ := syncId 1

theorem syncApi_ideal : syncApi.Ideal where
  leaf_inj := by
    intro i b j c h
    cases h
    exact ⟨rfl, rfl⟩
  node_inj := by
    intro a b c d h
    cases h
    exact ⟨rfl, rfl⟩
  digest_ne_zero := by
    intro b
    show syncId 1 ≠ Id.zero
    decide
  fromSlice_toVec := by
    intro s b h
    cases h
    rfl

theorem syncApi_separateHashes : syncApi.SeparateHashes where
  leaf_inj := syncApi_ideal.leaf_inj
  node_inj := syncApi_ideal.node_inj
  separate := by
    intro i b c d h
    cases h

theorem merkle_proofs_exact_sample :
    syncApi.merkleProof [[1], [2], [3]] 2 =
      .ok [.leaf 2 [3], .node (.leaf 0 [1]) (.leaf 1 [2])] := by
  have hroot : syncApi.merkleRoot [[1], [2], [3]] =
      .ok (.node (.node (.leaf 0 [1]) (.leaf 1 [2])) (.node (.leaf 2 [3]) (.leaf 2 [3]))) := by
    simp [SyncApi.merkleRoot, SyncApi.merkleLeaves, Merkle.root, Merkle.up, syncApi, require, okOr]
  exact (((merkle_proofs_exact syncApi syncApi_separateHashes).2.1 _ _ hroot 2 (by decide) [3]
    [.leaf 2 [3], .node (.leaf 0 [1]) (.leaf 1 [2])]).mp (by decide +kernel)).2

end Sample

end Proofs

section Responses
variable {api : SyncApi State H} [DecidableEq H] {summary : StateSummary H} {snapshot : Bytes}

theorem StateSummary.Commits.id_ok (hcommits : summary.Commits api snapshot) (hideal : api.Ideal) :
    ∃ summaryId, summary.id api = .ok summaryId ∧ summaryId ≠ Id.zero := by
  refine ⟨_, bind_eq_ok.mpr ⟨_, bind_eq_ok.mpr ⟨(), hcommits.valid, rfl⟩, rfl⟩, ?_⟩
  exact hideal.digest_ne_zero _

theorem ChunkResponse.verify_sound (hideal : api.Ideal) (hcommits : summary.Commits api snapshot)
    {response : ChunkResponse H} (h : response.verify api summary = .ok ()) :
    (chunks chunkBytes snapshot)[response.index]? = some response.bytes := by
  simp only [ChunkResponse.verify, ok_iff] at h
  obtain ⟨summaryId, -, hnames, expected, -, -, hproof⟩ := h
  have hcount : response.chunkCount = summary.chunkCount := by
    by_contra hne
    exact hnames (.inr (.inl hne))
  have hindex : response.index < (chunks chunkBytes snapshot).length := by
    rw [← hcommits.count]
    omega
  rw [hcount, hcommits.count] at hproof
  exact ((verifyMerkleProof_iff hideal.leaf_inj hideal.node_inj hcommits.root hindex).mp hproof).1

theorem length_chunk_bounds {index : ℕ} {bytes : Bytes}
    (h : (chunks chunkBytes snapshot)[index]? = some bytes) :
    bytes ≠ [] ∧ bytes.length ≤ chunkBytes := by
  obtain ⟨hindex, -⟩ := List.getElem?_eq_some_iff.mp h
  rw [getElem?_chunks hindex, some.injEq] at h
  rw [length_chunks] at hindex
  have hstart := chunks_mul_lt hindex
  constructor
  · rintro rfl
    have hlength := congrArg length h
    simp only [length_take, length_drop, length_nil, chunkBytes] at hlength hstart
    omega
  · rw [← h, length_take]
    omega

theorem ChunkResponse.expectedLen_chunk (hcommits : summary.Commits api snapshot)
    {response : ChunkResponse H} (hcount : response.chunkCount = summary.chunkCount)
    (h : (chunks chunkBytes snapshot)[response.index]? = some response.bytes) :
    response.expectedLen summary = .ok response.bytes.length := by
  have hlength := length_chunk h
  obtain ⟨hindex, -⟩ := List.getElem?_eq_some_iff.mp h
  rw [length_chunks] at hindex
  have hstart := chunks_mul_lt hindex
  rw [← hcommits.count, ← hcount] at hlength
  unfold ChunkResponse.expectedLen
  by_cases hlast : response.index + 1 = response.chunkCount
  · rw [if_pos hlast] at hlength ⊢
    refine bind_ok (require_ok ?_) ?_
    · rw [hcommits.len]
      omega
    · rw [hcommits.len, hlength]
      rfl
  · rw [if_neg hlast] at hlength ⊢
    rw [hlength]
    rfl

theorem ChunkResponse.build_accepted (hideal : api.Ideal) (hcommits : summary.Commits api snapshot)
    {decoded : DecodedSnapshot State} (hdecode : decodeSnapshot api summary snapshot = .ok decoded)
    {index : ℕ} (hindex : index < summary.chunkCount) :
    ∃ response, ChunkResponse.build api summary snapshot index = .ok response ∧
      response.index = index ∧ (chunks chunkBytes snapshot)[index]? = some response.bytes ∧
      response.dimensions = .ok () ∧ response.verify api summary = .ok () := by
  obtain ⟨summaryId, hid, hzero⟩ := hcommits.id_ok hideal
  obtain ⟨⟨hnonempty, hbound⟩, -⟩ := merkleRoot_ok hcommits.root
  have hlength : index < (chunks chunkBytes snapshot).length := by
    rw [← hcommits.count]
    exact hindex
  obtain ⟨proof, hproof, hdepth, htree⟩ := merkleProof_exists api hlength hbound
  obtain ⟨bytes, hbytes⟩ : ∃ bytes, (chunks chunkBytes snapshot)[index]? = some bytes :=
    ⟨_, getElem?_chunks hlength⟩
  obtain ⟨hne, hle⟩ := length_chunk_bounds hbytes
  have hshallow : proof.length ≤ maxMerkleDepth := by
    rw [hdepth]
    exact depth_le (by simp only [maxMerkleDepth]; omega)
  refine ⟨⟨summaryId, index, summary.chunkCount, proof, bytes⟩, ?_, rfl, hbytes, ?_, ?_⟩
  · refine bind_ok hdecode ?_
    refine bind_ok (require_ok hindex) ?_
    refine bind_ok hid ?_
    refine bind_ok hproof ?_
    exact bind_ok (okOr_eq_ok.mpr hbytes) rfl
  · refine require_eq_ok.mpr ?_
    simp only [hzero, hne, false_or]
    omega
  · refine bind_ok hid ?_
    refine bind_ok (require_ok (by simpa using hindex)) ?_
    refine bind_ok (ChunkResponse.expectedLen_chunk hcommits rfl hbytes) ?_
    refine require_eq_ok.mpr ⟨rfl, ?_⟩
    rw [hcommits.count]
    exact (verifyMerkleProof_iff hideal.leaf_inj hideal.node_inj hcommits.root hlength).mpr ⟨hbytes, htree⟩

end Responses

end DeFMI
