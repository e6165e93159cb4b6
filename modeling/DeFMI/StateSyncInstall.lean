import DeFMI.StateSync
import Mathlib.Logic.Function.Basic
set_option autoImplicit false

/-!
The installation of a state summary: a chunk is taken from the entry an earlier
attempt stored, or else from the first connected peer whose answer verifies, and
the chunks taken are put together and decoded.
-/

namespace DeFMI
open Lib List Option Nat Function

/-- The stored chunks of one summary, by the index they were requested for. -/
abbrev ChunkStore (H : Type) := ℕ → Option (ChunkResponse H)

abbrev Peer (H : Type) := ℕ → Result (ChunkResponse H)

variable {State H : Type}

def rotation (peers : List (Peer H)) (index : ℕ) : List (Result (ChunkResponse H)) :=
  (List.range peers.length).filterMap fun offset =>
    (peers[(index + offset) % peers.length]?).map fun peer => peer index

section Definitions
variable [DecidableEq H] (api : SyncApi State H) (summary : StateSummary H)

def receive (answer : Result (ChunkResponse H)) : Result (ChunkResponse H) := do
  let response ← answer
  response.dimensions
  response.verify api summary
  pure response

def requestChunk (index : ℕ) :
    List (Result (ChunkResponse H)) → List String → Result (ChunkResponse H)
  | [], errors => .error ("all state-sync peers failed chunk " ++ toString index ++ ": "
      ++ "; ".intercalate errors)
  | answer :: rest, errors =>
    match receive api summary answer with
    | .ok response => .ok response
    | .error error => requestChunk index rest (errors ++ [error])

def fetchChunk (peers : List (Peer H)) (store : ChunkStore H) (index : ℕ) :
    ChunkStore H × Result Bytes :=
  match (store index).bind fun stored => (receive api summary (.ok stored)).toOption with
  | some response => (store, .ok response.bytes)
  | none =>
    match requestChunk api summary index (rotation peers index) [] with
    | .ok response => (Function.update store index (some response), .ok response.bytes)
    | .error error => (store, .error error)

def fetchChunks (peers : List (Peer H)) : List ℕ → ChunkStore H →
    ChunkStore H × Result (List Bytes)
  | [], store => (store, .ok [])
  | index :: rest, store =>
    match fetchChunk api summary peers store index with
    | (store, .error error) => (store, .error error)
    | (store, .ok bytes) =>
      match fetchChunks peers rest store with
      | (store, .error error) => (store, .error error)
      | (store, .ok pieces) => (store, .ok (bytes :: pieces))

/-- `hostCheck` stands for the checks of the deployment policy and of the host. -/
def assemble (hostCheck : State → Check) (pieces : List Bytes) :
    Result (DecodedSnapshot State) := do
  require (pieces.flatten.length = summary.snapshotLen)
    "assembled state snapshot has the wrong length"
  let decoded ← decodeSnapshot api summary pieces.flatten
  hostCheck decoded.state
  pure decoded

def installStateSummary (hostCheck : State → Check) (peers : List (Peer H))
    (store : ChunkStore H) : ChunkStore H × Result (DecodedSnapshot State) :=
  if peers.isEmpty then (store, .error "state sync has no connected Avalanche peers")
  else
    match summary.id api with
    | .error error => (store, .error error)
    | .ok _ =>
      match fetchChunks api summary peers (List.range summary.chunkCount) store with
      | (store, .error error) => (store, .error error)
      | (store, .ok pieces) =>
        match assemble api summary hostCheck pieces with
        | .error error => (store, .error error)
        | .ok decoded =>
          (fun index => if index < summary.chunkCount then none else store index, .ok decoded)

def firstVerified (peers : List (Peer H)) (store : ChunkStore H) (index : ℕ) :
    Option (ChunkResponse H) :=
  ((store index).toList.map Except.ok ++ rotation peers index).findSome? fun answer =>
    (receive api summary answer).toOption

end Definitions

section Loop
variable [DecidableEq H] {api : SyncApi State H} {summary : StateSummary H}
  {response : ChunkResponse H} {peers : List (Peer H)} {index : ℕ}

theorem receive_ok {answer : Result (ChunkResponse H)} :
    receive api summary answer = .ok response ↔
      answer = .ok response ∧ response.dimensions = .ok () ∧
        response.verify api summary = .ok () := by
  simp only [receive, bind_eq_ok, pure_eq_ok]
  constructor
  · rintro ⟨_, hanswer, _, hdimensions, _, hverify, rfl⟩
    exact ⟨hanswer, hdimensions, hverify⟩
  · grind

@[simp] theorem toOption_ok {α : Type} (a : α) :
    (Except.ok a : Result α).toOption = some a := rfl

@[simp] theorem toOption_error {α : Type} (error : String) :
    (Except.error error : Result α).toOption = none := rfl

theorem toOption_eq_some {α : Type} {x : Result α} {a : α} : x.toOption = some a ↔ x = .ok a := by
  cases x with
  | ok => simp
  | error => simp

theorem requestChunk_eq {answers : List (Result (ChunkResponse H))}
    (h : answers.findSome? (fun answer => (receive api summary answer).toOption) = some response)
    (errors : List String) :
    requestChunk api summary index answers errors = .ok response := by
  induction answers generalizing errors with
  | nil => simp at h
  | cons answer rest ih =>
    cases hreceive : receive api summary answer with
    | ok =>
      simp only [findSome?_cons, hreceive, toOption_ok, some.injEq] at h
      simp [requestChunk, hreceive, h]
    | error =>
      simp only [findSome?_cons, hreceive, toOption_error] at h
      simp only [requestChunk, hreceive]
      exact ih h _

theorem fetchChunk_eq {store : ChunkStore H}
    (h : firstVerified api summary peers store index = some response) :
    fetchChunk api summary peers store index =
      (update store index (some response), .ok response.bytes) := by
  unfold firstVerified at h
  unfold fetchChunk
  cases hstored : store index with
  | none =>
    simp only [hstored, toList_none, map_nil, nil_append] at h
    simp [requestChunk_eq h]
  | some stored =>
    simp only [hstored, toList_some, map_cons, map_nil, singleton_append,
      findSome?_cons] at h
    cases hreceive : receive api summary (.ok stored) with
    | ok =>
      obtain ⟨hsame, -⟩ := receive_ok.mp hreceive
      cases hsame
      simp only [hreceive, toOption_ok, some.injEq] at h
      subst h
      rw [← hstored, update_eq_self]
      simp [hstored, hreceive]
    | error =>
      simp only [hreceive, toOption_error] at h
      simp [hreceive, requestChunk_eq h]

theorem firstVerified_congr {store store' : ChunkStore H} (h : store index = store' index) :
    firstVerified api summary peers store index = firstVerified api summary peers store' index := by
  simp only [firstVerified, h]

/-- Each index of the loop reads only its own entry, so a whole loop takes the first
verified response of every index. -/
theorem fetchChunks_eq (found : ℕ → ChunkResponse H) {indices : List ℕ}
    {store : ChunkStore H} (hnodup : indices.Nodup)
    (h : ∀ i ∈ indices, firstVerified api summary peers store i = some (found i)) :
    ∃ store', fetchChunks api summary peers indices store =
        (store', .ok (indices.map fun i => (found i).bytes)) ∧
      ∀ i, store' i = if i ∈ indices then some (found i) else store i := by
  induction indices generalizing store with
  | nil => exact ⟨store, rfl, by simp⟩
  | cons index rest ih =>
    obtain ⟨hfirst, hrest⟩ := forall_mem_cons.mp h
    obtain ⟨hfresh, hnodup⟩ := nodup_cons.mp hnodup
    have hlater : ∀ i ∈ rest, firstVerified api summary peers
        (update store index (some (found index))) i = some (found i) := by
      intro i hi
      have hne : i ≠ index := by
        rintro rfl
        exact hfresh hi
      rw [firstVerified_congr (update_of_ne hne _ store)]
      exact hrest i hi
    obtain ⟨store', hrun, hstore⟩ := ih hnodup hlater
    refine ⟨store', ?_, ?_⟩
    · simp only [fetchChunks, fetchChunk_eq hfirst, hrun, map_cons]
    · grind

end Loop

section Rotation

theorem mem_rotation {peers : List (Peer H)} {peer : Peer H} (h : peer ∈ peers) (index : ℕ) :
    peer index ∈ rotation peers index := by
  obtain ⟨k, hk, hpeer⟩ := getElem_of_mem h
  let n := peers.length
  have hmod := mod_lt index (show 0 < n by omega)
  have hturn : (index + (k + n - index % n) % n) % n = k := by
    have hsplit : index + (k + n - index % n) = k + n + n * (index / n) := by
      have := div_add_mod index n
      omega
    rw [add_mod_mod, hsplit, add_mul_mod_self_left, add_mod_right]
    exact mod_eq_of_lt hk
  refine mem_filterMap.mpr ⟨(k + n - index % n) % n, ?_, ?_⟩
  · exact mem_range.mpr (mod_lt _ (by omega))
  · simp only [n] at hturn
    rw [hturn, getElem?_eq_getElem hk, hpeer]
    rfl

end Rotation

section Result
variable [DecidableEq H] {api : SyncApi State H} {summary : StateSummary H} {snapshot : Bytes}

instance : Inhabited (ChunkResponse H) := ⟨⟨Id.zero, 0, 0, [], []⟩⟩

theorem firstVerified_sound (hideal : api.Ideal) (hcommits : summary.Commits api snapshot)
    {peers : List (Peer H)} {store : ChunkStore H} {index : ℕ} {response : ChunkResponse H}
    (h : firstVerified api summary peers store index = some response) :
    (chunks chunkBytes snapshot)[response.index]? = some response.bytes := by
  obtain ⟨answer, -, hanswer⟩ := exists_of_findSome?_eq_some h
  obtain ⟨-, -, hverify⟩ := receive_ok.mp (toOption_eq_some.mp hanswer)
  exact ChunkResponse.verify_sound hideal hcommits hverify

theorem firstVerified_exists (hideal : api.Ideal) (hcommits : summary.Commits api snapshot)
    {decoded : DecodedSnapshot State} (hdecode : decodeSnapshot api summary snapshot = .ok decoded)
    {peers : List (Peer H)} {peer : Peer H} (hpeer : peer ∈ peers)
    (hhonest : ∀ i < summary.chunkCount, peer i = ChunkResponse.build api summary snapshot i)
    (store : ChunkStore H) {index : ℕ} (hindex : index < summary.chunkCount) :
    ∃ response, firstVerified api summary peers store index = some response := by
  obtain ⟨response, hbuild, -, -, hdimensions, hverify⟩ :=
    ChunkResponse.build_accepted hideal hcommits hdecode hindex
  have hreceive : receive api summary (peer index) = .ok response := by
    rw [hhonest index hindex]
    exact receive_ok.mpr ⟨hbuild, hdimensions, hverify⟩
  refine isSome_iff_exists.mp (findSome?_isSome_iff.mpr ⟨peer index, ?_, ?_⟩)
  · exact mem_append_right _ (mem_rotation hpeer index)
  · rw [hreceive]
    rfl

/-- The loop takes the chunks of the snapshot, each at its own index, and what they
make together is decoded as the block and the state. -/
def TakesSnapshot (api : SyncApi State H) (summary : StateSummary H) (peers : List (Peer H))
    (store : ChunkStore H) (snapshot : Bytes) (block : Block) (state : State) : Prop :=
  ∃ store' pieces blockBytes,
    fetchChunks api summary peers (List.range summary.chunkCount) store = (store', .ok pieces) ∧
    (∀ i < summary.chunkCount, pieces[i]? = (chunks chunkBytes snapshot)[i]?) ∧
    pieces.flatten = snapshot ∧
    decodeSnapshot api summary pieces.flatten = .ok ⟨block, blockBytes, state⟩

/-- For every index, of the entry stored for it and the answers of the peers the first that
verifies names an index with the same chunk. -/
def NamesRequested (api : SyncApi State H) (summary : StateSummary H) (peers : List (Peer H))
    (store : ChunkStore H) (snapshot : Bytes) : Prop :=
  ∀ i < summary.chunkCount, ∀ refused answer later response,
    (store i).toList.map Except.ok ++ rotation peers i = refused ++ answer :: later →
      (∀ other ∈ refused, (receive api summary other).toOption = none) →
      receive api summary answer = .ok response →
        (chunks chunkBytes snapshot)[response.index]? = (chunks chunkBytes snapshot)[i]?

theorem namesRequested_iff {peers : List (Peer H)} {store : ChunkStore H} :
    NamesRequested api summary peers store snapshot ↔ ∀ i < summary.chunkCount, ∀ response,
      firstVerified api summary peers store i = some response →
        (chunks chunkBytes snapshot)[response.index]? = (chunks chunkBytes snapshot)[i]? := by
  simp only [NamesRequested, firstVerified, findSome?_eq_some_iff, toOption_eq_some]
  constructor
  · rintro h i hi response ⟨refused, answer, later, hanswers, hanswer, hrefused⟩
    exact h i hi refused answer later response hanswers hrefused hanswer
  · intro h i hi refused answer later response hanswers hrefused hanswer
    exact h i hi response ⟨refused, answer, later, hanswers, hanswer, hrefused⟩

theorem takes_snapshot_iff_names_requested (hideal : api.Ideal) {networkId : ℕ}
    {chainId genesisHash : Id} {block : Block} {state : State}
    (hbuilt : buildSummary api networkId chainId genesisHash block state = .ok (summary, snapshot))
    (peers : List (Peer H)) (store : ChunkStore H)
    (hhonest : ∃ peer ∈ peers, ∀ i < summary.chunkCount,
      peer i = ChunkResponse.build api summary snapshot i) :
    TakesSnapshot api summary peers store snapshot block state ↔
      NamesRequested api summary peers store snapshot := by
  rw [namesRequested_iff]
  obtain ⟨hcommits, blockBytes, hdecode⟩ := buildSummary_ok hideal hbuilt
  obtain ⟨peer, hpeer, hanswers⟩ := hhonest
  have hexists : ∀ i ∈ List.range summary.chunkCount,
      ∃ response, firstVerified api summary peers store i = some response := fun i hi =>
    firstVerified_exists hideal hcommits hdecode hpeer hanswers store (List.mem_range.mp hi)
  choose! found hfound using hexists
  obtain ⟨store', hrun, -⟩ := fetchChunks_eq found List.nodup_range hfound
  have htaken : ∀ i < summary.chunkCount,
      ((List.range summary.chunkCount).map fun i => (found i).bytes)[i]? =
        (chunks chunkBytes snapshot)[(found i).index]? := by
    intro i hi
    rw [firstVerified_sound hideal hcommits (hfound i (List.mem_range.mpr hi))]
    simp [hi]
  constructor
  · grind [TakesSnapshot]
  · intro hnames
    have hchunks : ∀ i < summary.chunkCount,
        ((List.range summary.chunkCount).map fun i => (found i).bytes)[i]? =
          (chunks chunkBytes snapshot)[i]? := by
      intro i hi
      rw [htaken i hi]
      exact hnames i hi _ (hfound i (List.mem_range.mpr hi))
    have hall : ((List.range summary.chunkCount).map fun i => (found i).bytes) =
        chunks chunkBytes snapshot := by
      refine List.ext_getElem? fun i => ?_
      by_cases hi : i < summary.chunkCount
      · exact hchunks i hi
      · have hout : (chunks chunkBytes snapshot).length ≤ i := by
          rw [← hcommits.count]
          omega
        rw [List.getElem?_eq_none hout, List.getElem?_eq_none (by simpa using hi)]
    have hflat : ((List.range summary.chunkCount).map fun i => (found i).bytes).flatten =
        snapshot := by
      rw [hall]
      exact flatten_chunks (by decide) snapshot
    refine ⟨store', _, blockBytes, hrun, hchunks, hflat, ?_⟩
    rw [hflat]
    exact hdecode

end Result

section Derailed
variable [DecidableEq H] {api : SyncApi State H} {summary : StateSummary H}

def attempts (api : SyncApi State H) (summary : StateSummary H)
    (hostCheck : State → Check) (store : ChunkStore H) (runs : List (List (Peer H))) :
    ChunkStore H :=
  runs.foldl (fun store peers => (installStateSummary api summary hostCheck peers store).1) store

def Filled (api : SyncApi State H) (summary : StateSummary H) (store : ChunkStore H)
    (found : ℕ → ChunkResponse H) : Prop :=
  ∀ i < summary.chunkCount,
    store i = some (found i) ∧ receive api summary (.ok (found i)) = .ok (found i)

variable {found : ℕ → ChunkResponse H} {store : ChunkStore H}

theorem firstVerified_stored (h : Filled api summary store found) (peers : List (Peer H)) {i : ℕ}
    (hi : i < summary.chunkCount) : firstVerified api summary peers store i = some (found i) := by
  obtain ⟨hstored, hreceive⟩ := h i hi
  simp [firstVerified, hstored, hreceive]

variable (h : Filled api summary store found) {hostCheck : State → Check} {error : String}
  (hfail : assemble api summary hostCheck
    ((range summary.chunkCount).map fun i => (found i).bytes) = .error error)
  {summaryId : Id} (hid : summary.id api = .ok summaryId)
include h hfail hid

theorem install_filled {peers : List (Peer H)} (hpeers : peers ≠ []) :
    installStateSummary api summary hostCheck peers store = (store, .error error) := by
  obtain ⟨store', hrun, hstore⟩ := fetchChunks_eq found nodup_range
    fun i hi => firstVerified_stored h peers (mem_range.mp hi)
  have hsame : store' = store := by
    grind [Filled]
  have hnonempty : peers.isEmpty = false := by simpa using hpeers
  simp [installStateSummary, hnonempty, hid, hrun, hfail, hsame]

/-- Once the stored chunks do not assemble, no sequence of attempts ever succeeds,
whoever the peers are. -/
theorem derailed_forever (runs : List (List (Peer H))) {peers : List (Peer H)}
    (hpeers : peers ≠ []) :
    (installStateSummary api summary hostCheck peers (attempts api summary hostCheck store runs)).2 =
      .error error := by
  have hstore : attempts api summary hostCheck store runs = store := by
    induction runs with
    | nil => rfl
    | cons first rest ih =>
      have hfirst : (installStateSummary api summary hostCheck first store).1 = store := by
        by_cases hempty : first = []
        · simp [installStateSummary, hempty]
        · rw [install_filled h hfail hid hempty]
      simp only [attempts, foldl_cons, hfirst]
      exact ih
  rw [hstore, install_filled h hfail hid hpeers]

end Derailed

section Sample

def syncBlock : Block := ⟨syncId 3, 100, 8, []⟩

theorem syncBlock_encode :
    ∃ blockBytes, syncBlock.encode = .ok blockBytes ∧ blockBytes.length = 58 := by
  refine ⟨Block.magic ++ ((syncId 3).val ++ (beBytes 8 100 ++ (beBytes 8 8 ++
    (beBytes 2 0 ++ [])))), ?_, ?_⟩
  · decide +kernel
  · decide +kernel

def syncState : Bytes := List.replicate 600000 0

theorem sync_built : ∃ (summary : StateSummary Tree) (snapshot : Bytes),
    buildSummary syncApi 7 (syncId 1) (syncId 2) syncBlock syncState =
      .ok (summary, snapshot) ∧ summary.chunkCount = 2 ∧ snapshot.length = 600078 := by
  obtain ⟨blockBytes, hblock, hblockLen⟩ := syncBlock_encode
  have hlength : (snapshotOf blockBytes syncState).length = 600078 := by
    simp only [snapshotOf, length_append, length_beBytes, length_snapshotMagic, hblockLen,
      syncState, length_replicate]
  have hcount : (chunks chunkBytes (snapshotOf blockBytes syncState)).length = 2 := by
    rw [length_chunks, hlength]
    decide
  obtain ⟨first, last, hpieces⟩ := length_eq_two.mp hcount
  have hroot : syncApi.merkleRoot (chunks chunkBytes (snapshotOf blockBytes syncState)) =
      .ok (.node (.leaf 0 first) (.leaf 1 last)) := by
    rw [hpieces]
    refine bind_eq_ok.mpr ⟨[.leaf 0 first, .leaf 1 last], ?_, ?_⟩
    · exact bind_ok (require_ok (by simp)) rfl
    · exact okOr_eq_ok.mpr (by simp [Merkle.root, Merkle.up, syncApi])
  simp only [buildSummary, StateSummary.validate, ok_iff, Prod.mk.injEq]
  refine ⟨_, _, ⟨blockBytes, hblock, syncState, rfl, ?_, ?_, ?_, ?_, _, bind_ok hblock rfl, _,
    hroot, ?_, rfl, rfl⟩, hcount, hlength⟩
  · omega
  · rw [syncState, length_replicate]
    decide
  · rw [hlength]
    decide
  · rw [hcount]
    decide
  · have hzero : syncId 1 ≠ Id.zero ∧ syncId 2 ≠ Id.zero := by decide
    rw [hlength, hcount]
    refine ⟨?_, by decide⟩
    rintro (h | h | h | h | h | h | h)
    · exact hzero.1 h
    · exact hzero.2 h
    · exact hzero.1 h
    · exact hzero.1 h
    · exact hzero.1 h
    · cases h
    · revert h
      decide

theorem takes_snapshot_iff_names_requested_sample :
    ∃ (summary : StateSummary Tree) (snapshot : Bytes),
      buildSummary syncApi 7 (syncId 1) (syncId 2) syncBlock syncState =
        .ok (summary, snapshot) ∧
      (TakesSnapshot syncApi summary
          [ChunkResponse.build syncApi summary snapshot,
            ChunkResponse.build syncApi summary snapshot] (fun _ => none) snapshot
          syncBlock syncState ↔
        NamesRequested syncApi summary
          [ChunkResponse.build syncApi summary snapshot,
            ChunkResponse.build syncApi summary snapshot] (fun _ => none) snapshot) := by
  obtain ⟨summary, snapshot, hbuilt, -, -⟩ := sync_built
  refine ⟨summary, snapshot, hbuilt, ?_⟩
  exact takes_snapshot_iff_names_requested syncApi_ideal hbuilt _ _
    ⟨_, List.mem_cons_self, fun _ _ => rfl⟩

/-- The first peer answers every request with the second chunk. It is taken as the first
one and stored, the assembly has the wrong length, and no later attempt succeeds. -/
theorem misplaced_chunk_derails_sync :
    ∃ (summary : StateSummary Tree) (snapshot : Bytes) (honest misplaced : Peer Tree),
      buildSummary syncApi 7 (syncId 1) (syncId 2) syncBlock syncState =
        .ok (summary, snapshot) ∧
      (∀ i, honest i = ChunkResponse.build syncApi summary snapshot i) ∧
      ¬TakesSnapshot syncApi summary [misplaced, honest] (fun _ => none) snapshot syncBlock
        syncState ∧
      ∀ runs peers, peers ≠ [] →
        (installStateSummary syncApi summary (fun _ => .ok ()) peers
          (attempts syncApi summary (fun _ => .ok ()) (fun _ => none)
            ([misplaced, honest] :: runs))).2 =
          .error "assembled state snapshot has the wrong length" := by
  obtain ⟨summary, snapshot, hbuilt, hcount, hlength⟩ := sync_built
  obtain ⟨hcommits, blockBytes, hdecode⟩ := buildSummary_ok syncApi_ideal hbuilt
  obtain ⟨summaryId, hid, -⟩ := hcommits.id_ok syncApi_ideal
  have htwo : 1 < summary.chunkCount := by omega
  obtain ⟨response, hbuild, -, hbytes, hdimensions, hverify⟩ :=
    ChunkResponse.build_accepted syncApi_ideal hcommits hdecode htwo
  have hreceive : ∀ i, i = 1 → receive syncApi summary
      (ChunkResponse.build syncApi summary snapshot i) = .ok response := by
    rintro i rfl
    exact receive_ok.mpr ⟨hbuild, hdimensions, hverify⟩
  have hshort : response.bytes.length = 75790 := by
    rw [length_chunk hbytes, ← hcommits.count, hcount, hlength]
    decide
  have hfound : ∀ i ∈ List.range summary.chunkCount,
      firstVerified syncApi summary
        [fun _ => ChunkResponse.build syncApi summary snapshot 1,
          ChunkResponse.build syncApi summary snapshot] (fun _ => none) i = some response := by
    intro i hi
    rw [hcount] at hi
    have hcases : i = 0 ∨ i = 1 := by
      have := List.mem_range.mp hi
      omega
    rcases hcases with rfl | rfl
    · simp [firstVerified, rotation, List.range_succ, hreceive]
    · simp [firstVerified, rotation, List.range_succ, hreceive]
  obtain ⟨store, hrun, hstore⟩ := fetchChunks_eq (fun _ => response)
    List.nodup_range hfound
  have hfail : assemble syncApi summary (fun _ => .ok ())
      ((List.range summary.chunkCount).map fun _ => response.bytes) =
        .error "assembled state snapshot has the wrong length" := by
    have hwrong : ¬((List.range summary.chunkCount).map fun _ => response.bytes).flatten.length =
        summary.snapshotLen := by
      rw [hcommits.len, hlength, hcount]
      simp [List.range_succ, hshort]
    simp only [assemble, require, if_neg hwrong]
    rfl
  have hfilled : Filled syncApi summary store fun _ => response := by
    grind [Filled]
  refine ⟨summary, snapshot, ChunkResponse.build syncApi summary snapshot,
    fun _ => ChunkResponse.build syncApi summary snapshot 1, hbuilt, fun _ => rfl, ?_, ?_⟩
  · rintro ⟨_, _, _, hpieces, -, hflat, -⟩
    rw [hrun] at hpieces
    cases hpieces
    have hlen := congrArg List.length hflat
    rw [hcount, hlength] at hlen
    simp [List.range_succ, hshort] at hlen
  · intro runs peers hpeers
    have hfirst : (installStateSummary syncApi summary (fun _ => .ok ())
        [fun _ => ChunkResponse.build syncApi summary snapshot 1,
          ChunkResponse.build syncApi summary snapshot] (fun _ => none)).1 = store := by
      simp only [installStateSummary, hid, hrun, hfail, List.isEmpty_cons, Bool.false_eq_true,
        if_false]
    have hlater := derailed_forever hfilled hfail hid runs hpeers
    simp only [attempts, List.foldl_cons, hfirst] at hlater ⊢
    exact hlater

end Sample

end DeFMI
