import DeFMI.Chain.Replay
set_option autoImplicit false

/-!
What the database holds about the accepted blocks at the end of any run: they are
one chain, the stored states are the replay of that chain, and the stored receipts
carry the roots of the replay.
-/

namespace DeFMI.Chain
open Lib InPlace AList Entry List Chain.Runtime

variable {Json L : Type} {api : ChainApi Json L}

def VerifiedBlock.names (b : VerifiedBlock L) : List Id :=
  b.receipts.map TransitionReceipt.transactionId

def acceptedBlock (step : Step (Runtime L) ChainOp) : Option (VerifiedBlock L) :=
  match step.op with
  | .blockAccept id _ => step.before.verified.lookup id
  | _ => none

def acceptedBlocks (api : ChainApi Json L) (s : Runtime L) (ops : List ChainOp) :
    List (VerifiedBlock L) :=
  (history (perform api) s ops).filterMap acceptedBlock

def Runtime.held (s : Runtime L) : List Block :=
  s.lastAccepted.block :: s.verified.entries.map fun e => e.2.block

def seenBlocks (api : ChainApi Json L) (s : Runtime L) (ops : List ChainOp) : List Block :=
  (visited (perform api) s ops).flatMap Runtime.held

section Tip

variable {s t : Runtime L} {op : ChainOp}

theorem Effect.same_tip (hop : ∀ id fault, op ≠ .blockAccept id fault)
    (h : Effect api s op t) : t.db = s.db ∧ t.lastAccepted = s.lastAccepted := by
  cases h with
  | idle | inserted | drained | built | verified => exact ⟨rfl, rfl⟩
  | accepted hsame hb hlink hheight => exact absurd hsame (hop _ _)
  | @rejected id b hb =>
    let kept : Runtime L → Prop := fun u => u.db = s.db ∧ u.lastAccepted = s.lastAccepted
    suffices h : kept _ from h
    refine each_snd (fun transaction u hu => ?_) _ ⟨rfl, rfl⟩
    obtain ⟨htip, -, hdb, -⟩ := requeue_frame api transaction u
    exact ⟨hdb.trans hu.1, htip.trans hu.2⟩

theorem blockAccept_ok {id : Id} {fault : Option String} {reply : Reply L}
    (h : blockAccept api id fault s = (.ok reply, t)) :
    ∃ b, s.verified.lookup id = some b ∧ b.block.parentId = s.lastAccepted.id ∧
      b.block.height = saturatingSucc s.lastAccepted.block.height ∧ t = s.accepted api id b := by
  simp only [blockAccept, ran_iff, ok_iff] at h
  obtain ⟨b, hb, ⟨hlink, hheight⟩, _, _, _, _, rfl⟩ := h
  exact ⟨b, hb, hlink, hheight, rfl⟩

theorem blockAccept_restores (id : Id) (fault : Option String) :
    Restores (blockAccept api id fault) := by
  refine restores_check_bind fun b => restores_check_bind fun _ => ?_
  refine restores_check_bind fun _ => restores_check_bind fun _ => ?_
  intro s e t h
  simp only [modify_bind] at h
  cases h

theorem acceptedBlocks_cons_other (hop : ∀ id fault, op ≠ .blockAccept id fault)
    (ops : List ChainOp) :
    acceptedBlocks api s (op :: ops) = acceptedBlocks api (perform api op s).2 ops := by
  cases h : perform api op s with
  | mk result t =>
    cases result with
    | error => rw [acceptedBlocks, history_cons_error h, acceptedBlocks]
    | ok =>
      have hnone : acceptedBlock (⟨s, op, t⟩ : Step (Runtime L) ChainOp) = none := by
        cases op with
        | blockAccept id fault => exact absurd rfl (hop id fault)
        | _ => rfl
      rw [acceptedBlocks, history_cons_ok h, filterMap_cons_none hnone, acceptedBlocks]

theorem acceptedBlocks_cons_accept {id : Id} {fault : Option String} {reply : Reply L}
    {b : VerifiedBlock L} (h : perform api (.blockAccept id fault) s = (.ok reply, t))
    (hb : s.verified.lookup id = some b) (ops : List ChainOp) :
    acceptedBlocks api s (.blockAccept id fault :: ops) = b :: acceptedBlocks api t ops := by
  have hsome : acceptedBlock (⟨s, .blockAccept id fault, t⟩ : Step (Runtime L) ChainOp) = some b :=
    hb
  rw [acceptedBlocks, history_cons_ok h, filterMap_cons_some hsome, acceptedBlocks]

end Tip

section Receipts

def insertReceipts (b : VerifiedBlock L) (receipts : List TransitionReceipt)
    (rows : Table Id AcceptedReceipt) : Table Id AcceptedReceipt :=
  receipts.foldl (fun rows r => rows.insert r.transactionId (AcceptedReceipt.of b.id b r)) rows

variable {b : VerifiedBlock L} {receipts : List TransitionReceipt} {rows : Table Id AcceptedReceipt}
  {id : Id}

theorem lookup_insertReceipts_of_not_mem
    (h : id ∉ receipts.map TransitionReceipt.transactionId) :
    (insertReceipts b receipts rows).lookup id = rows.lookup id := by
  induction receipts generalizing rows with
  | nil => rfl
  | cons r receipts ih =>
    simp only [map_cons, mem_cons, not_or] at h
    change (insertReceipts b receipts (rows.insert r.transactionId _)).lookup id = rows.lookup id
    rw [ih h.2, lookup_insert_ne h.1]

theorem lookup_insertReceipts_of_mem {r : TransitionReceipt} (hr : r ∈ receipts)
    (hnodup : (receipts.map TransitionReceipt.transactionId).Nodup) :
    (insertReceipts b receipts rows).lookup r.transactionId = some (AcceptedReceipt.of b.id b r) := by
  induction receipts generalizing rows with
  | nil => simp at hr
  | cons first receipts ih =>
    rw [map_cons, nodup_cons] at hnodup
    rcases mem_cons.mp hr with rfl | hr
    · change (insertReceipts b receipts (rows.insert r.transactionId _)).lookup _ = _
      rw [lookup_insertReceipts_of_not_mem hnodup.1, lookup_insert]
    · exact ih hr hnodup.2

theorem insertReceipts_cases {row : AcceptedReceipt}
    (h : (insertReceipts b receipts rows).lookup id = some row) :
    rows.lookup id = some row ∨ ∃ r ∈ receipts, row = AcceptedReceipt.of b.id b r := by
  induction receipts generalizing rows with
  | nil => exact .inl h
  | cons first receipts ih =>
    rcases ih h with hrow | ⟨r, hr, hrow⟩
    · grind
    · exact .inr ⟨r, mem_cons_of_mem _ hr, hrow⟩

end Receipts

section Chain

variable (api) (genesis : VerifiedBlock L) (seen : Block → Prop)

structure Recorded (chain : List (VerifiedBlock L)) (s : Runtime L) : Prop where
  tip : chain.getLast? = some s.lastAccepted
  last : s.db.lastAccepted = s.lastAccepted.id
  linked : chain.IsChain (Follows api)
  derived : ∀ b ∈ chain, Derived api genesis seen b
  blocks : ∀ b ∈ chain, ∃ bytes, s.db.blocks.lookup b.id = some bytes ∧
    Block.decode bytes = .ok b.block
  states : ∀ b ∈ chain, s.db.states.lookup b.id = some b.state
  receipts : api.HookKeepsApplied → ∀ b ∈ chain, ∀ r ∈ b.receipts,
    s.db.transactions.lookup r.transactionId = some (AcceptedReceipt.of b.id b r) ∧
      r.transactionId ∈ s.lastAccepted.state.appliedTransactions
  distinct : api.HookKeepsApplied → (chain.flatMap VerifiedBlock.names).Nodup
  only_blocks : ∀ id bytes, s.db.blocks.lookup id = some bytes → ∃ b ∈ chain, b.id = id
  only_receipts : ∀ id row, s.db.transactions.lookup id = some row →
    ∃ b ∈ chain, ∃ r ∈ b.receipts, row = AcceptedReceipt.of b.id b r

variable {api genesis seen} {s t : Runtime L} {chain : List (VerifiedBlock L)}

theorem Recorded.congr (h : Recorded api genesis seen chain s)
    (hsame : t.db = s.db ∧ t.lastAccepted = s.lastAccepted) :
    Recorded api genesis seen chain t := by
  obtain ⟨hdb, htip⟩ := hsame
  constructor
  · exact htip ▸ h.tip
  · exact hdb ▸ htip ▸ h.last
  · exact h.linked
  · exact h.derived
  · exact hdb ▸ h.blocks
  · exact hdb ▸ h.states
  · exact hdb ▸ htip ▸ h.receipts
  · exact h.distinct
  · exact hdb ▸ h.only_blocks
  · exact hdb ▸ h.only_receipts

/-- A derived block that may be accepted was checked against a parent with the name of
the tip, and so against the tip. -/
theorem Derived.follows_tip (hg : Genesis api seen genesis) (hids : DistinctIds api seen)
    {tip b : VerifiedBlock L} (htip : Derived api genesis seen tip)
    (hb : Derived api genesis seen b) (hlink : b.block.parentId = tip.id)
    (hheight : b.block.height = saturatingSucc tip.block.height) : Follows api tip b := by
  cases hb with
  | genesis =>
    rw [hg.height] at hheight
    exact absurd hheight.symm (saturatingSucc_ne_zero _)
  | extend hparent hfollows hnamed hseen =>
    exact hfollows.of_agrees (hparent.agrees hg hids htip (hfollows.link.symm.trans hlink))

theorem Recorded.accepted (hg : Genesis api seen genesis)
    (hids : DistinctIds api seen) (h : Recorded api genesis seen chain s) {b : VerifiedBlock L}
    (hb : Derived api genesis seen b) (hdecode : Block.decode b.bytes = .ok b.block)
    (hfollows : Follows api s.lastAccepted b) :
    Recorded api genesis seen (chain ++ [b]) (s.accepted api b.id b) := by
  have hentered (hhook) := (applyAll_replays hfollows.replay).entered hhook
  have hfresh (hhook : api.HookKeepsApplied) : ∀ c ∈ chain, ∀ r ∈ c.receipts, r.transactionId ∉ b.names := by
    intro c hc r hr hmem
    obtain ⟨r', hr', hsame⟩ := mem_map.mp hmem
    exact (hentered hhook).fresh r' hr' (hsame ▸ (h.receipts hhook c hc r hr).2)
  have hagrees : ∀ c ∈ chain, c.id = b.id → Agrees c b :=
    fun c hc hid => (h.derived c hc).agrees hg hids hb hid
  constructor
  case tip => simp [Runtime.accepted]
  case last => rfl
  case linked =>
    refine isChain_append.mpr ⟨h.linked, isChain_singleton _, ?_⟩
    intro tip htip c hc
    rw [h.tip] at htip
    cases htip
    cases hc
    exact hfollows
  case derived =>
    intro c hc
    rcases mem_append.mp hc with hc | hc
    · exact h.derived c hc
    · exact mem_singleton.mp hc ▸ hb
  case blocks =>
    intro c hc
    simp only [Runtime.accepted, Table.lookup_insert_eq_ite]
    rcases mem_append.mp hc with hc | hc
    · by_cases hid : c.id = b.id
      · exact ⟨b.bytes, by rw [if_pos hid], by rw [hdecode, (hagrees c hc hid).block]⟩
      · rw [if_neg hid]
        exact h.blocks c hc
    · obtain rfl := mem_singleton.mp hc
      exact ⟨c.bytes, by rw [if_pos rfl], hdecode⟩
  case states =>
    intro c hc
    simp only [Runtime.accepted, Table.lookup_insert_eq_ite]
    rcases mem_append.mp hc with hc | hc
    · by_cases hid : c.id = b.id
      · rw [if_pos hid, (hagrees c hc hid).state]
      · rw [if_neg hid]
        exact h.states c hc
    · obtain rfl := mem_singleton.mp hc
      rw [if_pos rfl]
  case receipts =>
    intro hhook c hc r hr
    change (insertReceipts b b.receipts s.db.transactions).lookup _ = _ ∧ _ ∈ b.state.appliedTransactions
    rcases mem_append.mp hc with hc | hc
    · rw [lookup_insertReceipts_of_not_mem (hfresh hhook c hc r hr)]
      exact (h.receipts hhook c hc r hr).imp_right ((hentered hhook).kept ·)
    · obtain rfl := mem_singleton.mp hc
      exact ⟨lookup_insertReceipts_of_mem hr (hentered hhook).distinct, (hentered hhook).entered r hr⟩
  case distinct =>
    intro hhook
    rw [flatMap_append, nodup_append]
    refine ⟨h.distinct hhook, by simpa [VerifiedBlock.names] using (hentered hhook).distinct, ?_⟩
    intro id hid id' hid' hsame
    subst hsame
    obtain ⟨c, hc, hmem⟩ := mem_flatMap.mp hid
    obtain ⟨r, hr, rfl⟩ := mem_map.mp hmem
    exact hfresh hhook c hc r hr (by simpa using hid')
  case only_blocks =>
    intro id bytes hbytes
    simp only [Runtime.accepted, Table.lookup_insert_eq_ite] at hbytes
    by_cases hid : id = b.id
    · exact ⟨b, by simp, hid.symm⟩
    · rw [if_neg hid] at hbytes
      obtain ⟨c, hc, hcid⟩ := h.only_blocks id bytes hbytes
      exact ⟨c, mem_append_left _ hc, hcid⟩
  case only_receipts =>
    intro id row hrow
    rcases insertReceipts_cases hrow with hold | ⟨r, hr, rfl⟩
    · obtain ⟨c, hc, r, hr, rfl⟩ := h.only_receipts id row hold
      exact ⟨c, mem_append_left _ hc, r, hr, rfl⟩
    · exact ⟨b, by simp, r, hr, rfl⟩

theorem run_recorded (hg : Genesis api seen genesis)
    (hids : DistinctIds api seen) {ops : List ChainOp}
    (hseen : ∀ u ∈ visited (perform api) s ops, Listed seen u) (hsound : Sound api genesis seen s)
    (h : Recorded api genesis seen chain s) :
    Recorded api genesis seen (chain ++ acceptedBlocks api s ops) (run (perform api) s ops) := by
  induction ops generalizing s chain with
  | nil => simpa [acceptedBlocks, history, run] using h
  | cons op ops ih =>
    have hlater : ∀ u ∈ visited (perform api) (perform api op s).2 ops, Listed seen u :=
      fun u hu => hseen u (mem_cons_of_mem _ hu)
    have hnext := perform_effect.sound hsound (hlater _ (self_mem_visited ops))
    by_cases haccept : ∃ id fault, op = .blockAccept id fault
    · obtain ⟨id, fault, rfl⟩ := haccept
      cases hx : perform api (.blockAccept id fault) s with
      | mk result t =>
        rw [hx] at hlater hnext
        rw [run_cons_eq hx]
        cases result with
        | error e =>
          obtain rfl := blockAccept_restores id fault s e t hx
          rw [acceptedBlocks, history_cons_error hx]
          exact ih hlater hnext h
        | ok =>
          obtain ⟨b, hb, hlink, hheight, rfl⟩ := blockAccept_ok hx
          obtain ⟨rfl, hderived, hdecode⟩ := hsound.verified id b hb
          have hfollows := hsound.tip.follows_tip hg hids hderived hlink hheight
          have hmore := ih hlater hnext (h.accepted hg hids hderived hdecode hfollows)
          rw [acceptedBlocks_cons_accept hx hb]
          simpa using hmore
    · have hop : ∀ id fault, op ≠ .blockAccept id fault := by
        rintro id fault rfl
        exact haccept ⟨id, fault, rfl⟩
      rw [acceptedBlocks_cons_other hop, run_cons]
      exact ih hlater hnext (h.congr (perform_effect.same_tip hop))

structure Extends (api : ChainApi Json L) (db : ChainDb L) (parent child : VerifiedBlock L) :
    Prop where
  link : child.block.parentId = parent.id
  height : child.block.height.toNat = min (parent.block.height.toNat + 1) (2 ^ 64 - 1)
  timestamp : parent.block.timestamp ≤ child.block.timestamp
  recorded : ∃ bytes, db.blocks.lookup child.id = some bytes ∧
    Block.decode bytes = .ok child.block
  replay : ∃ before after, db.states.lookup parent.id = some before ∧
    db.states.lookup child.id = some after ∧
    Replays api child.block.timestamp.toUInt64 before child.block.transactions child.receipts after
  receipts : ∀ r ∈ child.receipts,
    db.transactions.lookup r.transactionId = some (AcceptedReceipt.of child.id child r)

theorem Recorded.extends (h : Recorded api genesis seen chain s) (hhook : api.HookKeepsApplied) :
    chain.IsChain (Extends api s.db) := by
  refine IsChain.imp_of_mem_imp ?_ h.linked
  intro parent child hparent hchild hfollows
  constructor
  case link => exact hfollows.link
  case height => rw [hfollows.height, toNat_saturatingSucc]
  case timestamp => exact hfollows.timestamp
  case recorded => exact h.blocks child hchild
  case replay =>
    exact ⟨parent.state, child.state, h.states parent hparent, h.states child hchild,
      applyAll_replays hfollows.replay⟩
  case receipts => exact fun r hr => (h.receipts hhook child hchild r hr).1

end Chain

section Start

variable {s : Runtime L} {genesisHash : Id} {timestamp : Int64} {emptyLedger : L}
  {seen : Block → Prop}

theorem seenBlocks_listed (api : ChainApi Json L) (s : Runtime L) (ops : List ChainOp) :
    ∀ u ∈ visited (perform api) s ops, Listed (fun b => b ∈ seenBlocks api s ops) u := by
  intro u hu
  refine ⟨mem_flatMap.mpr ⟨u, hu, mem_cons_self⟩, ?_⟩
  intro id b hb
  refine mem_flatMap.mpr ⟨u, hu, mem_cons_of_mem _ ?_⟩
  exact mem_map.mpr ⟨⟨id, b⟩, mem_lookup_iff.mp hb, rfl⟩

theorem lookup_singleton_self {α : Type} (id : Id) (a : α) :
    (singleton id a : Table Id α).lookup id = some a := by
  change (insert id a (∅ : Table Id α)).lookup id = some a
  rw [lookup_insert]

theorem lookup_singleton_eq_some {α : Type} {id other : Id} {a b : α}
    (h : (singleton id a : Table Id α).lookup other = some b) : other = id ∧ b = a := by
  change (insert id a (∅ : Table Id α)).lookup other = some b at h
  rw [Table.lookup_insert_eq_ite] at h
  by_cases hid : other = id
  · rw [if_pos hid, Option.some.injEq] at h
    exact ⟨hid, h.symm⟩
  · rw [if_neg hid, lookup_empty] at h
    exact absurd h (by simp)

section
variable (h : firstStart api genesisHash timestamp emptyLedger = .ok s)
include h

theorem firstStart_ok : ∃ block bytes id state, block = (⟨genesisHash, timestamp, 0, []⟩ : Block) ∧
      block.encode = .ok bytes ∧ block.id api.digest = .ok id ∧
      s = ⟨⟨id, singleton id bytes, singleton id state, singleton 0 id, ∅⟩,
        .bootstrapping, ⟨block, bytes, id, state, []⟩, id, ∅, [], ∅, ∅, []⟩ := by
  simp only [firstStart, ok_iff] at h
  obtain ⟨bytes, hbytes, id, hid, rfl⟩ := h
  exact ⟨_, bytes, id, _, rfl, hbytes, hid, rfl⟩

theorem start_genesis (hseen : Listed seen s) : Genesis api seen s.lastAccepted := by
  obtain ⟨block, bytes, id, state, rfl, hbytes, hid, rfl⟩ := firstStart_ok h
  exact ⟨rfl, hid, hseen.1, rfl⟩

theorem start_sound : Sound api s.lastAccepted seen s := by
  obtain ⟨block, bytes, id, state, rfl, hbytes, hid, rfl⟩ := firstStart_ok h
  constructor
  case tip => exact .genesis
  case verified =>
    intro other b hb
    exact absurd hb (by simp)
  case stored =>
    intro other stored hstored
    obtain ⟨rfl, rfl⟩ := lookup_singleton_eq_some hstored
    exact ⟨_, .genesis, rfl, Block.decode_encode hbytes, lookup_singleton_self _ _⟩
  case calls => simp

theorem start_recorded : Recorded api s.lastAccepted seen [s.lastAccepted] s := by
  obtain ⟨block, bytes, id, state, rfl, hbytes, hid, rfl⟩ := firstStart_ok h
  constructor
  case tip => rfl
  case last => rfl
  case linked => exact isChain_singleton _
  case derived => simpa using Derived.genesis
  case blocks =>
    intro b hb
    obtain rfl := mem_singleton.mp hb
    exact ⟨bytes, lookup_singleton_self _ _, Block.decode_encode hbytes⟩
  case states =>
    intro b hb
    obtain rfl := mem_singleton.mp hb
    exact lookup_singleton_self _ _
  case receipts => simp
  case distinct => simp [VerifiedBlock.names]
  case only_blocks =>
    intro other stored hstored
    exact ⟨_, mem_singleton_self _, (lookup_singleton_eq_some hstored).1.symm⟩
  case only_receipts =>
    intro other row hrow
    exact absurd hrow (by simp)

end

theorem start_run_recorded {ops : List ChainOp}
    (hstart : firstStart api genesisHash timestamp emptyLedger = .ok s) (hids : DistinctIds api seen)
    (hseen : ∀ b ∈ seenBlocks api s ops, seen b) :
    Genesis api seen s.lastAccepted ∧ Recorded api s.lastAccepted seen
      (s.lastAccepted :: acceptedBlocks api s ops) (run (perform api) s ops) := by
  have hlisted : ∀ u ∈ visited (perform api) s ops, Listed seen u := by
    intro u hu
    obtain ⟨htip, hverified⟩ := seenBlocks_listed api s ops u hu
    exact ⟨hseen _ htip, fun id b hb => hseen _ (hverified id b hb)⟩
  have hg := start_genesis hstart (hlisted s (self_mem_visited ops))
  exact ⟨hg, run_recorded hg hids hlisted (start_sound hstart) (start_recorded hstart)⟩

/-- After any run from a genesis, through forks, caching and any interleaving of calls, the
accepted blocks are one chain, each stored state is the replay of its block on the stored
state of its parent, the stored receipts are those of the replay, and no transaction was
applied in two of the blocks. -/
theorem accepted_blocks_replay (hhook : api.HookKeepsApplied)
    (hstart : firstStart api genesisHash timestamp emptyLedger = .ok s) (ops : List ChainOp)
    (hids : DistinctIds api (fun b => b ∈ seenBlocks api s ops)) :
    (s.lastAccepted :: acceptedBlocks api s ops).IsChain
        (Extends api (run (perform api) s ops).db) ∧
      (s.lastAccepted :: acceptedBlocks api s ops).getLast? =
        some (run (perform api) s ops).lastAccepted ∧
      (run (perform api) s ops).db.lastAccepted = (run (perform api) s ops).lastAccepted.id ∧
      ((s.lastAccepted :: acceptedBlocks api s ops).flatMap VerifiedBlock.names).Nodup ∧
      (∀ id bytes, (run (perform api) s ops).db.blocks.lookup id = some bytes →
        ∃ b ∈ s.lastAccepted :: acceptedBlocks api s ops, b.id = id) ∧
      ∀ id row, (run (perform api) s ops).db.transactions.lookup id = some row →
        ∃ b ∈ s.lastAccepted :: acceptedBlocks api s ops, ∃ r ∈ b.receipts,
          row = AcceptedReceipt.of b.id b r := by
  obtain ⟨-, h⟩ := start_run_recorded hstart hids fun _ => id
  exact ⟨h.extends hhook, h.tip, h.last, h.distinct hhook, h.only_blocks, h.only_receipts⟩

/-- A block that two nodes with one genesis have both accepted is the same block in the same state
on both, whatever else either of them was asked to build, verify, accept or reject. -/
theorem nodes_agree
    (hstart : firstStart api genesisHash timestamp emptyLedger = .ok s) (ops ops' : List ChainOp)
    (hids : DistinctIds api fun b => b ∈ seenBlocks api s ops ∨ b ∈ seenBlocks api s ops') (id : Id)
    {bytes bytes' : Bytes} (hbytes : (run (perform api) s ops).db.blocks.lookup id = some bytes)
    (hbytes' : (run (perform api) s ops').db.blocks.lookup id = some bytes') :
    Block.decode bytes = Block.decode bytes' ∧
      (run (perform api) s ops).db.states.lookup id =
        (run (perform api) s ops').db.states.lookup id := by
  obtain ⟨hg, h⟩ := start_run_recorded hstart hids fun _ => .inl
  obtain ⟨-, h'⟩ := start_run_recorded hstart hids fun _ => .inr
  obtain ⟨b, hb, rfl⟩ := h.only_blocks id bytes hbytes
  obtain ⟨c, hc, hid⟩ := h'.only_blocks b.id bytes' hbytes'
  have hagrees := Derived.agrees hg hids (h.derived b hb) (h'.derived c hc) hid.symm
  obtain ⟨_, hstored, hdecode⟩ := h.blocks b hb
  obtain ⟨_, hstored', hdecode'⟩ := h'.blocks c hc
  rw [hbytes, Option.some.injEq] at hstored
  rw [hid, hbytes', Option.some.injEq] at hstored'
  have hstate := h'.states c hc
  rw [hid, ← hagrees.state] at hstate
  rw [hstored, hdecode, hstored', hdecode', hagrees.block, h.states b hb, hstate]
  exact ⟨rfl, rfl⟩

/-- Receipts that lead from one state root to another, each from where the last one ended. -/
def RootsLink : Id → List TransitionReceipt → Id → Prop
  | root, [], last => root = last
  | root, r :: receipts, last => r.beforeRoot = root ∧ RootsLink r.afterRoot receipts last

theorem Replays.rootsLink {timestamp : UInt64} {s t : ChainState L} {transactions : List Bytes}
    {receipts : List TransitionReceipt} (h : Replays api timestamp s transactions receipts t)
    {more : List TransitionReceipt} {last : Id} (hmore : RootsLink (api.root t) more last) :
    RootsLink (api.root s) (receipts ++ more) last := by
  induction h with
  | done => exact hmore
  | step _ hbefore hafter _ ih => exact ⟨hbefore, hafter ▸ ih hmore⟩

theorem linked_rootsLink {b last : VerifiedBlock L} {chain : List (VerifiedBlock L)}
    (h : (b :: chain).IsChain (Follows api)) (hlast : (b :: chain).getLast? = some last) :
    RootsLink (api.root b.state) (chain.flatMap (·.receipts)) (api.root last.state) := by
  induction chain generalizing b with
  | nil =>
    obtain rfl : b = last := by simpa using hlast
    rfl
  | cons c chain ih =>
    obtain ⟨hfollows, hchain⟩ := List.isChain_cons_cons.mp h
    exact (applyAll_replays hfollows.replay).rootsLink (ih hchain (by simpa using hlast))

/-- The receipts of the accepted blocks lead without a gap from the root of the genesis state to the
root of the last accepted one. -/
theorem receipts_link_roots
    (hstart : firstStart api genesisHash timestamp emptyLedger = .ok s) (ops : List ChainOp)
    (hids : DistinctIds api fun b => b ∈ seenBlocks api s ops) :
    RootsLink (api.root s.lastAccepted.state) ((acceptedBlocks api s ops).flatMap (·.receipts))
      (api.root (run (perform api) s ops).lastAccepted.state) := by
  obtain ⟨-, h⟩ := start_run_recorded hstart hids fun _ => id
  exact linked_rootsLink h.linked h.tip

end Start

section Sample

def sampleId (n : ℕ) : Id := ⟨beBytes 32 n, length_beBytes 32 n⟩

/-- Names that tell the blocks of one chain apart, also after the heights have stopped. -/
def sampleDigest (bytes : Bytes) : Id :=
  match Block.decode bytes with
  | .ok block =>
    if beValue block.parentId.val = 2 * block.height.toNat then
      sampleId (2 * block.height.toNat + 1)
    else sampleId (2 * block.height.toNat)
  | .error _ => sampleId (2 ^ 200 + (bytes.headD 0).toNat)

def sampleApi : ChainApi Bytes ℕ where
  digest := sampleDigest
  idText _ := "id"
  fromSlice bytes := .ok ⟨"defmivm.issueAsset", bytes⟩
  toVec transaction := .ok transaction.params
  issueMethods := ["defmivm.issueAsset"]
  validateParams _ := .ok ()
  policy := none
  supportedPath _ _ := .ok ()
  executeMethod s _ _ := .ok (s.ledger + 1, Id.zero)
  applicationExecute _ _ _ := .error "this VM has no application runtime"
  validateHostState _ := .ok ()
  validateState _ := .ok ()
  root s := sampleId s.ledger

theorem sampleApi_hook : sampleApi.HookKeepsApplied := by
  intro s params timestamp t statement h
  exact absurd h (by simp [sampleApi])

def encoded (block : Block) : Bytes := block.encode.toOption.getD []

def chainName (k : ℕ) : ℕ := if k < 2 ^ 64 then 2 * k else 2 * (2 ^ 64 - 1) + 1

def chainBlock : ℕ → Block
  | 0 => ⟨sampleId 1, 0, 0, []⟩
  | k + 1 => ⟨sampleId (chainName k), 0, UInt64.ofNat (min (k + 1) (2 ^ 64 - 1)), []⟩

def chainVerified (k : ℕ) : VerifiedBlock ℕ :=
  ⟨chainBlock k, encoded (chainBlock k), sampleId (chainName k), ⟨none, ∅, 0, 0⟩, []⟩

def sampleStart : Runtime ℕ :=
  let genesis := chainVerified 0
  { db := ⟨genesis.id, singleton genesis.id genesis.bytes,
      singleton genesis.id genesis.state, singleton 0 genesis.id, ∅⟩
    engineState := .bootstrapping
    lastAccepted := genesis
    preferred := genesis.id
    verified := ∅
    mempool := []
    pending := ∅
    processing := ∅
    calls := [] }

/-- A block is built from a submitted transaction, a child of it is verified before it is
accepted, and both are accepted. -/
def sampleOps : List ChainOp :=
  let child : Block := ⟨sampleId 2, 5, 2, [[2]]⟩
  [.setState .normalOp, .enqueue [1] true none, .resume 0 none none,
    .buildBlock, .resume 0 none none, .resume 0 none none, .resume 0 (some 5) none,
    .verifyCandidate (encoded child), .resume 0 none none, .resume 0 (some 5) none,
    .blockAccept (sampleId 2) none, .blockAccept (sampleId 4) none]

theorem encode_empty {block : Block} (htimestamp : block.timestamp = 0)
    (hempty : block.transactions = []) : block.encode = .ok (encoded block) := by
  have hvalid : block.validate = .ok () := by
    rw [Block.validate_ok, htimestamp, hempty]
    decide
  have hsize : block.parentId.val.length = 32 := block.parentId.property
  have hok : ∃ bytes, block.encode = .ok bytes := by
    refine ⟨_, bind_eq_ok.mpr ⟨(), hvalid, bind_eq_ok.mpr ⟨(), require_ok ?_, rfl⟩⟩⟩
    simp [Block.length_magic, hsize, hempty, Block.encodeTransactions, Block.maxBlockBytes]
  obtain ⟨bytes, hbytes⟩ := hok
  rw [encoded, hbytes]
  rfl

theorem chainBlock_encode (k : ℕ) : (chainBlock k).encode = .ok (encoded (chainBlock k)) := by
  cases k with
  | zero => exact encode_empty rfl rfl
  | succ => exact encode_empty rfl rfl

theorem beValue_sampleId {n : ℕ} (h : n < 256 ^ 32) : beValue (sampleId n).val = n :=
  beValue_beBytes h

theorem chainBlock_height (k : ℕ) :
    (chainBlock (k + 1)).height.toNat = min (k + 1) (2 ^ 64 - 1) := by
  refine UInt64.toNat_ofNat_of_lt' ?_
  rw [UInt64.size]
  omega

theorem chainBlock_id {k : ℕ} (hk : k ≤ 2 ^ 64) :
    (chainBlock k).id sampleDigest = .ok (sampleId (chainName k)) := by
  refine bind_ok (chainBlock_encode k) ?_
  rw [pure_eq_ok, sampleDigest, Block.decode_encode (chainBlock_encode k)]
  cases k with
  | zero => rfl
  | succ k =>
    have hparent : beValue (chainBlock (k + 1)).parentId.val = 2 * k := by
      have hname : chainName k = 2 * k := if_pos (by omega)
      change beValue (sampleId (chainName k)).val = 2 * k
      rw [hname, beValue_sampleId (by omega)]
    simp only [chainBlock_height, hparent]
    by_cases hlast : k + 1 < 2 ^ 64
    · have hname : chainName (k + 1) = 2 * (k + 1) := if_pos hlast
      have hmin : min (k + 1) (2 ^ 64 - 1) = k + 1 := by omega
      rw [hname, hmin, if_neg (by omega)]
    · have hname : chainName (k + 1) = 2 * (2 ^ 64 - 1) + 1 := if_neg hlast
      have hmin : min (k + 1) (2 ^ 64 - 1) = 2 ^ 64 - 1 := by omega
      rw [hname, hmin, if_pos (by omega)]

theorem sampleStart_eq : firstStart sampleApi (sampleId 1) 0 0 = .ok sampleStart := by
  have hbytes : (⟨sampleId 1, 0, 0, []⟩ : Block).encode = .ok (chainVerified 0).bytes :=
    chainBlock_encode 0
  have hid : (⟨sampleId 1, 0, 0, []⟩ : Block).id sampleApi.digest = .ok (chainVerified 0).id :=
    chainBlock_id (k := 0) (Nat.zero_le _)
  simp only [firstStart, hbytes, hid]
  rfl

theorem sampleOps_distinct :
    DistinctIds sampleApi (fun b => b ∈ seenBlocks sampleApi sampleStart sampleOps) := by
  have hids : ∀ b ∈ seenBlocks sampleApi sampleStart sampleOps,
      ∀ c ∈ seenBlocks sampleApi sampleStart sampleOps,
        b.id sampleDigest = c.id sampleDigest → b = c := by decide +kernel
  exact fun b c hb hc hsame => hids b hb c hc hsame

theorem accepted_blocks_replay_sample :
    (acceptedBlocks sampleApi sampleStart sampleOps).length = 2 ∧
      (sampleStart.lastAccepted :: acceptedBlocks sampleApi sampleStart sampleOps).IsChain
        (Extends sampleApi (run (perform sampleApi) sampleStart sampleOps).db) := by
  refine ⟨by decide +kernel, ?_⟩
  exact (accepted_blocks_replay sampleApi_hook sampleStart_eq sampleOps sampleOps_distinct).1

/-- The node that builds no block: it verifies the other's first one and accepts it. -/
def followerOps : List ChainOp :=
  [.verifyCandidate (encoded ⟨sampleId 0, 5, 1, [[1]]⟩), .resume 0 none none,
    .resume 0 (some 5) none, .blockAccept (sampleId 2) none]

theorem nodes_agree_sample :
    (run (perform sampleApi) sampleStart sampleOps).db.states.lookup (sampleId 2) =
      (run (perform sampleApi) sampleStart followerOps).db.states.lookup (sampleId 2) := by
  let seen := seenBlocks sampleApi sampleStart sampleOps ++
    seenBlocks sampleApi sampleStart followerOps
  have hids : ∀ b ∈ seen, ∀ c ∈ seen, b.id sampleDigest = c.id sampleDigest → b = c := by
    decide +kernel
  have hstored (ops) (h : ops = sampleOps ∨ ops = followerOps) :
      (run (perform sampleApi) sampleStart ops).db.blocks.lookup (sampleId 2) =
        some (encoded ⟨sampleId 0, 5, 1, [[1]]⟩) := by
    rcases h with rfl | rfl <;> decide +kernel
  exact (nodes_agree sampleStart_eq sampleOps followerOps (fun b c hb hc =>
    hids b (mem_append.mpr hb) c (mem_append.mpr hc)) _ (hstored _ (.inl rfl))
      (hstored _ (.inr rfl))).2

theorem receipts_link_roots_sample :
    RootsLink (sampleApi.root sampleStart.lastAccepted.state)
      ((acceptedBlocks sampleApi sampleStart sampleOps).flatMap (·.receipts))
      (sampleApi.root (run (perform sampleApi) sampleStart sampleOps).lastAccepted.state) :=
  receipts_link_roots sampleStart_eq sampleOps sampleOps_distinct

def chainOps (k : ℕ) : List ChainOp :=
  [.verifyCandidate (encoded (chainBlock (k + 1))), .resume 0 none none, .resume 0 (some 0) none,
    .blockAccept (chainVerified (k + 1)).id none]

def chainRun : ℕ → List ChainOp
  | 0 => []
  | k + 1 => chainRun k ++ chainOps k

structure AtBlock (k : ℕ) (s : Runtime ℕ) : Prop where
  tip : s.lastAccepted = chainVerified k
  calls : s.calls = []
  verified : s.verified = ∅
  stored : s.db.states.lookup (sampleId (chainName k)) = some ⟨none, ∅, 0, 0⟩

theorem chainBlock_succ_height (k : ℕ) :
    (chainBlock (k + 1)).height = saturatingSucc (chainBlock k).height := by
  apply UInt64.toNat_inj.mp
  rw [toNat_saturatingSucc]
  cases k with
  | zero => rfl
  | succ =>
    rw [chainBlock_height, chainBlock_height]
    omega

theorem erase_insert_empty {α : Type} (id : Id) (a : α) :
    ((∅ : Table Id α).insert id a).erase id = ∅ :=
  ext (kerase_cons_eq rfl)

section Step
variable {k : ℕ} {s : Runtime ℕ}

theorem chain_verifyCandidate (hk : k < 2 ^ 64) (h : AtBlock k s) :
    perform sampleApi (.verifyCandidate (encoded (chainBlock (k + 1)))) s =
      (.ok .pending, { s with
        calls := [.finding (sampleId (chainName k)) (.verify (chainVerified (k + 1)))] }) := by
  have hparse : sampleApi.parseBlockBytes s.lastAccepted.state (encoded (chainBlock (k + 1))) =
      .ok (chainVerified (k + 1)) := by
    refine bind_ok (Block.decode_encode (chainBlock_encode (k + 1))) ?_
    refine bind_ok (chainBlock_id (k := k + 1) hk) ?_
    rw [h.tip]
    rfl
  refine bind_eq.mpr ⟨_, s, check_eq.mpr ⟨hparse, rfl⟩, ?_⟩
  refine bind_eq.mpr ⟨none, s, check_eq.mpr ⟨by rw [h.verified]; rfl, rfl⟩, ?_⟩
  change (Except.ok Reply.pending, { s with calls := s.calls ++ _ }) = _
  rw [h.calls]
  rfl

theorem chain_finding (h : AtBlock k s) :
    perform sampleApi (.resume 0 none none) { s with
        calls := [.finding (sampleId (chainName k)) (.verify (chainVerified (k + 1)))] } =
      (.ok .pending, { s with
        calls := [.loaded (sampleId (chainName k)) (chainVerified k)
          (.verify (chainVerified (k + 1)))] }) := by
  refine bind_eq.mpr ⟨_, _, check_eq.mpr ⟨rfl, rfl⟩, ?_⟩
  refine bind_eq.mpr ⟨(), _, rfl, ?_⟩
  refine bind_eq.mpr ⟨some (chainVerified k), _, check_eq.mpr ⟨?_, rfl⟩, rfl⟩
  rw [pure_eq_ok, inMemory, if_pos (by rw [h.tip]; rfl), h.tip]

theorem chain_verify :
    perform sampleApi (.resume 0 (some 0) none) { s with
        calls := [.loaded (sampleId (chainName k)) (chainVerified k)
          (.verify (chainVerified (k + 1)))] } =
      (.ok (.verified (chainVerified (k + 1))),
        addVerified (chainVerified (k + 1)) { s with calls := [] }) := by
  have hchecked : checked sampleApi (chainVerified (k + 1)) (chainVerified k) (some 0) =
      .ok (chainVerified (k + 1)) := by
    have htime : ∀ n, (chainBlock n).timestamp = 0 := fun n => by cases n <;> rfl
    refine bind_ok (require_ok (chainBlock_succ_height k)) ?_
    refine bind_ok (require_ok ?_) ?_
    · change (chainBlock k).timestamp ≤ (chainBlock (k + 1)).timestamp
      rw [htime, htime]
      decide
    refine bind_eq_ok.mpr ⟨0, rfl, bind_eq_ok.mpr ⟨(), require_ok ?_, rfl⟩⟩
    change (chainBlock (k + 1)).timestamp ≤ _
    rw [htime]
    decide
  refine bind_eq.mpr ⟨_, _, check_eq.mpr ⟨rfl, rfl⟩, ?_⟩
  refine bind_eq.mpr ⟨(), _, rfl, ?_⟩
  exact bind_eq.mpr ⟨_, _, check_eq.mpr ⟨hchecked, rfl⟩, rfl⟩

theorem chain_accept (h : AtBlock k s) :
    perform sampleApi (.blockAccept (chainVerified (k + 1)).id none)
        (addVerified (chainVerified (k + 1)) { s with calls := [] }) =
      (.ok .done, Runtime.accepted sampleApi (chainVerified (k + 1)).id (chainVerified (k + 1))
        (addVerified (chainVerified (k + 1)) { s with calls := [] })) := by
  have hverified := lookup_insert (a := (chainVerified (k + 1)).id)
    (b := chainVerified (k + 1)) s.verified
  have hlink : (chainVerified (k + 1)).block.parentId = s.lastAccepted.id ∧
      (chainVerified (k + 1)).block.height = saturatingSucc s.lastAccepted.block.height := by
    rw [h.tip]
    exact ⟨rfl, chainBlock_succ_height k⟩
  have hstored : s.db.states.lookup s.lastAccepted.id = some ⟨none, ∅, 0, 0⟩ := by
    rw [h.tip]
    exact h.stored
  simp only [perform, blockAccept, ran_iff, ok_iff]
  exact ⟨_, hverified, hlink, _, hstored, rfl, trivial, rfl⟩

theorem chainOps_run (hk : k < 2 ^ 64) (h : AtBlock k s) :
    AtBlock (k + 1) (run (perform sampleApi) s (chainOps k)) ∧
      acceptedBlocks sampleApi s (chainOps k) = [chainVerified (k + 1)] ∧
      ∀ b ∈ seenBlocks sampleApi s (chainOps k), b = chainBlock k ∨ b = chainBlock (k + 1) := by
  have h1 := chain_verifyCandidate hk h
  have h2 := chain_finding h
  have h3 := chain_verify (k := k) (s := s)
  have h4 := chain_accept h
  refine ⟨?_, ?_, ?_⟩
  · rw [chainOps, run_cons_eq h1, run_cons_eq h2, run_cons_eq h3, run_cons_eq h4]
    constructor
    case tip => rfl
    case calls => rfl
    case verified =>
      change (s.verified.insert (chainVerified (k + 1)).id _).erase (chainVerified (k + 1)).id = ∅
      rw [h.verified, erase_insert_empty]
    case stored => exact lookup_insert (a := (chainVerified (k + 1)).id) s.db.states
  · rw [chainOps, acceptedBlocks_cons_other (by simp), h1, acceptedBlocks_cons_other (by simp), h2,
      acceptedBlocks_cons_other (by simp), h3,
      acceptedBlocks_cons_accept h4 (lookup_insert _)]
    rfl
  · intro b hb
    obtain ⟨u, hu, hmem⟩ := mem_flatMap.mp hb
    have hold : ∀ calls, b ∈ ({ s with calls } : Runtime ℕ).held → b = chainBlock k := by
      intro calls hmem
      rw [held, h.tip, h.verified] at hmem
      exact mem_singleton.mp hmem
    simp only [chainOps, visited, h1, h2, h3, h4, mem_cons, not_mem_nil, or_false] at hu
    rcases hu with rfl | rfl | rfl | rfl | rfl
    · exact .inl (hold u.calls hmem)
    · exact .inl (hold _ hmem)
    · exact .inl (hold _ hmem)
    · rw [held, addVerified, h.tip, h.verified] at hmem
      rcases mem_cons.mp hmem with hmem | hmem
      · exact .inl hmem
      · exact .inr (mem_singleton.mp hmem)
    · rw [held, Runtime.accepted, addVerified, h.verified,
        erase_insert_empty] at hmem
      exact .inr (mem_singleton.mp hmem)

end Step

theorem chainRun_run (n : ℕ) (hn : n ≤ 2 ^ 64) :
    AtBlock n (run (perform sampleApi) sampleStart (chainRun n)) ∧
      acceptedBlocks sampleApi sampleStart (chainRun n) =
        (range n).map (fun k => chainVerified (k + 1)) ∧
      ∀ b ∈ seenBlocks sampleApi sampleStart (chainRun n), ∃ k ≤ n, b = chainBlock k := by
  induction n with
  | zero =>
    refine ⟨⟨rfl, rfl, rfl, lookup_singleton_self _ _⟩, rfl, ?_⟩
    intro b hb
    exact ⟨0, Nat.le_refl 0, mem_singleton.mp hb⟩
  | succ n ih =>
    obtain ⟨hat, haccepted, hseen⟩ := ih (by omega)
    obtain ⟨hnext, hmore, hblocks⟩ := chainOps_run (by omega) hat
    refine ⟨?_, ?_, ?_⟩
    · rw [chainRun, run_append]
      exact hnext
    · rw [chainRun, acceptedBlocks, history_append, filterMap_append, range_succ,
        map_append]
      exact congrArg₂ (· ++ ·) haccepted hmore
    · intro b hb
      obtain ⟨u, hu, hmem⟩ := mem_flatMap.mp hb
      rcases mem_visited_append.mp hu with hu | hu
      · obtain ⟨k, hk, rfl⟩ := hseen b (mem_flatMap.mpr ⟨u, hu, hmem⟩)
        exact ⟨k, by omega, rfl⟩
      · rcases hblocks b (mem_flatMap.mpr ⟨u, hu, hmem⟩) with rfl | rfl
        · exact ⟨n, by omega, rfl⟩
        · exact ⟨n + 1, by omega, rfl⟩

theorem chainName_inj {k n : ℕ} (hk : k ≤ 2 ^ 64) (hn : n ≤ 2 ^ 64)
    (h : sampleId (chainName k) = sampleId (chainName n)) : k = n := by
  have hbound : ∀ m ≤ 2 ^ 64, chainName m < 256 ^ 32 ∧
      (chainName m = 2 * m ∧ m < 2 ^ 64 ∨ chainName m = 2 * (2 ^ 64 - 1) + 1 ∧ m = 2 ^ 64) := by
    intro m hm
    unfold chainName
    split <;> omega
  obtain ⟨hk', hkname⟩ := hbound k hk
  obtain ⟨hn', hnname⟩ := hbound n hn
  have hvalue : beValue (sampleId (chainName k)).val = beValue (sampleId (chainName n)).val := by
    rw [h]
  rw [beValue_sampleId hk', beValue_sampleId hn'] at hvalue
  omega

theorem isChain_last {R : VerifiedBlock ℕ → VerifiedBlock ℕ → Prop} {n : ℕ}
    (h : (sampleStart.lastAccepted ::
      (range (n + 2)).map fun k => chainVerified (k + 1)).IsChain R) :
    R (chainVerified (n + 1)) (chainVerified (n + 2)) := by
  rw [range_succ, map_append, ← cons_append, isChain_append] at h
  obtain ⟨-, -, hlast⟩ := h
  refine hlast _ ?_ _ rfl
  rw [range_succ, map_append, ← cons_append]
  exact getLast?_concat

/-- The heights stop at the top of their width: the block after `2 ^ 64 - 1` others has the
height of its parent. -/
theorem heights_stop_rising :
    sampleApi.HookKeepsApplied ∧ firstStart sampleApi (sampleId 1) 0 0 = .ok sampleStart ∧
      DistinctIds sampleApi (fun b => b ∈ seenBlocks sampleApi sampleStart (chainRun (2 ^ 64))) ∧
      ¬ (sampleStart.lastAccepted ::
          acceptedBlocks sampleApi sampleStart (chainRun (2 ^ 64))).IsChain
        (fun parent child => child.block.height.toNat = parent.block.height.toNat + 1) := by
  obtain ⟨hat, haccepted, hseen⟩ := chainRun_run (2 ^ 64) (Nat.le_refl _)
  refine ⟨sampleApi_hook, sampleStart_eq, ?_, ?_⟩
  · intro b c hb hc hsame
    obtain ⟨k, hk, rfl⟩ := hseen b hb
    obtain ⟨n, hn, rfl⟩ := hseen c hc
    change (chainBlock k).id sampleDigest = (chainBlock n).id sampleDigest at hsame
    rw [chainBlock_id hk, chainBlock_id hn, Except.ok.injEq] at hsame
    rw [chainName_inj hk hn hsame]
  · rw [haccepted]
    intro hrising
    obtain ⟨n, hn⟩ : ∃ n, 2 ^ 64 = n + 2 := ⟨2 ^ 64 - 2, by norm_num⟩
    rw [hn] at hrising
    have hlast : (chainBlock (n + 2)).height.toNat = (chainBlock (n + 1)).height.toNat + 1 :=
      isChain_last hrising
    rw [chainBlock_height, chainBlock_height] at hlast
    omega

end Sample

end DeFMI.Chain
