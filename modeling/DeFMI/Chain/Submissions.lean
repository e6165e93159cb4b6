import DeFMI.Chain.AcceptedChain
set_option autoImplicit false

/-!
What becomes of a submitted transaction. It is applied, pooled, in a verified block,
or was refused by a block being built, provided that no block being built outgrows
the encoder: the loop that fills a block counts transactions and not bytes, and by
the time the encoder refuses the block its transactions have left the pool.
-/

namespace DeFMI.Chain
open Lib InPlace AList Entry List Chain.Runtime Block

variable {Json L : Type}

def blockSize (transactions : List Bytes) : ℕ :=
  58 + (transactions.map fun transaction => 4 + transaction.length).sum

section Definitions
variable (api : ChainApi Json L)

def applicable (timestamp : UInt64) : ℕ → ChainState L → List Bytes → List Bytes
  | _, _, [] => []
  | 0, _, _ :: _ => []
  | count + 1, state, bytes :: rest =>
    match api.apply state bytes timestamp with
    | .ok next => bytes :: applicable timestamp count next.1 rest
    | .error _ => applicable timestamp (count + 1) state rest

section
variable (s : Runtime L)

/-- A block being built stays within the limit of the encoder. -/
def Fits (op : ChainOp) : Prop :=
  ∀ parent now, s.buildOf op = some (parent, now) →
    blockSize (applicable api (max now parent.block.timestamp).toUInt64 Block.maxTransactions
      parent.state s.mempool) ≤ Block.maxBlockBytes

instance (s : Runtime L) (op : ChainOp) : Decidable (Fits api s op) :=
  match h : s.buildOf op with
  | none => isTrue fun parent now hbuild => by simp [h] at hbuild
  | some (parent, now) =>
    decidable_of_iff (blockSize (applicable api (max now parent.block.timestamp).toUInt64
      Block.maxTransactions parent.state s.mempool) ≤ Block.maxBlockBytes) (by simp [Fits, h])

def refusals (op : ChainOp) : List Id :=
  match s.buildOf op with
  | some (parent, now) =>
    (s.drained api parent.state (max now parent.block.timestamp).toUInt64).2.refused.map Prod.fst
  | none => []

def Pooled (id : Id) : Prop := ∃ bytes ∈ s.mempool, api.transactionId bytes = .ok id

def InBlock (id : Id) : Prop :=
  ∃ key b, s.verified.lookup key = some b ∧
    ∃ bytes ∈ b.block.transactions, api.transactionId bytes = .ok id

def Held (id : Id) : Prop :=
  id ∈ s.lastAccepted.state.appliedTransactions ∨ Pooled api s id ∨ InBlock api s id

end

def Submitted (bytes : Bytes) : Prop :=
  (∃ id, api.transactionId bytes = .ok id) ∧ Block.Sized bytes.length

/-- The sets that `enqueue` and `block_reject` consult say no more than what is held. -/
structure Pools (s : Runtime L) : Prop where
  submitted : ∀ bytes ∈ s.mempool, Submitted api bytes
  pending : ∀ id ∈ s.pending, Pooled api s id
  processing : ∀ id ∈ s.processing, InBlock api s id
  stored : ∀ id ∈ s.db.transactions, id ∈ s.lastAccepted.state.appliedTransactions
  admitting : ∀ id bytes, .admitting id bytes ∈ s.calls →
    api.transactionId bytes = .ok id ∧ Block.Sized bytes.length
  inserting : ∀ id bytes, .inserting id bytes ∈ s.calls →
    api.transactionId bytes = .ok id ∧ Block.Sized bytes.length

end Definitions

section Loop
variable {api : ChainApi Json L}

structure Drains (api : ChainApi Json L) (pool : List Bytes) (before after : Drained L) : Prop where
  left : ∀ bytes ∈ after.mempool, bytes ∈ before.mempool
  gone : ∀ bytes ∈ pool, bytes ∈ after.mempool ∨ bytes ∈ after.transactions ∨
    ∃ id ∈ after.refused.map Prod.fst, api.transactionId bytes = .ok id
  transactions : ∀ bytes ∈ after.transactions, bytes ∈ before.transactions ∨ bytes ∈ pool
  kept : ∀ bytes ∈ before.transactions, bytes ∈ after.transactions
  refused : ∀ id ∈ before.refused.map Prod.fst, id ∈ after.refused.map Prod.fst
  pending : ∀ id ∈ after.pending, id ∈ before.pending ∧
    ∀ bytes ∈ pool, api.transactionId bytes = .ok id → bytes ∈ after.mempool
  processing : ∀ id ∈ after.processing, id ∈ before.processing ∨
    ∃ bytes ∈ after.transactions, api.transactionId bytes = .ok id

theorem Drains.refl {pool : List Bytes} {d : Drained L} (hpool : d.mempool = pool) :
    Drains api pool d d := by
  subst hpool
  constructor <;> grind

theorem Drains.cons {bytes : Bytes} {rest : List Bytes} {id : Id} {before next after : Drained L}
    (hpool : before.mempool = bytes :: rest) (hid : api.transactionId bytes = .ok id)
    (hmempool : next.mempool = rest) (hpending : next.pending = before.pending.erase id)
    (hchoice : (next.transactions = before.transactions ++ [bytes] ∧
        next.processing = before.processing.insert id bytes ∧ next.refused = before.refused) ∨
      (next.transactions = before.transactions ∧ next.processing = before.processing ∧
        ∃ reason, next.refused = before.refused ++ [(id, reason)]))
    (h : Drains api rest next after) : Drains api (bytes :: rest) before after := by
  constructor
  case left => grind [Drains]
  case gone => grind [Drains]
  case transactions => grind [Drains]
  case kept => grind [Drains]
  case refused => grind [Drains]
  case pending => grind [Drains]
  case processing => grind [Drains]

theorem drain_drains {timestamp : UInt64} {pool : List Bytes} {before : Drained L}
    (hpool : before.mempool = pool) (hsubmitted : ∀ bytes ∈ pool, Submitted api bytes) :
    (drain api timestamp pool before).1 = .ok () ∧
      Drains api pool before (drain api timestamp pool before).2 := by
  induction pool generalizing before with
  | nil => exact ⟨rfl, Drains.refl hpool⟩
  | cons bytes rest ih =>
    obtain ⟨⟨⟨id, hid⟩, -⟩, hrest⟩ := forall_mem_cons.mp hsubmitted
    unfold drain
    by_cases hroom : before.transactions.length < maxTransactions
    · simp only [if_pos hroom, hid]
      cases happly : api.apply before.state bytes timestamp with
      | ok next =>
        obtain ⟨hok, h⟩ := @ih ((before.take rest id).append id bytes next) rfl hrest
        exact ⟨hok, h.cons hpool hid rfl rfl (by exact .inl ⟨rfl, rfl, rfl⟩)⟩
      | error reason =>
        obtain ⟨hok, h⟩ := @ih ((before.take rest id).refuse id reason) rfl hrest
        exact ⟨hok, h.cons hpool hid rfl rfl (by exact .inr ⟨rfl, rfl, reason, rfl⟩)⟩
    · rw [if_neg hroom]
      exact ⟨rfl, Drains.refl hpool⟩

theorem applicable_zero (timestamp : UInt64) (state : ChainState L) (pool : List Bytes) :
    applicable api timestamp 0 state pool = [] := by
  cases pool with
  | nil => rfl
  | cons => rfl

theorem length_applicable_le (timestamp : UInt64) (count : ℕ) (state : ChainState L)
    (pool : List Bytes) : (applicable api timestamp count state pool).length ≤ count := by
  fun_induction applicable api timestamp count state pool <;> grind

theorem drain_transactions {timestamp : UInt64} {pool : List Bytes} {before : Drained L}
    {room : ℕ} (hsubmitted : ∀ bytes ∈ pool, Submitted api bytes)
    (hroom : before.transactions.length + room = maxTransactions) :
    (drain api timestamp pool before).2.transactions =
      before.transactions ++ applicable api timestamp room before.state pool := by
  induction pool generalizing before room with
  | nil =>
    unfold drain
    cases room <;> simp [applicable]
  | cons bytes rest ih =>
    obtain ⟨⟨⟨id, hid⟩, -⟩, hrest⟩ := forall_mem_cons.mp hsubmitted
    unfold drain
    cases room with
    | zero =>
      rw [if_neg (by omega), applicable_zero, append_nil]
    | succ room =>
      simp only [if_pos (show before.transactions.length < maxTransactions by omega), hid]
      cases happly : api.apply before.state bytes timestamp with
      | ok next =>
        have hnext := @ih ((before.take rest id).append id bytes next) room hrest
          (by simp [Drained.append, Drained.take]; omega)
        simp only [applicable, happly, hnext]
        simp [Drained.append, Drained.take]
      | error reason =>
        have hnext := @ih ((before.take rest id).refuse id reason) (room + 1) hrest hroom
        simp only [applicable, happly, hnext]
        rfl

end Loop

section Encoding

theorem nowSeconds_nonneg {clock : Option ℕ} {now : Int64} (h : nowSeconds clock = .ok now) :
    0 ≤ now := by
  simp only [nowSeconds, ok_iff] at h
  obtain ⟨seconds, -, hbound, rfl⟩ := h
  rw [Int64.le_iff_toInt_le, Int64.toInt_ofNat_of_lt hbound]
  simp

theorem le_timestamp_max (now timestamp : Int64) : now ≤ max now timestamp := by
  change now ≤ if now ≤ timestamp then timestamp else now
  by_cases h : now ≤ timestamp
  · rw [if_pos h]
    exact h
  · rw [if_neg h]
    exact Int64.le_refl _

theorem length_encodeTransactions (transactions : List Bytes) :
    (encodeTransactions transactions).length =
      (transactions.map fun transaction => 4 + transaction.length).sum := by
  induction transactions with
  | nil => rfl
  | cons transaction transactions ih =>
    simp only [encodeTransactions, flatMap_cons, length_append, length_beBytes,
      map_cons, sum_cons] at ih ⊢
    omega

theorem encode_ok {block : Block} (hvalid : block.validate = .ok ())
    (hsize : blockSize block.transactions ≤ maxBlockBytes) :
    ∃ bytes, block.encode = .ok bytes := by
  have hparent : block.parentId.val.length = 32 := block.parentId.property
  refine ⟨_, bind_eq_ok.mpr ⟨(), hvalid, bind_eq_ok.mpr ⟨(), require_ok ?_, rfl⟩⟩⟩
  simp only [length_append, length_magic, hparent, length_beBytes,
    length_encodeTransactions]
  unfold blockSize at hsize
  omega

end Encoding

section Steps

variable {api : ChainApi Json L} {genesis : VerifiedBlock L} {seen : Block → Prop} {s t : Runtime L}
  {id : Id} {bytes : Bytes}

theorem InBlock.of_verified_eq (h : InBlock api s id) (hsame : t.verified = s.verified) :
    InBlock api t id := by
  grind [InBlock]

theorem InBlock.addVerified (hg : Genesis api seen genesis) (hids : DistinctIds api seen)
    (hsound : Sound api genesis seen s) (b : VerifiedBlock L)
    (hnamed : b.block.id api.digest = .ok b.id) (hseen : seen b.block)
    (h : InBlock api s id) : InBlock api (s.addVerified b) id := by
  obtain ⟨key, c, hc, hmem⟩ := h
  by_cases hkey : key = b.id
  · obtain ⟨hcid, hderived, -⟩ := hsound.verified key c hc
    obtain ⟨hcnamed, hcseen⟩ := hderived.named hg
    have hblock : c.block = b.block := by
      refine hids _ _ hcseen hseen ?_
      rw [hcnamed, hnamed, hcid, hkey]
    exact ⟨b.id, b, lookup_insert _, hblock ▸ hmem⟩
  · refine ⟨key, c, ?_, hmem⟩
    rw [Runtime.addVerified, lookup_insert_ne hkey]
    exact hc

theorem InBlock.of_addVerified_self {b : VerifiedBlock L}
    (hbytes : bytes ∈ b.block.transactions) (hid : api.transactionId bytes = .ok id) :
    InBlock api (s.addVerified b) id :=
  ⟨b.id, b, lookup_insert _, bytes, hbytes, hid⟩

theorem Replays.receipt {timestamp : UInt64} {before after : ChainState L}
    {transactions : List Bytes} {receipts : List TransitionReceipt}
    (h : Replays api timestamp before transactions receipts after)
    (hbytes : bytes ∈ transactions) :
    ∃ r ∈ receipts, api.transactionId bytes = .ok r.transactionId := by
  induction h with
  | done => simp at hbytes
  | step happly hbefore hafter hrest ih =>
    have hname := (apply_ok happly).named
    grind

theorem Derived.submitted (hg : Genesis api seen genesis)
    (hempty : genesis.block.transactions = []) {b : VerifiedBlock L}
    (h : Derived api genesis seen b) : ∀ bytes ∈ b.block.transactions, Submitted api bytes := by
  intro bytes hbytes
  obtain ⟨hnamed, -⟩ := h.named hg
  cases h with
  | genesis => simp [hempty] at hbytes
  | extend hparent hfollows _ _ =>
    obtain ⟨r, -, hname⟩ := (applyAll_replays hfollows.replay).receipt hbytes
    simp only [Block.id, ok_iff] at hnamed
    obtain ⟨encoding, hencode, -⟩ := hnamed
    simp only [encode, ok_iff] at hencode
    obtain ⟨hvalid, -⟩ := hencode
    exact ⟨⟨_, hname⟩, (validate_ok.mp hvalid).2.2 bytes hbytes⟩

def Keeps (api : ChainApi Json L) (s : Runtime L) (op : ChainOp) (t : Runtime L) : Prop :=
  ∀ id, Held api s id → Held api t id ∨ id ∈ refusals api s op

theorem Held.of_same (h : Held api s id) (htip : t.lastAccepted = s.lastAccepted)
    (hpool : ∀ bytes ∈ s.mempool, bytes ∈ t.mempool) (hverified : t.verified = s.verified) :
    Held api t id := by
  grind [Held, Pooled, InBlock]

theorem idle_pools (h : Pools api s) {engineState : EngineState} {preferred : Id}
    {calls : List (Call L)} (hcalls : ∀ call ∈ calls, call ∈ s.calls ∨ Started api s call) :
    Pools api { s with engineState, preferred, calls } := by
  refine ⟨h.submitted, h.pending, h.processing, h.stored, ?_, ?_⟩
  · grind [Pools, Started]
  · grind [Pools, Started]

theorem Pools.inserted (h : Pools api s) {calls : List (Call L)}
    (hcalls : ∀ call ∈ calls, call ∈ s.calls) (hcall : .inserting id bytes ∈ s.calls) :
    Pools api
      { s with pending := insert id s.pending, mempool := s.mempool ++ [bytes], calls } := by
  obtain ⟨hid, hsized⟩ := h.inserting id bytes hcall
  constructor
  case submitted => grind [Pools, Submitted]
  case pending => grind [Pools, Pooled]
  case processing => exact h.processing
  case stored => exact h.stored
  case admitting => exact fun id bytes hmem => h.admitting id bytes (hcalls _ hmem)
  case inserting => exact fun id bytes hmem => h.inserting id bytes (hcalls _ hmem)

section Building
variable {parent : VerifiedBlock L} {now : Int64} {op : ChainOp} {calls : List (Call L)}
  {d : Check × Drained L}

theorem Pools.drains (h : Pools api s)
    (hd : d = s.drained api parent.state (max now parent.block.timestamp).toUInt64) :
    d.1 = .ok () ∧
      Drains api s.mempool ⟨s.mempool, s.pending, s.processing, parent.state, [], [], []⟩ d.2 := by
  subst hd
  exact drain_drains rfl h.submitted

theorem Pools.transactions (h : Pools api s)
    (hd : d = s.drained api parent.state (max now parent.block.timestamp).toUInt64) :
    d.2.transactions = applicable api (max now parent.block.timestamp).toUInt64
      maxTransactions parent.state s.mempool := by
  subst hd
  exact drain_transactions h.submitted rfl

theorem Pools.encodes (h : Pools api s) {clock : Option ℕ} (hclock : nowSeconds clock = .ok now)
    (hd : d = s.drained api parent.state (max now parent.block.timestamp).toUInt64)
    (hbuild : s.buildOf op = some (parent, now)) (hfits : Fits api s op) :
    ∃ bytes, (d.2.block parent now).encode = .ok bytes := by
  obtain ⟨-, hdrains⟩ := h.drains hd
  refine encode_ok (validate_ok.mpr ⟨?_, ?_, ?_⟩) ?_
  · exact Int64.le_trans (nowSeconds_nonneg hclock) (le_timestamp_max _ _)
  · change d.2.transactions.length ≤ maxTransactions
    rw [h.transactions hd]
    exact length_applicable_le _ _ _ _
  · intro bytes hbytes
    rcases hdrains.transactions bytes hbytes with hmem | hmem
    · simp at hmem
    · exact (h.submitted bytes hmem).2
  · change blockSize d.2.transactions ≤ maxBlockBytes
    rw [h.transactions hd]
    exact hfits parent now hbuild

theorem Pools.setPools (h : Pools api s)
    (hd : d = s.drained api parent.state (max now parent.block.timestamp).toUInt64)
    (hbuild : s.buildOf op = some (parent, now)) (htip : t.lastAccepted = s.lastAccepted)
    (hdb : t.db = s.db) (hmempool : t.mempool = d.2.mempool) (hpending : t.pending = d.2.pending)
    (hprocessing : t.processing = d.2.processing) (hcalls : ∀ call ∈ t.calls, call ∈ s.calls)
    (hblocks : ∀ id, InBlock api s id → InBlock api t id)
    (hbuilt : ∀ bytes ∈ d.2.transactions, ∀ id, api.transactionId bytes = .ok id →
      InBlock api t id) : Pools api t ∧ Keeps api s op t := by
  obtain ⟨-, hdrains⟩ := h.drains hd
  constructor
  · constructor
    case submitted => grind [Pools, Drains]
    case pending => grind [Pools, Drains, Pooled]
    case processing => grind [Pools, Drains]
    case stored => exact htip ▸ hdb ▸ h.stored
    case admitting => exact fun id bytes hmem => h.admitting id bytes (hcalls _ hmem)
    case inserting => exact fun id bytes hmem => h.inserting id bytes (hcalls _ hmem)
  · intro id hheld
    rcases hheld with hheld | ⟨bytes, hbytes, hname⟩ | hheld
    · exact .inl (.inl (htip ▸ hheld))
    · rcases hdrains.gone bytes hbytes with hleft | hmem | ⟨other, hother, hsame⟩
      · grind [Held, Pooled]
      · grind [Held]
      · obtain rfl : id = other := by grind
        exact .inr (by simpa only [refusals, hbuild, ← hd] using hother)
    · exact .inl (.inr (.inr (hblocks id hheld)))

end Building

section Accepting

variable {id : Id}

theorem mem_foldl_erase {receipts : List TransitionReceipt} {rows : Table Id Bytes}
    (h : id ∈ receipts.foldl (fun rows r => rows.erase r.transactionId) rows) :
    id ∈ rows ∧ id ∉ receipts.map TransitionReceipt.transactionId := by
  induction receipts generalizing rows with
  | nil => exact ⟨h, by simp⟩
  | cons r receipts ih => grind

theorem mem_insertReceipts {b : VerifiedBlock L} {receipts : List TransitionReceipt}
    {rows : Table Id AcceptedReceipt} (h : id ∈ insertReceipts b receipts rows) :
    id ∈ rows ∨ id ∈ receipts.map TransitionReceipt.transactionId := by
  by_cases hid : id ∈ receipts.map TransitionReceipt.transactionId
  · exact .inr hid
  · refine .inl ?_
    rw [← lookup_isSome] at h ⊢
    rw [lookup_insertReceipts_of_not_mem hid] at h
    exact h

variable {b : VerifiedBlock L}

theorem Follows.names {parent : VerifiedBlock L} (h : Follows api parent b) {bytes : Bytes}
    (hbytes : bytes ∈ b.block.transactions) (hid : api.transactionId bytes = .ok id) :
    id ∈ b.names := by
  obtain ⟨r, hr, hname⟩ := (applyAll_replays h.replay).receipt hbytes
  rw [hid, Except.ok.injEq] at hname
  exact mem_map.mpr ⟨r, hr, hname.symm⟩

theorem mem_accepted_mempool {bytes : Bytes} (hid : api.transactionId bytes = .ok id) :
    bytes ∈ (s.accepted api b.id b).mempool ↔ bytes ∈ s.mempool ∧ id ∉ b.names := by
  simp [accepted, mem_filter, hid, VerifiedBlock.names]

theorem InBlock.accepted (hfollows : Follows api s.lastAccepted b)
    (hb : s.verified.lookup b.id = some b) (h : InBlock api s id) :
    InBlock api (s.accepted api b.id b) id ∨ id ∈ b.names := by
  obtain ⟨key, c, hc, bytes, hbytes, hid⟩ := h
  by_cases hkey : key = b.id
  · obtain rfl : b = c := by grind
    exact .inr (hfollows.names hbytes hid)
  · refine .inl ⟨key, c, ?_, bytes, hbytes, hid⟩
    grind [accepted]

theorem Pools.accepted (h : Pools api s) (hentered : Entered s.lastAccepted.state b.receipts b.state)
    (hfollows : Follows api s.lastAccepted b) (hb : s.verified.lookup b.id = some b) :
    Pools api (s.accepted api b.id b) := by
  constructor
  case submitted => exact fun bytes hbytes => h.submitted bytes (mem_of_mem_filter hbytes)
  case pending =>
    intro id hid
    obtain ⟨hmem, hnames⟩ := Finset.mem_sdiff.mp hid
    obtain ⟨bytes, hbytes, hname⟩ := h.pending id hmem
    refine ⟨bytes, (mem_accepted_mempool hname).mpr ⟨hbytes, ?_⟩, hname⟩
    rwa [mem_toFinset] at hnames
  case processing =>
    intro id hid
    obtain ⟨hmem, hnames⟩ := mem_foldl_erase hid
    exact ((h.processing id hmem).accepted hfollows hb).resolve_right hnames
  case stored =>
    intro id hid
    rcases mem_insertReceipts hid with hold | hnew
    · exact hentered.kept (h.stored id hold)
    · obtain ⟨r, hr, rfl⟩ := mem_map.mp hnew
      exact hentered.entered r hr
  case admitting => exact h.admitting
  case inserting => exact h.inserting

theorem accepted_keeps (hentered : Entered s.lastAccepted.state b.receipts b.state)
    (hfollows : Follows api s.lastAccepted b) (hb : s.verified.lookup b.id = some b)
    (hheld : Held api s id) : Held api (s.accepted api b.id b) id := by
  have happlied : id ∈ b.names → Held api (s.accepted api b.id b) id := by
    intro hnames
    obtain ⟨r, hr, rfl⟩ := mem_map.mp hnames
    exact .inl (hentered.entered r hr)
  rcases hheld with hheld | ⟨bytes, hbytes, hname⟩ | hheld
  · exact .inl (hentered.kept hheld)
  · grind [Held, Pooled, mem_accepted_mempool hname]
  · grind [Held, hheld.accepted hfollows hb]

end Accepting

section Rejecting

/-- The state of the loop of `block_reject`: the transactions `rest` of the dropped block
have not been looked at yet. -/
structure Requeues (api : ChainApi Json L) (s : Runtime L) (rest : List Bytes) (u : Runtime L) :
    Prop where
  submitted : ∀ bytes ∈ u.mempool, Submitted api bytes
  pending : ∀ id ∈ u.pending, Pooled api u id
  processing : ∀ id ∈ u.processing, InBlock api u id ∨
    ∃ bytes ∈ rest, api.transactionId bytes = .ok id
  held : ∀ id, Held api s id → Held api u id ∨ ∃ bytes ∈ rest, api.transactionId bytes = .ok id
  same : u.db = s.db ∧ u.lastAccepted = s.lastAccepted ∧ u.calls = s.calls

theorem requeue_eq {bytes : Bytes} {id : Id} (hid : api.transactionId bytes = .ok id)
    (u : Runtime L) :
    requeue api bytes u = (.ok (),
      if id ∉ u.lastAccepted.state.appliedTransactions ∧ id ∉ u.pending then
        { u with
          processing := u.processing.erase id
          pending := insert id u.pending
          mempool := bytes :: u.mempool }
      else { u with processing := u.processing.erase id }) := by
  refine bind_eq.mpr ⟨id, u, check_eq.mpr ⟨hid, rfl⟩, ?_⟩
  rfl

theorem Requeues.step {bytes : Bytes} {rest : List Bytes} {u : Runtime L}
    (h : Requeues api s (bytes :: rest) u) (hbytes : Submitted api bytes) :
    ∃ v, requeue api bytes u = (.ok (), v) ∧ Requeues api s rest v := by
  obtain ⟨⟨id, hid⟩, hsized⟩ := hbytes
  refine ⟨_, requeue_eq hid u, ?_⟩
  have hrest : ∀ other, (∃ that ∈ bytes :: rest, api.transactionId that = .ok other) →
      other = id ∨ ∃ that ∈ rest, api.transactionId that = .ok other := by grind
  obtain ⟨hsubmitted, hpending, hprocessing, hheld, hsame⟩ := h
  split
  · constructor
    case submitted => grind [Submitted]
    case pending => grind [Pooled]
    case processing => grind [InBlock]
    case held => grind [Held, Pooled, InBlock]
    case same => exact hsame
  · constructor
    case submitted => exact hsubmitted
    case pending => exact hpending
    case processing => grind [InBlock]
    case held => grind [Held, Pooled, InBlock]
    case same => exact hsame

theorem Requeues.run {rest : List Bytes} {u : Runtime L} (h : Requeues api s rest u)
    (hrest : ∀ bytes ∈ rest, Submitted api bytes) :
    Requeues api s [] (each (requeue api) rest u).2 := by
  induction rest generalizing u with
  | nil => exact h
  | cons bytes rest ih =>
    obtain ⟨hbytes, hrest⟩ := forall_mem_cons.mp hrest
    obtain ⟨v, hv, hstep⟩ := h.step hbytes
    rw [each, bind_snd_of_ok hv]
    exact ih hstep hrest

theorem Pools.dropped (h : Pools api s) {id : Id} {b : VerifiedBlock L}
    (hb : s.verified.lookup id = some b) :
    Requeues api s b.block.transactions.reverse { s with verified := s.verified.erase id } := by
  have hblock : ∀ other, InBlock api s other →
      InBlock api { s with verified := s.verified.erase id } other ∨
        ∃ bytes ∈ b.block.transactions.reverse, api.transactionId bytes = .ok other := by
    rintro other ⟨key, c, hc, bytes, hbytes, hname⟩
    by_cases hkey : key = id
    · exact .inr ⟨bytes, by grind⟩
    · exact .inl ⟨key, c, by grind⟩
  constructor
  case submitted => exact h.submitted
  case pending => exact h.pending
  case processing => exact fun other hmem => hblock other (h.processing other hmem)
  case held => grind [Held, Pooled]
  case same => exact ⟨rfl, rfl, rfl⟩

end Rejecting

theorem Effect.pools (hhook : api.HookKeepsApplied) (hg : Genesis api seen genesis)
    (hempty : genesis.block.transactions = []) (hids : DistinctIds api seen)
    (hsound : Sound api genesis seen s) (h : Pools api s) {op : ChainOp} (hfits : Fits api s op)
    (hlisted : Listed seen t) (heffect : Effect api s op t) :
    Pools api t ∧ Keeps api s op t := by
  cases heffect with
  | idle engineState preferred calls hcalls =>
    exact ⟨idle_pools h hcalls, fun id hheld =>
      .inl (hheld.of_same rfl (fun _ hbytes => hbytes) rfl)⟩
  | inserted calls hcalls hcall hnew =>
    exact ⟨h.inserted hcalls hcall, fun id hheld =>
      .inl (hheld.of_same rfl (fun _ hbytes => mem_append_left _ hbytes) rfl)⟩
  | @drained id parent now clock d calls hcalls hcall hclock hd hbuild hfail =>
    -- the loop can read its pool and the block fits, so nothing was taken
    have hnone : d.2.transactions = [] := by
      obtain ⟨bytes, hbytes⟩ := h.encodes hclock hd hbuild hfits
      rcases hfail with ⟨e, he⟩ | hnone | ⟨e, he⟩
      · rw [(h.drains hd).1] at he
        exact absurd he (by simp)
      · exact hnone
      · rw [hbytes] at he
        exact absurd he (by simp)
    exact h.setPools hd hbuild rfl rfl rfl rfl rfl hcalls (fun _ hin => hin.of_verified_eq rfl)
      (by simp [hnone])
  | @built id blockId parent now bytes d calls hcalls hcall hd hbuild hbytes hid =>
    have hpools : Sound api genesis seen { s.setPools d.2 with calls } :=
      hsound.congr rfl rfl rfl fun call hmem => .inl (hcalls call hmem)
    exact h.setPools hd hbuild rfl rfl rfl rfl rfl hcalls
      (fun _ hin => InBlock.addVerified hg hids hpools _ hid hlisted.added (hin.of_verified_eq rfl))
      fun _ hthat _ hname => InBlock.of_addVerified_self hthat hname
  | @verified id candidate parent b clock calls hcalls hcall hchecked =>
    obtain ⟨⟨hlink, hdecode, hnamed⟩, hid, hparent⟩ := hsound.calls _ hcall
    obtain ⟨-, hblock, hname, -⟩ := checked_ok (hlink.trans hid.symm) hchecked
    have hstop : Sound api genesis seen { s with calls } :=
      hsound.congr rfl rfl rfl fun call hmem => .inl (hcalls call hmem)
    have hseen : seen b.block := hlisted.added
    have hblocks : ∀ other, InBlock api s other →
        InBlock api (Runtime.addVerified b { s with calls }) other :=
      fun _ hin => InBlock.addVerified hg hids hstop b (by rw [hblock, hname, hnamed]) hseen
        (hin.of_verified_eq rfl)
    refine ⟨⟨h.submitted, h.pending, fun other hmem => hblocks other (h.processing other hmem),
      h.stored, ?_, ?_⟩, fun other hheld => .inl ?_⟩
    · exact fun id bytes hmem => h.admitting id bytes (hcalls _ hmem)
    · exact fun id bytes hmem => h.inserting id bytes (hcalls _ hmem)
    · rcases hheld with hheld | hheld | hheld
      · exact .inl hheld
      · exact .inr (.inl hheld)
      · exact .inr (.inr (hblocks other hheld))
  | @accepted id fault b hop hb hlink hheight =>
    obtain ⟨rfl, hderived, hdecode⟩ := hsound.verified id b hb
    have hfollows := hsound.tip.follows_tip hg hids hderived hlink hheight
    have hentered := (applyAll_replays hfollows.replay).entered hhook
    exact ⟨h.accepted hentered hfollows hb, fun other hheld =>
      .inl (accepted_keeps hentered hfollows hb hheld)⟩
  | @rejected id b hb =>
    obtain ⟨-, hderived, -⟩ := hsound.verified id b hb
    have hsubmitted : ∀ bytes ∈ b.block.transactions.reverse, Submitted api bytes :=
      fun bytes hbytes => hderived.submitted hg hempty bytes (mem_reverse.mp hbytes)
    have hdone := (h.dropped hb).run hsubmitted
    obtain ⟨hdb, htip, hcalls⟩ := hdone.same
    refine ⟨⟨hdone.submitted, hdone.pending, ?_, ?_, ?_, ?_⟩, fun other hheld => .inl ?_⟩
    · exact fun other hmem => (hdone.processing other hmem).resolve_right (by simp)
    · rw [hdb, htip]
      exact h.stored
    · rw [hcalls]
      exact h.admitting
    · rw [hcalls]
      exact h.inserting
    · exact (hdone.held other hheld).resolve_right (by simp)

/-- `enqueue` says yes only to what is held. -/
theorem inserting_held (h : Pools api s) {id other : Id} {bytes : Bytes} {calls : List (Call L)}
    (hcall : .inserting id bytes ∈ s.calls)
    (hreply : inserting id bytes { s with calls } = (.ok (.enqueued other), t)) :
    Held api t other := by
  simp only [inserting, ran_iff, ok_iff] at hreply
  by_cases hknown : id ∈ s.pending ∨ id ∈ s.processing
  · simp only [hknown, decide_true, if_true, pure_eq, Reply.enqueued.injEq] at hreply
    obtain ⟨rfl, rfl⟩ := hreply
    rcases hknown with hmem | hmem
    · exact .inr (.inl (h.pending id hmem))
    · exact .inr (.inr ((h.processing id hmem).of_verified_eq rfl))
  · simp only [hknown, decide_false, Bool.false_eq_true, if_false, ran_iff, ok_iff,
      Reply.enqueued.injEq] at hreply
    obtain ⟨-, rfl, rfl⟩ := hreply
    exact .inr (.inl ⟨bytes, by simp, (h.inserting id bytes hcall).1⟩)

theorem enqueue_held (h : Pools api s) {id : Id} {bytes : Bytes} {gossip : Bool}
    {fault : Option String}
    (hreply : enqueue api bytes gossip fault s = (.ok (.enqueued id), t)) :
    Held api t id := by
  simp only [enqueue, ran_iff, ok_iff] at hreply
  obtain ⟨-, transaction, -, name, -, -, hreply⟩ := hreply
  by_cases hknown : name ∈ s.db.transactions
  · simp only [hknown, decide_true, if_true, pure_eq, Reply.enqueued.injEq] at hreply
    obtain ⟨rfl, rfl⟩ := hreply
    exact .inl (h.stored _ hknown)
  · simp only [hknown, decide_false, Bool.false_eq_true, if_false, wait] at hreply
    split at hreply <;> simp at hreply

theorem enqueued_held (h : Pools api s) {op : ChainOp} {id : Id}
    (hreply : perform api op s = (.ok (.enqueued id), t)) : Held api t id := by
  cases op with
  | enqueue => exact enqueue_held h hreply
  | verifyCandidate =>
    simp only [perform, verifyCandidate, bind_eq] at hreply
    obtain ⟨_, _, -, existing, _, -, hreply⟩ := hreply
    cases existing <;> simp [wait] at hreply
  | resume =>
    simp only [perform, resume, ran_iff, ok_iff] at hreply
    obtain ⟨call, hcall, hreply⟩ := hreply
    have hmem := mem_of_getElem? hcall
    cases call with
    | inserting => exact inserting_held h hmem hreply
    | finding =>
      simp only [proceed, finding, bind_eq] at hreply
      obtain ⟨found, _, -, hreply⟩ := hreply
      cases found <;> simp [wait] at hreply
    | loaded other parent purpose =>
      cases purpose with
      | build =>
        simp only [proceed, loaded, bind_eq] at hreply
        obtain ⟨preferred, _, -, hreply⟩ := hreply
        split at hreply
        · simp [Entry.build] at hreply
        · simp [wait] at hreply
      | verify => simp [proceed, loaded, verify] at hreply
      | prefer => simp [proceed, loaded] at hreply
    | _ =>
      simp [proceed, admitting, choosing, loading, wait] at hreply
  | _ =>
    simp [perform, blockAccept, blockReject, setState, wait] at hreply

end Steps

section Runs

variable {api : ChainApi Json L} {genesis : VerifiedBlock L} {seen : Block → Prop}
  {s : Runtime L}

theorem run_pools (hhook : api.HookKeepsApplied) (hg : Genesis api seen genesis)
    (hempty : genesis.block.transactions = []) (hids : DistinctIds api seen) {ops : List ChainOp}
    (hseen : ∀ u ∈ visited (perform api) s ops, Listed seen u)
    (hfits : Always (perform api) (Fits api) s ops) (hsound : Sound api genesis seen s)
    (h : Pools api s) :
    Sound api genesis seen (run (perform api) s ops) ∧ Pools api (run (perform api) s ops) ∧
      ∀ id, Held api s id → Held api (run (perform api) s ops) id ∨
        Sometime (perform api) (fun u op => id ∈ refusals api u op) s ops := by
  induction ops generalizing s with
  | nil => exact ⟨hsound, h, fun _ hheld => .inl hheld⟩
  | cons op ops ih =>
    have hlater : ∀ u ∈ visited (perform api) (perform api op s).2 ops, Listed seen u :=
      fun u hu => hseen u (mem_cons_of_mem _ hu)
    have hlisted := hlater _ (self_mem_visited ops)
    have hnext := perform_effect.sound hsound hlisted
    obtain ⟨hpools, hkeeps⟩ :=
      perform_effect.pools hhook hg hempty hids hsound h hfits.1 hlisted
    obtain ⟨hsoundEnd, hpoolsEnd, hheldEnd⟩ := ih hlater hfits.2 hnext hpools
    refine ⟨hsoundEnd, hpoolsEnd, fun id hheld => ?_⟩
    rcases hkeeps id hheld with hheld | hrefused
    · exact (hheldEnd id hheld).imp_right .inr
    · exact .inr (.inl hrefused)

end Runs

section Start

variable {api : ChainApi Json L} {s t : Runtime L} {genesisHash id : Id} {timestamp : Int64}
  {emptyLedger : L}

theorem start_pools (h : firstStart api genesisHash timestamp emptyLedger = .ok s) :
    s.lastAccepted.block.transactions = [] ∧ Pools api s := by
  obtain ⟨block, bytes, id, state, rfl, hbytes, hid, rfl⟩ := firstStart_ok h
  refine ⟨rfl, ?_⟩
  constructor <;> simp

/-- In every run from a genesis in which no block being built outgrows the encoder, a
transaction that was let in is from then on held by the node, or a later build refused
it. -/
theorem no_submission_lost (hhook : api.HookKeepsApplied)
    (hstart : firstStart api genesisHash timestamp emptyLedger = .ok s)
    (ops : List ChainOp) (op : ChainOp) (more : List ChainOp)
    (hids : DistinctIds api (fun b => b ∈ seenBlocks api s (ops ++ op :: more)))
    (hfits : Always (perform api) (Fits api) s (ops ++ op :: more))
    (henqueue : perform api op (run (perform api) s ops) = (.ok (.enqueued id), t)) :
    Held api (run (perform api) t more) id ∨
      Sometime (perform api) (fun u op => id ∈ refusals api u op) t more := by
  have hlisted := seenBlocks_listed api s (ops ++ op :: more)
  have hg := start_genesis hstart (hlisted s (self_mem_visited _))
  obtain ⟨hempty, hpools⟩ := start_pools hstart
  obtain ⟨hbefore, hhere, hafter⟩ := always_append.mp hfits
  obtain ⟨hsound, hpools, -⟩ := run_pools hhook hg hempty hids
    (fun u hu => hlisted u (mem_visited_append.mpr (Or.inl hu))) hbefore (start_sound hstart) hpools
  have hlater : ∀ u ∈ visited (perform api) (perform api op (run (perform api) s ops)).2 more,
      Listed (fun b => b ∈ seenBlocks api s (ops ++ op :: more)) u :=
    fun u hu => hlisted u (mem_visited_append.mpr (Or.inr (List.mem_cons_of_mem _ hu)))
  have hlistedNext := hlater _ (self_mem_visited more)
  have hsoundNext := perform_effect.sound hsound hlistedNext
  obtain ⟨hpoolsNext, -⟩ := perform_effect.pools hhook hg hempty hids hsound hpools hhere hlistedNext
  rw [henqueue] at hlater hsoundNext hpoolsNext hafter
  exact (run_pools hhook hg hempty hids hlater hafter hsoundNext hpoolsNext).2.2 id
    (enqueued_held hpools henqueue)

theorem no_submission_lost_sample :
    Held sampleApi (run (perform sampleApi) sampleStart sampleOps) (sampleDigest [1]) ∨
      Sometime (perform sampleApi) (fun u op => sampleDigest [1] ∈ refusals sampleApi u op)
        (run (perform sampleApi) sampleStart (sampleOps.take 3)) (sampleOps.drop 3) := by
  have hfits : Always (perform sampleApi) (Fits sampleApi) sampleStart sampleOps := by
    decide +kernel
  exact no_submission_lost sampleApi_hook sampleStart_eq (sampleOps.take 2) (.resume 0 none none)
    (sampleOps.drop 3) sampleOps_distinct hfits rfl

end Start

section Crowded

def headApi : ChainApi Bytes ℕ :=
  { sampleApi with digest := fun bytes => sampleId (bytes.headD 0).toNat }

theorem headApi_hook : headApi.HookKeepsApplied := by
  intro s params timestamp t statement h
  exact absurd h (by simp [headApi, sampleApi])

theorem headApi_decode (bytes : Bytes) :
    headApi.decode bytes = .ok ⟨"defmivm.issueAsset", bytes⟩ := by
  refine bind_eq_ok.mpr ⟨_, rfl, bind_eq_ok.mpr ⟨(), rfl, bind_eq_ok.mpr ⟨bytes, rfl, ?_⟩⟩⟩
  exact bind_ok (require_ok rfl) rfl

theorem headApi_transactionId (bytes : Bytes) :
    headApi.transactionId bytes = .ok (sampleId (bytes.headD 0).toNat) :=
  bind_eq_ok.mpr ⟨_, headApi_decode bytes, rfl⟩

def headState (ids : Finset Id) (count : ℕ) : ChainState ℕ := ⟨none, ids, count, count⟩

theorem headApi_apply (bytes : Bytes) (ids : Finset Id) (count : ℕ) (timestamp : UInt64)
    (hnew : sampleId (bytes.headD 0).toNat ∉ ids) (hcount : count + 1 < 2 ^ 64) :
    headApi.apply (headState ids count) bytes timestamp =
      .ok (headState (insert (sampleId (bytes.headD 0).toNat) ids) (count + 1),
        ⟨sampleId (bytes.headD 0).toNat, Id.zero, sampleId count, sampleId (count + 1)⟩) := by
  refine bind_eq_ok.mpr ⟨(), rfl, bind_eq_ok.mpr ⟨(), rfl, ?_⟩⟩
  refine bind_eq_ok.mpr ⟨_, headApi_decode bytes, bind_eq_ok.mpr ⟨_, headApi_transactionId bytes, ?_⟩⟩
  refine bind_eq_ok.mpr ⟨(), require_ok hnew, bind_eq_ok.mpr ⟨_, rfl, ?_⟩⟩
  exact bind_ok (require_ok hcount) rfl

def headGenesis : VerifiedBlock ℕ :=
  ⟨chainBlock 0, encoded (chainBlock 0), sampleId 81, headState ∅ 0, []⟩

def crowded (engineState : EngineState) (mempool : List Bytes) (pending : Finset Id)
    (processing : Table Id Bytes) (calls : List (Call ℕ)) : Runtime ℕ :=
  { db := ⟨headGenesis.id, singleton headGenesis.id headGenesis.bytes,
      singleton headGenesis.id headGenesis.state, singleton 0 headGenesis.id, ∅⟩
    lastAccepted := headGenesis, preferred := headGenesis.id, verified := ∅
    engineState, mempool, pending, processing, calls }

theorem crowded_start :
    firstStart headApi (sampleId 1) 0 0 = .ok (crowded .bootstrapping [] ∅ ∅ []) := by
  have hbytes : (⟨sampleId 1, 0, 0, []⟩ : Block).encode = .ok headGenesis.bytes :=
    chainBlock_encode 0
  have hid : (⟨sampleId 1, 0, 0, []⟩ : Block).id headApi.digest = .ok headGenesis.id := by
    refine bind_ok hbytes ?_
    decide +kernel
  simp only [firstStart, hbytes, hid]
  rfl

variable {bytes : Bytes} {mempool : List Bytes} {pending : Finset Id}

/-- The node in normal operation before anything was drained. -/
abbrev pooled (mempool : List Bytes) (pending : Finset Id) (calls : List (Call ℕ)) : Runtime ℕ :=
  crowded .normalOp mempool pending ∅ calls

theorem crowded_enqueue {id : Id} (hsized : Sized bytes.length)
    (hid : headApi.transactionId bytes = .ok id) :
    perform headApi (.enqueue bytes false none) (pooled mempool pending []) =
      (.ok .pending, pooled mempool pending [.inserting id bytes]) := by
  have hfresh : id ∉ (∅ : Table Id AcceptedReceipt) := notMem_empty id
  simp only [perform, enqueue, ran_iff, ok_iff]
  exact ⟨hsized, _, headApi_decode bytes, id, hid, rfl,
    by simp [crowded, hfresh, wait, addCall]⟩

theorem crowded_insert {id : Id} (hnew : id ∉ pending) (hroom : mempool.length < 4096) :
    perform headApi (.resume 0 none none) (pooled mempool pending [.inserting id bytes]) =
      (.ok (.enqueued id), pooled (mempool ++ [bytes]) (insert id pending) []) := by
  refine bind_eq.mpr ⟨_, _, check_eq.mpr ⟨rfl, rfl⟩, ?_⟩
  simp [crowded, proceed, inserting, bind_eq, check_eq, hnew,
    maxMempoolTransactions, hroom]

theorem crowded_load (mempool : List Bytes) (pending : Finset Id) :
    perform headApi .buildBlock (pooled mempool pending []) =
        (.ok .pending, pooled mempool pending [.choosing]) ∧
      perform headApi (.resume 0 none none) (pooled mempool pending [.choosing]) =
        (.ok .pending, pooled mempool pending [.finding headGenesis.id .build]) ∧
      perform headApi (.resume 0 none none)
          (pooled mempool pending [.finding headGenesis.id .build]) =
        (.ok .pending, pooled mempool pending [.loaded headGenesis.id headGenesis .build]) :=
  ⟨rfl, rfl, rfl⟩

/-- Two transactions that fill a block beyond its limit, though each of them is allowed. -/
structure Heavy (a b : Bytes) : Prop where
  first : a.headD 0 = 1
  second : b.headD 0 = 2
  lengths : a.length = 2 ^ 20 ∧ b.length = 2 ^ 20

variable {a b : Bytes}

section
variable (h : Heavy a b)
include h

theorem Heavy.transactionId :
    headApi.transactionId a = .ok (sampleId 1) ∧ headApi.transactionId b = .ok (sampleId 2) := by
  rw [headApi_transactionId, headApi_transactionId, h.first, h.second]
  exact ⟨rfl, rfl⟩

def drainedPair (pending : Finset Id) (a b : Bytes) : Drained ℕ :=
  { mempool := []
    pending := (pending.erase (sampleId 1)).erase (sampleId 2)
    processing := ((∅ : Table Id Bytes).insert (sampleId 1) a).insert (sampleId 2) b
    state := headState {sampleId 2, sampleId 1} 2
    transactions := [a, b]
    receipts := [⟨sampleId 1, Id.zero, sampleId 0, sampleId 1⟩,
      ⟨sampleId 2, Id.zero, sampleId 1, sampleId 2⟩]
    refused := [] }

theorem Heavy.drained (timestamp : UInt64) (calls : List (Call ℕ)) :
    (pooled [a, b] pending calls).drained headApi headGenesis.state timestamp =
      (.ok (), drainedPair pending a b) := by
  obtain ⟨hida, hidb⟩ := h.transactionId
  have hfirst := headApi_apply a ∅ 0 timestamp (by simp) (by norm_num)
  have hsecond := headApi_apply b {sampleId 1} 1 timestamp
    (by rw [h.second]; decide +kernel) (by norm_num)
  rw [h.first] at hfirst
  rw [h.second] at hsecond
  simp [Runtime.drained, crowded, drain, hida, hidb, headGenesis, hfirst, hsecond, Drained.take,
    Drained.append, maxTransactions, drainedPair]

theorem Heavy.encode_fails (parent : Id) (timestamp : Int64) (height : UInt64) :
    ∃ e, (⟨parent, timestamp, height, [a, b]⟩ : Block).encode = .error e := by
  cases hencode : (⟨parent, timestamp, height, [a, b]⟩ : Block).encode with
  | error e => exact ⟨e, rfl⟩
  | ok =>
    simp only [encode, ok_iff, length_append, length_encodeTransactions,
      maxBlockBytes] at hencode
    obtain ⟨-, hsize, -⟩ := hencode
    obtain ⟨hlengtha, hlengthb⟩ := h.lengths
    simp only [map_cons, map_nil, sum_cons, sum_nil, hlengtha, hlengthb] at hsize
    omega

omit h in
theorem crowded_resume :
    perform headApi (.resume 0 (some 5) none)
        (pooled mempool pending [.loaded headGenesis.id headGenesis .build]) =
      Entry.build headApi headGenesis (some 5) (pooled mempool pending []) := by
  simp [perform, resume, crowded, check_bind_ok, modify_bind, proceed, loaded]

theorem Heavy.build (pending : Finset Id) : ∃ e, perform headApi (.resume 0 (some 5) none)
      (pooled [a, b] pending [.loaded headGenesis.id headGenesis .build]) =
    (.error e, (pooled [a, b] pending []).setPools (drainedPair pending a b)) := by
  obtain ⟨e, he⟩ := h.encode_fails headGenesis.id 5 1
  have hpool : drainPool headApi headGenesis.state 5 (pooled [a, b] pending []) =
      (.ok (drainedPair pending a b),
        (pooled [a, b] pending []).setPools (drainedPair pending a b)) := by
    simp only [drainPool, h.drained]
    rfl
  refine ⟨e, crowded_resume.trans ?_⟩
  rw [Entry.build, check_bind_ok (a := ()), check_bind_ok (a := 5)]
  · refine (bind_snd_of_ok hpool).trans ?_
    rw [check_bind_ok (a := ())]
    · exact check_bind_error he
    · exact require_eq_ok.mpr (cons_ne_nil _ _)
  · rfl
  · rfl

def crowdedOps (a b : Bytes) : List ChainOp :=
  [.setState .normalOp, .enqueue a false none, .resume 0 none none, .enqueue b false none]

def crowdedBuild : List ChainOp :=
  [.buildBlock, .resume 0 none none, .resume 0 none none, .resume 0 (some 5) none]

theorem Heavy.refuses_none :
    refusals headApi (pooled [a, b] pending [.loaded headGenesis.id headGenesis .build])
      (.resume 0 (some 5) none) = [] := by
  have hbuild : (pooled [a, b] pending [.loaded headGenesis.id headGenesis .build]).buildOf
      (.resume 0 (some 5) none) = some (headGenesis, 5) :=
    buildOf_resume rfl rfl rfl rfl
  rw [refusals, hbuild]
  exact congrArg (fun d => d.2.refused.map Prod.fst) (h.drained _ _)

/-- The run step by step: both are let in, the build fails, and no block but the first was
ever held. -/
theorem Heavy.runs : perform headApi (.resume 0 none none)
        (run (perform headApi) (crowded .bootstrapping [] ∅ ∅ []) (crowdedOps a b)) =
      (.ok (.enqueued (sampleId 2)), pooled [a, b] {sampleId 2, sampleId 1} []) ∧
    run (perform headApi) (pooled [a, b] {sampleId 2, sampleId 1} []) crowdedBuild =
      (pooled [a, b] {sampleId 2, sampleId 1} []).setPools
        (drainedPair {sampleId 2, sampleId 1} a b) ∧
    (∀ u ∈ visited (perform headApi) (crowded .bootstrapping [] ∅ ∅ [])
      (crowdedOps a b ++ .resume 0 none none :: crowdedBuild), u.held = [chainBlock 0]) ∧
    ∀ id, ¬ Sometime (perform headApi) (fun u op => id ∈ refusals headApi u op)
      (pooled [a, b] {sampleId 2, sampleId 1} []) crowdedBuild := by
  obtain ⟨hida, hidb⟩ := h.transactionId
  obtain ⟨hwait, hchoose, hfind⟩ := crowded_load [a, b] {sampleId 2, sampleId 1}
  obtain ⟨e, hbuild⟩ := h.build {sampleId 2, sampleId 1}
  have hsized : Sized a.length ∧ Sized b.length := by
    simp [Sized, h.lengths, maxTransactionBytes]
  have hstate : perform headApi (.setState .normalOp) (crowded .bootstrapping [] ∅ ∅ []) =
    (.ok .done, pooled [] ∅ []) := rfl
  have hfirst : perform headApi (.resume 0 none none) (pooled [] ∅ [.inserting (sampleId 1) a]) =
    (.ok (.enqueued (sampleId 1)), pooled [a] {sampleId 1} []) := crowded_insert (by simp) (by simp)
  have hsecond : perform headApi (.resume 0 none none)
      (pooled [a] {sampleId 1} [.inserting (sampleId 2) b]) =
    (.ok (.enqueued (sampleId 2)), pooled [a, b] {sampleId 2, sampleId 1} []) :=
    crowded_insert (by decide +kernel) (by simp)
  refine ⟨?_, ?_, fun u hu => ?_, fun id hrefused => ?_⟩
  · simp only [crowdedOps, run_cons, hstate, crowded_enqueue hsized.1 hida, hfirst,
      crowded_enqueue hsized.2 hidb]
    exact hsecond
  · simp only [crowdedBuild, run_cons, hwait, hchoose, hfind, hbuild]
    rfl
  · simp only [crowdedOps, crowdedBuild, cons_append, nil_append, visited, hstate,
      crowded_enqueue hsized.1 hida, hfirst, crowded_enqueue hsized.2 hidb, hsecond, hwait, hchoose,
      hfind, hbuild, mem_cons, not_mem_nil, or_false] at hu
    rcases hu with rfl | rfl | rfl | rfl | rfl | rfl | rfl | rfl | rfl | rfl <;> rfl
  · simp only [crowdedBuild, Sometime, hwait, hchoose, hfind, h.refuses_none, or_false] at hrefused
    rcases hrefused with hmem | hmem | hmem | hmem
    all_goals exact absurd hmem not_mem_nil

theorem Heavy.distinct :
    DistinctIds headApi (fun c => c ∈ seenBlocks headApi (crowded .bootstrapping [] ∅ ∅ [])
      (crowdedOps a b ++ .resume 0 none none :: crowdedBuild)) := by
  have hgenesis : ∀ c ∈ seenBlocks headApi (crowded .bootstrapping [] ∅ ∅ [])
      (crowdedOps a b ++ .resume 0 none none :: crowdedBuild), c = chainBlock 0 := by
    intro c hc
    obtain ⟨u, hu, hmem⟩ := mem_flatMap.mp hc
    rw [h.runs.2.2.1 u hu] at hmem
    exact mem_singleton.mp hmem
  intro c d hc hd hsame
  rw [hgenesis c hc, hgenesis d hd]

end

theorem Heavy.not_held (id : Id) :
    ¬ Held headApi ((pooled mempool pending []).setPools (drainedPair pending a b)) id := by
  rintro (hmem | ⟨bytes, hmem, -⟩ | ⟨key, c, hc, -⟩)
  · exact absurd hmem (Finset.notMem_empty _)
  · exact absurd hmem not_mem_nil
  · exact absurd hc (by simp [setPools, crowded])

theorem headD_replicate {n : ℕ} (hn : 0 < n) (value : UInt8) :
    (replicate n value).headD 0 = value := by
  cases n with
  | zero => omega
  | succ => rfl

theorem exists_heavy : ∃ a b, Heavy a b :=
  ⟨replicate (2 ^ 20) 1, replicate (2 ^ 20) 2, headD_replicate (by norm_num) 1,
    headD_replicate (by norm_num) 2, length_replicate, length_replicate⟩

/-- Two transactions of the largest allowed size together outgrow a block: both were let
in, and after the failed build they are nowhere. -/
theorem oversized_block_loses_submissions :
    headApi.HookKeepsApplied ∧ ∃ a b s t, a.length = 2 ^ 20 ∧ b.length = 2 ^ 20 ∧
      firstStart headApi (sampleId 1) 0 0 = .ok s ∧
      DistinctIds headApi (fun c => c ∈ seenBlocks headApi s
        (crowdedOps a b ++ .resume 0 none none :: crowdedBuild)) ∧
      perform headApi (.resume 0 none none) (run (perform headApi) s (crowdedOps a b)) =
        (.ok (.enqueued (sampleId 2)), t) ∧
      ¬ Held headApi (run (perform headApi) t crowdedBuild) (sampleId 2) ∧
      ¬ Sometime (perform headApi) (fun u op => sampleId 2 ∈ refusals headApi u op) t
        crowdedBuild := by
  obtain ⟨a, b, h⟩ := exists_heavy
  obtain ⟨hadmitted, hlost, -, hrefused⟩ := h.runs
  refine ⟨headApi_hook, a, b, crowded .bootstrapping [] ∅ ∅ [],
    pooled [a, b] {sampleId 2, sampleId 1} [], h.lengths.1, h.lengths.2, crowded_start,
    h.distinct, hadmitted, ?_, hrefused (sampleId 2)⟩
  rw [hlost]
  exact Heavy.not_held (sampleId 2)

end Crowded

end DeFMI.Chain
