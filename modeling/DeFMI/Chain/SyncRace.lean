import DeFMI.Chain.AcceptedChain
import DeFMI.StateSyncInstall
set_option autoImplicit false

/-!
The installation of a state summary beside the acceptance of blocks. An acceptance
keeps the write lock over its database calls; an installation gives the lock up
between its check, its batch and its update of the memory. Every lock section and
every database call is one step here, and a run is any interleaving of them.
-/

namespace DeFMI.Chain
open Lib InPlace Chain.Runtime

inductive AcceptPhase where
  | checked
  | staged
  | written

/-- A call that holds the write lock between two of its database calls. -/
inductive Holder (L H : Type) where
  | accepting (id : Id) (block : VerifiedBlock L) (phase : AcceptPhase)
  | summarising (summary : StateSummary H) (written : Bool)

/-- The task `state_summary_accept` spawns, by what it has done so far. -/
inductive Installer (L H : Type) where
  | fetching (summary : StateSummary H)
  | staged (summary : StateSummary H) (decoded : DecodedSnapshot (ChainState L))
  | checked (summary : StateSummary H) (decoded : DecodedSnapshot (ChainState L))
  | written (summary : StateSummary H) (decoded : DecodedSnapshot (ChainState L))
  | finished (error : Option String)

structure Node (L H : Type) where
  runtime : Runtime L
  ongoingSync : Option (StateSummary H)
  syncRunning : Bool := false
  holder : Option (Holder L H) := none
  installers : List (Installer L H) := []

structure Home where
  networkId : ℕ
  chainId : Id
  genesisHash : Id

/-- `fault` is an error of the database, if there is one. -/
inductive NodeOp (H : Type) where
  | call (op : ChainOp)
  | acceptRead (fault : Option String)
  | acceptWrite (fault : Option String)
  | acceptFinish
  | summaryStart (summary : StateSummary H)
  | summaryWrite (fault : Option String)
  | summaryFinish
  | fetch (index : ℕ) (peers : List (Peer H)) (store : ChunkStore H) (fault : Option String)
  | check (index : ℕ)
  | write (index : ℕ) (fault : Option String)
  | update (index : ℕ)
  | finish (index : ℕ)

section Definitions

variable {Json L H : Type} [DecidableEq H] (api : ChainApi Json L) (sync : SyncApi (ChainState L) H)
  (home : Home)

def ChainDb.accepted (id : Id) (block : VerifiedBlock L) (db : ChainDb L) : ChainDb L where
  lastAccepted := id
  blocks := db.blocks.insert id block.bytes
  states := db.states.insert id block.state
  heights := db.heights.insert block.block.height id
  transactions := block.receipts.foldl (fun rows receipt =>
    rows.insert receipt.transactionId (AcceptedReceipt.of id block receipt)) db.transactions

/-- The batch of `install_state_summary`; the rows of the synchronisation itself are left out. -/
def ChainDb.installed (summary : StateSummary H) (decoded : DecodedSnapshot (ChainState L))
    (db : ChainDb L) : ChainDb L :=
  { db with
    lastAccepted := summary.blockId
    blocks := db.blocks.insert summary.blockId decoded.blockBytes
    states := db.states.insert summary.blockId decoded.state
    heights := db.heights.insert summary.height summary.blockId }

def Runtime.acceptedTip (id : Id) (block : VerifiedBlock L) (s : Runtime L) : Runtime L :=
  { s.accepted api id block with db := s.db }

def Runtime.installedTip (summary : StateSummary H) (decoded : DecodedSnapshot (ChainState L))
    (s : Runtime L) : Runtime L :=
  { s with
    lastAccepted := ⟨decoded.block, decoded.blockBytes, summary.blockId, decoded.state, []⟩
    preferred := summary.blockId
    verified := ∅
    mempool := []
    pending := ∅
    processing := ∅ }

/-- The only sections that run without the lock are the database reads of `load_block`. -/
def Runtime.readsOnly (s : Runtime L) : ChainOp → Bool
  | .resume index _ _ =>
    match s.calls[index]? with
    | some (.loading _ _) => true
    | _ => false
  | _ => false

namespace Node

def startAccept (id : Id) (n : Node L H) : Node L H :=
  match n.runtime.verified.lookup id with
  | none => n
  | some block =>
    if block.block.parentId = n.runtime.lastAccepted.id ∧
        block.block.height = saturatingSucc n.runtime.lastAccepted.block.height then
      { n with holder := some (.accepting id block .checked) }
    else n

/-- A call that finds the lock taken waits, and here nothing happens. -/
def call (op : ChainOp) (n : Node L H) : Node L H :=
  if n.holder.isNone = true ∨ n.runtime.readsOnly op = true then
    match op with
    | .blockAccept id _ => n.startAccept id
    | _ => { n with runtime := (perform api op n.runtime).2 }
  else n

def acceptRead (fault : Option String) (n : Node L H) : Node L H :=
  match n.holder with
  | some (.accepting id block .checked) =>
    match n.runtime.db.states.lookup n.runtime.lastAccepted.id, fault with
    | some _, none => { n with holder := some (.accepting id block .staged) }
    | _, _ => { n with holder := none }
  | _ => n

def acceptWrite (fault : Option String) (n : Node L H) : Node L H :=
  match n.holder with
  | some (.accepting id block .staged) =>
    match fault with
    | none =>
      { n with
        runtime := { n.runtime with db := n.runtime.db.accepted id block }
        holder := some (.accepting id block .written) }
    | some _ => { n with holder := none }
  | _ => n

def acceptFinish (n : Node L H) : Node L H :=
  match n.holder with
  | some (.accepting id block .written) =>
    { n with runtime := n.runtime.acceptedTip api id block, holder := none }
  | _ => n

/-- Whether `state_summary_accept` goes on to start a synchronisation. -/
def Takes (n : Node L H) (summary : StateSummary H) : Prop :=
  summary.validate sync = .ok () ∧ summary.networkId = home.networkId ∧
    summary.chainId = home.chainId ∧ summary.genesisHash = home.genesisHash ∧
    ¬summary.height ≤ n.runtime.lastAccepted.block.height ∧ n.syncRunning = false

instance (n : Node L H) (summary : StateSummary H) : Decidable (n.Takes sync home summary) :=
  inferInstanceAs (Decidable (_ ∧ _))

def summaryStart (summary : StateSummary H) (n : Node L H) : Node L H :=
  if n.holder.isNone = true ∧ n.Takes sync home summary then
    { n with holder := some (.summarising summary false) }
  else n

def summaryWrite (fault : Option String) (n : Node L H) : Node L H :=
  match n.holder with
  | some (.summarising summary false) =>
    match fault with
    | none => { n with holder := some (.summarising summary true) }
    | some _ => { n with holder := none }
  | _ => n

def summaryFinish (n : Node L H) : Node L H :=
  match n.holder with
  | some (.summarising summary true) =>
    { n with
      ongoingSync := some summary
      syncRunning := true
      holder := none
      installers := n.installers ++ [.fetching summary] }
  | _ => n

def setInstaller (index : ℕ) (installer : Installer L H) (n : Node L H) : Node L H :=
  { n with installers := n.installers.set index installer }

def hostCheck (state : ChainState L) : Check := do
  require (state.deploymentCryptoPolicy = api.policy)
    "state-sync deployment crypto policy differs from genesis"
  api.validateHostState state

/-- The chunks are fetched and decoded and the state is staged; none of it touches what
this module keeps. -/
def fetch (index : ℕ) (peers : List (Peer H)) (store : ChunkStore H) (fault : Option String)
    (n : Node L H) : Node L H :=
  match n.installers[index]? with
  | some (.fetching summary) =>
    match (installStateSummary sync summary (hostCheck api) peers store).2, fault with
    | .ok decoded, none => n.setInstaller index (.staged summary decoded)
    | .ok _, some error => n.setInstaller index (.finished (some error))
    | .error error, _ => n.setInstaller index (.finished (some error))
  | _ => n

def check (index : ℕ) (n : Node L H) : Node L H :=
  match n.holder, n.installers[index]? with
  | none, some (.staged summary decoded) =>
    if n.ongoingSync = some summary ∧ n.syncRunning = true then
      n.setInstaller index (.checked summary decoded)
    else n.setInstaller index (.finished (some "state-sync target changed before installation"))
  | _, _ => n

def write (index : ℕ) (fault : Option String) (n : Node L H) : Node L H :=
  match n.installers[index]? with
  | some (.checked summary decoded) =>
    match fault with
    | none =>
      { n.setInstaller index (.written summary decoded) with
        runtime := { n.runtime with db := n.runtime.db.installed summary decoded } }
    | some error => n.setInstaller index (.finished (some error))
  | _ => n

def update (index : ℕ) (n : Node L H) : Node L H :=
  match n.holder, n.installers[index]? with
  | none, some (.written summary decoded) =>
    if n.ongoingSync = some summary ∧ n.syncRunning = true then
      { n.setInstaller index (.finished none) with
        runtime := n.runtime.installedTip summary decoded
        ongoingSync := none }
    else n.setInstaller index (.finished (some "state-sync target changed during installation"))
  | _, _ => n

def finish (index : ℕ) (n : Node L H) : Node L H :=
  match n.holder, n.installers[index]? with
  | none, some (.finished _) =>
    { n with syncRunning := false, installers := n.installers.eraseIdx index }
  | _, _ => n

def step (op : NodeOp H) (n : Node L H) : Node L H :=
  match op with
  | .call op => n.call api op
  | .acceptRead fault => n.acceptRead fault
  | .acceptWrite fault => n.acceptWrite fault
  | .acceptFinish => n.acceptFinish api
  | .summaryStart summary => n.summaryStart sync home summary
  | .summaryWrite fault => n.summaryWrite fault
  | .summaryFinish => n.summaryFinish
  | .fetch index peers store fault => n.fetch api sync index peers store fault
  | .check index => n.check index
  | .write index fault => n.write index fault
  | .update index => n.update index
  | .finish index => n.finish index

def exec (op : NodeOp H) : InPlace (Node L H) Unit := modify (step api sync home op)

def height (n : Node L H) : ℕ := n.runtime.lastAccepted.block.height.toNat

def Quiet (n : Node L H) : Prop := n.holder = none ∧ n.installers = []

structure Booted (n : Node L H) : Prop where
  tip : n.runtime.db.lastAccepted = n.runtime.lastAccepted.id
  verified : n.runtime.verified = ∅
  idle : n.syncRunning = false ∧ n.holder = none ∧ n.installers = []

end Node

def Installer.target : Installer L H → Option (StateSummary H)
  | .fetching summary | .staged summary _ | .checked summary _ | .written summary _ => some summary
  | .finished _ => none

def Installer.isWritten : Installer L H → Bool
  | .written _ _ => true
  | _ => false

def Holder.staged : Holder L H → Option (VerifiedBlock L)
  | .accepting _ block .staged => some block
  | _ => none

def NodeOp.writesBlock : NodeOp H → Bool
  | .acceptWrite _ => true
  | _ => false

/-- An acceptance writes its batch while no installation has written its own without updating the
memory, and while none is about a summary below the block. -/
def Apart (n : Node L H) (op : NodeOp H) : Prop :=
  op.writesBlock = true → ∀ block ∈ n.holder.bind Holder.staged, ∀ installer ∈ n.installers,
    installer.isWritten = false ∧
      ∀ summary ∈ installer.target, block.block.height.toNat ≤ summary.height.toNat

instance (n : Node L H) (op : NodeOp H) : Decidable (Apart n op) :=
  inferInstanceAs (Decidable (_ → _))

end Definitions

theorem decodeSnapshot_height {State H : Type} [DecidableEq H] {sync : SyncApi State H}
    {summary : StateSummary H} {snapshot : Bytes} {decoded : DecodedSnapshot State}
    (h : decodeSnapshot sync summary snapshot = .ok decoded) :
    decoded.block.height = summary.height := by
  unfold decodeSnapshot at h
  iterate 4 obtain ⟨_, -, h⟩ := bind_eq_ok.mp h
  obtain ⟨⟨_, _⟩, -, h⟩ := bind_eq_ok.mp h
  obtain ⟨_, -, h⟩ := bind_eq_ok.mp h
  iterate 4 obtain ⟨⟨_, _⟩, -, h⟩ := bind_eq_ok.mp h
  iterate 4 obtain ⟨_, -, h⟩ := bind_eq_ok.mp h
  obtain ⟨_, hsame, h⟩ := bind_eq_ok.mp h
  obtain rfl := pure_eq_ok.mp h
  simp only [require_eq_ok, not_or, not_not] at hsame
  exact hsame.2.2.1

theorem installStateSummary_height {State H : Type} [DecidableEq H] {sync : SyncApi State H}
    {summary : StateSummary H} {hostCheck : State → Check} {peers : List (Peer H)}
    {store : ChunkStore H} {decoded : DecodedSnapshot State}
    (h : (installStateSummary sync summary hostCheck peers store).2 = .ok decoded) :
    decoded.block.height = summary.height := by
  unfold installStateSummary at h
  split at h
  · cases h
  · split at h
    · cases h
    · split at h
      · cases h
      · split at h
        · cases h
        · next hassembled =>
          cases h
          simp only [assemble, ok_iff] at hassembled
          obtain ⟨_, found, hfound, _, rfl⟩ := hassembled
          exact decodeSnapshot_height hfound

section Coherence

variable {Json L H : Type} {api : ChainApi Json L} {n : Node L H}

def Holder.written : Holder L H → Option (VerifiedBlock L)
  | .accepting _ block .written => some block
  | _ => none

def Installer.written? : Installer L H → Option Id
  | .written summary _ => some summary.blockId
  | _ => none

theorem Installer.written?_eq_none {i : Installer L H} (h : i.isWritten = false) :
    i.written? = none := by
  cases i with
  | written => simp [isWritten] at h
  | _ => rfl

namespace Node

structure Aimed (n : Node L H) (summary : StateSummary H) : Prop where
  ongoing : n.ongoingSync = some summary
  ahead : n.height ≤ summary.height.toNat
  accepted : ∀ block, n.holder.bind Holder.written = some block →
    block.block.height.toNat ≤ summary.height.toNat

def Backs (n : Node L H) : Installer L H → Prop
  | .fetching summary => n.Aimed summary
  | .staged summary decoded | .checked summary decoded | .written summary decoded =>
    n.Aimed summary ∧ decoded.block.height = summary.height
  | .finished _ => True

def Holds (n : Node L H) : Holder L H → Prop
  | .accepting id block _ => block.id = id ∧ n.height ≤ block.block.height.toNat
  | .summarising summary _ => n.height ≤ summary.height.toNat ∧ n.syncRunning = false

/-- The row of the last accepted block in the database, by who has written to it last. -/
def expectedTip (n : Node L H) : Id :=
  ((n.installers.findSome? Installer.written?).or
    ((n.holder.bind Holder.written).map VerifiedBlock.id)).getD n.runtime.lastAccepted.id

structure Coherent (n : Node L H) : Prop where
  keyed : ∀ id block, n.runtime.verified.lookup id = some block → block.id = id
  tasks : n.installers = [] ∧ n.syncRunning = false ∨
    ∃ installer, n.installers = [installer] ∧ n.syncRunning = true ∧ n.Backs installer
  holder : ∀ h, n.holder = some h → n.Holds h
  tip : n.runtime.db.lastAccepted = n.expectedTip

theorem Backs.of_aimed {m : Node L H} {i : Installer L H} (h : n.Backs i)
    (haimed : ∀ summary, i.target = some summary → n.Aimed summary → m.Aimed summary) :
    m.Backs i := by
  cases i with
  | fetching => exact haimed _ rfl h
  | staged | checked | written => exact ⟨haimed _ rfl h.1, h.2⟩
  | finished => trivial

theorem Coherent.installer_eq (h : n.Coherent) {index : ℕ} {installer : Installer L H}
    (hi : n.installers[index]? = some installer) :
    n.installers = [installer] ∧ index = 0 ∧ n.syncRunning = true ∧ n.Backs installer := by
  grind [Backs, Coherent]

theorem Coherent.setHolder (h : n.Coherent) (hold : n.holder.bind Holder.written = none)
    {holder : Option (Holder L H)} (hnew : holder.bind Holder.written = none)
    (hholds : ∀ g, holder = some g → n.Holds g) : ({ n with holder } : Node L H).Coherent := by
  have haimed : ∀ summary, n.Aimed summary → ({ n with holder } : Node L H).Aimed summary :=
    fun summary ha => ⟨ha.ongoing, ha.ahead, fun block hb => by simp [hnew] at hb⟩
  refine ⟨h.keyed, ?_, fun g hg => ?_, ?_⟩
  · obtain hnone | ⟨i, hi, hrunning, hb⟩ := h.tasks
    · exact .inl hnone
    · exact .inr ⟨i, hi, hrunning, hb.of_aimed fun summary _ => haimed summary⟩
  · have hg := hholds g hg
    cases g with
    | accepting => exact hg
    | summarising => exact hg
  · simpa [expectedTip, hold, hnew] using h.tip

theorem Coherent.setInstaller (h : n.Coherent) {index : ℕ} {i j : Installer L H}
    (hi : n.installers[index]? = some i) (hbacks : n.Backs i → n.Backs j)
    (hwritten : j.written? = i.written?) : (n.setInstaller index j).Coherent := by
  obtain ⟨honly, rfl, hrunning, hb⟩ := h.installer_eq hi
  refine ⟨h.keyed, .inr ⟨j, by simp [Node.setInstaller, honly], hrunning, ?_⟩, h.holder, ?_⟩
  · exact (hbacks hb).of_aimed fun summary _ ha => ⟨ha.ongoing, ha.ahead, ha.accepted⟩
  · simpa [expectedTip, Node.setInstaller, honly, hwritten] using h.tip

end Node

theorem Effect.keyed {s t : Runtime L} {op : ChainOp} (h : Effect api s op t)
    (hkeyed : ∀ id block, s.verified.lookup id = some block → block.id = id) :
    ∀ id block, t.verified.lookup id = some block → block.id = id := by
  cases h with
  | idle | inserted | drained => exact hkeyed
  | built | verified => exact Table.forall_insert hkeyed rfl
  | accepted =>
    exact fun other block hblock => hkeyed other block (lookup_erase_eq_some hblock).2
  | @rejected id b hb =>
    let kept : Runtime L → Prop := fun u =>
      ∀ id block, u.verified.lookup id = some block → block.id = id
    suffices h : kept _ from h
    refine each_snd (fun transaction u hu => ?_) _
      fun other block hblock => hkeyed other block (lookup_erase_eq_some hblock).2
    obtain ⟨-, hverified, -, -⟩ := requeue_frame api transaction u
    intro other block hblock
    rw [hverified] at hblock
    exact hu other block hblock

theorem le_saturatingSucc (height : UInt64) : height.toNat ≤ (saturatingSucc height).toNat := by
  rw [toNat_saturatingSucc]
  have := UInt64.toNat_lt height
  omega

def Node.Advances (n m : Node L H) : Prop := m.Coherent ∧ n.height ≤ m.height

namespace Node

attribute [local simp] Holder.written Node.setInstaller expectedTip

section
variable (h : n.Coherent)
include h

theorem startAccept_advances (hfree : n.holder = none) (id : Id) :
    n.Advances (n.startAccept id) := by
  unfold startAccept
  split
  · exact ⟨h, le_refl _⟩
  · next block hblock =>
    split
    · next hextends =>
      refine ⟨h.setHolder (by simp [hfree]) rfl ?_, le_refl _⟩
      rintro g hg
      cases hg
      exact ⟨h.keyed id block hblock, hextends.2 ▸ le_saturatingSucc _⟩
    · exact ⟨h, le_refl _⟩

theorem perform_advances {op : ChainOp} (hop : ∀ id fault, op ≠ .blockAccept id fault) :
    n.Advances { n with runtime := (perform api op n.runtime).2 } := by
  have heffect : Effect api n.runtime op (perform api op n.runtime).2 := perform_effect
  obtain ⟨hdb, htip⟩ := heffect.same_tip hop
  have hheight : ({ n with runtime := (perform api op n.runtime).2 } : Node L H).height = n.height := by
    simp only [height, htip]
  refine ⟨⟨heffect.keyed h.keyed, ?_, fun g hg => ?_, ?_⟩, hheight.ge⟩
  · obtain hnone | ⟨i, hi, hrunning, hb⟩ := h.tasks
    · exact .inl hnone
    · exact .inr ⟨i, hi, hrunning, hb.of_aimed fun summary _ ha =>
        ⟨ha.ongoing, hheight.le.trans ha.ahead, ha.accepted⟩⟩
  · have hholds := h.holder g hg
    cases g with
    | accepting => exact ⟨hholds.1, hheight.le.trans hholds.2⟩
    | summarising => exact ⟨hheight.le.trans hholds.1, hholds.2⟩
  · simpa [hdb, htip] using h.tip

theorem call_advances (op : ChainOp) : n.Advances (n.call api op) := by
  unfold call
  split
  · next hfree =>
    cases op with
    | blockAccept id fault =>
      exact startAccept_advances h (by simpa [readsOnly] using hfree) id
    | enqueue | buildBlock | verifyCandidate | setPreference | resume | blockReject | setState =>
      exact perform_advances h (by simp)
  · exact ⟨h, le_refl _⟩

theorem acceptRead_advances (fault : Option String) : n.Advances (n.acceptRead fault) := by
  unfold acceptRead
  split
  · next id block hholder =>
    have hholds := h.holder _ hholder
    split
    · exact ⟨h.setHolder (by simp [hholder]) rfl fun g hg => by cases hg; exact hholds,
        le_refl _⟩
    · exact ⟨h.setHolder (by simp [hholder]) rfl (by simp), le_refl _⟩
  · exact ⟨h, le_refl _⟩

theorem acceptWrite_advances {fault : Option String}
    (hapart : Apart n (.acceptWrite fault)) : n.Advances (n.acceptWrite fault) := by
  unfold acceptWrite
  split
  · next id block hholder =>
    obtain ⟨hid, hnext⟩ := h.holder _ hholder
    have hnear := hapart rfl block (by simp [hholder, Holder.staged])
    split
    · refine ⟨⟨h.keyed, ?_, fun g hg => ?_, ?_⟩, le_refl _⟩
      · obtain hnone | ⟨i, hi, hrunning, hb⟩ := h.tasks
        · exact .inl hnone
        · refine .inr ⟨i, hi, hrunning, hb.of_aimed fun summary htarget ha => ⟨ha.ongoing, ha.ahead, ?_⟩⟩
          intro written hwritten
          obtain rfl : block = written := by simpa using hwritten
          exact (hnear i (by simp [hi])).2 summary htarget
      · cases hg
        exact ⟨hid, hnext⟩
      · have hnone : n.installers.findSome? Installer.written? = none := by
          rw [List.findSome?_eq_none_iff]
          intro i hi
          exact Installer.written?_eq_none (hnear i hi).1
        simp [hnone, hid, ChainDb.accepted]
    · exact ⟨h.setHolder (by simp [hholder]) rfl (by simp), le_refl _⟩
  · exact ⟨h, le_refl _⟩

theorem acceptFinish_advances : n.Advances (n.acceptFinish api) := by
  unfold acceptFinish
  split
  · next id block hholder =>
    obtain ⟨hid, hnext⟩ := h.holder _ hholder
    refine ⟨⟨?_, ?_, by simp, ?_⟩, hnext⟩
    · exact fun other b hb => h.keyed other b (lookup_erase_eq_some hb).2
    · obtain hnone | ⟨i, hi, hrunning, hb⟩ := h.tasks
      · exact .inl hnone
      · exact .inr ⟨i, hi, hrunning, hb.of_aimed fun summary _ ha =>
          ⟨ha.ongoing, ha.accepted block (by simp [hholder]), by simp⟩⟩
    · have htip := h.tip
      cases hwritten : n.installers.findSome? Installer.written? with
      | none => simpa [hwritten, hholder, acceptedTip, accepted]
          using htip
      | some => simpa [hwritten, acceptedTip] using htip
  · exact ⟨h, le_refl _⟩

theorem summaryWrite_advances (fault : Option String) : n.Advances (n.summaryWrite fault) := by
  unfold summaryWrite
  split
  · next summary hholder =>
    have hholds := h.holder _ hholder
    split
    · exact ⟨h.setHolder (by simp [hholder]) rfl fun g hg => by cases hg; exact hholds,
        le_refl _⟩
    · exact ⟨h.setHolder (by simp [hholder]) rfl (by simp), le_refl _⟩
  · exact ⟨h, le_refl _⟩

theorem summaryFinish_advances : n.Advances n.summaryFinish := by
  unfold summaryFinish
  split
  · next summary hholder =>
    obtain ⟨hahead, hidle⟩ := h.holder _ hholder
    obtain ⟨hnone, -⟩ | ⟨_, _, hrunning, _⟩ := h.tasks
    · refine ⟨⟨h.keyed, .inr ⟨.fetching summary, by simp [hnone], rfl, rfl, hahead, by simp⟩,
        by simp, ?_⟩, le_refl _⟩
      simpa [hnone, hholder, Installer.written?] using h.tip
    · rw [hidle] at hrunning
      cases hrunning
  · exact ⟨h, le_refl _⟩

theorem write_advances (index : ℕ) (fault : Option String) : n.Advances (n.write index fault) := by
  unfold write
  split
  · next summary decoded hi =>
    split
    · obtain ⟨honly, rfl, hrunning, hb⟩ := h.installer_eq hi
      refine ⟨⟨h.keyed, .inr ⟨.written summary decoded, by simp [honly], hrunning,
        ?_⟩, h.holder, ?_⟩, le_refl _⟩
      · exact ⟨⟨hb.1.ongoing, hb.1.ahead, hb.1.accepted⟩, hb.2⟩
      · simp [honly, Installer.written?, ChainDb.installed]
    · exact ⟨h.setInstaller hi (fun _ => trivial) rfl, le_refl _⟩
  · exact ⟨h, le_refl _⟩

theorem finish_advances (index : ℕ) : n.Advances (n.finish index) := by
  unfold finish
  split
  · next error hholder hi =>
    obtain ⟨honly, rfl, -, -⟩ := h.installer_eq hi
    refine ⟨⟨h.keyed, .inl ⟨by simp [honly], rfl⟩, by simp [hholder], ?_⟩, le_refl _⟩
    simpa [honly, hholder, Installer.written?] using h.tip
  · exact ⟨h, le_refl _⟩

end

section Targets

variable [DecidableEq H] {sync : SyncApi (ChainState L) H} {home : Home}

theorem summaryStart_advances (h : n.Coherent) (summary : StateSummary H) :
    n.Advances (n.summaryStart sync home summary) := by
  unfold summaryStart
  split
  · next htakes =>
    obtain ⟨hfree, -, -, -, -, hahead, hidle⟩ := htakes
    have hnone : n.holder = none := by simpa using hfree
    refine ⟨h.setHolder (by simp [hnone]) rfl fun g hg => ?_, le_refl _⟩
    cases hg
    rw [UInt64.le_iff_toNat_le] at hahead
    exact ⟨by simp only [height]; omega, hidle⟩
  · exact ⟨h, le_refl _⟩

theorem fetch_advances (h : n.Coherent) (index : ℕ) (peers : List (Peer H)) (store : ChunkStore H)
    (fault : Option String) : n.Advances (n.fetch api sync index peers store fault) := by
  unfold fetch
  split
  · next summary hi =>
    split
    · next decoded hdecoded =>
      exact ⟨h.setInstaller hi (fun hb => ⟨hb, installStateSummary_height hdecoded⟩) rfl, le_refl _⟩
    · exact ⟨h.setInstaller hi (fun _ => trivial) rfl, le_refl _⟩
    · exact ⟨h.setInstaller hi (fun _ => trivial) rfl, le_refl _⟩
  · exact ⟨h, le_refl _⟩

theorem check_advances (h : n.Coherent) (index : ℕ) : n.Advances (n.check index) := by
  unfold check
  split
  · next summary decoded hholder hi =>
    split
    · exact ⟨h.setInstaller hi id rfl, le_refl _⟩
    · exact ⟨h.setInstaller hi (fun _ => trivial) rfl, le_refl _⟩
  · exact ⟨h, le_refl _⟩

/-- The update finds the target it was started for, so that its check cannot fail. -/
theorem update_advances (h : n.Coherent) (index : ℕ) : n.Advances (n.update index) := by
  unfold update
  split
  · next summary decoded hholder hi =>
    obtain ⟨honly, rfl, hrunning, haimed, hheight⟩ := h.installer_eq hi
    rw [if_pos ⟨haimed.ongoing, hrunning⟩]
    refine ⟨⟨?_, .inr ⟨.finished none, by simp [honly], hrunning, trivial⟩, ?_, ?_⟩, ?_⟩
    · intro id block hblock
      simp [installedTip] at hblock
    · simp [hholder]
    · simpa [honly, hholder, Installer.written?, installedTip] using h.tip
    · simpa [height, installedTip, hheight] using haimed.ahead
  · exact ⟨h, le_refl _⟩

theorem step_advances (h : n.Coherent) {op : NodeOp H} (hapart : Apart n op) :
    n.Advances (n.step api sync home op) := by
  cases op with
  | call op => exact call_advances h op
  | acceptRead fault => exact acceptRead_advances h fault
  | acceptWrite => exact acceptWrite_advances h hapart
  | acceptFinish => exact acceptFinish_advances h
  | summaryStart summary => exact summaryStart_advances h summary
  | summaryWrite fault => exact summaryWrite_advances h fault
  | summaryFinish => exact summaryFinish_advances h
  | fetch index peers store fault => exact fetch_advances h index peers store fault
  | check index => exact check_advances h index
  | write index fault => exact write_advances h index fault
  | update index => exact update_advances h index
  | finish index => exact finish_advances h index

omit [DecidableEq H] in
theorem Booted.coherent (h : n.Booted) : n.Coherent := by
  obtain ⟨hidle, hfree, hnone⟩ := h.idle
  refine ⟨by simp [h.verified], .inl ⟨hnone, hidle⟩, by simp [hfree], ?_⟩
  simpa [hfree, hnone] using h.tip

/-- Wherever a run gets whose acceptances keep apart from the installations: the database and the
memory name the same last block once nothing is in progress, and the tip never falls. -/
theorem acceptance_beside_sync (hboot : n.Booted) (ops more : List (NodeOp H))
    (hapart : Always (exec api sync home) Apart n (ops ++ more)) :
    let reached := run (exec api sync home) n ops
    (reached.Quiet → reached.runtime.db.lastAccepted = reached.runtime.lastAccepted.id) ∧
      reached.height ≤ (run (exec api sync home) n (ops ++ more)).height := by
  intro reached
  obtain ⟨hbefore, hafter⟩ := always_append.mp hapart
  have hkept : ∀ s op, s.Coherent → Apart s op → (exec api sync home op s).2.Coherent :=
    fun s op hs hP => (step_advances hs hP).1
  have hcoherent : reached.Coherent := Always.invariant hkept hbefore hboot.coherent
  refine ⟨fun ⟨hfree, hnone⟩ => ?_, ?_⟩
  · simpa [hfree, hnone] using hcoherent.tip
  · rw [run_append]
    have hrises : ∀ s op, s.Coherent ∧ reached.height ≤ s.height → Apart s op →
        (exec api sync home op s).2.Coherent ∧ reached.height ≤ (exec api sync home op s).2.height :=
      fun s op hs hP => (step_advances hs.1 hP).imp id hs.2.trans
    exact (Always.invariant hrises hafter ⟨hcoherent, le_refl _⟩).2

end Targets
end Node

end Coherence

section Sample

def raceSync : SyncApi (ChainState ℕ) Tree where
  digest := sampleDigest
  leafHash i bytes := .leaf i bytes
  nodeHash a b := .node a b
  hashBytes _ := []
  zeroHash := .zero
  toVec s := .ok [UInt8.ofNat s.ledger]
  fromSlice bytes := .ok ⟨none, ∅, 0, (bytes.headD 0).toNat⟩
  validateState _ := .ok ()
  root s := sampleId (s.ledger + 7)

def raceHome : Home := ⟨7, sampleId 1, sampleId 1⟩

def raceBuilt (k : ℕ) : Result (StateSummary Tree × Bytes) :=
  buildSummary raceSync 7 (sampleId 1) (sampleId 1) (chainBlock k) ⟨none, ∅, 0, 5⟩

def raceSummary (k : ℕ) : StateSummary Tree :=
  match raceBuilt k with
  | .ok built => built.1
  | .error _ => ⟨0, Id.zero, Id.zero, Id.zero, Id.zero, Id.zero, Id.zero, .zero, 0, 0, 0, 0, 0⟩

def racePeer (k : ℕ) : Peer Tree :=
  match raceBuilt k with
  | .ok built => ChunkResponse.build raceSync built.1 built.2
  | .error error => fun _ => .error error

def raceStart : Node ℕ Tree := { runtime := sampleStart, ongoingSync := none }

def verifyOps (k : ℕ) : List (NodeOp Tree) :=
  [.call (.verifyCandidate (encoded (chainBlock k))), .call (.resume 0 none none),
    .call (.resume 0 (some 5) none)]

def acceptOps (k : ℕ) : List (NodeOp Tree) :=
  [.call (.blockAccept (sampleId (chainName k)) none), .acceptRead none, .acceptWrite none,
    .acceptFinish]

def syncOps (k : ℕ) : List (NodeOp Tree) :=
  [.summaryStart (raceSummary k), .summaryWrite none, .summaryFinish]

def fetchOps (k : ℕ) : List (NodeOp Tree) := [.fetch 0 [racePeer k] (fun _ => none) none]

def raceRun (ops : List (NodeOp Tree)) : Node ℕ Tree :=
  run (Node.exec sampleApi raceSync raceHome) raceStart ops

def installOps : List (NodeOp Tree) := [.check 0, .write 0 none, .update 0, .finish 0]

theorem raceStart_booted : raceStart.Booted := ⟨rfl, rfl, rfl, rfl, rfl⟩

def beforeOps : List (NodeOp Tree) :=
  verifyOps 1 ++ syncOps 3 ++ fetchOps 3 ++ acceptOps 1 ++ installOps

theorem acceptance_beside_sync_sample :
    raceStart.Booted ∧ Always (Node.exec sampleApi raceSync raceHome) Apart raceStart beforeOps ∧
      (raceRun beforeOps).runtime.db.lastAccepted = (raceRun beforeOps).runtime.lastAccepted.id ∧
      (raceRun beforeOps).height = 3 := by
  have hapart : Always (Node.exec sampleApi raceSync raceHome) Apart raceStart beforeOps := by
    decide +kernel
  have hreached : (raceRun beforeOps).holder.isNone = true ∧
      (raceRun beforeOps).installers.isEmpty = true ∧ (raceRun beforeOps).height = 3 := by
    decide +kernel
  obtain ⟨hfree, hnone, hheight⟩ := hreached
  obtain ⟨htip, -⟩ := Node.acceptance_beside_sync raceStart_booted beforeOps []
    (by rwa [List.append_nil])
  exact ⟨raceStart_booted, hapart,
    htip ⟨Option.isNone_iff_eq_none.mp hfree, List.isEmpty_iff.mp hnone⟩, hheight⟩

/-- A block is accepted between the batch of an installation and its update of the memory. -/
def betweenOps : List (NodeOp Tree) :=
  verifyOps 1 ++ syncOps 3 ++ fetchOps 3 ++ [.check 0, .write 0 none] ++ acceptOps 1 ++
    [.update 0, .finish 0]

/-- Two blocks are accepted while a summary of the first one is being fetched. -/
def overtakingOps : List (NodeOp Tree) :=
  verifyOps 1 ++ syncOps 1 ++ fetchOps 1 ++ acceptOps 1 ++ verifyOps 2 ++ acceptOps 2

theorem acceptance_races_sync :
    raceStart.Booted ∧
      ((raceRun betweenOps).Quiet ∧ (raceRun betweenOps).runtime.db.lastAccepted = sampleId 2 ∧
        (raceRun betweenOps).runtime.lastAccepted.id = sampleId 6) ∧
      (raceRun overtakingOps).height = 2 ∧ (raceRun (overtakingOps ++ installOps)).height = 1 := by
  have hreached : (raceRun betweenOps).holder.isNone = true ∧
      (raceRun betweenOps).installers.isEmpty = true ∧
      (raceRun betweenOps).runtime.db.lastAccepted = sampleId 2 ∧
      (raceRun betweenOps).runtime.lastAccepted.id = sampleId 6 := by decide +kernel
  obtain ⟨hfree, hnone, hdb, htip⟩ := hreached
  have hquiet : (raceRun betweenOps).Quiet :=
    ⟨Option.isNone_iff_eq_none.mp hfree, List.isEmpty_iff.mp hnone⟩
  exact ⟨raceStart_booted, ⟨hquiet, hdb, htip⟩, by decide +kernel⟩

end Sample
end DeFMI.Chain
