import DeFMI.Chain.Effects
set_option autoImplicit false

/-!
The state of every accepted block is the replay of that block on the state of its
parent. Blocks are built or verified on parents that need not be accepted, or that
have been rejected since they were read; what carries the argument is that every
block the node ever holds is derived from the genesis by checked steps, and that a
derivation is determined by the name of its last block.
-/

namespace DeFMI.Chain
open Lib InPlace Entry Prod

variable {Json L : Type} {api : ChainApi Json L}

section Transactions

/-- What one applied transaction does, as far as block processing can tell. -/
structure Applied (api : ChainApi Json L) (s : ChainState L) (bytes : Bytes)
    (receipt : TransitionReceipt) (t : ChainState L) : Prop where
  named : api.transactionId bytes = .ok receipt.transactionId
  fresh : receipt.transactionId ∉ s.appliedTransactions
  entered : receipt.transactionId ∈ t.appliedTransactions
  kept : api.HookKeepsApplied → s.appliedTransactions ⊆ t.appliedTransactions
  before : receipt.beforeRoot = api.root s
  after : receipt.afterRoot = api.root t

variable {timestamp : UInt64} {receipts : List TransitionReceipt} {transactions : List Bytes}
  {s t : ChainState L}

theorem execute_keeps (hhook : api.HookKeepsApplied)
    {transaction : TransactionEnvelope Json} {statement : Id}
    (h : api.execute s transaction timestamp = .ok (t, statement)) :
    s.appliedTransactions ⊆ t.appliedTransactions := by
  simp only [ChainApi.execute, ok_iff] at h
  obtain ⟨_, h⟩ := h
  by_cases hmethod : transaction.method = "defmivm.issueApplication"
  · rw [if_pos hmethod] at h
    exact hhook _ _ _ _ _ h
  · simp only [if_neg hmethod, ok_iff, mk.injEq] at h
    obtain ⟨_, _, rfl, _⟩ := h
    exact Finset.Subset.refl _

theorem apply_ok {bytes : Bytes}
    {receipt : TransitionReceipt} (h : api.apply s bytes timestamp = .ok (t, receipt)) :
    Applied api s bytes receipt t := by
  simp only [ChainApi.apply, ok_iff, mk.injEq] at h
  obtain ⟨_, _, _, _, id, hid, hfresh, ⟨next, statement⟩, hnext, _, _, _, rfl, rfl⟩ := h
  constructor
  · exact hid
  · exact hfresh
  · exact Finset.mem_insert_self _ _
  · intro hhook
    exact (execute_keeps hhook hnext).trans (Finset.subset_insert _ _)
  · rfl
  · rfl

/-- The states a block runs through: each receipt carries the roots of the state its
transaction was applied to and of the state it led to. -/
inductive Replays (api : ChainApi Json L) (timestamp : UInt64) :
    ChainState L → List Bytes → List TransitionReceipt → ChainState L → Prop
  | done (s : ChainState L) : Replays api timestamp s [] [] s
  | step {s t u : ChainState L} {transaction : Bytes} {transactions : List Bytes}
      {receipt : TransitionReceipt} {receipts : List TransitionReceipt}
      (happly : api.apply s transaction timestamp = .ok (t, receipt))
      (hbefore : receipt.beforeRoot = api.root s) (hafter : receipt.afterRoot = api.root t)
      (hrest : Replays api timestamp t transactions receipts u) :
      Replays api timestamp s (transaction :: transactions) (receipt :: receipts) u

theorem applyAll_cons {s u : ChainState L} {transaction : Bytes} :
    api.applyAll timestamp s (transaction :: transactions) = .ok (u, receipts) ↔
      ∃ t receipt rest, api.apply s transaction timestamp = .ok (t, receipt) ∧
        api.applyAll timestamp t transactions = .ok (u, rest) ∧ receipts = receipt :: rest := by
  simp only [ChainApi.applyAll, bind_eq_ok, pure_eq_ok, mk.injEq]
  constructor
  · grind
  · grind

theorem applyAll_replays (h : api.applyAll timestamp s transactions = .ok (t, receipts)) :
    Replays api timestamp s transactions receipts t := by
  induction transactions generalizing s receipts with
  | nil =>
    simp only [ChainApi.applyAll, ok_iff, mk.injEq] at h
    obtain ⟨rfl, rfl⟩ := h
    exact .done _
  | cons transaction transactions ih =>
    obtain ⟨u, receipt, rest, happly, hrest, rfl⟩ := applyAll_cons.mp h
    exact .step happly (apply_ok happly).before (apply_ok happly).after (ih hrest)

theorem applyAll_snoc {transaction : Bytes} {s t u : ChainState L} {receipt : TransitionReceipt}
    (h : api.applyAll timestamp s transactions = .ok (t, receipts))
    (hlast : api.apply t transaction timestamp = .ok (u, receipt)) :
    api.applyAll timestamp s (transactions ++ [transaction]) = .ok (u, receipts ++ [receipt]) := by
  induction transactions generalizing s receipts with
  | nil =>
    simp only [ChainApi.applyAll, ok_iff, mk.injEq] at h
    obtain ⟨rfl, rfl⟩ := h
    exact applyAll_cons.mpr ⟨u, receipt, [], hlast, rfl, rfl⟩
  | cons first transactions ih =>
    obtain ⟨v, firstReceipt, rest, happly, hrest, rfl⟩ := applyAll_cons.mp h
    exact applyAll_cons.mpr ⟨v, firstReceipt, rest ++ [receipt], happly, ih hrest, rfl⟩

structure Entered (s : ChainState L) (receipts : List TransitionReceipt) (t : ChainState L) :
    Prop where
  kept : s.appliedTransactions ⊆ t.appliedTransactions
  fresh : ∀ r ∈ receipts, r.transactionId ∉ s.appliedTransactions
  entered : ∀ r ∈ receipts, r.transactionId ∈ t.appliedTransactions
  distinct : (receipts.map TransitionReceipt.transactionId).Nodup

theorem Replays.entered (hhook : api.HookKeepsApplied)
    (h : Replays api timestamp s transactions receipts t) : Entered s receipts t := by
  induction h with
  | done => exact ⟨Finset.Subset.refl _, by simp, by simp, by simp⟩
  | @step s t u transaction transactions receipt receipts happly hbefore hafter hrest ih =>
    have hfirst := apply_ok happly
    have hkept := hfirst.kept hhook
    constructor
    · exact hkept.trans ih.kept
    · intro r hr
      rcases List.mem_cons.mp hr with rfl | hr
      · exact hfirst.fresh
      · exact fun hs => ih.fresh r hr (hkept hs)
    · intro r hr
      rcases List.mem_cons.mp hr with rfl | hr
      · exact ih.kept hfirst.entered
      · exact ih.entered r hr
    · rw [List.map_cons, List.nodup_cons]
      refine ⟨?_, ih.distinct⟩
      intro hmem
      obtain ⟨r, hr, hsame⟩ := List.mem_map.mp hmem
      exact ih.fresh r hr (hsame ▸ hfirst.entered)

/-- The loop of `build_block` skips what is refused, and what it keeps replays. -/
theorem drain_replays {start : ChainState L} {pool : List Bytes} {before : Drained L}
    (h : api.applyAll timestamp start before.transactions = .ok (before.state, before.receipts)) :
    api.applyAll timestamp start (drain api timestamp pool before).2.transactions =
      .ok ((drain api timestamp pool before).2.state,
        (drain api timestamp pool before).2.receipts) := by
  induction pool generalizing before with
  | nil => exact h
  | cons bytes rest ih =>
    unfold drain
    by_cases hroom : before.transactions.length < Block.maxTransactions
    · rw [if_pos hroom]
      cases hid : api.transactionId bytes with
      | error => exact h
      | ok =>
        cases happly : api.apply before.state bytes timestamp with
        | error => exact ih h
        | ok => exact ih (applyAll_snoc h happly)
    · rw [if_neg hroom]
      exact h

theorem drained_replays (api : ChainApi Json L) (s : Runtime L) (state : ChainState L)
    (timestamp : UInt64) :
    api.applyAll timestamp state (s.drained api state timestamp).2.transactions =
      .ok ((s.drained api state timestamp).2.state, (s.drained api state timestamp).2.receipts) :=
  drain_replays rfl

end Transactions

section Derivations

structure Follows (api : ChainApi Json L) (parent child : VerifiedBlock L) : Prop where
  link : child.block.parentId = parent.id
  height : child.block.height = saturatingSucc parent.block.height
  timestamp : parent.block.timestamp ≤ child.block.timestamp
  replay : api.applyAll child.block.timestamp.toUInt64 parent.state child.block.transactions =
    .ok (child.state, child.receipts)

/-- Blocks that checked steps lead to from the genesis, all of them among `seen`. -/
inductive Derived (api : ChainApi Json L) (genesis : VerifiedBlock L) (seen : Block → Prop) :
    VerifiedBlock L → Prop
  | genesis : Derived api genesis seen genesis
  | extend {parent child : VerifiedBlock L} (hparent : Derived api genesis seen parent)
      (hfollows : Follows api parent child) (hnamed : child.block.id api.digest = .ok child.id)
      (hseen : seen child.block) : Derived api genesis seen child

structure Agrees (b c : VerifiedBlock L) : Prop where
  block : b.block = c.block
  id : b.id = c.id
  state : b.state = c.state

theorem Agrees.refl (b : VerifiedBlock L) : Agrees b b := ⟨rfl, rfl, rfl⟩

theorem Agrees.symm {b c : VerifiedBlock L} (h : Agrees b c) : Agrees c b :=
  ⟨h.block.symm, h.id.symm, h.state.symm⟩

theorem Follows.of_agrees {b c child : VerifiedBlock L} (h : Follows api b child)
    (hsame : Agrees b c) : Follows api c child := by
  grind [Agrees, Follows]

def DistinctIds (api : ChainApi Json L) (seen : Block → Prop) : Prop :=
  ∀ b c, seen b → seen c → b.id api.digest = c.id api.digest → b = c

structure Genesis (api : ChainApi Json L) (seen : Block → Prop) (genesis : VerifiedBlock L) :
    Prop where
  height : genesis.block.height = 0
  named : genesis.block.id api.digest = .ok genesis.id
  seen : seen genesis.block
  receipts : genesis.receipts = []

variable {genesis : VerifiedBlock L} {seen : Block → Prop}

theorem Derived.named (hg : Genesis api seen genesis) {b : VerifiedBlock L}
    (hb : Derived api genesis seen b) :
    b.block.id api.digest = .ok b.id ∧ seen b.block := by
  grind [Derived, Genesis]

theorem saturatingSucc_ne_zero (height : UInt64) : saturatingSucc height ≠ 0 := by
  intro h
  have hnat := congrArg UInt64.toNat h
  rw [toNat_saturatingSucc] at hnat
  simp at hnat

theorem Derived.agrees (hg : Genesis api seen genesis) (hids : DistinctIds api seen)
    {b c : VerifiedBlock L} (hb : Derived api genesis seen b) (hc : Derived api genesis seen c)
    (hsame : b.id = c.id) : Agrees b c := by
  induction hb generalizing c with
  | genesis =>
    cases hc with
    | genesis => exact Agrees.refl _
    | extend hparent hfollows hnamed hseen =>
      have hblock := hids _ _ hg.seen hseen (by rw [hg.named, hnamed, hsame])
      have hheight := hfollows.height
      rw [← hblock, hg.height] at hheight
      exact absurd hheight.symm (saturatingSucc_ne_zero _)
  | @extend parent child hparent hfollows hnamed hseen ih =>
    cases hc with
    | genesis =>
      have hblock := hids _ _ hseen hg.seen (by rw [hg.named, hnamed, hsame])
      have hheight := hfollows.height
      rw [hblock, hg.height] at hheight
      exact absurd hheight.symm (saturatingSucc_ne_zero _)
    | @extend parent' _ hparent' hfollows' hnamed' hseen' =>
      have hblock := hids _ _ hseen hseen' (by rw [hnamed, hnamed', hsame])
      have hnames : parent.id = parent'.id := by
        rw [← hfollows.link, ← hfollows'.link, hblock]
      have hparents := ih hparent' hnames
      have hreplay := hfollows.replay
      rw [hparents.state, hblock, hfollows'.replay] at hreplay
      have hstate := congrArg fst (Except.ok.inj hreplay)
      exact ⟨hblock, hsame, hstate.symm⟩

end Derivations

section Soundness

variable (api) (genesis : VerifiedBlock L) (seen : Block → Prop)

/-- A parent that was read is derived, even if it is no longer held. -/
def Call.Sound : Call L → Prop
  | .finding id purpose => purpose.Parsed api id
  | .loading id purpose => purpose.Parsed api id
  | .loaded id parent purpose =>
    purpose.Parsed api id ∧ parent.id = id ∧ ∃ b, Derived api genesis seen b ∧ Agrees b parent
  | _ => True

structure Sound (s : Runtime L) : Prop where
  tip : Derived api genesis seen s.lastAccepted
  verified : ∀ id b, s.verified.lookup id = some b →
    b.id = id ∧ Derived api genesis seen b ∧ Block.decode b.bytes = .ok b.block
  stored : ∀ id bytes, s.db.blocks.lookup id = some bytes →
    ∃ b, Derived api genesis seen b ∧ b.id = id ∧ Block.decode bytes = .ok b.block ∧
      s.db.states.lookup id = some b.state
  calls : ∀ call ∈ s.calls, call.Sound api genesis seen

def Listed (s : Runtime L) : Prop :=
  seen s.lastAccepted.block ∧ ∀ id b, s.verified.lookup id = some b → seen b.block

variable {api genesis seen} {s t : Runtime L} {b : VerifiedBlock L}

theorem Listed.added (h : Listed seen (s.addVerified b)) : seen b.block :=
  h.2 b.id b (by simp [Runtime.addVerified])

theorem lookup_erase_eq_some {id other : Id} {rows : Table Id (VerifiedBlock L)}
    (h : (rows.erase id).lookup other = some b) :
    other ≠ id ∧ rows.lookup other = some b := by
  grind

theorem requeue_frame (api : ChainApi Json L) (transaction : Bytes) (s : Runtime L) :
    (requeue api transaction s).2.lastAccepted = s.lastAccepted ∧
      (requeue api transaction s).2.verified = s.verified ∧
      (requeue api transaction s).2.db = s.db ∧
      (requeue api transaction s).2.calls = s.calls := by
  cases hid : api.transactionId transaction with
  | error => simp [requeue, check, hid, bind]
  | ok id =>
    by_cases hlost : id ∉ s.lastAccepted.state.appliedTransactions ∧ id ∉ s.pending
    · simp [requeue, check, InPlace.modify, hid, bind, hlost]
    · simp [requeue, check, InPlace.modify, hid, bind, hlost]

theorem checked_ok {candidate parent b : VerifiedBlock L} {clock : Option ℕ}
    (hlink : candidate.block.parentId = parent.id)
    (h : checked api candidate parent clock = .ok b) :
    Follows api parent b ∧ b.block = candidate.block ∧ b.id = candidate.id ∧
      b.bytes = candidate.bytes := by
  simp only [checked, ok_iff] at h
  obtain ⟨hheight, htimestamp, _, _, _, ⟨state, receipts⟩, hreplay, rfl⟩ := h
  exact ⟨⟨hlink, hheight, htimestamp, hreplay⟩, rfl, rfl, rfl⟩

theorem timestamp_le_max (now timestamp : Int64) : timestamp ≤ max now timestamp := by
  change timestamp ≤ if now ≤ timestamp then timestamp else now
  by_cases h : now ≤ timestamp
  · rw [if_pos h]
    exact Int64.le_refl _
  · rw [if_neg h]
    exact Int64.le_of_lt (Int64.not_le.mp h)

section
variable (h : Sound api genesis seen s)
include h

theorem storedBlock_ok {id : Id} (hb : storedBlock api s id = .ok b) :
    b.id = id ∧ ∃ c, Derived api genesis seen c ∧ Agrees c b := by
  simp only [storedBlock, ok_iff] at hb
  obtain ⟨bytes, hbytes, parsed, hparsed, hid, state, hstate, _, _, rfl⟩ := hb
  obtain ⟨hdecode, hname, -⟩ := parseBlockBytes_ok hparsed
  obtain ⟨c, hc, hcid, hcblock, hcstate⟩ := h.stored id bytes hbytes
  refine ⟨hid, c, hc, ?_, hcid.trans hid.symm, ?_⟩
  · rw [hdecode] at hcblock
    exact (Except.ok.inj hcblock).symm
  · rw [hstate] at hcstate
    exact (Option.some.inj hcstate).symm

theorem inMemory_ok {id : Id}
    (hb : inMemory s id = some b) : b.id = id ∧ Derived api genesis seen b := by
  unfold inMemory at hb
  by_cases hid : s.lastAccepted.id = id
  · rw [if_pos hid, Option.some.injEq] at hb
    subst hb
    exact ⟨hid, h.tip⟩
  · grind [Sound]

theorem Sound.started {call : Call L}
    (hcall : Started api s call) : call.Sound api genesis seen := by
  cases call with
  | admitting => trivial
  | inserting => trivial
  | choosing => trivial
  | finding => exact hcall
  | loading id purpose =>
    have hfinding := h.calls (.finding id purpose) hcall
    exact hfinding
  | loaded id parent purpose =>
    rcases hcall with ⟨hmem, hparent⟩ | ⟨hmem, hparent⟩
    · obtain ⟨hid, hderived⟩ := inMemory_ok h hparent
      exact ⟨h.calls _ hmem, hid, parent, hderived, Agrees.refl parent⟩
    · exact ⟨h.calls _ hmem, storedBlock_ok h hparent⟩

theorem Sound.congr (htip : t.lastAccepted = s.lastAccepted)
    (hverified : t.verified = s.verified) (hdb : t.db = s.db)
    (hcalls : ∀ call ∈ t.calls, call ∈ s.calls ∨ Started api s call) :
    Sound api genesis seen t := by
  constructor
  · exact htip ▸ h.tip
  · exact hverified ▸ h.verified
  · exact hdb ▸ h.stored
  · intro call hcall
    rcases hcalls call hcall with hold | hnew
    · exact h.calls call hold
    · exact h.started hnew

theorem Sound.addVerified {parent b : VerifiedBlock L} (hlisted : Listed seen (s.addVerified b))
    (hparent : ∃ c, Derived api genesis seen c ∧ Agrees c parent) (hfollows : Follows api parent b)
    (hnamed : b.block.id api.digest = .ok b.id) (hdecode : Block.decode b.bytes = .ok b.block) :
    Sound api genesis seen (s.addVerified b) := by
  obtain ⟨c, hc, hagrees⟩ := hparent
  have hseen := hlisted.added
  refine ⟨h.tip, ?_, h.stored, h.calls⟩
  intro id d hd
  simp only [Runtime.addVerified, Table.lookup_insert_eq_ite] at hd
  by_cases hid : id = b.id
  · rw [if_pos hid, Option.some.injEq] at hd
    subst hd
    exact ⟨hid.symm, .extend hc (hfollows.of_agrees hagrees.symm) hnamed hseen, hdecode⟩
  · rw [if_neg hid] at hd
    exact h.verified id d hd

theorem Sound.drop (id : Id) : Sound api genesis seen { s with verified := s.verified.erase id } :=
  ⟨h.tip, fun other b hb => h.verified other b (lookup_erase_eq_some hb).2, h.stored, h.calls⟩

theorem Sound.accepted
    (hb : Derived api genesis seen b) (hdecode : Block.decode b.bytes = .ok b.block) :
    Sound api genesis seen (s.accepted api b.id b) := by
  refine ⟨hb, (h.drop b.id).verified, ?_, h.calls⟩
  intro id bytes hbytes
  simp only [Runtime.accepted, Table.lookup_insert_eq_ite] at hbytes ⊢
  by_cases hid : id = b.id
  · grind
  · simp only [if_neg hid] at hbytes ⊢
    exact h.stored id bytes hbytes

theorem Effect.sound {op : ChainOp} (heffect : Effect api s op t)
    (hlisted : Listed seen t) : Sound api genesis seen t := by
  cases heffect with
  | idle engineState preferred calls hcalls => exact h.congr rfl rfl rfl hcalls
  | inserted calls hcalls hcall hnew =>
    exact h.congr rfl rfl rfl fun call hmem => .inl (hcalls call hmem)
  | drained d calls hcalls hcall hclock hd hbuild hfail =>
    exact h.congr rfl rfl rfl fun call hmem => .inl (hcalls call hmem)
  | @built id blockId parent now bytes d calls hcalls hcall hd hbuild hbytes hid =>
    obtain ⟨-, -, hparent⟩ := h.calls _ hcall
    have hpools : Sound api genesis seen { s.setPools d.2 with calls } :=
      h.congr rfl rfl rfl fun call hmem => .inl (hcalls call hmem)
    have hreplay := drained_replays api s parent.state (max now parent.block.timestamp).toUInt64
    rw [← hd] at hreplay
    exact hpools.addVerified hlisted hparent ⟨rfl, rfl, timestamp_le_max _ _, hreplay⟩ hid
      (Block.decode_encode hbytes)
  | @verified id candidate parent b clock calls hcalls hcall hchecked =>
    obtain ⟨⟨hlink, hdecode, hnamed⟩, hid, hparent⟩ := h.calls _ hcall
    obtain ⟨hfollows, hblock, hname, hbytes⟩ := checked_ok (hlink.trans hid.symm) hchecked
    have hstop : Sound api genesis seen { s with calls } :=
      h.congr rfl rfl rfl fun call hmem => .inl (hcalls call hmem)
    exact hstop.addVerified hlisted hparent hfollows (by rw [hblock, hname, hnamed])
      (by rw [hbytes, hblock, hdecode])
  | @accepted id fault b hop hb hlink hheight =>
    obtain ⟨rfl, hderived, hdecode⟩ := h.verified id b hb
    exact h.accepted hderived hdecode
  | @rejected id b hb =>
    refine each_snd (fun transaction u hu => ?_) _ (h.drop id)
    obtain ⟨htip, hverified, hdb, hcalls⟩ := requeue_frame api transaction u
    exact hu.congr htip hverified hdb fun call hmem => .inl (hcalls ▸ hmem)

end

end Soundness

end DeFMI.Chain
