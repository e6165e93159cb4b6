import DeFMI.Chain.SyncRace
set_option autoImplicit false

/-!
An acceptance is one step of the chain in the other modules, and four steps of the
node that others run between: its checks, its read of the parent's state, its batch
and its update of the memory. Every run of the node ends where the run does in which
each acceptance is that one step.
-/

namespace DeFMI.Chain
open Lib InPlace Chain.Runtime

variable {Json L H : Type} {api : ChainApi Json L} {n : Node L H}

namespace Runtime

theorem accepted_eq (s : Runtime L) (id : Id) (block : VerifiedBlock L) :
    acceptedTip api id block { s with db := s.db.accepted id block } =
      s.accepted api id block := rfl

theorem storedBlock_congr {s t : Runtime L} (h : t.db = s.db) (id : Id) :
    Entry.storedBlock api t id = Entry.storedBlock api s id := by
  simp only [Entry.storedBlock, ChainApi.parseBlockBytes, h, bind_assoc, pure_bind]

/-- A read of `load_block` depends on the database and the waiting calls alone. -/
theorem perform_readsOnly (api : ChainApi Json L) {s : Runtime L} {op : ChainOp}
    (h : s.readsOnly op = true) :
    ∃ calls, ∀ t : Runtime L, t.calls = s.calls → t.db = s.db →
      (perform api op t).2 = { t with calls } := by
  unfold readsOnly at h
  split at h
  · next index clock fault =>
    split at h
    · next id purpose hcall =>
      have hresume : ∀ t : Runtime L, t.calls = s.calls →
          perform api (.resume index clock fault) t =
            Entry.loading api id purpose fault { t with calls := s.calls.eraseIdx index } := by
        intro t hcalls
        rw [perform, Entry.resume,
          check_bind_ok (a := .loading id purpose) (by simp [hcalls, hcall]), modify_bind, hcalls]
        rfl
      cases fault with
      | some error => exact ⟨_, fun t hcalls _ => congrArg Prod.snd (hresume t hcalls)⟩
      | none =>
        cases hstored : Entry.storedBlock api s id with
        | error e =>
          refine ⟨s.calls.eraseIdx index, fun t hcalls hdb => ?_⟩
          rw [hresume t hcalls, Entry.loading, check_bind_ok (f := fun _ => noFault none) rfl,
            check_bind_error (e := e) (by rw [storedBlock_congr (s := s) (by exact hdb), hstored])]
        | ok block =>
          refine ⟨s.calls.eraseIdx index ++ [.loaded id block purpose], fun t hcalls hdb => ?_⟩
          rw [hresume t hcalls, Entry.loading, check_bind_ok (f := fun _ => noFault none) rfl,
            check_bind_ok (a := block) (by rw [storedBlock_congr (s := s) (by exact hdb), hstored])]
          rfl
    · cases h
  · cases h

theorem perform_blockAccept (s : Runtime L) (id : Id) (fault : Option String) :
    (perform api (.blockAccept id fault) s).2 =
      match s.verified.lookup id with
      | none => s
      | some block =>
        if block.block.parentId = s.lastAccepted.id ∧
            block.block.height = saturatingSucc s.lastAccepted.block.height then
          match s.db.states.lookup s.lastAccepted.id, fault with
          | some _, none => s.accepted api id block
          | _, _ => s
        else s := by
  rw [perform, Entry.blockAccept]
  cases hb : s.verified.lookup id with
  | none => rw [check_bind_error (e := "accepted block was not verified") (by simp [hb, okOr])]
  | some block =>
    rw [check_bind_ok (a := block) (by simp [hb])]
    by_cases hextends : block.block.parentId = s.lastAccepted.id ∧
        block.block.height = saturatingSucc s.lastAccepted.block.height
    · rw [check_bind_ok (a := ()) (by simpa using hextends)]
      cases hstate : s.db.states.lookup s.lastAccepted.id with
      | none =>
        rw [check_bind_error (e := "not found") (by simp [hstate, okOr])]
        simp
      | some state =>
        rw [check_bind_ok (a := state) (by simp [hstate])]
        cases fault <;> simp only [hextends, and_self, if_true] <;> rfl
    · rw [check_bind_error (e := "accepted block does not extend the last accepted block")
        (by simp [require, hextends])]
      simp [hextends]
end Runtime

/-- The steps that neither take the lock nor wait for it. -/
def NodeOp.unlocked : NodeOp H → Bool
  | .fetch _ _ _ _ | .write _ _ => true
  | _ => false

namespace Node

/-- What the node comes to once the acceptance that holds the lock, if there is one, has updated
the memory; before its batch is written it leaves no trace. -/
def settled (api : ChainApi Json L) (n : Node L H) : Node L H :=
  match n.holder with
  | some (.accepting id block .written) =>
    { n with runtime := n.runtime.acceptedTip api id block, holder := none }
  | some (.accepting _ _ _) => { n with holder := none }
  | _ => n

def isAccepting (n : Node L H) : Bool :=
  match n.holder with
  | some (.accepting _ _ _) => true
  | _ => false

/-- What an acceptance has found stays true while it holds the lock. -/
def Guarded (n : Node L H) : Prop :=
  ∀ id block phase, n.holder = some (.accepting id block phase) →
    n.runtime.verified.lookup id = some block ∧
      (block.block.parentId = n.runtime.lastAccepted.id ∧
        block.block.height = saturatingSucc n.runtime.lastAccepted.block.height) ∧
      (phase = .checked ∨ (n.runtime.db.states.lookup n.runtime.lastAccepted.id).isSome = true)

theorem Guarded.of_not_accepting (h : n.isAccepting = false) : n.Guarded := by
  intro id block phase hholder
  simp [isAccepting, hholder] at h

theorem Guarded.of_same {m : Node L H} (h : n.Guarded) (hholder : m.holder = n.holder)
    (hverified : m.runtime.verified = n.runtime.verified)
    (htip : m.runtime.lastAccepted = n.runtime.lastAccepted)
    (hstates : ∀ id, (n.runtime.db.states.lookup id).isSome = true →
      (m.runtime.db.states.lookup id).isSome = true) : m.Guarded := by
  intro id block phase hphase
  rw [hverified, htip]
  obtain ⟨hb, hextends, hstate⟩ := h id block phase (hholder ▸ hphase)
  exact ⟨hb, hextends, hstate.imp_right (hstates _)⟩

theorem settled_of_not_accepting (h : n.isAccepting = false) : n.settled api = n := by
  unfold settled
  unfold isAccepting at h
  split <;> simp_all

section Atomicity

variable [DecidableEq H] {sync : SyncApi (ChainState L) H} {home : Home}

/-- A step of the node in which an acceptance is one step. -/
def atomicStep (api : ChainApi Json L) (sync : SyncApi (ChainState L) H) (home : Home)
    (op : NodeOp H) (n : Node L H) : Node L H :=
  match op with
  | .call op =>
    if n.holder.isNone = true ∨ n.runtime.readsOnly op = true then
      { n with runtime := (perform api op n.runtime).2 }
    else n
  | _ => n.step api sync home op

/-- What a step amounts to there. An acceptance takes place where it is refused or where its
batch is written; what waits for its lock does not take place. -/
def linearised (n : Node L H) (op : NodeOp H) : Option (NodeOp H) :=
  match n.holder, op with
  | some (.accepting id _ .checked), .acceptRead fault =>
    if (n.acceptRead fault).holder.isNone = true then some (.call (.blockAccept id fault)) else none
  | some (.accepting id _ .staged), .acceptWrite fault => some (.call (.blockAccept id fault))
  | some (.accepting _ _ _), .call call => if n.runtime.readsOnly call = true then some op else none
  | some (.accepting _ _ _), _ => if op.unlocked = true then some op else none
  | _, .call (.blockAccept id _) =>
    if (n.startAccept id).holder.isNone = true then some op else none
  | _, _ => some op

def atomicExec (api : ChainApi Json L) (sync : SyncApi (ChainState L) H) (home : Home)
    (op : NodeOp H) : InPlace (Node L H) Unit :=
  modify (atomicStep api sync home op)

def linearisation (api : ChainApi Json L) (sync : SyncApi (ChainState L) H) (home : Home) :
    Node L H → List (NodeOp H) → List (NodeOp H)
  | _, [] => []
  | n, op :: ops =>
    (n.linearised op).toList ++ linearisation api sync home (n.step api sync home op) ops

def Follows (api : ChainApi Json L) (sync : SyncApi (ChainState L) H) (home : Home)
    (n : Node L H) (op : NodeOp H) : Prop :=
  (n.step api sync home op).settled api =
      ((n.linearised op).map (atomicStep api sync home · (n.settled api))).getD (n.settled api) ∧
    (n.step api sync home op).Guarded

attribute [local simp] NodeOp.unlocked settled isAccepting atomicStep linearised step

theorem Guarded.follows_idle (h : n.Guarded) {op : NodeOp H} (hstep : n.step api sync home op = n)
    (hnone : n.linearised op = none) : Follows api sync home n op := by
  rw [Follows, hstep, hnone]
  exact ⟨rfl, h⟩

/-- With the lock free of acceptances, only the call that starts one is no step of its own. -/
theorem free_follows (hfree : n.isAccepting = false) (op : NodeOp H) :
    Follows api sync home n op := by
  by_cases hop : ∃ id fault, op = .call (.blockAccept id fault)
  · obtain ⟨id, fault, rfl⟩ := hop
    have hsettled : n.settled api = n := settled_of_not_accepting hfree
    cases hholder : n.holder with
    | some holder =>
      have hwaits : n.step api sync home (.call (.blockAccept id fault)) = n := by
        simp [call, readsOnly, hholder]
      rw [Follows, hwaits, hsettled]
      refine ⟨?_, .of_not_accepting hfree⟩
      cases holder with
      | accepting => simp [hholder] at hfree
      | summarising =>
        simp only [linearised, hholder]
        split <;> simp [readsOnly, hholder]
    | none =>
      have hsame : ({ n with holder := none } : Node L H) = n := by rw [← hholder]
      by_cases hstarts : ∃ block, n.runtime.verified.lookup id = some block ∧
          block.block.parentId = n.runtime.lastAccepted.id ∧
          block.block.height = saturatingSucc n.runtime.lastAccepted.block.height
      · obtain ⟨block, hb, hextends⟩ := hstarts
        have hstart : n.startAccept id =
            { n with holder := some (.accepting id block .checked) } := by
          simp [startAccept, hb, hextends]
        refine ⟨by simp [call, hstart, hholder, hsame], ?_⟩
        simp only [step, call, hholder, hstart, Option.isNone_none, true_or, if_true]
        rintro _ _ _ ⟨⟩
        exact ⟨hb, hextends, .inl rfl⟩
      · have hrefused : n.startAccept id = n ∧
            (perform api (.blockAccept id fault) n.runtime).2 = n.runtime := by
          rw [startAccept, perform_blockAccept]
          cases hb : n.runtime.verified.lookup id with
          | none => simp
          | some block =>
            have hextends := fun hextends => hstarts ⟨block, hb, hextends⟩
            simp only [if_neg hextends, and_self]
        refine ⟨?_, .of_not_accepting ?_⟩ <;> simp [call, hholder, hrefused, hsame]
  · have hlin : n.linearised op = some op := by
      unfold isAccepting at hfree
      unfold linearised
      split <;> simp_all
    have hatomic : n.atomicStep api sync home op = n.step api sync home op := by
      cases op with
      | call op =>
        cases op with
        | blockAccept => simp at hop
        | _ => rfl
      | _ => rfl
    have hnext : (n.step api sync home op).isAccepting = false := by
      cases op with
      | call op =>
        simp only [step, call]
        split
        · cases op with
          | blockAccept => simp at hop
          | _ => exact hfree
        · exact hfree
      | _ =>
        simp only [step, acceptRead, acceptWrite, acceptFinish, summaryStart, summaryWrite,
          summaryFinish, fetch, check, write, update, finish]
        split <;> first | exact hfree | rfl | (split <;> first | exact hfree | rfl | simp_all)
    rw [Follows, settled_of_not_accepting hnext, hlin, settled_of_not_accepting hfree]
    exact ⟨hatomic.symm, .of_not_accepting hnext⟩

section Accepting

variable {id : Id} {block : VerifiedBlock L} {phase : AcceptPhase} (h : n.Guarded)
  (hholder : n.holder = some (.accepting id block phase))
include h hholder

theorem call_follows (op : ChainOp) : Follows api sync home n (.call op) := by
  cases hreads : n.runtime.readsOnly op with
  | false =>
    exact h.follows_idle (by simp [call, hholder, hreads])
      (by cases phase <;> simp [hholder, hreads])
  | true =>
    obtain ⟨calls, hcalls⟩ := perform_readsOnly api hreads
    have hstep : n.step api sync home (.call op) =
        { n with runtime := { n.runtime with calls } } := by
      rw [← hcalls n.runtime rfl rfl]
      cases op with
      | resume => simp [call, hreads]
      | _ => simp [readsOnly] at hreads
    rw [Follows, hstep]
    refine ⟨?_, h.of_same rfl rfl rfl fun _ hstate => hstate⟩
    cases phase <;> simp [hholder, hreads, hcalls, acceptedTip, accepted]

theorem acceptRead_follows (fault : Option String) :
    Follows api sync home n (.acceptRead fault) := by
  obtain ⟨hb, hextends, -⟩ := h _ _ _ hholder
  cases phase with
  | staged | written => exact h.follows_idle (by simp [acceptRead, hholder]) (by simp [hholder])
  | checked =>
    cases hstate : n.runtime.db.states.lookup n.runtime.lastAccepted.id with
    | none =>
      refine ⟨?_, .of_not_accepting ?_⟩ <;>
        simp [acceptRead, hholder, hstate, perform_blockAccept, hb, hextends]
    | some state =>
      cases fault with
      | some error =>
        refine ⟨?_, .of_not_accepting ?_⟩ <;>
          simp [acceptRead, hholder, hstate, perform_blockAccept, hb, hextends]
      | none =>
        refine ⟨by simp [acceptRead, hholder, hstate], ?_⟩
        simp only [step, acceptRead, hholder, hstate]
        rintro _ _ _ ⟨⟩
        exact ⟨hb, hextends, .inr (by simp [hstate])⟩

/-- The batch is written where the acceptance takes place; the update of the memory is all that
is still missing. -/
theorem acceptWrite_follows (fault : Option String) :
    Follows api sync home n (.acceptWrite fault) := by
  obtain ⟨hb, hextends, hstate⟩ := h _ _ _ hholder
  cases phase with
  | checked | written => exact h.follows_idle (by simp [acceptWrite, hholder]) (by simp [hholder])
  | staged =>
    obtain ⟨state, hstate⟩ := Option.isSome_iff_exists.mp (hstate.resolve_left (by simp))
    cases fault with
    | some error =>
      refine ⟨?_, .of_not_accepting ?_⟩ <;>
        simp [acceptWrite, hholder, hstate, perform_blockAccept, hb, hextends]
    | none =>
      refine ⟨?_, ?_⟩
      · simp [acceptWrite, hholder, hstate, perform_blockAccept, hb, hextends, accepted_eq]
      · simp only [step, acceptWrite, hholder]
        rintro _ _ _ ⟨⟩
        refine ⟨hb, hextends, .inr ?_⟩
        simp only [ChainDb.accepted, Table.lookup_insert_eq_ite, hstate]
        split <;> simp

omit h hholder in
variable (api sync home) in
/-- Such a step sees the installers alone, and of the rest changes only the database. -/
theorem unlocked_step {op : NodeOp H} (hop : op.unlocked = true) (n : Node L H) :
    ∃ (installers : List (Installer L H)) (f : ChainDb L → ChainDb L),
      (∀ m : Node L H, m.installers = n.installers → m.step api sync home op =
        { m with installers, runtime := { m.runtime with db := f m.runtime.db } }) ∧
      ∀ db id, (db.states.lookup id).isSome = true → ((f db).states.lookup id).isSome = true := by
  cases op with
  | fetch index peers store fault =>
    refine ⟨(n.fetch api sync index peers store fault).installers, fun db => db, fun m hm => ?_,
      fun _ _ h => h⟩
    simp only [step, fetch, setInstaller, hm]
    split
    · split <;> rfl
    · rw [← hm]
  | write index fault =>
    refine ⟨(n.write index fault).installers,
      fun db => (write index fault { n with runtime := { n.runtime with db } }).runtime.db,
      fun m hm => ?_, fun db id h => ?_⟩
    · simp only [step, write, setInstaller, hm]
      split
      · split <;> rfl
      · rw [← hm]
    · simp only [write, setInstaller]
      split
      · split
        · simp only [ChainDb.installed, Table.lookup_insert_eq_ite]
          split <;> simp [h]
        · exact h
      · exact h
  | _ => simp at hop

theorem unlocked_follows {op : NodeOp H} (hop : op.unlocked = true) :
    Follows api sync home n op := by
  obtain ⟨installers, f, hstep, hstates⟩ := unlocked_step api sync home hop n
  have hlin : n.linearised op = some op := by
    cases op <;> simp_all
  have hatomic : ∀ m : Node L H, m.atomicStep api sync home op = m.step api sync home op := by
    cases op <;> simp_all
  have hsettled : (n.settled api).installers = n.installers := by
    cases phase <;> simp [hholder]
  rw [Follows, hstep n rfl, hlin]
  refine ⟨?_, h.of_same rfl rfl rfl fun id => hstates _ id⟩
  simp only [Option.map_some, Option.getD_some, hatomic, hstep _ hsettled]
  cases phase <;> simp [hholder, acceptedTip, accepted]

end Accepting

theorem step_follows (h : n.Guarded) (op : NodeOp H) : Follows api sync home n op := by
  cases hheld : n.isAccepting with
  | false => exact free_follows hheld op
  | true =>
    obtain ⟨id, block, phase, hholder⟩ : ∃ id block phase,
        n.holder = some (.accepting id block phase) := by
      unfold isAccepting at hheld
      split at hheld <;> simp_all
    cases op with
    | call op => exact call_follows h hholder op
    | acceptRead fault => exact acceptRead_follows h hholder fault
    | acceptWrite fault => exact acceptWrite_follows h hholder fault
    | acceptFinish =>
      cases phase with
      | checked | staged =>
        exact h.follows_idle (by simp [acceptFinish, hholder]) (by simp [hholder])
      | written => refine ⟨?_, .of_not_accepting ?_⟩ <;> simp [acceptFinish, hholder]
    | fetch | write => exact unlocked_follows h hholder rfl
    | summaryStart | summaryWrite | summaryFinish | check | update | finish =>
      refine h.follows_idle ?_ (by cases phase <;> simp [hholder])
      simp [summaryStart, summaryWrite, summaryFinish, check, update, finish, hholder]

/-- Whatever runs beside it, an acceptance is atomic: the node ends where the one does in which
the acceptances are single steps, each at the time of its batch. -/
theorem acceptance_atomic (hfree : n.holder = none) (ops : List (NodeOp H)) :
    (run (exec api sync home) n ops).settled api =
      run (atomicExec api sync home) n (linearisation api sync home n ops) := by
  suffices hrun : ∀ m : Node L H, m.Guarded → (run (exec api sync home) m ops).settled api =
      run (atomicExec api sync home) (m.settled api) (linearisation api sync home m ops) by
    simpa [hfree] using hrun n (.of_not_accepting (by simp [hfree]))
  induction ops with
  | nil => exact fun m _ => rfl
  | cons op ops ih =>
    intro m hm
    obtain ⟨hsettled, hnext⟩ : Follows api sync home m op := step_follows hm op
    rw [run_cons, linearisation, run_append]
    refine (ih _ hnext).trans (congrArg (run _ · _) (hsettled.trans ?_))
    cases m.linearised op <;> rfl

end Atomicity
end Node

/-- An installation writes its batch between the steps of an acceptance whose lock a second
acceptance waits for; a third one fails in its read. -/
def amongOps : List (NodeOp Tree) :=
  verifyOps 1 ++ syncOps 3 ++ fetchOps 3 ++ [.check 0,
    .call (.blockAccept (sampleId (chainName 1)) none), .update 0, .acceptRead none, .write 0 none,
    .call (.blockAccept (sampleId (chainName 1)) none), .acceptWrite none, .finish 0,
    .acceptFinish] ++ verifyOps 2 ++ [.call (.blockAccept (sampleId (chainName 2)) none),
    .acceptRead (some "i/o error")]

theorem acceptance_atomic_sample :
    (raceRun amongOps).settled sampleApi =
        run (Node.atomicExec sampleApi raceSync raceHome) raceStart
          (Node.linearisation sampleApi raceSync raceHome raceStart amongOps) ∧
      amongOps.length = 21 ∧
      (Node.linearisation sampleApi raceSync raceHome raceStart amongOps).length = 14 ∧
      (raceRun amongOps).runtime.lastAccepted.id = sampleId (chainName 1) :=
  ⟨Node.acceptance_atomic rfl amongOps, by decide +kernel⟩

end DeFMI.Chain
