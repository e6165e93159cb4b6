import DeFMI.Vm.Replay
set_option autoImplicit false

/-!
Standing note pools over whole runs. An allocation takes the current note of a pool
apart into an escrow note and a remainder, which is the next current note; so a pool is
a chain of notes, and what was registered is what the escrows and the last remainder
make up.
-/

namespace DeFMI
open Lib Participant InPlace Table AList StandingNotePoolAllocation

section Listings

variable {V : Type}

def NoteProductTx.allocations : NoteProductTx V → List (StandingNotePoolAllocation V)
  | .allocate _ _ a _ => [a]
  | .settleStanding _ _ a _ _ _ _ => [a]
  | _ => []

def LedgerTx.allocations : LedgerTx V → List (StandingNotePoolAllocation V)
  | .noteProduct tx => tx.allocations
  | _ => []

def LedgerTx.poolRegistrations : LedgerTx V → List (StandingNotePoolRegistration V)
  | .standingNotePool r _ => [r]
  | _ => []

def Tx.allocations : Tx V → List (StandingNotePoolAllocation V)
  | .ledger tx => tx.allocations
  | _ => []

def Tx.poolRegistrations : Tx V → List (StandingNotePoolRegistration V)
  | .ledger tx => tx.poolRegistrations
  | _ => []

def StandingNotePoolAllocation.escrowed [Zero V] (a : StandingNotePoolAllocation V) : V :=
  a.escrowNote.valueCommitment.decompress.getD 0

end Listings

namespace VmState

variable {V R : Type} {s t u : VmState V R} {now : ℕ} {approval : Approval}
  {a : StandingNotePoolAllocation V} {r : StandingNotePoolRegistration V}
  {allocations : List (StandingNotePoolAllocation V)}

structure PoolRegistered (r : StandingNotePoolRegistration V) (s t : VmState V R) : Prop where
  fresh : r.poolId ∉ s.standingNotePools
  pools : ∃ statement, t.standingNotePools = s.standingNotePools.insert r.poolId (r.record statement)
  note : ∃ note, t.notes.lookup r.poolNoteId = some note ∧ note.lockId = r.poolId ∧
    note.valueCommitment = r.maximumAmountCommitment

def allocationsFrom (poolId : Id) (allocations : List (StandingNotePoolAllocation V)) :
    List (StandingNotePoolAllocation V) :=
  allocations.filter (fun a => a.poolId = poolId)

/-- A note of a pool that is no longer its current one. -/
def PoolNoteUsed (s : VmState V R) (noteId : Id) : Prop :=
  ∃ note pool, s.notes.lookup noteId = some note ∧
    s.standingNotePools.lookup note.lockId = some pool ∧ pool.currentPoolNoteId ≠ noteId

variable [AddCommGroup V]

theorem PoolAllocated.trans (h : PoolAllocated a s t)
    (hnotes : t.notes.Keeps u.notes) (hpools : u.standingNotePools = t.standingNotePools) :
    PoolAllocated a s u :=
  { h with
    spent := hpools ▸ h.spent
    escrow := hnotes _ _ h.escrow
    remainder := hnotes _ _ h.remainder }

/-- What a transaction does to the pools: nothing, a new pool, or one allocation. -/
inductive PoolStep (s t : VmState V R) :
    List (StandingNotePoolRegistration V) → List (StandingNotePoolAllocation V) → Prop where
  | idle (hpools : t.standingNotePools = s.standingNotePools) : PoolStep s t [] []
  | register {r : StandingNotePoolRegistration V} (hr : PoolRegistered r s t) : PoolStep s t [r] []
  | allocate {a : StandingNotePoolAllocation V} (ha : PoolAllocated a s t) : PoolStep s t [] [a]

/-- A pool after these allocations: the sequence counts them, and the escrows with the
current note make up what was registered. -/
def PoolAccount (r : StandingNotePoolRegistration V)
    (allocations : List (StandingNotePoolAllocation V)) (s : VmState V R) : Prop :=
  ∃ pool note, s.standingNotePools.lookup r.poolId = some pool ∧
    pool.sequence = allocations.length ∧
    pool.maximumAmountCommitment = r.maximumAmountCommitment ∧
    s.notes.lookup pool.currentPoolNoteId = some note ∧ note.lockId = r.poolId ∧
    pool.maximumAmountCommitment.decompress = note.valueCommitment.decompress.map
      (fun rest => (allocations.map StandingNotePoolAllocation.escrowed).sum + rest)

theorem PoolRegistered.account (h : PoolRegistered r s t) : PoolAccount r [] t := by
  obtain ⟨statement, hpools⟩ := h.pools
  obtain ⟨note, hnote, hlock, hvalue⟩ := h.note
  refine ⟨r.record statement, note, ?_, rfl, rfl, hnote, hlock, ?_⟩
  · rw [hpools]
    exact lookup_insert ..
  · simp [StandingNotePoolRegistration.record, hvalue]

theorem PoolAccount.keep (h : PoolAccount r allocations s) (hnotes : s.notes.Keeps t.notes)
    (hpool : t.standingNotePools.lookup r.poolId = s.standingNotePools.lookup r.poolId) :
    PoolAccount r allocations t := by
  obtain ⟨pool, note, hrow, hsequence, hmaximum, hnote, hrest⟩ := h
  exact ⟨pool, note, hpool.trans hrow, hsequence, hmaximum, hnotes _ _ hnote, hrest⟩

theorem PoolAccount.allocate
    (h : PoolAccount r allocations s) (ha : PoolAllocated a s t) (hsame : a.poolId = r.poolId) :
    PoolAccount r (allocations ++ [a]) t := by
  obtain ⟨pool, note, hrow, hsequence, hmaximum, hnote, hlock, hsum⟩ := h
  obtain ⟨pool', note', hrow', hcurrent, hnote', _, hvalue, hpools⟩ := ha.spent
  obtain ⟨previous, child, remainder, hprevious, hchild, hremainder, hsplit⟩ := ha.values
  rw [hsame] at hrow'
  obtain rfl : pool' = pool := Option.some.inj (hrow'.symm.trans hrow)
  rw [hcurrent] at hnote
  obtain rfl : note' = note := Option.some.inj (hnote'.symm.trans hnote)
  refine ⟨pool'.advanced a.remainderNote.noteId, _, ?_, ?_, hmaximum, ha.remainder,
    ha.locked.trans hsame, ?_⟩
  · rw [hpools, hsame]
    exact lookup_insert ..
  · simp [StandingNotePoolRecord.advanced, hsequence]
  · have hescrowed : a.escrowed = child := by simp [escrowed, hchild]
    rw [hvalue, hprevious] at hsum
    simp only [StandingNotePoolRecord.advanced, hsum, hremainder, Option.map_some, List.map_append,
      List.map_singleton, List.sum_append, List.sum_singleton, hescrowed, hsplit, add_assoc]

theorem PoolAccount.step {allocations more : List (StandingNotePoolAllocation V)}
    {registrations : List (StandingNotePoolRegistration V)} (h : PoolAccount r allocations s)
    (hnotes : s.notes.Keeps t.notes) (hstep : PoolStep s t registrations more) :
    PoolAccount r (allocations ++ allocationsFrom r.poolId more) t := by
  cases hstep with
  | idle hpools => simpa [allocationsFrom] using h.keep hnotes (by rw [hpools])
  | @register other hother =>
    obtain ⟨pool, _, hrow, _⟩ := id h
    obtain ⟨statement, hpools⟩ := hother.pools
    have hne : r.poolId ≠ other.poolId := by
      intro heq
      rw [heq] at hrow
      exact hother.fresh (mem_of_lookup hrow)
    have hlookup := congrArg (lookup r.poolId) hpools
    rw [lookup_insert_ne hne] at hlookup
    simpa [allocationsFrom] using h.keep hnotes hlookup
  | @allocate a ha =>
    by_cases hsame : a.poolId = r.poolId
    · simpa [allocationsFrom, hsame] using h.allocate ha hsame
    · obtain ⟨_, _, _, _, _, _, _, hpools⟩ := ha.spent
      have hlookup := congrArg (lookup r.poolId) hpools
      rw [lookup_insert_ne (Ne.symm hsame)] at hlookup
      simpa [allocationsFrom, hsame] using h.keep hnotes hlookup

theorem PoolNoteUsed.step {noteId : Id} {registrations : List (StandingNotePoolRegistration V)}
    (h : s.PoolNoteUsed noteId)
    (hnotes : s.notes.Keeps t.notes) (hstep : PoolStep s t registrations allocations) :
    t.PoolNoteUsed noteId := by
  obtain ⟨note, pool, hnote, hpool, hne⟩ := h
  cases hstep with
  | idle hpools => exact ⟨note, pool, hnotes _ _ hnote, hpools ▸ hpool, hne⟩
  | register hr =>
    obtain ⟨statement, hpools⟩ := hr.pools
    refine ⟨note, pool, hnotes _ _ hnote, ?_, hne⟩
    rw [hpools]
    exact keeps_insert hr.fresh _ _ hpool
  | @allocate a ha =>
    obtain ⟨pool', _, hpool', _, _, _, _, hpools⟩ := ha.spent
    by_cases hsame : note.lockId = a.poolId
    · refine ⟨note, pool'.advanced a.remainderNote.noteId, hnotes _ _ hnote, ?_, ?_⟩
      · rw [hpools, hsame]
        exact lookup_insert ..
      · intro heq
        rw [← heq] at hnote
        exact ha.fresh (mem_of_lookup hnote)
    · refine ⟨note, pool, hnotes _ _ hnote, ?_, hne⟩
      rw [hpools, lookup_insert_ne hsame]
      exact hpool

theorem PoolAllocated.unused (h : PoolAllocated a s t) : ¬s.PoolNoteUsed a.previousPoolNoteId := by
  grind [PoolAllocated, PoolNoteUsed]

theorem PoolAllocated.used (h : PoolAllocated a s t)
    (hnotes : s.notes.Keeps t.notes) : t.PoolNoteUsed a.previousPoolNoteId := by
  obtain ⟨pool, note, _, _, hnote, hlock, _, hpools⟩ := h.spent
  refine ⟨note, pool.advanced a.remainderNote.noteId, hnotes _ _ hnote, ?_, ?_⟩
  · rw [hpools, hlock]
    exact lookup_insert ..
  · intro heq
    rw [← heq] at hnote
    exact h.fresh (mem_of_lookup hnote)

variable [DecidableEq V]

theorem insertNotes_lookup {api : NoteApi V} {hidden : Bool} {outputs : List (NoteOutput V)}
    (h : s.insertNotes api hidden outputs = .ok t) :
    ∀ output ∈ outputs, t.notes.lookup output.noteId = some output.toNoteRecord := by
  refine foldEach_each (fun output (t : VmState V R) =>
    t.notes.lookup output.noteId = some output.toNoteRecord) ?_ ?_ h
  · intro s t output hstep
    obtain ⟨_, rfl⟩ := insertNoteWithConfidentiality_ok hstep
    exact lookup_insert ..
  · intro s t output other hstep hother
    exact (insertNoteWithConfidentiality_still hstep).notes _ _ hother

theorem registerStandingNotePool_registered {api : NotesApi V R}
    (h : s.registerStandingNotePool api now r approval = .ok t) : PoolRegistered r s t := by
  simp only [registerStandingNotePool, applyNoteSpend, ok_iff] at h
  obtain ⟨hbody, statement, _, _, _, hfresh, _, _, _, _, v, ⟨w, hserial, hv⟩, rfl⟩ := h
  simp only [StandingNotePoolRegistration.body, ok_iff] at hbody
  obtain ⟨_, _, _, _, _, _, _, hlocks, _⟩ := hbody
  rw [not_or] at hfresh
  have hquiet := ((applyNoteSpendSerial_still hserial).trans (insertNotes_still hv)).toQuiet
  refine ⟨hfresh.2, ⟨statement, congrArg (insert _ _) hquiet.pools⟩, ?_⟩
  -- the one output locked to the pool is the note that the registration names
  have hmem : (r.poolNoteId, r.maximumAmountCommitment) ∈
      (r.spend.outputs.filter (fun output => output.lockId = r.poolId)).map
        (fun output => (output.noteId, output.valueCommitment)) := by
    rw [hlocks.1]
    exact List.mem_singleton_self _
  obtain ⟨output, houtput, heq⟩ := List.mem_map.mp hmem
  obtain ⟨hid, hvalue⟩ := Prod.mk.inj heq
  obtain ⟨houtput, hlock⟩ := List.mem_filter.mp houtput
  refine ⟨output.toNoteRecord, ?_, of_decide_eq_true hlock, hvalue⟩
  rw [← hid]
  exact insertNotes_lookup hv output houtput

variable [Module Scalar V]

theorem executeNoteProduct_pools {api : VmApi V R} {tx : NoteProductTx V}
    (h : s.executeNoteProduct api now tx = .ok t) : PoolStep s t [] tx.allocations := by
  cases tx with
  | allocate => exact .allocate (allocateStandingNotePool_ok h).toPoolAllocated
  | settle => exact .idle (applyNoteProductSettlement_step (settleNoteProduct_ok h)).2.pools
  | settleStanding =>
    obtain ⟨u, hu, ht⟩ := settleStandingPoolProduct_ok h
    obtain ⟨hstep, hbeside⟩ := applyNoteProductSettlement_step ht
    exact .allocate ((allocateStandingNotePool_ok hu).toPoolAllocated.trans hstep.notes hbeside.pools)
  | settleBatch => exact .idle (settleNoteProductBatch_step h).2.pools
  | release => exact .idle (releaseNoteProduct_step h).2.pools
  | releaseNoFill => exact .idle (releaseNoteProductNoFill_step h).2.pools

theorem execute_pools {api : ConfidentialApi V R}
    {optimistic : ApplicationNoteFill V → Check} {tx : LedgerTx V}
    (h : s.execute api optimistic now tx = .ok t) :
    PoolStep s t tx.poolRegistrations tx.allocations := by
  cases tx with
  | standingNotePool => exact .register (registerStandingNotePool_registered h)
  | admissionBatch => exact .idle (registerAdmissionBatch_step h).2
  | admissionAdvance => exact .idle (advanceAdmission_step h).2.1
  | productReservation => exact .idle (reserveProduct_step h).2.1
  | noteProductReservation =>
    exact .idle (reserveNoteProduct_step h).2.1
  | productRelease => exact .idle (releaseProduct_step h).2.pools
  | productSettlement => exact .idle (settleProduct_step h).2.pools
  | productSettlementBatch => exact .idle (settleProductBatch_step h).2.pools
  | noteProduct => exact executeNoteProduct_pools h
  | _ => exact .idle (execute_quiet h rfl).pools

end VmState

namespace HostState

variable {V O : Type} [AddCommGroup V] [Module Scalar V] [DecidableEq V]

theorem dispatch_pools {api : HostApi V O} {application : ApplicationRuntime V O}
    (hstays : application.StaysOut) {s t : HostState V O} {now : ℕ} {method : String} {tx : Tx V}
    (h : s.dispatch api application now method tx = .ok t) :
    VmState.PoolStep s.toVmState t.toVmState tx.poolRegistrations tx.allocations := by
  cases tx with
  | ledger =>
    simp only [dispatch] at h
    obtain ⟨ledger, hledger, rfl⟩ := onLedger_ok h
    exact VmState.execute_pools hledger
  | participantProductReservation =>
    obtain ⟨u, registry, hu, rfl⟩ := reserveProductWithMandate_ok h
    exact .idle (reserveUnderlying_step hu).2.1
  | application params => exact .idle (hstays s params now t h).pools
  | _ => exact .idle (dispatch_quiet h rfl).pools

variable {api : MachineApi V O} {application : ApplicationRuntime V O} {s t : HostState V O}

def allocationsOf (api : MachineApi V O) : Bytes → List (StandingNotePoolAllocation V) :=
  listed api Tx.allocations

def poolsOf (api : MachineApi V O) : Bytes → List (StandingNotePoolRegistration V) :=
  listed api Tx.poolRegistrations

section
variable (hstays : application.StaysOut)
include hstays

theorem transact_pools {bytes : Bytes} {now : ℕ} {receipt : TransitionReceipt}
    (h : applyWithApplication api application bytes now s = (.ok receipt, t)) :
    VmState.PoolStep s.toVmState t.toVmState (poolsOf api bytes) (allocationsOf api bytes) ∧
      s.notes.Keeps t.notes := by
  refine ⟨?_, (transact_kept hstays.appendOnly h).notes⟩
  obtain ⟨envelope, next, haccepted⟩ := applyWithApplication_ok h
  have hledger : t.toVmState = next.toVmState := by rw [haccepted.result]
  rw [hledger]
  simpa only [poolsOf, allocationsOf, listed, haccepted.decoded] using
    dispatch_pools hstays haccepted.dispatched

theorem transact_allocated {bytes : Bytes} {now : ℕ} {receipt : TransitionReceipt}
    (h : applyWithApplication api application bytes now s = (.ok receipt, t)) :
    ((allocationsOf api bytes).map previousPoolNoteId).Nodup ∧
      ∀ a ∈ allocationsOf api bytes, VmState.PoolAllocated a s.toVmState t.toVmState := by
  have hstep := (transact_pools hstays h).1
  revert hstep
  generalize poolsOf api bytes = registrations
  generalize allocationsOf api bytes = allocations
  intro hstep
  cases hstep with
  | idle => simp
  | register => simp
  | allocate ha => simpa using ha

theorem nodup_pool_notes (s : HostState V O) (calls : List (Bytes × ℕ)) :
    (((history (transact api application) s calls).flatMap
      (fun step => allocationsOf api step.op.1)).map
        previousPoolNoteId).Nodup := by
  rw [List.map_flatMap]
  refine (nodup_history_keys (fun _ => True)
    (fun (s : HostState V O) id => s.PoolNoteUsed id)
    (fun step => (allocationsOf api step.op.1).map previousPoolNoteId)
    ?_ ?_ calls trivial).1
  · intro s call receipt t _ h
    obtain ⟨hstep, hnotes⟩ := transact_pools hstays h
    obtain ⟨hnodup, hallocated⟩ := transact_allocated hstays h
    refine ⟨trivial, fun id hid => hid.step hnotes hstep, hnodup, ?_⟩
    intro id hid
    obtain ⟨a, ha, rfl⟩ := List.mem_map.mp hid
    exact ⟨(hallocated a ha).unused, (hallocated a ha).used hnotes⟩
  · exact fun s call e t _ h => transact_restores call s e t h

def PoolFollows (api : MachineApi V O) (r : StandingNotePoolRegistration V)
    (steps : List (Step (HostState V O) (Bytes × ℕ))) (t : HostState V O) : Prop :=
  VmState.PoolAccount r (VmState.allocationsFrom r.poolId
    (steps.flatMap (fun step => allocationsOf api step.op.1))) t.toVmState

theorem poolFollows_run {r : StandingNotePoolRegistration V}
    (hstart : PoolFollows api r [] s) (calls : List (Bytes × ℕ)) :
    PoolFollows api r (history (transact api application) s calls)
      (run (transact api application) s calls) := by
  have hstep : ∀ done u call receipt t, PoolFollows api r done u →
      transact api application call u = (.ok receipt, t) →
        PoolFollows api r (done ++ [⟨u, call, t⟩]) t := by
    intro done u call receipt t hu h
    obtain ⟨hstep, hnotes⟩ := transact_pools hstays h
    have hnext := VmState.PoolAccount.step hu hnotes hstep
    simpa [PoolFollows, VmState.allocationsFrom] using hnext
  exact history_invariant hstep (fun u call e t h => transact_restores call u e t h) calls
    hstart

end

/-- From the registration of a pool on and over every run: the sequence of the pool is
the number of its allocations, and what was registered is the sum of their escrows and
the current remainder. Each allocation spends the note that is current, whose value is
that of the new escrow and the new remainder together, and no note is spent by two. -/
theorem pools_account (api : MachineApi V O) (application : ApplicationRuntime V O)
    (hstays : application.StaysOut) (s t : HostState V O) (bytes : Bytes) (now : ℕ)
    (receipt : TransitionReceipt) (r : StandingNotePoolRegistration V)
    (h : applyWithApplication api application bytes now s = (.ok receipt, t))
    (hr : r ∈ poolsOf api bytes) (calls : List (Bytes × ℕ)) :
    PoolFollows api r (history (transact api application) t calls)
      (run (transact api application) t calls) ∧
    (∀ step ∈ history (transact api application) t calls,
      ∀ a ∈ allocationsOf api step.op.1,
        VmState.PoolAllocated a step.before.toVmState step.after.toVmState) ∧
    (((history (transact api application) t calls).flatMap
      (fun step => allocationsOf api step.op.1)).map
        StandingNotePoolAllocation.previousPoolNoteId).Nodup := by
  have hregistered : VmState.PoolRegistered r s.toVmState t.toVmState := by
    have hstep := (transact_pools hstays h).1
    revert hstep hr
    generalize poolsOf api bytes = registrations
    generalize allocationsOf api bytes = allocations
    intro hr hstep
    cases hstep with
    | idle => simp at hr
    | register hregistered => exact List.mem_singleton.mp hr ▸ hregistered
    | allocate => simp at hr
  refine ⟨poolFollows_run hstays hregistered.account calls, fun step hmem a ha => ?_,
    nodup_pool_notes hstays t calls⟩
  obtain ⟨_, _, _, _, hstep⟩ := exists_prefix_of_mem_history hmem
  exact (transact_allocated hstays hstep).2 a ha

end HostState

section Sample

def poolHost : HostState Plane Unit :=
  hostSample { vmReserved with
    participantRegistry := ParticipantRegistry.empty
    notes := vmReserved.notes.insert (vmId 32) ⟨vmId 2, vmId 32, clear 50, vmId 1, [], 0⟩
      |>.insert (vmId 33) ⟨vmId 2, vmId 33, clear 50, vmId 1, [], 0⟩ }

def poolNote (note lock : Id) (value : ℕ) : NoteOutput Plane :=
  ⟨⟨vmId 2, note, clear value, vmId 1, [], lock⟩, note⟩

def poolRegistration : StandingNotePoolRegistration Plane :=
  ⟨vmId 70, vmId 3, vmId 17, vmId 18, vmId 3, vmId 9, vmId 43, vmId 2, 1, clear 50, vmId 34, vmId 3, 1,
    90, ⟨vmId 2, [vmId 32, vmId 33], vmId 2, vmId 35, 0, vmId 36, [poolNote (vmId 34) (vmId 3) 50]⟩⟩

/-- Five of the pool go into the escrow of a Maker hold, for the `n`th time. -/
def poolAllocate (n : ℕ) (operation hold nullifier previous escrow rest : UInt8) : Tx Plane :=
  .ledger (.noteProduct (.allocate
    ⟨vmId operation, vmId 5, vmId hold, .hold, vmId 9, clear 5, 0, 0,
      ⟨clear (90 - 5 * n), clear (10 + 5 * n), 0⟩, ⟨clear (85 - 5 * n), clear (15 + 5 * n), 0⟩, 1 + n,
      80, 0, vmId 53⟩
    ⟨.maker, vmId 3, vmId 2, 1, vmId 9, vmId 43, vmId 72, vmId nullifier, vmId 74, 0, vmId 75, 0, 1, 0,
      0, 0, 0, 0, 0⟩
    ⟨vmId 3, vmId 3, 1, n, vmId previous, clear (50 - 5 * n), poolNote (vmId escrow) (vmId hold) 5,
      poolNote (vmId rest) (vmId 3) (45 - 5 * n), vmId 75, vmId 76, vmId 77, vmId 78, [], some []⟩
    ⟨vmId 90, [72]⟩))

def poolTxs : List (Tx Plane) :=
  [.ledger (.standingNotePool poolRegistration ⟨vmId 90, [70]⟩), poolAllocate 0 71 37 73 34 38 39,
    poolAllocate 1 79 80 81 39 82 83]

abbrev poolStep := sampleStep poolTxs

theorem pools_account_sample :
    (history poolStep poolHost [([0], 30), ([1], 31), ([2], 32)]).length = 3 ∧
      ∃ receipt t, poolStep ([0], 30) poolHost = (.ok receipt, t) ∧
        HostState.PoolFollows (machineSample poolTxs) poolRegistration
          (history poolStep t [([1], 31), ([2], 32)]) (run poolStep t [([1], 31), ([2], 32)]) := by
  refine ⟨by decide +kernel, ?_⟩
  have hok : (poolStep ([0], 30) poolHost).1.isOk = true := by decide +kernel
  cases h : poolStep ([0], 30) poolHost with
  | mk result t =>
    cases result with
    | error => simp [h, Except.isOk, Except.toBool] at hok
    | ok receipt =>
      exact ⟨receipt, t, rfl, (HostState.pools_account (machineSample poolTxs) noApplications
        noApplications_staysOut poolHost t [0] 30 receipt poolRegistration h
        (List.mem_singleton_self _) _).1⟩

end Sample
end DeFMI
