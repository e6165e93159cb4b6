import DeFMI.Vm.Replay
set_option autoImplicit false

/-!
Product reservations over whole runs: each is resolved at most once, in one of three
ways, on the right side of its expiry, and each request is closed at most once.
-/

namespace DeFMI
open Lib Participant InPlace

namespace HostState

variable {V O : Type} [AddCommGroup V] [Module Scalar V] [DecidableEq V] {api : MachineApi V O}
  {application : ApplicationRuntime V O} {s t : HostState V O} {bytes : Bytes} {now : ℕ}

def resolutionsOf (api : MachineApi V O) : Bytes → List Resolved := listed api Tx.resolutions

def requestsOf (api : MachineApi V O) : Bytes → List Id := listed api Tx.requests

section
variable (hstays : application.StaysOut)
include hstays

theorem transact_productStep {receipt : TransitionReceipt}
    (h : applyWithApplication api application bytes now s = (.ok receipt, t)) :
    VmState.ProductStep now (resolutionsOf api bytes) (requestsOf api bytes) s.toVmState
      t.toVmState := by
  obtain ⟨envelope, next, haccepted⟩ := applyWithApplication_ok h
  have hstep := dispatch_step hstays haccepted.dispatched
  have hledger : t.toVmState = next.toVmState := by rw [haccepted.result]
  rw [hledger]
  simpa only [resolutionsOf, requestsOf, listed, haccepted.decoded] using hstep

theorem history_productStep {calls : List (Bytes × ℕ)} {step : Step (HostState V O) (Bytes × ℕ)}
    (h : step ∈ history (transact api application) s calls) :
    VmState.ProductStep step.op.2 (resolutionsOf api step.op.1) (requestsOf api step.op.1)
      step.before.toVmState step.after.toVmState := by
  obtain ⟨_, receipt, _, _, hstep⟩ := exists_prefix_of_mem_history h
  exact transact_productStep hstays hstep

def Closed (s : HostState V O) (key : Rail × Id) : Prop :=
  ∃ status, status ≠ .active ∧ s.reservationStatus key = some status

theorem nodup_resolutions (s : HostState V O) (calls : List (Bytes × ℕ)) :
    (((history (transact api application) s calls).flatMap
      (fun step => resolutionsOf api step.op.1)).map Resolved.reservation).Nodup := by
  rw [List.map_flatMap]
  refine (nodup_history_keys (fun _ => True) Closed
    (fun step => (resolutionsOf api step.op.1).map Resolved.reservation) ?_ ?_ calls trivial).1
  · intro s call receipt t _ h
    have hresolves := (transact_productStep hstays h).resolves
    refine ⟨trivial, ?_, hresolves.nodup, ?_⟩
    · rintro key ⟨status, hdone, hstatus⟩
      exact ⟨status, hdone, (hresolves.keeps_resolved hstatus hdone).2⟩
    · intro key hkey
      obtain ⟨r, hr, rfl⟩ := List.mem_map.mp hkey
      constructor
      · rintro ⟨status, hdone, hstatus⟩
        exact hdone (hresolves.unresolved r hr status hstatus)
      · exact ⟨r.how.status, r.how.status_ne_active, hresolves.resolved r hr⟩
  · exact fun s call e t _ h => transact_restores call s e t h

theorem nodup_requests (s : HostState V O) (calls : List (Bytes × ℕ)) :
    ((history (transact api application) s calls).flatMap
      (fun step => requestsOf api step.op.1)).Nodup := by
  refine (nodup_history_keys (fun _ => True)
    (fun (s : HostState V O) id => id ∈ s.rfqNullifiers)
    (fun step => requestsOf api step.op.1) ?_ ?_ calls trivial).1
  · intro s call receipt t _ h
    have hstep := transact_productStep hstays h
    exact ⟨trivial, fun id hid => hstep.rfqNullifiers.mem hid, hstep.requestsNodup,
      hstep.requestsUsed⟩
  · exact fun s call e t _ h => transact_restores call s e t h

def HoldsStand (s t : HostState V O) : Prop := HoldsKept s.creditHolds t.creditHolds

theorem run_holds_stand (s : HostState V O) (calls : List (Bytes × ℕ)) :
    s.HoldsStand (run (transact api application) s calls) := by
  refine run_invariant ?_ ?_ calls (HoldsKept.refl _)
  · intro u call receipt t hu h
    exact HoldsKept.trans hu (transact_productStep hstays h).holds
  · intro u call e t hu h
    exact transact_restores call u e t h ▸ hu

end

/-- Over every run, whatever the block times: no product reservation is resolved twice;
a reservation changes its status only by a resolution listed for the transaction; a
settlement is not after the expiry of the hold, a timeout release is after it, and that
expiry never changes; and no request is closed twice. -/
theorem reservations_resolve_once (api : MachineApi V O) (application : ApplicationRuntime V O)
    (hstays : application.StaysOut) (s : HostState V O) (calls : List (Bytes × ℕ)) :
    (((history (transact api application) s calls).flatMap
      (fun step => resolutionsOf api step.op.1)).map Resolved.reservation).Nodup ∧
    (∀ step ∈ history (transact api application) s calls,
      (∀ key status, step.before.reservationStatus key = some status →
        step.after.reservationStatus key = some status ∨
          status = .active ∧ ∃ r ∈ resolutionsOf api step.op.1, r.reservation = key) ∧
      ∀ r ∈ resolutionsOf api step.op.1,
        step.after.reservationStatus r.reservation = some r.how.status ∧
        ∃ hold, step.after.creditHolds.lookup r.holdId = some hold ∧
          r.how.InTime step.op.2 hold.expiresAt) ∧
    s.HoldsStand (run (transact api application) s calls) ∧
    ((history (transact api application) s calls).flatMap
      (fun step => requestsOf api step.op.1)).Nodup := by
  refine ⟨nodup_resolutions hstays s calls, ?_, run_holds_stand hstays s calls,
    nodup_requests hstays s calls⟩
  intro step hmem
  have hstep := history_productStep hstays hmem
  refine ⟨fun key status hstatus => ?_, fun r hr => ⟨hstep.resolves.resolved r hr, hstep.inTime r hr⟩⟩
  by_cases hkey : key ∈ (resolutionsOf api step.op.1).map Resolved.reservation
  · obtain ⟨r, hr, rfl⟩ := List.mem_map.mp hkey
    exact Or.inr ⟨hstep.resolves.unresolved r hr status hstatus, r, hr, rfl⟩
  · exact Or.inl (hstep.resolves.others key status hkey hstatus)

end HostState

section Sample

def reservedHost : HostState Plane Unit :=
  hostSample { vmReserved with participantRegistry := ParticipantRegistry.empty }

/-- One settlement of two reservations, in two transactions. -/
def resolveTxs : List (Tx Plane) :=
  List.replicate 2 (.ledger (.noteProduct (vmSettle ⟨clear 97, 0, clear 3⟩)))

def resolved : List (Rail × Id) :=
  ((history (sampleStep resolveTxs) reservedHost [([0], 30), ([1], 31)]).flatMap
      (fun step => HostState.resolutionsOf (machineSample resolveTxs) step.op.1)).map
    Resolved.reservation

theorem reservations_resolve_once_sample :
    resolved.length = 2 ∧ resolved.Nodup ∧ reservedHost.HoldsStand
      (run (sampleStep resolveTxs) reservedHost [([0], 30), ([1], 31)]) := by
  have h := HostState.reservations_resolve_once (machineSample resolveTxs) noApplications
    noApplications_staysOut reservedHost [([0], 30), ([1], 31)]
  exact ⟨by decide +kernel, h.1, h.2.2.1⟩

end Sample
end DeFMI
