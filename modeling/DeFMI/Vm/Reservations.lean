import DeFMI.Vm.Frames
set_option autoImplicit false

/-!
The ways a product reservation ends. Each transaction has a list of the reservations
it resolves and of the requests it closes; a step relation says what that does to the
state, and it composes along batches and runs.
-/

namespace DeFMI
open Lib Participant List

/-- What backs a product reservation. -/
inductive Rail where
  | account
  | note
  deriving DecidableEq

inductive Ending where
  | settlement
  | timeout
  | noFill

def Ending.status : Ending → HoldStatus
  | .settlement => .consumed
  | .timeout => .released
  | .noFill => .released

def Ending.InTime (now expiresAt : ℕ) : Ending → Prop
  | .settlement => now ≤ expiresAt
  | .timeout => expiresAt < now
  | .noFill => now ≤ expiresAt

structure Resolved where
  rail : Rail
  holdId : Id
  how : Ending

def Resolved.reservation (r : Resolved) : Rail × Id := (r.rail, r.holdId)

theorem Ending.status_ne_active (r : Ending) : r.status ≠ .active := by
  cases r <;> simp [status]

namespace VmState

variable {V R : Type}

def reservationStatus (s : VmState V R) : Rail × Id → Option HoldStatus
  | (.account, holdId) => (s.reservationEscrows.lookup holdId).map ReservationEscrowRecord.status
  | (.note, holdId) => (s.noteReservations.lookup holdId).map NoteReservationRecord.status

section Statuses

variable {s t : VmState V R} {holdId : Id}

theorem reservationStatus_congr (hescrows : t.reservationEscrows = s.reservationEscrows)
    (hnotes : t.noteReservations = s.noteReservations) (key : Rail × Id) :
    t.reservationStatus key = s.reservationStatus key := by
  obtain ⟨rail, holdId⟩ := key
  cases rail with
  | account => simp [reservationStatus, hescrows]
  | note => simp [reservationStatus, hnotes]

theorem reservationStatus_escrow {row : ReservationEscrowRecord V}
    (hescrows : t.reservationEscrows = s.reservationEscrows.insert holdId row)
    (hnotes : t.noteReservations = s.noteReservations) (key : Rail × Id) :
    t.reservationStatus key =
      if key = (.account, holdId) then some row.status else s.reservationStatus key := by
  obtain ⟨rail, id⟩ := key
  cases rail with
  | account =>
    by_cases hid : id = holdId
    · subst hid
      simp [reservationStatus, hescrows]
    · simp [reservationStatus, hescrows, hid, AList.lookup_insert_ne hid]
  | note => simp [reservationStatus, hnotes]

theorem reservationStatus_note {row : NoteReservationRecord V}
    (hescrows : t.reservationEscrows = s.reservationEscrows)
    (hnotes : t.noteReservations = s.noteReservations.insert holdId row) (key : Rail × Id) :
    t.reservationStatus key =
      if key = (.note, holdId) then some row.status else s.reservationStatus key := by
  obtain ⟨rail, id⟩ := key
  cases rail with
  | account => simp [reservationStatus, hescrows]
  | note =>
    by_cases hid : id = holdId
    · subst hid
      simp [reservationStatus, hnotes]
    · simp [reservationStatus, hnotes, hid, AList.lookup_insert_ne hid]

end Statuses

structure Resolves (rs : List Resolved) (s t : VmState V R) : Prop where
  nodup : (rs.map Resolved.reservation).Nodup
  unresolved : ∀ r ∈ rs, ∀ status, s.reservationStatus r.reservation = some status →
    status = .active
  resolved : ∀ r ∈ rs, t.reservationStatus r.reservation = some r.how.status
  others : ∀ key status, key ∉ rs.map Resolved.reservation →
    s.reservationStatus key = some status → t.reservationStatus key = some status

namespace Resolves

variable {s t u : VmState V R} {rs rs' : List Resolved}

theorem none (h : ∀ key status, s.reservationStatus key = some status →
    t.reservationStatus key = some status) : Resolves [] s t where
  nodup := nodup_nil
  unresolved := by simp
  resolved := by simp
  others key status _ := h key status

theorem single {r : Resolved} (hactive : s.reservationStatus r.reservation = some .active)
    (h : ∀ key, t.reservationStatus key =
      if key = r.reservation then some r.how.status else s.reservationStatus key) :
    Resolves [r] s t where
  nodup := by simp
  unresolved := by
    grind
  resolved := by
    intro r' hr'
    obtain rfl := mem_singleton.mp hr'
    simp [h]
  others := by
    grind

theorem congr (h : Resolves rs s t)
    (heq : ∀ key, u.reservationStatus key = t.reservationStatus key) : Resolves rs s u where
  nodup := h.nodup
  unresolved := h.unresolved
  resolved r hr := (heq _).trans (h.resolved r hr)
  others key status hkey hstatus := (heq key).trans (h.others key status hkey hstatus)

theorem keeps_resolved (h : Resolves rs s t) {key : Rail × Id} {status : HoldStatus}
    (hstatus : s.reservationStatus key = some status) (hdone : status ≠ .active) :
    key ∉ rs.map Resolved.reservation ∧ t.reservationStatus key = some status := by
  grind [Resolves]

theorem trans (hst : Resolves rs s t) (htu : Resolves rs' t u) : Resolves (rs ++ rs') s u := by
  have hresolved : ∀ r ∈ rs, r.reservation ∉ rs'.map Resolved.reservation ∧
      u.reservationStatus r.reservation = some r.how.status := fun r hr =>
    htu.keeps_resolved (hst.resolved r hr) r.how.status_ne_active
  constructor
  · grind [Resolves]
  · grind [Resolves]
  · grind [Resolves]
  · grind [Resolves]

theorem of_foldEach {α : Type} {step : VmState V R → α → Result (VmState V R)}
    (result : α → Resolved)
    (hstep : ∀ s t a, step s a = .ok t → ∀ key, t.reservationStatus key =
      if key = (result a).reservation then some (result a).how.status
      else s.reservationStatus key) {as : List α} (h : foldEach step s as = .ok t)
    (hnodup : ((as.map result).map Resolved.reservation).Nodup)
    (hactive : ∀ a ∈ as, s.reservationStatus (result a).reservation = some .active) :
    Resolves (as.map result) s t := by
  induction as generalizing s with
  | nil =>
    rw [foldEach_nil] at h
    subst h
    exact none (fun _ _ h => h)
  | cons a as ih =>
    rw [foldEach_cons] at h
    obtain ⟨v, hv, ht⟩ := h
    rw [map_cons, map_cons, nodup_cons] at hnodup
    have hfirst : Resolves [result a] s v :=
      single (hactive a mem_cons_self) (hstep s v a hv)
    refine hfirst.trans (ih ht hnodup.2 ?_)
    intro b hb
    have hne : (result b).reservation ≠ (result a).reservation := fun heq =>
      hnodup.1 (heq ▸ mem_map_of_mem (mem_map_of_mem hb))
    rw [hstep s v a hv, if_neg hne]
    exact hactive b (mem_cons_of_mem _ hb)

end Resolves

structure ProductStep (now : ℕ) (rs : List Resolved) (requests : List Id) (s t : VmState V R) : Prop
    extends s.Extends t where
  holds : HoldsKept s.creditHolds t.creditHolds
  resolves : Resolves rs s t
  inTime : ∀ r ∈ rs, ∃ hold, t.creditHolds.lookup r.holdId = some hold ∧
    r.how.InTime now hold.expiresAt
  requestsNodup : requests.Nodup
  requestsUsed : ∀ id ∈ requests, id ∉ s.rfqNullifiers ∧ id ∈ t.rfqNullifiers

variable {s t : VmState V R} {now : ℕ}

theorem ProductStep.trans {rs rs' : List Resolved} {requests requests' : List Id}
    {s t u : VmState V R} (hst : ProductStep now rs requests s t)
    (htu : ProductStep now rs' requests' t u) :
    ProductStep now (rs ++ rs') (requests ++ requests') s u where
  toExtends := hst.toExtends.trans htu.toExtends
  holds := hst.holds.trans htu.holds
  resolves := hst.resolves.trans htu.resolves
  inTime := by
    intro r hr
    rcases mem_append.mp hr with hr | hr
    · obtain ⟨hold, hhold, htime⟩ := hst.inTime r hr
      obtain ⟨hold', hhold', hexpiry⟩ := htu.holds _ hold hhold
      exact ⟨hold', hhold', hexpiry ▸ htime⟩
    · exact htu.inTime r hr
  requestsNodup := by
    grind [ProductStep]
  requestsUsed := by
    intro id hid
    rcases mem_append.mp hid with hid | hid
    · obtain ⟨hfresh, hused⟩ := hst.requestsUsed id hid
      exact ⟨hfresh, htu.rfqNullifiers.mem hused⟩
    · obtain ⟨hfresh, hused⟩ := htu.requestsUsed id hid
      exact ⟨fun hmem => hfresh (hst.rfqNullifiers.mem hmem), hused⟩

theorem ProductStep.of_unresolved (hext : s.Extends t)
    (hholds : HoldsKept s.creditHolds t.creditHolds)
    (hstatus : ∀ key status, s.reservationStatus key = some status →
      t.reservationStatus key = some status) : ProductStep now [] [] s t where
  toExtends := hext
  holds := hholds
  resolves := .none hstatus
  inTime := by simp
  requestsNodup := nodup_nil
  requestsUsed := by simp

theorem ProductStep.of_foldEach {α : Type}
    {step : VmState V R → α → Result (VmState V R)} (rs : α → List Resolved)
    (requests : α → List Id)
    (hstep : ∀ s t a, step s a = .ok t → ProductStep now (rs a) (requests a) s t) {as : List α}
    (h : foldEach step s as = .ok t) :
    ProductStep now (as.flatMap rs) (as.flatMap requests) s t := by
  induction as generalizing s with
  | nil =>
    rw [foldEach_nil] at h
    subst h
    exact .of_unresolved (.refl s) (.refl _) (fun _ _ hstatus => hstatus)
  | cons a as ih =>
    rw [foldEach_cons] at h
    obtain ⟨u, hu, ht⟩ := h
    exact (hstep s u a hu).trans (ih ht)

theorem ProductStep.of_same (hext : s.Extends t) (hholds : HoldsKept s.creditHolds t.creditHolds)
    (hescrows : t.reservationEscrows = s.reservationEscrows)
    (hnotes : t.noteReservations = s.noteReservations) : ProductStep now [] [] s t :=
  .of_unresolved hext hholds fun key _ hstatus =>
    (reservationStatus_congr hescrows hnotes key).trans hstatus

theorem Quiet.productStep (h : s.Quiet t) : ProductStep now [] [] s t :=
  .of_same h.toExtends h.holds h.escrows h.noteReservations

structure Beside (s t : VmState V R) : Prop where
  pools : t.standingNotePools = s.standingNotePools
  batches : t.admissionBatches = s.admissionBatches
  entries : t.admissionEntries = s.admissionEntries

theorem Beside.refl (s : VmState V R) : s.Beside s := ⟨rfl, rfl, rfl⟩

theorem Beside.trans {s t u : VmState V R} (hst : s.Beside t) (htu : t.Beside u) : s.Beside u :=
  ⟨htu.pools.trans hst.pools, htu.batches.trans hst.batches, htu.entries.trans hst.entries⟩

theorem Quiet.beside (h : s.Quiet t) : s.Beside t :=
  ⟨h.pools, h.batches, h.entries⟩

end VmState
end DeFMI
