import DeFMI.Vm.Replay
set_option autoImplicit false

/-!
Admission over whole runs. The plans registered so far and the lanes taken so far say
what the two admission tables hold: each batch is taken in the order of its plan, and
the plans of a venue epoch number the lanes 1, 2, 3, … between them.
-/

namespace DeFMI
open Lib Participant InPlace AList List VmState AdmissionBatchPlan ReservationAuthorization

def AdmissionBatchPlan.sequences (plan : AdmissionBatchPlan) : List ℕ :=
  List.range' plan.firstSequence plan.admissionDigests.length

def epochPlans (venueId : Id) (epoch : ℕ) (plans : List AdmissionBatchPlan) :
    List AdmissionBatchPlan :=
  plans.filter (fun plan => plan.venueId = venueId && plan.epoch = epoch)

def takenFrom (batchId : Id) (taken : List (Id × ℕ)) : List ℕ :=
  (taken.filter (fun lane => lane.1 = batchId)).map Prod.snd

section Lists

variable {venueId batchId : Id} {epoch : ℕ} {plans : List AdmissionBatchPlan}
  {plan : AdmissionBatchPlan} {taken : List (Id × ℕ)}

theorem mem_epochPlans : plan ∈ epochPlans venueId epoch plans ↔
    plan ∈ plans ∧ plan.venueId = venueId ∧ plan.epoch = epoch := by
  simp [epochPlans]

theorem epochPlans_append (more : List AdmissionBatchPlan) :
    epochPlans venueId epoch (plans ++ more) =
      epochPlans venueId epoch plans ++ epochPlans venueId epoch more := by
  simp [epochPlans]

theorem takenFrom_append_same (n : ℕ) :
    takenFrom batchId (taken ++ [(batchId, n)]) = takenFrom batchId taken ++ [n] := by
  simp [takenFrom]

theorem takenFrom_append_ne {lane : Id × ℕ} (h : lane.1 ≠ batchId) :
    takenFrom batchId (taken ++ [lane]) = takenFrom batchId taken := by
  simp [takenFrom, h]

theorem mem_sequences {n : ℕ} : n ∈ plan.sequences ↔
    plan.firstSequence ≤ n ∧ n < plan.firstSequence + plan.admissionDigests.length := by
  simp [sequences, mem_range'_1]

theorem range'_start_eq {a b n : ℕ} (hn : 0 < n)
    (h : ∀ x, x ∈ range' a n ↔ x ∈ range' b n) : a = b := by
  have ha := (h a).mp (by simp [mem_range'_1]; omega)
  have hb := (h b).mpr (by simp [mem_range'_1]; omega)
  simp only [mem_range'_1] at ha hb
  omega

theorem eq_range'_of_zipIdx {l : List ℕ} {a : ℕ} (h : ∀ e ∈ l.zipIdx, e.1 = a + e.2) :
    l = range' a l.length := by
  refine ext_getElem (by simp) fun i hi _ => ?_
  have hmem : (l[i], i) ∈ l.zipIdx := mem_zipIdx_iff_getElem?.mpr (by simp [hi])
  simpa using h _ hmem

theorem foldr_max_eq {l : List ℕ} {n : ℕ} (hle : ∀ x ∈ l, x ≤ n) (hn : n ∈ l ∨ n = 0) :
    l.foldr max 0 = n := by
  refine Nat.le_antisymm (max_le_of_forall_le l n hle) ?_
  rcases hn with hn | rfl
  · exact le_max_of_le' 0 hn le_rfl
  · exact Nat.zero_le _

end Lists

namespace VmState

variable {V R : Type} {plans : List AdmissionBatchPlan} {taken : List (Id × ℕ)}
  {s t : VmState V R} {batchId : Id} {sequence : ℕ}

structure Follows (plan : AdmissionBatchPlan) (taken : List (Id × ℕ)) (batch : RegisteredBatch) :
    Prop where
  venue : batch.venueId = plan.venueId
  epoch : batch.epoch = plan.epoch
  population : batch.population = plan.admissionDigests.length
  inOrder : takenFrom plan.batchId taken = List.range' plan.firstSequence batch.consumed
  bounded : batch.consumed ≤ batch.population

/-- The admission tables after `plans` were registered and the lanes `taken` were taken,
both in this order. -/
structure AdmissionOrder (plans : List AdmissionBatchPlan) (taken : List (Id × ℕ))
    (s : VmState V R) : Prop where
  identifiers : (plans.map AdmissionBatchPlan.batchId).Nodup
  batches : ∀ plan ∈ plans, ∃ batch, s.admissionBatches.lookup plan.batchId = some batch ∧
    Follows plan taken batch
  known : ∀ id ∈ s.admissionBatches, ∃ plan ∈ plans, plan.batchId = id
  entries : ∀ plan ∈ plans, ∀ i digest, plan.admissionDigests[i]? = some digest →
    ∃ entry, s.admissionEntries.lookup (plan.batchId, plan.firstSequence + i) = some entry ∧
      entry.admissionDigest = digest ∧
      (entry.consumedBy ≠ 0 ↔ (plan.batchId, plan.firstSequence + i) ∈ taken)
  planned : ∀ id n, (id, n) ∈ s.admissionEntries →
    ∃ plan ∈ plans, plan.batchId = id ∧ n ∈ plan.sequences
  lanes : ∀ lane ∈ taken, ∃ plan ∈ plans, plan.batchId = lane.1 ∧ lane.2 ∈ plan.sequences
  contiguous : ∀ venueId epoch,
    (epochPlans venueId epoch plans).flatMap AdmissionBatchPlan.sequences =
      List.range' 1 ((epochPlans venueId epoch plans).map
        (fun plan => plan.admissionDigests.length)).sum

theorem AdmissionOrder.empty (hbatches : s.admissionBatches = ∅) (hentries : s.admissionEntries = ∅) :
    AdmissionOrder [] [] s where
  identifiers := nodup_nil
  batches := by simp
  known id hid := by simp [hbatches] at hid
  entries := by simp
  planned id n hn := by simp [hentries] at hn
  lanes := by simp
  contiguous _ _ := rfl

theorem AdmissionOrder.congr (h : AdmissionOrder plans taken s)
    (hbatches : t.admissionBatches = s.admissionBatches)
    (hentries : t.admissionEntries = s.admissionEntries) : AdmissionOrder plans taken t where
  identifiers := h.identifiers
  batches := hbatches ▸ h.batches
  known := hbatches ▸ h.known
  entries := hentries ▸ h.entries
  planned := hentries ▸ h.planned
  lanes := h.lanes
  contiguous := h.contiguous

theorem AdmissionOrder.plan_unique (h : AdmissionOrder plans taken s) {p q : AdmissionBatchPlan}
    (hp : p ∈ plans) (hq : q ∈ plans) (heq : p.batchId = q.batchId) : p = q :=
  inj_on_of_nodup_map h.identifiers hp hq heq

variable {plan : AdmissionBatchPlan} {batch : RegisteredBatch}

theorem AdmissionOrder.mem_entries (h : AdmissionOrder plans taken s)
    (hplan : plan ∈ plans) (n : ℕ) :
    (plan.batchId, n) ∈ s.admissionEntries ↔ n ∈ plan.sequences := by
  constructor
  · intro hn
    obtain ⟨other, hother, heq, hmem⟩ := h.planned _ _ hn
    rwa [h.plan_unique hother hplan heq] at hmem
  · intro hn
    obtain ⟨hle, hlt⟩ := mem_sequences.mp hn
    have hi : n - plan.firstSequence < plan.admissionDigests.length := by omega
    obtain ⟨entry, hentry, _⟩ := h.entries plan hplan _ _ (List.getElem?_eq_getElem hi)
    rw [Nat.add_sub_cancel' hle] at hentry
    exact lookup_isSome.mp (by simp [hentry])

theorem mem_lanes_fst {id : Id} {n : ℕ} :
    n ∈ (s.lanes id).map Prod.fst ↔ (id, n) ∈ s.admissionEntries := by
  have hkeys : (id, n) ∈ s.admissionEntries ↔ ∃ entry, ⟨(id, n), entry⟩ ∈ s.admissionEntries.entries :=
    mem_keys
  rw [hkeys]
  constructor
  · intro h
    obtain ⟨⟨m, entry⟩, hmem, rfl⟩ := mem_map.mp h
    simp only [lanes, mem_insertionSort, mem_map, mem_filter] at hmem
    obtain ⟨⟨⟨id', m'⟩, entry'⟩, ⟨hrow, hid⟩, heq⟩ := hmem
    simp only [decide_eq_true_eq, Prod.mk.injEq] at hid heq
    obtain ⟨rfl, rfl⟩ := heq
    subst hid
    exact ⟨_, hrow⟩
  · rintro ⟨entry, hrow⟩
    refine mem_map.mpr ⟨(n, entry), ?_, rfl⟩
    simp only [lanes, mem_insertionSort, mem_map, mem_filter]
    exact ⟨_, ⟨hrow, by simp⟩, rfl⟩

theorem AdmissionOrder.window (h : AdmissionOrder plans taken s) {next last : ℕ}
    (hplan : plan ∈ plans)
    (hbatch : s.admissionBatches.lookup plan.batchId = some batch)
    (hwindow : s.admissionBatchSequenceWindow plan.batchId batch = .ok (next, last)) :
    next = plan.firstSequence + batch.consumed ∧
      last + 1 = plan.firstSequence + plan.admissionDigests.length := by
  simp only [admissionBatchSequenceWindow, ok_iff, Prod.mk.injEq] at hwindow
  obtain ⟨hlength, first, hfirst, hcount, final, hfinal, _, rfl, rfl⟩ := hwindow
  obtain ⟨batch', hbatch', hfollows⟩ := h.batches plan hplan
  obtain rfl : batch' = batch := Option.some.inj (hbatch'.symm.trans hbatch)
  have hrange := eq_range'_of_zipIdx hcount
  rw [hlength, hfollows.population] at hrange
  have hpos : 0 < plan.admissionDigests.length := by
    grind
  have hstart : first = plan.firstSequence := by
    refine range'_start_eq hpos fun n => ?_
    rw [← hrange, mem_lanes_fst, h.mem_entries hplan]
    rfl
  subst hstart
  rw [hrange, getLast?_range'] at hfinal
  refine ⟨rfl, ?_⟩
  simp [Nat.ne_of_gt hpos] at hfinal
  omega

structure LaneTaken (batchId : Id) (sequence : ℕ) (s t : VmState V R) : Prop where
  taken : ∃ batch entry consumer last, s.admissionBatches.lookup batchId = some batch ∧
    s.admissionBatchSequenceWindow batchId batch = .ok (sequence, last) ∧ sequence ≤ last ∧
    s.admissionEntries.lookup (batchId, sequence) = some entry ∧ consumer ≠ 0 ∧
    t.admissionEntries = s.admissionEntries.insert (batchId, sequence)
      { entry with consumedBy := consumer } ∧
    t.admissionBatches = s.admissionBatches.insert batchId
      { batch with consumed := batch.consumed + 1 }

theorem Follows.take
    (h : Follows plan taken batch) (hnext : sequence = plan.firstSequence + batch.consumed)
    (hroom : batch.consumed < plan.admissionDigests.length) :
    Follows plan (taken ++ [(plan.batchId, sequence)])
      { batch with consumed := batch.consumed + 1 } where
  venue := h.venue
  epoch := h.epoch
  population := h.population
  inOrder := by
    rw [takenFrom_append_same, h.inOrder, range'_concat, hnext, Nat.one_mul]
  bounded := by
    have hpopulation := h.population
    simp only
    omega

theorem Follows.skip {lane : Id × ℕ} (h : Follows plan taken batch) (hne : lane.1 ≠ plan.batchId) :
    Follows plan (taken ++ [lane]) batch :=
  { h with inOrder := (takenFrom_append_ne hne).trans h.inOrder }

theorem AdmissionOrder.take (h : AdmissionOrder plans taken s) (hstep : LaneTaken batchId sequence s t) :
    AdmissionOrder plans (taken ++ [(batchId, sequence)]) t := by
  obtain ⟨batch, entry, consumer, last, hbatch, hwindow, hlast, hentry, hconsumer, hentries,
    hbatches⟩ := hstep.taken
  obtain ⟨plan, hplan, rfl⟩ := h.known batchId (lookup_isSome.mp (by simp [hbatch]))
  obtain ⟨hnext, hend⟩ := h.window hplan hbatch hwindow
  have hlane : sequence ∈ plan.sequences := by
    rw [mem_sequences]
    omega
  refine ⟨h.identifiers, ?_, ?_, ?_, ?_, ?_, h.contiguous⟩
  · intro other hother
    obtain ⟨record, hrecord, hfollows⟩ := h.batches other hother
    rw [hbatches]
    by_cases hsame : other.batchId = plan.batchId
    · obtain rfl := h.plan_unique hother hplan hsame
      obtain rfl : record = batch := Option.some.inj (hrecord.symm.trans hbatch)
      exact ⟨_, lookup_insert .., hfollows.take hnext (by omega)⟩
    · exact ⟨record, (lookup_insert_ne hsame).trans hrecord, hfollows.skip (Ne.symm hsame)⟩
  · grind [AdmissionOrder, LaneTaken]
  · grind [AdmissionOrder, LaneTaken]
  · grind [AdmissionOrder, LaneTaken]
  · grind [AdmissionOrder, LaneTaken]

section NewBatch

variable {plan : AdmissionBatchPlan} {statement : Id}

theorem addBatch_entry (i : ℕ) (digest : Id) (h : plan.admissionDigests[i]? = some digest) :
    (s.addBatch plan statement).admissionEntries.lookup (plan.batchId, plan.firstSequence + i) =
      some ⟨digest, 0⟩ := by
  have hkeys : (plan.admissionDigests.zipIdx.map
      (fun l => (plan.batchId, plan.firstSequence + l.2))).Nodup := by
    have hindex : (plan.admissionDigests.zipIdx.map Prod.snd).Nodup := by
      rw [zipIdx_map_snd]
      exact nodup_range'
    refine (nodup_map_iff_inj_on (Nodup.of_map _ hindex)).mpr ?_
    intro a ha b hb heq
    simp only [Prod.mk.injEq, true_and, Nat.add_left_cancel_iff] at heq
    exact inj_on_of_nodup_map hindex ha hb heq
  have hmem : (digest, i) ∈ plan.admissionDigests.zipIdx := mem_zipIdx_iff_getElem?.mpr h
  exact Table.lookup_foldl_insert_of_mem
    (fun l : Id × ℕ => (plan.batchId, plan.firstSequence + l.2))
    (fun l => (⟨l.1, 0⟩ : AdmissionEntryRecord)) hkeys hmem s.admissionEntries

theorem addBatch_entry_ne {key : Id × ℕ}
    (h : ¬(key.1 = plan.batchId ∧ key.2 ∈ plan.sequences)) :
    (s.addBatch plan statement).admissionEntries.lookup key = s.admissionEntries.lookup key := by
  refine Table.lookup_foldl_insert_of_ne
    (fun l : Id × ℕ => (plan.batchId, plan.firstSequence + l.2))
    (fun l => (⟨l.1, 0⟩ : AdmissionEntryRecord)) ?_ s.admissionEntries
  rintro ⟨digest, i⟩ hl rfl
  have hi := (List.getElem?_eq_some_iff.mp (mem_zipIdx_iff_getElem?.mp hl)).1
  exact h ⟨rfl, mem_sequences.mpr ⟨by simp, by simpa using hi⟩⟩

theorem AdmissionOrder.lastSequence_eq (h : AdmissionOrder plans taken s) (venueId : Id) (epoch : ℕ) :
    s.lastSequence venueId epoch =
      ((epochPlans venueId epoch plans).map (fun plan => plan.admissionDigests.length)).sum := by
  have hmem : ∀ n, n ∈ (s.admissionEntries.entries.filter
      (fun e => s.inEpoch venueId epoch e.1.1)).map (fun e => e.1.2) ↔
        n ∈ (epochPlans venueId epoch plans).flatMap sequences := by
    intro n
    constructor
    · intro hn
      obtain ⟨⟨⟨id, m⟩, entry⟩, hrow, rfl⟩ := mem_map.mp hn
      obtain ⟨hrow, hscope⟩ := mem_filter.mp hrow
      obtain ⟨plan, hplan, rfl, hm⟩ := h.planned id m (mem_keys.mpr ⟨entry, hrow⟩)
      obtain ⟨batch, hbatch, hfollows⟩ := h.batches plan hplan
      simp only [inEpoch, hbatch, Option.any_some, Bool.and_eq_true, decide_eq_true_eq] at hscope
      refine mem_flatMap.mpr ⟨plan, mem_epochPlans.mpr ⟨hplan, ?_, ?_⟩, hm⟩
      · exact hfollows.venue.symm.trans hscope.1
      · exact hfollows.epoch.symm.trans hscope.2
    · intro hn
      obtain ⟨plan, hscope, hseq⟩ := mem_flatMap.mp hn
      obtain ⟨hplan, hvenue, hepoch⟩ := mem_epochPlans.mp hscope
      obtain ⟨batch, hbatch, hfollows⟩ := h.batches plan hplan
      obtain ⟨entry, hrow⟩ := List.mem_keys.mp ((h.mem_entries hplan n).mpr hseq)
      refine mem_map.mpr ⟨_, mem_filter.mpr ⟨hrow, ?_⟩, rfl⟩
      simp [inEpoch, hbatch, hfollows.venue, hfollows.epoch, hvenue, hepoch]
  have hcontiguous := h.contiguous venueId epoch
  refine foldr_max_eq ?_ ?_
  · intro n hn
    have hn := (hmem n).mp hn
    rw [hcontiguous, mem_range'_1] at hn
    omega
  · grind

theorem AdmissionOrder.register (h : AdmissionOrder plans taken s) (hadded : BatchAdded plan s t) :
    AdmissionOrder (plans ++ [plan]) taken t := by
  obtain ⟨hbody, hfresh, hchecked, statement, rfl⟩ := hadded
  simp only [checkNewBatch, ok_iff, checkedSucc_eq_some] at hchecked
  obtain ⟨_, next, ⟨_, rfl⟩, hfirst, _⟩ := hchecked
  have hnew : ∀ other ∈ plans, other.batchId ≠ plan.batchId := by
    grind [AdmissionOrder, BatchAdded]
  have huntaken : ∀ lane ∈ taken, lane.1 ≠ plan.batchId := by
    grind [AdmissionOrder, BatchAdded]
  have hnone : takenFrom plan.batchId taken = [] := by
    simp only [takenFrom, map_eq_nil_iff, filter_eq_nil_iff, decide_eq_true_eq]
    exact huntaken
  refine ⟨?_, ?_, ?_, ?_, ?_, ?_, ?_⟩
  · grind [AdmissionOrder, BatchAdded]
  · intro other hother
    rcases mem_append.mp hother with hother | hother
    · obtain ⟨batch, hbatch, hfollows⟩ := h.batches other hother
      exact ⟨batch, (lookup_insert_ne (hnew other hother)).trans hbatch, hfollows⟩
    · obtain rfl := mem_singleton.mp hother
      refine ⟨_, lookup_insert .., rfl, rfl, rfl, ?_, Nat.zero_le _⟩
      rw [hnone]
      rfl
  · intro id hid
    rcases (mem_insert _).mp hid with rfl | hid
    · exact ⟨plan, by simp, rfl⟩
    · grind [AdmissionOrder, BatchAdded]
  · intro other hother i digest hdigest
    rcases mem_append.mp hother with hother | hother
    · obtain ⟨entry, hentry, hrest⟩ := h.entries other hother i digest hdigest
      refine ⟨entry, (addBatch_entry_ne ?_).trans hentry, hrest⟩
      exact fun hkey => hnew other hother hkey.1
    · obtain rfl := mem_singleton.mp hother
      refine ⟨_, addBatch_entry i digest hdigest, rfl, ?_⟩
      simp only [ne_eq, not_true_eq_false, false_iff]
      exact fun hmem => huntaken _ hmem rfl
  · intro id n hn
    by_cases hkey : id = plan.batchId ∧ n ∈ plan.sequences
    · exact ⟨plan, by simp, hkey.1.symm, hkey.2⟩
    · have hold : (id, n) ∈ s.admissionEntries := by
        have hsome := lookup_isSome.mpr hn
        rw [addBatch_entry_ne hkey] at hsome
        exact lookup_isSome.mp hsome
      obtain ⟨other, hother, heq⟩ := h.planned id n hold
      exact ⟨other, mem_append_left _ hother, heq⟩
  · grind [AdmissionOrder, BatchAdded]
  · intro venueId epoch
    rw [epochPlans_append, flatMap_append, h.contiguous, map_append, sum_append]
    by_cases hscope : plan.venueId = venueId ∧ plan.epoch = epoch
    · obtain ⟨rfl, rfl⟩ := hscope
      have hself : epochPlans plan.venueId plan.epoch [plan] = [plan] := by simp [epochPlans]
      rw [hself, h.lastSequence_eq] at *
      simp only [flatMap_singleton, sequences, hfirst, map_singleton,
        sum_singleton]
      rw [Nat.add_comm _ 1, range'_append_1]
    · have hother : epochPlans venueId epoch [plan] = [] := by
        simpa [epochPlans] using hscope
      simp [hother]

end NewBatch

/-- What a transaction does to the admission tables: nothing, one new batch, or one lane. -/
inductive AdmissionStep (s t : VmState V R) : List AdmissionBatchPlan → List (Id × ℕ) → Prop where
  | idle (hbatches : t.admissionBatches = s.admissionBatches)
      (hentries : t.admissionEntries = s.admissionEntries) : AdmissionStep s t [] []
  | batch {plan : AdmissionBatchPlan} (hadded : BatchAdded plan s t) : AdmissionStep s t [plan] []
  | lane {batchId : Id} {sequence : ℕ} (htaken : LaneTaken batchId sequence s t) :
      AdmissionStep s t [] [(batchId, sequence)]

theorem AdmissionOrder.step {new : List AdmissionBatchPlan} {lanes : List (Id × ℕ)}
    (h : AdmissionOrder plans taken s) (hstep : AdmissionStep s t new lanes) :
    AdmissionOrder (plans ++ new) (taken ++ lanes) t := by
  cases hstep with
  | idle hbatches hentries => simpa using h.congr hbatches hentries
  | batch hadded => simpa using h.register hadded
  | lane htaken => simpa using h.take htaken

end VmState

section Listings

variable {V : Type}

def ReservationAuthorization.lanesTaken (auth : ReservationAuthorization V) : List (Id × ℕ) :=
  match auth.role with
  | .maker => []
  | .taker => [(auth.admissionBatchId, auth.admissionSequence)]

def LedgerTx.lanesTaken : LedgerTx V → List (Id × ℕ)
  | .admissionAdvance advance _ => [(advance.batchId, advance.sequence)]
  | .productReservation _ auth _ _ => auth.lanesTaken
  | .noteProductReservation _ auth _ _ => auth.lanesTaken
  | _ => []

def Tx.lanesTaken : Tx V → List (Id × ℕ)
  | .ledger tx => tx.lanesTaken
  | .participantProductReservation _ auth _ _ _ _ _ _ => auth.lanesTaken
  | _ => []

def LedgerTx.batchPlans : LedgerTx V → List AdmissionBatchPlan
  | .admissionBatch plan _ _ => [plan]
  | _ => []

def Tx.batchPlans : Tx V → List AdmissionBatchPlan
  | .ledger tx => tx.batchPlans
  | _ => []

end Listings

namespace VmState

variable {V R : Type} {s t : VmState V R} {now : ℕ} {approval : Approval}
  {transition : CreditFacilityTransition V} {auth : ReservationAuthorization V}
  {api : AdmissionApi V R}

/-- The plans among these that are not registered yet; repeating a registration word for
word changes nothing. -/
def newPlans (s : VmState V R) (plans : List AdmissionBatchPlan) : List AdmissionBatchPlan :=
  plans.filter (fun plan => plan.batchId ∉ s.admissionBatches)

theorem AdmissionTaken.step
    {consumer : Id} (h : AdmissionTaken api now auth consumer s t) (hconsumer : consumer ≠ 0) :
    AdmissionStep s t [] auth.lanesTaken := by
  cases hrole : auth.role with
  | maker =>
    simp only [AdmissionTaken, hrole] at h
    simpa only [lanesTaken, hrole] using AdmissionStep.idle h.1 h.2
  | taker =>
    simp only [AdmissionTaken, hrole] at h
    obtain ⟨batch, entry, hlane, hentries, hbatches⟩ := h
    simp only [takerLane, ok_iff, Prod.exists, Prod.mk.injEq] at hlane
    obtain ⟨batch', hbatch, _, _, _, next, last, hwindow, ⟨_, rfl, hlast⟩, entry', hentry, _, rfl,
      rfl⟩ := hlane
    simp only [lanesTaken, hrole]
    exact .lane ⟨batch', entry', consumer, last, hbatch, hwindow, hlast, hentry, hconsumer, hentries,
      hbatches⟩

theorem advanceAdmission_admission {advance : AdmissionSlotAdvance}
    (h : s.advanceAdmission api now advance approval = .ok t) :
    AdmissionStep s t [] [(advance.batchId, advance.sequence)] := by
  obtain ⟨batch, entry, last, hbatch, hwindow, hlast, hentry, _, hentries, hbatches⟩ :=
    (advanceAdmission_step h).2.2
  simp only [advanceAdmission, AdmissionSlotAdvance.body, ok_iff, not_or] at h
  obtain ⟨hbody, _⟩ := h
  exact .lane ⟨batch, entry, advance.operationId, last, hbatch, hwindow, hlast, hentry, hbody.2.1,
    hentries, hbatches⟩

theorem registerAdmissionBatch_admission {plan : AdmissionBatchPlan}
    {lanes : List (List Bytes)} (h : s.registerAdmissionBatch api now plan lanes approval = .ok t) :
    AdmissionStep s t (s.newPlans [plan]) [] := by
  rcases registerAdmissionBatch_ok h with ⟨hknown, rfl⟩ | hadded
  · have hnone : t.newPlans [plan] = [] := by simp [newPlans, hknown]
    rw [hnone]
    exact .idle rfl rfl
  · have hnew : s.newPlans [plan] = [plan] := by simp [newPlans, hadded.fresh]
    rw [hnew]
    exact .batch hadded

variable [AddCommGroup V] [DecidableEq V]

theorem operationId_ne_zero {u : Unit}
    (h : transition.body = .ok u) : transition.operationId ≠ 0 := by
  simp only [CreditFacilityTransition.body, ok_iff, nonzero_eq_ok] at h
  obtain ⟨_, _, _, _, _, hne, _⟩ := h
  exact hne

theorem reserveProduct_admission {api : ProductApi V R} {escrow : ReservationEscrow V}
    (h : s.reserveProduct api now transition auth escrow approval = .ok t) :
    AdmissionStep s t [] auth.lanesTaken := by
  have htaken := (reserveProduct_step h).2.2
  simp only [reserveProduct, ok_iff] at h
  obtain ⟨hbody, _⟩ := h
  exact htaken.step (operationId_ne_zero hbody)

theorem reserveNoteProduct_admission {api : ProductApi V R}
    {escrow : NoteReservationEscrow V}
    (h : s.reserveNoteProduct api now transition auth escrow approval = .ok t) :
    AdmissionStep s t [] auth.lanesTaken := by
  have htaken := (reserveNoteProduct_step h).2.2
  simp only [reserveNoteProduct, ok_iff] at h
  obtain ⟨hbody, _⟩ := h
  exact htaken.step (operationId_ne_zero hbody)

variable [Module Scalar V]

theorem execute_admission {api : ConfidentialApi V R}
    {optimistic : ApplicationNoteFill V → Check} {tx : LedgerTx V}
    (h : s.execute api optimistic now tx = .ok t) :
    AdmissionStep s t (s.newPlans tx.batchPlans) tx.lanesTaken := by
  cases tx with
  | standingNotePool =>
    exact .idle (registerStandingNotePool_step h).2.1 (registerStandingNotePool_step h).2.2
  | admissionBatch => exact registerAdmissionBatch_admission h
  | admissionAdvance => exact advanceAdmission_admission h
  | productReservation => exact reserveProduct_admission h
  | noteProductReservation => exact reserveNoteProduct_admission h
  | productRelease =>
    exact .idle (releaseProduct_step h).2.batches (releaseProduct_step h).2.entries
  | productSettlement =>
    exact .idle (settleProduct_step h).2.batches (settleProduct_step h).2.entries
  | productSettlementBatch =>
    exact .idle (settleProductBatch_step h).2.batches (settleProductBatch_step h).2.entries
  | noteProduct =>
    exact .idle (executeNoteProduct_step h).2.1 (executeNoteProduct_step h).2.2
  | _ => exact .idle (execute_quiet h rfl).batches (execute_quiet h rfl).entries

end VmState

namespace HostState

variable {V O : Type} {api : MachineApi V O} {application : ApplicationRuntime V O}
  {s t : HostState V O}

theorem admissionStep_registry {lanes : List (Id × ℕ)} {s t : VmState V (ParticipantRegistry V)}
    (registry : ParticipantRegistry V) (h : AdmissionStep s t [] lanes) :
    AdmissionStep s { t with participantRegistry := registry } [] lanes := by
  cases h with
  | idle hbatches hentries => exact .idle hbatches hentries
  | lane htaken => exact .lane ⟨htaken.taken⟩

def plansRegistered (api : MachineApi V O)
    (steps : List (Step (HostState V O) (Bytes × ℕ))) : List AdmissionBatchPlan :=
  steps.flatMap (fun step => step.before.newPlans (listed api Tx.batchPlans step.op.1))

def lanesTaken (api : MachineApi V O)
    (steps : List (Step (HostState V O) (Bytes × ℕ))) : List (Id × ℕ) :=
  steps.flatMap (fun step => listed api Tx.lanesTaken step.op.1)

def AdmissionFollows (api : MachineApi V O)
    (steps : List (Step (HostState V O) (Bytes × ℕ))) (t : HostState V O) : Prop :=
  VmState.AdmissionOrder (plansRegistered api steps) (lanesTaken api steps) t.toVmState

variable [AddCommGroup V] [DecidableEq V]

theorem reserveUnderlying_admission {api : HostApi V O} {s t : HostState V O} {now : ℕ}
    {transition : CreditFacilityTransition V} {auth : ReservationAuthorization V}
    {approval : Approval} {custody : Custody V}
    (h : s.reserveUnderlying api now transition auth approval custody = .ok t) :
    AdmissionStep s.toVmState t.toVmState [] auth.lanesTaken := by
  cases custody with
  | account =>
    simp only [reserveUnderlying] at h
    obtain ⟨ledger, hledger, rfl⟩ := onLedger_ok h
    exact reserveProduct_admission hledger
  | note =>
    simp only [reserveUnderlying] at h
    obtain ⟨ledger, hledger, rfl⟩ := onLedger_ok h
    exact reserveNoteProduct_admission hledger

variable [Module Scalar V]

theorem dispatch_admission {api : HostApi V O} {application : ApplicationRuntime V O}
    (hstays : application.StaysOut) {s t : HostState V O} {now : ℕ} {method : String} {tx : Tx V}
    (h : s.dispatch api application now method tx = .ok t) :
    AdmissionStep s.toVmState t.toVmState (s.newPlans tx.batchPlans) tx.lanesTaken := by
  cases tx with
  | ledger =>
    simp only [dispatch] at h
    obtain ⟨ledger, hledger, rfl⟩ := onLedger_ok h
    exact execute_admission hledger
  | participantProductReservation =>
    obtain ⟨u, registry, hu, rfl⟩ := reserveProductWithMandate_ok h
    exact admissionStep_registry registry (reserveUnderlying_admission hu)
  | application params => exact .idle (hstays s params now t h).batches (hstays s params now t h).entries
  | _ => exact .idle (dispatch_quiet h rfl).batches (dispatch_quiet h rfl).entries

theorem transact_admission (hstays : application.StaysOut) {bytes : Bytes} {now : ℕ}
    {receipt : TransitionReceipt}
    (h : applyWithApplication api application bytes now s = (.ok receipt, t)) :
    AdmissionStep s.toVmState t.toVmState
      (s.newPlans (listed api Tx.batchPlans bytes)) (listed api Tx.lanesTaken bytes) := by
  obtain ⟨envelope, next, haccepted⟩ := applyWithApplication_ok h
  have hledger : t.toVmState = next.toVmState := by rw [haccepted.result]
  rw [hledger]
  simpa only [listed, haccepted.decoded] using dispatch_admission hstays haccepted.dispatched

theorem admissionFollows_run (hstays : application.StaysOut)
    (hbatches : s.admissionBatches = ∅) (hentries : s.admissionEntries = ∅)
    (calls : List (Bytes × ℕ)) :
    AdmissionFollows api (history (transact api application) s calls)
      (run (transact api application) s calls) := by
  have hstart : AdmissionFollows api [] s := AdmissionOrder.empty hbatches hentries
  have hstep : ∀ done u call receipt t, AdmissionFollows api done u →
      transact api application call u = (.ok receipt, t) →
        AdmissionFollows api (done ++ [⟨u, call, t⟩]) t := by
    intro done u call receipt t hu h
    have hnext := AdmissionOrder.step hu (transact_admission hstays h)
    simpa [AdmissionFollows, plansRegistered, lanesTaken] using hnext
  exact history_invariant hstep (fun u call e t h => transact_restores call u e t h) calls
    hstart

/-- Over every run from a state without admission batches: the lanes taken from a batch
are, in this order, the first ones of its plan, and the cursor of the batch counts them;
the lanes of a plan stand under its digests in its order, marked if and only if they were
taken; and the plans of a venue epoch have disjoint ranges that together number the lanes
of the epoch from 1 on without a gap. -/
theorem admission_in_order (api : MachineApi V O) (application : ApplicationRuntime V O)
    (hstays : application.StaysOut) (s : HostState V O) (hbatches : s.admissionBatches = ∅)
    (hentries : s.admissionEntries = ∅) (calls : List (Bytes × ℕ)) :
    AdmissionFollows api (history (transact api application) s calls)
      (run (transact api application) s calls) ∧
    ∀ venueId epoch, (epochPlans venueId epoch (plansRegistered api
      (history (transact api application) s calls))).Pairwise
        (fun p q => p.sequences.Disjoint q.sequences) := by
  have hfollows : AdmissionFollows api (history (transact api application) s calls)
      (run (transact api application) s calls) :=
    admissionFollows_run hstays hbatches hentries calls
  refine ⟨hfollows, fun venueId epoch => ?_⟩
  have hnodup : ((epochPlans venueId epoch (plansRegistered api
      (history (transact api application) s calls))).flatMap
        AdmissionBatchPlan.sequences).Nodup := by
    rw [hfollows.contiguous]
    exact List.nodup_range'
  exact (List.nodup_flatMap.mp hnodup).2

end HostState

section Sample

def admissionBatchTx (operation batch : UInt8) (slot first : ℕ) (lanes : List UInt8) : Tx Plane :=
  .ledger (.admissionBatch ⟨vmId operation, vmId batch, vmId 17, 1, slot, vmId 19, vmId 20, first,
    lanes.map vmId, 100⟩ ([first - 1, first].map fun n => List.replicate 7 (List.replicate n 0))
    ⟨vmId 90, [operation]⟩)

def advanceTx (operation batch : UInt8) (sequence : ℕ) (lane : UInt8) : Tx Plane :=
  .ledger (.admissionAdvance ⟨vmId operation, vmId batch, sequence, vmId lane⟩
    ⟨vmId 90, [operation]⟩)

def admissionTxs : List (Tx Plane) :=
  [.ledger (.admissionCommittee ⟨vmId 70, vmId 17, 1, [vmId 81, vmId 82, vmId 83, vmId 84, vmId 85,
      vmId 86, vmId 87], 1, 100⟩ ⟨vmId 90, [70]⟩),
    admissionBatchTx 71 24 1 1 [13, 14], admissionBatchTx 72 25 2 3 [15, 16],
    advanceTx 73 24 1 13, advanceTx 74 25 3 15, advanceTx 75 24 1 13, advanceTx 76 24 2 14]

def admissionCalls : List (Bytes × ℕ) :=
  [([0], 10), ([1], 11), ([2], 12), ([3], 13), ([4], 14), ([5], 15), ([6], 16)]

/-- Two batches of two lanes are taken in turn; a lane that was taken is refused. -/
theorem admission_in_order_sample :
    (history (sampleStep admissionTxs) (hostSample emptyLedger) admissionCalls).length = 6 ∧
      HostState.AdmissionFollows (machineSample admissionTxs)
        (history (sampleStep admissionTxs) (hostSample emptyLedger) admissionCalls)
        (run (sampleStep admissionTxs) (hostSample emptyLedger) admissionCalls) :=
  ⟨by decide +kernel,
    (HostState.admission_in_order (machineSample admissionTxs) noApplications
      noApplications_staysOut (hostSample emptyLedger) rfl rfl _).1⟩

end Sample
end DeFMI
