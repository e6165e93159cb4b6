import DeFMI.Lib.Wire
import DeFMI.Participant.Edits
set_option autoImplicit false

/-!
Runs of the participant registry from the empty one: every state is sound as long
as each mandate can still number its changes, and every operation name is used once.
-/

namespace DeFMI.Participant
open Lib InPlace AList

variable {V : Type}

def RegistryRequest.operationId : RegistryRequest V → Id
  | .configure c => c.operationId
  | .registerParticipant r => r.operationId
  | .controlParticipant c => c.operationId
  | .rotateKey r _ => r.operationId
  | .registerService s => s.operationId
  | .bindAccount b _ => b.operationId
  | .bindService b _ => b.operationId
  | .createMandate m _ => m.operationId
  | .controlMandate c _ => c.operationId
  | .reserveUnderMandate r => r.operationId
  | .transitionReservation t => t.operationId

namespace ParticipantRegistry

/-- The name an operation consumes; the settlement of a reserve that no lane was
opened for consumes none. -/
def operationId (api : ParticipantApi V) (r : ParticipantRegistry V) : RegistryOp V → Option Id
  | .request request _ => some request.operationId
  | .settle evidence kind _ =>
    match r.linked evidence.underlyingReservationDigest with
    | [lane] => some (api.automaticTransition lane.reservationId kind evidence.settlementDigest
        evidence.transitionProofDigest)
    | _ => none

section Names

open InPlace

variable {api : ParticipantApi V} {r t : ParticipantRegistry V} {now : ℕ} {id a : Id}

theorem transitionReservation_uses {request : MandateReservationTransition}
    (h : transitionReservation api request now r = (.ok a, t)) :
    request.operationId ∉ r.consumedOperations ∧ request.operationId ∈ t.consumedOperations := by
  simp only [transitionReservation, putMandate, consumeOperation, ensureOperationUnused, ran_iff,
    ok_iff, not_or] at h
  grind

variable [Zero V] [DecidableEq V]

-- Whatever else a request writes, its name is checked and then consumed.
theorem request_uses {request : RegistryRequest V} (h : request.run api now r = (.ok a, t)) :
    request.operationId ∉ r.consumedOperations ∧ request.operationId ∈ t.consumedOperations := by
  cases request <;> simp only [RegistryRequest.run, configure, registerParticipant,
    controlParticipant, rotateKey, registerService, bindAccount, bindService, createMandate,
    controlMandate, reserveUnderMandate, bumpParticipantSequence, putParticipant, putMandate,
    consumeOperation, ensureOperationUnused, ran_iff, ok_iff, not_or] at h
  case transitionReservation q => exact transitionReservation_uses h
  all_goals grind [RegistryRequest.operationId]

theorem automaticTransition_inv {evidence : AutomaticReservationEvidence V}
    {kind : ReservationTransitionKind} {u : Unit}
    (h : automaticTransition api evidence kind now r = (.ok u, t)) :
    (r.linked evidence.underlyingReservationDigest = [] ∧ t = r) ∨
      ∃ lane, r.linked evidence.underlyingReservationDigest = [lane] ∧
        followLane api evidence kind now lane.reservationId r = (.ok u, t) := by
  simp only [automaticTransition, ran_iff, ok_iff] at h
  obtain ⟨_, lanes, hlanes, h⟩ := h
  have hlinked : r.linked evidence.underlyingReservationDigest = lanes := Except.ok.inj hlanes
  rw [hlinked]
  cases lanes with
  | nil => exact Or.inl ⟨rfl, (pure_eq.mp h).2.symm⟩
  | cons lane rest =>
    cases rest with
    | nil => exact Or.inr ⟨lane, rfl, h⟩
    | cons => cases (check_eq.mp h).1

theorem perform_uses {op : RegistryOp V} {u : Unit} (h : perform api op r = (.ok u, t))
    (hid : operationId api r op = some id) :
    id ∉ r.consumedOperations ∧ id ∈ t.consumedOperations := by
  cases op with
  | request =>
    obtain rfl := Option.some.inj hid
    simp only [perform, ran_iff] at h
    obtain ⟨_, _, hrequest, _, rfl⟩ := h
    exact request_uses hrequest
  | settle =>
    simp only [operationId] at hid
    split at hid
    · rename_i lane hlanes
      obtain rfl := Option.some.inj hid
      rcases automaticTransition_inv h with ⟨hnone, _⟩ | ⟨lane', hone, hrun⟩
      · simp [hlanes] at hnone
      · obtain rfl : lane = lane' := by simpa [hlanes] using hone
        simp only [followLane, ran_iff, ok_iff] at hrun
        obtain ⟨_, _, _, _, _, _, _, htransition, _, rfl⟩ := hrun
        exact transitionReservation_uses htransition
    · cases hid

end Names

section Runs

open InPlace

variable {r t : ParticipantRegistry V} {id : Id}

def laneOpen (id : Id) (r : ParticipantRegistry V) : Bool :=
  (r.reservations.lookup id).any fun lane => lane.status = .active

def LaneDone (id : Id) (r : ParticipantRegistry V) : Prop :=
  ∃ lane, r.reservations.lookup id = some lane ∧ lane.status ≠ .active

theorem Follows.laneDone (hf : Follows r t) (h : LaneDone id r) : LaneDone id t := by
  grind [Follows, LaneDone]

theorem Follows.laneDone_of_closed (hf : Follows r t)
    (hopen : laneOpen id r = true) (hclosed : laneOpen id t = false) : LaneDone id t := by
  simp only [laneOpen, Option.any_eq_true] at hopen
  obtain ⟨lane, hlane, _⟩ := hopen
  obtain ⟨lane', hlane', _⟩ := hf.reservations id lane hlane
  simp only [laneOpen, hlane', Option.any_some, decide_eq_false_iff_not] at hclosed
  exact ⟨lane', hlane', hclosed⟩

theorem not_laneDone_of_open {r : ParticipantRegistry V} (h : laneOpen id r = true) :
    ¬LaneDone id r := by
  rintro ⟨lane, hlane, hdone⟩
  simp [laneOpen, hlane, hdone] at h

variable [Zero V] [DecidableEq V] {api : ParticipantApi V}

/-- What is refused before it writes anything needs no room. -/
def WritesWithRoom (api : ParticipantApi V) (r : ParticipantRegistry V) (op : RegistryOp V) : Prop :=
  (perform api op r).2 ≠ r → r.OpHasRoom op

theorem perform_sound {r : ParticipantRegistry V} {op : RegistryOp V} (hr : Sound api r)
    (hroom : r.WritesWithRoom api op) : Sound api (perform api op r).2 := by
  by_cases hsame : (perform api op r).2 = r
  · rw [hsame]
    exact hr
  · exact ((perform_leaves api r op).edits_of_room (hroom hsame)).sound hr

theorem perform_follows (r : ParticipantRegistry V) (op : RegistryOp V) :
    Follows r (perform api op r).2 := (perform_leaves api r op).follows

theorem perform_follows_of_eq {op : RegistryOp V}
    {result : Check} (h : perform api op r = (result, t)) : Follows r t := by
  have hf : Follows r (perform api op r).2 := perform_follows r op
  rwa [h] at hf

theorem run_follows (r : ParticipantRegistry V) (ops : List (RegistryOp V)) :
    Follows r (run (perform api) r ops) := by
  induction ops generalizing r with
  | nil => exact Follows.refl r
  | cons op ops ih => exact (perform_follows r op).trans (ih (perform api op r).2)

structure Kept (api : ParticipantApi V) (r : ParticipantRegistry V) : Prop where
  valid : r.validate api = .ok ()
  counted : ∀ id m, r.mandates.lookup id = some m →
    m.activeReservations = r.activeByMandate id ∧ m.activeReservations ≤ m.maxActiveReservations
  distinct : ∀ i j a b, r.reservations.lookup i = some a → r.reservations.lookup j = some b →
    a.underlyingReservationDigest = b.underlyingReservationDigest → i = j

theorem Sound.kept {r : ParticipantRegistry V} (h : Sound api r) : Kept api r where
  valid := h.validate
  counted id m hm := ⟨h.counted hm, h.bounded id m hm⟩
  distinct := h.distinct

theorem lane_closes_once (id : Id) (ops : List (RegistryOp V)) (r : ParticipantRegistry V) :
    (history (perform api) r ops).countP
      (fun step => laneOpen id step.before && !laneOpen id step.after) ≤ 1 := by
  refine (countP_history_le_one (fun _ => True) (LaneDone id) _ ?_ ?_ ops trivial).1
  · intro s op a t _ h
    have hf := perform_follows_of_eq h
    refine ⟨trivial, hf.laneDone, fun hevent => ?_⟩
    simp only [Bool.and_eq_true, Bool.not_eq_true'] at hevent
    exact ⟨not_laneDone_of_open hevent.1, hf.laneDone_of_closed hevent.1 hevent.2⟩
  · intro s op e t _ h
    exact ⟨trivial, (perform_follows_of_eq h).laneDone⟩

theorem name_used_once (id : Id) (ops : List (RegistryOp V)) (r : ParticipantRegistry V) :
    (history (perform api) r ops).countP
      (fun step => operationId api step.before step.op = some id) ≤ 1 := by
  refine (countP_history_le_one (fun _ => True) (fun r => id ∈ r.consumedOperations) _ ?_ ?_ ops
    trivial).1
  · intro s op a t _ h
    refine ⟨trivial, fun hid => (perform_follows_of_eq h).consumed hid, fun hevent => ?_⟩
    exact perform_uses h (decide_eq_true_eq.mp hevent)
  · intro s op e t _ h
    exact ⟨trivial, fun hid => (perform_follows_of_eq h).consumed hid⟩

/-- Over runs on the registry itself, where a refused operation may leave writes
behind. -/
theorem registry_kept_with_room (api : ParticipantApi V) (ops : List (RegistryOp V))
    (hroom : Always (perform api) (WritesWithRoom api) empty ops) :
    Kept api (run (perform api) empty ops) ∧
      (∀ done more, ops = done ++ more →
        Follows (run (perform api) empty done) (run (perform api) empty ops)) ∧
      (∀ id, (history (perform api) empty ops).countP
        (fun step => laneOpen id step.before && !laneOpen id step.after) ≤ 1) ∧
      (∀ id, (history (perform api) empty ops).countP
        (fun step => operationId api step.before step.op = some id) ≤ 1) := by
  have hsound : Sound api (run (perform api) empty ops) :=
    hroom.invariant (fun _ _ hr hop => perform_sound hr hop) sound_empty
  refine ⟨hsound.kept, ?_, fun id => lane_closes_once id ops empty,
    fun id => name_used_once id ops empty⟩
  rintro done more rfl
  rw [run_append]
  exact run_follows _ more

end Runs

section Sample

def sampleApi : ParticipantApi Plane where
  configuration _ := Id.fill 1
  registration _ := Id.fill 1
  control _ := Id.fill 1
  keyRotation _ := Id.fill 1
  accountBinding _ := Id.fill 1
  service _ := Id.fill 1
  serviceBinding _ := Id.fill 1
  mandate _ := Id.fill 1
  mandateControl _ := Id.fill 1
  reservation _ := Id.fill 1
  reservationTransition _ := Id.fill 1
  automaticTransition reservationId _ _ _ := reservationId
  verifyingKey _ := true
  signature _ _ _ := true

def sampleKey (n : UInt8) : PurposeKey := ⟨Id.fill n, n :: List.replicate 1951 0, 1⟩

def sampleParticipant : ParticipantRecord where
  participantId := Id.fill 10
  legalEntityCredentialCommitment := Id.fill 1
  credentialIssuerId := Id.fill 1
  credentialSchemeDigest := Id.fill 1
  jurisdiction := "JP"
  roles := [.mpcOperator, .maker]
  keys := ⟨sampleKey 1, sampleKey 2, sampleKey 3, sampleKey 4, sampleKey 5⟩
  policyDigest := Id.fill 1
  validFrom := 1
  validUntil := 100
  sequence := 0
  status := .active

def sampleService : MpcService where
  operationId := Id.fill 3
  serviceId := Id.fill 20
  kind := .qommMatching
  programDigest := Id.fill 1
  schemaDigest := Id.fill 1
  committeeEpoch := 1
  threshold := 1
  members := [⟨Id.fill 1, Id.fill 10, Id.fill 1⟩]
  validFrom := 1
  validUntil := 100
  sequence := 0
  status := .active

def sampleAccount : AccountBinding where
  operationId := Id.fill 4
  bindingId := Id.fill 30
  participantId := Id.fill 10
  accountCommitment := Id.fill 1
  assetId := Id.fill 50
  kind := .cash
  controlProofDigest := Id.fill 1
  validFrom := 1
  validUntil := 100
  expectedParticipantSequence := 0
  sequence := 0
  active := true

def sampleBinding : ParticipantServiceBinding where
  operationId := Id.fill 5
  bindingId := Id.fill 31
  participantId := Id.fill 10
  serviceId := Id.fill 20
  serviceEpoch := 1
  inputPublicKey := Id.fill 1
  capabilityDigest := Id.fill 1
  validFrom := 1
  validUntil := 100
  expectedParticipantSequence := 1
  sequence := 0
  active := true

def sampleMandate : StandingMandate where
  operationId := Id.fill 6
  mandateId := Id.fill 40
  participantId := Id.fill 10
  serviceId := Id.fill 20
  serviceBindingId := Id.fill 31
  role := .maker
  accountBindingIds := [Id.fill 30]
  permittedAssetIds := [Id.fill 50]
  permittedDestinationDomains := []
  limitCommitment := Id.fill 1
  limitPolicyDigest := Id.fill 1
  settlementPolicyDigest := Id.fill 1
  maxActiveReservations := 1
  activeReservations := 0
  validFrom := 1
  validUntil := 100
  expectedParticipantSequence := 2
  sequence := 0
  automaticSettlement := true
  status := .active

def sampleMandateAt (activeReservations sequence : ℕ) : StandingMandate :=
  { sampleMandate with activeReservations, sequence }

def sampleLane (sequence : ℕ) : MandateReservation Plane where
  operationId := Id.fill 7
  reservationId := Id.fill 60
  mandateId := Id.fill 40
  serviceId := Id.fill 20
  serviceEpoch := 1
  accountBindingId := Id.fill 30
  assetId := Id.fill 50
  amountCommitment := .point (1, 0)
  underlyingReservationDigest := Id.fill 70
  admissionReceiptDigest := 0
  limitProofDigest := Id.fill 1
  zkpiDigest := Id.fill 1
  expiresAt := 50
  expectedMandateSequence := sequence
  status := .active
  settlementDigest := 0

def sampleApproval (purpose : KeyPurpose) : EntityApproval :=
  ⟨Id.fill 10, purpose, 1, Id.fill 1, List.replicate (64 + 3309) 0⟩

def sampleSetup : List (RegistryOp Plane) :=
  [.request (.configure ⟨Id.fill 1, Id.fill 1, Id.fill 1, Id.fill 1, 1⟩) 10,
    .request (.registerParticipant ⟨Id.fill 2, sampleParticipant⟩) 10,
    .request (.registerService sampleService) 10,
    .request (.bindAccount sampleAccount (sampleApproval .settlement)) 10,
    .request (.bindService sampleBinding (sampleApproval .mpcInput)) 10,
    .request (.createMandate sampleMandate (sampleApproval .settlement)) 10]

def sampleEvidence : AutomaticReservationEvidence Plane where
  underlyingReservationDigest := Id.fill 70
  amountCommitment := .point (1, 0)
  assetId := Id.fill 50
  role := .maker
  settlementDigest := Id.fill 80
  transitionProofDigest := Id.fill 1

def sampleOps : List (RegistryOp Plane) :=
  sampleSetup ++
    [.request (.reserveUnderMandate (sampleLane 0)) 10, .settle sampleEvidence .consume 20]

theorem registry_kept_with_room_sample :
    (history (perform sampleApi) empty sampleOps).length = 8 ∧
      Kept sampleApi (run (perform sampleApi) empty sampleOps) := by
  have hroom : Always (perform sampleApi) OpHasRoom empty sampleOps := by decide +kernel
  have hwrites : Always (perform sampleApi) (WritesWithRoom sampleApi) empty sampleOps :=
    hroom.imp fun r op h => fun _ => h
  exact ⟨by decide +kernel, (registry_kept_with_room sampleApi sampleOps hwrites).1⟩

theorem length_sampleName (n : ℕ) :
    (List.replicate 24 (200 : UInt8) ++ beBytes 8 n).length = 32 := by simp

def sampleName (n : ℕ) : Id := ⟨List.replicate 24 200 ++ beBytes 8 n, length_sampleName n⟩

theorem sampleName_injective {m n : ℕ} (hm : m ≤ u64Max) (hn : n ≤ u64Max)
    (h : sampleName m = sampleName n) : m = n := by
  have hbytes : beBytes 8 m = beBytes 8 n :=
    List.append_cancel_left (congrArg Subtype.val h)
  have hbound : u64Max < 256 ^ 8 := by decide
  rw [← beValue_beBytes (lt_of_le_of_lt hm hbound), hbytes,
    beValue_beBytes (lt_of_le_of_lt hn hbound)]

theorem sampleName_head (n : ℕ) : (sampleName n).1.head? = some 200 := by
  simp [sampleName, List.replicate]

def sampleControl (n : ℕ) : RegistryOp Plane :=
  .request (.controlMandate ⟨sampleName n, Id.fill 40, n, .activate, Id.fill 1⟩
    (sampleApproval .settlement)) 10

structure Numbered (n : ℕ) (r : ParticipantRegistry Plane) : Prop where
  approved : verifyApproval sampleApi (Id.fill 10) .settlement (Id.fill 1)
    (sampleApproval .settlement) r = .ok ()
  participant : ∃ p, r.activeParticipant (Id.fill 10) 10 = .ok p
  service : ∃ s, r.activeService (Id.fill 20) 10 = .ok s ∧ s.committeeEpoch = 1
  mandate : r.mandates.lookup (Id.fill 40) = some (sampleMandateAt 0 n)
  lanes : r.reservations.entries = []
  unused : ∀ k, n ≤ k → k ≤ u64Max → sampleName k ∉ r.consumedOperations
  fresh : Id.fill 7 ∉ r.consumedOperations

def sampleBase : ParticipantRegistry Plane := run (perform sampleApi) empty sampleSetup

theorem setup_names : ∀ id ∈ sampleBase.consumedOperations, id.1.head? ≠ some 200 := by
  decide +kernel

theorem sampleName_unused (n : ℕ) : sampleName n ∉ sampleBase.consumedOperations :=
  mt (setup_names (sampleName n)) (not_not.mpr (sampleName_head n))

theorem numbered_setup : Numbered 0 sampleBase where
  approved := by decide +kernel
  participant := ⟨{ sampleParticipant with sequence := 3 }, by decide +kernel⟩
  service := ⟨sampleService, by decide +kernel⟩
  mandate := by decide +kernel
  lanes := by decide +kernel
  unused n _ _ := sampleName_unused n
  fresh := by decide +kernel

variable {r : ParticipantRegistry Plane} {n : ℕ}

theorem ensureOperationUnused_ok {id : Id} (hzero : id ≠ 0)
    (h : id ∉ r.consumedOperations) : ensureOperationUnused id r = .ok () := by
  simp [ensureOperationUnused, hzero, h]

theorem sampleName_ne_zero (n : ℕ) : sampleName n ≠ 0 := by
  intro h
  have hhead := sampleName_head n
  rw [h] at hhead
  revert hhead
  decide

theorem sampleControl_ok (h : Numbered n r)
    (hn : n < u64Max) : perform sampleApi (sampleControl n) r = (.ok (), { r with
      mandates := r.mandates.insert (Id.fill 40) (sampleMandateAt 0 (n + 1))
      consumedOperations := insert (sampleName n) r.consumedOperations }) := by
  have hname := sampleName_ne_zero n
  have hunused := ensureOperationUnused_ok hname (h.unused n le_rfl hn.le)
  have hstatement : MandateControl.statement sampleApi
      ⟨sampleName n, Id.fill 40, n, .activate, Id.fill 1⟩ = .ok (Id.fill 1) := by
    have hmandate : Id.fill 40 ≠ 0 := by decide
    have hreason : Id.fill 1 ≠ 0 := by decide
    simp only [MandateControl.statement, ok_iff]
    exact ⟨by simp [hname, hmandate, hreason], rfl⟩
  have hnext : nextSequence n = .ok (n + 1) := by simp [nextSequence, checkedSucc_eq_some, hn]
  simp only [perform, sampleControl, RegistryRequest.run, controlMandate, putMandate,
    consumeOperation, bind_eq, check_eq, modify_eq, pure_eq,
    mandate_eq_ok]
  refine ⟨Id.fill 1, _, ⟨Id.fill 1, _, ⟨hstatement, rfl⟩, _, _, ⟨h.mandate, rfl⟩, (), _,
    ⟨h.approved, rfl⟩, (), _, ⟨hunused, rfl⟩, (), _, ⟨?_, rfl⟩, (), _, rfl, n + 1, _,
    ⟨hnext, rfl⟩, (), _, rfl, (), _, ⟨(), _, ⟨hunused, rfl⟩, rfl⟩, rfl, rfl⟩, trivial, ?_⟩
  · simp [sampleMandateAt, sampleMandate]
  · simp only [insert_insert]
    rfl

theorem numbered_control (h : Numbered n r)
    (hn : n < u64Max) : Numbered (n + 1) (perform sampleApi (sampleControl n) r).2 := by
  rw [sampleControl_ok h hn]
  refine ⟨h.approved, h.participant, h.service, lookup_insert _, h.lanes, ?_, ?_⟩
  · intro k hk hle hused
    rcases Finset.mem_insert.mp hused with hsame | hused
    · have hkn := sampleName_injective hle hn.le hsame
      omega
    · exact h.unused k (by omega) hle hused
  · intro hused
    rcases Finset.mem_insert.mp hused with hsame | hused
    · have hhead := sampleName_head n
      rw [← hsame] at hhead
      revert hhead
      decide
    · exact h.fresh hused

theorem numbered_controls (hr : Numbered 0 r) (hn : n ≤ u64Max) :
    Numbered n (run (perform sampleApi) r ((List.range n).map sampleControl)) := by
  induction n with
  | zero => exact hr
  | succ n ih =>
    rw [List.range_succ, List.map_append, run_append]
    exact numbered_control (ih (by omega)) (by omega)

theorem sampleLane_refused (h : Numbered n r) (hfull : ¬n < u64Max) :
    { r with mandates := r.mandates.insert (Id.fill 40) (sampleMandateAt 1 n) } =
      (perform sampleApi (.request (.reserveUnderMandate (sampleLane n)) 10) r).2 := by
  obtain ⟨p, hp⟩ := h.participant
  obtain ⟨s, hs, hepoch⟩ := h.service
  have hstatement : (sampleLane n).statement sampleApi = .ok (Id.fill 1) := by
    simp only [MandateReservation.statement, ok_iff]
    exact ⟨by simp only [sampleLane]; decide, rfl⟩
  have hunused : ensureOperationUnused (Id.fill 7) r = .ok () :=
    ensureOperationUnused_ok (by decide) h.fresh
  have hcovers : Covers (sampleMandateAt 0 n) s (sampleLane n) 10 := by
    simp [Covers, sampleMandateAt, sampleMandate, sampleLane, hepoch]
  have hnew : ¬((sampleLane n).reservationId ∈ r.reservations ∨ ∃ e ∈ r.reservations.entries,
      e.2.underlyingReservationDigest = (sampleLane n).underlyingReservationDigest) := by
    simp [h.lanes, mem_keys, keys]
  refine bind_snd ?_ fun _ _ _ ht => ht
  refine check_bind_snd_of_ok hstatement ?_
  refine check_bind_snd_of_ok hunused ?_
  refine check_bind_snd_of_ok (mandate_eq_ok.mpr h.mandate) ?_
  refine check_bind_snd_of_ok hp ?_
  refine check_bind_snd_of_ok hs ?_
  refine check_bind_snd_of_ok (a := ()) (require_eq_ok.mpr hcovers) ?_
  refine check_bind_snd_of_ok (a := ()) (require_eq_ok.mpr hnew) ?_
  refine modify_bind_snd ?_
  refine check_bind_cases (fun _ _ => rfl) fun sequence hsequence => ?_
  simp only [nextSequence, okOr_eq_ok, checkedSucc_eq_some] at hsequence
  exact absurd hsequence.1 hfull

theorem counted_without_lane (hle : n ≤ u64Max) (hlast : ¬n < u64Max) :
    ∃ (ops : List (RegistryOp Plane)) (m : StandingMandate),
      (run (perform sampleApi) empty ops).mandates.lookup (Id.fill 40) = some m ∧
        m.activeReservations = 1 ∧
        (run (perform sampleApi) empty ops).activeByMandate (Id.fill 40) = 0 := by
  have hfull := numbered_controls numbered_setup hle
  refine ⟨sampleSetup ++ ((List.range n).map sampleControl ++
    [.request (.reserveUnderMandate (sampleLane n)) 10]), sampleMandateAt 1 n, ?_⟩
  have hbase : run (perform sampleApi) empty sampleSetup = sampleBase := by
    rw [sampleBase]
  rw [run_append, run_append, hbase]
  generalize run (perform sampleApi) sampleBase ((List.range n).map sampleControl) = r
    at hfull ⊢
  have hrun := sampleLane_refused hfull hlast
  rw [run_cons, ← hrun]
  refine ⟨lookup_insert _, rfl, ?_⟩
  exact List.countP_eq_zero.mpr (by simp [hfull.lanes, run])

/-- The mandate's last number is spent; a lane is then refused, but it is counted. -/
theorem count_without_lane : ∃ (ops : List (RegistryOp Plane)) (m : StandingMandate),
    (run (perform sampleApi) empty ops).mandates.lookup (Id.fill 40) = some m ∧
      m.activeReservations = 1 ∧
      (run (perform sampleApi) empty ops).activeByMandate (Id.fill 40) = 0 :=
  counted_without_lane le_rfl (lt_irrefl _)

end Sample

end ParticipantRegistry
end DeFMI.Participant
