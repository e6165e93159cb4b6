import DeFMI.Participant.Registry
set_option autoImplicit false

/-!
What an operation on the participant registry leaves behind, accepted or refused:
a chain of small edits. Each edit keeps the registry sound, and none of them
reopens what was revoked, resolved or consumed.
-/

namespace DeFMI.Participant
open Lib Table AList

inductive RegistryOp (V : Type) where
  | request (request : RegistryRequest V) (now : ℕ)
  | settle (evidence : AutomaticReservationEvidence V) (kind : ReservationTransitionKind) (now : ℕ)

namespace ParticipantRegistry

variable {V : Type}

structure Revises (api : ParticipantApi V) (p p' : ParticipantRecord) : Prop where
  valid : ParticipantRecord.validate api { p with sequence := 0, status := .active } = .ok () →
    ParticipantRecord.validate api { p' with sequence := 0, status := .active } = .ok ()
  named : p'.participantId = p.participantId
  roles : p'.roles = p.roles
  final : p.status = .revoked → p'.status = .revoked

structure Follows (r t : ParticipantRegistry V) : Prop where
  participants : ∀ id p, r.participants.lookup id = some p →
    ∃ p', t.participants.lookup id = some p' ∧ p'.roles = p.roles ∧
      (p.status = .revoked → p'.status = .revoked)
  services : ∀ id, id ∈ r.services → id ∈ t.services
  mandates : ∀ id m, r.mandates.lookup id = some m →
    ∃ m', t.mandates.lookup id = some m' ∧ (m.status = .revoked → m'.status = .revoked)
  reservations : ∀ id lane, r.reservations.lookup id = some lane →
    ∃ lane', t.reservations.lookup id = some lane' ∧ (lane.status ≠ .active → lane' = lane)
  consumed : r.consumedOperations ⊆ t.consumedOperations

section Edits

variable [Zero V] [DecidableEq V]

def perform (api : ParticipantApi V) : RegistryOp V → InPlace (ParticipantRegistry V) Unit
  | .request request now => do
    let _ ← request.run api now
  | .settle evidence kind now => automaticTransition api evidence kind now

/-- One write of an operation, with what was checked before it. -/
inductive Edit (api : ParticipantApi V) (r : ParticipantRegistry V) :
    ParticipantRegistry V → Prop
  | configure {c : RegistryConfiguration} {statement : Id} (hempty : r.configuration = none)
      (hstatement : c.statement api = .ok statement) :
      Edit api r { r with
        configuration := some c
        consumedOperations := insert c.operationId r.consumedOperations }
  | consume (operationId : Id) (hsome : ¬r.IsEmpty) :
      Edit api r { r with consumedOperations := insert operationId r.consumedOperations }
  | enrol {p : ParticipantRecord} (hsome : ¬r.IsEmpty) (hnew : p.participantId ∉ r.participants)
      (hvalid : p.validate api = .ok ()) :
      Edit api r { r with participants := r.participants.insert p.participantId p }
  | revise {id : Id} {p p' : ParticipantRecord} (hrow : r.participants.lookup id = some p)
      (hrevises : Revises api p p') :
      Edit api r { r with participants := r.participants.insert id p' }
  | service {s : MpcService} {statement : Id} (hsome : ¬r.IsEmpty)
      (hstatement : s.statement api = .ok statement) (hnew : s.serviceId ∉ r.services)
      (hmembers : ∀ m ∈ s.members, ∃ p, r.participants.lookup m.operatorParticipantId = some p ∧
        .mpcOperator ∈ p.roles) :
      Edit api r { r with services := r.services.insert s.serviceId s }
  | account {b : AccountBinding} {statement : Id} (hstatement : b.statement api = .ok statement)
      (hparticipant : b.participantId ∈ r.participants) :
      Edit api r { r with accountBindings := r.accountBindings.insert b.bindingId b }
  | serviceBinding {b : ParticipantServiceBinding} {statement : Id}
      (hstatement : b.statement api = .ok statement)
      (hparticipant : b.participantId ∈ r.participants) (hservice : b.serviceId ∈ r.services) :
      Edit api r { r with serviceBindings := r.serviceBindings.insert b.bindingId b }
  | grant {m : StandingMandate} {statement : Id} (hstatement : m.statement api = .ok statement)
      (hparticipant : m.participantId ∈ r.participants) (hservice : m.serviceId ∈ r.services)
      (hnew : m.mandateId ∉ r.mandates) :
      Edit api r { r with mandates := r.mandates.insert m.mandateId m }
  | amend {id : Id} {m : StandingMandate} {status : MandateStatus} {sequence : ℕ}
      (hrow : r.mandates.lookup id = some m) (hfinal : m.status = .revoked → status = .revoked) :
      Edit api r { r with mandates := r.mandates.insert id { m with status, sequence } }
  | openLane {lane : MandateReservation V} {m : StandingMandate} {statement : Id} (sequence : ℕ)
      (hstatement : lane.statement api = .ok statement)
      (hrow : r.mandates.lookup lane.mandateId = some m)
      (hroom : m.activeReservations < m.maxActiveReservations)
      (hnew : lane.reservationId ∉ r.reservations)
      (hdigest : ∀ e ∈ r.reservations.entries,
        e.2.underlyingReservationDigest ≠ lane.underlyingReservationDigest) :
      Edit api r { r with
        mandates := r.mandates.insert lane.mandateId
          { m with activeReservations := m.activeReservations + 1, sequence }
        reservations := r.reservations.insert lane.reservationId lane }
  | closeLane {id : Id} {lane : MandateReservation V} {m : StandingMandate}
      (request : MandateReservationTransition) (sequence : ℕ)
      (hlane : r.reservations.lookup id = some lane) (hactive : lane.status = .active)
      (hrow : r.mandates.lookup lane.mandateId = some m) :
      Edit api r { r with
        mandates := r.mandates.insert lane.mandateId
          { m with activeReservations := m.activeReservations - 1, sequence }
        reservations := r.reservations.insert id (resolved lane request) }

abbrev Edits (api : ParticipantApi V) : ParticipantRegistry V → ParticipantRegistry V → Prop :=
  Reaches (Edit api)

end Edits

section Follows

variable {api : ParticipantApi V} {r t u : ParticipantRegistry V}

theorem Follows.refl (r : ParticipantRegistry V) : Follows r r where
  participants _ p h := ⟨p, h, rfl, fun hp => hp⟩
  services _ h := h
  mandates _ m h := ⟨m, h, fun hm => hm⟩
  reservations _ lane h := ⟨lane, h, fun _ => rfl⟩
  consumed := Finset.Subset.refl _

theorem Follows.trans (hrt : Follows r t) (htu : Follows t u) : Follows r u := by
  constructor <;> grind [Follows]

theorem Follows.mem_participants (h : Follows r t) {id : Id} (hid : id ∈ r.participants) :
    id ∈ t.participants := by
  grind [Follows]

theorem Follows.mem_mandates (h : Follows r t) {id : Id} (hid : id ∈ r.mandates) :
    id ∈ t.mandates := by
  grind [Follows]

variable [Zero V] [DecidableEq V]

theorem Edit.follows (h : Edit api r t) : Follows r t := by
  cases h <;> constructor <;> grind [Revises]

theorem Edit.edits (h : Edit api r t) : Edits api r t := Relation.ReflTransGen.single h

theorem Edits.snoc (h : Edits api r t) (hedit : Edit api t u) : Edits api r u :=
  Relation.ReflTransGen.tail h hedit

theorem Edits.follows (h : Edits api r t) : Follows r t :=
  Reaches.invariant (fun _ _ hr hedit => hr.trans hedit.follows) (Follows.refl r) h

end Follows

section Sound

attribute [local grind =] bind_eq_ok require_eq_ok okOr_eq_ok pure_eq_ok forEach_eq_ok

variable {api : ParticipantApi V} {r t : ParticipantRegistry V}

/-! Rows stay valid when what they refer to stays. -/

theorem validateService_mono (hf : Follows r t) {e : Sigma fun _ : Id => MpcService}
    (h : r.validateService api e = .ok ()) : t.validateService api e = .ok () := by
  simp only [validateService, participant, ok_iff, forEach_eq_ok] at h ⊢
  grind [Follows]

theorem validateAccountBinding_mono (hf : Follows r t) {e : Sigma fun _ : Id => AccountBinding}
    (h : r.validateAccountBinding api e = .ok ()) : t.validateAccountBinding api e = .ok () := by
  grind [validateAccountBinding, Follows]

theorem validateServiceBinding_mono (hf : Follows r t)
    {e : Sigma fun _ : Id => ParticipantServiceBinding}
    (h : r.validateServiceBinding api e = .ok ()) : t.validateServiceBinding api e = .ok () := by
  grind [validateServiceBinding, Follows]

theorem validateMandate_mono (hf : Follows r t) {id : Id} {m m' : StandingMandate}
    (h : r.validateMandate api ⟨id, m⟩ = .ok ())
    (hbody : { m' with activeReservations := 0, sequence := 0, status := .active } =
      { m with activeReservations := 0, sequence := 0, status := .active })
    (hcount : m'.activeReservations = t.activeByMandate id) :
    t.validateMandate api ⟨id, m'⟩ = .ok () := by
  grind [validateMandate, Follows]

/-- One for a lane that is open under the mandate. -/
def openUnder (mandateId _key : Id) (lane : MandateReservation V) : ℕ :=
  if lane.status = .active ∧ lane.mandateId = mandateId then 1 else 0

theorem activeByMandate_eq_total (r : ParticipantRegistry V) (mandateId : Id) :
    r.activeByMandate mandateId = total (openUnder mandateId) r.reservations := by
  unfold activeByMandate total
  induction r.reservations.entries with
  | nil => rfl
  | cons e entries ih =>
    rw [List.countP_cons, List.map_cons, List.sum_cons, ih, openUnder, add_comm]
    simp

theorem activeByMandate_open {lane : MandateReservation V} (hnew : lane.reservationId ∉ r.reservations)
    (hopen : lane.status = .active)
    (ht : t.reservations = r.reservations.insert lane.reservationId lane) (mandateId : Id) :
    t.activeByMandate mandateId =
      r.activeByMandate mandateId + if mandateId = lane.mandateId then 1 else 0 := by
  rw [activeByMandate_eq_total, ht, total_insert_of_not_mem _ hnew,
    activeByMandate_eq_total, add_comm]
  simp [openUnder, hopen, eq_comm]

theorem activeByMandate_close {id : Id} {lane : MandateReservation V}
    {request : MandateReservationTransition} (hlane : r.reservations.lookup id = some lane)
    (hopen : lane.status = .active)
    (ht : t.reservations = r.reservations.insert id (resolved lane request)) (mandateId : Id) :
    t.activeByMandate mandateId + (if mandateId = lane.mandateId then 1 else 0) =
      r.activeByMandate mandateId := by
  have hclosed : openUnder mandateId id (resolved lane request) = 0 := by
    cases hk : request.kind with
    | release | consume => simp [openUnder, resolved, ReservationTransitionKind.outcome, hk]
  have htotal := total_insert_of_lookup (openUnder mandateId) hlane
    (w := resolved lane request)
  rw [hclosed, add_zero, ← ht, ← activeByMandate_eq_total, ← activeByMandate_eq_total] at htotal
  rw [← htotal]
  simp [openUnder, hopen, eq_comm]

theorem not_isEmpty_of_participant {id : Id} (h : id ∈ r.participants) : ¬r.IsEmpty := by
  intro hempty
  have hentries := hempty.2.1
  simp [mem_keys, keys, hentries] at h

theorem not_isEmpty_of_consumed (r : ParticipantRegistry V) (id : Id) :
    ¬IsEmpty { r with consumedOperations := insert id r.consumedOperations } := by
  intro hempty
  exact absurd hempty.2.2.2.2.2.2.2 (Finset.insert_ne_empty _ _)

theorem not_isEmpty_of_mandate {id : Id} (h : id ∈ r.mandates) : ¬r.IsEmpty := by
  intro hempty
  have hentries := hempty.2.2.2.2.2.1
  simp [mem_keys, keys, hentries] at h

theorem participant_first {p : ParticipantRecord} (h : p.validate api = .ok ()) :
    { p with sequence := 0, status := .active } = p := by
  simp only [ParticipantRecord.validate, ok_iff] at h
  obtain ⟨hchecks, _⟩ := h
  have hsequence : p.sequence = 0 := by by_contra hne; exact hchecks (by simp [hne])
  have hstatus : p.status = .active := by by_contra hne; exact hchecks (by simp [hne])
  rw [← hsequence, ← hstatus]

theorem mandate_first {m : StandingMandate} {statement : Id}
    (h : m.statement api = .ok statement) :
    { m with activeReservations := 0, sequence := 0, status := .active } = m := by
  simp only [StandingMandate.statement, ok_iff] at h
  obtain ⟨hchecks, _⟩ := h
  have hactive : m.activeReservations = 0 := by by_contra hne; exact hchecks (by simp [hne])
  have hsequence : m.sequence = 0 := by by_contra hne; exact hchecks (by simp [hne])
  have hstatus : m.status = .active := by by_contra hne; exact hchecks (by simp [hne])
  cases m
  subst hactive hsequence hstatus
  rfl

variable [Zero V] [DecidableEq V]

/-- What `validate` asks of every row, and what it does not ask: that no counter is
above its bound and no reserve has two lanes. -/
structure Sound (api : ParticipantApi V) (r : ParticipantRegistry V) : Prop where
  empty : r.configuration = none → r.IsEmpty
  configuration : ∀ c, r.configuration = some c →
    (∃ statement, c.statement api = .ok statement) ∧ c.operationId ∈ r.consumedOperations
  participants : ∀ id p, r.participants.lookup id = some p →
    validateParticipant api ⟨id, p⟩ = .ok ()
  services : ∀ id s, r.services.lookup id = some s → r.validateService api ⟨id, s⟩ = .ok ()
  accountBindings : ∀ id b, r.accountBindings.lookup id = some b →
    r.validateAccountBinding api ⟨id, b⟩ = .ok ()
  serviceBindings : ∀ id b, r.serviceBindings.lookup id = some b →
    r.validateServiceBinding api ⟨id, b⟩ = .ok ()
  reservations : ∀ id lane, r.reservations.lookup id = some lane →
    r.validateReservation api ⟨id, lane⟩ = .ok ()
  mandates : ∀ id m, r.mandates.lookup id = some m → r.validateMandate api ⟨id, m⟩ = .ok ()
  bounded : ∀ id m, r.mandates.lookup id = some m →
    m.activeReservations ≤ m.maxActiveReservations
  distinct : ∀ i j a b, r.reservations.lookup i = some a → r.reservations.lookup j = some b →
    a.underlyingReservationDigest = b.underlyingReservationDigest → i = j

theorem sound_empty : Sound api (empty : ParticipantRegistry V) := by
  constructor
  case empty => exact fun _ => ⟨rfl, rfl, rfl, rfl, rfl, rfl, rfl, rfl⟩
  all_goals simp [ParticipantRegistry.empty]

theorem Sound.validate (h : Sound api r) : r.validate api = .ok () := by
  unfold ParticipantRegistry.validate
  split
  · rfl
  · rename_i hsome
    cases hc : r.configuration with
    | none => exact absurd (h.empty hc) hsome
    | some c =>
      obtain ⟨⟨statement, hstatement⟩, hused⟩ := h.configuration c hc
      have hrow : ∀ {α : Type} {t : Table Id α} {e : Sigma fun _ : Id => α},
          e ∈ t.entries → t.lookup e.1 = some e.2 := fun he => mem_lookup_iff.mpr he
      simp only [validateConfigured, hc, ok_iff, forEach_eq_ok]
      exact ⟨c, rfl, statement, hstatement, hused, fun e he => h.participants _ _ (hrow he), fun e
        he => h.services _ _ (hrow he), fun e he => h.accountBindings _ _ (hrow he), fun e he =>
        h.serviceBindings _ _ (hrow he), fun e he => h.reservations _ _ (hrow he), fun e he =>
        h.mandates _ _ (hrow he)⟩

theorem validateReservation_mono (hf : Follows r t)
    {e : Sigma fun _ : Id => MandateReservation V}
    (h : r.validateReservation api e = .ok ()) : t.validateReservation api e = .ok () := by
  grind [validateReservation, Follows]

theorem Sound.counted (h : Sound api r) {id : Id} {m : StandingMandate}
    (hrow : r.mandates.lookup id = some m) : m.activeReservations = r.activeByMandate id := by
  grind [validateMandate, Sound]

theorem Sound.activeByMandate_of_not_mem (h : Sound api r) {id : Id} (hid : id ∉ r.mandates) :
    r.activeByMandate id = 0 := by
  refine List.countP_eq_zero.mpr fun e he => ?_
  have hlane := h.reservations e.1 e.2 (mem_lookup_iff.mpr he)
  simp only [validateReservation, ok_iff] at hlane
  obtain ⟨_, _, _, hmandate⟩ := hlane
  simp only [decide_eq_true_eq]
  rintro ⟨_, rfl⟩
  exact hid hmandate

theorem lane_first {lane : MandateReservation V} {statement : Id}
    (h : lane.statement api = .ok statement) :
    { lane with status := .active, settlementDigest := 0 } = lane := by
  simp only [MandateReservation.statement, ok_iff] at h
  obtain ⟨hchecks, _⟩ := h
  have hstatus : lane.status = .active := by by_contra hne; exact hchecks (by simp [hne])
  have hsettlement : lane.settlementDigest = 0 := by by_contra hne; exact hchecks (by simp [hne])
  rw [← hstatus, ← hsettlement]

theorem Edit.sound (h : Edit api r t) (hr : Sound api r) : Sound api t := by
  have hf := h.follows
  -- rows that were not written stay valid
  have hservices : ∀ id s, r.services.lookup id = some s → t.validateService api ⟨id, s⟩ = .ok () :=
    fun id s hs => validateService_mono hf (hr.services id s hs)
  have haccounts : ∀ id b, r.accountBindings.lookup id = some b →
      t.validateAccountBinding api ⟨id, b⟩ = .ok () :=
    fun id b hb => validateAccountBinding_mono hf (hr.accountBindings id b hb)
  have hbindings : ∀ id b, r.serviceBindings.lookup id = some b →
      t.validateServiceBinding api ⟨id, b⟩ = .ok () :=
    fun id b hb => validateServiceBinding_mono hf (hr.serviceBindings id b hb)
  have hlanes : ∀ id lane, r.reservations.lookup id = some lane →
      t.validateReservation api ⟨id, lane⟩ = .ok () :=
    fun id lane hlane => validateReservation_mono hf (hr.reservations id lane hlane)
  have hmandates (hsame : t.reservations = r.reservations) : ∀ id m,
      r.mandates.lookup id = some m → t.validateMandate api ⟨id, m⟩ = .ok () :=
    fun id m hm => validateMandate_mono hf (hr.mandates id m hm) rfl
      ((hr.counted hm).trans (by simp [activeByMandate, hsame]))
  cases h with
  | configure => constructor <;> grind [Sound]
  | consume => constructor <;> grind [Sound, IsEmpty]
  | enrol =>
    constructor <;> grind [Sound, IsEmpty, validateParticipant, participant_first]
  | revise hrow hrevises =>
    have hsome := not_isEmpty_of_participant (mem_of_lookup hrow)
    constructor <;> grind [Sound, IsEmpty, Revises, validateParticipant]
  | service =>
    constructor <;> grind [Sound, IsEmpty, validateService, participant]
  | account hstatement hparticipant =>
    have hsome := not_isEmpty_of_participant hparticipant
    constructor <;> grind [Sound, IsEmpty, validateAccountBinding]
  | serviceBinding hstatement hparticipant hservice =>
    have hsome := not_isEmpty_of_participant hparticipant
    constructor <;> grind [Sound, IsEmpty, validateServiceBinding]
  | grant hstatement hparticipant hservice hnew =>
    have hsome := not_isEmpty_of_participant hparticipant
    have hfirst := mandate_first hstatement
    have hzero := hr.activeByMandate_of_not_mem hnew
    constructor <;> grind [Sound, IsEmpty, validateMandate, activeByMandate]
  | amend hrow hfinal =>
    have hsome := not_isEmpty_of_mandate (mem_of_lookup hrow)
    constructor <;> grind [Sound, IsEmpty, validateMandate, activeByMandate]
  | @openLane lane m statement sequence hstatement hrow hroom hnew hdigest =>
    have hsome := not_isEmpty_of_mandate (mem_of_lookup hrow)
    have hfirst := lane_first hstatement
    have hopen : lane.status = .active := (congrArg MandateReservation.status hfirst).symm
    have hopened := activeByMandate_open (t := { r with
      mandates := r.mandates.insert lane.mandateId
        { m with activeReservations := m.activeReservations + 1, sequence }
      reservations := r.reservations.insert lane.reservationId lane }) hnew hopen rfl
    refine ⟨fun h => absurd (hr.empty h) hsome, hr.configuration, hr.participants, hservices,
      haccounts, hbindings, ?_, fun id q hq => ?_, ?_, fun i j a b ha hb hab => ?_⟩
    · refine forall_insert hlanes ?_
      simp only [validateReservation, ok_iff]
      exact ⟨statement, hfirst.symm ▸ hstatement, trivial, hf.mem_mandates (mem_of_lookup hrow)⟩
    · rcases lookup_insert_cases hq with ⟨rfl, rfl⟩ | ⟨hne, hold⟩
      · refine validateMandate_mono hf (hr.mandates _ m hrow) rfl ?_
        rw [hopened, if_pos rfl, ← hr.counted hrow]
      · refine validateMandate_mono hf (hr.mandates id q hold) rfl ?_
        rw [hopened, if_neg hne, add_zero, ← hr.counted hold]
    · exact forall_insert hr.bounded hroom
    · have hfresh : ∀ i a, r.reservations.lookup i = some a →
          a.underlyingReservationDigest ≠ lane.underlyingReservationDigest :=
        fun i a ha => hdigest ⟨i, a⟩ (mem_lookup_iff.mp ha)
      grind [hr.distinct]
  | @closeLane key lane m request sequence hlane hactive hrow =>
    have hsome := not_isEmpty_of_mandate (mem_of_lookup hrow)
    have hclosed := activeByMandate_close (t := { r with
      mandates := r.mandates.insert lane.mandateId
        { m with activeReservations := m.activeReservations - 1, sequence }
      reservations := r.reservations.insert key (resolved lane request) }) hlane hactive rfl
    refine ⟨fun h => absurd (hr.empty h) hsome, hr.configuration, hr.participants, hservices,
      haccounts, hbindings, ?_, fun id q hq => ?_, ?_, fun i j a b ha hb hab => ?_⟩
    · refine forall_insert hlanes ?_
      exact hlanes key lane hlane
    · rcases lookup_insert_cases hq with ⟨rfl, rfl⟩ | ⟨hne, hold⟩
      · refine validateMandate_mono hf (hr.mandates _ m hrow) rfl ?_
        have hcount := hclosed lane.mandateId
        rw [if_pos rfl, ← hr.counted hrow] at hcount
        change m.activeReservations - 1 = _
        omega
      · refine validateMandate_mono hf (hr.mandates id q hold) rfl ?_
        rw [hr.counted hold, ← hclosed id, if_neg hne, add_zero]
    · exact forall_insert hr.bounded ((Nat.sub_le _ _).trans (hr.bounded _ m hrow))
    · grind [hr.distinct, resolved]

theorem Edits.sound (h : Edits api r t) (hr : Sound api r) : Sound api t :=
  Reaches.invariant (fun _ _ hs hedit => hedit.sound hs) hr h

end Sound

section Operations

open InPlace

/-! What each operation leaves behind, whether it was accepted or refused. -/

variable {api : ParticipantApi V} {r t : ParticipantRegistry V} {p : ParticipantRecord} {id : Id}
  {room : Prop}

theorem configured_eq_ok {c : RegistryConfiguration} :
    r.configured = .ok c ↔ r.configuration = some c := by
  simp [configured]

theorem participant_eq_ok : r.participant id = .ok p ↔ r.participants.lookup id = some p := by
  simp [participant]

theorem not_isEmpty_of_configured {c : RegistryConfiguration} (h : r.configured = .ok c) :
    ¬r.IsEmpty := by
  intro hempty
  rw [configured_eq_ok, hempty.1] at h
  cases h

theorem lookup_of_activeParticipant {now : ℕ}
    (h : r.activeParticipant id now = .ok p) : r.participants.lookup id = some p := by
  simp only [activeParticipant, ok_iff, participant_eq_ok] at h
  obtain ⟨_, hp, _, rfl⟩ := h
  exact hp

theorem lookup_of_requestedBy {sequence validFrom validUntil now : ℕ}
    (h : r.requestedBy id sequence validFrom validUntil now = .ok p) :
    r.participants.lookup id = some p := by
  simp only [requestedBy, ok_iff] at h
  obtain ⟨_, hp, _, rfl⟩ := h
  exact lookup_of_activeParticipant hp

theorem mem_of_activeService {now : ℕ} {s : MpcService}
    (h : r.activeService id now = .ok s) : id ∈ r.services := by
  simp only [activeService, ok_iff] at h
  obtain ⟨_, hs, _⟩ := h
  exact mem_of_lookup hs

theorem consumeOperation_ok (h : ensureOperationUnused id r = .ok ()) : consumeOperation id r =
      (.ok (), { r with consumedOperations := insert id r.consumedOperations }) :=
  check_bind_ok h

theorem consumeOperation_bind_ok {α : Type} {inv : ParticipantRegistry V → Prop}
    {f : Unit → InPlace (ParticipantRegistry V) α} (hunused : ensureOperationUnused id r = .ok ())
    (h : inv (f () { r with consumedOperations := insert id r.consumedOperations }).2) :
    inv ((consumeOperation id >>= f) r).2 := by
  rw [bind_snd_of_ok (consumeOperation_ok hunused)]
  exact h

theorem consumeOperation_bind {α : Type} {inv : ParticipantRegistry V → Prop}
    {f : Unit → InPlace (ParticipantRegistry V) α} (hs : inv r)
    (h : inv (f () { r with consumedOperations := insert id r.consumedOperations }).2) :
    inv ((consumeOperation id >>= f) r).2 := by
  cases hunused : ensureOperationUnused id r with
  | ok => exact consumeOperation_bind_ok hunused h
  | error e =>
    have hrefused : consumeOperation id r = (.error e, r) := check_bind_error hunused
    rw [bind_snd_of_error hrefused]
    exact hs

theorem revises_status {status : ParticipantStatus} {sequence : ℕ}
    (h : p.status = .revoked → status = .revoked) :
    Revises api p { p with status, sequence } := ⟨fun h => h, rfl, rfl, h⟩

theorem revises_keys {keys : ParticipantKeys}
    (h : keys.validate api = .ok ()) : Revises api p { p with keys } := by
  refine ⟨fun hp => ?_, rfl, rfl, fun h => h⟩
  simp only [ParticipantRecord.validate, ok_iff] at hp ⊢
  exact ⟨hp.1, h⟩

theorem mandate_eq_ok {m : StandingMandate} :
    r.mandate id = .ok m ↔ r.mandates.lookup id = some m := by
  simp [mandate]

def HasRoom (r : ParticipantRegistry V) (mandateId : Id) : Prop :=
  ∀ m ∈ r.mandates.lookup mandateId, m.sequence < u64Max

instance (r : ParticipantRegistry V) (mandateId : Id) : Decidable (r.HasRoom mandateId) :=
  inferInstanceAs (Decidable (∀ m ∈ r.mandates.lookup mandateId, m.sequence < u64Max))

theorem nextSequence_error {n : ℕ} {e : String} (h : nextSequence n = .error e) : ¬n < u64Max := by
  intro hlt
  simp [nextSequence, checkedSucc, hlt, okOr] at h

def LinkedHaveRoom (r : ParticipantRegistry V) (digest : Id) : Prop :=
  ∀ lane ∈ r.linked digest, ∀ stored ∈ r.reservations.lookup lane.reservationId,
    r.HasRoom stored.mandateId

instance (r : ParticipantRegistry V) (digest : Id) : Decidable (r.LinkedHaveRoom digest) :=
  inferInstanceAs (Decidable (∀ lane ∈ r.linked digest,
    ∀ stored ∈ r.reservations.lookup lane.reservationId, r.HasRoom stored.mandateId))

variable [Zero V] [DecidableEq V]

theorem bumpParticipantSequence_edits (id : Id) :
    Edits api r (bumpParticipantSequence id r).2 := by
  refine check_bind_snd .refl fun p hp => ?_
  refine check_bind_snd .refl fun sequence _ => ?_
  exact .single (.revise (participant_eq_ok.mp hp) (revises_status fun h => h))

theorem configure_edits (c : RegistryConfiguration) : Edits api r (configure api c r).2 := by
  refine check_bind_snd .refl fun _ hnone => ?_
  refine check_bind_snd .refl fun statement hstatement => ?_
  refine consumeOperation_bind .refl ?_
  exact .single (.configure (require_eq_ok.mp hnone) hstatement)

theorem registerParticipant_edits (request : RegisterParticipant) (now : ℕ) :
    Edits api r (registerParticipant api request now r).2 := by
  simp only [registerParticipant, check_bind_snd_iff (P := Edits api r) .refl]
  intro _ hconfigured statement hstatement _ _ _ hnew
  have hsome := not_isEmpty_of_configured hconfigured
  simp only [RegisterParticipant.statement, ok_iff] at hstatement
  obtain ⟨_, hvalid, _⟩ := hstatement
  refine consumeOperation_bind .refl ?_
  have ht : Edits api r _ := (Edit.consume request.operationId hsome).edits
  exact ht.snoc (.enrol (not_isEmpty_of_consumed _ _) (require_eq_ok.mp hnew) hvalid)

theorem controlParticipant_edits (request : ParticipantControl) :
    Edits api r (controlParticipant api request r).2 := by
  simp only [controlParticipant, check_bind_snd_iff (P := Edits api r) .refl]
  intro _ _ statement _ _ _ p hp _ hcontrol
  have hrow := participant_eq_ok.mp hp
  have hlive : p.status ≠ .revoked := fun h => require_eq_ok.mp hcontrol (by simp [h])
  refine bind_snd (.single (.revise hrow (revises_status fun h => absurd h hlive)))
    fun _ t _ ht => ?_
  refine bind_snd (ht.trans (bumpParticipantSequence_edits _)) fun _ u _ hu => ?_
  have hsome := not_isEmpty_of_participant
    (hu.follows.mem_participants (mem_of_lookup hrow))
  exact consumeOperation_bind hu (hu.snoc (.consume _ hsome))

theorem rotateKey_edits (request : RotateParticipantKey) (approval : EntityApproval) :
    Edits api r (rotateKey api request approval r).2 := by
  simp only [rotateKey, check_bind_snd_iff (P := Edits api r) .refl]
  intro statement _ _ _ _ _ p hp _ _ _ _ _ _ _ hkeys
  have hrow := participant_eq_ok.mp hp
  refine bind_snd (.single (.revise hrow (revises_keys hkeys))) fun _ t _ ht => ?_
  refine bind_snd (ht.trans (bumpParticipantSequence_edits _)) fun _ u _ hu => ?_
  have hsome := not_isEmpty_of_participant
    (hu.follows.mem_participants (mem_of_lookup hrow))
  exact check_bind_snd hu fun _ _ => consumeOperation_bind hu (hu.snoc (.consume _ hsome))

theorem registerService_edits (s : MpcService) (now : ℕ) :
    Edits api r (registerService api s now r).2 := by
  simp only [registerService, check_bind_snd_iff (P := Edits api r) .refl]
  intro _ hconfigured statement hstatement _ _ _ hmembers _ hnew
  have hsome := not_isEmpty_of_configured hconfigured
  refine consumeOperation_bind .refl ?_
  have ht : Edits api r _ := (Edit.consume s.operationId hsome).edits
  refine ht.snoc (.service (not_isEmpty_of_consumed _ _) hstatement (require_eq_ok.mp hnew)
    fun m hm => ?_)
  simp only [forEach_eq_ok, ok_iff] at hmembers
  obtain ⟨p, hp, hrole⟩ := hmembers m hm
  exact ⟨p, lookup_of_activeParticipant hp, hrole⟩

theorem bindAccount_edits (b : AccountBinding) (approval : EntityApproval) (now : ℕ) :
    Edits api r (bindAccount api b approval now r).2 := by
  simp only [bindAccount, check_bind_snd_iff (P := Edits api r) .refl]
  intro statement hstatement _ _ _ _ p hp _ _
  have hmem := mem_of_lookup (lookup_of_requestedBy hp)
  refine bind_snd (bumpParticipantSequence_edits _) fun _ t _ ht => ?_
  have hsome := not_isEmpty_of_participant (ht.follows.mem_participants hmem)
  refine consumeOperation_bind ht ?_
  have hu := ht.snoc (.consume b.operationId hsome)
  exact hu.snoc (.account hstatement (hu.follows.mem_participants hmem))

theorem bindService_edits (b : ParticipantServiceBinding) (approval : EntityApproval) (now : ℕ) :
    Edits api r (bindService api b approval now r).2 := by
  simp only [bindService, check_bind_snd_iff (P := Edits api r) .refl]
  intro statement hstatement _ _ _ _ p hp s hs _ _ _ _
  have hmem := mem_of_lookup (lookup_of_requestedBy hp)
  refine bind_snd (bumpParticipantSequence_edits _) fun _ t _ ht => ?_
  have hsome := not_isEmpty_of_participant (ht.follows.mem_participants hmem)
  refine consumeOperation_bind ht ?_
  have hu := ht.snoc (.consume b.operationId hsome)
  exact hu.snoc (.serviceBinding hstatement (hu.follows.mem_participants hmem)
    (hu.follows.services _ (mem_of_activeService hs)))

theorem createMandate_edits (m : StandingMandate) (approval : EntityApproval) (now : ℕ) :
    Edits api r (createMandate api m approval now r).2 := by
  simp only [createMandate, check_bind_snd_iff (P := Edits api r) .refl]
  intro statement hstatement _ _ _ _ p hp _ _ _ hservice _ _ _ hnew
  have hmem := mem_of_lookup (lookup_of_requestedBy hp)
  simp only [checkMandateService, ok_iff] at hservice
  obtain ⟨s, hs, _⟩ := hservice
  -- raising the participant's sequence number leaves the mandates alone
  refine bind_snd (bumpParticipantSequence_edits _) fun _ t hbump ht => ?_
  have hmandates : t.mandates = r.mandates := by
    simp only [bumpParticipantSequence, putParticipant, InPlace.ran_iff] at hbump
    obtain ⟨_, _, _, _, rfl⟩ := hbump
    rfl
  have hsome := not_isEmpty_of_participant (ht.follows.mem_participants hmem)
  refine consumeOperation_bind ht ?_
  have hu := ht.snoc (.consume m.operationId hsome)
  exact hu.snoc (.grant hstatement (hu.follows.mem_participants hmem)
    (hu.follows.services _ (mem_of_activeService hs)) (hmandates ▸ require_eq_ok.mp hnew))

theorem controlMandate_edits (request : MandateControl) (approval : EntityApproval) :
    Edits api r (controlMandate api request approval r).2 := by
  simp only [controlMandate, check_bind_snd_iff (P := Edits api r) .refl]
  intro statement _ m hm _ _ _ _ _ hcontrol
  have hrow := mandate_eq_ok.mp hm
  have hlive : m.status ≠ .revoked := fun h => require_eq_ok.mp hcontrol (by simp [h])
  have hfinal : m.status = .revoked → MandateControl.status request = .revoked :=
    fun h => absurd h hlive
  refine bind_snd (.single (.amend hrow hfinal)) fun _ t ht hstatus => ?_
  obtain rfl := modify_eq.mp ht
  refine check_bind_snd hstatus fun sequence _ => ?_
  refine bind_snd (.single ?_) fun _ u hu hboth => ?_
  · simp only [putMandate, InPlace.modify, insert_insert]
    exact .amend hrow hfinal
  · have hsome := not_isEmpty_of_mandate (hboth.follows.mem_mandates (mem_of_lookup hrow))
    exact consumeOperation_bind hboth (hboth.snoc (.consume _ hsome))

/-- A lane is counted before the change is numbered. Where no number is left, the
count stays behind without a lane. -/
inductive Leaves (api : ParticipantApi V) (r : ParticipantRegistry V) (room : Prop) :
    ParticipantRegistry V → Prop
  | edits {t : ParticipantRegistry V} (h : Edits api r t) : Leaves api r room t
  | miscount {id : Id} {m : StandingMandate} (activeReservations : ℕ) (hfull : ¬room)
      (hrow : r.mandates.lookup id = some m) : Leaves api r room
        { r with mandates := r.mandates.insert id { m with activeReservations } }

theorem leaves_refl : Leaves api r room r := .edits .refl

theorem Leaves.follows (h : Leaves api r room t) : Follows r t := by
  cases h with
  | edits h => exact h.follows
  | miscount =>
    constructor <;> grind

theorem Leaves.mono {room room' : Prop} (h : Leaves api r room t) (himp : room' → room) :
    Leaves api r room' t := by
  cases h with
  | edits h => exact .edits h
  | miscount n hfull hrow => exact .miscount n (fun h => hfull (himp h)) hrow

theorem Leaves.edits_of_room (h : Leaves api r room t) (hroom : room) : Edits api r t := by
  cases h with
  | edits h => exact h
  | miscount n hfull hrow => exact absurd hroom hfull

theorem reserveUnderMandate_leaves (lane : MandateReservation V) (now : ℕ) :
    Leaves api r (r.HasRoom lane.mandateId) (reserveUnderMandate api lane now r).2 := by
  simp only [reserveUnderMandate, check_bind_snd_iff (P := Leaves api r _) leaves_refl]
  intro statement hstatement _ hunused m hm _ _ s _ _ hcovers _ hnew
  have hrow := mandate_eq_ok.mp hm
  have hbelow : m.activeReservations < m.maxActiveReservations := by
    by_contra h
    exact require_eq_ok.mp hcovers (by simp [Nat.le_of_not_lt h])
  have hfresh := require_eq_ok.mp hnew
  simp only [not_or, not_exists, not_and] at hfresh
  refine modify_bind_snd ?_
  refine check_bind_cases (fun e he => ?_) fun sequence _ => ?_
  · exact .miscount _ (fun hroom => nextSequence_error he (hroom m hrow)) hrow
  refine modify_bind_snd ?_
  refine consumeOperation_bind_ok hunused ?_
  have hopen : Edits api r _ :=
    (Edit.openLane sequence hstatement hrow hbelow hfresh.1 hfresh.2).edits
  have hsome := not_isEmpty_of_mandate (hopen.follows.mem_mandates (mem_of_lookup hrow))
  have hboth := hopen.snoc (.consume lane.operationId hsome)
  simp only [insert_insert]
  exact .edits hboth

theorem transitionReservation_leaves (request : MandateReservationTransition) (now : ℕ) :
    Leaves api r (∀ lane ∈ r.reservations.lookup request.reservationId, r.HasRoom lane.mandateId)
      (transitionReservation api request now r).2 := by
  simp only [transitionReservation, check_bind_snd_iff (P := Leaves api r _) leaves_refl]
  intro statement _ _ hunused lane hlane _ hactive m hm _ _ _ _
  have hrow := mandate_eq_ok.mp hm
  have hstored := okOr_eq_ok.mp hlane
  refine modify_bind_snd ?_
  refine check_bind_cases (fun e he => ?_) fun sequence _ => ?_
  · exact .miscount _ (fun hroom => nextSequence_error he (hroom lane hstored m hrow)) hrow
  refine modify_bind_snd ?_
  refine modify_bind_snd ?_
  refine consumeOperation_bind_ok hunused ?_
  have hclose : Edits api r _ :=
    (Edit.closeLane request sequence hstored (require_eq_ok.mp hactive) hrow).edits
  have hsome := not_isEmpty_of_mandate (hclose.follows.mem_mandates (mem_of_lookup hrow))
  have hboth := hclose.snoc (.consume request.operationId hsome)
  simp only [insert_insert]
  exact .edits hboth

theorem automaticTransition_leaves (evidence : AutomaticReservationEvidence V)
    (kind : ReservationTransitionKind) (now : ℕ) :
    Leaves api r (r.LinkedHaveRoom evidence.underlyingReservationDigest)
      (automaticTransition api evidence kind now r).2 := by
  refine check_bind_snd leaves_refl fun _ _ => ?_
  refine check_bind_snd leaves_refl fun lanes hlanes => ?_
  have hlinked : r.linked evidence.underlyingReservationDigest = lanes := Except.ok.inj hlanes
  cases lanes with
  | nil => exact leaves_refl
  | cons lane rest =>
    cases rest with
    | cons => exact leaves_refl
    | nil =>
      refine check_bind_snd leaves_refl fun stored _ => ?_
      refine check_bind_snd leaves_refl fun m _ => ?_
      refine check_bind_snd leaves_refl fun _ _ => ?_
      refine bind_snd ((transitionReservation_leaves _ now).mono fun hroom => ?_) fun _ _ _ ht => ht
      exact hroom lane (by simp [hlinked])

end Operations

/-- Whether the mandate that an operation counts under can still number the change. -/
def OpHasRoom (r : ParticipantRegistry V) : RegistryOp V → Prop
  | .request (.reserveUnderMandate lane) _ => r.HasRoom lane.mandateId
  | .request (.transitionReservation t) _ =>
    ∀ lane ∈ r.reservations.lookup t.reservationId, r.HasRoom lane.mandateId
  | .request _ _ => True
  | .settle evidence _ _ => r.LinkedHaveRoom evidence.underlyingReservationDigest

instance (r : ParticipantRegistry V) : ∀ op, Decidable (r.OpHasRoom op)
  | .request (.reserveUnderMandate lane) _ => inferInstanceAs (Decidable (r.HasRoom lane.mandateId))
  | .request (.transitionReservation t) _ => inferInstanceAs
      (Decidable (∀ lane ∈ r.reservations.lookup t.reservationId, r.HasRoom lane.mandateId))
  | .settle evidence _ _ =>
    inferInstanceAs (Decidable (r.LinkedHaveRoom evidence.underlyingReservationDigest))
  | .request (.configure _) _ => isTrue trivial
  | .request (.registerParticipant _) _ => isTrue trivial
  | .request (.controlParticipant _) _ => isTrue trivial
  | .request (.rotateKey _ _) _ => isTrue trivial
  | .request (.registerService _) _ => isTrue trivial
  | .request (.bindAccount _ _) _ => isTrue trivial
  | .request (.bindService _ _) _ => isTrue trivial
  | .request (.createMandate _ _) _ => isTrue trivial
  | .request (.controlMandate _ _) _ => isTrue trivial

variable [Zero V] [DecidableEq V]

theorem perform_leaves (api : ParticipantApi V) (r : ParticipantRegistry V) (op : RegistryOp V) :
    Leaves api r (r.OpHasRoom op) (perform api op r).2 := by
  cases op with
  | settle evidence kind now => exact automaticTransition_leaves evidence kind now
  | request request now =>
    refine InPlace.bind_snd ?_ fun _ _ _ ht => ht
    cases request with
    | configure c => exact .edits (configure_edits c)
    | registerParticipant q => exact .edits (registerParticipant_edits q now)
    | controlParticipant q => exact .edits (controlParticipant_edits q)
    | rotateKey q entity => exact .edits (rotateKey_edits q entity)
    | registerService s => exact .edits (registerService_edits s now)
    | bindAccount b entity => exact .edits (bindAccount_edits b entity now)
    | bindService b entity => exact .edits (bindService_edits b entity now)
    | createMandate m entity => exact .edits (createMandate_edits m entity now)
    | controlMandate q entity => exact .edits (controlMandate_edits q entity)
    | reserveUnderMandate lane => exact reserveUnderMandate_leaves lane now
    | transitionReservation q => exact transitionReservation_leaves q now

end ParticipantRegistry
end DeFMI.Participant
