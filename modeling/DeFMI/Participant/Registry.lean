import DeFMI.Lib.Transaction
import DeFMI.Participant.Requests
set_option autoImplicit false

/-!
The participant registry. Every operation works on the registry in place, so a
refusal may leave earlier writes behind; a caller that wants none works on a copy.
-/

namespace DeFMI.Participant
open Lib InPlace ParticipantError

structure ParticipantRegistry (V : Type) where
  configuration : Option RegistryConfiguration
  participants : Table Id ParticipantRecord
  accountBindings : Table Id AccountBinding
  services : Table Id MpcService
  serviceBindings : Table Id ParticipantServiceBinding
  mandates : Table Id StandingMandate
  reservations : Table Id (MandateReservation V)
  consumedOperations : Finset Id

namespace ParticipantRegistry

variable {V : Type} [Zero V] [DecidableEq V]

def empty : ParticipantRegistry V := ⟨none, ∅, ∅, ∅, ∅, ∅, ∅, ∅⟩

section
variable (api : ParticipantApi V) (r : ParticipantRegistry V) (reservation : MandateReservation V)
  (request : MandateReservationTransition) (now : ℕ)

def IsEmpty : Prop :=
  r.configuration = none ∧ r.participants.entries = [] ∧ r.accountBindings.entries = [] ∧
    r.services.entries = [] ∧ r.serviceBindings.entries = [] ∧ r.mandates.entries = [] ∧
    r.reservations.entries = [] ∧ r.consumedOperations = ∅

instance (r : ParticipantRegistry V) : Decidable r.IsEmpty :=
  inferInstanceAs (Decidable (_ ∧ _))

def participant (participantId : Id) : Result ParticipantRecord :=
  okOr (r.participants.lookup participantId) unknownParticipant.text

def activeByMandate (mandateId : Id) : ℕ :=
  r.reservations.entries.countP (fun e => e.2.status = .active ∧ e.2.mandateId = mandateId)

def validateService (e : Sigma fun _ : Id => MpcService) : Check := do
  let _ ← e.2.statement api
  require (e.1 = e.2.serviceId) invalidState.text
  forEach (fun member => do
    let operator ← r.participant member.operatorParticipantId
    require (.mpcOperator ∈ operator.roles) invalidState.text) e.2.members

/-- A stored record is its first version except for what operations may change. -/
def validateParticipant (e : Sigma fun _ : Id => ParticipantRecord) : Check := do
  ParticipantRecord.validate api { e.2 with sequence := 0, status := .active }
  require (e.1 = e.2.participantId) invalidState.text

def validateAccountBinding (e : Sigma fun _ : Id => AccountBinding) : Check := do
  let _ ← e.2.statement api
  require (e.1 = e.2.bindingId ∧ e.2.participantId ∈ r.participants)
    invalidState.text

def validateServiceBinding (e : Sigma fun _ : Id => ParticipantServiceBinding) : Check := do
  let _ ← e.2.statement api
  require (e.1 = e.2.bindingId ∧ e.2.participantId ∈ r.participants ∧ e.2.serviceId ∈ r.services)
    invalidState.text

def validateReservation (e : Sigma fun _ : Id => MandateReservation V) : Check := do
  let _ ← MandateReservation.statement api { e.2 with status := .active, settlementDigest := 0 }
  require (e.1 = e.2.reservationId ∧ e.2.mandateId ∈ r.mandates) invalidState.text

def validateMandate (e : Sigma fun _ : Id => StandingMandate) : Check := do
  let _ ← StandingMandate.statement api
    { e.2 with activeReservations := 0, sequence := 0, status := .active }
  require (e.1 = e.2.mandateId ∧ e.2.participantId ∈ r.participants ∧ e.2.serviceId ∈ r.services ∧
      e.2.activeReservations = r.activeByMandate e.1) invalidState.text

def validateConfigured : Check := do
  let configuration ← okOr r.configuration registryNotConfigured.text
  let _ ← configuration.statement api
  require (configuration.operationId ∈ r.consumedOperations) invalidState.text
  forEach (validateParticipant api) r.participants.entries
  forEach (r.validateService api) r.services.entries
  forEach (r.validateAccountBinding api) r.accountBindings.entries
  forEach (r.validateServiceBinding api) r.serviceBindings.entries
  forEach (r.validateReservation api) r.reservations.entries
  forEach (r.validateMandate api) r.mandates.entries

def validate : Check :=
  if r.IsEmpty then .ok () else r.validateConfigured api

def configured : Result RegistryConfiguration :=
  okOr r.configuration registryNotConfigured.text

def ensureOperationUnused (operationId : Id) (r : ParticipantRegistry V) : Check :=
  require (¬(operationId = 0 ∨ operationId ∈ r.consumedOperations))
    operationAlreadyUsed.text

def consumeOperation (operationId : Id) : InPlace (ParticipantRegistry V) Unit := do
  check (ensureOperationUnused operationId)
  modify fun r => { r with consumedOperations := insert operationId r.consumedOperations }

def activeParticipant (participantId : Id) (now : ℕ) : Result ParticipantRecord := do
  let participant ← r.participant participantId
  require (¬(participant.status ≠ .active ∨ now < participant.validFrom ∨
      participant.validUntil < now)) participantUnavailable.text
  pure participant

def activeService (serviceId : Id) (now : ℕ) : Result MpcService := do
  let service ← okOr (r.services.lookup serviceId) unknownService.text
  require (¬(service.status ≠ .active ∨ now < service.validFrom ∨ service.validUntil < now))
    serviceUnavailable.text
  pure service

def verifyApproval (participantId : Id) (purpose : KeyPurpose) (statement : Id)
    (approval : EntityApproval) (r : ParticipantRegistry V) : Check := do
  let configuration ← r.configured
  let participant ← r.participant participantId
  let key := participant.keys.key purpose
  require (¬(approval.participantId ≠ participantId ∨ approval.keyPurpose ≠ purpose ∨
      approval.keyEpoch ≠ key.epoch ∨ approval.statement ≠ statement ∨
      approval.signature.length ≠ 64 + 3309)) invalidEntityApproval.text
  key.validate api
  require (api.signature configuration.domainId key approval = true)
    invalidEntityApproval.text

def putParticipant (participantId : Id) (participant : ParticipantRecord) :
    InPlace (ParticipantRegistry V) Unit :=
  modify fun r => { r with participants := r.participants.insert participantId participant }

def putMandate (mandateId : Id) (mandate : StandingMandate) : InPlace (ParticipantRegistry V) Unit :=
  modify fun r => { r with mandates := r.mandates.insert mandateId mandate }

def bumpParticipantSequence (participantId : Id) : InPlace (ParticipantRegistry V) Unit := do
  let participant ← check fun r => r.participant participantId
  let sequence ← check fun _ =>
    okOr (checkedSucc participant.sequence) arithmeticOverflow.text
  putParticipant participantId { participant with sequence }

def configure (configuration : RegistryConfiguration) : InPlace (ParticipantRegistry V) Id := do
  check fun r =>
    require (r.configuration = none) registryAlreadyConfigured.text
  let statement ← check fun _ => configuration.statement api
  consumeOperation configuration.operationId
  modify fun r => { r with configuration := some configuration }
  pure statement

def registerParticipant (request : RegisterParticipant) (now : ℕ) :
    InPlace (ParticipantRegistry V) Id := do
  let _ ← check configured
  let statement ← check fun _ => request.statement api
  let participant := request.participant
  check fun _ => require (¬(now < participant.validFrom ∨ participant.validUntil < now))
    outsideValidityWindow.text
  check fun r => require (participant.participantId ∉ r.participants)
    duplicateParticipant.text
  consumeOperation request.operationId
  putParticipant participant.participantId participant
  pure statement

def ParticipantControl.status (c : ParticipantControl) : ParticipantStatus :=
  match c.kind with
  | .activate => .active
  | .suspend => .suspended
  | .revoke => .revoked

/-- The new status is written before the sequence number is checked. -/
def controlParticipant (request : ParticipantControl) : InPlace (ParticipantRegistry V) Id := do
  let _ ← check configured
  let statement ← check fun _ => request.statement api
  check (ensureOperationUnused request.operationId)
  let participant ← check fun r => r.participant request.participantId
  check fun _ => require (¬(participant.sequence ≠ request.expectedSequence ∨
      participant.status = .revoked ∨
      (request.kind = .activate ∧ participant.status = .active) ∨
      (request.kind = .suspend ∧ participant.status ≠ .active))) invalidControl.text
  putParticipant request.participantId { participant with status := ParticipantControl.status request }
  bumpParticipantSequence request.participantId
  consumeOperation request.operationId
  pure statement

def rotateKey (request : RotateParticipantKey) (approval : EntityApproval) :
    InPlace (ParticipantRegistry V) Id := do
  let statement ← check fun _ => request.statement api
  check (verifyApproval api request.participantId .admin statement approval)
  check (ensureOperationUnused request.operationId)
  let participant ← check fun r => r.participant request.participantId
  check fun _ => require (participant.status = .active)
    participantUnavailable.text
  check fun _ => require (participant.sequence = request.expectedSequence)
    staleSequence.text
  let current := participant.keys.key request.purpose
  check fun _ => require (¬(request.newKey.epoch ≠ current.epoch + 1 ∨
      request.newKey.publicKey = current.publicKey ∨
      request.newKey.pqPublicKey = current.pqPublicKey)) invalidKey.text
  let keys := participant.keys.replace request.newKey request.purpose
  check fun _ => keys.validate api
  putParticipant request.participantId { participant with keys }
  bumpParticipantSequence request.participantId
  check fun _ => keys.validate api
  consumeOperation request.operationId
  pure statement

def registerService (service : MpcService) (now : ℕ) : InPlace (ParticipantRegistry V) Id := do
  let _ ← check configured
  let statement ← check fun _ => service.statement api
  check fun _ => require (¬(now < service.validFrom ∨ service.validUntil < now))
    outsideValidityWindow.text
  check fun r => forEach (fun member => do
    let operator ← r.activeParticipant member.operatorParticipantId now
    require (.mpcOperator ∈ operator.roles) missingRole.text) service.members
  check fun r => require (service.serviceId ∉ r.services)
    duplicateService.text
  consumeOperation service.operationId
  modify fun r => { r with services := r.services.insert service.serviceId service }
  pure statement

def requestedBy (participantId : Id) (expectedSequence : ℕ) (validFrom validUntil now : ℕ) :
    Result ParticipantRecord := do
  let participant ← r.activeParticipant participantId now
  require (¬(participant.sequence ≠ expectedSequence ∨ validFrom < participant.validFrom ∨
      participant.validUntil < validUntil)) staleSequence.text
  pure participant

def bindAccount (binding : AccountBinding) (approval : EntityApproval) (now : ℕ) :
    InPlace (ParticipantRegistry V) Id := do
  let statement ← check fun _ => binding.statement api
  check (verifyApproval api binding.participantId .settlement statement approval)
  check (ensureOperationUnused binding.operationId)
  let _ ← check fun r => r.requestedBy binding.participantId
    binding.expectedParticipantSequence binding.validFrom binding.validUntil now
  check fun r => require (binding.bindingId ∉ r.accountBindings)
    duplicateBinding.text
  bumpParticipantSequence binding.participantId
  consumeOperation binding.operationId
  modify fun r =>
    { r with accountBindings := r.accountBindings.insert binding.bindingId binding }
  pure statement

def bindService (binding : ParticipantServiceBinding) (approval : EntityApproval) (now : ℕ) :
    InPlace (ParticipantRegistry V) Id := do
  let statement ← check fun _ => binding.statement api
  check (verifyApproval api binding.participantId .mpcInput statement approval)
  check (ensureOperationUnused binding.operationId)
  let _ ← check fun r => r.requestedBy binding.participantId
    binding.expectedParticipantSequence binding.validFrom binding.validUntil now
  let service ← check fun r => r.activeService binding.serviceId now
  check fun _ => require (¬(service.committeeEpoch ≠ binding.serviceEpoch ∨
      binding.validFrom < service.validFrom ∨ service.validUntil < binding.validUntil))
    invalidBinding.text
  check fun r => require (binding.bindingId ∉ r.serviceBindings)
    duplicateBinding.text
  bumpParticipantSequence binding.participantId
  consumeOperation binding.operationId
  modify fun r =>
    { r with serviceBindings := r.serviceBindings.insert binding.bindingId binding }
  pure statement

def requiredRole : ReservationRole → ParticipantRole
  | .maker => .maker
  | .taker => .taker

def checkMandateService (mandate : StandingMandate) (now : ℕ) : Check := do
  let service ← r.activeService mandate.serviceId now
  require (¬(mandate.validFrom < service.validFrom ∨ service.validUntil < mandate.validUntil))
    invalidMandate.text
  let binding ← okOr (r.serviceBindings.lookup mandate.serviceBindingId)
    unknownBinding.text
  require (¬(binding.active = false ∨ binding.participantId ≠ mandate.participantId ∨
      binding.serviceId ≠ mandate.serviceId ∨ binding.serviceEpoch ≠ service.committeeEpoch ∨
      mandate.validFrom < binding.validFrom ∨ binding.validUntil < mandate.validUntil))
    invalidMandate.text

def checkMandateAccount (mandate : StandingMandate) (bindingId : Id) : Check := do
  let binding ← okOr (r.accountBindings.lookup bindingId) unknownBinding.text
  require (¬(binding.active = false ∨ binding.participantId ≠ mandate.participantId ∨
      binding.assetId ∉ mandate.permittedAssetIds ∨ mandate.validFrom < binding.validFrom ∨
      binding.validUntil < mandate.validUntil)) invalidMandate.text

def createMandate (mandate : StandingMandate) (approval : EntityApproval) (now : ℕ) :
    InPlace (ParticipantRegistry V) Id := do
  let statement ← check fun _ => mandate.statement api
  check (verifyApproval api mandate.participantId .settlement statement approval)
  check (ensureOperationUnused mandate.operationId)
  let participant ← check fun r => r.requestedBy mandate.participantId
    mandate.expectedParticipantSequence mandate.validFrom mandate.validUntil now
  check fun _ => require (requiredRole mandate.role ∈ participant.roles)
    missingRole.text
  check fun r => r.checkMandateService mandate now
  check fun r => forEach (r.checkMandateAccount mandate) mandate.accountBindingIds
  check fun r => require (mandate.mandateId ∉ r.mandates)
    duplicateMandate.text
  bumpParticipantSequence mandate.participantId
  consumeOperation mandate.operationId
  putMandate mandate.mandateId mandate
  pure statement

def MandateControl.status (c : MandateControl) : MandateStatus :=
  match c.kind with
  | .activate => .active
  | .suspend => .suspended
  | .revoke => .revoked

def mandate (mandateId : Id) : Result StandingMandate :=
  okOr (r.mandates.lookup mandateId) unknownMandate.text

def nextSequence (sequence : ℕ) : Result ℕ :=
  okOr (checkedSucc sequence) arithmeticOverflow.text

/-- The new status is written before the sequence number is checked. -/
def controlMandate (request : MandateControl) (approval : EntityApproval) :
    InPlace (ParticipantRegistry V) Id := do
  let statement ← check fun _ => request.statement api
  let mandate ← check fun r => r.mandate request.mandateId
  check (verifyApproval api mandate.participantId .settlement statement approval)
  check (ensureOperationUnused request.operationId)
  check fun _ => require (¬(mandate.sequence ≠ request.expectedMandateSequence ∨
      mandate.status = .revoked ∨ (mandate.activeReservations ≠ 0 ∧ request.kind = .revoke)))
    invalidControl.text
  let status := MandateControl.status request
  putMandate request.mandateId { mandate with status }
  let sequence ← check fun _ => nextSequence mandate.sequence
  putMandate request.mandateId { mandate with status, sequence }
  consumeOperation request.operationId
  pure statement

def Covers (mandate : StandingMandate) (service : MpcService) (reservation : MandateReservation V)
    (now : ℕ) : Prop :=
  ¬(mandate.status ≠ .active ∨ mandate.automaticSettlement = false ∨ now < mandate.validFrom ∨
    mandate.validUntil < now ∨ mandate.validUntil < reservation.expiresAt ∨
    reservation.expectedMandateSequence ≠ mandate.sequence ∨
    reservation.serviceId ≠ mandate.serviceId ∨
    reservation.serviceEpoch ≠ service.committeeEpoch ∨
    reservation.accountBindingId ∉ mandate.accountBindingIds ∨
    reservation.assetId ∉ mandate.permittedAssetIds ∨
    mandate.maxActiveReservations ≤ mandate.activeReservations ∨
    (mandate.role = .taker ∧ reservation.admissionReceiptDigest = 0) ∨
    (mandate.role = .maker ∧ reservation.admissionReceiptDigest ≠ 0))

instance (mandate : StandingMandate) (service : MpcService) (reservation : MandateReservation V)
    (now : ℕ) : Decidable (Covers mandate service reservation now) :=
  inferInstanceAs (Decidable (¬_))

/-- No fresh signature of the entity: the standing mandate authorises the lane. The
lane is counted before the sequence number is checked. -/
def reserveUnderMandate : InPlace (ParticipantRegistry V) Id := do
  let statement ← check fun _ => reservation.statement api
  check (ensureOperationUnused reservation.operationId)
  let mandate ← check fun r => r.mandate reservation.mandateId
  let _ ← check fun r => r.activeParticipant mandate.participantId now
  let service ← check fun r => r.activeService mandate.serviceId now
  check fun _ => require (Covers mandate service reservation now)
    invalidReservation.text
  check fun r => require (¬(reservation.reservationId ∈ r.reservations ∨
      ∃ e ∈ r.reservations.entries,
        e.2.underlyingReservationDigest = reservation.underlyingReservationDigest))
    duplicateReservation.text
  -- the counter is below a 32-bit maximum here and cannot overflow
  let activeReservations := mandate.activeReservations + 1
  putMandate reservation.mandateId { mandate with activeReservations }
  let sequence ← check fun _ => nextSequence mandate.sequence
  putMandate reservation.mandateId { mandate with activeReservations, sequence }
  consumeOperation reservation.operationId
  modify fun r =>
    { r with reservations := r.reservations.insert reservation.reservationId reservation }
  pure statement

def ReservationTransitionKind.outcome : ReservationTransitionKind → HoldStatus
  | .consume => .consumed
  | .release => .released

def resolved : MandateReservation V :=
  { reservation with
    status := ReservationTransitionKind.outcome request.kind
    settlementDigest := request.settlementDigest }

def Resolvable (mandate : StandingMandate) (reservation : MandateReservation V)
    (request : MandateReservationTransition) (now : ℕ) : Prop :=
  ¬(mandate.sequence ≠ request.expectedMandateSequence ∨
    (request.kind = .consume ∧
      (reservation.expiresAt < now ∨ mandate.automaticSettlement = false)) ∨
    (request.kind = .release ∧ now < reservation.expiresAt))

instance (mandate : StandingMandate) (reservation : MandateReservation V)
    (request : MandateReservationTransition) (now : ℕ) :
    Decidable (Resolvable mandate reservation request now) := inferInstanceAs (Decidable (¬_))

def transitionReservation : InPlace (ParticipantRegistry V) Id := do
  let statement ← check fun _ => request.statement api
  check (ensureOperationUnused request.operationId)
  let reservation ← check fun r => okOr (r.reservations.lookup request.reservationId)
    unknownReservation.text
  check fun _ => require (reservation.status = .active)
    invalidReservation.text
  let mandate ← check fun r => r.mandate reservation.mandateId
  check fun _ => require (Resolvable mandate reservation request now)
    invalidReservation.text
  check fun _ => require (mandate.activeReservations ≠ 0)
    arithmeticOverflow.text
  let activeReservations := mandate.activeReservations - 1
  putMandate reservation.mandateId { mandate with activeReservations }
  let sequence ← check fun _ => nextSequence mandate.sequence
  putMandate reservation.mandateId { mandate with activeReservations, sequence }
  modify fun r => { r with
    reservations := r.reservations.insert request.reservationId (resolved reservation request) }
  consumeOperation request.operationId
  pure statement

def linked (underlyingReservationDigest : Id) : List (MandateReservation V) :=
  (r.reservations.entries.map (fun e => e.2)).filter
    (fun reservation => reservation.underlyingReservationDigest = underlyingReservationDigest)

def followLane (evidence : AutomaticReservationEvidence V) (kind : ReservationTransitionKind)
    (now : ℕ) (reservationId : Id) : InPlace (ParticipantRegistry V) Unit := do
  let reservation ← check fun r => okOr (r.reservations.lookup reservationId)
    unknownReservation.text
  let mandate ← check fun r => r.mandate reservation.mandateId
  check fun _ => require (¬(reservation.amountCommitment ≠ evidence.amountCommitment ∨
      reservation.assetId ≠ evidence.assetId ∨ mandate.role ≠ evidence.role))
    invalidReservation.text
  let operationId := api.automaticTransition reservationId kind evidence.settlementDigest
    evidence.transitionProofDigest
  let _ ← transitionReservation api ⟨operationId, reservationId, mandate.sequence, kind,
    evidence.settlementDigest, evidence.transitionProofDigest⟩ now

/-- A reserve that no lane was opened for is settled without the registry. -/
def automaticTransition (evidence : AutomaticReservationEvidence V)
    (kind : ReservationTransitionKind) (now : ℕ) : InPlace (ParticipantRegistry V) Unit := do
  check fun _ => require (¬(evidence.underlyingReservationDigest = 0 ∨
      evidence.amountCommitment = 0 ∨ evidence.assetId = 0 ∨ evidence.transitionProofDigest = 0 ∨
      (kind = .consume ∧ evidence.settlementDigest = 0) ∨
      (kind = .release ∧ evidence.settlementDigest ≠ 0))) invalidReservation.text
  let lanes ← check fun r => .ok (r.linked evidence.underlyingReservationDigest)
  match lanes with
  | [] => pure ()
  | [lane] => followLane api evidence kind now lane.reservationId
  | _ => check fun _ => .error invalidState.text

end

end ParticipantRegistry

section Requests

variable {V : Type} [Zero V] [DecidableEq V]

inductive RegistryRequest (V : Type) where
  | configure (configuration : RegistryConfiguration)
  | registerParticipant (request : RegisterParticipant)
  | controlParticipant (request : ParticipantControl)
  | rotateKey (request : RotateParticipantKey) (entity : EntityApproval)
  | registerService (service : MpcService)
  | bindAccount (binding : AccountBinding) (entity : EntityApproval)
  | bindService (binding : ParticipantServiceBinding) (entity : EntityApproval)
  | createMandate (mandate : StandingMandate) (entity : EntityApproval)
  | controlMandate (request : MandateControl) (entity : EntityApproval)
  | reserveUnderMandate (reservation : MandateReservation V)
  | transitionReservation (request : MandateReservationTransition)

def RegistryRequest.statement (api : ParticipantApi V) : RegistryRequest V → Result Id
  | .configure c => c.statement api
  | .registerParticipant r => r.statement api
  | .controlParticipant c => c.statement api
  | .rotateKey r _ => r.statement api
  | .registerService s => s.statement api
  | .bindAccount b _ => b.statement api
  | .bindService b _ => b.statement api
  | .createMandate m _ => m.statement api
  | .controlMandate c _ => c.statement api
  | .reserveUnderMandate r => r.statement api
  | .transitionReservation t => t.statement api

def RegistryRequest.run (api : ParticipantApi V) (now : ℕ) :
    RegistryRequest V → InPlace (ParticipantRegistry V) Id
  | .configure c => ParticipantRegistry.configure api c
  | .registerParticipant r => ParticipantRegistry.registerParticipant api r now
  | .controlParticipant c => ParticipantRegistry.controlParticipant api c
  | .rotateKey r entity => ParticipantRegistry.rotateKey api r entity
  | .registerService s => ParticipantRegistry.registerService api s now
  | .bindAccount b entity => ParticipantRegistry.bindAccount api b entity now
  | .bindService b entity => ParticipantRegistry.bindService api b entity now
  | .createMandate m entity => ParticipantRegistry.createMandate api m entity now
  | .controlMandate c entity => ParticipantRegistry.controlMandate api c entity
  | .reserveUnderMandate r => ParticipantRegistry.reserveUnderMandate api r now
  | .transitionReservation t => ParticipantRegistry.transitionReservation api t now

end Requests
end DeFMI.Participant
