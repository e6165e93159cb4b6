import DeFMI.Credit
set_option autoImplicit false

/-!
Requests to the participant registry: legal entities with one key per purpose,
the accounts and services they are bound to, standing mandates, and the lanes
reserved under a mandate. Each request is checked on its own before it is hashed.
-/

namespace DeFMI.Participant
open Lib

inductive ParticipantError where
  | registryNotConfigured
  | registryAlreadyConfigured
  | invalidConfiguration
  | invalidParticipant
  | invalidKey
  | invalidControl
  | duplicateParticipant
  | unknownParticipant
  | participantUnavailable
  | missingRole
  | invalidEntityApproval
  | invalidService
  | duplicateService
  | unknownService
  | serviceUnavailable
  | invalidBinding
  | duplicateBinding
  | unknownBinding
  | invalidMandate
  | duplicateMandate
  | unknownMandate
  | invalidReservation
  | duplicateReservation
  | unknownReservation
  | operationAlreadyUsed
  | staleSequence
  | outsideValidityWindow
  | arithmeticOverflow
  | invalidState

def ParticipantError.text : ParticipantError → String
  | .registryNotConfigured => "participant registry is not configured"
  | .registryAlreadyConfigured => "participant registry is already configured"
  | .invalidConfiguration => "participant registry configuration is invalid"
  | .invalidParticipant => "participant definition is invalid"
  | .invalidKey => "participant key is invalid"
  | .invalidControl => "participant control is invalid"
  | .duplicateParticipant => "participant is already registered"
  | .unknownParticipant => "participant is unknown"
  | .participantUnavailable => "participant is unavailable"
  | .missingRole => "required participant role is missing"
  | .invalidEntityApproval => "entity approval is invalid"
  | .invalidService => "service definition is invalid"
  | .duplicateService => "service is already registered"
  | .unknownService => "service is unknown"
  | .serviceUnavailable => "service is unavailable"
  | .invalidBinding => "participant binding is invalid"
  | .duplicateBinding => "participant binding is already registered"
  | .unknownBinding => "participant binding is unknown"
  | .invalidMandate => "standing mandate is invalid"
  | .duplicateMandate => "standing mandate is already registered"
  | .unknownMandate => "standing mandate is unknown"
  | .invalidReservation => "mandate reservation is invalid"
  | .duplicateReservation => "mandate reservation is already registered"
  | .unknownReservation => "mandate reservation is unknown"
  | .operationAlreadyUsed => "operation identifier was already used"
  | .staleSequence => "request was built against a stale sequence"
  | .outsideValidityWindow => "request is outside its validity window"
  | .arithmeticOverflow => "participant registry arithmetic overflow"
  | .invalidState => "participant registry state is internally inconsistent"

open ParticipantError

inductive ParticipantRole where
  | centralBank
  | csd
  | ccp
  | settlementBank
  | custodian
  | brokerDealer
  | maker
  | taker
  | streamAttestor
  | creditAssessor
  | guarantor
  | liquidityProvider
  | servicer
  | regulator
  | mpcOperator
  | credentialIssuer
  deriving DecidableEq

inductive KeyPurpose where
  | admin
  | settlement
  | quote
  | mpcInput
  | emergency
  deriving DecidableEq

structure PurposeKey where
  publicKey : Id
  pqPublicKey : Bytes
  epoch : ℕ
  deriving DecidableEq

structure ParticipantKeys where
  admin : PurposeKey
  settlement : PurposeKey
  quote : PurposeKey
  mpcInput : PurposeKey
  emergency : PurposeKey
  deriving DecidableEq

namespace ParticipantKeys

def key (keys : ParticipantKeys) : KeyPurpose → PurposeKey
  | .admin => keys.admin
  | .settlement => keys.settlement
  | .quote => keys.quote
  | .mpcInput => keys.mpcInput
  | .emergency => keys.emergency

def replace (keys : ParticipantKeys) (new : PurposeKey) : KeyPurpose → ParticipantKeys
  | .admin => { keys with admin := new }
  | .settlement => { keys with settlement := new }
  | .quote => { keys with quote := new }
  | .mpcInput => { keys with mpcInput := new }
  | .emergency => { keys with emergency := new }

def all (keys : ParticipantKeys) : List PurposeKey :=
  [keys.admin, keys.settlement, keys.quote, keys.mpcInput, keys.emergency]

end ParticipantKeys

inductive ParticipantStatus where
  | active
  | suspended
  | revoked
  deriving DecidableEq

structure ParticipantRecord where
  participantId : Id
  legalEntityCredentialCommitment : Id
  credentialIssuerId : Id
  credentialSchemeDigest : Id
  jurisdiction : String
  roles : List ParticipantRole
  keys : ParticipantKeys
  policyDigest : Id
  validFrom : ℕ
  validUntil : ℕ
  sequence : ℕ
  status : ParticipantStatus
  deriving DecidableEq

structure RegistryConfiguration where
  operationId : Id
  domainId : Id
  templateDigest : Id
  schemaDigest : Id
  templateVersion : ℕ

structure RegisterParticipant where
  operationId : Id
  participant : ParticipantRecord

inductive ControlKind where
  | activate
  | suspend
  | revoke
  deriving DecidableEq

structure ParticipantControl where
  operationId : Id
  participantId : Id
  expectedSequence : ℕ
  kind : ControlKind
  reasonDigest : Id

structure RotateParticipantKey where
  operationId : Id
  participantId : Id
  expectedSequence : ℕ
  purpose : KeyPurpose
  newKey : PurposeKey

structure EntityApproval where
  participantId : Id
  keyPurpose : KeyPurpose
  keyEpoch : ℕ
  statement : Id
  signature : Bytes

inductive AccountBindingKind where
  | cash
  | securities
  | collateral
  | fee

structure AccountBinding where
  operationId : Id
  bindingId : Id
  participantId : Id
  accountCommitment : Id
  assetId : Id
  kind : AccountBindingKind
  controlProofDigest : Id
  validFrom : ℕ
  validUntil : ℕ
  expectedParticipantSequence : ℕ
  sequence : ℕ
  active : Bool

inductive MpcServiceKind where
  | qommMatching
  | privateAnalytics
  | crossDomainDvp
  | other
  deriving DecidableEq

inductive ServiceStatus where
  | active
  | suspended
  | retired
  deriving DecidableEq

structure MpcServiceMember where
  nodeId : Id
  operatorParticipantId : Id
  publicKey : Id
  deriving DecidableEq

structure MpcService where
  operationId : Id
  serviceId : Id
  kind : MpcServiceKind
  programDigest : Id
  schemaDigest : Id
  committeeEpoch : ℕ
  threshold : ℕ
  members : List MpcServiceMember
  validFrom : ℕ
  validUntil : ℕ
  sequence : ℕ
  status : ServiceStatus
  deriving DecidableEq

structure ParticipantServiceBinding where
  operationId : Id
  bindingId : Id
  participantId : Id
  serviceId : Id
  serviceEpoch : ℕ
  inputPublicKey : Id
  capabilityDigest : Id
  validFrom : ℕ
  validUntil : ℕ
  expectedParticipantSequence : ℕ
  sequence : ℕ
  active : Bool

inductive MandateStatus where
  | active
  | suspended
  | revoked
  | expired
  deriving DecidableEq

structure StandingMandate where
  operationId : Id
  mandateId : Id
  participantId : Id
  serviceId : Id
  serviceBindingId : Id
  role : ReservationRole
  accountBindingIds : List Id
  permittedAssetIds : List Id
  permittedDestinationDomains : List Id
  limitCommitment : Id
  limitPolicyDigest : Id
  settlementPolicyDigest : Id
  maxActiveReservations : ℕ
  activeReservations : ℕ
  validFrom : ℕ
  validUntil : ℕ
  expectedParticipantSequence : ℕ
  sequence : ℕ
  automaticSettlement : Bool
  status : MandateStatus
  deriving DecidableEq

structure MandateControl where
  operationId : Id
  mandateId : Id
  expectedMandateSequence : ℕ
  kind : ControlKind
  reasonDigest : Id

structure MandateReservation (V : Type) where
  operationId : Id
  reservationId : Id
  mandateId : Id
  serviceId : Id
  serviceEpoch : ℕ
  accountBindingId : Id
  assetId : Id
  amountCommitment : CompressedPoint V
  underlyingReservationDigest : Id
  admissionReceiptDigest : Id
  limitProofDigest : Id
  zkpiDigest : Id
  expiresAt : ℕ
  expectedMandateSequence : ℕ
  status : HoldStatus
  settlementDigest : Id

inductive ReservationTransitionKind where
  | release
  | consume
  deriving DecidableEq

structure MandateReservationTransition where
  operationId : Id
  reservationId : Id
  expectedMandateSequence : ℕ
  kind : ReservationTransitionKind
  settlementDigest : Id
  transitionProofDigest : Id

/-- What the settlement around it has already verified about a reserve. -/
structure AutomaticReservationEvidence (V : Type) where
  underlyingReservationDigest : Id
  amountCommitment : CompressedPoint V
  assetId : Id
  role : ReservationRole
  settlementDigest : Id
  transitionProofDigest : Id

structure ParticipantApi (V : Type) where
  configuration : RegistryConfiguration → Id
  registration : RegisterParticipant → Id
  control : ParticipantControl → Id
  keyRotation : RotateParticipantKey → Id
  accountBinding : AccountBinding → Id
  service : MpcService → Id
  serviceBinding : ParticipantServiceBinding → Id
  mandate : StandingMandate → Id
  mandateControl : MandateControl → Id
  reservation : MandateReservation V → Id
  reservationTransition : MandateReservationTransition → Id
  automaticTransition : Id → ReservationTransitionKind → Id → Id → Id
  verifyingKey : Id → Bool
  signature : Id → PurposeKey → EntityApproval → Bool

def validWindow (validFrom validUntil : ℕ) : Prop :=
  0 < validFrom ∧ validFrom ≤ validUntil ∧ validUntil ≤ maxUnixTime

instance (validFrom validUntil : ℕ) : Decidable (validWindow validFrom validUntil) :=
  inferInstanceAs (Decidable (_ ∧ _))

def validAscii (value : String) (bound : ℕ) : Bool :=
  value ≠ "" && value.length ≤ bound &&
    value.toList.all (fun c => c.isAlphanum || "._:/+-".toList.contains c)

def StrictIdentifiers (values : List Id) : Prop :=
  (∀ pair ∈ values.zip values.tail, pair.1.1 < pair.2.1) ∧ 0 ∉ values

instance (values : List Id) : Decidable (StrictIdentifiers values) :=
  inferInstanceAs (Decidable (_ ∧ _))

section Statements

variable {V : Type} [Zero V] [DecidableEq V]

section
variable (api : ParticipantApi V)

def PurposeKey.validate (key : PurposeKey) : Check :=
  require (¬(key.epoch = 0 ∨ key.pqPublicKey.length ≠ 1952 ∨ key.publicKey = 0 ∨
    api.verifyingKey key.publicKey = false)) invalidKey.text

def ParticipantKeys.validate (keys : ParticipantKeys) : Check := do
  forEach (PurposeKey.validate api) keys.all
  require ((keys.all.map PurposeKey.publicKey).Nodup ∧ (keys.all.map PurposeKey.pqPublicKey).Nodup)
    invalidKey.text

def ParticipantRecord.validate (p : ParticipantRecord) : Check := do
  require (¬(p.participantId = 0 ∨ p.legalEntityCredentialCommitment = 0 ∨
      p.credentialIssuerId = 0 ∨ p.credentialSchemeDigest = 0 ∨ p.policyDigest = 0 ∨
      validAscii p.jurisdiction 32 = false ∨ p.roles = [] ∨ ¬validWindow p.validFrom p.validUntil ∨
      p.sequence ≠ 0 ∨ p.status ≠ .active)) invalidParticipant.text
  p.keys.validate api

def RegistryConfiguration.statement (c : RegistryConfiguration) : Result Id := do
  require (¬(c.operationId = 0 ∨ c.domainId = 0 ∨ c.templateDigest = 0 ∨ c.schemaDigest = 0 ∨
      c.templateVersion = 0)) invalidConfiguration.text
  pure (api.configuration c)

def RegisterParticipant.statement (r : RegisterParticipant) : Result Id := do
  require (r.operationId ≠ 0) invalidParticipant.text
  r.participant.validate api
  pure (api.registration r)

def ParticipantControl.statement (c : ParticipantControl) : Result Id := do
  require (¬(c.operationId = 0 ∨ c.participantId = 0 ∨ c.reasonDigest = 0))
    invalidControl.text
  pure (api.control c)

def RotateParticipantKey.statement (r : RotateParticipantKey) : Result Id := do
  require (¬(r.operationId = 0 ∨ r.participantId = 0)) invalidControl.text
  r.newKey.validate api
  pure (api.keyRotation r)

def AccountBinding.statement (b : AccountBinding) : Result Id := do
  require (¬(b.operationId = 0 ∨ b.bindingId = 0 ∨ b.participantId = 0 ∨ b.accountCommitment = 0 ∨
      b.assetId = 0 ∨ b.controlProofDigest = 0 ∨ ¬validWindow b.validFrom b.validUntil ∨
      b.sequence ≠ 0 ∨ b.active = false)) invalidBinding.text
  pure (api.accountBinding b)

def MpcService.checkMembers (seen : List MpcServiceMember) : List MpcServiceMember → Check
  | [] => pure ()
  | m :: rest => do
    require (¬(m.nodeId = 0 ∨ m.operatorParticipantId = 0 ∨
        (∃ previous ∈ seen.head?, m.nodeId.1 ≤ previous.nodeId.1) ∨
        m.operatorParticipantId ∈ seen.map MpcServiceMember.operatorParticipantId ∨
        m.publicKey ∈ seen.map MpcServiceMember.publicKey)) invalidService.text
    require (m.publicKey ≠ 0 ∧ api.verifyingKey m.publicKey = true) invalidKey.text
    checkMembers (m :: seen) rest

def MpcService.statement (s : MpcService) : Result Id := do
  require (¬(s.operationId = 0 ∨ s.serviceId = 0 ∨ s.programDigest = 0 ∨ s.schemaDigest = 0 ∨
      s.committeeEpoch = 0 ∨ s.sequence ≠ 0 ∨ s.status ≠ .active ∨
      ¬validWindow s.validFrom s.validUntil ∨ s.members = [] ∨ 64 < s.members.length ∨
      s.threshold = 0 ∨ s.members.length < s.threshold)) invalidService.text
  MpcService.checkMembers api [] s.members
  pure (api.service s)

def ParticipantServiceBinding.statement (b : ParticipantServiceBinding) : Result Id := do
  require (¬(b.operationId = 0 ∨ b.bindingId = 0 ∨ b.participantId = 0 ∨ b.serviceId = 0 ∨
      b.inputPublicKey = 0 ∨ b.capabilityDigest = 0 ∨ b.serviceEpoch = 0 ∨
      ¬validWindow b.validFrom b.validUntil ∨ b.sequence ≠ 0 ∨ b.active = false))
    invalidBinding.text
  require (api.verifyingKey b.inputPublicKey = true) invalidKey.text
  pure (api.serviceBinding b)

def StandingMandate.statement (m : StandingMandate) : Result Id := do
  require (¬(m.operationId = 0 ∨ m.mandateId = 0 ∨ m.participantId = 0 ∨ m.serviceId = 0 ∨
      m.serviceBindingId = 0 ∨ m.limitCommitment = 0 ∨ m.limitPolicyDigest = 0 ∨
      m.settlementPolicyDigest = 0 ∨ m.accountBindingIds = [] ∨ m.permittedAssetIds = [] ∨
      64 < m.accountBindingIds.length ∨ 64 < m.permittedAssetIds.length ∨
      64 < m.permittedDestinationDomains.length ∨ ¬StrictIdentifiers m.accountBindingIds ∨
      ¬StrictIdentifiers m.permittedAssetIds ∨ ¬StrictIdentifiers m.permittedDestinationDomains ∨
      m.maxActiveReservations = 0 ∨ m.activeReservations ≠ 0 ∨
      ¬validWindow m.validFrom m.validUntil ∨ m.sequence ≠ 0 ∨ m.automaticSettlement = false ∨
      m.status ≠ .active)) invalidMandate.text
  pure (api.mandate m)

def MandateControl.statement (c : MandateControl) : Result Id := do
  require (¬(c.operationId = 0 ∨ c.mandateId = 0 ∨ c.reasonDigest = 0))
    invalidControl.text
  pure (api.mandateControl c)

def MandateReservation.statement (r : MandateReservation V) : Result Id := do
  require (¬(r.operationId = 0 ∨ r.reservationId = 0 ∨ r.mandateId = 0 ∨ r.serviceId = 0 ∨
      r.accountBindingId = 0 ∨ r.assetId = 0 ∨ r.amountCommitment = 0 ∨
      r.underlyingReservationDigest = 0 ∨ r.limitProofDigest = 0 ∨ r.zkpiDigest = 0 ∨
      r.serviceEpoch = 0 ∨ r.expiresAt = 0 ∨ maxUnixTime < r.expiresAt ∨ r.status ≠ .active ∨
      r.settlementDigest ≠ 0)) invalidReservation.text
  pure (api.reservation r)

def MandateReservationTransition.statement (t : MandateReservationTransition) : Result Id := do
  require (¬(t.operationId = 0 ∨ t.reservationId = 0 ∨ t.transitionProofDigest = 0 ∨
      (t.kind = .consume ∧ t.settlementDigest = 0) ∨ (t.kind = .release ∧ t.settlementDigest ≠ 0)))
    invalidReservation.text
  pure (api.reservationTransition t)

end

end Statements

end DeFMI.Participant
