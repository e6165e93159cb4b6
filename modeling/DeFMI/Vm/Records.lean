import DeFMI.ConfidentialAssets
import DeFMI.Facility.Lines
set_option autoImplicit false

/-!
Records that only the replicated state keeps: note claims, the issuers of
notes, reservations made for an application, and the confidential side tables.
-/

namespace DeFMI
open Lib

structure NoteRecord (V : Type) where
  assetId : Id
  oneTime : Id
  valueCommitment : CompressedPoint V
  ephemeral : Id
  encryptedOpening : Bytes
  lockId : Id
  deriving DecidableEq

structure NoteOutput (V : Type) extends NoteRecord V where
  noteId : Id
  deriving DecidableEq

def NoteRecord.output {V : Type} (note : NoteRecord V) (noteId : Id) : NoteOutput V :=
  { note with noteId }

structure NoteReservationRecord (V : Type) where
  escrowNoteId : Id
  assetId : Id
  amountCommitment : CompressedPoint V
  proofDigest : Id
  delegationDigest : Id
  status : HoldStatus
  settlementDigest : Id

/-- The only status a stored pool may have is `active`, so none is kept. -/
structure StandingNotePoolRecord (V : Type) where
  venueId : Id
  defmiId : Id
  entityCommitment : Id
  policyDigest : Id
  mandateDigest : Id
  assetId : Id
  direction : ℕ
  maximumAmountCommitment : CompressedPoint V
  currentPoolNoteId : Id
  delegationDigest : Id
  committeeEpoch : ℕ
  validUntil : ℕ
  sequence : ℕ
  statement : Id

inductive NoteClaimKind where
  | delivery
  | refund
  deriving DecidableEq

structure ClaimAuthorizationCommitment where
  keyRecordCommitment : Id
  keyFingerprint : Id
  deriving DecidableEq

def ClaimAuthorizationCommitment.validate (a : ClaimAuthorizationCommitment) : Check := do
  nonzero a.keyRecordCommitment "claim key-record commitment"
  nonzero a.keyFingerprint "claim key fingerprint"

structure NoteClaim (V : Type) where
  claimId : Id
  assetId : Id
  valueCommitment : CompressedPoint V
  recipientCommitment : Id
  authorization : ClaimAuthorizationCommitment
  sourceHoldId : Id
  kind : NoteClaimKind
  openingEnvelope : Bytes

inductive NoteClaimStatus where
  | active
  | materialized
  deriving DecidableEq

structure NoteClaimRecord (V : Type) where
  assetId : Id
  valueCommitment : CompressedPoint V
  recipientCommitment : Id
  authorization : ClaimAuthorizationCommitment
  sourceHoldId : Id
  kind : NoteClaimKind
  openingEnvelope : Bytes
  status : NoteClaimStatus
  settlementDigest : Id
  materialization : Id

def NoteClaimRecord.claim {V : Type} (r : NoteClaimRecord V) (claimId : Id) : NoteClaim V :=
  ⟨claimId, r.assetId, r.valueCommitment, r.recipientCommitment, r.authorization, r.sourceHoldId,
    r.kind, r.openingEnvelope⟩

def NoteClaim.record {V : Type} (c : NoteClaim V) (settlement : Id) : NoteClaimRecord V :=
  ⟨c.assetId, c.valueCommitment, c.recipientCommitment, c.authorization, c.sourceHoldId, c.kind,
    c.openingEnvelope, .active, settlement, Id.zero⟩

structure NoteSerialRecord where
  deadline : ℕ
  assetId : Id
  ringRoot : Id
  statement : Id

structure NoteSpend (V : Type) where
  assetId : Id
  ring : List Id
  ringRoot : Id
  serialPoint : Id
  inputLockId : Id
  proofDigest : Id
  outputs : List (NoteOutput V)
  deriving DecidableEq

def NoteSpend.serial {V : Type} (spend : NoteSpend V) (deadline : ℕ) (statement : Id) :
    NoteSerialRecord :=
  ⟨deadline, spend.assetId, spend.ringRoot, statement⟩

inductive CsdIssuerStatus where
  | active
  | suspended
  | revoked
  deriving DecidableEq

structure CsdIssuerRecord where
  code : String
  jurisdiction : String
  operatorEntityCommitment : Id
  publicKey : Id
  pqPublicKey : Bytes
  permittedAssetIds : List Id
  policyDigest : Id
  validFrom : ℕ
  validUntil : ℕ
  status : CsdIssuerStatus
  sequence : ℕ

structure CsdIssuerDefinition where
  issuerId : Id
  code : String
  jurisdiction : String
  operatorEntityCommitment : Id
  publicKey : Id
  pqPublicKey : Bytes
  permittedAssetIds : List Id
  policyDigest : Id
  validFrom : ℕ
  validUntil : ℕ

def CsdIssuerRecord.definition (r : CsdIssuerRecord) (issuerId : Id) : CsdIssuerDefinition :=
  ⟨issuerId, r.code, r.jurisdiction, r.operatorEntityCommitment, r.publicKey, r.pqPublicKey,
    r.permittedAssetIds, r.policyDigest, r.validFrom, r.validUntil⟩

structure GuarantorRecord where
  kind : String
  name : String
  publicKey : Id
  pqPublicKey : Bytes
  riskPolicyDigest : Id
  active : Bool

/-- A batch keeps the statement it was registered under, by which a retry is recognised. -/
structure RegisteredBatch extends AdmissionBatchRecord where
  statement : Id

structure RegisteredCommittee extends AdmissionCommitteeRecord where
  statement : Id

/-- Deployment configuration of an application; the committee digests name the keys
authorised for its later fills. -/
structure ApplicationReserveScope where
  applicationBinding : Id
  venueId : Id
  defmiId : Id
  committeeKeyDigest : Id
  pqCommitteeDigest : Id
  committeeEpoch : ℕ
  amountBits : ℕ
  deriving DecidableEq

def ApplicationReserveScope.validate (scope : ApplicationReserveScope) : Check :=
  require (¬(scope.committeeEpoch = 0 ∨ supportedBits scope.amountBits = false ∨
      scope.applicationBinding = 0 ∨ scope.venueId = 0 ∨ scope.defmiId = 0 ∨
      scope.committeeKeyDigest = 0 ∨ scope.pqCommitteeDigest = 0))
    "application reserve scope is incomplete"

/-- The projection of a participant's mandate that is written to the state. -/
structure ApplicationReservationBinding (V : Type) where
  scope : ApplicationReserveScope
  requestCommitment : Id
  facilityId : Id
  holdId : Id
  assetId : Id
  amountCommitment : CompressedPoint V
  entityCommitment : Id
  mandateDigest : Id
  delegationDigest : Id
  validFrom : ℕ
  validUntil : ℕ

structure ApplicationOpeningShare where
  party : ℕ
  recipientPublic : Bytes
  sealedShare : Bytes
  blindingAdjustment : EncodedScalar

/-- Ciphertexts of an opening, and the one-time key that may claim it. -/
structure ApplicationOpening (V : Type) where
  context : Id
  threshold : ℕ
  recipientView : CompressedPoint V
  claimContext : Id
  claimAuthorization : ClaimAuthorizationCommitment
  shares : List ApplicationOpeningShare

structure ApplicationReservationRecord (V : Type) where
  binding : ApplicationReservationBinding V
  escrowNoteId : Id
  proofDigest : Id
  receiptDigest : Id
  status : HoldStatus
  settlementDigest : Id
  remainingCommitment : Option (CompressedPoint V)
  sequence : ℕ
  lastReceipt : Option Id
  remainingOpening : Option (ApplicationOpening V)

namespace ApplicationReservationRecord

variable {V : Type}

def remaining (r : ApplicationReservationRecord V) : CompressedPoint V :=
  r.remainingCommitment.getD r.binding.amountCommitment

def headReceipt (r : ApplicationReservationRecord V) : Id := r.lastReceipt.getD r.receiptDigest

end ApplicationReservationRecord

/-- Equality of the values two commitments hold, bound to a context digest. -/
abbrev ValueLink := CrossGeneratorProof Id

/-- Public identity of a hidden asset: a commitment to its scalar and a blinded
generator. The commitment's bytes serve as the asset id of its notes. -/
structure AssetIdentity (V : Type) where
  commitment : Id
  tag : CompressedPoint V
  registry : Registry
  proof : AssetProof
  deriving DecidableEq

structure ClaimConversion (V : Type) where
  valueCommitment : CompressedPoint V
  opening : ApplicationOpening V
  assetOpening : Bytes
  valueLink : ValueLink

structure RetainedRefund (V : Type) where
  conversion : ClaimConversion V
  context : Id

structure ConfidentialState (V : Type) where
  identities : Table Id (AssetIdentity V)
  notes : Finset Id
  /-- Tagged escrow values; the reservation itself keeps the amount under `g`. -/
  reservationValues : Table Id (CompressedPoint V)
  refunds : Table Id (RetainedRefund V)
  claimAssets : Table Id Bytes

def ConfidentialState.empty {V : Type} : ConfidentialState V := ⟨∅, ∅, ∅, ∅, ∅⟩

end DeFMI
