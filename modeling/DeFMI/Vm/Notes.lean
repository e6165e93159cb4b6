import DeFMI.Vm.Product
set_option autoImplicit false

/-!
Notes outside the product path: the issuers that create them, standing pools,
ordinary settlements, and the two ways in which a claim becomes a note.
-/

namespace DeFMI
open Lib

inductive CsdIssuerControlKind where
  | activate
  | suspend
  | revoke

structure CsdIssuerControl where
  operationId : Id
  issuerId : Id
  kind : CsdIssuerControlKind
  beforeSequence : ℕ
  reasonDigest : Id

structure NoteIssuance (V : Type) where
  operationId : Id
  issuanceNonce : Id
  issuerId : Id
  issuedAt : ℕ
  output : NoteOutput V
  proofDigest : Id
  issuerPqSignature : Bytes
  issuerSignature : Bytes

/-- A Maker's parent reserve: a note locked to the pool that later allocations split. -/
structure StandingNotePoolRegistration (V : Type) where
  operationId : Id
  poolId : Id
  venueId : Id
  defmiId : Id
  entityCommitment : Id
  policyDigest : Id
  mandateDigest : Id
  assetId : Id
  direction : ℕ
  maximumAmountCommitment : CompressedPoint V
  poolNoteId : Id
  delegationDigest : Id
  committeeEpoch : ℕ
  validUntil : ℕ
  spend : NoteSpend V

structure NoteSettlementOrder (V : Type) where
  operationId : Id
  nullifier : Id
  deadline : ℕ
  paymentInstructionDigest : Id
  marketStatementDigest : Id
  dvpProofDigest : Id
  spends : List (NoteSpend V)
  consolidatedOutput : Option (NoteOutput V)

structure NoteClaimMaterialization (V : Type) where
  operationId : Id
  claimId : Id
  output : NoteOutput V
  ownershipProofDigest : Id

structure ClaimKeyRecord where
  participantId : Bytes
  keyId : Bytes
  suite : ℕ
  keyVersion : ℕ
  purpose : ℕ
  publicKey : Bytes
  rotationProof : Option Bytes
  dekyxBinding : Option Bytes
  period : Bytes

structure NoteClaimRedemption (V : Type) where
  version : ℕ
  domain : Bytes
  beforeRoot : Id
  operationId : Id
  claimId : Id
  output : NoteOutput V
  authorizationKey : ClaimKeyRecord
  recipientSignature : Bytes
  authorizationSignature : Bytes

structure NotesApi (V R : Type) extends ProductApi V R where
  csdIssuer : CsdIssuerDefinition → Id
  csdControl : CsdIssuerControl → Id
  issuance : NoteIssuance V → Id
  issuerSignatures : CsdIssuerDefinition → NoteIssuance V → Check
  standingNotePool : StandingNotePoolRegistration V → Id
  noteSettlement : NoteSettlementOrder V → Id
  materialization : NoteClaimMaterialization V → Id
  redemption : NoteClaimRedemption V → Id
  domain : Bytes
  claimKeyValidAt : ClaimKeyRecord → ℕ → Check
  claimFingerprint : Bytes → Result Id
  claimParticipantId : Id → Result Bytes
  claimKeyId : Id → Result Bytes
  authorizationSuite : ℕ
  settlementInstruction : ℕ
  claimAuthorization : Id → ClaimKeyRecord → Result ClaimAuthorizationCommitment
  recipientSignature : Bytes → Id → Bytes → Result Bool
  hybridSignature : Bytes → Id → Bytes → Bool

section Bodies

variable {V R : Type} [AddCommGroup V] [DecidableEq V]

section
variable (api : NotesApi V R) (d : CsdIssuerDefinition) (c : CsdIssuerControl) (i : NoteIssuance V)

def CsdIssuerDefinition.statement : Result Id := do
  d.body api.toNoteApi
  pure (api.csdIssuer d)

def CsdIssuerDefinition.permits (assetId : Id) (now : ℕ) : Bool :=
  d.validFrom ≤ now && now ≤ d.validUntil && d.permittedAssetIds.contains assetId

def CsdIssuerDefinition.record : CsdIssuerRecord :=
  ⟨d.code, d.jurisdiction, d.operatorEntityCommitment, d.publicKey, d.pqPublicKey,
    d.permittedAssetIds, d.policyDigest, d.validFrom, d.validUntil, .active, 0⟩

def CsdIssuerControl.body : Check := do
  require (c.beforeSequence ≠ u64Max) "CSD issuer control sequence is invalid"
  nonzero c.operationId "operation_id"
  nonzero c.issuerId "issuer_id"
  nonzero c.reasonDigest "reason_digest"

def CsdIssuerControl.statement : Result Id := do
  c.body
  pure (api.csdControl c)

def CsdIssuerControl.next (status : CsdIssuerStatus) : Result CsdIssuerStatus :=
  match c.kind with
  | .activate => do
    require (status = .suspended) "only a suspended CSD issuer can be activated"
    pure .active
  | .suspend => do
    require (status = .active) "only an active CSD issuer can be suspended"
    pure .suspended
  | .revoke => .ok .revoked

def NoteIssuance.body : Check := do
  require (i.issuerPqSignature.length = 3309) "CSD issuance requires an ML-DSA-65 signature"
  require (¬(i.output.lockId ≠ 0 ∨ i.issuedAt = 0 ∨ maxUnixTime < i.issuedAt))
    "issuance has an invalid lock or timestamp"
  nonzero i.operationId "operation_id"
  nonzero i.issuanceNonce "issuance_nonce"
  nonzero i.issuerId "issuer_id"
  i.output.validate api.toNoteApi
  nonzero i.proofDigest "proof_digest"

def NoteIssuance.statement : Result Id := do
  i.body api
  pure (api.issuance i)

def NoteIssuance.verifyIssuer (issuer : CsdIssuerDefinition) (now : ℕ) : Check := do
  issuer.body api.toNoteApi
  require (¬(i.issuerId ≠ issuer.issuerId ∨ issuer.permits i.output.assetId now = false ∨
      issuer.permits i.output.assetId i.issuedAt = false ∨ now < i.issuedAt ∨
      300 < now - i.issuedAt)) "CSD issuer, asset or issuance time is not authorized"
  api.issuerSignatures issuer i

end

namespace StandingNotePoolRegistration

variable (r : StandingNotePoolRegistration V)

def bindings : List (Id × String) :=
  [(r.operationId, "operation_id"), (r.poolId, "pool_id"), (r.venueId, "venue_id"),
    (r.defmiId, "defmi_id"), (r.entityCommitment, "entity_commitment"),
    (r.policyDigest, "policy_digest"), (r.mandateDigest, "mandate_digest"),
    (r.assetId, "asset_id"), (r.poolNoteId, "pool_note_id"),
    (r.delegationDigest, "delegation_digest")]

/-- One output is locked to the pool and carries its maximum, the others are free. -/
def Locks : Prop :=
  (r.spend.outputs.filter (fun output => output.lockId = r.poolId)).map
      (fun output => (output.noteId, output.valueCommitment)) =
    [(r.poolNoteId, r.maximumAmountCommitment)] ∧
  ∀ output ∈ r.spend.outputs, output.lockId = 0 ∨ output.lockId = r.poolId

instance (r : StandingNotePoolRegistration V) : Decidable r.Locks :=
  inferInstanceAs (Decidable (_ ∧ _))

def body (api : NotesApi V R) (r : StandingNotePoolRegistration V) : Check := do
  forEach (fun b => nonzero b.1 b.2) r.bindings
  nonzero r.maximumAmountCommitment "maximum_amount_commitment"
  let poolId ← api.standingNotePoolId r.entityCommitment r.policyDigest r.mandateDigest r.assetId
    r.direction
  let delegation ← api.standingNotePoolDelegationDigest r.poolId r.venueId r.defmiId
    r.committeeEpoch r.validUntil
  require (¬(r.poolId ≠ poolId ∨ r.delegationDigest ≠ delegation ∨ r.spend.assetId ≠ r.assetId ∨
      r.spend.inputLockId ≠ 0)) "standing note pool differs from its signed policy scope"
  require r.Locks "standing note pool must create one exact parent covenant"
  r.spend.validate api.toNoteApi

def statement (api : NotesApi V R) (r : StandingNotePoolRegistration V) : Result Id := do
  r.body api
  pure (api.standingNotePool r)

def record (statement : Id) : StandingNotePoolRecord V where
  venueId := r.venueId
  defmiId := r.defmiId
  entityCommitment := r.entityCommitment
  policyDigest := r.policyDigest
  mandateDigest := r.mandateDigest
  assetId := r.assetId
  direction := r.direction
  maximumAmountCommitment := r.maximumAmountCommitment
  currentPoolNoteId := r.poolNoteId
  delegationDigest := r.delegationDigest
  committeeEpoch := r.committeeEpoch
  validUntil := r.validUntil
  sequence := 0
  statement := statement

end StandingNotePoolRegistration

namespace NoteSettlementOrder

variable (api : NotesApi V R) (o : NoteSettlementOrder V)

def outputIds : List Id :=
  o.spends.flatMap (fun spend => spend.outputs.map NoteOutput.noteId)

/-- A consolidation gathers the single outputs of several spends in one note. -/
def checkConsolidation (consolidated : NoteOutput V) : Check := do
  consolidated.validate api.toNoteApi
  require (¬(o.spends.length < 2 ∨ (∃ spend ∈ o.spends, spend.assetId ≠ consolidated.assetId) ∨
      consolidated.lockId ≠ 0 ∨
      (∃ spend ∈ o.spends, spend.inputLockId ≠ 0 ∨ spend.outputs.length ≠ 1 ∨
        ∃ output ∈ spend.outputs, output.lockId ≠ 0) ∨
      consolidated.noteId ∈ o.outputIds))
    "note consolidation has incompatible inputs or output"
  let inputs ← mapEach (fun output : NoteOutput V => okOr output.valueCommitment.decompress
    "note consolidation input commitment is not canonical") (o.spends.flatMap NoteSpend.outputs)
  require (.point inputs.sum = consolidated.valueCommitment)
    "note consolidation changes the committed value"

def checkOutput : Check :=
  match o.consolidatedOutput with
  | none => require (o.spends.map NoteSpend.assetId).Nodup "note settlement repeats an asset rail"
  | some consolidated => o.checkConsolidation api consolidated

def body : Check := do
  require (¬(o.deadline = 0 ∨ maxUnixTime < o.deadline ∨ o.spends = [] ∨
      (if o.consolidatedOutput = none then 2 else 8) < o.spends.length))
    "note settlement has invalid dimensions"
  forEach (NoteSpend.validate api.toNoteApi) o.spends
  require (o.spends.map NoteSpend.serialPoint).Nodup "note settlement repeats a serial"
  require o.outputIds.Nodup "note settlement repeats an output"
  o.checkOutput api
  nonzero o.operationId "operation_id"
  nonzero o.nullifier "nullifier"
  nonzero o.paymentInstructionDigest "payment_instruction_digest"
  nonzero o.marketStatementDigest "market_statement_digest"
  nonzero o.dvpProofDigest "dvp_proof_digest"

def statement : Result Id := do
  o.body api
  pure (api.noteSettlement o)

end NoteSettlementOrder

def NoteClaimMaterialization.body (api : NotesApi V R) (m : NoteClaimMaterialization V) :
    Check := do
  require (m.output.lockId = 0) "materialized claim output cannot retain a reservation lock"
  nonzero m.operationId "operation_id"
  nonzero m.claimId "claim_id"
  m.output.validate api.toNoteApi
  nonzero m.ownershipProofDigest "ownership_proof_digest"

def NoteClaimMaterialization.statement (api : NotesApi V R) (m : NoteClaimMaterialization V) :
    Result Id := do
  m.body api
  pure (api.materialization m)

namespace NoteClaimRedemption

def signingMessage (api : NotesApi V R) (r : NoteClaimRedemption V) : Result Id := do
  require (¬(r.version ≠ 2 ∨ r.domain = [] ∨ 128 < r.domain.length ∨
      (∃ byte ∈ r.domain, 128 ≤ byte) ∨ r.beforeRoot = 0 ∨ r.operationId = 0 ∨ r.claimId = 0 ∨
      r.output.lockId ≠ 0)) "claim redemption has invalid context or a locked output"
  r.output.validate api.toNoteApi
  pure (api.redemption r)

/-- Both the recipient's secret and the one-time key behind the claim have signed. -/
def verify (api : NotesApi V R) (r : NoteClaimRedemption V) (claim : NoteClaim V) (now : ℕ) :
    Check := do
  claim.validate api.toNoteApi
  require (¬(r.domain ≠ api.domain ∨ r.claimId ≠ claim.claimId ∨ r.output.assetId ≠ claim.assetId ∨
      r.output.valueCommitment ≠ claim.valueCommitment ∨ r.recipientSignature.length ≠ 64 ∨
      r.authorizationSignature.length ≠ 64 + 3309))
    "claim redemption changes the deployment or final entitlement"
  let authorizationKey := r.authorizationKey
  api.claimKeyValidAt authorizationKey now
  let fingerprint ← api.claimFingerprint authorizationKey.publicKey
  let participantId ← api.claimParticipantId claim.recipientCommitment
  let keyId ← api.claimKeyId fingerprint
  let authorization ← api.claimAuthorization claim.recipientCommitment authorizationKey
  require (¬(authorizationKey.participantId ≠ participantId ∨ authorizationKey.keyId ≠ keyId ∨
      authorizationKey.suite ≠ api.authorizationSuite ∨ authorizationKey.keyVersion ≠ 1 ∨
      authorizationKey.purpose ≠ api.settlementInstruction ∨
      authorizationKey.rotationProof ≠ none ∨ authorizationKey.dekyxBinding ≠ none ∨
      claim.authorization ≠ authorization))
    "claim redemption substituted its one-time authorization key"
  let statement ← r.signingMessage api
  let ownership ← api.recipientSignature claim.openingEnvelope statement r.recipientSignature
  require (ownership = true ∧
      api.hybridSignature authorizationKey.publicKey statement r.authorizationSignature = true)
    "claim redemption ownership or hybrid authorization is invalid"

end NoteClaimRedemption
end Bodies

namespace VmState

variable {V R : Type} [AddCommGroup V] [Module Scalar V] [DecidableEq V]

section
variable (api : NotesApi V R) (s : VmState V R) (timestamp : ℕ)

def registerCsdIssuer (issuer : CsdIssuerDefinition) (approval : Approval) :
    Result (VmState V R) := do
  issuer.body api.toNoteApi
  let statement ← issuer.statement api
  s.authorize api.toVmApi approval statement
  require (¬(timestamp = 0 ∨ issuer.validUntil < timestamp)) "CSD issuer validity already ended"
  require (∀ assetId ∈ issuer.permittedAssetIds, s.assetActive assetId = true)
    "CSD issuer permits an inactive or unknown asset"
  require (issuer.issuerId ∉ s.csdIssuers) "CSD issuer identifier was already registered"
  pure { s with csdIssuers := s.csdIssuers.insert issuer.issuerId issuer.record }

def controlCsdIssuer (api : NotesApi V R) (s : VmState V R) (control : CsdIssuerControl)
    (approval : Approval) : Result (VmState V R) := do
  control.body
  let statement ← control.statement api
  s.authorize api.toVmApi approval statement
  require (control.operationId ∉ s.operations) "operation identifier was already used"
  let record ← okOr (s.csdIssuers.lookup control.issuerId) "CSD issuer is unknown"
  require (¬(record.sequence ≠ control.beforeSequence ∨ record.status = .revoked))
    "CSD issuer control used stale or terminal state"
  let status ← control.next record.status
  let sequence ← okOr (checkedSucc record.sequence) "CSD issuer sequence overflow"
  pure { s with
    csdIssuers := s.csdIssuers.insert control.issuerId { record with status, sequence }
    operations := s.operations.insert control.operationId statement }

def issueNote (issuance : NoteIssuance V) (approval : Approval) : Result (VmState V R) := do
  issuance.body api
  let statement ← issuance.statement api
  s.authorize api.toVmApi approval statement
  require (timestamp ≠ 0) "note issuance has no consensus timestamp"
  require (¬(issuance.operationId ∈ s.operations ∨ issuance.issuanceNonce ∈ s.noteIssuances ∨
      issuance.output.noteId ∈ s.notes)) "note issuance reuses an operation, nonce, or note"
  let issuer ← okOr (s.csdIssuers.lookup issuance.issuerId)
    "note issuance names an unknown CSD issuer"
  require (issuer.status = .active) "CSD issuer is not active"
  issuance.verifyIssuer api (issuer.definition issuance.issuerId) timestamp
  let s ← s.insertNote api.toNoteApi issuance.output
  pure { s with
    noteIssuances := s.noteIssuances.insert issuance.issuanceNonce statement
    operations := s.operations.insert issuance.operationId statement }

def registerStandingNotePool (r : StandingNotePoolRegistration V) (approval : Approval) :
    Result (VmState V R) := do
  r.body api
  let statement ← r.statement api
  s.authorize api.toVmApi approval statement
  require (¬(timestamp = 0 ∨ r.validUntil < timestamp))
    "standing note pool registration is expired"
  require (¬(r.operationId ∈ s.operations ∨ r.poolId ∈ s.standingNotePools))
    "standing note pool operation or identity was already used"
  let verifier ← okOr (s.settlementVerifiers.lookup (r.venueId, r.committeeEpoch))
    "standing note pool has no registered proof committee"
  require (¬(verifier.defmiId ≠ r.defmiId ∨ timestamp < verifier.validFrom ∨
      verifier.validUntil < timestamp ∨ verifier.validUntil < r.validUntil))
    "standing note pool is outside its proof committee epoch"
  s.checkNoteSpend api.toNoteApi r.spend none true
  let s ← s.applyNoteSpend api.toNoteApi r.spend r.validUntil statement
  pure { s with
    standingNotePools := s.standingNotePools.insert r.poolId (r.record statement)
    operations := s.operations.insert r.operationId statement }

def resolveClaim (claimId : Id) (claim : NoteClaimRecord V) (operationId statement : Id) :
    VmState V R :=
  { s with
    noteClaims := s.noteClaims.insert claimId
      { claim with status := .materialized, materialization := statement }
    operations := s.operations.insert operationId statement }

def materializeNoteClaim (m : NoteClaimMaterialization V) (approval : Approval) :
    Result (VmState V R) := do
  m.body api
  let statement ← m.statement api
  s.authorize api.toVmApi approval statement
  require (m.operationId ∉ s.operations) "operation identifier was already used"
  let claim ← okOr (s.noteClaims.lookup m.claimId) "note claim is unknown"
  require (claim.sourceHoldId ∉ s.applicationReservations)
    "native application claims require the full recipient redemption signature"
  require (¬(claim.status ≠ .active ∨ claim.materialization ≠ 0 ∨
      claim.assetId ≠ m.output.assetId ∨ claim.valueCommitment ≠ m.output.valueCommitment))
    "claim materialization changes a final entitlement"
  let s ← s.insertNote api.toNoteApi m.output
  pure (s.resolveClaim m.claimId claim m.operationId statement)

def redeemNoteClaim (api : NotesApi V R) (s : VmState V R) (now : ℕ) (r : NoteClaimRedemption V) :
    Result (VmState V R) := do
  require (¬(r.beforeRoot ≠ api.root s ∨ r.operationId ∈ s.operations))
    "claim redemption has a stale parent or reused operation"
  let record ← okOr (s.noteClaims.lookup r.claimId) "note claim is unknown"
  require (¬(record.status ≠ .active ∨ record.materialization ≠ 0)) "claim was already redeemed"
  r.verify api (record.claim r.claimId) now
  let statement ← r.signingMessage api
  let s ← s.insertNoteWithConfidentiality api.toNoteApi r.output
    (decide (r.claimId ∈ s.confidential.claimAssets))
  pure (s.resolveClaim r.claimId record r.operationId statement)

def checkOrdinarySpend (spend : NoteSpend V) : Check := do
  require (spend.inputLockId = 0) "ordinary note settlement cannot consume a reservation lock"
  s.checkNoteSpend api.toNoteApi spend none true
  require (∀ output ∈ spend.outputs, output.lockId = 0)
    "ordinary note settlement cannot create a reservation lock"

/-- A consolidation keeps the serials of all spends and one output. -/
def applyNoteSettlement (o : NoteSettlementOrder V) (statement : Id) : Result (VmState V R) :=
  match o.consolidatedOutput with
  | some output => do
    let s ← foldEach (fun s spend => applyNoteSpendSerial s spend o.deadline statement) s o.spends
    s.insertNote api.toNoteApi output
  | none =>
    foldEach (fun s spend => applyNoteSpend api.toNoteApi s spend o.deadline statement) s o.spends

def settleNotes (o : NoteSettlementOrder V) (approval : Approval) : Result (VmState V R) := do
  o.body api
  let statement ← o.statement api
  s.authorize api.toVmApi approval statement
  require (timestamp ≤ o.deadline) "note settlement has expired"
  require (o.operationId ∉ s.operations) "operation identifier was already used"
  require (o.nullifier ∉ s.nullifiers) "payment nullifier was already settled"
  forEach (s.checkOrdinarySpend api) o.spends
  require (∀ output ∈ o.consolidatedOutput, output.noteId ∉ s.notes)
    "note consolidation reuses an existing output"
  let s : VmState V R := { s with
    nullifiers := s.nullifiers.insert o.nullifier ⟨o.deadline, statement⟩
    operations := s.operations.insert o.operationId statement }
  s.applyNoteSettlement api o statement

end

end VmState
end DeFMI
