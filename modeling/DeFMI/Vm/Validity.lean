import DeFMI.Vm.State
import Mathlib.Data.FinEnum
import Mathlib.Data.List.Sort
set_option autoImplicit false

/-!
What a successor state is checked for before it replaces its parent. The checks
of the tables that no ledger operation reads are made by the machine itself.
-/

namespace DeFMI
open Lib

section Parts

variable {V : Type} [AddCommGroup V] [Module Scalar V] [DecidableEq V]

/-- A point of the confidential rail; the identity is refused. -/
def assetPoint (encoded : CompressedPoint V) : Result V := do
  let p ← okOr encoded.decompress "confidential asset point is malformed or identity"
  require (p ≠ 0) "confidential asset point is malformed or identity"
  pure p

def applicationPoint (encoded : CompressedPoint V) : Result V :=
  okOr encoded.decompress "application settlement point is malformed"

section
variable (api : NoteApi V)

def AssetIdentity.statementOf (identity : AssetIdentity V) (tag commitment : V) :
    AssetStatement V :=
  ⟨api.key, identity.registry, tag, some commitment,
    (api.identityContext identity.commitment identity.tag identity.registry).1⟩

def AssetIdentity.validate (identity : AssetIdentity V) : Check := do
  let tag ← assetPoint identity.tag
  let commitment ← assetPoint (api.decodePoint identity.commitment)
  identity.proof.verify api.assetOracle api.names (identity.statementOf api tag commitment)

def ApplicationOpening.domain (o : ApplicationOpening V) : Result Bytes := do
  require (¬(64 < o.shares.length ∨ o.context = 0 ∨ o.claimContext = 0))
    "application opening is oversized or unbound"
  o.claimAuthorization.validate
  let view ← applicationPoint o.recipientView
  api.envelope o.context o.threshold view o.shares

def ClaimConversion.verify (c : ClaimConversion V) (normalized tag : CompressedPoint V)
    (context : Id) : Check := do
  let _ ← c.opening.domain api
  require (api.sealedValid c.assetOpening = true) "sealed asset opening is invalid"
  let tagPoint ← assetPoint tag
  let normalizedPoint ← applicationPoint normalized
  let value ← assetPoint c.valueCommitment
  require (c.valueLink.verify api.key.h
      (api.claimValueContext context normalized tag c.valueCommitment c.opening) api.key.g tagPoint
      normalizedPoint value = true) "confidential value link failed"

def ApplicationReserveScope.key (scope : ApplicationReserveScope) : Result Id := do
  scope.validate
  pure (api.scopeKey scope)

def ApplicationReservationBinding.validate (b : ApplicationReservationBinding V) : Check := do
  b.scope.validate
  require (¬(b.requestCommitment = 0 ∨ b.facilityId = 0 ∨ b.holdId = 0 ∨ b.assetId = 0 ∨
      b.amountCommitment = 0 ∨ b.entityCommitment = 0 ∨ b.mandateDigest = 0 ∨
      b.delegationDigest = 0 ∨ b.validFrom = 0 ∨ b.validUntil < b.validFrom ∨
      maxUnixTime < b.validUntil ∨ b.amountCommitment.decompress = none ∨
      b.delegationDigest ≠ api.applicationDelegation b.mandateDigest))
    "application reservation binding is malformed"

def validCode (value : String) (bound : ℕ) : Bool :=
  value ≠ "" && value.utf8ByteSize ≤ bound &&
    value.toList.all (fun c => c.isAlphanum || "._:/+-".toList.contains c)

def CsdIssuerDefinition.body (d : CsdIssuerDefinition) : Check := do
  require (¬(validCode d.code 64 = false ∨ validCode d.jurisdiction 32 = false ∨ d.validFrom = 0 ∨
      d.validUntil ≤ d.validFrom ∨ maxUnixTime < d.validUntil ∨ d.permittedAssetIds = [] ∨
      64 < d.permittedAssetIds.length)) "CSD issuer definition has invalid dimensions"
  nonzero d.issuerId "issuer_id"
  nonzero d.operatorEntityCommitment "operator_entity_commitment"
  nonzero d.publicKey "public_key"
  nonzero d.policyDigest "policy_digest"
  require (api.issuerKey d.publicKey = true) "CSD issuer public key is malformed"
  require (¬(d.pqPublicKey.length ≠ 1952 ∨ ∀ byte ∈ d.pqPublicKey, byte = 0))
    "CSD issuer requires an ML-DSA-65 public key"
  require (¬(0 ∈ d.permittedAssetIds ∨ ascending d.permittedAssetIds = false))
    "CSD permitted assets must be nonzero, sorted and unique"

def SettlementVerifierRecord.validate (v : SettlementVerifierRecord) : Check := do
  require (¬(v.venueId = 0 ∨ v.defmiId = 0 ∨ v.epoch = 0 ∨ v.quoteRegistryDigest = 0 ∨
      v.quoteEligibilityBits = 0 ∨ 62 < v.quoteEligibilityBits ∨ v.quoteSpanBits = 0 ∨
      64 < v.quoteSpanBits ∨ v.amountBits = 0 ∨ 64 < v.amountBits ∨ v.priceBits = 0 ∨
      64 < v.priceBits ∨ v.maxHorizon = 0 ∨ v.validFrom = 0 ∨ v.validUntil < v.validFrom ∨
      maxUnixTime < v.validUntil ∨ v.frostPublicPackage = [] ∨
      65536 < v.frostPublicPackage.length))
    "settlement verifier configuration is outside its bounds"
  api.settlementCommittee v.pqCommittee v.frostPublicPackage

end

end Parts

namespace VmState

variable {V R : Type} [AddCommGroup V] [Module Scalar V] [DecidableEq V]

section
variable (api : NoteApi V) (s : VmState V R) (r : ApplicationReservationRecord V)

def validateIdentity (e : Sigma fun _ : Id => AssetIdentity V) : Check := do
  require (e.1 = e.2.commitment ∧ e.1 ∉ s.assets ∧ ∀ asset ∈ e.2.registry.assets, asset ∈ s.assets)
    "confidential identity has a wrong key, collision or unknown cohort"
  e.2.validate api

def validateReservationValue (s : VmState V R) (e : Sigma fun _ : Id => CompressedPoint V) :
    Check := do
  let record ← okOr (s.applicationReservations.lookup e.1) "confidential reserve is absent"
  require (record.escrowNoteId ∈ s.confidential.notes ∧
      (s.notes.lookup record.escrowNoteId).any (fun note => note.valueCommitment = e.2) = true)
    "confidential reserve lost its canonical tagged escrow"

def validateRefund (api : NoteApi V) (s : VmState V R)
    (e : Sigma fun _ : Id => RetainedRefund V) : Check := do
  let record ← okOr (s.applicationReservations.lookup e.1) "confidential refund reserve is absent"
  let identity ← okOr (s.confidential.identities.lookup record.binding.assetId)
    "confidential refund asset identity is absent"
  require (record.status = .active ∧ record.sequence ≠ 0 ∧ record.remainingOpening ≠ none ∧
      e.1 ∈ s.confidential.reservationValues ∧ e.2.context ≠ 0)
    "confidential retained refund has an invalid head"
  e.2.conversion.verify api record.remaining identity.tag e.2.context

def validateClaimAsset (e : Sigma fun _ : Id => Bytes) : Check := do
  let claim ← okOr (s.noteClaims.lookup e.1) "confidential asset envelope has no claim"
  require (claim.assetId ∈ s.confidential.identities) "confidential claim has no asset identity"
  require (api.sealedValid e.2 = true) "sealed asset opening is invalid"

def validateConfidential : Check := do
  forEach (s.validateIdentity api) s.confidential.identities.entries
  require (∀ id ∈ s.confidential.notes, id ∈ s.notes) "confidential note index names an absent note"
  require (∀ id ∈ s.confidential.notes,
      (s.notes.lookup id).any (fun note => note.assetId ∈ s.confidential.identities) = true)
    "confidential note has no registered asset commitment"
  forEach s.validateReservationValue s.confidential.reservationValues.entries
  forEach (s.validateRefund api) s.confidential.refunds.entries
  forEach (s.validateClaimAsset api) s.confidential.claimAssets.entries

def validateGuarantor (e : Sigma fun _ : Id => GuarantorRecord) : Check := do
  let weak ← okOr (api.guarantorKey e.2.publicKey) "invalid guarantor classical key"
  require (¬(weak = true ∨ e.2.pqPublicKey.length ≠ 1952))
    "guarantor state requires mandatory ML-DSA-65 enrollment; legacy snapshots require explicit migration"

def validateIssuer (e : Sigma fun _ : Id => CsdIssuerRecord) : Check := do
  (e.2.definition e.1).body api
  require (∀ asset ∈ e.2.permittedAssetIds, asset ∈ s.assets)
    "state contains a malformed CSD issuer"

def validateNote (e : Sigma fun _ : Id => NoteRecord V) : Check := do
  (e.2.output e.1).validate api
  require (e.1 ∈ s.confidential.notes ∨ s.assetActive e.2.assetId = true)
    "state note belongs to an inactive or unknown asset"

def validateScope (e : Sigma fun _ : Id => ApplicationReserveScope) : Check := do
  let key ← e.2.key api
  require (e.1 = key) "application scope is stored under another key"

def custody : Option NoteSerialRecord :=
  s.noteSerials.lookup (api.escrowClaimSerial r.escrowNoteId r.binding.holdId)

def validateRemainder : Check :=
  match r.remainingOpening with
  | none => .ok ()
  | some opening => do
    let _ ← opening.domain api
    require ((s.nullifiers.lookup opening.claimContext).any
        (fun nullifier => nullifier.statement = r.headReceipt) = true)
      "application remainder lost its authorized claim context"

/-- A reservation that was never filled has its first head, any other one has
consumed its covenant and names an operation of the ledger. -/
def validateHead : Check :=
  if r.sequence = 0 then
    require (r.remainingCommitment = none ∧ r.lastReceipt = none ∧ r.remainingOpening = none ∧
        r.status = .active ∧ s.custody api r = none)
      "initial application reserve contains a later head"
  else do
    require (r.remainingCommitment ≠ none ∧ r.lastReceipt.any (· ≠ 0) = true ∧
        (s.custody api r).any (fun serial =>
          serial.assetId = r.binding.assetId && serial.ringRoot = r.escrowNoteId) = true ∧
        s.operations.entries.any (fun e => e.2 = r.headReceipt) = true ∧
        (r.status = .active ↔ r.remainingOpening ≠ none))
      "advanced application reserve lost its custody or head"
    s.validateRemainder api r

def validateApplication (e : Sigma fun _ : Id => ApplicationReservationRecord V) : Check := do
  let r := e.2
  let b := r.binding
  b.validate api
  require (e.1 ∈ s.confidential.reservationValues →
      ((r.sequence ≠ 0 ∧ r.status = .active) ↔ e.1 ∈ s.confidential.refunds))
    "confidential reservation lost its retained refund"
  let hold ← okOr (s.creditHolds.lookup e.1) "application reserve has no credit hold"
  let note ← okOr (s.notes.lookup r.escrowNoteId) "application reserve has no covenant note"
  let facility ← okOr (s.creditFacilities.lookup b.facilityId)
    "application reserve has no facility"
  let scopeKey ← b.scope.key api
  require (e.1 = b.holdId ∧ s.applicationReserveScopes.lookup scopeKey = some b.scope ∧
      e.1 ∉ s.reservationBindings ∧ e.1 ∉ s.noteReservations ∧ hold.facilityId = b.facilityId ∧
      hold.queryCommitment = b.requestCommitment ∧ hold.amountCommitment = r.remaining ∧
      hold.expiresAt = b.validUntil ∧ hold.status = r.status ∧
      hold.settlementDigest = r.settlementDigest ∧ note.assetId = b.assetId ∧
      note.valueCommitment =
        (s.confidential.reservationValues.lookup e.1).getD b.amountCommitment ∧
      (r.escrowNoteId ∈ s.confidential.notes ↔ e.1 ∈ s.confidential.reservationValues) ∧
      note.lockId = b.holdId ∧ facility.beneficiaryCommitment = b.entityCommitment ∧
      facility.railAssetId = b.assetId ∧ r.proofDigest ≠ 0 ∧ r.receiptDigest ≠ 0 ∧
      (r.status = .active → r.settlementDigest = 0) ∧
      (r.status = .released → r.settlementDigest = 0) ∧
      (r.status = .consumed → r.settlementDigest = r.headReceipt))
    "state contains a malformed application reservation"
  let _ ← applicationPoint r.remaining
  s.validateHead api r

def validateNoteReservation (e : Sigma fun _ : Id => NoteReservationRecord V) : Check := do
  let note ← okOr (s.notes.lookup e.2.escrowNoteId) "note reservation has no escrow note"
  require (e.1 ∈ s.creditHolds ∧ e.1 ∈ s.reservationBindings ∧ note.assetId = e.2.assetId ∧
      note.valueCommitment = e.2.amountCommitment ∧ note.lockId = e.1 ∧ e.2.proofDigest ≠ 0 ∧
      e.2.delegationDigest ≠ 0) "state contains a malformed note reservation"

def validateStandingNotePool (e : Sigma fun _ : Id => StandingNotePoolRecord V) : Check := do
  let note ← okOr (s.notes.lookup e.2.currentPoolNoteId)
    "standing note pool has no current covenant note"
  let poolId ← api.standingNotePoolId e.2.entityCommitment e.2.policyDigest e.2.mandateDigest
    e.2.assetId e.2.direction
  let delegation ← api.standingNotePoolDelegationDigest e.1 e.2.venueId e.2.defmiId
    e.2.committeeEpoch e.2.validUntil
  require (e.1 = poolId ∧ e.2.delegationDigest = delegation ∧ e.2.venueId ≠ 0 ∧ e.2.defmiId ≠ 0 ∧
      e.2.maximumAmountCommitment ≠ 0 ∧ e.2.statement ≠ 0 ∧
      (e.2.direction = 1 ∨ e.2.direction = 2) ∧ e.2.committeeEpoch ≠ 0 ∧ e.2.validUntil ≠ 0 ∧
      note.assetId = e.2.assetId ∧ note.lockId = e.1)
    "state contains a malformed standing note pool"

def validateNoteClaim (e : Sigma fun _ : Id => NoteClaimRecord V) : Check := do
  require (e.2.assetId ∈ s.confidential.identities ↔ e.1 ∈ s.confidential.claimAssets)
    "confidential claim lost its encrypted asset opening"
  (e.2.claim e.1).validate api
  require (e.2.sourceHoldId ∈ s.creditHolds ∧ e.2.settlementDigest ≠ 0 ∧
      (e.2.status = .active ↔ e.2.materialization = 0)) "state contains a malformed note claim"

def validateBinding (e : Sigma fun _ : Id => ReservationBindingRecord V) : Check := do
  let hold ← okOr (s.creditHolds.lookup e.1) "reservation binding has no credit hold"
  let b := e.2
  require (b.entityCommitment ≠ 0 ∧ b.assetId ≠ 0 ∧ (b.direction = 1 ∨ b.direction = 2) ∧
      b.authorizationDigest ≠ 0 ∧ b.mandateDigest ≠ 0 ∧ b.typedReserveDigest ≠ 0 ∧
      b.reserveNullifier ≠ 0 ∧ b.assetLinkProofDigest ≠ 0 ∧ b.receiptDigest ≠ 0 ∧
      hold.queryCommitment = b.authorizationDigest)
    "state contains a malformed or repeated reservation binding"
  match b.role with
  | .maker =>
    require (b.policyVersion ≠ 0 ∧ b.limitPriceCommitment = 0 ∧ b.rfqNullifier = 0 ∧
        b.admissionTicketId = 0 ∧ b.admissionSlot = 0 ∧ b.admissionReceiptDigest = 0 ∧
        b.admissionEpoch = 0 ∧ b.admissionSequence = 0 ∧ b.admissionBatchId = 0)
      "reservation role and scope disagree"
  | .taker =>
    require (b.policyVersion = 0 ∧ b.limitPriceCommitment ≠ 0 ∧
        b.limitPriceCommitment.decompress ≠ none ∧ b.rfqNullifier ≠ 0 ∧
        b.admissionTicketId ≠ 0 ∧ b.admissionReceiptDigest ≠ 0 ∧ b.admissionEpoch ≠ 0 ∧
        b.admissionSequence ≠ 0 ∧ b.admissionBatchId ≠ 0)
      "reservation role and scope disagree"

def validateEscrow (e : Sigma fun _ : Id => ReservationEscrowRecord V) : Check :=
  require (e.1 ∈ s.reservationBindings ∧ e.2.sourceHandle ≠ 0 ∧ e.2.escrowHandle ≠ 0 ∧
      e.2.sourceHandle ≠ e.2.escrowHandle ∧ e.2.assetId ≠ 0 ∧ e.2.amountCommitment ≠ 0 ∧
      e.2.proofDigest ≠ 0) "state contains a malformed reservation escrow"

def takerBindings : List (ReservationBindingRecord V) :=
  (s.reservationBindings.entries.map Sigma.snd).filter (fun b => b.role = .taker)

def validateCommittee (e : Sigma fun _ : Id × ℕ => RegisteredCommittee) : Check :=
  require (e.1.1 ≠ 0 ∧ e.1.2 ≠ 0 ∧ e.2.validFrom ≠ 0 ∧ e.2.validFrom ≤ e.2.validUntil ∧
      e.2.statement ≠ 0 ∧ e.2.nodeKeys.length = 7 ∧ 0 ∉ e.2.nodeKeys ∧ e.2.nodeKeys.Nodup ∧
      ∀ node ∈ e.2.nodeKeys, api.nodeKey node = true)
    "state contains a malformed admission committee"

def lanes (batchId : Id) : List (ℕ × AdmissionEntryRecord) :=
  ((s.admissionEntries.entries.filter (fun e => e.1.1 = batchId)).map
    (fun e => (e.1.2, e.2))).insertionSort (fun a b => a.1 ≤ b.1)

def validateBatch (e : Sigma fun _ : Id => RegisteredBatch) : Check := do
  let b := e.2
  require (b.venueId ≠ 0 ∧ b.epoch ≠ 0 ∧ b.batchDigest ≠ 0 ∧ b.orderDigest ≠ 0 ∧
      b.population ≠ 0 ∧ b.population ≤ 4096 ∧ b.consumed ≤ b.population ∧ b.expiresAt ≠ 0 ∧
      b.statement ≠ 0) "state contains a malformed or duplicate admission batch"
  let lanes := s.lanes e.1
  require (lanes.length = b.population) "admission batch omits a planned lane"
  let first ← okOr lanes.head? "admission batch has no planned lanes"
  require (∀ l ∈ lanes.zipIdx, l.1.1 = first.1 + l.2 ∧ l.1.2.admissionDigest ≠ 0 ∧
      (l.2 < b.consumed ↔ l.1.2.consumedBy ≠ 0)) "admission batch cursor and entries disagree"

def validateAdmission : Check := do
  forEach (validateCommittee api) s.admissionCommittees.entries
  forEach s.validateBatch s.admissionBatches.entries
  require (s.admissionBatches.entries.map
      (fun e => (e.2.venueId, e.2.epoch, e.2.slot, e.2.batchDigest))).Nodup
    "state contains a malformed or duplicate admission batch"
  require (∀ e ∈ s.admissionEntries.entries, e.1.1 ∈ s.admissionBatches ∧ e.1.2 ≠ 0)
    "state contains an orphaned admission entry"

def validateVerifier (e : Sigma fun _ : Id × ℕ => SettlementVerifierRecord) : Check := do
  e.2.validate api
  require (e.1 = (e.2.venueId, e.2.epoch)) "state contains a malformed settlement verifier"

def validate : Check := do
  s.validateConfidential api
  forEach (validateGuarantor api) s.guarantors.entries
  forEach (s.validateIssuer api) s.csdIssuers.entries
  forEach (s.validateNote api) s.notes.entries
  forEach (validateScope api) s.applicationReserveScopes.entries
  forEach (s.validateApplication api) s.applicationReservations.entries
  require (s.applicationReservations.entries.map
      (fun e => (api.scopeKey e.2.binding.scope, e.2.binding.requestCommitment))).Nodup
    "state contains a malformed application reservation"
  forEach s.validateNoteReservation s.noteReservations.entries
  forEach (s.validateStandingNotePool api) s.standingNotePools.entries
  forEach (s.validateNoteClaim api) s.noteClaims.entries
  require (s.noteClaims.entries.map (fun e => e.2.authorization.keyFingerprint)).Nodup
    "state contains a malformed note claim"
  require (∀ e ∈ s.noteSerials.entries, e.2.deadline ≠ 0 ∧ e.2.assetId ≠ 0 ∧ e.2.ringRoot ≠ 0 ∧
      e.2.statement ≠ 0) "state contains a malformed note serial or issuance"
  require (∀ e ∈ s.noteIssuances.entries, e.2 ≠ 0)
    "state contains a malformed note serial or issuance"
  forEach s.validateBinding s.reservationBindings.entries
  require (s.reservationBindings.entries.map (fun e => e.2.reserveNullifier)).Nodup
    "state contains a malformed or repeated reservation binding"
  require ((s.takerBindings.map (·.rfqNullifier)).Nodup ∧
      (s.takerBindings.map (·.admissionTicketId)).Nodup ∧
      (s.takerBindings.map (·.admissionReceiptDigest)).Nodup ∧
      (s.takerBindings.map (fun b => (b.admissionBatchId, b.admissionSequence))).Nodup)
    "reservation role and scope disagree"
  forEach s.validateEscrow s.reservationEscrows.entries
  s.validateAdmission api
  forEach (validateVerifier api) s.settlementVerifiers.entries

end

end VmState
end DeFMI
