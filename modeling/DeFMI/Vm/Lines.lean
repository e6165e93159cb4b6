import DeFMI.Vm.Notes
set_option autoImplicit false

/-!
Registration of assets, accounts and guarantors, the operations on a guarantee
line, and settlement over accounts on the replicated state.
-/

namespace DeFMI
open Lib

structure LinesApi (V R : Type) extends NotesApi V R where
  asset : AssetDefinition → Id
  account : AccountOpening V → Id
  guarantor : GuarantorDefinition → Id
  ed25519Key : Id → Bool
  weakKey : Id → Bool
  guarantorSignature : Id → Bytes → Id → Bytes → Check

section Bodies

variable {V R : Type} [AddCommGroup V] [DecidableEq V]

def AssetDefinition.statement (api : LinesApi V R) (d : AssetDefinition) : Result Id := do
  require (¬(d.code = "" ∨ 30 < d.decimals)) "asset code or decimal precision is invalid"
  nonzero d.assetId "asset_id"
  nonzero d.termsDigest "terms_digest"
  pure (api.asset d)

def AccountOpening.statement (api : LinesApi V R) (o : AccountOpening V) : Result Id := do
  nonzero o.handle "handle"
  nonzero o.assetId "asset_id"
  nonzero o.commitment "commitment"
  nonzero o.issuanceNonce "issuance_nonce"
  pure (api.account o)

def GuarantorDefinition.statement (api : LinesApi V R) (d : GuarantorDefinition) : Result Id := do
  require (¬(d.name = "" ∨ 128 < d.name.utf8ByteSize ∨ d.publicKey = 0))
    "guarantor name or public key is invalid"
  require (api.ed25519Key d.publicKey = true) "guarantor public key is malformed"
  require (¬(api.weakKey d.publicKey = true ∨ d.pqPublicKey.length ≠ 1952))
    "guarantor requires an enrolled Ed25519 and ML-DSA-65 key pair; explicit re-enrollment is required for legacy keys"
  nonzero d.guarantorId "guarantor_id"
  nonzero d.riskPolicyDigest "risk_policy_digest"
  pure (api.guarantor d)

def GuarantorDefinition.record (d : GuarantorDefinition) : GuarantorRecord :=
  ⟨d.kind, d.name, d.publicKey, d.pqPublicKey, d.riskPolicyDigest, true⟩

end Bodies

namespace VmState

variable {V R : Type} [AddCommGroup V] [Module Scalar V] [DecidableEq V]

section
variable (api : LinesApi V R) (s : VmState V R) (timestamp : ℕ) (facility : CreditFacilityRecord V)

def registerAsset (d : AssetDefinition) (approval : Approval) : Result (VmState V R) := do
  let statement ← d.statement api
  s.authorize api.toVmApi approval statement
  require (¬(d.assetId ∈ s.assets ∨ d.assetId ∈ s.confidential.identities))
    "asset identifier is already registered"
  pure { s with assets := s.assets.insert d.assetId ⟨d.kind, true⟩ }

def openAccount (o : AccountOpening V) (approval : Approval) : Result (VmState V R) := do
  let statement ← o.statement api
  s.authorize api.toVmApi approval statement
  let asset ← okOr (s.assets.lookup o.assetId) "account asset is unknown"
  require (asset.active = true) "account asset is inactive"
  require (o.handle ∉ s.accounts) "account handle is already registered"
  pure { s with accounts := s.accounts.insert o.handle ⟨o.assetId, o.commitment, 0⟩ }

def registerGuarantor (d : GuarantorDefinition) (approval : Approval) : Result (VmState V R) := do
  let statement ← d.statement api
  s.authorize api.toVmApi approval statement
  require (d.guarantorId ∉ s.guarantors) "guarantor identifier is already registered"
  require (∀ e ∈ s.guarantors.entries, ¬(e.2.publicKey = d.publicKey ∨
      e.2.pqPublicKey = d.pqPublicKey)) "guarantor key component is already registered"
  pure { s with guarantors := s.guarantors.insert d.guarantorId d.record }

def grantCredit (g : CreditFacilityGrant V) (approval : Approval) : Result (VmState V R) := do
  let statement ← g.statement api.facility
  s.authorize api.toVmApi approval statement
  require (timestamp ≤ g.validUntil) "credit facility is already expired"
  require (g.operationId ∉ s.operations) "operation identifier was already used"
  let guarantor ← okOr (s.guarantors.lookup g.guarantorId)
    "credit facility names an unknown guarantor"
  require (¬(guarantor.active = false ∨ guarantor.riskPolicyDigest ≠ g.riskPolicyDigest))
    "credit facility uses an inactive guarantor or unregistered policy"
  api.guarantorSignature guarantor.publicKey guarantor.pqPublicKey statement g.guarantorSignature
  require (s.assetActive g.railAssetId = true ∨ g.railAssetId ∈ s.confidential.identities)
    "credit facility uses an inactive or unknown asset"
  require (¬(g.facilityId ∈ s.creditFacilities ∨ ∃ e ∈ s.creditFacilities.entries,
      e.2.guarantorId = g.guarantorId ∧ e.2.beneficiaryCommitment = g.beneficiaryCommitment ∧
        e.2.railAssetId = g.railAssetId))
    "credit facility identifier or guarantor scope is already registered"
  pure { s with
    creditFacilities := s.creditFacilities.insert g.facilityId g.facility
    operations := s.operations.insert g.operationId statement }

def nextHold (t : CreditFacilityTransition V) : Result (CreditHoldRecord V) :=
  match t.kind with
  | .hold => do
    require (¬(facility.status ≠ .active ∨ timestamp < facility.validFrom ∨
        facility.validUntil < timestamp)) "credit facility is not active"
    require (¬(t.expiresAt < timestamp ∨ facility.validUntil < t.expiresAt))
      "credit hold expiry is outside the facility interval"
    require (t.before.outstanding = t.after.outstanding) "a new hold cannot change settled debt"
    require (t.holdId ∉ s.creditHolds) "credit hold identifier is already registered"
    pure t.newHold
  | .release => do
    let hold ← okOr (s.creditHolds.lookup t.holdId) "credit transition names an unknown hold"
    require (hold.Matches t) "credit transition was proved against stale hold state"
    require (t.expiresAt < timestamp) "credit hold cannot be released before signed expiry"
    require (t.before.outstanding = t.after.outstanding) "hold release cannot change settled debt"
    pure (hold.resolve .released t.settlementDigest t)
  | .consume => do
    let hold ← okOr (s.creditHolds.lookup t.holdId) "credit transition names an unknown hold"
    require (hold.Matches t) "credit transition was proved against stale hold state"
    require (timestamp ≤ t.expiresAt) "expired credit hold cannot be consumed"
    pure (hold.resolve .consumed t.settlementDigest t)

def transitionCredit (t : CreditFacilityTransition V) (approval : Approval) :
    Result (VmState V R) := do
  let statement ← t.statement api.toCreditDigests
  s.authorize api.toVmApi approval statement
  require (t.operationId ∉ s.operations) "operation identifier was already used"
  let facility ← okOr (s.creditFacilities.lookup t.facilityId)
    "credit transition names an unknown facility"
  require (Fresh facility t) "credit transition was proved against stale facility state"
  let hold ← s.nextHold timestamp facility t
  let facility ← facility.advance t
  pure { s with
    creditFacilities := s.creditFacilities.insert t.facilityId facility
    creditHolds := s.creditHolds.insert t.holdId hold
    operations := s.operations.insert t.operationId statement }

/-- The guarantor behind a facility; a control and an amendment differ in the text
for an inactive one. -/
def facilityGuarantor (inactive : String) : Result GuarantorRecord := do
  let guarantor ← okOr (s.guarantors.lookup facility.guarantorId)
    "credit facility guarantor is missing"
  require (guarantor.active = true) inactive
  pure guarantor

def storeLine (facilityId : Id) (facility : CreditFacilityRecord V) (operationId statement : Id) :
    VmState V R :=
  { s with
    creditFacilities := s.creditFacilities.insert facilityId facility
    operations := s.operations.insert operationId statement }

def controlCredit (c : CreditFacilityControl) (approval : Approval) : Result (VmState V R) := do
  let statement ← c.statement api.facility
  s.authorize api.toVmApi approval statement
  require (c.effectiveAt ≤ timestamp) "credit control is not yet effective"
  require (c.operationId ∉ s.operations) "operation identifier was already used"
  let facility ← okOr (s.creditFacilities.lookup c.facilityId)
    "credit control names an unknown facility"
  require (facility.sequence = c.beforeSequence)
    "credit control was signed against stale facility state"
  let guarantor ← s.facilityGuarantor facility "inactive guarantor cannot control a facility"
  api.guarantorSignature guarantor.publicKey guarantor.pqPublicKey statement c.guarantorSignature
  c.allowed facility
  let sequence ← okOr (checkedSucc facility.sequence) "credit facility sequence overflow"
  pure (s.storeLine c.facilityId { facility with status := c.action.status, sequence } c.operationId
    statement)

def amendCredit (a : CreditFacilityAmendment V) (approval : Approval) : Result (VmState V R) := do
  let statement ← a.statement api.facility
  s.authorize api.toVmApi approval statement
  require (¬(timestamp < a.effectiveAt ∨ a.afterValidUntil < timestamp))
    "credit amendment is not effective or has expired"
  require (a.operationId ∉ s.operations) "operation identifier was already used"
  let facility ← okOr (s.creditFacilities.lookup a.facilityId)
    "credit amendment names an unknown facility"
  require (¬(facility.status = .closed ∨ facility.status = .defaulted))
    "closed or defaulted facility cannot be amended"
  require (a.Current facility) "credit amendment was proved against stale facility state"
  require (facility.validFrom ≤ a.afterValidUntil)
    "credit amendment ends before the facility starts"
  let guarantor ← s.facilityGuarantor facility "inactive guarantor cannot amend a facility"
  require (guarantor.riskPolicyDigest = a.afterRiskPolicyDigest)
    "credit amendment uses an unregistered guarantor risk policy"
  api.guarantorSignature guarantor.publicKey guarantor.pqPublicKey statement a.guarantorSignature
  require (facility.sequence < u64Max) "credit facility sequence overflow"
  pure (s.storeLine a.facilityId (a.amended facility) a.operationId statement)

/-- The part of a settlement that its approval does not cover: the account legs. -/
def applySettlementOrder (o : SettlementOrder V) (timestamp : ℕ) (statement : Id) :
    Result (VmState V R) := do
  require (timestamp ≤ o.deadline) "payment instruction has expired"
  require (o.operationId ∉ s.operations) "operation identifier was already used"
  require (o.nullifier ∉ s.nullifiers) "payment nullifier was already settled"
  forEach (fun leg => s.checkLeg leg "settlement names an unknown account"
    "settlement leg is on the wrong asset rail" "settlement was proved against stale account state"
    "settlement uses an inactive or unknown asset") o.legs
  let s : VmState V R :=
    { s with nullifiers := s.nullifiers.insert o.nullifier ⟨o.deadline, statement⟩ }
  let s ← foldEach applyLeg s o.legs
  pure { s with operations := s.operations.insert o.operationId statement }

def settle (o : SettlementOrder V) (approval : Approval) : Result (VmState V R) := do
  let statement ← o.statement api.facility
  s.authorize api.toVmApi approval statement
  s.applySettlementOrder o timestamp statement

end

end VmState
end DeFMI
