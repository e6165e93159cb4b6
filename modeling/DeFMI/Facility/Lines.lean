import DeFMI.Facility.Database
set_option autoImplicit false

/-!
Operations on a guarantee line: grant, transition, amendment and control, each
in one transaction, and what an accepted one leaves in the tables.
-/

namespace DeFMI
open Lib InPlace

def i64Max : ℕ := 2 ^ 63 - 1

section Operations

variable {V : Type} [AddCommGroup V] [Module Scalar V] [DecidableEq V]

section
variable (api : FacilityApi V) (g : CreditFacilityGrant V) (t : CreditFacilityTransition V)
  (a : CreditFacilityAmendment V)

def checkGrant (statement : Id) (approval : QuorumApproval) (now : ℕ) (db : FacilityDb V) :
    Check := do
  require (¬(g.validUntil < now ∨ i64Max < now))
    "credit facility grant has expired or cannot be stored"
  requireQuorum api db statement approval
  let guarantor ← okOr (db.guarantors.lookup g.guarantorId)
    "credit facility names an unknown guarantor"
  require (guarantor.active = true) "credit facility guarantor is inactive"
  require (guarantor.riskPolicyDigest = g.riskPolicyDigest)
    "credit facility uses an unregistered risk policy"
  api.guarantorSignature guarantor.publicKey guarantor.pqPublicKey statement g.guarantorSignature
  require ((db.assets.lookup g.railAssetId).any (fun asset => asset.active) = true)
    "credit facility asset rail is unknown or inactive"
  require (g.facilityId ∉ db.creditFacilities) "credit facility identifier is already registered"
  require ((g.guarantorId, g.beneficiaryCommitment, g.railAssetId) ∉ db.creditFacilityScopes)
    "this guarantor already has a facility for the legal entity and asset rail"

def CreditFacilityGrant.facility : CreditFacilityRecord V where
  guarantorId := g.guarantorId
  beneficiaryCommitment := g.beneficiaryCommitment
  railAssetId := g.railAssetId
  capCommitment := g.capCommitment
  balances := g.balances
  overlimitCommitment := 0
  collateralCommitment := g.collateralCommitment
  riskPolicyDigest := g.riskPolicyDigest
  validFrom := g.validFrom
  validUntil := g.validUntil
  status := .active
  sequence := 0

def insertFacility (db : FacilityDb V) : Result (FacilityDb V) := do
  let creditFacilities ← insertRow db.creditFacilities g.facilityId g.facility (fun _ => false)
  let creditFacilityScopes ← insertRow db.creditFacilityScopes
    (g.guarantorId, g.beneficiaryCommitment, g.railAssetId) g.facilityId
    (fun facilityId => facilityId = g.facilityId)
  pure { db with creditFacilities, creditFacilityScopes }

def grantCreditFacility (approval : QuorumApproval) (now : ℕ) :
    InPlace (FacilityDb V) (CreditFacilityRecord V) := do
  let statement ← check fun _ => g.statement api.toFacilityDigests
  transaction true do
    let replay ← check fun db => creditOperation db g.operationId statement
    if replay then
      check (loadCreditFacility g.facilityId "idempotent credit grant has no facility state")
    else do
      check (checkGrant api g statement approval now)
      update (insertFacility g)
      update (insertCreditOperation g.operationId g.facilityId "grant" statement)
      check (loadCreditFacility g.facilityId "credit facility was not stored")

def stepHold (facility : CreditFacilityRecord V) (t : CreditFacilityTransition V) (now : ℕ)
    (db : FacilityDb V) : Result (FacilityDb V) :=
  match t.kind with
  | .hold => do
    require (¬(facility.status ≠ .active ∨ now < facility.validFrom ∨ facility.validUntil < now))
      "credit facility is not active for a new RFQ"
    require (¬(t.expiresAt < now ∨ facility.validUntil < t.expiresAt))
      "credit hold expiry is outside the facility validity"
    require (t.before.outstanding = t.after.outstanding) "creating a hold cannot change settled debt"
    require (t.holdId ∉ db.creditHolds) "RFQ hold identifier is already registered"
    let creditHolds ← insertRow db.creditHolds t.holdId t.newHold (fun _ => false)
    pure { db with creditHolds }
  | .release => do
    let hold ← okOr (db.creditHolds.lookup t.holdId) "credit transition names an unknown RFQ hold"
    require (hold.Matches t) "credit hold context is stale or does not match the RFQ"
    require (t.expiresAt < now) "an RFQ hold cannot be released before its signed expiry"
    require (t.before.outstanding = t.after.outstanding)
      "releasing a hold cannot change settled debt"
    pure { db with creditHolds :=
      db.creditHolds.insert t.holdId (hold.resolve .released t.settlementDigest t) }
  | .consume => do
    let hold ← okOr (db.creditHolds.lookup t.holdId) "credit transition names an unknown RFQ hold"
    require (hold.Matches t) "credit hold context is stale or does not match the RFQ"
    require (now ≤ t.expiresAt) "an expired RFQ hold cannot be consumed"
    pure { db with creditHolds :=
      db.creditHolds.insert t.holdId (hold.resolve .consumed t.settlementDigest t) }

def stepFacility (facility : CreditFacilityRecord V) (db : FacilityDb V) : FacilityDb V :=
  let row := { facility with balances := t.after, sequence := facility.sequence + 1 }
  { db with creditFacilities := db.creditFacilities.insert t.facilityId row }

/-- One proved transition inside the caller's transaction. -/
def applyCreditTransition (operationStatement : Id) (operationKind : String) (now : ℕ) :
    InPlace (FacilityDb V) (CreditFacilityRecord V) := do
  check fun _ => require (¬(i64Max < now ∨ i64Max < t.expiresAt))
    "credit reservation time cannot be stored"
  let facility ← check
    (loadCreditFacility t.facilityId "credit transition names an unknown facility")
  check fun _ => require (facility.sequence = t.beforeSequence ∧ facility.balances = t.before)
    "credit transition was proved against stale facility state"
  update (stepHold facility t now)
  update fun db => pure (stepFacility t facility db)
  update (insertCreditOperation t.operationId t.facilityId operationKind operationStatement)
  check (loadCreditFacility t.facilityId "credit facility disappeared during transition")

def CreditTransitionKind.asStr : CreditTransitionKind → String
  | .hold => "hold"
  | .release => "release"
  | .consume => "consume"

def transitionCreditFacility (proof : CreditFacilityRelationProof) (approval : QuorumApproval)
    (now : ℕ) : InPlace (FacilityDb V) (CreditFacilityRecord V) := do
  let statement ← check fun _ => do
    t.body
    proof.verify api.toFacilityDigests api.key t
    t.statement api.toCreditDigests
  transaction true do
    let replay ← check fun db => creditOperation db t.operationId statement
    if replay then
      check (loadCreditFacility t.facilityId
        "idempotent credit transition has no facility state")
    else do
      check fun db => requireQuorum api db statement approval
      applyCreditTransition t statement t.kind.asStr now

def checkGuarantor (facility : CreditFacilityRecord V) (inactive : String)
    (policy : GuarantorRow → Check) (statement : Id) (signature : Bytes)
    (db : FacilityDb V) : Check := do
  let guarantor ← okOr (db.guarantors.lookup facility.guarantorId)
    "credit facility guarantor is missing"
  require (guarantor.active = true) inactive
  policy guarantor
  api.guarantorSignature guarantor.publicKey guarantor.pqPublicKey statement signature

def CreditFacilityAmendment.Current (facility : CreditFacilityRecord V) : Prop :=
  facility.sequence = a.beforeSequence ∧ facility.capCommitment = a.beforeCapCommitment ∧
    facility.balances = a.before ∧ facility.overlimitCommitment = a.beforeOverlimitCommitment ∧
    facility.collateralCommitment = a.beforeCollateralCommitment ∧
    facility.riskPolicyDigest = a.beforeRiskPolicyDigest ∧
    facility.validUntil = a.beforeValidUntil

instance (a : CreditFacilityAmendment V) (facility : CreditFacilityRecord V) :
    Decidable (a.Current facility) :=
  inferInstanceAs (Decidable (_ ∧ _))

def checkAmendment (statement : Id) (approval : QuorumApproval) (now : ℕ) (db : FacilityDb V) :
    Result (CreditFacilityRecord V) := do
  require (¬(now < a.effectiveAt ∨ a.afterValidUntil < now ∨ i64Max < now ∨
      i64Max < a.afterValidUntil))
    "credit amendment is not effective, has expired, or cannot be stored"
  requireQuorum api db statement approval
  let facility ← loadCreditFacility a.facilityId "credit amendment names an unknown facility" db
  require (¬(facility.status = .closed ∨ facility.status = .defaulted))
    "closed or defaulted facility cannot be amended"
  require (a.Current facility) "credit amendment was proved against stale facility state"
  require (facility.validFrom ≤ a.afterValidUntil)
    "credit amendment ends before the facility starts"
  checkGuarantor api facility "inactive guarantor cannot amend a facility"
    (fun guarantor => require (guarantor.riskPolicyDigest = a.afterRiskPolicyDigest)
      "credit amendment uses an unregistered guarantor risk policy")
    statement a.guarantorSignature db
  pure facility

def CreditFacilityAmendment.amended (facility : CreditFacilityRecord V) : CreditFacilityRecord V :=
  { facility with
    capCommitment := a.afterCapCommitment
    balances := { facility.balances with available := a.afterAvailableCommitment }
    overlimitCommitment := a.afterOverlimitCommitment
    collateralCommitment := a.afterCollateralCommitment
    riskPolicyDigest := a.afterRiskPolicyDigest
    validUntil := a.afterValidUntil
    status := if a.mode = .overLimit then .frozen else facility.status
    sequence := facility.sequence + 1 }

def amendCreditFacility (proof : CreditFacilityAmendmentProof) (approval : QuorumApproval)
    (now : ℕ) : InPlace (FacilityDb V) (CreditFacilityRecord V) := do
  let statement ← check fun _ => do
    proof.verify api.toFacilityDigests api.key a
    a.statement api.toFacilityDigests
  transaction true do
    let replay ← check fun db => creditOperation db a.operationId statement
    if replay then
      check (loadCreditFacility a.facilityId "idempotent credit amendment has no facility state")
    else do
      let facility ← check (checkAmendment api a statement approval now)
      update fun db => pure
        { db with creditFacilities := db.creditFacilities.insert a.facilityId (a.amended facility) }
      update (insertCreditOperation a.operationId a.facilityId "amend" statement)
      check (loadCreditFacility a.facilityId "credit facility disappeared during amendment")

def CreditFacilityControl.allowed (c : CreditFacilityControl)
    (facility : CreditFacilityRecord V) : Check :=
  match c.action with
  | .activate => do
    require (facility.status = .frozen) "only a frozen facility can be reactivated"
    require (facility.overlimitCommitment = 0)
      "over-limit facility must be rehabilitated before activation"
  | .freeze => require (facility.status = .active) "only an active facility can be frozen"
  | .close =>
    require (¬(facility.balances.held ≠ 0 ∨ facility.balances.outstanding ≠ 0 ∨
        facility.overlimitCommitment ≠ 0))
      "facility with holds, debt, or an over-limit balance cannot be closed"
  | .default => require (facility.status ≠ .closed) "closed facility cannot enter default"

def CreditControlAction.asStr : CreditControlAction → String
  | .activate => "activate"
  | .freeze => "freeze"
  | .close => "close"
  | .default => "default"

def checkControl (c : CreditFacilityControl) (statement : Id) (approval : QuorumApproval) (now : ℕ)
    (db : FacilityDb V) : Result (CreditFacilityRecord V) := do
  require (¬(now < c.effectiveAt ∨ i64Max < now))
    "credit control is not yet effective or cannot be stored"
  requireQuorum api db statement approval
  let facility ← loadCreditFacility c.facilityId "credit control names an unknown facility" db
  require (facility.sequence = c.beforeSequence)
    "credit control was signed against stale facility state"
  checkGuarantor api facility "inactive guarantor cannot control a facility"
    (fun _ => .ok ()) statement c.guarantorSignature db
  c.allowed facility
  pure facility

def controlCreditFacility (c : CreditFacilityControl) (approval : QuorumApproval) (now : ℕ) :
    InPlace (FacilityDb V) (CreditFacilityRecord V) := do
  let statement ← check fun _ => c.statement api.toFacilityDigests
  transaction true do
    let replay ← check fun db => creditOperation db c.operationId statement
    if replay then
      check (loadCreditFacility c.facilityId "idempotent credit control has no facility state")
    else do
      let facility ← check (checkControl api c statement approval now)
      let row := { facility with status := c.action.status, sequence := facility.sequence + 1 }
      update fun db => pure
        { db with creditFacilities := db.creditFacilities.insert c.facilityId row }
      update (insertCreditOperation c.operationId c.facilityId c.action.asStr statement)
      check (loadCreditFacility c.facilityId "credit facility disappeared during control")

end

end Operations
end DeFMI
