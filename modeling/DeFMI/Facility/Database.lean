import DeFMI.Facility.Relation
import DeFMI.Governance
import DeFMI.Lib.Transaction
set_option autoImplicit false

/-!
The tables of the durable facility, the objects its registry takes, and what
it asks of other components. Every statement that inserts a row goes through
the constraints of its table.
-/

namespace DeFMI
open Lib

structure AssetDefinition where
  assetId : Id
  code : String
  kind : AssetKind
  decimals : ℕ
  termsDigest : Id

structure AccountOpening (V : Type) where
  handle : Id
  assetId : Id
  commitment : CompressedPoint V
  issuanceNonce : Id

structure GuarantorDefinition where
  guarantorId : Id
  kind : String
  name : String
  publicKey : Id
  pqPublicKey : Bytes
  riskPolicyDigest : Id

structure AdmissionCommitteePlan where
  operationId : Id
  venueId : Id
  epoch : ℕ
  nodeKeys : List Id
  validFrom : ℕ
  validUntil : ℕ

structure AdmissionBatchPlan where
  operationId : Id
  batchId : Id
  venueId : Id
  epoch : ℕ
  slot : ℕ
  batchDigest : Id
  orderDigest : Id
  firstSequence : ℕ
  admissionDigests : List Id
  expiresAt : ℕ

structure AdmissionSlotAdvance where
  operationId : Id
  batchId : Id
  sequence : ℕ
  admissionDigest : Id

structure CertifiedLane where
  sequence : ℕ
  slot : ℕ
  clusterDigest : Id
  orderDigest : Id
  digest : Option Id

structure OrderedAdmission where
  venueId : Id
  ticketId : Id
  slot : ℕ
  epoch : ℕ
  sequence : ℕ
  batchDigest : Id
  orderDigest : Id
  rfqNullifier : Id
  takerEntityCommitment : Id
  takerMandateDigest : Id
  expiresAt : ℕ

structure Venue (V : Type) where
  key : Pedersen V
  amountBits : ℕ
  priceBits : ℕ
  maxHorizon : ℕ
  committee : Bytes × Bytes
  thresholdRanges : Bool

structure SettlementReceiptBody where
  operationId : Id
  nullifier : Id
  statement : Id
  beforeRoot : Id
  afterRoot : Id
  previousReceipt : Id
  committedAtNs : ℕ
  elapsedNs : ℕ
  requestBytes : ℕ
  responseBytes : ℕ
  databaseBytesBefore : ℕ
  databaseBytesAfter : ℕ
  deriving DecidableEq

structure SettlementReceipt extends SettlementReceiptBody where
  signature : Bytes
  deriving DecidableEq

structure ReceiptWire where
  operationId : Bytes
  nullifier : Bytes
  statement : Bytes
  beforeRoot : Bytes
  afterRoot : Bytes
  previousReceipt : Bytes
  committedAtNs : ℕ
  elapsedNs : ℕ
  requestBytes : ℕ
  responseBytes : ℕ
  databaseBytesBefore : ℕ
  databaseBytesAfter : ℕ
  signature : Bytes

/-- The columns hold whatever bytes were written to them. -/
structure ReceiptRow where
  operationId : Id
  nullifier : Id
  statement : Id
  receiptJson : Bytes
  receiptDigest : Bytes

structure AssetRow extends AssetRecord where
  statement : Id

structure AccountRow (V : Type) extends AccountRecord V where
  openingStatement : Id

structure GuarantorRow where
  publicKey : Id
  pqPublicKey : Bytes
  riskPolicyDigest : Id
  active : Bool
  statement : Id

structure CreditOperationRow where
  facilityId : Id
  kind : String
  statement : Id

structure AdmissionCommitteeRow extends AdmissionCommitteeRecord where
  operationId : Id

structure AdmissionBatchRow extends AdmissionBatchRecord where
  operationId : Id
  statement : Id

structure FacilityDb (V : Type) where
  assets : Table Id AssetRow := ∅
  accounts : Table Id (AccountRow V) := ∅
  nullifiers : Table Id NullifierRecord := ∅
  operations : Table Id Id := ∅
  /-- In the order of their row identifiers. -/
  receipts : List ReceiptRow := []
  productSettlementBatches : Table Id Id := ∅
  guarantors : Table Id GuarantorRow := ∅
  creditFacilities : Table Id (CreditFacilityRecord V) := ∅
  creditFacilityScopes : Table (Id × Id × Id) Id := ∅
  creditHolds : Table Id (CreditHoldRecord V) := ∅
  creditOperations : Table Id CreditOperationRow := ∅
  reservationBindings : Table Id (ReservationBindingRecord V) := ∅
  reservationEscrows : Table Id (ReservationEscrowRecord V) := ∅
  rfqNullifiers : Table Id Id := ∅
  admissionCommittees : Table (Id × ℕ) AdmissionCommitteeRow := ∅
  admissionBatches : Table Id AdmissionBatchRow := ∅
  admissionBatchEntries : Table (Id × ℕ) AdmissionEntryRecord := ∅
  admissionOperations : Table Id Id := ∅
  settlementVerifiers : Table (Id × ℕ) SettlementVerifierRecord := ∅
  /-- The metadata row `last_receipt`. -/
  lastReceipt : Option Bytes := some Id.zero.val

structure FacilityApi (V : Type) extends FacilityDigests V where
  key : Pedersen V
  root : FacilityDb V → Id
  governance : Governance.GovernanceApi DeploymentCryptoPolicy
  /-- As of the clock of the node. -/
  authorizer : Governance.QuorumAuthorizer DeploymentCryptoPolicy
  asset : AssetDefinition → Id
  account : AccountOpening V → Id
  guarantor : GuarantorDefinition → Id
  guarantorKeys : Id → Bytes → Bool
  guarantorSignature : Id → Bytes → Id → Bytes → Check
  settlementVerifier : SettlementVerifierRecord → Id
  settlementCommittee : Bytes → Bytes → Bool
  admissionCommittee : AdmissionCommitteePlan → Id
  nodeKey : Id → Bool
  admissionBatch : AdmissionBatchPlan → Id
  admissionLane : Id → ℕ → List Id → Bytes → Result CertifiedLane
  admissionAdvance : AdmissionSlotAdvance → Id
  certifiedDigest : OrderedAdmission → Result Id
  verifyTyped : Venue V → TypedInstruction V → ℕ → Check
  assetLink : Pedersen V → Id → V → Bytes → Bool
  assetLinkDigest : Id → V → Bytes → Id
  accountOf : V → String → Bytes
  reserveHandle : Id → V
  transferDigest : Transfer V → Id
  dvpDigest : DvpPackage V → Id
  thresholdDvpDigest : ThresholdDvpPackage V → Id
  makerMandate : MakerPolicyMandate V → Bytes → ℕ → Check
  takerMandate : TakerExecutionMandate V → Bytes → ℕ → Check
  priceLimit : Pedersen V → V → V → Bool → ℕ → Id → Bytes → Check
  priceLimitDigest : V → V → Id → Bytes → Id
  settlementBytes : SettlementOrder V → ℕ
  receiptWireJson : ReceiptWire → Bytes
  receiptWireFromJson : Bytes → Result ReceiptWire
  signReceipt : SettlementReceiptBody → Bytes → Result Bytes
  verifyReceipt : SettlementReceiptBody → Bytes → Bool
  receiptDigest : SettlementReceipt → Id

section Statements

variable {V : Type}

def parseId (bytes : Bytes) (error : String) : Result Id :=
  if h : bytes.length = 32 then .ok ⟨bytes, h⟩ else .error error

/-- `INSERT` under a primary key and the unique columns that `clash` reads. -/
def insertRow {κ α : Type} [DecidableEq κ] (table : Table κ α) (key : κ) (row : α)
    (clash : α → Bool) : Result (Table κ α) := do
  require (key ∉ table ∧ table.entries.all (fun e => !clash e.2) = true) "UNIQUE constraint failed"
  pure (table.insert key row)

theorem insertRow_ok {κ α : Type} [DecidableEq κ] {table table' : Table κ α} {key : κ} {row : α}
    {clash : α → Bool} (h : insertRow table key row clash = .ok table') :
    key ∉ table ∧ table' = table.insert key row := by
  simp only [insertRow, ok_iff] at h
  obtain ⟨⟨hfresh, _⟩, rfl⟩ := h
  exact ⟨hfresh, rfl⟩

def updateRow {κ α : Type} [DecidableEq κ] (table : Table κ α) (key : κ) (f : α → α) : Table κ α :=
  match table.lookup key with
  | some row => table.insert key (f row)
  | none => table

def requireQuorum (api : FacilityApi V) (db : FacilityDb V) (statement : Id)
    (approval : QuorumApproval) : Check :=
  require (api.authorizer.verify api.governance statement (api.root db) approval = true)
    "the transition lacks the configured k-of-n approval"

theorem requireQuorum_approved {api : FacilityApi V} {db : FacilityDb V} {statement : Id}
    {approval : QuorumApproval} {signed : Bytes → Bytes → Prop}
    (hideal : api.governance.Unforgeable signed)
    (h : requireQuorum api db statement approval = .ok ()) : ∃ now members,
      api.authorizer.Approved api.governance signed statement (api.root db) approval now members :=
  Governance.QuorumAuthorizer.verify_approved hideal (require_eq_ok.mp h)

/-- A repeated registration under the same statement is accepted and does nothing. -/
def registerOperation (operationId statement : Id) (db : FacilityDb V) : Result (FacilityDb V) :=
  match db.operations.lookup operationId with
  | some stored => do
    require (stored = statement) "operation identifier was reused"
    pure db
  | none => do
    let operations ← insertRow db.operations operationId statement (fun s => s = statement)
    pure { db with operations }

def creditOperation (db : FacilityDb V) (operationId statement : Id) : Result Bool :=
  match db.creditOperations.lookup operationId with
  | none => .ok false
  | some row => do
    require (row.statement = statement)
      "credit operation identifier was reused for another transition"
    pure true

def loadCreditFacility (facilityId : Id) (error : String) (db : FacilityDb V) :
    Result (CreditFacilityRecord V) :=
  okOr (db.creditFacilities.lookup facilityId) error

/-- The trigger `credit_operation_registry`. `OR IGNORE` skips a statement that another
operation has registered. -/
def creditOperationRegistry (operationId statement : Id) (db : FacilityDb V) :
    Result (FacilityDb V) :=
  if operationId ∉ db.operations ∧ db.operations.entries.any (fun e => e.2 = statement) then pure db
  else registerOperation operationId statement db

def insertCreditOperation (operationId facilityId : Id) (kind : String) (statement : Id)
    (db : FacilityDb V) : Result (FacilityDb V) := do
  let creditOperations ← insertRow db.creditOperations operationId ⟨facilityId, kind, statement⟩
    (fun row => row.statement = statement)
  creditOperationRegistry operationId statement { db with creditOperations }

theorem registerOperation_ok {operationId statement : Id} {db db' : FacilityDb V}
    (h : registerOperation operationId statement db = .ok db') :
    ∃ operations, db' = { db with operations } := by
  unfold registerOperation at h
  cases hstored : db.operations.lookup operationId with
  | some =>
    simp only [hstored, ok_iff] at h
    obtain ⟨_, rfl⟩ := h
    exact ⟨db.operations, rfl⟩
  | none =>
    simp only [hstored, ok_iff] at h
    obtain ⟨operations, _, rfl⟩ := h
    exact ⟨operations, rfl⟩

theorem insertCreditOperation_ok {operationId facilityId statement : Id} {kind : String}
    {db db' : FacilityDb V}
    (h : insertCreditOperation operationId facilityId kind statement db = .ok db') :
    ∃ creditOperations operations, db' = { db with creditOperations, operations } := by
  simp only [insertCreditOperation, ok_iff] at h
  obtain ⟨creditOperations, _, h⟩ := h
  unfold creditOperationRegistry at h
  split at h
  · exact ⟨creditOperations, db.operations, (Except.ok.inj h).symm⟩
  · obtain ⟨operations, rfl⟩ := registerOperation_ok h
    exact ⟨creditOperations, operations, rfl⟩

end Statements
end DeFMI
