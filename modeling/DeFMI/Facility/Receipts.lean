import DeFMI.Facility.Lines
import DeFMI.Lib.HashChain
set_option autoImplicit false

/-!
Native settlements and the chain of receipts they leave. Each receipt carries
the digest of the one before it and is signed by the facility; the chain is
checked from the rows alone, whoever wrote them.
-/

namespace DeFMI
open Lib InPlace

def ReceiptWire.fromReceipt (r : SettlementReceipt) : ReceiptWire where
  operationId := r.operationId.val
  nullifier := r.nullifier.val
  statement := r.statement.val
  beforeRoot := r.beforeRoot.val
  afterRoot := r.afterRoot.val
  previousReceipt := r.previousReceipt.val
  committedAtNs := r.committedAtNs
  elapsedNs := r.elapsedNs
  requestBytes := r.requestBytes
  responseBytes := r.responseBytes
  databaseBytesBefore := r.databaseBytesBefore
  databaseBytesAfter := r.databaseBytesAfter
  signature := r.signature

/-- An Ed25519 signature and an ML-DSA-65 one with their framing. -/
def receiptSignatureBytes : ℕ := 3373

def ReceiptWire.intoReceipt (w : ReceiptWire) : Result SettlementReceipt := do
  require (w.signature.length = receiptSignatureBytes)
    "legacy or malformed receipt signature: explicit archived checkpoint migration required"
  let operationId ← parseId w.operationId "operation_id must be 32 bytes"
  let nullifier ← parseId w.nullifier "nullifier must be 32 bytes"
  let statement ← parseId w.statement "statement must be 32 bytes"
  let beforeRoot ← parseId w.beforeRoot "before_root must be 32 bytes"
  let afterRoot ← parseId w.afterRoot "after_root must be 32 bytes"
  let previousReceipt ← parseId w.previousReceipt "previous_receipt must be 32 bytes"
  pure {
    operationId, nullifier, statement, beforeRoot, afterRoot, previousReceipt
    committedAtNs := w.committedAtNs
    elapsedNs := w.elapsedNs
    requestBytes := w.requestBytes
    responseBytes := w.responseBytes
    databaseBytesBefore := w.databaseBytesBefore
    databaseBytesAfter := w.databaseBytesAfter
    signature := w.signature }

@[simp] theorem parseId_val (id : Id) (error : String) : parseId id.val error = .ok id := by
  simp [parseId, id.property]

theorem ReceiptWire.intoReceipt_fromReceipt {r : SettlementReceipt}
    (h : r.signature.length = receiptSignatureBytes) :
    (ReceiptWire.fromReceipt r).intoReceipt = .ok r := by
  simp [intoReceipt, fromReceipt, h]

structure Measured where
  committedAtNs : ℕ
  elapsedNs : ℕ
  databaseBytesBefore : ℕ
  databaseBytesAfter : ℕ
  coins : Bytes

structure ReceiptEntry where
  operationId : Id
  nullifier : Id
  statement : Id
  requestBytes : ℕ
  measured : Measured

/-- The database, and every receipt the facility's key has signed. What a rolled back
transaction signed has left with it. -/
structure NativeFacility (V : Type) where
  db : FacilityDb V := {}
  signed : List SettlementReceipt := []

/-- Statements of another operation, which write neither receipts nor their metadata. -/
structure FacilityWork (V : Type) where
  apply : FacilityDb V → Result (FacilityDb V)
  keeps_chain : ∀ {db db' : FacilityDb V}, apply db = .ok db' →
    db'.receipts = db.receipts ∧ db'.lastReceipt = db.lastReceipt

section Receipts

variable {V : Type} (api : FacilityApi V)

section
variable (r : SettlementReceipt) (db : FacilityDb V)

def receiptJson : Bytes := api.receiptWireJson (.fromReceipt r)

def receiptFromJson (raw : Bytes) : Result SettlementReceipt := do
  let wire ← api.receiptWireFromJson raw
  wire.intoReceipt

/-- The response length is taken with a blank signature, before the length itself is known. -/
def newReceipt (entry : ReceiptEntry) (beforeRoot : Id) (db : FacilityDb V) :
    Result SettlementReceipt := do
  let stored ← okOr db.lastReceipt "last receipt metadata is missing"
  let previousReceipt ← parseId stored "previous_receipt must be 32 bytes"
  let body : SettlementReceiptBody := {
    operationId := entry.operationId
    nullifier := entry.nullifier
    statement := entry.statement
    beforeRoot
    afterRoot := api.root db
    previousReceipt
    committedAtNs := entry.measured.committedAtNs
    elapsedNs := entry.measured.elapsedNs
    requestBytes := entry.requestBytes
    responseBytes := 0
    databaseBytesBefore := entry.measured.databaseBytesBefore
    databaseBytesAfter := entry.measured.databaseBytesAfter }
  let blank : SettlementReceipt :=
    { toSettlementReceiptBody := body, signature := List.replicate receiptSignatureBytes 0 }
  let body := { body with responseBytes := (receiptJson api blank).length }
  let signature ← api.signReceipt body entry.measured.coins
  pure { toSettlementReceiptBody := body, signature }

def receiptRow : ReceiptRow where
  operationId := r.operationId
  nullifier := r.nullifier
  statement := r.statement
  receiptJson := receiptJson api r
  receiptDigest := (api.receiptDigest r).val

/-- The trigger on `receipts`: it registers the operation unless a row of the registry
already has its identifier or its statement. -/
def receiptOperationRegistry (operationId statement : Id) (db : FacilityDb V) :
    Result (FacilityDb V) :=
  match db.operations.lookup operationId with
  | some stored => do
    require (stored = statement) "operation identifier was reused"
    pure db
  | none =>
    if db.operations.entries.any (fun e => e.2 = statement) = true then .ok db
    else .ok { db with operations := db.operations.insert operationId statement }

def insertReceipt : Result (FacilityDb V) := do
  let row := receiptRow api r
  require (∀ other ∈ db.receipts, other.operationId ≠ row.operationId ∧
      other.nullifier ≠ row.nullifier ∧ other.statement ≠ row.statement ∧
      other.receiptDigest ≠ row.receiptDigest) "UNIQUE constraint failed"
  let db ← receiptOperationRegistry r.operationId r.statement
    { db with receipts := db.receipts ++ [row] }
  pure { db with lastReceipt := db.lastReceipt.map fun _ => (api.receiptDigest r).val }

def appendReceipt (entry : ReceiptEntry) (beforeRoot : Id) :
    InPlace (NativeFacility V) SettlementReceipt := do
  let receipt ← check fun f => newReceipt api entry beforeRoot f.db
  InPlace.modify fun f => { f with signed := f.signed ++ [receipt] }
  update fun f => do
    let db ← insertReceipt api receipt f.db
    pure { f with db }
  pure receipt

def FacilityWork.perform (work : FacilityWork V) : InPlace (NativeFacility V) Unit :=
  update fun f => do
    let db ← work.apply f.db
    pure { f with db }

def settledReceipt (operationId statement : Id) (db : FacilityDb V) :
    Result (Option SettlementReceipt) :=
  match db.receipts.find? (fun row => row.operationId = operationId) with
  | none => .ok none
  | some row => do
    require (row.statement = statement) "operation identifier was reused for another settlement"
    let receipt ← receiptFromJson api row.receiptJson
    pure (some receipt)

/-- `some` digest to continue from, or `none` at the first row that does not fit. -/
def verifyRows : Id → List ReceiptRow → Result (Option Id)
  | previous, [] => .ok (some previous)
  | previous, row :: rows => do
    let receipt ← receiptFromJson api row.receiptJson
    let recorded ← parseId row.receiptDigest "receipt_digest must be 32 bytes"
    if receipt.previousReceipt ≠ previous ∨
        api.verifyReceipt receipt.toSettlementReceiptBody receipt.signature ≠ true ∨
        api.receiptDigest receipt ≠ recorded then
      pure none
    else
      verifyRows recorded rows

def verifyReceiptChain : Result Bool := do
  match ← verifyRows api 0 db.receipts with
  | none => pure false
  | some previous =>
    let stored ← okOr db.lastReceipt "last receipt metadata is missing"
    let last ← parseId stored "last_receipt must be 32 bytes"
    pure (previous = last)

def storedReceipts : Result (List SettlementReceipt) :=
  mapEach (fun row => receiptFromJson api row.receiptJson) db.receipts

end

variable [AddCommGroup V] [DecidableEq V]

def checkLeg (db : FacilityDb V) (leg : StateLeg V) : Check := do
  let account ← okOr (db.accounts.lookup leg.handle) "settlement names an unknown account"
  require (account.assetId = leg.assetId) "settlement leg is on the wrong asset rail"
  require (¬(account.commitment ≠ leg.beforeCommitment ∨ account.sequence ≠ leg.beforeSequence))
    "settlement was proved against stale account state"
  require ((db.assets.lookup leg.assetId).any (fun asset => asset.active) = true)
    "settlement uses an inactive asset"

def checkSettlement (order : SettlementOrder V) (statement : Id) (approval : QuorumApproval)
    (now : ℕ) (db : FacilityDb V) : Check := do
  requireQuorum api db statement approval
  require (¬order.deadline < now) "payment instruction has expired"
  require (order.nullifier ∉ db.nullifiers) "payment nullifier was already settled"
  forEach (checkLeg db) order.legs

def applyLeg (accounts : Table Id (AccountRow V)) (leg : StateLeg V) : Table Id (AccountRow V) :=
  updateRow accounts leg.handle fun account =>
    { account with commitment := leg.afterCommitment, sequence := account.sequence + 1 }

def applySettlement (order : SettlementOrder V) (statement : Id) (db : FacilityDb V) :
    Result (FacilityDb V) := do
  let nullifiers ← insertRow db.nullifiers order.nullifier ⟨order.deadline, statement⟩
    (fun row => row.statement = statement)
  registerOperation order.operationId statement
    { db with nullifiers, accounts := order.legs.foldl applyLeg db.accounts }

/-- A replay ends in `ROLLBACK`, but it has not written anything. -/
def settle (measured : Measured) (order : SettlementOrder V) (approval : QuorumApproval)
    (now : ℕ) : InPlace (NativeFacility V) SettlementReceipt := do
  let statement ← check fun _ => order.statement api.toFacilityDigests
  transaction true do
    let settled ← check fun f => settledReceipt api order.operationId statement f.db
    match settled with
    | some receipt => pure receipt
    | none => do
      let beforeRoot ← check fun f => .ok (api.root f.db)
      check fun f => checkSettlement api order statement approval now f.db
      update fun f => do
        let db ← applySettlement order statement f.db
        pure { f with db }
      appendReceipt api ⟨order.operationId, order.nullifier, statement, api.settlementBytes order,
        measured⟩ beforeRoot

/-- A transaction of the facility: a settlement, or the members of a product settlement, release
or batch with their receipts, or, with no member, any other operation. -/
inductive NativeOperation (V : Type) where
  | settle (measured : Measured) (order : SettlementOrder V) (approval : QuorumApproval) (now : ℕ)
  | transaction (members : List (FacilityWork V × ReceiptEntry)) (finish : FacilityWork V)

def settleMember (member : FacilityWork V × ReceiptEntry) : InPlace (NativeFacility V) Unit := do
  let beforeRoot ← check fun f => .ok (api.root f.db)
  member.1.perform
  let _ ← appendReceipt api member.2 beforeRoot
  pure ()

def NativeOperation.exec : NativeOperation V → InPlace (NativeFacility V) Unit
  | .settle measured order approval now => do
    let _ ← DeFMI.settle api measured order approval now
    pure ()
  | .transaction members finish => InPlace.transaction true do
    InPlace.each (settleMember api) members
    finish.perform

end Receipts
end DeFMI
