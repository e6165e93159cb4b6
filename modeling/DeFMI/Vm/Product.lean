import DeFMI.Vm.Admission
set_option autoImplicit false

/-!
The product path over accounts, and the reservation that opens either product
path: a hold on a facility, its binding, and the custody that backs it.
-/

namespace DeFMI
open Lib

structure NoteReservationEscrow (V : Type) where
  spend : NoteSpend V
  escrowNoteId : Id
  delegationDigest : Id
  deriving DecidableEq

structure ProductApi (V R : Type) extends AdmissionApi V R where
  facility : FacilityDigests V
  noteReservationEscrow : NoteReservationEscrow V → CreditFacilityTransition V →
    ReservationAuthorization V → Id

section Escrows

variable {V R : Type} [AddCommGroup V] [DecidableEq V]

section
variable (e : NoteReservationEscrow V) (t : CreditFacilityTransition V)

/-- One output is locked to the hold and carries the amount, the others are free. -/
def NoteReservationEscrow.Locks : Prop :=
  (e.spend.outputs.filter (fun output => output.lockId = t.holdId)).map
      (fun output => (output.noteId, output.valueCommitment)) =
    [(e.escrowNoteId, t.amountCommitment)] ∧
  ∀ output ∈ e.spend.outputs, output.lockId = 0 ∨ output.lockId = t.holdId

instance (e : NoteReservationEscrow V) (t : CreditFacilityTransition V) : Decidable (e.Locks t) :=
  inferInstanceAs (Decidable (_ ∧ _))

def NoteReservationEscrow.body (api : ProductApi V R) (e : NoteReservationEscrow V)
    (t : CreditFacilityTransition V) (auth : ReservationAuthorization V) : Check := do
  require (¬(t.kind ≠ .hold ∨ e.spend.assetId ≠ auth.assetId ∨ e.spend.inputLockId ≠ 0 ∨
      e.delegationDigest = 0)) "anonymous reservation escrow does not match its hold"
  require (e.Locks t) "reservation must create exactly one amount-bound escrow note"
  e.spend.validate api.toNoteApi

def NoteReservationEscrow.statement (api : ProductApi V R) (e : NoteReservationEscrow V)
    (t : CreditFacilityTransition V) (auth : ReservationAuthorization V) : Result Id := do
  e.body api t auth
  pure (api.noteReservationEscrow e t auth)

def NoteReservationEscrow.record : NoteReservationRecord V :=
  ⟨e.escrowNoteId, e.spend.assetId, t.amountCommitment, e.spend.proofDigest, e.delegationDigest,
    .active, 0⟩

end

def ReservationEscrow.record (e : ReservationEscrow V) : ReservationEscrowRecord V where
  sourceHandle := e.sourceHandle
  escrowHandle := e.escrowHandle
  assetId := e.assetId
  amountCommitment := e.amountCommitment
  sourceBeforeCommitment := e.sourceBeforeCommitment
  sourceAfterCommitment := e.sourceAfterCommitment
  sourceBeforeSequence := e.sourceBeforeSequence
  proofDigest := e.proofDigest
  status := .active
  settlementDigest := 0

end Escrows

abbrev PreparedProductReservation (V : Type) := PreparedReservation (ReservationEscrowRecord V) V

namespace VmState

variable {V R : Type} [AddCommGroup V] [Module Scalar V] [DecidableEq V]

section
variable (api : ProductApi V R) (s : VmState V R) (timestamp : ℕ) (t : CreditFacilityTransition V)
  (auth : ReservationAuthorization V)

def mandateBound : Check :=
  require (¬(auth.role = .taker ∧ auth.authorizationDigest ≠ auth.mandateDigest))
    "Taker reservation is not bound to its signed execution mandate"

def checkUnreserved : Check := do
  require (∀ e ∈ s.reservationBindings.entries, e.2.reserveNullifier ≠ auth.reserveNullifier)
    "reserve nullifier was already used"
  require (auth.role = .taker → ∀ b ∈ s.takerBindings, ¬(b.rfqNullifier = auth.rfqNullifier ∨
      b.admissionTicketId = auth.admissionTicketId ∨
      b.admissionReceiptDigest = auth.admissionReceiptDigest ∨
      (b.admissionBatchId = auth.admissionBatchId ∧
        b.admissionSequence = auth.admissionSequence)))
    "Taker RFQ or admission lane was already reserved"

/-- The facility a reserve draws on; the two custodies differ in their error texts. -/
def reserveFacility (unknown mismatched stale refused : String) :
    Result (CreditFacilityRecord V) := do
  let facility ← okOr (s.creditFacilities.lookup t.facilityId) unknown
  require (¬(facility.beneficiaryCommitment ≠ auth.entityCommitment ∨
      facility.railAssetId ≠ auth.assetId)) mismatched
  require (Fresh facility t) stale
  require (¬(t.kind ≠ .hold ∨ facility.status ≠ .active ∨ timestamp < facility.validFrom ∨
      facility.validUntil < timestamp ∨ t.expiresAt < timestamp ∨
      facility.validUntil < t.expiresAt ∨ t.before.outstanding ≠ t.after.outstanding)) refused
  pure facility

def moveAccount (handle : Id) (account : AccountRecord V) (commitment : CompressedPoint V)
    (overflow : String) : Result (VmState V R) := do
  let sequence ← okOr (checkedSucc account.sequence) overflow
  pure { s with accounts := s.accounts.insert handle { account with commitment, sequence } }

def reserveProduct (escrow : ReservationEscrow V) (approval : Approval) : Result (VmState V R) := do
  t.body
  auth.body t
  mandateBound auth
  let escrowDigest ← escrow.statement api.facility
  require (¬(escrow.sourceHandle = escrow.escrowHandle ∨ escrow.assetId ≠ auth.assetId ∨
      escrow.amountCommitment ≠ t.amountCommitment ∨ escrowDigest ≠ auth.escrowDigest))
    "reservation escrow differs from its signed authorization"
  let statement ← auth.statement api.toCreditDigests t
  s.authorize api.toVmApi approval statement
  require (¬(t.operationId ∈ s.operations ∨ t.holdId ∈ s.reservationBindings ∨
      t.holdId ∈ s.reservationEscrows))
    "reservation operation or hold identifier was already used"
  s.checkUnreserved auth
  let facility ← s.reserveFacility timestamp t auth "bound reserve names an unknown facility"
    "reserve entity or asset does not match its facility"
    "reservation was proved against stale facility state"
    "reservation cannot create a valid active facility hold"
  require (t.holdId ∉ s.creditHolds) "credit hold identifier is already registered"
  let source ← okOr (s.accounts.lookup escrow.sourceHandle)
    "reservation escrow names an unknown source account"
  require (¬(source.assetId ≠ escrow.assetId ∨
      source.commitment ≠ escrow.sourceBeforeCommitment ∨
      source.sequence ≠ escrow.sourceBeforeSequence))
    "reservation escrow was proved against stale source-account state"
  let admission ← s.takerAdmission api.toAdmissionApi timestamp auth
  let facility ← facility.advance t
  let s ← (s.bookReservation facility t auth statement).moveAccount escrow.sourceHandle source
    escrow.sourceAfterCommitment "source account sequence overflow"
  let s : VmState V R :=
    { s with reservationEscrows := s.reservationEscrows.insert t.holdId escrow.record }
  let s ← s.consumeAdmission auth t.operationId admission
  let operation ← t.statement api.toCreditDigests
  pure { s with operations := s.operations.insert t.operationId operation }

def reserveNoteProduct (escrow : NoteReservationEscrow V) (approval : Approval) :
    Result (VmState V R) := do
  t.body
  auth.body t
  mandateBound auth
  let escrowDigest ← escrow.statement api t auth
  require (escrowDigest = auth.escrowDigest) "anonymous escrow differs from the signed reservation"
  let statement ← auth.statement api.toCreditDigests t
  s.authorize api.toVmApi approval statement
  require (¬(t.operationId ∈ s.operations ∨ t.holdId ∈ s.reservationBindings ∨
      t.holdId ∈ s.noteReservations ∨ t.holdId ∈ s.creditHolds))
    "anonymous reservation operation or hold was already used"
  s.checkUnreserved auth
  let facility ← s.reserveFacility timestamp t auth "anonymous reserve names an unknown facility"
    "anonymous reserve entity or asset does not match its facility"
    "anonymous reservation was proved against stale facility state"
    "anonymous reservation cannot create a valid active facility hold"
  s.checkNoteSpend api.toNoteApi escrow.spend none true
  let admission ← s.takerAdmission api.toAdmissionApi timestamp auth
  let facility ← facility.advance t
  let s ← (s.bookReservation facility t auth statement).applyNoteSpend api.toNoteApi escrow.spend
    t.expiresAt statement
  let s : VmState V R :=
    { s with noteReservations := s.noteReservations.insert t.holdId (escrow.record t) }
  let s ← s.consumeAdmission auth t.operationId admission
  let operation ← t.statement api.toCreditDigests
  pure { s with operations := s.operations.insert t.operationId operation }

def releaseProduct (o : ProductReleaseOrder V) (approval : Approval) : Result (VmState V R) := do
  o.body
  let statement ← o.statement api.facility
  s.authorize api.toVmApi approval statement
  let t := o.transition
  require (¬(timestamp ≤ t.expiresAt ∨ o.releaseDeadline < timestamp))
    "product reservation is not yet releasable or release has expired"
  require (o.releaseNullifier ∉ s.nullifiers) "release nullifier was already used"
  require (t.operationId ∉ s.operations) "release operation identifier was already used"
  let binding ← okOr (s.reservationBindings.lookup t.holdId)
    "product release names an unknown reservation"
  require (¬(binding.role ≠ o.role ∨ binding.assetId ≠ o.assetId ∨
      binding.receiptDigest ≠ o.reserveReceiptDigest ∨
      binding.authorizationDigest ≠ t.queryCommitment))
    "release differs from the stored reservation"
  binding.releaseScope o.role t
  require (¬(t.kind ≠ .release ∨ t.settlementDigest ≠ 0 ∨
      t.before.outstanding ≠ t.after.outstanding))
    "product release is not a pure expired-hold refund"
  let facility ← okOr (s.creditFacilities.lookup t.facilityId)
    "product release names an unknown facility"
  require (¬(¬Fresh facility t ∨ facility.beneficiaryCommitment ≠ binding.entityCommitment ∨
      facility.railAssetId ≠ o.assetId))
    "product release was proved against stale facility state"
  let hold ← okOr (s.creditHolds.lookup t.holdId) "product release names an unknown hold"
  require (hold.Matches t) "product release was proved against stale hold state"
  let escrow ← okOr (s.reservationEscrows.lookup t.holdId)
    "product release names an unknown asset escrow"
  require (escrow.status = .active ∧ escrow.sourceHandle = o.refundLeg.handle ∧
      escrow.assetId = o.assetId ∧ escrow.amountCommitment = t.amountCommitment)
    "product release has no matching active asset escrow"
  let account ← okOr (s.accounts.lookup o.refundLeg.handle)
    "product release refund account is unknown"
  require (account.assetId = o.assetId ∧ account.commitment = o.refundLeg.beforeCommitment ∧
      account.sequence = o.refundLeg.beforeSequence)
    "product release was proved against stale refund-account state"
  let facility ← facility.advance t
  let s : VmState V R := { s with
    creditFacilities := s.creditFacilities.insert t.facilityId facility
    creditHolds := s.creditHolds.insert t.holdId (hold.resolve .released 0 t)
    reservationEscrows := s.reservationEscrows.insert t.holdId
      { escrow with status := .released, settlementDigest := statement }
    nullifiers := s.nullifiers.insert o.releaseNullifier ⟨o.releaseDeadline, statement⟩ }
  let s ← s.moveAccount o.refundLeg.handle account o.refundLeg.afterCommitment
    "refund account sequence overflow"
  let s : VmState V R := { s with operations := s.operations.insert t.operationId statement }
  s.followLinkedReservation api.toVmApi
    ⟨o.reserveReceiptDigest, t.amountCommitment, o.assetId, o.role, 0, statement⟩ .release timestamp

def reservationTexts : ReservationTexts where
  unknown := "product settlement names an unknown reservation"
  differs := "reservation binding differs from product settlement"
  amount := "guarantee consumption differs from proved DvP amount"
  notConsumable := "reservation is not consumable by this DvP"
  noFacility := "reservation facility is unknown"
  staleFacility := "reservation consumption was proved against stale facility state"
  noHold := "reservation credit hold is unknown"
  staleHold := "reservation consumption was proved against stale hold state"

def prepareReservation (o : ProductSettlementOrder V) (timestamp : ℕ) (paymentAssetId base : Id)
    (direction : ℕ) (c : ReservationConsumption V) : Result (ℕ × PreparedProductReservation V) := do
  let t := c.transition
  let (direction, asset, facility, hold) ← s.prepareBound o.toProductTerms reservationTexts
    timestamp paymentAssetId base direction c
  let escrow ← okOr (s.reservationEscrows.lookup t.holdId) "reservation asset escrow is unknown"
  require (escrow.status = .active ∧ escrow.assetId = asset ∧
      escrow.amountCommitment = t.amountCommitment ∧
      ∃ leg ∈ o.settlement.legs, leg.handle = escrow.sourceHandle ∧ leg.assetId = escrow.assetId)
    "consumed reservation has no matching refund account"
  let statement ← t.statement api.toCreditDigests
  pure (direction, ⟨t, statement, facility, hold, escrow⟩)

def prepareReservations (o : ProductSettlementOrder V) (timestamp : ℕ) (paymentAssetId base : Id) :
    Result (ℕ × List (PreparedProductReservation V)) :=
  s.prepareEach o.settlement.operationId "product settlement repeats a used reservation operation"
    (s.prepareReservation api o timestamp paymentAssetId base) 0 [] o.reservations

def checkLeg (leg : StateLeg V) (unknown wrongRail stale inactive : String) : Check := do
  let account ← okOr (s.accounts.lookup leg.handle) unknown
  require (account.assetId = leg.assetId) wrongRail
  require (account.commitment = leg.beforeCommitment ∧ account.sequence = leg.beforeSequence) stale
  require (s.assetActive leg.assetId = true) inactive

def applyLeg (leg : StateLeg V) : Result (VmState V R) := do
  let account ← okOr (s.accounts.lookup leg.handle) "settlement account was validated"
  s.moveAccount leg.handle account leg.afterCommitment "account sequence overflow"

def consumeReservation (statement : Id) (s : VmState V R) (item : PreparedProductReservation V) :
    Result (VmState V R) := do
  let s ← s.consumeBound item
  pure { s with
    reservationEscrows := s.reservationEscrows.insert item.transition.holdId
      { item.escrow with status := .consumed, settlementDigest := statement } }

def applyProductSettlement (o : ProductSettlementOrder V) (timestamp : ℕ) :
    Result (VmState V R) := do
  let statement ← o.statement api.facility
  require (timestamp ≤ o.settlement.deadline) "product settlement has expired"
  require (o.settlement.operationId ∉ s.operations)
    "settlement operation identifier was already used"
  require (o.settlement.nullifier ∉ s.nullifiers) "payment nullifier was already settled"
  require (o.rfqNullifier ∉ s.rfqNullifiers) "RFQ nullifier was already settled"
  let paymentLeg ← okOr (o.settlement.legs.find? (fun leg => leg.assetId ≠ o.tradedAssetId))
    "product settlement has no payment rail"
  let paymentAsset ← okOr (s.assets.lookup paymentLeg.assetId)
    "product settlement payment asset is unknown"
  require (paymentAsset.active = true ∧ paymentAsset.kind = .cash)
    "product settlement payment side is not an active cash rail"
  let base ← o.settlement.statement api.facility
  let (direction, prepared) ← s.prepareReservations api o timestamp paymentLeg.assetId base
  require (direction = 1 ∨ direction = 2) "product settlement has an unsupported direction"
  forEach (fun leg => s.checkLeg leg "product settlement names an unknown account"
    "product settlement leg is on the wrong asset rail"
    "product settlement was proved against stale account state"
    "product settlement uses an inactive or unknown asset") o.settlement.legs
  let s ← foldEach (consumeReservation statement) s prepared
  let s : VmState V R := { s with
    nullifiers := s.nullifiers.insert o.settlement.nullifier ⟨o.settlement.deadline, statement⟩
    rfqNullifiers := s.rfqNullifiers.insert o.rfqNullifier statement }
  let s ← foldEach applyLeg s o.settlement.legs
  let s : VmState V R :=
    { s with operations := s.operations.insert o.settlement.operationId statement }
  foldEach (consumeLinkedReservation api.toVmApi statement o.dvpProofDigest timestamp) s
    o.reservations

def settleProduct (o : ProductSettlementOrder V) (approval : Approval) : Result (VmState V R) := do
  o.body api.facility
  let statement ← o.statement api.facility
  s.authorize api.toVmApi approval statement
  s.applyProductSettlement api o timestamp

/-- The orders of a batch touch disjoint records, so each is applied to the
state its predecessors left. -/
def settleProductBatch (batch : ProductSettlementBatch) (orders : List (ProductSettlementOrder V))
    (approval : Approval) : Result (VmState V R) := do
  require (batch.members.length ≤ 4096) "batch contains too many settlement members"
  require (orders.length ≤ 4096) "batch contains too many settlement orders"
  forEach (fun o => o.body api.facility) orders
  batch.validateOrders api.facility orders
  let statement ← batch.statement api.facility
  s.authorize api.toVmApi approval statement
  require (batch.batchId ∉ s.operations) "product settlement batch identifier was already used"
  let s ← foldEach (fun s o => applyProductSettlement api s o timestamp) s orders
  pure { s with operations := s.operations.insert batch.batchId statement }

end

end VmState
end DeFMI
