import DeFMI.Participant.Requests
import DeFMI.Vm.NoteOrders
import DeFMI.Vm.Validity
set_option autoImplicit false

/-!
Execution of the anonymous product path on the replicated state: allocation
from a standing pool, settlement with its evidence (alone, together with an
allocation, or in a batch), and the two releases.
-/

namespace DeFMI
open Lib

structure Approval where
  expectedBeforeRoot : Id
  approval : Bytes

/-- The public part of a quote authorisation. `optimistic` is the job and
application an optimistic one names. -/
structure QuoteAuthorization (V : Type) where
  eligibilityBits : ℕ
  spanBits : ℕ
  registryDigest : Id
  winningPolicyDigest : Option Id
  marketDigest : Id
  slot : ℕ
  now : ℤ
  direction : ℕ
  qtyCommitment : V
  context : Id
  optimistic : Option (Id × Id)
  raw : Bytes

structure ProductSettlementEvidence (V : Type) where
  typedInstruction : TypedInstruction V
  quoteVerification : QuoteAuthorization V
  priceLimitProof : Bytes
  dvpProofs : DvpProofs
  mpcExecutionAttestations : Bytes
  assetLink : Bytes

structure ExecutionLane where
  slot : ℕ
  lane : ℕ
  clusterDigest : Id
  digest : Id

structure ResultLane where
  slot : ℕ
  sequence : ℕ
  clusterDigest : Id
  maskedFill : ℤ

structure MpcNoFillEvidence (V : Type) where
  signedTakerMandate : TakerExecutionMandate V
  publicResultAttestations : Bytes
  fillMask : ℤ

/-- Everything execution asks of other components: hashes, quorum approval,
the participant registry, and the verifiers of the committee's evidence. -/
structure VmApi (V R : Type) extends NoteOrderApi V where
  root : VmState V R → Id
  quorum : Id → Id → Bytes → Check
  automaticTransition : R → Participant.AutomaticReservationEvidence V →
    Participant.ReservationTransitionKind → ℕ → Result R
  committeeSignature : SettlementVerifierRecord → StandingNotePoolAllocation V →
    CreditFacilityTransition V → ReservationAuthorization V → ℕ → Check
  evidenceEncoding : ProductSettlementEvidence V → Check
  evidenceDigest : ProductSettlementEvidence V → Id
  verifyTyped : SettlementVerifierRecord → TypedInstruction V → ℕ → Check
  verifyQuote : QuoteAuthorization V → Result Id
  executionLane : Bytes → List Id → Id → Result ExecutionLane
  liveProofJobId : ℕ → ℕ → Id → Result Id
  completeQuoteContext : Id → Id → Id
  priceLimit : V → V → Bool → ℕ → Id → Bytes → Result Id
  accountOf : V → String → Bytes
  packageDigest : ThresholdDvpPackage V → Id
  assetLink : Id → V → Bytes → Bool
  assetLinkDigest : Id → V → Bytes → Id
  noFillEncoding : MpcNoFillEvidence V → Check
  noFillDigest : MpcNoFillEvidence V → Id
  mandateSignature : TakerExecutionMandate V → ℕ → Check
  resultLane : Bytes → List Id → Id → Result ResultLane

namespace VmState

variable {V R : Type} [AddCommGroup V] [Module Scalar V] [DecidableEq V]

section
variable (api : VmApi V R) (s : VmState V R)

def authorize (approval : Approval) (statement : Id) : Check := do
  require (approval.expectedBeforeRoot = api.root s)
    "transaction was built against a stale state root"
  api.quorum statement (api.root s) approval.approval

def Fresh (facility : CreditFacilityRecord V) (t : CreditFacilityTransition V) : Prop :=
  facility.sequence = t.beforeSequence ∧ facility.balances = t.before

instance (facility : CreditFacilityRecord V) (t : CreditFacilityTransition V) :
    Decidable (Fresh facility t) := inferInstanceAs (Decidable (_ ∧ _))

def bookReservation (facility : CreditFacilityRecord V) (t : CreditFacilityTransition V)
    (auth : ReservationAuthorization V) (statement : Id) : VmState V R :=
  { s with
    creditFacilities := s.creditFacilities.insert t.facilityId facility
    creditHolds := s.creditHolds.insert t.holdId t.newHold
    reservationBindings := s.reservationBindings.insert t.holdId (auth.binding statement) }

def allocateStandingNotePool (timestamp : ℕ) (t : CreditFacilityTransition V)
    (auth : ReservationAuthorization V) (a : StandingNotePoolAllocation V) (approval : Approval) :
    Result (VmState V R) := do
  a.body api.toNoteOrderApi t auth
  let allocationStatement ← a.statement api.toNoteOrderApi t auth
  require (allocationStatement = auth.escrowDigest)
    "standing allocation differs from the signed reservation"
  auth.body t
  let statement ← auth.statement api.toCreditDigests t
  s.authorize api approval statement
  require (¬(t.operationId ∈ s.operations ∨ t.holdId ∈ s.reservationBindings ∨
      t.holdId ∈ s.noteReservations ∨ t.holdId ∈ s.creditHolds ∨
      ∃ e ∈ s.reservationBindings.entries, e.2.reserveNullifier = auth.reserveNullifier))
    "standing allocation operation, hold, or nullifier was already used"
  let pool ← okOr (s.standingNotePools.lookup a.poolId)
    "standing allocation names an unknown parent pool"
  require (¬(pool.delegationDigest ≠ a.delegationDigest ∨ pool.committeeEpoch ≠ a.committeeEpoch ∨
      pool.sequence ≠ a.expectedPoolSequence ∨ pool.currentPoolNoteId ≠ a.previousPoolNoteId ∨
      pool.entityCommitment ≠ auth.entityCommitment ∨
      pool.policyDigest ≠ auth.authorizationDigest ∨ pool.mandateDigest ≠ auth.mandateDigest ∨
      pool.assetId ≠ auth.assetId ∨ pool.direction ≠ auth.direction ∨
      pool.validUntil < timestamp ∨ pool.validUntil < t.expiresAt))
    "standing allocation is stale or outside its Maker mandate"
  let previous ← okOr (s.notes.lookup pool.currentPoolNoteId)
    "standing allocation parent note is absent"
  require (¬(previous.assetId ≠ pool.assetId ∨ previous.lockId ≠ a.poolId ∨
      previous.valueCommitment ≠ a.previousAmountCommitment))
    "standing allocation parent note differs from consensus state"
  let verifier ← okOr (s.settlementVerifiers.lookup (pool.venueId, pool.committeeEpoch))
    "standing allocation has no proof committee"
  require (¬(verifier.defmiId ≠ pool.defmiId ∨ timestamp < verifier.validFrom ∨
      verifier.validUntil < timestamp))
    "standing allocation proof committee is outside its epoch"
  api.committeeSignature verifier a t auth timestamp
  let facility ← okOr (s.creditFacilities.lookup t.facilityId)
    "standing allocation names an unknown facility"
  require (¬(facility.beneficiaryCommitment ≠ auth.entityCommitment ∨
      facility.railAssetId ≠ auth.assetId ∨ ¬Fresh facility t ∨ t.kind ≠ .hold ∨
      facility.status ≠ .active ∨ timestamp < facility.validFrom ∨
      facility.validUntil < timestamp ∨ t.expiresAt < timestamp ∨
      facility.validUntil < t.expiresAt ∨ t.before.outstanding ≠ t.after.outstanding))
    "standing allocation cannot create a valid facility hold"
  let beforeAvailable ← okOr t.before.available.decompress
    "standing allocation before-available balance is not a canonical commitment"
  let afterAvailable ← okOr t.after.available.decompress
    "standing allocation after-available balance is not a canonical commitment"
  let beforeHeld ← okOr t.before.held.decompress
    "standing allocation before-held balance is not a canonical commitment"
  let afterHeld ← okOr t.after.held.decompress
    "standing allocation after-held balance is not a canonical commitment"
  let amount ← okOr t.amountCommitment.decompress
    "standing allocation hold amount is not a canonical commitment"
  require (beforeAvailable = afterAvailable + amount ∧ afterHeld = beforeHeld + amount)
    "standing allocation does not conserve its credit facility"
  let s ← s.insertNote api.toNoteApi a.escrowNote
  let s ← s.insertNote api.toNoteApi a.remainderNote
  let facility ← facility.advance t
  let sequence ← okOr (checkedSucc pool.sequence) "standing note pool sequence overflow"
  let operation ← t.statement api.toCreditDigests
  pure { s.bookReservation facility t auth statement with
    noteReservations := s.noteReservations.insert t.holdId
      ⟨a.escrowNote.noteId, a.escrowNote.assetId, t.amountCommitment, a.dvpProofDigest,
        a.delegationDigest, .active, 0⟩
    standingNotePools := s.standingNotePools.insert a.poolId
      { pool with currentPoolNoteId := a.remainderNote.noteId, sequence }
    operations := s.operations.insert t.operationId operation }

/-- Where a linked participant reservation exists, it follows its reserve. -/
def followLinkedReservation (evidence : Participant.AutomaticReservationEvidence V)
    (kind : Participant.ReservationTransitionKind) (timestamp : ℕ) : Result (VmState V R) := do
  let participantRegistry ← api.automaticTransition s.participantRegistry evidence kind timestamp
  pure { s with participantRegistry }

def applyNoteProductRelease (o : ProductNoteReleaseOrder V) (statement : Id) (timestamp : ℕ)
    (certifiedNoFill : Bool) : Result (VmState V R) := do
  let t := o.transition
  require (¬(o.releaseDeadline < timestamp ∨
      (certifiedNoFill = false ∧ timestamp ≤ t.expiresAt) ∨
      (certifiedNoFill = true ∧ t.expiresAt < timestamp)))
    (if certifiedNoFill then "certified no-fill release is late or has expired"
      else "anonymous reservation is not yet releasable or release has expired")
  require (o.releaseNullifier ∉ s.nullifiers) "release nullifier was already used"
  require (t.operationId ∉ s.operations) "release operation identifier was already used"
  let binding ← okOr (s.reservationBindings.lookup t.holdId)
    "anonymous release names an unknown reservation"
  require (¬(binding.role ≠ o.role ∨ binding.assetId ≠ o.assetId ∨
      binding.receiptDigest ≠ o.reserveReceiptDigest ∨
      binding.authorizationDigest ≠ t.queryCommitment))
    "anonymous release differs from the stored reservation"
  binding.releaseScope o.role t
  require (¬(t.kind ≠ .release ∨ t.settlementDigest ≠ 0 ∨ t.consumedCommitment ≠ 0 ∨
      t.refundCommitment ≠ 0 ∨ t.after.held ≠ 0 ∨ t.before.outstanding ≠ t.after.outstanding))
    "anonymous release is not a pure hold refund"
  let beforeAvailable ← settlementPoint t.before.available "release before-available balance"
  let afterAvailable ← settlementPoint t.after.available "release after-available balance"
  let beforeHeld ← settlementPoint t.before.held "release before-held balance"
  let afterHeld ← settlementPoint t.after.held "release after-held balance"
  let amount ← settlementPoint t.amountCommitment "release amount"
  require (afterAvailable = beforeAvailable + amount ∧ beforeHeld = afterHeld + amount)
    "anonymous release does not conserve the facility balance"
  let facility ← okOr (s.creditFacilities.lookup t.facilityId)
    "anonymous release names an unknown facility"
  require (¬(¬Fresh facility t ∨ facility.beneficiaryCommitment ≠ binding.entityCommitment ∨
      facility.railAssetId ≠ o.assetId))
    "anonymous release was proved against stale facility state"
  let hold ← okOr (s.creditHolds.lookup t.holdId) "anonymous release names an unknown hold"
  require (hold.Matches t) "anonymous release was proved against stale hold state"
  let escrow ← okOr (s.noteReservations.lookup t.holdId) "anonymous release has no escrow note"
  require (escrow.status = .active ∧ escrow.escrowNoteId = o.escrowNoteId ∧
      escrow.assetId = o.assetId ∧ escrow.amountCommitment = t.amountCommitment)
    "anonymous release has no matching active escrow note"
  s.checkNoteSpend api.toNoteApi o.spend (some o.escrowNoteId) false
  let facility ← facility.advance t
  let s : VmState V R := { s with
    creditFacilities := s.creditFacilities.insert t.facilityId facility
    creditHolds := s.creditHolds.insert t.holdId (hold.resolve .released 0 t)
    noteReservations := s.noteReservations.insert t.holdId
      { escrow with status := .released, settlementDigest := statement }
    nullifiers := s.nullifiers.insert o.releaseNullifier ⟨o.releaseDeadline, statement⟩ }
  let s ← s.applyNoteSpend api.toNoteApi o.spend o.releaseDeadline statement
  let s : VmState V R := { s with operations := s.operations.insert t.operationId statement }
  s.followLinkedReservation api
    ⟨o.reserveReceiptDigest, t.amountCommitment, o.assetId, o.role, 0, statement⟩ .release timestamp

end

end VmState

/-- A reservation that a settlement has checked; `Row` is the record of its custody. -/
structure PreparedReservation (Row V : Type) where
  transition : CreditFacilityTransition V
  transitionStatement : Id
  facility : CreditFacilityRecord V
  hold : CreditHoldRecord V
  escrow : Row

abbrev PreparedNoteProductReservation (V : Type) := PreparedReservation (NoteReservationRecord V) V

/-- What the checks that both custodies make of a reservation answer. -/
structure ReservationTexts where
  unknown : String
  differs : String
  amount : String
  notConsumable : String
  noFacility : String
  staleFacility : String
  noHold : String
  staleHold : String

namespace VmState

variable {V R : Type} [AddCommGroup V] [Module Scalar V] [DecidableEq V]

section Bound

variable {Row Item : Type} (s : VmState V R)

/-- The binding, the facility and the hold of a reservation against the order that consumes it. -/
def prepareBound (o : ProductTerms V) (texts : ReservationTexts) (timestamp : ℕ)
    (paymentAssetId base : Id) (direction : ℕ) (c : ReservationConsumption V) :
    Result (ℕ × Id × CreditFacilityRecord V × CreditHoldRecord V) := do
  let t := c.transition
  let binding ← okOr (s.reservationBindings.lookup t.holdId) texts.unknown
  require (direction = 0 ∨ direction = binding.direction)
    "Maker and Taker reservations use different directions"
  let direction := binding.direction
  let (entity, authorization, mandate, asset) := o.expected paymentAssetId direction c.role
  require (¬(binding.role ≠ c.role ∨ binding.entityCommitment ≠ entity ∨ binding.assetId ≠ asset ∨
      binding.authorizationDigest ≠ authorization ∨ binding.mandateDigest ≠ mandate ∨
      binding.receiptDigest ≠ c.reserveReceiptDigest)) texts.differs
  binding.settlementScope c.role o.rfqNullifier o.admissionReceiptDigest o.admissionEpoch
    o.admissionSequence
  require (t.consumedCommitment = o.expectedConsumed direction c.role) texts.amount
  require (¬(t.kind ≠ .consume ∨ t.settlementDigest ≠ base ∨ t.expiresAt < timestamp))
    texts.notConsumable
  let facility ← okOr (s.creditFacilities.lookup t.facilityId) texts.noFacility
  require (¬(¬Fresh facility t ∨ facility.beneficiaryCommitment ≠ entity ∨
      facility.railAssetId ≠ asset)) texts.staleFacility
  let hold ← okOr (s.creditHolds.lookup t.holdId) texts.noHold
  require (hold.Matches t) texts.staleHold
  pure (direction, asset, facility, hold)

/-- The loop over the reservations of an order, which agree on the direction. -/
def prepareEach (operationId : Id) (repeated : String)
    (prepare : ℕ → ReservationConsumption V → Result (ℕ × Item)) (direction : ℕ)
    (seen : List Id) : List (ReservationConsumption V) → Result (ℕ × List Item)
  | [] => pure (direction, [])
  | c :: rest => do
    require (¬(c.reserveReceiptDigest = 0 ∨ c.transition.operationId ∈ seen ∨
      c.transition.operationId = operationId ∨ c.transition.operationId ∈ s.operations)) repeated
    let (direction, item) ← prepare direction c
    let (direction, items) ← prepareEach operationId repeated prepare direction
      (c.transition.operationId :: seen) rest
    pure (direction, item :: items)

def consumeBound (item : PreparedReservation Row V) : Result (VmState V R) := do
  let t := item.transition
  let facility ← item.facility.advance t
  pure { s with
    creditFacilities := s.creditFacilities.insert t.facilityId facility
    creditHolds := s.creditHolds.insert t.holdId (item.hold.resolve .consumed t.settlementDigest t)
    operations := s.operations.insert t.operationId item.transitionStatement }

end Bound

section
variable (api : VmApi V R) (s : VmState V R) (o : ProductNoteSettlementOrder V) (timestamp : ℕ)

def noteReservationTexts : ReservationTexts where
  unknown := "anonymous settlement names an unknown reservation"
  differs := "anonymous reservation differs from product settlement"
  amount := "guarantee consumption differs from proved anonymous DvP amount"
  notConsumable := "anonymous reservation is not consumable by this DvP"
  noFacility := "anonymous reservation facility is unknown"
  staleFacility := "anonymous consumption was proved against stale facility state"
  noHold := "anonymous reservation credit hold is unknown"
  staleHold := "anonymous consumption was proved against stale hold state"

def prepareNoteReservation (paymentAssetId base : Id) (direction : ℕ)
    (c : ReservationConsumption V) : Result (ℕ × PreparedNoteProductReservation V) := do
  let t := c.transition
  let (direction, asset, facility, hold) ← s.prepareBound o.toProductTerms noteReservationTexts
    timestamp paymentAssetId base direction c
  let escrow ← okOr (s.noteReservations.lookup t.holdId)
    "anonymous reservation escrow note is unknown"
  require (escrow.status = .active ∧ escrow.assetId = asset ∧
      escrow.amountCommitment = t.amountCommitment)
    "reservation has no matching active escrow note"
  let matching ← okOr (o.settlement.spends.find? (fun spend => spend.holdId = t.holdId))
    "reservation escrow note is omitted from DvP"
  require (¬(matching.assetId ≠ asset ∨ matching.escrowNoteId ≠ escrow.escrowNoteId ∨
      matching.delegationDigest ≠ escrow.delegationDigest ∨
      matching.proofDigest ≠ o.dvpProofDigest))
    "reservation escrow note differs from the DvP"
  let note ← okOr (s.notes.lookup escrow.escrowNoteId)
    "live reservation covenant note is missing"
  require (¬(note.assetId ≠ asset ∨ note.lockId ≠ t.holdId ∨
      note.valueCommitment ≠ t.amountCommitment))
    "live covenant note differs from its reservation"
  require (matching.claimed .delivery = some t.consumedCommitment ∧
      matching.claimed .refund = some t.refundCommitment)
    "claim commitments differ from proved consumption and refund"
  require (api.escrowClaimSerial matching.escrowNoteId matching.holdId ∉ s.noteSerials)
    "reservation escrow note was already settled"
  require (∀ claim ∈ matching.claims, claim.claimId ∉ s.noteClaims)
    "anonymous settlement reuses a note claim"
  let statement ← t.statement api.toCreditDigests
  pure (direction, ⟨t, statement, facility, hold, escrow⟩)

def prepareNoteReservations (paymentAssetId base : Id) :
    Result (ℕ × List (PreparedNoteProductReservation V)) :=
  s.prepareEach o.settlement.operationId
    "anonymous settlement repeats a used reservation operation"
    (s.prepareNoteReservation api o timestamp paymentAssetId base) 0 [] o.reservations

def consumeNoteReservation (statement : Id) (s : VmState V R)
    (item : PreparedNoteProductReservation V) : Result (VmState V R) := do
  let s ← s.consumeBound item
  pure { s with
    noteReservations := s.noteReservations.insert item.transition.holdId
      { item.escrow with status := .consumed, settlementDigest := statement } }

def insertClaim (statement : Id) (s : VmState V R) (claim : NoteClaim V) :
    Result (VmState V R) := do
  require (∀ e ∈ s.noteClaims.entries,
      e.2.authorization.keyFingerprint ≠ claim.authorization.keyFingerprint)
    "note claim authorization key was already committed"
  pure { s with noteClaims := s.noteClaims.insert claim.claimId (claim.record statement) }

def settleSpend (api : VmApi V R) (statement : Id) (deadline : ℕ) (s : VmState V R)
    (spend : EscrowClaimSpend V) : Result (VmState V R) :=
  let serial := api.escrowClaimSerial spend.escrowNoteId spend.holdId
  let record : NoteSerialRecord := ⟨deadline, spend.assetId, spend.escrowNoteId, statement⟩
  foldEach (insertClaim statement) { s with noteSerials := s.noteSerials.insert serial record }
    spend.claims

def consumeLinkedReservation (statement dvpProofDigest : Id) (timestamp : ℕ) (s : VmState V R)
    (c : ReservationConsumption V) : Result (VmState V R) := do
  let binding ← okOr (s.reservationBindings.lookup c.transition.holdId)
    "settled reservation binding disappeared"
  s.followLinkedReservation api
    ⟨c.reserveReceiptDigest, c.transition.amountCommitment, binding.assetId, c.role, statement,
      dvpProofDigest⟩ .consume timestamp

def applyNoteProductSettlement : Result (VmState V R) := do
  o.body api.toNoteOrderApi
  let statement ← o.statement api.toNoteOrderApi
  require (timestamp ≤ o.settlement.deadline) "anonymous product settlement has expired"
  require (o.settlement.operationId ∉ s.operations)
    "settlement operation identifier was already used"
  require (o.settlement.nullifier ∉ s.nullifiers) "payment nullifier was already settled"
  require (o.rfqNullifier ∉ s.rfqNullifiers) "RFQ nullifier was already settled"
  let paymentSpend ← okOr (o.settlement.spends.find? (fun spend => spend.assetId ≠ o.tradedAssetId))
    "anonymous product settlement has no payment rail"
  let paymentAsset ← okOr (s.assets.lookup paymentSpend.assetId)
    "anonymous product payment asset is unknown"
  require (paymentAsset.active = true ∧ paymentAsset.kind = .cash)
    "anonymous payment side is not an active cash rail"
  require (s.assetActive o.tradedAssetId = true) "anonymous traded asset is inactive or unknown"
  let base ← o.settlement.statement api.toNoteOrderApi
  let (direction, prepared) ← s.prepareNoteReservations api o timestamp paymentSpend.assetId base
  require (direction = 1 ∨ direction = 2)
    "anonymous product settlement has an unsupported direction"
  let s ← foldEach (consumeNoteReservation statement) s prepared
  let s : VmState V R := { s with
    nullifiers := s.nullifiers.insert o.settlement.nullifier ⟨o.settlement.deadline, statement⟩
    rfqNullifiers := s.rfqNullifiers.insert o.rfqNullifier statement
    operations := s.operations.insert o.settlement.operationId statement }
  let s ← foldEach (settleSpend api statement o.settlement.deadline) s o.settlement.spends
  foldEach (consumeLinkedReservation api statement o.dvpProofDigest timestamp) s o.reservations

def settlementVerifierFor : Result SettlementVerifierRecord := do
  let verifier ← okOr (s.settlementVerifiers.lookup (o.venueId, o.admissionEpoch))
    "settlement has no governance-pinned verifier epoch"
  require (¬(verifier.defmiId ≠ o.defmiId ∨ timestamp < verifier.validFrom ∨
      verifier.validUntil < timestamp))
    "settlement verifier is not valid for this DeFMI and time"
  pure verifier

def reservationOf (role : ReservationRole) (error : String) : Result (ReservationConsumption V) :=
  okOr (o.reservations.find? (fun r => r.role = role)) error

def verifyTypedEvidence (instruction : TypedInstruction V) (o : ProductNoteSettlementOrder V)
    (timestamp : ℕ) : Check := do
  let verifier ← s.settlementVerifierFor o timestamp
  require (¬(instruction.wireDigest ≠ o.typedInstructionDigest ∨
      instruction.wireDigest ≠ o.settlement.paymentInstructionDigest))
    "typed zkPI bytes do not match the settlement digest"
  api.verifyTyped verifier instruction timestamp
  let maker ← reservationOf o .maker "settlement has no Maker reservation"
  let taker ← reservationOf o .taker "settlement has no Taker reservation"
  let context := instruction.context
  require (¬(context.venueId ≠ o.venueId ∨ context.defmiId ≠ o.defmiId ∨
      context.rfqNullifier ≠ o.rfqNullifier ∨
      context.takerMandateDigest ≠ o.takerMandateDigest ∨
      context.takerMandateDigest ≠ o.takerAuthorizationDigest ∨
      context.makerPolicyDigest ≠ o.makerPolicyDigest ∨
      context.makerMandateDigest ≠ o.makerMandateDigest ∨
      context.quoteProofDigest ≠ o.quoteProofDigest ∨
      context.marketStatementDigest ≠ o.settlement.marketStatementDigest ∨
      context.beforeStateRoot ≠ api.root s ∨
      context.makerReservationId ≠ maker.transition.holdId ∨
      context.takerReservationId ≠ taker.transition.holdId ∨
      context.makerReservationSequence ≠ maker.transition.beforeSequence ∨
      context.takerReservationSequence ≠ taker.transition.beforeSequence ∨
      context.makerReserveReceiptDigest ≠ maker.reserveReceiptDigest ∨
      context.takerReserveReceiptDigest ≠ taker.reserveReceiptDigest ∨
      .point instruction.payment.amountCommitment ≠ o.quantityCommitment ∨
      instruction.nullifier ≠ o.settlement.nullifier ∨
      instruction.deadline ≠ o.settlement.deadline ∨ instruction.thresholdRanges = false ∨
      instruction.quoteProofDigest ≠ some o.quoteProofDigest))
    "typed zkPI context differs from the canonical settlement"

def verifyQuoteEvidence (quote : QuoteAuthorization V) (o : ProductNoteSettlementOrder V)
    (timestamp : ℕ) : Check := do
  let verifier ← s.settlementVerifierFor o timestamp
  let digest ← api.verifyQuote quote
  require (¬(quote.eligibilityBits ≠ verifier.quoteEligibilityBits ∨
      quote.spanBits ≠ verifier.quoteSpanBits ∨
      quote.registryDigest ≠ verifier.quoteRegistryDigest))
    "complete quote proof differs from the governance-pinned circuit"
  require (digest = o.quoteProofDigest)
    "complete quote proof does not match the settlement digest"
  let winner ← okOr quote.winningPolicyDigest "complete quote proof has no winning policy"
  require (winner = o.makerPolicyDigest)
    "complete quote proof winner differs from the signed Maker policy"
  require (quote.marketDigest = o.settlement.marketStatementDigest)
    "complete quote proof names another market statement"
  require (quote.slot = o.admissionSequence)
    "complete quote proof names another admission sequence"
  require (0 ≤ quote.now) "complete quote proof has a negative market time"
  require (¬(timestamp < quote.now.toNat ∨ verifier.maxHorizon < timestamp - quote.now.toNat))
    "complete quote proof is future-dated or stale"

def verifyExecution (evidence : ProductSettlementEvidence V) (o : ProductNoteSettlementOrder V)
    (binding : ReservationBindingRecord V) : Check := do
  let batch ← okOr (s.admissionBatches.lookup binding.admissionBatchId)
    "settlement execution has no registered admission batch"
  let committee ← okOr (s.admissionCommittees.lookup (batch.venueId, batch.epoch))
    "settlement execution has no governance-pinned resident committee"
  let execution ← api.executionLane evidence.mpcExecutionAttestations committee.nodeKeys
    batch.orderDigest
  require (o.admissionSequence ≠ 0)
    "settlement admission sequence cannot identify an MPC lane"
  require (¬(execution.slot ≠ batch.slot ∨ execution.lane ≠ o.admissionSequence - 1 ∨
      execution.clusterDigest ≠ batch.batchDigest ∨ batch.venueId ≠ o.venueId ∨
      batch.epoch ≠ o.admissionEpoch))
    "signed MPC execution receipts differ from the admitted lane"
  let job ← api.liveProofJobId execution.slot execution.lane execution.digest
  require (∀ q ∈ evidence.quoteVerification.optimistic, q.1 = job ∧ q.2 = o.venueId)
    "optimistic quote names another executed job or venue"
  require (evidence.quoteVerification.context = api.completeQuoteContext job o.takerMandateDigest)
    "complete quote proof is not bound to the signed MPC execution receipts"

/-- Every public check of a settlement, made again on the replicated state. -/
def verifyProductSettlementEvidence (evidence : ProductSettlementEvidence V)
    (o : ProductNoteSettlementOrder V) (timestamp : ℕ) : Check := do
  api.evidenceEncoding evidence
  let instruction := evidence.typedInstruction
  s.verifyTypedEvidence api instruction o timestamp
  s.verifyQuoteEvidence api evidence.quoteVerification o timestamp
  let verifier ← s.settlementVerifierFor o timestamp
  let maker ← reservationOf o .maker "settlement has no Maker reservation"
  let taker ← reservationOf o .taker "settlement has no Taker reservation"
  let makerBinding ← okOr (s.reservationBindings.lookup maker.transition.holdId)
    "Maker reservation has no canonical product binding"
  let takerBinding ← okOr (s.reservationBindings.lookup taker.transition.holdId)
    "Taker reservation has no canonical product binding"
  require (¬(makerBinding.role ≠ .maker ∨ takerBinding.role ≠ .taker ∨
      makerBinding.direction ≠ takerBinding.direction))
    "Maker and Taker reservation directions are inconsistent"
  let direction := makerBinding.direction
  require (¬(direction ≠ (if instruction.context.takerBuys then 1 else 2) ∨
      evidence.quoteVerification.direction ≠ (if instruction.context.takerBuys then 0 else 1) ∨
      evidence.quoteVerification.qtyCommitment ≠ instruction.payment.amountCommitment))
    "reserved request, Quote proof and typed zkPI are inconsistent"
  s.verifyExecution api evidence o takerBinding
  let limit ← settlementPoint takerBinding.limitPriceCommitment "reserved Taker price limit"
  let priceLimit ← api.priceLimit instruction.payment.priceCommitment limit
    instruction.context.takerBuys verifier.priceBits o.takerMandateDigest evidence.priceLimitProof
  require (priceLimit = o.priceLimitProofDigest)
    "price-limit proof differs from the settled digest"
  let securities := if direction = 1 then maker else taker
  let cash := if direction = 1 then taker else maker
  let securitiesReserve ← settlementPoint securities.transition.amountCommitment
    "securities reservation"
  let cashReserve ← settlementPoint cash.transition.amountCommitment "cash reservation"
  let cashCommitment ← settlementPoint o.cashCommitment "settlement cash amount"
  let package ← buildThresholdPackageFromProofs api.key instruction.payment
    (Sides.of api.accountOf instruction.payment) securitiesReserve cashReserve cashCommitment
    evidence.dvpProofs verifier.amountBits
  require (¬(api.packageDigest package ≠ o.dvpProofDigest ∨
      .point package.instruction.amountCommitment ≠ o.quantityCommitment ∨
      .point package.cashCommitment ≠ o.cashCommitment ∨
      .point package.securitiesRemainder ≠ securities.transition.refundCommitment ∨
      .point package.cashRemainder ≠ cash.transition.refundCommitment))
    "DvP proof differs from the canonical reservation consumption"
  require (api.assetLink o.tradedAssetId instruction.assetCommitment evidence.assetLink = true ∧
      api.assetLinkDigest o.tradedAssetId instruction.assetCommitment evidence.assetLink =
        o.assetLinkProofDigest)
    "zkPI asset is not the traded DeFMI asset"

def settleNoteProduct (o : ProductNoteSettlementOrder V) (evidence : ProductSettlementEvidence V)
    (approval : Approval) : Result (VmState V R) := do
  o.body api.toNoteOrderApi
  let statement ← o.statement api.toNoteOrderApi
  s.authorize api approval statement
  s.verifyProductSettlementEvidence api evidence o timestamp
  s.applyNoteProductSettlement api o timestamp

/-- The allocation and the settlement run on a candidate that replaces the state
only when both succeed. -/
def settleStandingPoolProduct (t : CreditFacilityTransition V) (auth : ReservationAuthorization V)
    (a : StandingNotePoolAllocation V) (allocationApproval : Bytes)
    (o : ProductNoteSettlementOrder V) (evidence : ProductSettlementEvidence V)
    (approval : Approval) : Result (VmState V R) := do
  o.body api.toNoteOrderApi
  let statement ← standingPoolProductSettlementStatement api.toNoteOrderApi t auth a o
    (api.evidenceDigest evidence)
  s.authorize api approval statement
  let candidate ← s.allocateStandingNotePool api timestamp t auth a
    ⟨approval.expectedBeforeRoot, allocationApproval⟩
  candidate.verifyProductSettlementEvidence api evidence o timestamp
  candidate.applyNoteProductSettlement api o timestamp

def settleNoteProductBatch (batch : ProductNoteSettlementBatch)
    (orders : List (ProductNoteSettlementOrder V × ProductSettlementEvidence V))
    (approval : Approval) : Result (VmState V R) := do
  require (batch.members.length ≤ 4096) "anonymous batch contains too many settlement members"
  require (orders.length ≤ 4096) "anonymous batch contains too many settlement orders"
  forEach (fun o => o.1.body api.toNoteOrderApi) orders
  batch.validateOrders api.toNoteOrderApi (orders.map Prod.fst)
  let statement ← batch.statement api.toNoteOrderApi
  s.authorize api approval statement
  forEach (fun o => s.verifyProductSettlementEvidence api o.2 o.1 timestamp) orders
  require (batch.batchId ∉ s.operations)
    "anonymous settlement batch identifier was already used"
  let s ← foldEach (fun s o => applyNoteProductSettlement api s o timestamp) s (orders.map Prod.fst)
  pure { s with operations := s.operations.insert batch.batchId statement }

def releaseNoteProduct (o : ProductNoteReleaseOrder V) (approval : Approval) :
    Result (VmState V R) := do
  o.body api.toNoteApi
  let statement ← o.statement api.toNoteOrderApi
  s.authorize api approval statement
  s.applyNoteProductRelease api o statement timestamp false

/-- Early release of a Taker reserve whose lane was certified empty. -/
def releaseNoteProductNoFill (o : ProductNoteNoFillReleaseOrder V) (evidence : MpcNoFillEvidence V)
    (approval : Approval) : Result (VmState V R) := do
  o.body api.toNoteApi
  api.noFillEncoding evidence
  require (api.noFillDigest evidence = o.noFillEvidenceDigest)
    "no-fill release carries another evidence bundle"
  let statement ← o.statement api.toNoteOrderApi
  s.authorize api approval statement
  let t := o.release.transition
  let binding ← okOr (s.reservationBindings.lookup t.holdId)
    "no-fill release names an unknown Taker reservation"
  require (¬(binding.role ≠ .taker ∨ binding.policyVersion ≠ 0 ∨
      binding.admissionEpoch ≠ o.admissionEpoch ∨
      binding.admissionSequence ≠ o.admissionSequence))
    "no-fill release differs from the admitted Taker reservation"
  let mandate := evidence.signedTakerMandate
  api.mandateSignature mandate timestamp
  require (¬(mandate.digest ≠ binding.mandateDigest ∨
      mandate.digest ≠ binding.authorizationDigest ∨ mandate.reserveId ≠ t.holdId ∨
      mandate.rfqNullifier ≠ binding.rfqNullifier ∨ mandate.assetId = 0 ∨
      mandate.reserveAssetId ≠ o.release.assetId ∨ mandate.reserveAssetId ≠ binding.assetId ∨
      mandate.maximumAmountCommitment ≠ t.amountCommitment ∨
      mandate.limitPriceCommitment ≠ binding.limitPriceCommitment ∨
      mandate.entityCommitment ≠ binding.entityCommitment ∨
      mandate.admissionTicketId ≠ binding.admissionTicketId ∨
      mandate.admissionSlot ≠ binding.admissionSlot ∨ mandate.venueId ≠ o.venueId ∨
      mandate.defmiId ≠ o.defmiId ∨ (if mandate.takerBuys then 1 else 2) ≠ binding.direction ∨
      mandate.autoSettle = false))
    "no-fill evidence is not the pre-signed reserved RFQ"
  require (mandate.rfqNullifier ∉ s.rfqNullifiers)
    "RFQ nullifier was already settled or released"
  let batch ← okOr (s.admissionBatches.lookup binding.admissionBatchId)
    "no-fill result has no registered admission batch"
  require (¬(batch.venueId ≠ o.venueId ∨ batch.epoch ≠ o.admissionEpoch ∨
      batch.slot ≠ binding.admissionSlot ∨ batch.expiresAt < timestamp))
    "no-fill result differs from or outlived its admission batch"
  let committee ← okOr (s.admissionCommittees.lookup (batch.venueId, batch.epoch))
    "no-fill result has no governance-pinned resident committee"
  require (¬(timestamp < committee.validFrom ∨ committee.validUntil < timestamp))
    "resident committee was not valid at no-fill release time"
  let result ← api.resultLane evidence.publicResultAttestations committee.nodeKeys
    batch.orderDigest
  require (¬(result.slot ≠ batch.slot ∨ result.sequence ≠ o.admissionSequence ∨
      result.clusterDigest ≠ batch.batchDigest ∨ result.maskedFill - evidence.fillMask ≠ 0))
    "resident committee did not certify zero fills for this RFQ lane"
  let s ← s.applyNoteProductRelease api o.release statement timestamp true
  pure { s with rfqNullifiers := s.rfqNullifiers.insert mandate.rfqNullifier statement }

end

end VmState

inductive NoteProductTx (V : Type) where
  | allocate (t : CreditFacilityTransition V) (auth : ReservationAuthorization V)
      (a : StandingNotePoolAllocation V) (approval : Approval)
  | settle (o : ProductNoteSettlementOrder V) (evidence : ProductSettlementEvidence V)
      (approval : Approval)
  | settleStanding (t : CreditFacilityTransition V) (auth : ReservationAuthorization V)
      (a : StandingNotePoolAllocation V) (allocationApproval : Bytes)
      (o : ProductNoteSettlementOrder V) (evidence : ProductSettlementEvidence V)
      (approval : Approval)
  | settleBatch (batch : ProductNoteSettlementBatch)
      (orders : List (ProductNoteSettlementOrder V × ProductSettlementEvidence V))
      (approval : Approval)
  | release (o : ProductNoteReleaseOrder V) (approval : Approval)
  | releaseNoFill (o : ProductNoteNoFillReleaseOrder V) (evidence : MpcNoFillEvidence V)
      (approval : Approval)

namespace VmState

variable {V R : Type} [AddCommGroup V] [Module Scalar V] [DecidableEq V]

def executeNoteProduct (api : VmApi V R) (s : VmState V R) (timestamp : ℕ) :
    NoteProductTx V → Result (VmState V R)
  | .allocate t auth a approval => s.allocateStandingNotePool api timestamp t auth a approval
  | .settle o evidence approval => s.settleNoteProduct api timestamp o evidence approval
  | .settleStanding t auth a allocationApproval o evidence approval =>
    s.settleStandingPoolProduct api timestamp t auth a allocationApproval o evidence approval
  | .settleBatch batch orders approval => s.settleNoteProductBatch api timestamp batch orders approval
  | .release o approval => s.releaseNoteProduct api timestamp o approval
  | .releaseNoFill o evidence approval =>
    s.releaseNoteProductNoFill api timestamp o evidence approval

/-- A transaction is executed on a copy, and the copy has to be a valid state. -/
def applyNoteProduct (api : VmApi V R) (s : VmState V R) (timestamp : ℕ) (tx : NoteProductTx V) :
    Result (VmState V R) := do
  let next ← s.executeNoteProduct api timestamp tx
  next.validate api.toNoteApi
  pure next

end VmState
end DeFMI
