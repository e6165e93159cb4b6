import DeFMI.Vm.ApplicationReserve
set_option autoImplicit false

/-!
Consumption of application reservations: a fill takes an amount out of a
securities and a cash reservation against full monetary proofs, several fills
form a batch, and a release returns what remains.
-/

namespace DeFMI
open Lib

inductive FillLeg where
  | securities
  | cash

def FillLeg.both : List FillLeg := [.securities, .cash]

structure ApplicationSpendHead (V : Type) where
  holdId : Id
  sequence : ℕ
  previousReceipt : Id
  remainingCommitment : CompressedPoint V
  reserveReblinding : EncodedScalar
  /-- Otherwise the remainder stays locked for further fills of the same order. -/
  close : Bool

structure OptimisticSettlementReference where
  claim : Id
  application : Id
  network : Id
  context : Bytes
  outputRoot : Id
  publicOutput : Bytes

structure ApplicationFillBatchBinding where
  group : Id
  index : ℕ
  count : ℕ
  deriving DecidableEq

structure LegOpenings (V : Type) where
  delivery : ApplicationOpening V
  refund : ApplicationOpening V

structure ApplicationNoteFill (V : Type) where
  version : ℕ
  scope : ApplicationReserveScope
  beforeRoot : Id
  operationId : Id
  mpcResultDigest : Id
  securitiesAsset : Id
  cashAsset : Id
  securities : ApplicationSpendHead V
  cash : ApplicationSpendHead V
  instruction : Bytes
  dvpProofs : Bytes
  cashCommitment : CompressedPoint V
  assetLinkAnnouncement : CompressedPoint V
  assetLinkResponse : EncodedScalar
  securitiesOpenings : LegOpenings V
  cashOpenings : LegOpenings V
  committeePublic : Bytes
  pqCommittee : Bytes
  signature : Bytes
  pqAuthorization : Option Bytes
  batch : Option ApplicationFillBatchBinding
  optimistic : Option OptimisticSettlementReference

structure ApplicationNoteFillBatch (V : Type) where
  version : ℕ
  fills : List (ApplicationNoteFill V)

structure ApplicationInstruction (V : Type) where
  payment : Instruction V
  assetCommitment : V
  nonce : Id
  nullifier : Id
  deadline : ℕ
  quoteDigest : Option Id

structure VerifiedLeg (V : Type) where
  consumed : CompressedPoint V
  remaining : CompressedPoint V
  normalizedOpening : ApplicationOpening V

structure VerifiedApplicationFill (V : Type) where
  statement : Id
  nullifier : Id
  deadline : ℕ
  securities : VerifiedLeg V
  cash : VerifiedLeg V
  claims : List (NoteClaim V)

inductive ApplicationReleaseReason where
  | cancelled
  | expired

structure ApplicationNoteRelease where
  scope : ApplicationReserveScope
  beforeRoot : Id
  operationId : Id
  holdId : Id
  sequence : ℕ
  previousReceipt : Id
  reason : ApplicationReleaseReason
  committeePublic : Bytes
  pqCommittee : Option Bytes
  signature : Bytes
  pqAuthorization : Option Bytes

structure FillApi (V R : Type) extends ReserveApi V R where
  fillMessage : ApplicationNoteFill V → Id
  fillSize : ApplicationNoteFill V → ℕ
  committeeKeys : ApplicationReserveScope → Bytes → Bytes → Check
  frostVerify : Bytes → Id → Bytes → Check
  pqVerify : Bytes → Bytes → Id → ℕ → Check
  decodeInstruction : Bytes → Result (ApplicationInstruction V)
  encodeInstruction : ApplicationInstruction V → Bytes
  verifyVenue : ℕ → Bytes → Bytes → ApplicationInstruction V → ℕ → Check
  applicationAssetLink : Id → V → V → Scalar → Bool
  decodeDvpProofs : Bytes → Result DvpProofs
  openingContext : Id → String → Result Id
  claimRecipient : CompressedPoint V → Id → Id → Id → NoteClaimKind → Result Id
  fillGroup : ApplicationReserveScope → Id → List Id → Id
  fillBatch : Id → List Id → Id
  batchSize : ApplicationNoteFillBatch V → ℕ
  releaseMessage : ApplicationNoteRelease → Id

section Openings

variable {V R : Type} [AddCommGroup V] [Module Scalar V] [DecidableEq V]

def applicationScalar : EncodedScalar → Result Scalar
  | .canonical s => .ok s
  | .malformed _ => .error "application settlement scalar is not canonical"

def ApplicationOpeningShare.shift (share : ApplicationOpeningShare) (delta : Scalar) :
    Result ApplicationOpeningShare := do
  let adjustment ← applicationScalar share.blindingAdjustment
  pure { share with blindingAdjustment := .canonical (adjustment - delta) }

/-- Changes the blinding of an encrypted opening and nothing else. -/
def ApplicationOpening.subtractReblinding (api : NoteApi V) (o : ApplicationOpening V)
    (delta : Scalar) : Result (ApplicationOpening V) := do
  let _ ← o.domain api
  let shares ← mapEach (fun share => ApplicationOpeningShare.shift share delta) o.shares
  let shifted := { o with shares }
  let _ ← shifted.domain api
  pure shifted

def applicationClaim (api : FillApi V R) (assetId sourceHoldId : Id)
    (valueCommitment : CompressedPoint V) (kind : NoteClaimKind) (opening : ApplicationOpening V) :
    Result (NoteClaim V) := do
  let _ ← applicationPoint valueCommitment
  let recipient ← api.claimRecipient opening.recipientView opening.claimContext assetId
    sourceHoldId kind
  let envelope ← opening.domain api.toNoteApi
  let content : NoteClaim V := ⟨0, assetId, valueCommitment, recipient, opening.claimAuthorization,
    sourceHoldId, kind, envelope⟩
  let claim := { content with claimId := api.claimId content }
  claim.validate api.toNoteApi
  pure claim

def ClaimConversion.claim (api : FillApi V R) (c : ClaimConversion V) (assetCommitment hold : Id)
    (kind : NoteClaimKind) : Result (NoteClaim V) := do
  require (api.sealedValid c.assetOpening = true) "sealed asset opening is invalid"
  applicationClaim api assetCommitment hold c.valueCommitment kind c.opening

/-- Both key sets are fixed before a participant authorises a reserve. -/
def ApplicationReserveScope.verifyCommittee (api : FillApi V R) (scope : ApplicationReserveScope)
    (classical policy : Bytes) : Check := do
  scope.validate
  api.committeeKeys scope classical policy

end Openings

section Fills

variable {V R : Type} [AddCommGroup V] [Module Scalar V] [DecidableEq V]

def ApplicationSpendHead.validate (head : ApplicationSpendHead V) : Check := do
  require (¬(head.holdId = 0 ∨ head.previousReceipt = 0 ∨ head.sequence = u64Max))
    "application reserve head is incomplete"
  let _ ← applicationPoint head.remainingCommitment
  let _ ← applicationScalar head.reserveReblinding
  pure ()

def ApplicationFillBatchBinding.validate (b : ApplicationFillBatchBinding) : Check :=
  require (¬(b.group = 0 ∨ b.count < 2 ∨ 8 < b.count ∨ b.count ≤ b.index))
    "application fill batch binding is malformed"

def maxProofBytes : ℕ := 1024 * 1024

namespace ApplicationNoteFill

variable (api : FillApi V R) (fill : ApplicationNoteFill V) (i : ApplicationInstruction V)

def head : FillLeg → ApplicationSpendHead V
  | .securities => fill.securities
  | .cash => fill.cash

def asset : FillLeg → Id
  | .securities => fill.securitiesAsset
  | .cash => fill.cashAsset

def openings : FillLeg → LegOpenings V
  | .securities => fill.securitiesOpenings
  | .cash => fill.cashOpenings

def openingList : List (ApplicationOpening V) :=
  FillLeg.both.flatMap (fun leg => [(fill.openings leg).delivery, (fill.openings leg).refund])

def recipients : List (V × String) :=
  [(i.payment.payerHandle, "securities_delivery"), (i.payment.payeeHandle, "securities_refund"),
    (i.payment.payeeHandle, "cash_delivery"), (i.payment.payerHandle, "cash_refund")]

def OptimisticScope (r : OptimisticSettlementReference) : Prop :=
  ¬(r.claim = 0 ∨ r.outputRoot = 0 ∨ r.publicOutput = [] ∨ maxProofBytes < r.publicOutput.length ∨
    r.application ≠ fill.scope.venueId ∨ r.network ≠ fill.scope.defmiId)

instance (fill : ApplicationNoteFill V) (r : OptimisticSettlementReference) :
    Decidable (fill.OptimisticScope r) := inferInstanceAs (Decidable (¬_))

def signingMessage : Result Id := do
  fill.scope.validate
  fill.securities.validate
  fill.cash.validate
  forEach ApplicationFillBatchBinding.validate fill.batch.toList
  require (∀ r ∈ fill.optimistic, fill.OptimisticScope r)
    "optimistic application settlement has another scope or an empty output"
  require (¬((fill.version ≠ 2 ∧ fill.version ≠ 3) ∨ fill.beforeRoot = 0 ∨ fill.operationId = 0 ∨
      fill.mpcResultDigest = 0 ∨ fill.securitiesAsset = 0 ∨ fill.cashAsset = 0 ∨
      fill.securitiesAsset = fill.cashAsset ∨ fill.securities.holdId = fill.cash.holdId ∨
      fill.instruction = [] ∨ fill.dvpProofs = [] ∨ maxProofBytes < fill.instruction.length ∨
      maxProofBytes < fill.dvpProofs.length ∨ fill.committeePublic = [] ∨
      64 * 1024 < fill.committeePublic.length ∨ 64 < fill.signature.length))
    "application fill is incomplete or oversized"
  forEach (fun opening => do
    let _ ← opening.domain api.toNoteApi
    pure ()) fill.openingList
  fill.scope.verifyCommittee api fill.committeePublic fill.pqCommittee
  let unsigned := { fill with signature := [], pqAuthorization := none }
  require (api.fillSize unsigned ≤ 2 * maxProofBytes) "application fill exceeds its total wire bound"
  pure (api.fillMessage unsigned)

def verifyAssetLink : Check := do
  let announcement ← applicationPoint fill.assetLinkAnnouncement
  let response ← applicationScalar fill.assetLinkResponse
  require (api.applicationAssetLink fill.securitiesAsset i.assetCommitment announcement response =
      true) "application zkPI asset differs from its canonical securities rail"

/-- Every opening is for this proof job, this payment and its recipient, and no key
is used for two of them. -/
def verifyOpenings : Check := do
  forEach (fun o => do
    let context ← api.openingContext i.nonce o.2.2
    require (¬(o.1.recipientView ≠ .point o.2.1 ∨ o.1.context ≠ context ∨
        o.1.claimContext ≠ i.nullifier))
      "application opening names another proof job, claim, or recipient")
    (fill.openingList.zip (recipients i))
  require (fill.openingList.map (fun o => o.claimAuthorization.keyFingerprint)).Nodup
    "application claim authorization keys must be one-time"

/-- The claims one leg creates; a refund only when the leg is closed. -/
def legClaims (leg : FillLeg) (verified : VerifiedLeg V) : Result (List (NoteClaim V)) := do
  let head := fill.head leg
  let delivery ← applicationClaim api (fill.asset leg) head.holdId verified.consumed .delivery
    (fill.openings leg).delivery
  if head.close then do
    let refund ← applicationClaim api (fill.asset leg) head.holdId verified.remaining .refund
      verified.normalizedOpening
    pure [delivery, refund]
  else pure [delivery]

/-- The reserve a leg draws on, moved by the delta its remainder is moved back by. -/
def reblinded (head : ApplicationSpendHead V) : Result (V × Scalar) := do
  let delta ← applicationScalar head.reserveReblinding
  let remaining ← applicationPoint head.remainingCommitment
  pure (remaining + delta • api.key.h, delta)

def verifyBody (statement : Id) (now : ℕ) (confidential : Bool) :
    Result (VerifiedApplicationFill V) := do
  let i ← api.decodeInstruction fill.instruction
  require (¬(api.encodeInstruction i ≠ fill.instruction ∨
      i.quoteDigest ≠ some fill.mpcResultDigest)) "application zkPI names another MPC result"
  api.verifyVenue fill.scope.amountBits fill.committeePublic fill.pqCommittee i now
  if confidential then .ok () else fill.verifyAssetLink api i
  let (securitiesReserve, securitiesDelta) ← reblinded api fill.securities
  let (cashReserve, cashDelta) ← reblinded api fill.cash
  let cashCommitment ← applicationPoint fill.cashCommitment
  let proofs ← api.decodeDvpProofs fill.dvpProofs
  let package ← buildThresholdPackageFromProofs api.key i.payment
    (Sides.of api.accountOf i.payment) securitiesReserve cashReserve cashCommitment proofs
    fill.scope.amountBits
  fill.verifyOpenings api i
  let securitiesOpening ← fill.securitiesOpenings.refund.subtractReblinding api.toNoteApi
    securitiesDelta
  let cashOpening ← fill.cashOpenings.refund.subtractReblinding api.toNoteApi cashDelta
  let securities : VerifiedLeg V := ⟨.point i.payment.amountCommitment,
    .point (package.securitiesRemainder - securitiesDelta • api.key.h), securitiesOpening⟩
  let cash : VerifiedLeg V := ⟨.point package.cashCommitment,
    .point (package.cashRemainder - cashDelta • api.key.h), cashOpening⟩
  let securitiesClaims ← fill.legClaims api .securities securities
  let cashClaims ← fill.legClaims api .cash cash
  pure ⟨statement, i.nullifier, i.deadline, securities, cash, securitiesClaims ++ cashClaims⟩

def verifyCertificateAndBody (expectedScope : ApplicationReserveScope) (now : ℕ) (statement : Id)
    (confidential : Bool) : Result (VerifiedApplicationFill V) := do
  require (fill.scope = expectedScope)
    "application fill committee or scope is not the pre-authorized one"
  expectedScope.verifyCommittee api fill.committeePublic fill.pqCommittee
  api.frostVerify fill.committeePublic statement fill.signature
  let approval ← okOr fill.pqAuthorization "application fill lacks its PQ authorization"
  api.pqVerify fill.pqCommittee approval statement now
  fill.verifyBody api statement now confidential

def verify (expectedScope : ApplicationReserveScope) (now : ℕ) :
    Result (VerifiedApplicationFill V) := do
  require (fill.version = 2)
    "confidential application fill requires its full confidential wrapper"
  let statement ← fill.signingMessage api
  fill.verifyCertificateAndBody api expectedScope now statement false

end ApplicationNoteFill

namespace ApplicationNoteFillBatch

def group (api : FillApi V R) (scope : ApplicationReserveScope) (beforeRoot : Id)
    (operations : List Id) : Result Id := do
  scope.validate
  require (¬(beforeRoot = 0 ∨ operations.length < 2 ∨ 8 < operations.length ∨ 0 ∈ operations ∨
      ¬operations.Nodup)) "application fill group has invalid parent, size or repeated operation"
  pure (api.fillGroup scope beforeRoot operations)

/-- Shape and signed membership only. -/
def statement (api : FillApi V R) (batch : ApplicationNoteFillBatch V) : Result Id := do
  require (¬(batch.version ≠ 1 ∨ batch.fills.length < 2 ∨ 8 < batch.fills.length ∨
      2 ^ 20 - 4096 < api.batchSize batch)) "application fill batch is incomplete or oversized"
  let first ← okOr batch.fills.head? "application fill batch is incomplete or oversized"
  let group ← group api first.scope first.beforeRoot
    (batch.fills.map ApplicationNoteFill.operationId)
  let messages ← mapEach (fun l : ApplicationNoteFill V × ℕ => do
    require (¬(l.1.scope ≠ first.scope ∨ l.1.beforeRoot ≠ first.beforeRoot ∨
        l.1.batch ≠ some ⟨group, l.2, batch.fills.length⟩))
      "application fill batch omits, reorders or substitutes a signed member"
    l.1.signingMessage api) batch.fills.zipIdx
  pure (api.fillBatch group messages)

def beforeRoot (api : FillApi V R) (batch : ApplicationNoteFillBatch V) : Result Id := do
  let _ ← batch.statement api
  let first ← okOr batch.fills.head? "application fill batch is incomplete or oversized"
  pure first.beforeRoot

end ApplicationNoteFillBatch

namespace ApplicationNoteRelease

variable (api : FillApi V R) (r : ApplicationNoteRelease)

def signingMessage : Result Id := do
  r.scope.validate
  require (¬(r.beforeRoot = 0 ∨ r.operationId = 0 ∨ r.holdId = 0 ∨ r.previousReceipt = 0 ∨
      r.sequence = u64Max ∨ 64 * 1024 < r.committeePublic.length ∨ 64 < r.signature.length))
    "application release is malformed"
  pure (api.releaseMessage { r with signature := [], pqAuthorization := none })

/-- An expiry needs no signature and may carry none, a cancellation needs the committee. -/
def verifyReason (scope : ApplicationReserveScope) (validUntil now : ℕ) (statement : Id) : Check :=
  match r.reason with
  | .expired =>
    require (¬(now ≤ validUntil ∨ r.committeePublic ≠ [] ∨ r.pqCommittee ≠ none ∨
        r.signature ≠ [] ∨ r.pqAuthorization ≠ none))
      "expiry needs an expired reservation and no discretionary signature"
  | .cancelled => do
    let policy ← okOr r.pqCommittee "cancellation lacks its PQ committee"
    scope.verifyCommittee api r.committeePublic policy
    api.frostVerify r.committeePublic statement r.signature
    let approval ← okOr r.pqAuthorization "cancellation lacks its PQ authorization"
    api.pqVerify policy approval statement now

def verify (scope : ApplicationReserveScope) (validUntil now : ℕ) : Result Id := do
  let statement ← r.signingMessage api
  require (r.scope = scope) "application release names another deployment"
  r.verifyReason api scope validUntil now statement
  pure statement

end ApplicationNoteRelease
end Fills

structure PreparedLeg (V : Type) where
  head : ApplicationSpendHead V
  asset : Id
  record : ApplicationReservationRecord V
  verified : VerifiedLeg V

namespace VmState

variable {V R : Type} [AddCommGroup V] [Module Scalar V] [DecidableEq V]

/-- The covenant note is consumed once, by the first fill or by the release. -/
def consumeCovenant (api : NoteApi V) (s : VmState V R) (record : ApplicationReservationRecord V)
    (statement : Id) : Result (VmState V R) :=
  let serial := api.escrowClaimSerial record.escrowNoteId record.binding.holdId
  let row : NoteSerialRecord :=
    ⟨record.binding.validUntil, record.binding.assetId, record.escrowNoteId, statement⟩
  if record.sequence = 0 then do
    require (serial ∉ s.noteSerials) "application covenant was already consumed"
    pure { s with noteSerials := s.noteSerials.insert serial row }
  else do
    require (serial ∈ s.noteSerials) "application remainder lost its consumed covenant"
    pure s

def insertApplicationClaim (api : NoteApi V) (statement : Id) (s : VmState V R)
    (claim : NoteClaim V) : Result (VmState V R) := do
  claim.validate api
  require (claim.claimId ∉ s.noteClaims) "application claim already exists"
  require (∀ e ∈ s.noteClaims.entries,
      e.2.authorization.keyFingerprint ≠ claim.authorization.keyFingerprint)
    "application claim authorization key was already committed"
  pure { s with noteClaims := s.noteClaims.insert claim.claimId (claim.record statement) }

def checkHead (s : VmState V R) (now : ℕ) (scope : ApplicationReserveScope) (confidential : Bool)
    (fill : ApplicationNoteFill V) (leg : FillLeg) : Result (ApplicationReservationRecord V) := do
  let head := fill.head leg
  require (confidential = decide (head.holdId ∈ s.confidential.reservationValues))
    "application fill endpoint differs from the reservation privacy version"
  let record ← okOr (s.applicationReservations.lookup head.holdId)
    "application fill has no canonical reservation"
  require (¬(record.binding.scope ≠ scope ∨ record.binding.assetId ≠ fill.asset leg ∨
      record.status ≠ .active ∨ record.sequence ≠ head.sequence ∨
      record.headReceipt ≠ head.previousReceipt ∨
      record.remaining ≠ head.remainingCommitment ∨ now < record.binding.validFrom ∨
      record.binding.validUntil < now))
    "application fill differs from its current reservation head"
  pure record

def returnRemainder (available : CompressedPoint V) (close : Bool) (remainder : V) :
    Result (CompressedPoint V) :=
  if close then (applicationPoint available).map (fun p => .point (p + remainder))
  else .ok available

section
variable (api : FillApi V R) (s : VmState V R) (record : ApplicationReservationRecord V)
  (facility : CreditFacilityRecord V) (close : Bool)

def drawFacility (before consumed remainder : V) : Result (CreditFacilityRecord V) := do
  let held ← applicationPoint facility.balances.held
  let outstanding ← applicationPoint facility.balances.outstanding
  let available ← returnRemainder facility.balances.available close remainder
  let sequence ← okOr (checkedSucc facility.sequence) "application facility sequence overflow"
  pure { facility with
    balances := ⟨available, .point (held - if close then before else consumed),
      .point (outstanding + consumed)⟩
    sequence }

def filledHold (hold : CreditHoldRecord V) (close : Bool) (remaining : CompressedPoint V)
    (sequence : ℕ) (statement : Id) : CreditHoldRecord V :=
  { hold with
    updatedSequence := sequence
    amountCommitment := remaining
    status := if close then .consumed else hold.status
    settlementDigest := if close then statement else hold.settlementDigest }

def filledRecord (verified : VerifiedLeg V) (sequence : ℕ) (statement : Id) :
    ApplicationReservationRecord V :=
  { record with
    remainingCommitment := some verified.remaining
    sequence
    lastReceipt := some statement
    remainingOpening := if close then none else some verified.normalizedOpening
    status := if close then .consumed else record.status
    settlementDigest := if close then statement else record.settlementDigest }

def applyLegFill (api : FillApi V R) (statement : Id) (s : VmState V R) (leg : PreparedLeg V) :
    Result (VmState V R) := do
  let record := leg.record
  let before ← applicationPoint record.remaining
  let consumed ← applicationPoint leg.verified.consumed
  let remainder ← applicationPoint leg.verified.remaining
  require (before = consumed + remainder) "application fill changes the canonical reserved amount"
  let hold ← okOr (s.creditHolds.lookup leg.head.holdId) "application fill credit hold is absent"
  require (¬(hold.status ≠ .active ∨ hold.amountCommitment ≠ record.remaining ∨
      hold.facilityId ≠ record.binding.facilityId))
    "application fill credit hold differs from its head"
  let facility ← okOr (s.creditFacilities.lookup record.binding.facilityId)
    "application fill facility is absent"
  require (¬(facility.status ≠ .active ∨
      facility.beneficiaryCommitment ≠ record.binding.entityCommitment ∨
      facility.railAssetId ≠ leg.asset)) "application fill facility is not eligible"
  let facility ← drawFacility facility leg.head.close before consumed remainder
  let s ← s.consumeCovenant api.toNoteApi record statement
  let sequence ← okOr (checkedSucc record.sequence) "application reserve sequence overflow"
  pure { s with
    creditFacilities := s.creditFacilities.insert record.binding.facilityId facility
    creditHolds := s.creditHolds.insert leg.head.holdId
      (filledHold hold leg.head.close leg.verified.remaining facility.sequence statement)
    applicationReservations := s.applicationReservations.insert leg.head.holdId
      (filledRecord record leg.head.close leg.verified sequence statement) }

/-- A plain fill is verified here, a confidential one was verified by its wrapper. -/
def verifiedFill (fill : ApplicationNoteFill V) (scope : ApplicationReserveScope) (now : ℕ) :
    Option (VerifiedApplicationFill V) → Result (VerifiedApplicationFill V)
  | some verified => .ok verified
  | none => fill.verify api scope now

def applyFillInner (fill : ApplicationNoteFill V) (expectedParent : Id) (now : ℕ)
    (confidential : Option (VerifiedApplicationFill V)) : Result (VmState V R) := do
  require (¬(fill.beforeRoot ≠ expectedParent ∨ fill.operationId ∈ s.operations))
    "application fill has a stale parent or reused operation"
  let scopeKey ← fill.scope.key api.toNoteApi
  let scope ← okOr (s.applicationReserveScopes.lookup scopeKey)
    "application fill scope is not registered"
  let securities ← s.checkHead now scope confidential.isSome fill .securities
  let cash ← s.checkHead now scope confidential.isSome fill .cash
  let verified ← verifiedFill api fill scope now confidential
  require (verified.nullifier ∉ s.nullifiers) "application zkPI was already settled"
  let s ← foldEach (applyLegFill api verified.statement) s
    [⟨fill.securities, fill.securitiesAsset, securities, verified.securities⟩,
      ⟨fill.cash, fill.cashAsset, cash, verified.cash⟩]
  let s ← foldEach (insertApplicationClaim api.toNoteApi verified.statement) s verified.claims
  pure { s with
    nullifiers := s.nullifiers.insert verified.nullifier ⟨verified.deadline, verified.statement⟩
    operations := s.operations.insert fill.operationId verified.statement }

def applyFill (fill : ApplicationNoteFill V) (expectedParent : Id) (now : ℕ) :
    Result (VmState V R) :=
  s.applyFillInner api fill expectedParent now none

/-- `optimistic` checks the reference a fill may carry to an optimistic transition. -/
def fill (optimistic : ApplicationNoteFill V → Check) (s : VmState V R) (now : ℕ)
    (order : ApplicationNoteFill V) : Result (VmState V R) := do
  optimistic order
  require (order.batch = none) "a signed batch member cannot settle individually"
  s.applyFill api order (api.root s) now

def fillBatch (optimistic : ApplicationNoteFill V → Check) (s : VmState V R) (now : ℕ)
    (batch : ApplicationNoteFillBatch V) : Result (VmState V R) := do
  let _ ← batch.statement api
  let beforeRoot ← batch.beforeRoot api
  require (beforeRoot = api.root s) "application batch has a stale parent"
  foldEach (fun candidate order => do
    optimistic order
    candidate.applyFill api order (api.root s) now) s batch.fills

/-- Before any fill the note itself is returned, with only its lock changed. -/
def reissueEscrow (holdId : Id) (record : ApplicationReservationRecord V) :
    Result (VmState V R) := do
  let note ← okOr (s.notes.lookup record.escrowNoteId) "application refund note is absent"
  let unlocked := { note with lockId := 0 }
  s.insertNoteWithConfidentiality api.toNoteApi (unlocked.output (api.noteId unlocked))
    (decide (holdId ∈ s.confidential.reservationValues))

def refundConfidential (holdId : Id) (record : ApplicationReservationRecord V) (statement : Id) :
    Result (VmState V R) := do
  let refund ← okOr (s.confidential.refunds.lookup holdId)
    "confidential remainder recovery data is absent"
  let identity ← okOr (s.confidential.identities.lookup record.binding.assetId)
    "confidential refund asset identity is absent"
  refund.conversion.verify api.toNoteApi record.remaining identity.tag refund.context
  let claim ← refund.conversion.claim api record.binding.assetId holdId .refund
  insertApplicationClaim api.toNoteApi statement
    { s with confidential := { s.confidential with
      claimAssets := s.confidential.claimAssets.insert claim.claimId
        refund.conversion.assetOpening } } claim

def refundRemainder (holdId : Id) (record : ApplicationReservationRecord V) (statement : Id) :
    Result (VmState V R) := do
  let opening ← okOr record.remainingOpening "application remainder recovery data is absent"
  if holdId ∈ s.confidential.reservationValues then
    s.refundConfidential api holdId record statement
  else do
    let claim ← applicationClaim api record.binding.assetId holdId record.remaining .refund opening
    insertApplicationClaim api.toNoteApi statement s claim

def returnReserved (holdId : Id) (record : ApplicationReservationRecord V) (statement : Id) :
    Result (VmState V R) :=
  if record.sequence = 0 then s.reissueEscrow api holdId record
  else s.refundRemainder api holdId record statement

def returnHeld (amount : V) : Result (CreditFacilityRecord V) := do
  let held ← applicationPoint facility.balances.held
  let available ← applicationPoint facility.balances.available
  let sequence ← okOr (checkedSucc facility.sequence) "application facility sequence overflow"
  pure { facility with
    balances := ⟨.point (available + amount), .point (held - amount), facility.balances.outstanding⟩
    sequence }

def releasedRecord (sequence : ℕ) (statement : Id) : ApplicationReservationRecord V :=
  { record with
    status := .released
    remainingCommitment := some record.remaining
    remainingOpening := none
    sequence
    lastReceipt := some statement
    settlementDigest := 0 }

def closeReservation (holdId : Id) (facilityId : Id) (facility : CreditFacilityRecord V)
    (hold : CreditHoldRecord V) (record : ApplicationReservationRecord V)
    (operationId statement : Id) : VmState V R :=
  { s with
    creditFacilities := s.creditFacilities.insert facilityId facility
    creditHolds := s.creditHolds.insert holdId
      { hold with updatedSequence := facility.sequence, status := .released, settlementDigest := 0 }
    applicationReservations := s.applicationReservations.insert holdId record
    operations := s.operations.insert operationId statement }

end

/-- A release stays possible when the facility is suspended or expired: it only
lowers held exposure. -/
def releaseApplication (api : FillApi V R) (s : VmState V R) (now : ℕ)
    (order : ApplicationNoteRelease) : Result (VmState V R) := do
  require (¬(order.beforeRoot ≠ api.root s ∨ order.operationId ∈ s.operations))
    "application release has a stale parent or reused operation"
  let record ← okOr (s.applicationReservations.lookup order.holdId)
    "application release has no reservation"
  require (¬(record.status ≠ .active ∨ record.sequence ≠ order.sequence ∨
      record.headReceipt ≠ order.previousReceipt))
    "application release lost the race with another fill or cancellation"
  let statement ← order.verify api record.binding.scope record.binding.validUntil now
  let hold ← okOr (s.creditHolds.lookup order.holdId) "application release hold is absent"
  require (¬(hold.status ≠ .active ∨ hold.amountCommitment ≠ record.remaining ∨
      hold.facilityId ≠ record.binding.facilityId))
    "application release credit hold differs from its head"
  let amount ← applicationPoint record.remaining
  let facility ← okOr (s.creditFacilities.lookup record.binding.facilityId)
    "application release facility is absent"
  let facility ← returnHeld facility amount
  let s ← s.returnReserved api order.holdId record statement
  let s ← consumeCovenant api.toNoteApi
    { s with confidential := { s.confidential with
      refunds := s.confidential.refunds.erase order.holdId } } record statement
  let sequence ← okOr (checkedSucc record.sequence) "application reserve sequence overflow"
  pure (s.closeReservation order.holdId record.binding.facilityId facility hold
    (releasedRecord record sequence statement) order.operationId statement)

end VmState
end DeFMI
