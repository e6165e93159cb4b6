import DeFMI.Ledger
import Mathlib.Data.FinEnum
set_option autoImplicit false

/-!
The cross-domain book: each ledger keeps one leg of a settlement, arms it on a
receipt that the remote leg was prepared, and then claims it with the release
witness or, if it was never armed, refunds it.
-/

namespace DeFMI
open Lib

def zeroWord : Bytes := List.replicate 32 0

structure Domain where
  networkId : ℕ
  chainId : Bytes
  defmiId : Bytes
  deriving DecidableEq

inductive LegStatus where
  | prepared
  | armed
  | claimed
  | refunded
  deriving DecidableEq

inductive ReceiptEvent where
  | prepared
  | claimed
  deriving DecidableEq

inductive CrossDomainError where
  | sameDomain
  | invalidDeadlines
  | missingCommitment
  | invalidCommittee
  | arithmeticOverflow
  | duplicateLeg
  | unknownLeg
  | invalidTransition
  | armDeadlinePassed
  | refundTooEarly
  | receiptOutsideWindow
  | wrongReceiptBinding
  | invalidReceipt
  | receiptAlreadyConsumed
  | wrongCommittee
  | unknownSigner
  | duplicateSigner
  | invalidSignature
  | insufficientQuorum
  | invalidReleaseWitness
  | invalidStoredState

abbrev CrossResult := Except CrossDomainError

def CrossDomainError.text : CrossDomainError → String
  | .sameDomain => "source and destination domains must differ"
  | .invalidDeadlines => "deadlines must satisfy arm < claim < refund"
  | .missingCommitment => "cross-domain prepare contains a zero commitment"
  | .invalidCommittee => "invalid finality committee"
  | .arithmeticOverflow => "arithmetic overflow"
  | .duplicateLeg => "leg already exists"
  | .unknownLeg => "unknown leg"
  | .invalidTransition => "invalid cross-domain state transition"
  | .armDeadlinePassed => "arm deadline has passed"
  | .refundTooEarly => "refund is not yet available"
  | .receiptOutsideWindow => "receipt is outside the accepted time window"
  | .wrongReceiptBinding => "receipt is not bound to this source, destination and leg pair"
  | .invalidReceipt => "invalid finality receipt"
  | .receiptAlreadyConsumed => "finality receipt was already consumed"
  | .wrongCommittee => "receipt committee domain or epoch does not match"
  | .unknownSigner => "receipt contains an unknown signer"
  | .duplicateSigner => "receipt contains a duplicate signer"
  | .invalidSignature => "receipt signature is invalid"
  | .insufficientQuorum => "receipt does not have finality quorum"
  | .invalidReleaseWitness => "release witness does not satisfy the committed condition"
  | .invalidStoredState => "stored cross-domain state violates its invariants"

structure PrepareLeg where
  localDomain : Domain
  remoteDomain : Domain
  localLegId : Bytes
  expectedRemotePrepareBinding : Bytes
  expectedRemoteClaimBinding : Bytes
  ownerCommitment : Bytes
  escrowCommitment : Bytes
  destinationCommitment : Bytes
  assetCommitment : Bytes
  amountCommitment : Bytes
  localInstructionDigest : Bytes
  localRelationProofDigest : Bytes
  reserveTransferDigest : Bytes
  claimTransferDigest : Bytes
  refundTransferDigest : Bytes
  armDeadline : ℕ
  claimDeadline : ℕ
  refundAfter : ℕ
  releaseCondition : Bytes

def PrepareLeg.commitments (p : PrepareLeg) : List Bytes :=
  [p.ownerCommitment, p.escrowCommitment, p.destinationCommitment, p.assetCommitment,
    p.amountCommitment, p.localInstructionDigest, p.localRelationProofDigest,
    p.reserveTransferDigest, p.claimTransferDigest, p.refundTransferDigest, p.releaseCondition,
    p.expectedRemotePrepareBinding, p.expectedRemoteClaimBinding]

def PrepareLeg.validate (p : PrepareLeg) : CrossResult Unit := do
  require (p.localDomain ≠ p.remoteDomain) .sameDomain
  require (p.armDeadline < p.claimDeadline ∧ p.claimDeadline < p.refundAfter) .invalidDeadlines
  require (∀ value ∈ p.commitments, value ≠ zeroWord) .missingCommitment

structure LegRecord where
  prepare : PrepareLeg
  status : LegStatus
  preparedAt : ℕ
  armedAt : Option ℕ
  claimedAt : Option ℕ
  refundedAt : Option ℕ
  remotePrepareReceipt : Option Bytes
  remoteClaimReceipt : Option Bytes

inductive Suite where
  | ed25519MlDsa65
  | other (id : ℕ)
  deriving DecidableEq

inductive KeyPurpose where
  | attestation
  | other (id : ℕ)
  deriving DecidableEq

/-- A key as the signature library keeps it; its validity period is opaque. -/
structure KeyRecord where
  participantId : Bytes
  keyId : Bytes
  suite : Suite
  purpose : KeyPurpose
  publicKey : Bytes
  period : Bytes

structure CommitteeMember where
  memberId : Bytes
  key : KeyRecord
  weight : ℕ

structure Committee where
  domain : Domain
  epoch : ℕ
  quorumWeight : ℕ
  members : List CommitteeMember

structure ReceiptBody where
  suite : Suite
  committeeDigest : Bytes
  sourceDomain : Domain
  destinationDomain : Domain
  destinationLegId : Bytes
  eventBinding : Bytes
  event : ReceiptEvent
  sourceStateRoot : Bytes
  sourceBlockId : Bytes
  sourceHeight : ℕ
  finalisedAt : ℕ
  validatorEpoch : ℕ
  deriving DecidableEq

structure ReceiptSignature where
  memberId : Bytes
  signature : Bytes

structure FinalityReceipt extends ReceiptBody where
  signatures : List ReceiptSignature

structure FinalityContext where
  committeeDigest : Bytes
  destinationDomain : Domain
  destinationLegId : Bytes
  eventBinding : Bytes
  sourceStateRoot : Bytes
  sourceBlockId : Bytes
  sourceHeight : ℕ
  finalisedAt : ℕ
  validatorEpoch : ℕ

structure CrossCrypto where
  keyValid : KeyRecord → Bool
  keyValidAt : KeyRecord → ℕ → Bool
  pointDecodes : Bytes → Bool
  verify : Bytes → ReceiptBody → Bytes → Bool
  committeeDigest : Committee → Bytes
  receiptDigest : FinalityReceipt → Bytes
  recordDigest : LegRecord → Bytes
  hashReleaseWitness : Bytes → Bytes

namespace Committee

structure Seen where
  total : ℕ
  previous : Option Bytes
  classical : List Bytes
  pq : List Bytes
  participants : List Bytes
  ids : List Bytes

def validateMember (c : CrossCrypto) (seen : Seen) (member : CommitteeMember) :
    CrossResult Seen := do
  let key := member.key
  let ed := key.publicKey.take 32
  let pq := key.publicKey.drop 32
  require ((∀ id, seen.previous = some id → id < member.memberId) ∧ member.memberId ≠ zeroWord ∧
      member.weight ≠ 0 ∧ c.keyValid key = true ∧ key.suite = .ed25519MlDsa65 ∧
      key.purpose = .attestation ∧ key.participantId ∉ seen.participants ∧ key.keyId ∉ seen.ids)
    .invalidCommittee
  require (ed ≠ zeroWord ∧ c.pointDecodes ed = true ∧ ¬ (∀ byte ∈ pq, byte = 0) ∧
    ed ∉ seen.classical ∧ pq ∉ seen.pq) .invalidCommittee
  let total ← okOr (checkedAdd seen.total member.weight) .arithmeticOverflow
  pure ⟨total, some member.memberId, ed :: seen.classical, pq :: seen.pq,
    key.participantId :: seen.participants, key.keyId :: seen.ids⟩

def validate (c : CrossCrypto) (committee : Committee) : CrossResult Unit := do
  require (committee.quorumWeight ≠ 0 ∧ committee.epoch ≠ 0 ∧ committee.members ≠ [] ∧
    committee.members.length ≤ 128) .invalidCommittee
  let seen ← committee.members.foldlM (validateMember c) ⟨0, none, [], [], [], []⟩
  require (committee.quorumWeight ≤ seen.total) .invalidCommittee

def digest (c : CrossCrypto) (committee : Committee) : CrossResult Bytes := do
  committee.validate c
  pure (c.committeeDigest committee)

end Committee

namespace FinalityReceipt

def countApproval (c : CrossCrypto) (receipt : FinalityReceipt) (committee : Committee) (now : ℕ)
    (acc : List Bytes × ℕ) (approval : ReceiptSignature) : CrossResult (List Bytes × ℕ) := do
  require (approval.memberId ∉ acc.1) .duplicateSigner
  let member ← okOr (committee.members.find? (fun m => m.memberId = approval.memberId))
    .unknownSigner
  require (c.keyValidAt member.key now = true) .invalidSignature
  require (c.verify member.key.publicKey receipt.toReceiptBody approval.signature = true)
    .invalidSignature
  let weight ← okOr (checkedAdd acc.2 member.weight) .arithmeticOverflow
  pure (approval.memberId :: acc.1, weight)

def verify (c : CrossCrypto) (receipt : FinalityReceipt) (committee : Committee) (now : ℕ) :
    CrossResult Unit := do
  committee.validate c
  let digest ← committee.digest c
  require (committee.domain = receipt.sourceDomain ∧ committee.epoch = receipt.validatorEpoch ∧
    receipt.suite = .ed25519MlDsa65 ∧ receipt.committeeDigest = digest) .wrongCommittee
  require (receipt.finalisedAt ≤ now ∧ receipt.signatures.length ≤ committee.members.length)
    .invalidReceipt
  let counted ← receipt.signatures.foldlM (countApproval c receipt committee now) ([], 0)
  require (committee.quorumWeight ≤ counted.2) .insufficientQuorum

end FinalityReceipt

def PrepareLeg.expectedBinding (p : PrepareLeg) : ReceiptEvent → Bytes
  | .prepared => p.expectedRemotePrepareBinding
  | .claimed => p.expectedRemoteClaimBinding

def validateReceiptBinding (record : LegRecord) (receipt : FinalityReceipt)
    (expected : ReceiptEvent) : CrossResult Unit := do
  require (receipt.sourceDomain = record.prepare.remoteDomain ∧
      receipt.destinationDomain = record.prepare.localDomain ∧
      receipt.destinationLegId = record.prepare.localLegId ∧ receipt.event = expected)
    .wrongReceiptBinding
  require (receipt.eventBinding = record.prepare.expectedBinding expected ∧
      receipt.sourceStateRoot ≠ zeroWord ∧ receipt.sourceBlockId ≠ zeroWord ∧
      receipt.sourceHeight ≠ 0 ∧ receipt.finalisedAt ≠ 0 ∧ receipt.validatorEpoch ≠ 0)
    .invalidReceipt

structure CrossDomainBook where
  legs : Table Bytes LegRecord
  consumedReceipts : Finset Bytes

namespace CrossDomainBook

def empty : CrossDomainBook := ⟨∅, ∅⟩

def recordShape (record : LegRecord) : Bool :=
  match record.status with
  | .prepared => record.armedAt.isNone && record.claimedAt.isNone && record.refundedAt.isNone &&
      record.remotePrepareReceipt.isNone && record.remoteClaimReceipt.isNone
  | .armed => record.armedAt.isSome && record.claimedAt.isNone && record.refundedAt.isNone &&
      record.remotePrepareReceipt.isSome && record.remoteClaimReceipt.isNone
  | .claimed => record.armedAt.isSome && record.claimedAt.isSome && record.refundedAt.isNone &&
      record.remotePrepareReceipt.isSome
  | .refunded => record.armedAt.isNone && record.claimedAt.isNone && record.refundedAt.isSome &&
      record.remotePrepareReceipt.isNone && record.remoteClaimReceipt.isNone

def validateRecord (book : CrossDomainBook)
    (e : Sigma fun _ : Bytes => LegRecord) : CrossResult Unit := do
  e.2.prepare.validate
  require (¬(e.1 ≠ e.2.prepare.localLegId ∨ e.2.prepare.armDeadline < e.2.preparedAt))
    .invalidStoredState
  require (recordShape e.2 = true) .invalidStoredState
  require ((∀ d ∈ e.2.remotePrepareReceipt, d ∈ book.consumedReceipts) ∧
      ∀ d ∈ e.2.remoteClaimReceipt, d ∈ book.consumedReceipts) .invalidStoredState

def validate (book : CrossDomainBook) : CrossResult Unit :=
  forEach book.validateRecord book.legs.entries

def prepare (c : CrossCrypto) (book : CrossDomainBook) (p : PrepareLeg) (now : ℕ) :
    CrossResult (CrossDomainBook × Bytes) := do
  p.validate
  require (now ≤ p.armDeadline) .armDeadlinePassed
  require (p.localLegId ∉ book.legs) .duplicateLeg
  let record : LegRecord := ⟨p, .prepared, now, none, none, none, none, none⟩
  pure ({ book with legs := book.legs.insert p.localLegId record }, c.recordDigest record)

def arm (c : CrossCrypto) (book : CrossDomainBook) (localLegId : Bytes)
    (receipt : FinalityReceipt) (committee : Committee) (now : ℕ) :
    CrossResult (CrossDomainBook × Bytes) := do
  let digest := c.receiptDigest receipt
  require (digest ∉ book.consumedReceipts) .receiptAlreadyConsumed
  let record ← okOr (book.legs.lookup localLegId) .unknownLeg
  require (record.status = .prepared) .invalidTransition
  require (now ≤ record.prepare.armDeadline) .armDeadlinePassed
  validateReceiptBinding record receipt .prepared
  require (receipt.finalisedAt ≤ record.prepare.armDeadline ∧ receipt.finalisedAt ≤ now)
    .receiptOutsideWindow
  receipt.verify c committee now
  let armed := { record with
    status := .armed, armedAt := some now, remotePrepareReceipt := some digest }
  pure (⟨book.legs.insert localLegId armed, insert digest book.consumedReceipts⟩,
    c.recordDigest armed)

def claim (c : CrossCrypto) (book : CrossDomainBook) (localLegId witness : Bytes) (now : ℕ) :
    CrossResult (CrossDomainBook × Bytes) := do
  let record ← okOr (book.legs.lookup localLegId) .unknownLeg
  require (record.status = .armed) .invalidTransition
  require (c.hashReleaseWitness witness = record.prepare.releaseCondition) .invalidReleaseWitness
  let claimed := { record with status := .claimed, claimedAt := some now }
  pure ({ book with legs := book.legs.insert localLegId claimed }, c.recordDigest claimed)

def observeRemoteClaim (c : CrossCrypto) (book : CrossDomainBook) (localLegId : Bytes)
    (receipt : FinalityReceipt) (committee : Committee) (now : ℕ) :
    CrossResult (CrossDomainBook × Bytes) := do
  let digest := c.receiptDigest receipt
  require (digest ∉ book.consumedReceipts) .receiptAlreadyConsumed
  let record ← okOr (book.legs.lookup localLegId) .unknownLeg
  require (record.status = .claimed) .invalidTransition
  validateReceiptBinding record receipt .claimed
  require (receipt.finalisedAt ≤ now) .receiptOutsideWindow
  receipt.verify c committee now
  let observed := { record with remoteClaimReceipt := some digest }
  pure (⟨book.legs.insert localLegId observed, insert digest book.consumedReceipts⟩,
    c.recordDigest observed)

def refund (c : CrossCrypto) (book : CrossDomainBook) (localLegId : Bytes) (now : ℕ) :
    CrossResult (CrossDomainBook × Bytes) := do
  let record ← okOr (book.legs.lookup localLegId) .unknownLeg
  require (record.status = .prepared) .invalidTransition
  require (record.prepare.refundAfter ≤ now) .refundTooEarly
  let refunded := { record with status := .refunded, refundedAt := some now }
  pure ({ book with legs := book.legs.insert localLegId refunded }, c.recordDigest refunded)

/-- A prepared event stays provable after arming and claiming, not after a refund. -/
def statusMatches : ReceiptEvent → LegStatus → Bool
  | .prepared, .refunded => false
  | .prepared, _ => true
  | .claimed, status => status = .claimed

def receiptFor (book : CrossDomainBook) (localLegId : Bytes) (event : ReceiptEvent)
    (context : FinalityContext) : CrossResult FinalityReceipt := do
  let record ← okOr (book.legs.lookup localLegId) .unknownLeg
  require (statusMatches event record.status = true ∧
    context.destinationDomain = record.prepare.remoteDomain) .invalidReceipt
  require (context.eventBinding ≠ zeroWord ∧ context.destinationLegId ≠ zeroWord ∧
      context.sourceStateRoot ≠ zeroWord ∧ context.sourceBlockId ≠ zeroWord ∧
      context.sourceHeight ≠ 0 ∧ context.finalisedAt ≠ 0 ∧ context.validatorEpoch ≠ 0 ∧
      context.committeeDigest ≠ zeroWord) .invalidReceipt
  pure ⟨⟨.ed25519MlDsa65, context.committeeDigest, record.prepare.localDomain,
    context.destinationDomain, context.destinationLegId, context.eventBinding, event,
    context.sourceStateRoot, context.sourceBlockId, context.sourceHeight, context.finalisedAt,
    context.validatorEpoch⟩, []⟩

inductive Advance : Option LegRecord → LegRecord → Prop where
  | prepare (p : PrepareLeg) (now : ℕ) :
      Advance none ⟨p, .prepared, now, none, none, none, none, none⟩
  | arm (record : LegRecord) (hs : record.status = .prepared) (now : ℕ) (digest : Bytes) :
      Advance (some record) { record with
        status := .armed, armedAt := some now, remotePrepareReceipt := some digest }
  | claim (record : LegRecord) (hs : record.status = .armed) (now : ℕ) :
      Advance (some record) { record with status := .claimed, claimedAt := some now }
  | observe (record : LegRecord) (hs : record.status = .claimed) (digest : Bytes) :
      Advance (some record) { record with remoteClaimReceipt := some digest }
  | refund (record : LegRecord) (hs : record.status = .prepared) (now : ℕ) :
      Advance (some record) { record with status := .refunded, refundedAt := some now }

variable {c : CrossCrypto} {book book' : CrossDomainBook} {id digest : Bytes} {now : ℕ}
  {receipt : FinalityReceipt} {committee : Committee}

theorem prepare_ok {p : PrepareLeg} (h : book.prepare c p now = .ok (book', digest)) :
    p.localDomain ≠ p.remoteDomain ∧ book.legs.lookup p.localLegId = none ∧
      ∃ record, Advance none record ∧ record.prepare = p ∧ record.status = .prepared ∧
        book'.legs = book.legs.insert p.localLegId record := by
  simp only [prepare, PrepareLeg.validate, ok_iff, Prod.mk.injEq] at h
  obtain ⟨⟨hdomain, _⟩, _, hfresh, rfl, _⟩ := h
  exact ⟨hdomain, AList.lookup_eq_none.mpr hfresh, _, .prepare p now, rfl, rfl, rfl⟩

theorem arm_ok (h : book.arm c id receipt committee now = .ok (book', digest)) :
    ∃ record record', book.legs.lookup id = some record ∧ Advance (some record) record' ∧
      receipt.sourceDomain = record.prepare.remoteDomain ∧ record'.prepare = record.prepare ∧
      record'.status = .armed ∧ book'.legs = book.legs.insert id record' := by
  simp only [arm, validateReceiptBinding, ok_iff, Prod.mk.injEq] at h
  obtain ⟨_, record, hrecord, hs, _, ⟨hbinding, _⟩, _, _, rfl, _⟩ := h
  exact ⟨record, _, hrecord, .arm record hs now _, hbinding.1, rfl, rfl, rfl⟩

theorem claim_ok {witness : Bytes} (h : book.claim c id witness now = .ok (book', digest)) :
    ∃ record record', book.legs.lookup id = some record ∧ Advance (some record) record' ∧
      record'.prepare = record.prepare ∧ record'.status = .claimed ∧
      book'.legs = book.legs.insert id record' := by
  simp only [claim, ok_iff, Prod.mk.injEq] at h
  obtain ⟨record, hrecord, hs, _, rfl, _⟩ := h
  exact ⟨record, _, hrecord, .claim record hs now, rfl, rfl, rfl⟩

theorem observeRemoteClaim_ok
    (h : book.observeRemoteClaim c id receipt committee now = .ok (book', digest)) :
    ∃ record record', book.legs.lookup id = some record ∧ Advance (some record) record' ∧
      record'.prepare = record.prepare ∧ record.status = .claimed ∧
      record'.status = record.status ∧ book'.legs = book.legs.insert id record' := by
  simp only [observeRemoteClaim, ok_iff, Prod.mk.injEq] at h
  obtain ⟨_, record, hrecord, hs, _, _, _, rfl, _⟩ := h
  exact ⟨record, _, hrecord, .observe record hs _, rfl, hs, rfl, rfl⟩

theorem refund_ok (h : book.refund c id now = .ok (book', digest)) :
    ∃ record record', book.legs.lookup id = some record ∧ Advance (some record) record' ∧
      record'.prepare = record.prepare ∧ record'.status = .refunded ∧
      book'.legs = book.legs.insert id record' := by
  simp only [refund, ok_iff, Prod.mk.injEq] at h
  obtain ⟨record, hrecord, hs, _, rfl, _⟩ := h
  exact ⟨record, _, hrecord, .refund record hs now, rfl, rfl, rfl⟩

theorem refund_of_prepared (c : CrossCrypto) {record : LegRecord}
    (hrecord : book.legs.lookup id = some record)
    (hs : record.status = .prepared) (hnow : record.prepare.refundAfter ≤ now) :
    ∃ book' digest, book.refund c id now = .ok (book', digest) := by
  let refunded := { record with status := .refunded, refundedAt := some now }
  refine ⟨{ book with legs := book.legs.insert id refunded }, c.recordDigest refunded, ?_⟩
  simp only [refund, ok_iff]
  exact ⟨record, hrecord, hs, hnow, rfl⟩

theorem receiptFor_ok {event : ReceiptEvent} {context : FinalityContext}
    (h : book.receiptFor id event context = .ok receipt) :
    ∃ record, book.legs.lookup id = some record ∧
      receipt.sourceDomain = record.prepare.localDomain := by
  simp only [receiptFor, ok_iff] at h
  obtain ⟨record, hrecord, _, _, rfl⟩ := h
  exact ⟨record, hrecord, rfl⟩

end CrossDomainBook
end DeFMI
