import DeFMI.Vm.NoteProduct
set_option autoImplicit false

/-!
Certified admission: resident committees, batches whose lanes carry
consecutive sequence numbers of a venue epoch, and the cursor that consumes the
lanes of a batch in order.
-/

namespace DeFMI
open Lib

structure CertifiedAdmissionLane where
  slot : ℕ
  sequence : ℕ
  principalDigest : Id
  ticketId : Id
  claimDigest : Id
  clusterDigest : Id
  orderDigest : Id

structure AdmissionApi (V R : Type) extends VmApi V R where
  committeePlan : AdmissionCommitteePlan → Id
  batchPlan : AdmissionBatchPlan → Id
  slotAdvance : AdmissionSlotAdvance → Id
  admissionLane : List Bytes → List Id → Result CertifiedAdmissionLane
  laneDigest : CertifiedAdmissionLane → Id → ℕ → Result Id
  settlementVerifier : SettlementVerifierRecord → Id

section Plans

variable {V R : Type}

section
variable (api : AdmissionApi V R) (plan : AdmissionBatchPlan)

def AdmissionCommitteePlan.body (plan : AdmissionCommitteePlan) : Check :=
  require (¬(plan.epoch = 0 ∨ plan.validFrom = 0 ∨ plan.validUntil < plan.validFrom ∨
      maxUnixTime < plan.validUntil ∨ plan.nodeKeys.length ≠ 7 ∨ plan.operationId = 0 ∨
      plan.venueId = 0 ∨ 0 ∈ plan.nodeKeys ∨ ¬plan.nodeKeys.Nodup ∨
      ∃ key ∈ plan.nodeKeys, api.nodeKey key = false))
    "admission committee is incomplete, duplicated, or invalid"

def AdmissionCommitteePlan.statement (plan : AdmissionCommitteePlan) : Result Id := do
  plan.body api
  pure (api.committeePlan plan)

def AdmissionBatchPlan.body : Check :=
  require (¬(plan.epoch = 0 ∨ plan.firstSequence = 0 ∨ plan.admissionDigests = [] ∨
      u64Max < plan.firstSequence + (plan.admissionDigests.length - 1) ∨ plan.expiresAt = 0 ∨
      maxUnixTime < plan.expiresAt ∨ 4096 < plan.admissionDigests.length ∨
      0 ∈ plan.admissionDigests ∨ ¬plan.admissionDigests.Nodup ∨ plan.operationId = 0 ∨
      plan.batchId = 0 ∨ plan.venueId = 0 ∨ plan.batchDigest = 0 ∨ plan.orderDigest = 0))
    "admission batch is incomplete, duplicated, or outside its fixed-population bound"

def AdmissionBatchPlan.statement : Result Id := do
  plan.body
  pure (api.batchPlan plan)

def AdmissionSlotAdvance.body (advance : AdmissionSlotAdvance) : Check :=
  require (¬(advance.sequence = 0 ∨ advance.operationId = 0 ∨ advance.batchId = 0 ∨
      advance.admissionDigest = 0)) "admission advance is incomplete"

def AdmissionSlotAdvance.statement (advance : AdmissionSlotAdvance) : Result Id := do
  advance.body
  pure (api.slotAdvance advance)

def AdmissionBatchPlan.record (statement : Id) : RegisteredBatch where
  venueId := plan.venueId
  epoch := plan.epoch
  slot := plan.slot
  batchDigest := plan.batchDigest
  orderDigest := plan.orderDigest
  population := plan.admissionDigests.length
  consumed := 0
  expiresAt := plan.expiresAt
  statement := statement

end

end Plans

namespace VmState

variable {V R : Type} [AddCommGroup V] [Module Scalar V] [DecidableEq V]

section
variable (api : AdmissionApi V R) (s : VmState V R) (timestamp : ℕ) (plan : AdmissionBatchPlan)
  (auth : ReservationAuthorization V)

def committeeRetry (plan : AdmissionCommitteePlan) (statement : Id)
    (existing : RegisteredCommittee) : Result (VmState V R) := do
  require (existing.nodeKeys = plan.nodeKeys ∧ existing.validFrom = plan.validFrom ∧
      existing.validUntil = plan.validUntil ∧ existing.statement = statement ∧
      s.operations.lookup plan.operationId = some statement)
    "admission committee venue and epoch were reused"
  pure s

def addCommittee (plan : AdmissionCommitteePlan) (statement : Id) : Result (VmState V R) := do
  require (plan.operationId ∉ s.operations) "operation identifier was already used"
  pure { s with
    admissionCommittees := s.admissionCommittees.insert (plan.venueId, plan.epoch)
      ⟨⟨plan.nodeKeys, plan.validFrom, plan.validUntil⟩, statement⟩
    operations := s.operations.insert plan.operationId statement }

def registerAdmissionCommittee (plan : AdmissionCommitteePlan) (approval : Approval) :
    Result (VmState V R) := do
  plan.body api
  let statement ← plan.statement api
  s.authorize api.toVmApi approval statement
  require (¬(timestamp < plan.validFrom ∨ plan.validUntil < timestamp))
    "admission committee is not currently valid"
  match s.admissionCommittees.lookup (plan.venueId, plan.epoch) with
  | some existing => s.committeeRetry plan statement existing
  | none => s.addCommittee plan statement

def registerSettlementVerifier (config : SettlementVerifierRecord) (approval : Approval) :
    Result (VmState V R) := do
  config.validate api.toNoteApi
  s.authorize api.toVmApi approval (api.settlementVerifier config)
  require (¬(timestamp < config.validFrom ∨ config.validUntil < timestamp))
    "settlement verifier is not currently valid"
  require ((config.venueId, config.epoch) ∉ s.settlementVerifiers)
    "settlement verifier venue and epoch were reused"
  pure { s with
    settlementVerifiers := s.settlementVerifiers.insert (config.venueId, config.epoch) config }

def ExactRetry (statement : Id) (existing : RegisteredBatch) : Prop :=
  existing.venueId = plan.venueId ∧ existing.epoch = plan.epoch ∧ existing.slot = plan.slot ∧
    existing.batchDigest = plan.batchDigest ∧ existing.orderDigest = plan.orderDigest ∧
    existing.population = plan.admissionDigests.length ∧ existing.expiresAt = plan.expiresAt ∧
    existing.statement = statement ∧
    (∀ l ∈ plan.admissionDigests.zipIdx,
      (s.admissionEntries.lookup (plan.batchId, plan.firstSequence + l.2)).any
        (fun entry => entry.admissionDigest = l.1) = true) ∧
    s.operations.lookup plan.operationId = some statement

instance (s : VmState V R) (plan : AdmissionBatchPlan) (statement : Id)
    (existing : RegisteredBatch) : Decidable (s.ExactRetry plan statement existing) :=
  inferInstanceAs (Decidable (_ ∧ _))

def batchRetry (statement : Id) : Result Bool :=
  match s.admissionBatches.lookup plan.batchId with
  | none => .ok false
  | some existing => do
    require (s.ExactRetry plan statement existing) "admission batch identifier or scope was reused"
    pure true

def inEpoch (venueId : Id) (epoch : ℕ) (batchId : Id) : Bool :=
  (s.admissionBatches.lookup batchId).any (fun b => b.venueId = venueId && b.epoch = epoch)

def lastSequence (venueId : Id) (epoch : ℕ) : ℕ :=
  ((s.admissionEntries.entries.filter (fun e => s.inEpoch venueId epoch e.1.1)).map
    (fun e => e.1.2)).foldr max 0

def checkNewBatch : Check := do
  require (plan.operationId ∉ s.operations) "operation identifier was already used"
  let next ← okOr (checkedSucc (s.lastSequence plan.venueId plan.epoch))
    "admission sequence overflowed"
  require (plan.firstSequence = next) "admission batch is not the next venue sequence"
  require (∀ e ∈ s.admissionBatches.entries, ¬(e.2.venueId = plan.venueId ∧
      e.2.epoch = plan.epoch ∧ e.2.slot = plan.slot ∧ e.2.batchDigest = plan.batchDigest))
    "admission batch identifier or scope was reused"

def certifyLane (nodeKeys : List Id) (lane : List Bytes) : Result CertifiedAdmissionLane := do
  require (lane.length = 7) "admission lane needs exactly seven attestations"
  api.admissionLane lane nodeKeys

def certifyPopulation (nodeKeys : List Id) (admissionLanes : List (List Bytes)) : Check := do
  require (∀ key ∈ nodeKeys, api.nodeKey key = true) "stored admission committee key is invalid"
  require (admissionLanes.length = plan.admissionDigests.length)
    "admission batch differs from its certified population"
  let certified ← mapEach (certifyLane api nodeKeys) admissionLanes
  let ordered := certified.insertionSort
    (fun a b : CertifiedAdmissionLane => a.sequence ≤ b.sequence)
  require (∀ l ∈ ordered.zipIdx,
      l.1.sequence = plan.firstSequence + l.2 ∧ l.1.slot = plan.slot ∧
        l.1.clusterDigest = plan.batchDigest ∧ l.1.orderDigest = plan.orderDigest ∧
        (api.laneDigest l.1 plan.venueId plan.epoch).toOption = plan.admissionDigests[l.2]?)
    "admission batch differs from its seven-node certified population"

def addBatch (statement : Id) : VmState V R :=
  { s with
    admissionBatches := s.admissionBatches.insert plan.batchId (plan.record statement)
    admissionEntries := plan.admissionDigests.zipIdx.foldl
      (fun entries l => entries.insert (plan.batchId, plan.firstSequence + l.2) ⟨l.1, 0⟩)
      s.admissionEntries
    operations := s.operations.insert plan.operationId statement }

def registerAdmissionBatch (admissionLanes : List (List Bytes)) (approval : Approval) :
    Result (VmState V R) := do
  plan.body
  let statement ← plan.statement api
  s.authorize api.toVmApi approval statement
  require (timestamp ≤ plan.expiresAt) "admission batch has expired"
  let exactRetry ← s.batchRetry plan statement
  if exactRetry then .ok () else s.checkNewBatch plan
  let committee ← okOr (s.admissionCommittees.lookup (plan.venueId, plan.epoch))
    "admission batch has no governance-pinned resident committee"
  require (¬(timestamp < committee.validFrom ∨ committee.validUntil < timestamp))
    "admission committee is not currently valid"
  certifyPopulation api plan committee.nodeKeys admissionLanes
  pure (if exactRetry then s else s.addBatch plan statement)

def admissionBatchSequenceWindow (batchId : Id) (batch : RegisteredBatch) : Result (ℕ × ℕ) := do
  let sequences := (s.lanes batchId).map Prod.fst
  require (sequences.length = batch.population) "admission batch population and entries disagree"
  let first ← okOr sequences.head? "admission batch population and entries disagree"
  require (∀ l ∈ sequences.zipIdx, l.1 = first + l.2)
    "admission batch entries are not a contiguous sequence"
  let last ← okOr sequences.getLast? "admission batch population and entries disagree"
  require (first + batch.consumed ≤ u64Max) "admission sequence overflowed"
  pure (first + batch.consumed, last)

def consumeLane (batchId : Id) (batch : RegisteredBatch) (sequence : ℕ)
    (entry : AdmissionEntryRecord) (consumer : Id) : Result (VmState V R) := do
  let consumed ← okOr (checkedSucc batch.consumed) "admission cursor overflowed"
  pure { s with
    admissionEntries := s.admissionEntries.insert (batchId, sequence)
      { entry with consumedBy := consumer }
    admissionBatches := s.admissionBatches.insert batchId { batch with consumed } }

def advanceAdmission (advance : AdmissionSlotAdvance) (approval : Approval) :
    Result (VmState V R) := do
  advance.body
  let statement ← advance.statement api
  s.authorize api.toVmApi approval statement
  require (advance.operationId ∉ s.operations) "operation identifier was already used"
  let batch ← okOr (s.admissionBatches.lookup advance.batchId)
    "admission advance names an unknown batch"
  require (timestamp ≤ batch.expiresAt) "admission batch has expired"
  let (next, last) ← s.admissionBatchSequenceWindow advance.batchId batch
  require (advance.sequence = next ∧ advance.sequence ≤ last)
    "admission lane is not the next fixed-population sequence"
  let entry ← okOr (s.admissionEntries.lookup (advance.batchId, advance.sequence))
    "admission plan omits its next sequence"
  require (entry.admissionDigest = advance.admissionDigest ∧ entry.consumedBy = 0)
    "admission lane differs from the plan or was already consumed"
  let s ← s.consumeLane advance.batchId batch advance.sequence entry advance.operationId
  pure { s with operations := s.operations.insert advance.operationId statement }

/-- The lane a Taker reservation is admitted on; a Maker reservation has none. -/
def takerLane : Result (RegisteredBatch × AdmissionEntryRecord) := do
  let batch ← okOr (s.admissionBatches.lookup auth.admissionBatchId)
    "Taker reserve has no registered admission batch"
  require (¬(batch.expiresAt < timestamp ∨ auth.admissionEpoch ≠ batch.epoch ∨
      auth.admissionSlot ≠ batch.slot)) "Taker admission is expired or differs from its batch"
  let expected ← api.laneDigest ⟨auth.admissionSlot, auth.admissionSequence, 0,
    auth.admissionTicketId, auth.mandateDigest, batch.batchDigest, batch.orderDigest⟩
    batch.venueId batch.epoch
  let (next, last) ← s.admissionBatchSequenceWindow auth.admissionBatchId batch
  require (expected = auth.admissionReceiptDigest ∧ auth.admissionSequence = next ∧
      auth.admissionSequence ≤ last) "Taker mandate is not the next certified admission claim"
  let entry ← okOr (s.admissionEntries.lookup (auth.admissionBatchId, auth.admissionSequence))
    "admission plan omits the Taker lane"
  require (entry.admissionDigest = auth.admissionReceiptDigest ∧ entry.consumedBy = 0)
    "Taker admission lane differs or was already consumed"
  pure (batch, entry)

def takerAdmission : Result (Option (RegisteredBatch × AdmissionEntryRecord)) :=
  match auth.role with
  | .maker => .ok none
  | .taker => (s.takerLane api timestamp auth).map some

def consumeAdmission (consumer : Id) :
    Option (RegisteredBatch × AdmissionEntryRecord) → Result (VmState V R)
  | none => .ok s
  | some lane =>
    s.consumeLane auth.admissionBatchId lane.1 auth.admissionSequence lane.2 consumer

end

end VmState
end DeFMI
