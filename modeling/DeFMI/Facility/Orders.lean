import DeFMI.Records
import DeFMI.ThresholdDvp
set_option autoImplicit false

/-!
What the durable facility is asked to do: grants, amendments and controls of a
line, the two relation proofs, and the orders of the account product path with
the checks their canonical bodies make.
-/

namespace DeFMI
open Lib

/-- Initial state of a guarantee facility: fully available and unused. -/
structure CreditFacilityGrant (V : Type) where
  operationId : Id
  facilityId : Id
  guarantorId : Id
  beneficiaryCommitment : Id
  railAssetId : Id
  capCommitment : CompressedPoint V
  balances : Balances (CompressedPoint V)
  collateralCommitment : CompressedPoint V
  riskPolicyDigest : Id
  relationProofDigest : Id
  validFrom : ℕ
  validUntil : ℕ
  nonce : Id
  guarantorSignature : Bytes

inductive CreditControlAction where
  | activate
  | freeze
  | close
  | default

def CreditControlAction.status : CreditControlAction → CreditFacilityStatus
  | .activate => .active
  | .freeze => .frozen
  | .close => .closed
  | .default => .defaulted

structure CreditFacilityControl where
  operationId : Id
  facilityId : Id
  action : CreditControlAction
  beforeSequence : ℕ
  effectiveAt : ℕ
  reasonDigest : Id
  guarantorSignature : Bytes

inductive CreditAmendmentMode where
  | withinLimit
  | overLimit
  deriving DecidableEq

/-- Replaces cap, collateral, policy or expiry; exposure stays as it is. -/
structure CreditFacilityAmendment (V : Type) where
  operationId : Id
  facilityId : Id
  mode : CreditAmendmentMode
  beforeCapCommitment : CompressedPoint V
  afterCapCommitment : CompressedPoint V
  before : Balances (CompressedPoint V)
  afterAvailableCommitment : CompressedPoint V
  beforeOverlimitCommitment : CompressedPoint V
  afterOverlimitCommitment : CompressedPoint V
  beforeCollateralCommitment : CompressedPoint V
  afterCollateralCommitment : CompressedPoint V
  beforeRiskPolicyDigest : Id
  afterRiskPolicyDigest : Id
  beforeValidUntil : ℕ
  afterValidUntil : ℕ
  beforeSequence : ℕ
  effectiveAt : ℕ
  reasonDigest : Id
  relationProofDigest : Id
  guarantorSignature : Bytes

/-- Transcript label and context of a facility range proof. -/
abbrev RelationContext := String × Id

structure CreditFacilityRelationProof where
  stateRange : RangeProof RelationContext
  splitRange : RangeProof RelationContext

structure CreditFacilityAmendmentProof where
  balanceRange : RangeProof RelationContext
  supportRange : RangeProof RelationContext

structure StateLeg (V : Type) where
  handle : Id
  assetId : Id
  beforeCommitment : CompressedPoint V
  afterCommitment : CompressedPoint V
  beforeSequence : ℕ

structure SettlementOrder (V : Type) where
  operationId : Id
  nullifier : Id
  deadline : ℕ
  paymentInstructionDigest : Id
  proofDigest : Id
  marketStatementDigest : Id
  legs : List (StateLeg V)

structure ReservationEscrow (V : Type) where
  sourceHandle : Id
  escrowHandle : Id
  assetId : Id
  amountCommitment : CompressedPoint V
  sourceBeforeCommitment : CompressedPoint V
  sourceAfterCommitment : CompressedPoint V
  sourceBeforeSequence : ℕ
  proofDigest : Id

structure ProductReleaseOrder (V : Type) where
  transition : CreditFacilityTransition V
  role : ReservationRole
  reserveReceiptDigest : Id
  typedInstructionDigest : Id
  releaseNullifier : Id
  releaseDeadline : ℕ
  assetId : Id
  assetLinkProofDigest : Id
  refundLeg : StateLeg V

structure ProductSettlementOrder (V : Type) extends ProductTerms V where
  settlement : SettlementOrder V

structure ProductSettlementBatch where
  batchId : Id
  venueId : Id
  defmiId : Id
  admissionEpoch : ℕ
  members : List ProductSettlementBatchMember

structure FacilityDigests (V : Type) extends CreditDigests V where
  grant : CreditFacilityGrant V → Id
  control : CreditFacilityControl → Id
  relationContext : CreditFacilityTransition V → Id
  relationProof : CreditFacilityRelationProof → Id
  amendmentContext : CreditFacilityAmendment V → Id
  amendment : CreditFacilityAmendment V → Id
  amendmentProof : CreditFacilityAmendmentProof → Id
  escrow : ReservationEscrow V → Id
  settlement : SettlementOrder V → Id
  productRelease : ProductReleaseOrder V → Id
  productSettlement : ProductSettlementOrder V → Id
  productBatch : ProductSettlementBatch → Id

section Bodies

variable {V : Type} [AddCommGroup V] [DecidableEq V]

namespace CreditFacilityGrant

def unsignedBody (g : CreditFacilityGrant V) : Check := do
  require (¬(g.validFrom = 0 ∨ g.validUntil < g.validFrom ∨ maxUnixTime < g.validUntil))
    "credit facility validity interval is invalid"
  require (¬(g.balances.available ≠ g.capCommitment ∨ g.balances.held ≠ 0 ∨
      g.balances.outstanding ≠ 0)) "new credit facility must start fully available and unused"
  nonzero g.operationId "operation_id"
  nonzero g.facilityId "facility_id"
  nonzero g.guarantorId "guarantor_id"
  nonzero g.beneficiaryCommitment "beneficiary_commitment"
  nonzero g.railAssetId "rail_asset_id"
  nonzero g.capCommitment "cap_commitment"
  nonzero g.balances.available "available_commitment"
  nonzero g.collateralCommitment "collateral_commitment"
  nonzero g.riskPolicyDigest "risk_policy_digest"
  nonzero g.relationProofDigest "relation_proof_digest"
  nonzero g.nonce "nonce"

def statement (digests : FacilityDigests V) (g : CreditFacilityGrant V) : Result Id := do
  g.unsignedBody
  pure (digests.grant g)

end CreditFacilityGrant

namespace CreditFacilityControl

def unsignedBody (c : CreditFacilityControl) : Check := do
  require (¬(c.beforeSequence = u64Max ∨ c.effectiveAt = 0 ∨ maxUnixTime < c.effectiveAt))
    "credit control time or sequence is invalid"
  nonzero c.operationId "operation_id"
  nonzero c.facilityId "facility_id"
  nonzero c.reasonDigest "reason_digest"

def statement (digests : FacilityDigests V) (c : CreditFacilityControl) : Result Id := do
  c.unsignedBody
  pure (digests.control c)

end CreditFacilityControl

/-- The relation context leaves out the digest of the proof made for it. -/
def CreditFacilityTransition.relationContext (digests : FacilityDigests V)
    (t : CreditFacilityTransition V) : Result Id := do
  nonzero t.operationId "operation_id"
  nonzero t.facilityId "facility_id"
  nonzero t.holdId "hold_id"
  nonzero t.queryCommitment "query_commitment"
  nonzero t.amountCommitment "amount_commitment"
  pure (digests.relationContext { t with relationProofDigest := 0 })

namespace CreditFacilityAmendment

variable (digests : FacilityDigests V) (a : CreditFacilityAmendment V)

def relationContext : Result Id := do
  nonzero a.operationId "operation_id"
  nonzero a.facilityId "facility_id"
  nonzero a.beforeCapCommitment "before_cap_commitment"
  nonzero a.afterCapCommitment "after_cap_commitment"
  nonzero a.beforeCollateralCommitment "before_collateral_commitment"
  nonzero a.afterCollateralCommitment "after_collateral_commitment"
  nonzero a.beforeRiskPolicyDigest "before_risk_policy_digest"
  nonzero a.afterRiskPolicyDigest "after_risk_policy_digest"
  nonzero a.reasonDigest "reason_digest"
  pure (digests.amendmentContext { a with relationProofDigest := 0 })

def modeShape : Check :=
  match a.mode with
  | .withinLimit =>
    require (a.afterOverlimitCommitment = 0)
      "within-limit amendment must clear the over-limit balance"
  | .overLimit =>
    require (¬(a.afterAvailableCommitment ≠ 0 ∨ a.afterOverlimitCommitment = 0))
      "over-limit amendment must expose no usable availability and record the excess"

def unsignedBody : Check := do
  require (¬(a.beforeSequence = u64Max ∨ a.effectiveAt = 0 ∨ maxUnixTime < a.effectiveAt ∨
      maxUnixTime < a.beforeValidUntil ∨ a.afterValidUntil < a.effectiveAt ∨
      maxUnixTime < a.afterValidUntil)) "credit amendment time or sequence is invalid"
  a.modeShape
  let _ ← a.relationContext digests
  nonzero a.relationProofDigest "relation_proof_digest"

def statement : Result Id := do
  a.unsignedBody digests
  pure (digests.amendment a)

end CreditFacilityAmendment

def StateLeg.body (l : StateLeg V) : Check := do
  nonzero l.handle "handle"
  nonzero l.assetId "asset_id"
  nonzero l.beforeCommitment "before_commitment"
  nonzero l.afterCommitment "after_commitment"

namespace SettlementOrder

def body (o : SettlementOrder V) : Check := do
  require (¬(o.deadline = 0 ∨ maxUnixTime < o.deadline ∨ o.legs = []))
    "settlement needs a positive deadline and at least one leg"
  require (o.legs.map StateLeg.handle).Nodup "a settlement cannot update one handle twice"
  nonzero o.operationId "operation_id"
  nonzero o.nullifier "nullifier"
  nonzero o.paymentInstructionDigest "payment_instruction_digest"
  nonzero o.proofDigest "proof_digest"
  nonzero o.marketStatementDigest "market_statement_digest"
  forEach StateLeg.body o.legs

def statement (digests : FacilityDigests V) (o : SettlementOrder V) : Result Id := do
  o.body
  pure (digests.settlement o)

theorem body_ok {o : SettlementOrder V} {u : Unit} (h : o.body = .ok u) :
    (o.legs.map StateLeg.handle).Nodup := by
  simp only [body, ok_iff] at h
  obtain ⟨_, hnodup, _⟩ := h
  exact hnodup

end SettlementOrder

def ReservationEscrow.statement (digests : FacilityDigests V) (e : ReservationEscrow V) :
    Result Id := do
  require (e.sourceBeforeSequence ≠ u64Max) "reservation escrow source sequence overflows"
  nonzero e.sourceHandle "source_handle"
  nonzero e.escrowHandle "escrow_handle"
  nonzero e.assetId "asset_id"
  nonzero e.amountCommitment "amount_commitment"
  nonzero e.proofDigest "proof_digest"
  pure (digests.escrow e)

namespace ProductReleaseOrder

def body (o : ProductReleaseOrder V) : Check := do
  require (¬(o.transition.kind ≠ .release ∨ o.transition.operationId = 0 ∨
      o.releaseDeadline ≤ o.transition.expiresAt ∨ maxUnixTime < o.releaseDeadline ∨
      o.refundLeg.assetId ≠ o.assetId))
    "product release has an invalid transition, deadline, or asset leg"
  o.transition.body
  nonzero o.reserveReceiptDigest "reserve_receipt_digest"
  nonzero o.typedInstructionDigest "typed_instruction_digest"
  nonzero o.releaseNullifier "release_nullifier"
  nonzero o.assetId "asset_id"
  nonzero o.assetLinkProofDigest "asset_link_proof_digest"
  o.refundLeg.body

def statement (digests : FacilityDigests V) (o : ProductReleaseOrder V) : Result Id := do
  o.body
  pure (digests.productRelease o)

end ProductReleaseOrder

namespace ProductSettlementOrder

section
variable (o : ProductSettlementOrder V)

def legsOn (assetId : Id) : List (StateLeg V) :=
  o.settlement.legs.filter (fun leg => leg.assetId = assetId)

def DvpLegs : Prop :=
  o.settlement.legs.length = 4 ∧ (o.settlement.legs.map StateLeg.assetId).dedup.length = 2 ∧
    (o.legsOn o.tradedAssetId).length = 2 ∧
    ∀ leg ∈ o.settlement.legs, (o.legsOn leg.assetId).length = 2

instance (o : ProductSettlementOrder V) : Decidable o.DvpLegs :=
  inferInstanceAs (Decidable (_ ∧ _))

def consumedOnce (base : Id) (seen : List (ReservationConsumption V)) :
    List (ReservationConsumption V) → Check
  | [] => .ok ()
  | r :: rest => do
    require (∀ q ∈ seen, q.role ≠ r.role ∧ q.transition.holdId ≠ r.transition.holdId ∧
        q.transition.facilityId ≠ r.transition.facilityId)
      "product settlement repeats a role, hold, or facility"
    require (¬(r.transition.kind ≠ .consume ∨ r.transition.settlementDigest ≠ base))
      "product settlement reservation is not consumed by this DvP"
    consumedOnce base (r :: seen) rest

def body (digests : FacilityDigests V) (o : ProductSettlementOrder V) : Check := do
  o.settlement.body
  require (¬(o.reservations.length ≠ 2 ∨ o.admissionEpoch = 0 ∨ o.admissionSequence = 0))
    "product settlement needs one ordered Maker and Taker reservation"
  require ((∀ value ∈ o.bindings, value ≠ 0) ∧ o.quantityCommitment ≠ 0 ∧ o.cashCommitment ≠ 0)
    "product settlement has an all-zero binding"
  require (¬(o.settlement.paymentInstructionDigest ≠ o.typedInstructionDigest ∨
      o.settlement.proofDigest ≠ o.quoteProofDigest))
    "settlement summary is not for the typed zkPI and quote proof"
  require o.DvpLegs "product DvP must have two traded-asset and two payment-asset legs"
  let base ← o.settlement.statement digests
  consumedOnce base [] o.reservations
  require (.maker ∈ o.reservations.map ReservationConsumption.role ∧
      .taker ∈ o.reservations.map ReservationConsumption.role)
    "product settlement lacks Maker or Taker reservation"
  forEach (fun r => r.transition.body) o.reservations

def statement (digests : FacilityDigests V) (o : ProductSettlementOrder V) : Result Id := do
  o.body digests
  pure (digests.productSettlement o)

end

omit [AddCommGroup V] [DecidableEq V] in
theorem consumedOnce_ok {base : Id} {seen rs : List (ReservationConsumption V)}
    (h : consumedOnce base seen rs = .ok ()) :
    rs.Pairwise ReservationConsumption.Distinct ∧
      (∀ q ∈ seen, ∀ r ∈ rs, ReservationConsumption.Distinct q r) ∧
      ∀ r ∈ rs, r.transition.kind = .consume := by
  induction rs generalizing seen with
  | nil => simp
  | cons r rest ih =>
    simp only [consumedOnce, ok_iff, not_or, not_not] at h
    obtain ⟨hfresh, ⟨hkind, _⟩, hrest⟩ := h
    obtain ⟨hpair, hseen, hkinds⟩ := ih hrest
    refine ⟨List.pairwise_cons.mpr ⟨hseen r (List.mem_cons_self ..), hpair⟩, ?_, ?_⟩
    · intro q hq r' hr'
      rcases List.mem_cons.mp hr' with rfl | hr'
      · exact hfresh q hq
      · exact hseen q (List.mem_cons_of_mem _ hq) r' hr'
    · simp only [List.mem_cons, forall_eq_or_imp]
      exact ⟨hkind, hkinds⟩

/-- What the canonical body of a settlement guarantees about its parts. -/
structure Shape (o : ProductSettlementOrder V) : Prop where
  handles : (o.settlement.legs.map StateLeg.handle).Nodup
  legs : o.DvpLegs
  two : o.reservations.length = 2
  distinct : o.reservations.Pairwise ReservationConsumption.Distinct
  consumes : ∀ r ∈ o.reservations, r.transition.kind = .consume

theorem body_ok {digests : FacilityDigests V} {o : ProductSettlementOrder V} {u : Unit}
    (h : o.body digests = .ok u) : o.Shape := by
  simp only [body, ok_iff, not_or, not_not] at h
  obtain ⟨hsettlement, ⟨htwo, _⟩, _, _, hlegs, _, _, hloop, _⟩ := h
  obtain ⟨hpair, _, hkinds⟩ := consumedOnce_ok hloop
  exact ⟨SettlementOrder.body_ok hsettlement, hlegs, htwo, hpair, hkinds⟩

end ProductSettlementOrder

structure ProductBatchSeen where
  previous : ℕ
  statements : List Id
  operations : List Id
  nullifiers : List Id
  rfqNullifiers : List Id
  facilities : List Id
  holds : List Id
  handles : List Id

namespace ProductBatchSeen

def reservation (seen : ProductBatchSeen) (r : ReservationConsumption V) :
    Result ProductBatchSeen := do
  let operations ← insertFresh seen.operations r.transition.operationId
    "product settlement batch reuses a reservation operation"
  let facilities ← insertFresh seen.facilities r.transition.facilityId
    "product settlement batch reuses a credit facility"
  let holds ← insertFresh seen.holds r.transition.holdId
    "product settlement batch reuses a reservation hold"
  pure { seen with operations, facilities, holds }

def leg (seen : ProductBatchSeen) (l : StateLeg V) : Result ProductBatchSeen := do
  let handles ← insertFresh seen.handles l.handle "product settlement batch reuses an account"
  pure { seen with handles }

end ProductBatchSeen

namespace ProductSettlementBatch

variable (digests : FacilityDigests V) (batch : ProductSettlementBatch)

def member (seen : ProductBatchSeen) (m : ProductSettlementBatchMember × ProductSettlementOrder V) :
    Result ProductBatchSeen := do
  let error := "product settlement batch is not a unique certified admission sequence"
  require (¬(m.2.venueId ≠ batch.venueId ∨ m.2.defmiId ≠ batch.defmiId ∨
      m.2.admissionEpoch ≠ batch.admissionEpoch ∨ m.2.admissionSequence ≠ m.1.admissionSequence ∨
      m.1.admissionSequence ≤ seen.previous)) error
  let statement ← m.2.statement digests
  require (m.1.settlementStatement = statement) error
  let statements ← insertFresh seen.statements m.1.settlementStatement error
  let operations ← insertFresh seen.operations m.2.settlement.operationId
    "product settlement batch reuses an operation"
  let nullifiers ← insertFresh seen.nullifiers m.2.settlement.nullifier
    "product settlement batch reuses a payment nullifier"
  let rfqNullifiers ← insertFresh seen.rfqNullifiers m.2.rfqNullifier
    "product settlement batch reuses an RFQ nullifier"
  let seen ← foldEach ProductBatchSeen.reservation
    { seen with statements, operations, nullifiers, rfqNullifiers } m.2.reservations
  let seen ← foldEach ProductBatchSeen.leg seen m.2.settlement.legs
  pure { seen with previous := m.1.admissionSequence }

def validateOrders (orders : List (ProductSettlementOrder V)) : Check := do
  require (¬(batch.batchId = 0 ∨ batch.venueId = 0 ∨ batch.defmiId = 0 ∨
      batch.admissionEpoch = 0 ∨ batch.members = [] ∨ 4096 < batch.members.length ∨
      batch.members.length ≠ orders.length))
    "product settlement batch is incomplete or outside its bound"
  let _ ← foldEach (batch.member digests) ⟨0, [], [batch.batchId], [], [], [], [], []⟩
    (batch.members.zip orders)
  pure ()

def ordered (previous : ℕ) (statements : List Id) :
    List ProductSettlementBatchMember → Check
  | [] => .ok ()
  | m :: rest => do
    let error := "product settlement batch members must be unique and admission ordered"
    require (¬(m.admissionSequence ≤ previous ∨ m.settlementStatement = 0)) error
    let statements ← insertFresh statements m.settlementStatement error
    ordered m.admissionSequence statements rest

def statement : Result Id := do
  require (¬(batch.batchId = 0 ∨ batch.venueId = 0 ∨ batch.defmiId = 0 ∨
      batch.admissionEpoch = 0 ∨ batch.members = [] ∨ 4096 < batch.members.length))
    "product settlement batch is incomplete or outside its bound"
  ordered 0 [] batch.members
  pure (digests.productBatch batch)

end ProductSettlementBatch
end Bodies
end DeFMI
