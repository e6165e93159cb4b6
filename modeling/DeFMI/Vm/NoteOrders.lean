import DeFMI.Vm.State
set_option autoImplicit false

/-!
The orders of the anonymous product path and what their canonical bodies
check: delegated settlements, releases, no-fill releases, allocations from a
standing pool, and batches.
-/

namespace DeFMI
open Lib List CreditFacilityTransition

structure EscrowClaimSpend (V : Type) where
  assetId : Id
  holdId : Id
  escrowNoteId : Id
  delegationDigest : Id
  proofDigest : Id
  claims : List (NoteClaim V)

structure DelegatedNoteSettlementOrder (V : Type) where
  operationId : Id
  nullifier : Id
  deadline : ℕ
  paymentInstructionDigest : Id
  marketStatementDigest : Id
  dvpProofDigest : Id
  spends : List (EscrowClaimSpend V)

structure ProductNoteSettlementOrder (V : Type) extends ProductTerms V where
  settlement : DelegatedNoteSettlementOrder V

structure ProductNoteReleaseOrder (V : Type) where
  transition : CreditFacilityTransition V
  role : ReservationRole
  reserveReceiptDigest : Id
  typedInstructionDigest : Id
  releaseNullifier : Id
  releaseDeadline : ℕ
  assetId : Id
  assetLinkProofDigest : Id
  escrowNoteId : Id
  spend : NoteSpend V

structure ProductNoteNoFillReleaseOrder (V : Type) where
  release : ProductNoteReleaseOrder V
  venueId : Id
  defmiId : Id
  admissionEpoch : ℕ
  admissionSequence : ℕ
  noFillEvidenceDigest : Id

structure StandingNotePoolAllocation (V : Type) where
  poolId : Id
  delegationDigest : Id
  committeeEpoch : ℕ
  expectedPoolSequence : ℕ
  previousPoolNoteId : Id
  previousAmountCommitment : CompressedPoint V
  escrowNote : NoteOutput V
  remainderNote : NoteOutput V
  proofJobId : Id
  quoteProofDigest : Id
  dvpProofDigest : Id
  remainderRangeProofDigest : Id
  committeeSignature : Bytes
  pqAuthorization : Option Bytes

structure ProductNoteSettlementBatch where
  batchId : Id
  venueId : Id
  defmiId : Id
  admissionEpoch : ℕ
  members : List ProductSettlementBatchMember

structure NoteOrderApi (V : Type) extends NoteApi V where
  delegatedSettlement : DelegatedNoteSettlementOrder V → Id
  productSettlement : ProductNoteSettlementOrder V → Id
  productRelease : ProductNoteReleaseOrder V → Id
  noFillRelease : ProductNoteNoFillReleaseOrder V → Id
  allocation : StandingNotePoolAllocation V → CreditFacilityTransition V →
    ReservationAuthorization V → Id
  standingSettlement : StandingNotePoolAllocation V → CreditFacilityTransition V →
    ReservationAuthorization V → ProductNoteSettlementOrder V → Id → Id
  batch : ProductNoteSettlementBatch → Id
  frostSignature : Bytes → Bool
  signingBinding : StandingNotePoolAllocation V → CreditFacilityTransition V →
    ReservationAuthorization V → Check

section Bodies

variable {V : Type}

structure BatchSeen where
  previous : ℕ
  statements : List Id
  operations : List Id
  nullifiers : List Id
  rfqNullifiers : List Id
  facilities : List Id
  holds : List Id
  escrowSerials : List Id
  claims : List Id

namespace BatchSeen

def reservation (seen : BatchSeen) (r : ReservationConsumption V) : Result BatchSeen := do
  let error := "anonymous product batch reuses an operation, facility or hold"
  let operations ← insertFresh seen.operations r.transition.operationId error
  let facilities ← insertFresh seen.facilities r.transition.facilityId error
  let holds ← insertFresh seen.holds r.transition.holdId error
  pure { seen with operations, facilities, holds }

def claim (seen : BatchSeen) (c : NoteClaim V) : Result BatchSeen := do
  let claims ← insertFresh seen.claims c.claimId "anonymous product batch repeats a note claim"
  pure { seen with claims }

def spend (api : NoteOrderApi V) (seen : BatchSeen) (spend : EscrowClaimSpend V) :
    Result BatchSeen := do
  let escrowSerials ← insertFresh seen.escrowSerials
    (api.escrowClaimSerial spend.escrowNoteId spend.holdId)
    "anonymous product batch reuses an escrow note"
  foldEach claim { seen with escrowSerials } spend.claims

theorem reservation_facilities {seen seen' : BatchSeen} {r : ReservationConsumption V}
    (h : seen.reservation r = .ok seen') :
    r.transition.facilityId ∉ seen.facilities ∧
      seen'.facilities = r.transition.facilityId :: seen.facilities := by
  simp only [reservation, ok_iff, insertFresh_eq_ok] at h
  obtain ⟨_, _, _, ⟨hfresh, rfl⟩, _, _, rfl⟩ := h
  exact ⟨hfresh, rfl⟩

theorem spend_facilities {api : NoteOrderApi V} {seen seen' : BatchSeen} {s : EscrowClaimSpend V}
    (h : spend api seen s = .ok seen') : seen'.facilities = seen.facilities := by
  simp only [spend, ok_iff] at h
  obtain ⟨serials, _, hclaims⟩ := h
  refine foldEach_invariant (fun u : BatchSeen => u.facilities = seen.facilities) ?_
    hclaims rfl
  intro u v c hc hu
  simp only [claim, ok_iff] at hc
  obtain ⟨_, _, rfl⟩ := hc
  exact hu

end BatchSeen

variable [AddCommGroup V] [DecidableEq V]

def EscrowClaimSpend.claimed (spend : EscrowClaimSpend V) (kind : NoteClaimKind) :
    Option (CompressedPoint V) :=
  (spend.claims.find? (fun claim => claim.kind = kind)).map NoteClaim.valueCommitment

def EscrowClaimSpend.body (api : NoteApi V) (spend : EscrowClaimSpend V) : Check := do
  nonzero spend.assetId "asset_id"
  nonzero spend.holdId "hold_id"
  nonzero spend.escrowNoteId "escrow_note_id"
  nonzero spend.delegationDigest "delegation_digest"
  nonzero spend.proofDigest "proof_digest"
  require (spend.claims.length = 2) "delegated escrow spend needs delivery and refund claims"
  forEach (fun claim => do
    claim.validate api
    require (claim.assetId = spend.assetId ∧ claim.sourceHoldId = spend.holdId)
      "delegated escrow spend repeats or changes a claim") spend.claims
  require ((spend.claims.map NoteClaim.claimId).Nodup ∧ (spend.claims.map NoteClaim.kind).Nodup)
    "delegated escrow spend repeats or changes a claim"
  require (.delivery ∈ spend.claims.map NoteClaim.kind ∧
      .refund ∈ spend.claims.map NoteClaim.kind)
    "delegated escrow spend lacks delivery or refund"

def DelegatedNoteSettlementOrder.body (api : NoteApi V) (o : DelegatedNoteSettlementOrder V) :
    Check := do
  require (¬(o.deadline = 0 ∨ maxUnixTime < o.deadline ∨ o.spends.length ≠ 2))
    "delegated note settlement has invalid dimensions"
  forEach (EscrowClaimSpend.body api) o.spends
  require ((o.spends.map EscrowClaimSpend.assetId).Nodup ∧
      (o.spends.map EscrowClaimSpend.holdId).Nodup)
    "delegated note settlement repeats an asset or hold"
  require (o.spends.flatMap (fun spend => spend.claims.map NoteClaim.claimId)).Nodup
    "delegated note settlement repeats a claim"
  nonzero o.operationId "operation_id"
  nonzero o.nullifier "nullifier"
  nonzero o.paymentInstructionDigest "payment_instruction_digest"
  nonzero o.marketStatementDigest "market_statement_digest"
  nonzero o.dvpProofDigest "dvp_proof_digest"

def DelegatedNoteSettlementOrder.statement (api : NoteOrderApi V)
    (o : DelegatedNoteSettlementOrder V) : Result Id := do
  o.body api.toNoteApi
  pure (api.delegatedSettlement o)

namespace ProductNoteSettlementOrder

def consumedOnce (o : ProductNoteSettlementOrder V) (base : Id)
    (seen : List (ReservationConsumption V)) : List (ReservationConsumption V) → Check
  | [] => .ok ()
  | r :: rest => do
    let matching := o.settlement.spends.filter (fun spend => spend.holdId = r.transition.holdId)
    require (r.transition.kind = .consume ∧ r.transition.settlementDigest = base ∧
        (∀ q ∈ seen, q.role ≠ r.role ∧ q.transition.holdId ≠ r.transition.holdId ∧
          q.transition.facilityId ≠ r.transition.facilityId) ∧ matching.length = 1)
      "anonymous product reservation is not consumed exactly once"
    require (∀ spend ∈ matching,
        spend.claimed .delivery = some r.transition.consumedCommitment ∧
          spend.claimed .refund = some r.transition.refundCommitment)
      "anonymous claims differ from credit consumption and refund"
    o.consumedOnce base (r :: seen) rest

def body (api : NoteOrderApi V) (o : ProductNoteSettlementOrder V) : Check := do
  require (¬(o.reservations.length ≠ 2 ∨ o.settlement.spends.length ≠ 2 ∨ o.admissionEpoch = 0 ∨
      o.admissionSequence = 0 ∨
      o.settlement.paymentInstructionDigest ≠ o.typedInstructionDigest ∨
      o.settlement.dvpProofDigest ≠ o.dvpProofDigest))
    "anonymous product settlement is incomplete"
  forEach (fun value => nonzero value "anonymous product binding") o.bindings
  nonzero o.quantityCommitment "anonymous product binding"
  nonzero o.cashCommitment "anonymous product binding"
  require ((o.settlement.spends.map EscrowClaimSpend.assetId).dedup.length = 2 ∧
      o.tradedAssetId ∈ o.settlement.spends.map EscrowClaimSpend.assetId)
    "anonymous DvP does not contain traded and cash rails"
  let base ← o.settlement.statement api
  o.consumedOnce base [] o.reservations
  require (.maker ∈ o.reservations.map ReservationConsumption.role ∧
      .taker ∈ o.reservations.map ReservationConsumption.role)
    "anonymous product settlement lacks Maker or Taker reservation"
  forEach (fun r => r.transition.body) o.reservations
  o.settlement.body api.toNoteApi

def statement (api : NoteOrderApi V) (o : ProductNoteSettlementOrder V) : Result Id := do
  o.body api
  pure (api.productSettlement o)

def transitions (o : ProductNoteSettlementOrder V) : List (CreditFacilityTransition V) :=
  o.reservations.map ReservationConsumption.transition

variable {o : ProductNoteSettlementOrder V}

omit [AddCommGroup V] in
theorem consumedOnce_distinct {base : Id}
    {seen rs : List (ReservationConsumption V)} (h : o.consumedOnce base seen rs = .ok ()) :
    rs.Pairwise ReservationConsumption.Distinct ∧
      ∀ q ∈ seen, ∀ r ∈ rs, ReservationConsumption.Distinct q r := by
  induction rs generalizing seen with
  | nil => simp
  | cons r rest ih =>
    simp only [consumedOnce, ok_iff] at h
    obtain ⟨⟨_, _, hfresh, _⟩, _, hrest⟩ := h
    obtain ⟨hpair, hseen⟩ := ih hrest
    constructor
    · exact pairwise_cons.mpr ⟨hseen r (mem_cons_self ..), hpair⟩
    · intro q hq r' hr'
      rcases mem_cons.mp hr' with rfl | hr'
      · exact hfresh q hq
      · exact hseen q (mem_cons_of_mem _ hq) r' hr'

omit [AddCommGroup V] in
theorem consumedOnce_spends {base : Id}
    {seen rs : List (ReservationConsumption V)} {u : Unit} (h : o.consumedOnce base seen rs = .ok u) :
    ∀ r ∈ rs, r.transition.holdId ∈ o.settlement.spends.map EscrowClaimSpend.holdId := by
  induction rs generalizing seen with
  | nil => simp
  | cons r rest ih =>
    simp only [consumedOnce, ok_iff] at h
    obtain ⟨⟨_, _, _, hone⟩, _, hrest⟩ := h
    intro r' hr'
    rcases mem_cons.mp hr' with rfl | hr'
    · obtain ⟨spend, hspend⟩ := exists_mem_of_length_pos (Nat.lt_of_lt_of_eq one_pos hone.symm)
      obtain ⟨hmem, hid⟩ := mem_filter.mp hspend
      exact mem_map.mpr ⟨spend, hmem, by simpa using hid⟩
    · exact ih hrest r' hr'

theorem body_distinct {api : NoteOrderApi V}
    (h : o.body api = .ok ()) : o.reservations.Pairwise ReservationConsumption.Distinct := by
  simp only [body, ok_iff] at h
  obtain ⟨_, _, _, _, _, _, _, hloop, _⟩ := h
  exact (consumedOnce_distinct hloop).1

theorem body_facilities {api : NoteOrderApi V}
    (h : o.body api = .ok ()) : (o.transitions.map facilityId).Nodup := by
  rw [transitions, map_map]
  exact Pairwise.map _ (fun q r hqr => hqr.2.2) (body_distinct h)

end ProductNoteSettlementOrder

def ProductNoteReleaseOrder.body (api : NoteApi V) (o : ProductNoteReleaseOrder V) : Check := do
  require (¬(o.transition.kind ≠ .release ∨ o.releaseDeadline ≤ o.transition.expiresAt ∨
      maxUnixTime < o.releaseDeadline ∨ o.spend.assetId ≠ o.assetId ∨
      o.spend.inputLockId ≠ o.transition.holdId ∨ (∃ output ∈ o.spend.outputs, output.lockId ≠ 0)))
    "anonymous product release is inconsistent"
  o.transition.body
  nonzero o.reserveReceiptDigest "reserve_receipt_digest"
  nonzero o.typedInstructionDigest "typed_instruction_digest"
  nonzero o.releaseNullifier "release_nullifier"
  nonzero o.assetId "asset_id"
  nonzero o.assetLinkProofDigest "asset_link_proof_digest"
  nonzero o.escrowNoteId "escrow_note_id"
  o.spend.validate api

def ProductNoteReleaseOrder.statement (api : NoteOrderApi V) (o : ProductNoteReleaseOrder V) :
    Result Id := do
  o.body api.toNoteApi
  pure (api.productRelease o)

def ProductNoteNoFillReleaseOrder.body (api : NoteApi V) (o : ProductNoteNoFillReleaseOrder V) :
    Check := do
  require (¬(o.release.role ≠ .taker ∨ o.venueId = 0 ∨ o.defmiId = 0 ∨ o.admissionEpoch = 0 ∨
      o.admissionSequence = 0 ∨ o.noFillEvidenceDigest = 0))
    "no-fill release lacks its Taker, venue, epoch, or evidence"
  o.release.body api

def ProductNoteNoFillReleaseOrder.statement (api : NoteOrderApi V)
    (o : ProductNoteNoFillReleaseOrder V) : Result Id := do
  o.body api.toNoteApi
  pure (api.noFillRelease o)

namespace StandingNotePoolAllocation

variable (api : NoteOrderApi V) (a : StandingNotePoolAllocation V) (t : CreditFacilityTransition V)
  (auth : ReservationAuthorization V)

def unsignedBody : Check := do
  t.body
  require (¬(t.kind ≠ .hold ∨ auth.role ≠ .maker ∨ (auth.direction ≠ 1 ∧ auth.direction ≠ 2) ∨
      auth.policyVersion = 0 ∨ t.queryCommitment ≠ auth.authorizationDigest ∨
      auth.limitPriceCommitment ≠ 0 ∨ auth.rfqNullifier ≠ 0 ∨ auth.admissionTicketId ≠ 0 ∨
      auth.admissionSlot ≠ 0 ∨ auth.admissionReceiptDigest ≠ 0 ∨ auth.admissionEpoch ≠ 0 ∨
      auth.admissionSequence ≠ 0 ∨ auth.admissionBatchId ≠ 0 ∨ a.committeeEpoch = 0))
    "standing pool allocation is not a Maker policy hold"
  nonzero a.poolId "pool_id"
  nonzero a.delegationDigest "delegation_digest"
  nonzero a.previousPoolNoteId "previous_pool_note_id"
  nonzero a.previousAmountCommitment "previous_amount_commitment"
  nonzero a.proofJobId "proof_job_id"
  nonzero a.quoteProofDigest "quote_proof_digest"
  nonzero a.dvpProofDigest "dvp_proof_digest"
  nonzero a.remainderRangeProofDigest "remainder_range_proof_digest"
  nonzero auth.entityCommitment "entity_commitment"
  nonzero auth.authorizationDigest "authorization_digest"
  nonzero auth.mandateDigest "mandate_digest"
  nonzero auth.typedReserveDigest "typed_reserve_digest"
  nonzero auth.reserveNullifier "reserve_nullifier"
  nonzero auth.assetLinkProofDigest "asset_link_proof_digest"
  let poolId ← api.standingNotePoolId auth.entityCommitment auth.authorizationDigest
    auth.mandateDigest auth.assetId auth.direction
  require (a.poolId = poolId) "standing allocation names another Maker policy pool"
  a.escrowNote.validate api.toNoteApi
  a.remainderNote.validate api.toNoteApi
  require (¬(a.escrowNote.assetId ≠ auth.assetId ∨ a.remainderNote.assetId ≠ auth.assetId ∨
      a.escrowNote.lockId ≠ t.holdId ∨ a.remainderNote.lockId ≠ a.poolId ∨
      a.escrowNote.valueCommitment ≠ t.amountCommitment ∨
      a.escrowNote.noteId = a.remainderNote.noteId ∨ a.previousPoolNoteId = a.escrowNote.noteId ∨
      a.previousPoolNoteId = a.remainderNote.noteId))
    "standing allocation changes its asset, hold, or covenant"
  let previous ← okOr a.previousAmountCommitment.decompress
    "standing pool previous commitment is not canonical"
  let child ← okOr a.escrowNote.valueCommitment.decompress
    "standing pool child commitment is not canonical"
  let remainder ← okOr a.remainderNote.valueCommitment.decompress
    "standing pool remainder commitment is not canonical"
  require (previous = child + remainder)
    "standing allocation does not conserve its parent commitment"
  api.signingBinding a t auth

def body : Check := do
  require (api.frostSignature a.committeeSignature = true)
    "standing pool committee signature is malformed"
  a.unsignedBody api t auth
  require (a.pqAuthorization ≠ none) "standing pool lacks PQ authorization"

def statement : Result Id := do
  a.body api t auth
  pure (api.allocation a t auth)

end StandingNotePoolAllocation

/-- One statement for the split of a standing pool and the settlement that uses it. -/
def standingPoolProductSettlementStatement (api : NoteOrderApi V)
    (t : CreditFacilityTransition V) (auth : ReservationAuthorization V)
    (a : StandingNotePoolAllocation V) (o : ProductNoteSettlementOrder V) (evidenceDigest : Id) :
    Result Id := do
  let allocationStatement ← a.statement api t auth
  let receipt ← auth.statement api.toCreditDigests t
  let maker ← okOr (o.reservations.find? (fun r => r.role = .maker))
    "atomic standing-pool settlement has no Maker reservation"
  let makerSpend ← okOr (o.settlement.spends.find?
      (fun spend => spend.holdId = maker.transition.holdId))
    "atomic standing-pool settlement omits the Maker covenant"
  let next ← okOr (checkedSucc t.beforeSequence) "standing-pool facility sequence overflow"
  let m := maker.transition
  require (¬(evidenceDigest = 0 ∨ auth.escrowDigest ≠ allocationStatement ∨ t.kind ≠ .hold ∨
      m.kind ≠ .consume ∨ maker.reserveReceiptDigest ≠ receipt ∨ m.holdId ≠ t.holdId ∨
      m.facilityId ≠ t.facilityId ∨ m.queryCommitment ≠ t.queryCommitment ∨
      m.amountCommitment ≠ t.amountCommitment ∨ m.expiresAt ≠ t.expiresAt ∨
      m.beforeSequence ≠ next ∨ m.before ≠ t.after ∨
      auth.entityCommitment ≠ o.makerEntityCommitment ∨
      auth.authorizationDigest ≠ o.makerPolicyDigest ∨
      auth.mandateDigest ≠ o.makerMandateDigest ∨ auth.assetId ≠ makerSpend.assetId ∨
      a.quoteProofDigest ≠ o.quoteProofDigest ∨ a.dvpProofDigest ≠ o.dvpProofDigest ∨
      a.escrowNote.noteId ≠ makerSpend.escrowNoteId ∨
      a.escrowNote.valueCommitment ≠ m.amountCommitment ∨
      a.delegationDigest ≠ makerSpend.delegationDigest ∨ t.operationId = m.operationId))
    "standing-pool allocation and anonymous DvP are not one atomic settlement"
  o.body api
  pure (api.standingSettlement a t auth o evidenceDigest)

namespace ProductNoteSettlementBatch

section
variable (api : NoteOrderApi V) (batch : ProductNoteSettlementBatch)

def member (seen : BatchSeen) (m : ProductSettlementBatchMember × ProductNoteSettlementOrder V) :
    Result BatchSeen := do
  let error := "anonymous product batch repeats or reorders a settlement"
  require (¬(m.2.venueId ≠ batch.venueId ∨ m.2.defmiId ≠ batch.defmiId ∨
      m.2.admissionEpoch ≠ batch.admissionEpoch ∨ m.2.admissionSequence ≠ m.1.admissionSequence ∨
      m.1.admissionSequence ≤ seen.previous)) error
  let statement ← m.2.statement api
  require (m.1.settlementStatement = statement) error
  let statements ← insertFresh seen.statements m.1.settlementStatement error
  let operations ← insertFresh seen.operations m.2.settlement.operationId error
  let nullifiers ← insertFresh seen.nullifiers m.2.settlement.nullifier error
  let rfqNullifiers ← insertFresh seen.rfqNullifiers m.2.rfqNullifier error
  let seen ← foldEach BatchSeen.reservation
    { seen with statements, operations, nullifiers, rfqNullifiers } m.2.reservations
  let seen ← foldEach (BatchSeen.spend api) seen m.2.settlement.spends
  pure { seen with previous := m.1.admissionSequence }

def validateOrders (orders : List (ProductNoteSettlementOrder V)) : Check := do
  require (¬(batch.batchId = 0 ∨ batch.venueId = 0 ∨ batch.defmiId = 0 ∨
      batch.admissionEpoch = 0 ∨ batch.members = [] ∨ 4096 < batch.members.length ∨
      batch.members.length ≠ orders.length)) "anonymous product batch is incomplete"
  let _ ← foldEach (batch.member api) ⟨0, [], [batch.batchId], [], [], [], [], [], []⟩
    (batch.members.zip orders)
  pure ()

def statement : Result Id := do
  require (¬(batch.batchId = 0 ∨ batch.members = [] ∨ 4096 < batch.members.length))
    "anonymous product batch is incomplete"
  pure (api.batch batch)

end

theorem member_facilities {api : NoteOrderApi V} {batch : ProductNoteSettlementBatch}
    {seen seen' : BatchSeen} {m : ProductSettlementBatchMember × ProductNoteSettlementOrder V}
    (h : batch.member api seen m = .ok seen') (hnodup : seen.facilities.Nodup) :
    seen'.facilities.Nodup ∧
      (m.2.transitions.map facilityId ++ seen.facilities).Perm
        seen'.facilities := by
  simp only [member, ok_iff] at h
  obtain ⟨_, _, _, _, _, _, _, _, _, _, _, _, mid, hmid, last, hlast, rfl⟩ := h
  have hspends : last.facilities = mid.facilities :=
    foldEach_invariant (fun u : BatchSeen => u.facilities = mid.facilities)
      (fun u v c hc hu => (BatchSeen.spend_facilities hc).trans hu) hlast rfl
  have hkeys := foldEach_fresh_map BatchSeen.facilities
    (fun r : ReservationConsumption V => r.transition.facilityId)
    (fun u v r hr => BatchSeen.reservation_facilities hr) hmid hnodup
  show last.facilities.Nodup ∧ _
  rw [hspends]
  simpa [ProductNoteSettlementOrder.transitions, Function.comp_def] using hkeys

theorem validateOrders_facilities {api : NoteOrderApi V} {batch : ProductNoteSettlementBatch}
    {orders : List (ProductNoteSettlementOrder V)} (h : batch.validateOrders api orders = .ok ()) :
    ((orders.flatMap ProductNoteSettlementOrder.transitions).map
      facilityId).Nodup := by
  simp only [validateOrders, ok_iff] at h
  obtain ⟨hshape, last, hlast, _⟩ := h
  have hlen : batch.members.length = orders.length := by
    by_contra hne
    exact hshape (by simp [hne])
  rw [map_flatMap]
  exact foldEach_zip_nodup BatchSeen.facilities
    (fun o : ProductNoteSettlementOrder V => o.transitions.map facilityId)
    (fun u v m hm hu => member_facilities hm hu) hlen hlast nodup_nil

end ProductNoteSettlementBatch

end Bodies
end DeFMI
