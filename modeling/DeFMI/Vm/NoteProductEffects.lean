import DeFMI.Vm.NoteProduct
set_option autoImplicit false

/-!
What an accepted operation of the anonymous product path has found in the state and
what it leaves behind, said once for each operation.
-/

namespace DeFMI
open Lib Table AList

section Records

variable {V : Type}

def StandingNotePoolRecord.advanced (pool : StandingNotePoolRecord V) (noteId : Id) :
    StandingNotePoolRecord V :=
  { pool with currentPoolNoteId := noteId, sequence := pool.sequence + 1 }

theorem CreditFacilityTransition.total?_eq_of_move [AddCommGroup V] {t : CreditFacilityTransition V}
    {ba aa bh ah : V} (hba : t.before.available = .point ba) (haa : t.after.available = .point aa)
    (hbh : t.before.held = .point bh) (hah : t.after.held = .point ah)
    (ho : t.before.outstanding = t.after.outstanding) (hsum : ba + bh = aa + ah) :
    t.after.total? = t.before.total? := by
  simp [Balances.total?, hba, haa, hbh, hah, ho, hsum]

end Records

namespace VmState

variable {V R : Type} {api : VmApi V R} {s s' : VmState V R} {now : ℕ} {statement : Id}

/-- The facility of a transition is as it says and moves on to what it says. -/
def Advances (t : CreditFacilityTransition V) (s s' : VmState V R) : Prop :=
  ∃ f f', s.creditFacilities.lookup t.facilityId = some f ∧ Fresh f t ∧
    f.advance t = .ok f' ∧ s'.creditFacilities = s.creditFacilities.insert t.facilityId f'

theorem followLinkedReservation_ok {evidence : Participant.AutomaticReservationEvidence V}
    {kind : Participant.ReservationTransitionKind}
    (h : s.followLinkedReservation api evidence kind now = .ok s') :
    s' = { s with participantRegistry := s'.participantRegistry } := by
  simp only [followLinkedReservation, ok_iff] at h
  obtain ⟨_, _, rfl⟩ := h
  rfl

theorem prepareEach_ok {Item : Type} {prepare : ℕ → ReservationConsumption V → Result (ℕ × Item)}
    {P : ReservationConsumption V → Item → Prop} {operationId : Id} {repeated : String}
    {direction direction' : ℕ} {seen : List Id} {cs : List (ReservationConsumption V)}
    {items : List Item}
    (hprepare : ∀ direction direction' c item, c.transition.operationId ∉ s.operations →
      prepare direction c = .ok (direction', item) → P c item)
    (h : s.prepareEach operationId repeated prepare direction seen cs = .ok (direction', items)) :
    List.Forall₂ P cs items := by
  induction cs generalizing direction direction' seen items with
  | nil =>
    simp only [prepareEach, ok_iff, Prod.mk.injEq] at h
    obtain ⟨_, rfl⟩ := h
    exact List.Forall₂.nil
  | cons c cs ih =>
    simp only [prepareEach, ok_iff, Prod.mk.injEq, Prod.exists] at h
    obtain ⟨hused, _, item, hitem, _, rest, hrest, _, rfl⟩ := h
    simp only [not_or] at hused
    exact List.Forall₂.cons (hprepare _ _ c item hused.2.2.2 hitem) (ih hrest)

theorem consumeLinkedReservations_ok {dvpProofDigest : Id} {cs : List (ReservationConsumption V)}
    (h : foldEach (consumeLinkedReservation api statement dvpProofDigest now) s cs = .ok s') :
    s' = { s with participantRegistry := s'.participantRegistry } := by
  refine foldEach_invariant (fun w => w = { s with participantRegistry := w.participantRegistry })
    (fun u v c hc hu => ?_) h rfl
  simp only [consumeLinkedReservation, ok_iff] at hc
  obtain ⟨_, _, hlink⟩ := hc
  rw [followLinkedReservation_ok hlink, hu]

theorem insertClaims_ok {claims : List (NoteClaim V)}
    (h : foldEach (insertClaim statement) s claims = .ok s') :
    s' = { s with noteClaims := s'.noteClaims } := by
  refine foldEach_invariant (fun w => w = { s with noteClaims := w.noteClaims })
    (fun u v claim hv hu => ?_) h rfl
  simp only [insertClaim, ok_iff] at hv
  obtain ⟨_, rfl⟩ := hv
  rw [hu]

theorem settleSpends_ok {deadline : ℕ} {spends : List (EscrowClaimSpend V)}
    (h : foldEach (settleSpend api statement deadline) s spends = .ok s') :
    s' = { s with noteSerials := s'.noteSerials, noteClaims := s'.noteClaims } := by
  refine foldEach_invariant
    (fun w => w = { s with noteSerials := w.noteSerials, noteClaims := w.noteClaims })
    (fun u v spend hv hu => ?_) h rfl
  rw [insertClaims_ok hv, hu]

variable [AddCommGroup V]

/-- The current note of the pool is split into the escrow and a fresh remainder, which
takes its place. -/
structure PoolAllocated (a : StandingNotePoolAllocation V) (s t : VmState V R) : Prop where
  spent : ∃ pool note, s.standingNotePools.lookup a.poolId = some pool ∧
    pool.currentPoolNoteId = a.previousPoolNoteId ∧
    s.notes.lookup a.previousPoolNoteId = some note ∧ note.lockId = a.poolId ∧
    note.valueCommitment = a.previousAmountCommitment ∧
    t.standingNotePools = s.standingNotePools.insert a.poolId
      (pool.advanced a.remainderNote.noteId)
  values : ∃ previous child remainder, a.previousAmountCommitment.decompress = some previous ∧
    a.escrowNote.valueCommitment.decompress = some child ∧
    a.remainderNote.valueCommitment.decompress = some remainder ∧ previous = child + remainder
  fresh : a.remainderNote.noteId ∉ s.notes
  escrow : t.notes.lookup a.escrowNote.noteId = some a.escrowNote.toNoteRecord
  remainder : t.notes.lookup a.remainderNote.noteId = some a.remainderNote.toNoteRecord
  locked : a.remainderNote.lockId = a.poolId

structure Allocated (t : CreditFacilityTransition V) (a : StandingNotePoolAllocation V)
    (s s' : VmState V R) : Prop extends PoolAllocated a s s' where
  operation : t.operationId ∉ s.operations
  reservation : t.holdId ∉ s.noteReservations
  hold : t.holdId ∉ s.creditHolds
  total : t.after.total? = t.before.total?
  facility : Advances t s s'
  notes : s.notes.Keeps s'.notes
  same : ∃ row operation, s' = { s with
    creditFacilities := s'.creditFacilities
    creditHolds := s.creditHolds.insert t.holdId t.newHold
    reservationBindings := s'.reservationBindings
    noteReservations := s.noteReservations.insert t.holdId row
    standingNotePools := s'.standingNotePools
    notes := s'.notes
    operations := s.operations.insert t.operationId operation }

structure Released (o : ProductNoteReleaseOrder V) (statement : Id) (now : ℕ)
    (certifiedNoFill : Bool) (s s' : VmState V R) : Prop where
  inTime : if certifiedNoFill then now ≤ o.transition.expiresAt else o.transition.expiresAt < now
  nullifier : o.releaseNullifier ∉ s.nullifiers
  operation : o.transition.operationId ∉ s.operations
  total : o.transition.after.total? = o.transition.before.total?
  facility : Advances o.transition s s'
  hold : ∃ hold, s.creditHolds.lookup o.transition.holdId = some hold ∧ hold.Matches o.transition ∧
    s'.creditHolds = s.creditHolds.insert o.transition.holdId (hold.resolve .released 0 o.transition)
  escrow : ∃ row, s.noteReservations.lookup o.transition.holdId = some row ∧ row.status = .active ∧
    s'.noteReservations = s.noteReservations.insert o.transition.holdId
      { row with status := .released, settlementDigest := statement }
  serials : s.noteSerials.Keeps s'.noteSerials
  notes : s.notes.Keeps s'.notes
  same : s' = { s with
    creditFacilities := s'.creditFacilities
    creditHolds := s'.creditHolds
    noteReservations := s'.noteReservations
    nullifiers := s.nullifiers.insert o.releaseNullifier ⟨o.releaseDeadline, statement⟩
    noteSerials := s'.noteSerials
    notes := s'.notes
    operations := s.operations.insert o.transition.operationId statement
    participantRegistry := s'.participantRegistry }

/-- What the checks that both custodies make have found of a reservation. -/
structure Bound {Row : Type} (s : VmState V R) (now : ℕ) (c : ReservationConsumption V)
    (item : PreparedReservation Row V) : Prop where
  transition : item.transition = c.transition
  facility : s.creditFacilities.lookup c.transition.facilityId = some item.facility
  fresh : Fresh item.facility c.transition
  hold : s.creditHolds.lookup item.transition.holdId = some item.hold
  holdMatches : item.hold.Matches item.transition
  live : now ≤ item.transition.expiresAt
  operation : item.transition.operationId ∉ s.operations

structure Prepared (api : VmApi V R) (s : VmState V R) (o : ProductNoteSettlementOrder V) (now : ℕ)
    (c : ReservationConsumption V) (item : PreparedNoteProductReservation V) : Prop extends
    Bound s now c item where
  escrow : s.noteReservations.lookup item.transition.holdId = some item.escrow
  escrowActive : item.escrow.status = .active
  spend : ∃ spend, o.settlement.spends.find? (fun p => p.holdId = item.transition.holdId) =
    some spend ∧ api.escrowClaimSerial spend.escrowNoteId spend.holdId ∉ s.noteSerials ∧
    ∀ claim ∈ spend.claims, claim.claimId ∉ s.noteClaims

/-- The reservations are consumed one by one, then the covenants are spent; the rest is the
registry of the participants. -/
structure Settled [DecidableEq V] (api : VmApi V R) (o : ProductNoteSettlementOrder V) (now : ℕ)
    (statement : Id) (items : List (PreparedNoteProductReservation V)) (s u v s' : VmState V R) :
    Prop where
  body : o.body api.toNoteOrderApi = .ok ()
  operation : o.settlement.operationId ∉ s.operations
  nullifier : o.settlement.nullifier ∉ s.nullifiers
  request : o.rfqNullifier ∉ s.rfqNullifiers
  prepared : List.Forall₂ (Prepared api s o now) o.reservations items
  consumed : foldEach (consumeNoteReservation statement) s items = .ok u
  spent : foldEach (settleSpend api statement o.settlement.deadline) { u with
    nullifiers := u.nullifiers.insert o.settlement.nullifier ⟨o.settlement.deadline, statement⟩
    rfqNullifiers := u.rfqNullifiers.insert o.rfqNullifier statement
    operations := u.operations.insert o.settlement.operationId statement } o.settlement.spends = .ok v
  linked : s' = { v with participantRegistry := s'.participantRegistry }

variable [DecidableEq V]

theorem allocation_body_ok {api : NoteOrderApi V} {a : StandingNotePoolAllocation V}
    {transition : CreditFacilityTransition V} {auth : ReservationAuthorization V} {u : Unit}
    (h : a.body api transition auth = .ok u) :
    a.remainderNote.lockId = a.poolId ∧ ∃ previous child remainder,
      a.previousAmountCommitment.decompress = some previous ∧
      a.escrowNote.valueCommitment.decompress = some child ∧
      a.remainderNote.valueCommitment.decompress = some remainder ∧ previous = child + remainder := by
  revert h
  simp only [StandingNotePoolAllocation.body, StandingNotePoolAllocation.unsignedBody, ok_iff,
    nonzero_eq_ok, exists_imp, and_imp]
  intro _ _ _ _ _ _ _ _ _ _ _ _ _ _ _ _ _ _ _ _ _ _ hshape previous hprevious child hchild remainder
    hremainder hsplit _ _
  simp only [not_or, not_not] at hshape
  exact ⟨hshape.2.2.2.1, previous, child, remainder, hprevious, hchild, hremainder, hsplit⟩

theorem allocateStandingNotePool_ok {t : CreditFacilityTransition V}
    {auth : ReservationAuthorization V} {a : StandingNotePoolAllocation V} {approval : Approval}
    (h : s.allocateStandingNotePool api now t auth a approval = .ok s') : Allocated t a s s' := by
  -- introducing the facts one by one is far cheaper than splitting one long existential
  revert h
  simp only [allocateStandingNotePool, insertNote, ok_iff, checkedSucc_eq_some,
    CompressedPoint.decompress_eq_some, exists_imp, and_imp]
  intro hbody _ _ _ _ _ _ _ hfresh pool hpool hscope note hnote hparent _ _ _ _ f hf hguard ba hba aa
    haa bh hbh ah hah x _ ha hh u hu v hv f' hf' sequence _ hsequence operation _ ht
  subst hsequence ht
  obtain ⟨hlocked, hvalues⟩ := allocation_body_ok hbody
  simp only [not_or, not_not] at hfresh hscope hparent hguard
  obtain ⟨hescrow, rfl⟩ := insertNoteWithConfidentiality_ok hu
  obtain ⟨hremainder, rfl⟩ := insertNoteWithConfidentiality_ok hv
  rw [hscope.2.2.2.1] at hnote
  constructor
  case toPoolAllocated =>
    refine ⟨⟨pool, note, hpool, hscope.2.2.2.1, hnote, hparent.2.1, hparent.2.2, rfl⟩, hvalues,
      fun hmem => hremainder ((mem_insert _).mpr (.inr hmem)), ?_, lookup_insert .., hlocked⟩
    exact keeps_insert hremainder _ _ (lookup_insert ..)
  case operation => exact hfresh.1
  case reservation => exact hfresh.2.2.1
  case hold => exact hfresh.2.2.2.1
  case total =>
    exact t.total?_eq_of_move hba haa hbh hah hguard.2.2.2.2.2.2.2.2.2 (by rw [ha, hh]; abel)
  case facility => exact ⟨f, f', hf, hguard.2.2.1, hf', rfl⟩
  case notes => exact (keeps_insert hescrow).trans (keeps_insert hremainder)
  case same => exact ⟨_, operation, rfl⟩

theorem applyNoteProductRelease_ok {o : ProductNoteReleaseOrder V} {certifiedNoFill : Bool}
    (h : s.applyNoteProductRelease api o statement now certifiedNoFill = .ok s') :
    Released o statement now certifiedNoFill s s' := by
  revert h
  simp only [applyNoteProductRelease, ok_iff, settlementPoint_eq_ok, exists_imp, and_imp]
  intro htime hnullifier hoperation _ _ _ _ hpure ba hba aa haa bh hbh ah hah x _ ha hh f hf hguard
    hold hhold hmatch row hrow hactive _ _ _ _ f' hf' u hu hlink
  simp only [not_or, not_not] at hguard hpure
  obtain ⟨hspent, hserials, hnotes⟩ := applyNoteSpend_ok hu
  have hlinked := followLinkedReservation_ok hlink
  rw [hspent] at hlinked
  constructor
  case inTime => cases certifiedNoFill <;> simp at htime ⊢ <;> omega
  case nullifier => exact hnullifier
  case operation => exact hoperation
  case total => exact o.transition.total?_eq_of_move hba haa hbh hah hpure.2.2.2.2.2 (by rw [ha, hh]; abel)
  case facility => exact ⟨f, f', hf, hguard.1, hf', by rw [hlinked]⟩
  case hold => exact ⟨hold, hhold, hmatch, by rw [hlinked]⟩
  case escrow => exact ⟨row, hrow, hactive, by rw [hlinked]⟩
  case serials => rw [hlinked]; exact hserials
  case notes => rw [hlinked]; exact hnotes
  case same => rw [hlinked]

variable {o : ProductNoteSettlementOrder V}

section Bound

variable {c : ReservationConsumption V} {direction direction' : ℕ} {paymentAssetId base : Id}

omit [AddCommGroup V] in
theorem prepareBound_ok {terms : ProductTerms V} {texts : ReservationTexts} {asset : Id}
    {facility : CreditFacilityRecord V} {hold : CreditHoldRecord V} {Row : Type} {row : Row}
    (hfresh : c.transition.operationId ∉ s.operations)
    (h : s.prepareBound terms texts now paymentAssetId base direction c =
      .ok (direction', asset, facility, hold)) :
    Bound s now c ⟨c.transition, statement, facility, hold, row⟩ := by
  revert h
  simp only [prepareBound, ok_iff, Prod.mk.injEq, exists_imp, and_imp]
  intro _ _ _ _ _ _ hlive f hf hguard g hg hmatch _ _ hfacility hhold
  simp only [not_or, not_not, not_lt] at hlive hguard
  subst hfacility hhold
  exact ⟨rfl, hf, hguard.1, hg, hmatch, hlive.2.2, hfresh⟩

theorem prepareNoteReservation_ok {item : PreparedNoteProductReservation V}
    (hfresh : c.transition.operationId ∉ s.operations)
    (h : s.prepareNoteReservation api o now paymentAssetId base direction c =
      .ok (direction', item)) : Prepared api s o now c item := by
  revert h
  simp only [prepareNoteReservation, ok_iff, Prod.exists, Prod.mk.injEq, exists_imp, and_imp]
  intro _ _ _ _ hbound row hrow hactive _ _ spend hspend _ _ _ _ _ _ hserial hclaims _ _ _ hitem
  subst hitem
  exact ⟨prepareBound_ok hfresh hbound, hrow, hactive, spend, hspend, hserial, hclaims⟩

end Bound

theorem applyNoteProductSettlement_ok (h : s.applyNoteProductSettlement api o now = .ok s') :
    ∃ statement items u v, Settled api o now statement items s u v s' := by
  revert h
  simp only [applyNoteProductSettlement, ok_iff, Prod.exists, exists_imp, and_imp]
  intro hbody statement _ _ hoperation hnullifier hrequest _ _ _ _ _ _ _ _ _ _ items hitems _ u hu v
    hv hlinks
  exact ⟨statement, items, u, v, hbody, hoperation, hnullifier, hrequest,
    prepareEach_ok (fun _ _ _ _ => prepareNoteReservation_ok) hitems, hu, hv,
    consumeLinkedReservations_ok hlinks⟩

section Handlers

variable {approval : Approval}

theorem releaseNoteProduct_ok {release : ProductNoteReleaseOrder V}
    (h : s.releaseNoteProduct api now release approval = .ok s') :
    ∃ statement, Released release statement now false s s' := by
  simp only [releaseNoteProduct, ok_iff] at h
  obtain ⟨_, statement, _, _, happly⟩ := h
  exact ⟨statement, applyNoteProductRelease_ok happly⟩

structure NoFillReleased (o : ProductNoteNoFillReleaseOrder V) (request statement : Id) (now : ℕ)
    (s u s' : VmState V R) : Prop where
  released : Released o.release statement now true s u
  fresh : request ∉ s.rfqNullifiers
  same : s' = { u with rfqNullifiers := u.rfqNullifiers.insert request statement }

theorem releaseNoteProductNoFill_ok {release : ProductNoteNoFillReleaseOrder V}
    {evidence : MpcNoFillEvidence V}
    (h : s.releaseNoteProductNoFill api now release evidence approval = .ok s') :
    ∃ statement u, NoFillReleased release evidence.signedTakerMandate.rfqNullifier statement now
      s u s' := by
  revert h
  simp only [releaseNoteProductNoFill, ok_iff, exists_imp, and_imp]
  intro _ _ _ statement _ _ _ _ _ _ _ hrequest _ _ _ _ _ _ _ _ _ u hu hs
  exact ⟨statement, u, applyNoteProductRelease_ok hu, hrequest, hs.symm⟩

variable [Module Scalar V] {evidence : ProductSettlementEvidence V}

theorem settleNoteProduct_ok (h : s.settleNoteProduct api now o evidence approval = .ok s') :
    s.applyNoteProductSettlement api o now = .ok s' := by
  simp only [settleNoteProduct, ok_iff] at h
  obtain ⟨_, _, _, _, _, happly⟩ := h
  exact happly

theorem settleStandingPoolProduct_ok {t : CreditFacilityTransition V}
    {auth : ReservationAuthorization V} {a : StandingNotePoolAllocation V}
    {allocationApproval : Bytes}
    (h : s.settleStandingPoolProduct api now t auth a allocationApproval o evidence approval =
      .ok s') :
    ∃ u, s.allocateStandingNotePool api now t auth a
        ⟨approval.expectedBeforeRoot, allocationApproval⟩ = .ok u ∧
      u.applyNoteProductSettlement api o now = .ok s' := by
  simp only [settleStandingPoolProduct, ok_iff] at h
  obtain ⟨_, _, _, _, u, hu, _, hs⟩ := h
  exact ⟨u, hu, hs⟩

structure BatchSettled (api : VmApi V R) (now : ℕ) (batch : ProductNoteSettlementBatch)
    (orders : List (ProductNoteSettlementOrder V)) (statement : Id) (s u s' : VmState V R) :
    Prop where
  valid : batch.validateOrders api.toNoteOrderApi orders = .ok ()
  fresh : batch.batchId ∉ s.operations
  settled : foldEach (fun s o => applyNoteProductSettlement api s o now) s orders = .ok u
  same : s' = { u with operations := u.operations.insert batch.batchId statement }

theorem settleNoteProductBatch_ok {batch : ProductNoteSettlementBatch}
    {orders : List (ProductNoteSettlementOrder V × ProductSettlementEvidence V)}
    (h : s.settleNoteProductBatch api now batch orders approval = .ok s') :
    ∃ statement u, BatchSettled api now batch (orders.map Prod.fst) statement s u s' := by
  simp only [settleNoteProductBatch, ok_iff] at h
  obtain ⟨_, _, _, hvalid, statement, _, _, _, hfresh, u, hu, rfl⟩ := h
  exact ⟨statement, u, hvalid, hfresh, hu, rfl⟩

end Handlers
end VmState
end DeFMI
