import DeFMI.Vm.NoteProductEffects
set_option autoImplicit false

/-!
Whether the anonymous product path keeps the sum of available, held and
outstanding of every facility. An operation rewrites some facility rows from
the balances a transition says were there to those it says come after, so the
sum of a facility is kept exactly where the signed transition keeps it.
-/

namespace DeFMI
open Lib List ProductNoteSettlementOrder CreditFacilityTransition PreparedReservation Balances

section Rewrites

variable {V : Type}

/-- Each named facility goes from the balances before to those after its
transition, and no other row changes. -/
structure Rewrites (ts : List (CreditFacilityTransition V))
    (a b : Table Id (CreditFacilityRecord V)) : Prop where
  rows : ∀ t ∈ ts, ∃ f f', a.lookup t.facilityId = some f ∧ f.balances = t.before ∧
    b.lookup t.facilityId = some f' ∧ f'.balances = t.after
  others : ∀ id, id ∉ ts.map CreditFacilityTransition.facilityId → b.lookup id = a.lookup id

def facilityTotal [Add V] (facilities : Table Id (CreditFacilityRecord V)) (id : Id) : Option V :=
  (facilities.lookup id).bind (fun f => f.balances.total?)

theorem Rewrites.nil (a : Table Id (CreditFacilityRecord V)) : Rewrites [] a a :=
  ⟨by simp, fun _ _ => rfl⟩

theorem Rewrites.single {a : Table Id (CreditFacilityRecord V)} {t : CreditFacilityTransition V}
    {f f' : CreditFacilityRecord V} (hf : a.lookup t.facilityId = some f)
    (hb : f.balances = t.before) (hadv : f.advance t = .ok f') :
    Rewrites [t] a (a.insert t.facilityId f') := by
  obtain ⟨_, rfl⟩ := CreditFacilityRecord.advance_ok hadv
  constructor
  · grind
  · grind

theorem Rewrites.append {ts us : List (CreditFacilityTransition V)}
    {a b c : Table Id (CreditFacilityRecord V)} (hab : Rewrites ts a b) (hbc : Rewrites us b c)
    (hnodup : ((ts ++ us).map facilityId).Nodup) :
    Rewrites (ts ++ us) a c := by
  rw [map_append, nodup_append] at hnodup
  obtain ⟨_, _, hdisjoint⟩ := hnodup
  constructor
  · intro t ht
    rcases mem_append.mp ht with hts | hus
    · obtain ⟨f, f', hf, hb, hf', hb'⟩ := hab.rows t hts
      have hid : t.facilityId ∉ us.map facilityId := fun hmem =>
        hdisjoint _ (mem_map_of_mem hts) _ hmem rfl
      exact ⟨f, f', hf, hb, (hbc.others _ hid).trans hf', hb'⟩
    · obtain ⟨f, f', hf, hb, hf', hb'⟩ := hbc.rows t hus
      have hid : t.facilityId ∉ ts.map facilityId := fun hmem =>
        hdisjoint _ hmem _ (mem_map_of_mem hus) rfl
      exact ⟨f, f', (hab.others _ hid).symm.trans hf, hb, hf', hb'⟩
  · intro id hid
    rw [map_append, mem_append, not_or] at hid
    exact (hbc.others id hid.2).trans (hab.others id hid.1)

def ConservesFacilities [Add V] (a b : Table Id (CreditFacilityRecord V)) : Prop :=
  ∀ id total, facilityTotal a id = some total → facilityTotal b id = some total

def CreditFacilityTransition.KeepsTotal [Add V] (t : CreditFacilityTransition V) : Prop :=
  ∀ total, t.before.total? = some total → t.after.total? = some total

theorem Rewrites.conserves_iff [Add V] {ts : List (CreditFacilityTransition V)}
    {a b : Table Id (CreditFacilityRecord V)} (h : Rewrites ts a b) :
    ConservesFacilities a b ↔ ∀ t ∈ ts, t.KeepsTotal := by
  constructor
  · intro hall t ht total htotal
    obtain ⟨f, f', hf, hb, hf', hb'⟩ := h.rows t ht
    have hbefore : facilityTotal a t.facilityId = some total := by
      simp [facilityTotal, hf, hb, htotal]
    have hafter := hall t.facilityId total hbefore
    simpa [facilityTotal, hf', hb'] using hafter
  · intro hall id total htotal
    by_cases hid : id ∈ ts.map facilityId
    · obtain ⟨t, ht, rfl⟩ := mem_map.mp hid
      obtain ⟨f, f', hf, hb, hf', hb'⟩ := h.rows t ht
      have hbefore : t.before.total? = some total := by
        simpa [facilityTotal, hf, hb] using htotal
      simpa [facilityTotal, hf', hb'] using hall t ht total hbefore
    · simpa [facilityTotal, h.others id hid] using htotal

end Rewrites

namespace VmState

variable {V R : Type} [AddCommGroup V] [DecidableEq V] {api : VmApi V R} {s s' u u' : VmState V R}
  {timestamp : ℕ}

theorem allocateStandingNotePool_conserves {t : CreditFacilityTransition V}
    {auth : ReservationAuthorization V} {a : StandingNotePoolAllocation V} {approval : Approval}
    (h : s.allocateStandingNotePool api timestamp t auth a approval = .ok s') (id : Id) :
    facilityTotal s'.creditFacilities id = facilityTotal s.creditFacilities id := by
  have h := allocateStandingNotePool_ok h
  obtain ⟨f, f', hf, hfresh, hadv, htable⟩ := h.facility
  obtain ⟨_, rfl⟩ := CreditFacilityRecord.advance_ok hadv
  rw [htable]
  by_cases hid : id = t.facilityId
  · subst hid
    simp [facilityTotal, hf, hfresh.2, h.total]
  · simp [facilityTotal, AList.lookup_insert_ne hid]

variable {items : List (PreparedNoteProductReservation V)} {statement : Id}

omit [DecidableEq V] in
theorem Released.conserves {o : ProductNoteReleaseOrder V} {certifiedNoFill : Bool}
    (h : Released o statement timestamp certifiedNoFill s s') :
    ConservesFacilities s.creditFacilities s'.creditFacilities := by
  obtain ⟨f, f', hf, hfresh, hadv, htable⟩ := h.facility
  rw [htable, (Rewrites.single hf hfresh.2 hadv).conserves_iff]
  intro t ht total hbefore
  rw [mem_singleton] at ht
  subst ht
  exact h.total.trans hbefore

omit [AddCommGroup V] [DecidableEq V] in
theorem consumeNoteReservations_rewrites
    (h : foldEach (consumeNoteReservation statement) s items = .ok s')
    (hread : ∀ item ∈ items, s.creditFacilities.lookup item.transition.facilityId =
      some item.facility ∧ Fresh item.facility item.transition)
    (hnodup : (items.map (fun item => item.transition.facilityId)).Nodup) :
    Rewrites (items.map transition) s.creditFacilities
      s'.creditFacilities := by
  induction items generalizing s with
  | nil =>
    rw [foldEach_nil] at h
    subst h
    exact Rewrites.nil _
  | cons item items ih =>
    rw [foldEach_cons] at h
    obtain ⟨u, hu, hrest⟩ := h
    simp only [consumeNoteReservation, consumeBound, ok_iff] at hu
    obtain ⟨_, ⟨f', hadv, rfl⟩, rfl⟩ := hu
    obtain ⟨hlookup, hfresh⟩ := hread item (mem_cons_self ..)
    obtain ⟨hnot, hnodup'⟩ := nodup_cons.mp hnodup
    have hfirst := Rewrites.single hlookup hfresh.2 hadv
    have hlater := ih hrest (fun other hother => by grind) hnodup'
    have hall : (([item.transition] ++ items.map transition).map
        facilityId).Nodup := by
      simpa [Function.comp_def] using hnodup
    exact hfirst.append hlater hall

variable {o : ProductNoteSettlementOrder V}

theorem applyNoteProductSettlement_rewrites
    (h : s.applyNoteProductSettlement api o timestamp = .ok s') :
    Rewrites o.transitions s.creditFacilities s'.creditFacilities := by
  obtain ⟨statement, items, u, v, h⟩ := applyNoteProductSettlement_ok h
  have htransitions : items.map transition = o.transitions :=
    forall₂_map_eq h.prepared fun _ _ hc => hc.transition
  have hnodup := body_facilities h.body
  rw [← htransitions, map_map] at hnodup
  have hread : ∀ item ∈ items, s.creditFacilities.lookup item.transition.facilityId =
      some item.facility ∧ Fresh item.facility item.transition := by
    intro item hitem
    obtain ⟨c, _, hc⟩ := forall₂_mem_right h.prepared hitem
    rw [hc.transition]
    exact ⟨hc.facility, hc.fresh⟩
  have hsame : s'.creditFacilities = u.creditFacilities := by
    rw [h.linked, settleSpends_ok h.spent]
  rw [hsame, ← htransitions]
  exact consumeNoteReservations_rewrites h.consumed hread hnodup

/-- The members of a batch rewrite different facilities, so the batch as a whole
rewrites all of them. -/
theorem settleOrders_rewrites {orders : List (ProductNoteSettlementOrder V)}
    (h : foldEach (fun s o => applyNoteProductSettlement api s o timestamp) s orders = .ok s')
    (hnodup : ((orders.flatMap transitions).map facilityId).Nodup) :
    Rewrites (orders.flatMap transitions) s.creditFacilities s'.creditFacilities := by
  induction orders generalizing s with
  | nil =>
    simp only [foldEach_nil] at h
    subst h
    exact Rewrites.nil _
  | cons o orders ih =>
    simp only [foldEach_cons] at h
    obtain ⟨v, hv, hrest⟩ := h
    simp only [flatMap_cons] at hnodup ⊢
    have htail := hnodup
    rw [map_append, nodup_append] at htail
    exact (applyNoteProductSettlement_rewrites hv).append (ih hrest htail.2.1) hnodup

end VmState

def NoteProductTx.consumptions {V : Type} : NoteProductTx V → List (CreditFacilityTransition V)
  | .allocate .. => []
  | .settle o _ _ => o.transitions
  | .settleStanding _ _ _ _ o _ _ => o.transitions
  | .settleBatch _ orders _ => (orders.map Prod.fst).flatMap ProductNoteSettlementOrder.transitions
  | .release .. => []
  | .releaseNoFill .. => []

section Conservation

variable {V R : Type} [AddCommGroup V] [DecidableEq V] [Module Scalar V] {api : VmApi V R}
  {s s' : VmState V R} {timestamp : ℕ}

/-- An accepted transaction of the anonymous product path keeps the sum of
available, held and outstanding of every facility exactly when the signed balances
of each consumption it takes over keep theirs. Allocations and releases take over
none. -/
theorem note_product_conserves_iff {tx : NoteProductTx V}
    (h : s.applyNoteProduct api timestamp tx = .ok s') :
    ConservesFacilities s.creditFacilities s'.creditFacilities ↔
      ∀ t ∈ tx.consumptions, t.KeepsTotal := by
  simp only [VmState.applyNoteProduct, bind_eq_ok, pure_eq_ok] at h
  obtain ⟨_, hexecute, _, _, rfl⟩ := h
  cases tx with
  | allocate =>
    have htotal := VmState.allocateStandingNotePool_conserves hexecute
    simp [NoteProductTx.consumptions, ConservesFacilities, htotal]
  | settle =>
    have happly := VmState.settleNoteProduct_ok hexecute
    exact (VmState.applyNoteProductSettlement_rewrites happly).conserves_iff
  | settleStanding =>
    obtain ⟨candidate, hallocate, happly⟩ := VmState.settleStandingPoolProduct_ok hexecute
    have htotal := VmState.allocateStandingNotePool_conserves hallocate
    have hcandidate := (VmState.applyNoteProductSettlement_rewrites happly).conserves_iff
    simpa only [NoteProductTx.consumptions, ConservesFacilities, htotal] using hcandidate
  | settleBatch =>
    obtain ⟨statement, u, h⟩ := VmState.settleNoteProductBatch_ok hexecute
    rw [h.same]
    exact (VmState.settleOrders_rewrites h.settled
      (ProductNoteSettlementBatch.validateOrders_facilities h.valid)).conserves_iff
  | release =>
    obtain ⟨statement, h⟩ := VmState.releaseNoteProduct_ok hexecute
    simpa [NoteProductTx.consumptions] using h.conserves
  | releaseNoFill =>
    obtain ⟨statement, u, h⟩ := VmState.releaseNoteProductNoFill_ok hexecute
    rw [h.same]
    simpa [NoteProductTx.consumptions] using h.released.conserves

end Conservation

section Sample

def vmId (b : UInt8) : Id := Id.fill b

def clear (n : ℕ) : CompressedPoint Plane := .point ((n : Scalar), 0)

/-- Hashes that read a distinguishing field back, and verifiers that accept. -/
def vmVerifiers (R : Type) : VmApi Plane R where
  transition t := t.operationId
  reservation a _ := a.typedReserveDigest
  noteId r := r.oneTime
  openingValid _ _ := true
  recipientOpening _ := true
  claimId c := c.recipientCommitment
  envelopeValid _ := true
  ringRoot assetId _ := assetId
  standingNotePoolId entity _ _ _ _ := .ok entity
  standingNotePoolDelegationDigest pool _ _ _ _ := .ok pool
  names := ⟨fun _ => (1, 0), fun _ => 1⟩
  assetOracle _ := 0
  decodePoint _ := 0
  identityContext commitment _ _ := commitment
  claimValueContext context _ _ _ _ := context
  sealedValid _ := true
  envelope _ _ _ _ := .ok []
  scopeKey scope := scope.applicationBinding
  applicationDelegation mandate := mandate
  issuerKey _ := true
  guarantorKey _ := some false
  nodeKey _ := true
  settlementCommittee _ _ := .ok ()
  delegatedSettlement o := o.operationId
  productSettlement o := o.rfqNullifier
  productRelease o := o.releaseNullifier
  noFillRelease o := o.noFillEvidenceDigest
  allocation a _ _ := a.proofJobId
  standingSettlement a _ _ _ _ := a.proofJobId
  batch b := b.batchId
  escrowClaimSerial note _ := note
  frostSignature _ := true
  signingBinding _ _ _ := .ok ()
  key := planeKey
  root _ := vmId 90
  quorum _ _ _ := .ok ()
  automaticTransition r _ _ _ := .ok r
  committeeSignature _ _ _ _ _ := .ok ()
  evidenceEncoding _ := .ok ()
  evidenceDigest _ := vmId 91
  verifyTyped _ _ _ := .ok ()
  verifyQuote _ := .ok (vmId 92)
  executionLane _ _ _ := .ok ⟨0, 0, vmId 19, vmId 93⟩
  liveProofJobId _ _ _ := .ok (vmId 94)
  completeQuoteContext _ _ := vmId 95
  priceLimit _ _ _ _ _ _ := .ok (vmId 96)
  accountOf := sampleApi.accountOf
  packageDigest _ := vmId 25
  assetLink _ _ _ := true
  assetLinkDigest _ _ _ := vmId 97
  noFillEncoding _ := .ok ()
  noFillDigest _ := vmId 98
  mandateSignature _ _ := .ok ()
  resultLane _ _ _ := .ok ⟨0, 1, vmId 19, 0⟩

def vmApi : VmApi Plane Unit := vmVerifiers Unit

def vmEmpty {R : Type} (participantRegistry : R) : VmState Plane R where
  confidential := ConfidentialState.empty
  assets := ∅
  csdIssuers := ∅
  accounts := ∅
  notes := ∅
  noteReservations := ∅
  applicationReserveScopes := ∅
  applicationReservations := ∅
  standingNotePools := ∅
  noteClaims := ∅
  guarantors := ∅
  creditFacilities := ∅
  creditHolds := ∅
  reservationBindings := ∅
  reservationEscrows := ∅
  nullifiers := ∅
  noteSerials := ∅
  noteIssuances := ∅
  rfqNullifiers := ∅
  admissionCommittees := ∅
  admissionBatches := ∅
  admissionEntries := ∅
  settlementVerifiers := ∅
  operations := ∅
  participantRegistry := participantRegistry

def vmFacility (entity asset : Id) (available held : ℕ) : CreditFacilityRecord Plane :=
  ⟨vmId 30, entity, asset, clear 100, ⟨clear available, clear held, 0⟩, 0, clear 100, vmId 31, 1, 100,
    .active, 1⟩

def vmHold (facility query : Id) (amount : ℕ) : CreditHoldRecord Plane :=
  ⟨facility, query, clear amount, 80, .active, 0, 1, 1⟩

/-- A Maker holding 10 securities and a Taker holding 20 cash in reserve. -/
def vmReserved : VmState Plane Unit :=
  { vmEmpty () with
    assets := (∅ : Table Id AssetRecord).insert (vmId 1) ⟨.cash, true⟩ |>.insert (vmId 2)
      ⟨.security, true⟩
    notes := (∅ : Table Id (NoteRecord Plane)).insert (vmId 15)
      ⟨vmId 2, vmId 15, clear 10, vmId 1, [], vmId 7⟩ |>.insert (vmId 16)
      ⟨vmId 1, vmId 16, clear 20, vmId 1, [], vmId 8⟩
    noteReservations := (∅ : Table Id (NoteReservationRecord Plane)).insert (vmId 7)
      ⟨vmId 15, vmId 2, clear 10, vmId 40, vmId 41, .active, 0⟩ |>.insert (vmId 8)
      ⟨vmId 16, vmId 1, clear 20, vmId 40, vmId 42, .active, 0⟩
    creditFacilities := (∅ : Table Id (CreditFacilityRecord Plane)).insert (vmId 5)
      (vmFacility (vmId 3) (vmId 2) 90 10) |>.insert (vmId 6) (vmFacility (vmId 4) (vmId 1) 80 20)
    creditHolds := (∅ : Table Id (CreditHoldRecord Plane)).insert (vmId 7)
      (vmHold (vmId 5) (vmId 9) 10) |>.insert (vmId 8) (vmHold (vmId 6) (vmId 10) 20)
    reservationBindings := (∅ : Table Id (ReservationBindingRecord Plane)).insert (vmId 7)
      ⟨.maker, vmId 3, vmId 2, 1, vmId 9, vmId 43, vmId 44, vmId 45, vmId 46, 0, 0, 1, 0, 0, 0, 0, 0,
        0, vmId 47⟩ |>.insert (vmId 8)
      ⟨.taker, vmId 4, vmId 1, 1, vmId 10, vmId 10, vmId 48, vmId 49, vmId 50, clear 3, vmId 11, 0,
        vmId 12, 0, vmId 13, 1, 1, vmId 14, vmId 51⟩
    admissionCommittees := (∅ : Table (Id × ℕ) RegisteredCommittee).insert (vmId 17, 1)
      ⟨⟨[vmId 81, vmId 82, vmId 83, vmId 84, vmId 85, vmId 86, vmId 87], 1, 100⟩, vmId 88⟩
    admissionBatches := (∅ : Table Id RegisteredBatch).insert (vmId 14)
      ⟨⟨vmId 17, 1, 0, vmId 19, vmId 20, 1, 1, 100⟩, vmId 89⟩
    admissionEntries := (∅ : Table (Id × ℕ) AdmissionEntryRecord).insert (vmId 14, 1)
      ⟨vmId 13, vmId 8⟩
    settlementVerifiers := (∅ : Table (Id × ℕ) SettlementVerifierRecord).insert (vmId 17, 1)
      ⟨vmId 17, vmId 18, 1, vmId 52, 32, 32, 64, 64, 100, [1], [], 1, 100⟩ }

def vmClaim (id asset hold : Id) (kind : NoteClaimKind) (value : ℕ) : NoteClaim Plane :=
  ⟨id, asset, clear value, id, ⟨id, id⟩, hold, kind, []⟩

def vmConsume (operation facility hold query : Id) (amount consumed refund available : ℕ)
    (after : Balances (CompressedPoint Plane)) : CreditFacilityTransition Plane :=
  ⟨operation, facility, hold, .consume, query, clear amount, clear consumed, clear refund,
    ⟨clear available, clear amount, 0⟩, after, 1, 80, vmId 21, vmId 53⟩

/-- Three securities for six in cash; the Maker's balances afterwards are open. -/
def vmOrder (makerAfter : Balances (CompressedPoint Plane)) : ProductNoteSettlementOrder Plane where
  settlement := ⟨vmId 21, vmId 22, 50, vmId 23, vmId 24, vmId 25,
    [⟨vmId 2, vmId 7, vmId 15, vmId 41, vmId 25,
        [vmClaim (vmId 60) (vmId 2) (vmId 7) .delivery 3,
          vmClaim (vmId 61) (vmId 2) (vmId 7) .refund 7]⟩,
      ⟨vmId 1, vmId 8, vmId 16, vmId 42, vmId 25,
        [vmClaim (vmId 62) (vmId 1) (vmId 8) .delivery 6,
          vmClaim (vmId 63) (vmId 1) (vmId 8) .refund 14]⟩]⟩
  venueId := vmId 17
  defmiId := vmId 18
  makerEntityCommitment := vmId 3
  takerEntityCommitment := vmId 4
  rfqNullifier := vmId 11
  takerAuthorizationDigest := vmId 10
  makerPolicyDigest := vmId 9
  makerMandateDigest := vmId 43
  takerMandateDigest := vmId 10
  typedInstructionDigest := vmId 23
  quoteProofDigest := vmId 92
  priceLimitProofDigest := vmId 96
  dvpProofDigest := vmId 25
  quantityCommitment := clear 3
  cashCommitment := clear 6
  tradedAssetId := vmId 2
  assetLinkProofDigest := vmId 97
  admissionReceiptDigest := vmId 13
  admissionEpoch := 1
  admissionSequence := 1
  reservations :=
    [⟨.maker, vmId 47, vmConsume (vmId 70) (vmId 5) (vmId 7) (vmId 9) 10 3 7 90 makerAfter⟩,
      ⟨.taker, vmId 51, vmConsume (vmId 71) (vmId 6) (vmId 8) (vmId 10) 20 6 14 80
        ⟨clear 94, 0, clear 6⟩⟩]

def vmEvidence : ProductSettlementEvidence Plane where
  typedInstruction := ⟨vmId 23, ⟨.settle, .joint, vmId 17, vmId 18, vmId 11, vmId 10, vmId 9, vmId 43,
      vmId 92, vmId 24, vmId 90, vmId 7, vmId 8, 1, 1, vmId 47, vmId 51, true, 0, 0, 0⟩,
    ⟨(1, 0), 0, (3, 0), (2, 0), []⟩, vmId 22, 50, true, some (vmId 92), 0⟩
  quoteVerification := ⟨32, 32, vmId 52, some (vmId 9), vmId 24, 1, 20, 0, (3, 0), vmId 95, none, []⟩
  priceLimitProof := []
  dvpProofs := ⟨⟨.product, 3, 0, 2, 0, 0⟩, ⟨.securitiesRemainder, 64, 7, 0⟩,
    ⟨.cashRemainder, 64, 14, 0⟩⟩
  mpcExecutionAttestations := []
  assetLink := []

def vmSettle (makerAfter : Balances (CompressedPoint Plane)) : NoteProductTx Plane :=
  .settle (vmOrder makerAfter) vmEvidence ⟨vmId 90, [11]⟩

theorem vmReserved_settles (makerAfter : Balances (CompressedPoint Plane)) (total : Option Plane)
    (h : (vmReserved.applyNoteProduct vmApi 30 (vmSettle makerAfter)).toOption.map
      (fun s' => facilityTotal s'.creditFacilities (vmId 5)) = some total) :
    ∃ s', vmReserved.applyNoteProduct vmApi 30 (vmSettle makerAfter) = .ok s' ∧
      facilityTotal s'.creditFacilities (vmId 5) = total := by
  cases hs : vmReserved.applyNoteProduct vmApi 30 (vmSettle makerAfter) with
  | error => rw [hs] at h; cases h
  | ok s' => rw [hs] at h; exact ⟨s', rfl, Option.some.inj h⟩

/-- The signed balances are taken over as they are: a Maker line of 100 becomes 1100. -/
theorem settlement_inflates_facility :
    vmReserved.validate vmApi.toNoteApi = .ok () ∧
      facilityTotal vmReserved.creditFacilities (vmId 5) = some (100, 0) ∧
      ∃ s', vmReserved.applyNoteProduct vmApi 30 (vmSettle ⟨clear 1097, 0, clear 3⟩) = .ok s' ∧
        facilityTotal s'.creditFacilities (vmId 5) = some (1100, 0) ∧
        ¬ConservesFacilities vmReserved.creditFacilities s'.creditFacilities := by
  have hbefore : facilityTotal vmReserved.creditFacilities (vmId 5) = some (100, 0) := by
    decide +kernel
  obtain ⟨s', hs, hafter⟩ := vmReserved_settles ⟨clear 1097, 0, clear 3⟩ (some (1100, 0))
    (by decide +kernel)
  refine ⟨by decide +kernel, hbefore, s', hs, hafter, fun hall => ?_⟩
  have hkept := hall (vmId 5) _ hbefore
  rw [hafter] at hkept
  exact absurd hkept (by decide +kernel)

theorem vmSettle_keeps :
    ∀ t ∈ (vmSettle ⟨clear 97, 0, clear 3⟩).consumptions, t.KeepsTotal := by
  have hsame : ∀ t ∈ (vmSettle ⟨clear 97, 0, clear 3⟩).consumptions,
      t.after.total? = t.before.total? := by decide +kernel
  intro t ht total htotal
  rw [hsame t ht, htotal]

theorem note_product_conserves_sample :
    ∃ s', vmReserved.applyNoteProduct vmApi 30 (vmSettle ⟨clear 97, 0, clear 3⟩) = .ok s' ∧
      ConservesFacilities vmReserved.creditFacilities s'.creditFacilities := by
  obtain ⟨s', hs, _⟩ := vmReserved_settles ⟨clear 97, 0, clear 3⟩ (some (100, 0))
    (by decide +kernel)
  exact ⟨s', hs, (note_product_conserves_iff hs).mpr vmSettle_keeps⟩

end Sample
end DeFMI
