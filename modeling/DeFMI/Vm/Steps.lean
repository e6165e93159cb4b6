import DeFMI.Vm.ProductSteps
set_option autoImplicit false

/-!
Every transaction as a step: most leave the product path alone, the others are listed
with the reservations they resolve and the requests they close.
-/

namespace DeFMI
open Lib Participant InPlace VmState

section Listings

variable {V : Type}

def NoteProductTx.resolutions : NoteProductTx V → List Resolved
  | .allocate _ _ _ _ => []
  | .settle o _ _ => o.reservations.map (VmState.settled .note)
  | .settleStanding _ _ _ _ o _ _ => o.reservations.map (VmState.settled .note)
  | .settleBatch _ orders _ => orders.flatMap (fun o => o.1.reservations.map (VmState.settled .note))
  | .release o _ => [⟨.note, o.transition.holdId, .timeout⟩]
  | .releaseNoFill o _ _ => [⟨.note, o.release.transition.holdId, .noFill⟩]

def NoteProductTx.requests : NoteProductTx V → List Id
  | .settle o _ _ => [o.rfqNullifier]
  | .settleStanding _ _ _ _ o _ _ => [o.rfqNullifier]
  | .settleBatch _ orders _ => orders.map (fun o => o.1.rfqNullifier)
  | .releaseNoFill _ evidence _ => [evidence.signedTakerMandate.rfqNullifier]
  | _ => []

def LedgerTx.resolutions : LedgerTx V → List Resolved
  | .productRelease o _ => [⟨.account, o.transition.holdId, .timeout⟩]
  | .productSettlement o _ => o.reservations.map (VmState.settled .account)
  | .productSettlementBatch _ orders _ =>
    orders.flatMap (fun o => o.reservations.map (VmState.settled .account))
  | .noteProduct tx => tx.resolutions
  | _ => []

def LedgerTx.requests : LedgerTx V → List Id
  | .productSettlement o _ => [o.rfqNullifier]
  | .productSettlementBatch _ orders _ => orders.map (fun o => o.rfqNullifier)
  | .noteProduct tx => tx.requests
  | _ => []

def LedgerTx.isProduct : LedgerTx V → Bool
  | .standingNotePool _ _ => true
  | .admissionBatch _ _ _ => true
  | .admissionAdvance _ _ => true
  | .productReservation _ _ _ _ => true
  | .noteProductReservation _ _ _ _ => true
  | .productRelease _ _ => true
  | .productSettlement _ _ => true
  | .productSettlementBatch _ _ _ => true
  | .noteProduct _ => true
  | _ => false

def Tx.resolutions : Tx V → List Resolved
  | .ledger tx => tx.resolutions
  | _ => []

def Tx.requests : Tx V → List Id
  | .ledger tx => tx.requests
  | _ => []

def Tx.isProduct : Tx V → Bool
  | .ledger _ => true
  | .participantProductReservation _ _ _ _ _ _ _ _ => true
  | .application _ => true
  | _ => false

end Listings

namespace VmState

variable {V R : Type} {s t : VmState V R} {now : ℕ} {approval : Approval}

theorem ProductStep.insert_operation {rs : List Resolved} {requests : List Id} {id statement : Id}
    (h : ProductStep now rs requests s t) (hfresh : id ∉ s.operations) :
    ProductStep now rs requests s { t with operations := t.operations.insert id statement } :=
  { h with
    operations := h.operations.insert hfresh
    resolves := h.resolves.congr fun key => reservationStatus_congr rfl rfl key }

variable [AddCommGroup V] [DecidableEq V]

section Batches

variable {api : ProductApi V R}

theorem settleProduct_step {o : ProductSettlementOrder V}
    (h : s.settleProduct api now o approval = .ok t) :
    ProductStep now (o.reservations.map (settled .account)) [o.rfqNullifier] s t ∧ s.Beside t := by
  simp only [settleProduct, ok_iff] at h
  obtain ⟨_, _, _, _, happly⟩ := h
  exact applyProductSettlement_step happly

theorem settleProductBatch_step {batch : ProductSettlementBatch}
    {orders : List (ProductSettlementOrder V)}
    (h : s.settleProductBatch api now batch orders approval = .ok t) :
    ProductStep now (orders.flatMap (fun o => o.reservations.map (settled .account)))
      (orders.map (fun o => o.rfqNullifier)) s t ∧ s.Beside t := by
  simp only [settleProductBatch, ok_iff] at h
  obtain ⟨_, _, _, _, _, _, _, hfresh, u, hu, rfl⟩ := h
  have hstep := ProductStep.of_foldEach (fun o : ProductSettlementOrder V =>
      o.reservations.map (settled .account)) (fun o => [o.rfqNullifier])
    (fun v w o hw => (applyProductSettlement_step hw).1) hu
  have hbeside : s.Beside u := foldEach_invariant s.Beside
    (fun v w o hw hv => hv.trans (applyProductSettlement_step hw).2) hu (.refl s)
  rw [← List.map_eq_flatMap] at hstep
  exact ⟨hstep.insert_operation hfresh, ⟨hbeside.pools, hbeside.batches, hbeside.entries⟩⟩

end Batches

variable [Module Scalar V]

section Anonymous

variable {api : VmApi V R}

theorem settleNoteProductBatch_step {batch : ProductNoteSettlementBatch}
    {orders : List (ProductNoteSettlementOrder V × ProductSettlementEvidence V)}
    (h : s.settleNoteProductBatch api now batch orders approval = .ok t) :
    ProductStep now (orders.flatMap (fun o => o.1.reservations.map (settled .note)))
      (orders.map (fun o => o.1.rfqNullifier)) s t ∧ s.Beside t := by
  obtain ⟨statement, u, h⟩ := settleNoteProductBatch_ok h
  have hstep := ProductStep.of_foldEach (fun o : ProductNoteSettlementOrder V =>
      o.reservations.map (settled .note)) (fun o => [o.rfqNullifier])
    (fun v w o hw => (applyNoteProductSettlement_step hw).1) h.settled
  have hbeside : s.Beside u := foldEach_invariant s.Beside
    (fun v w o hw hv => hv.trans (applyNoteProductSettlement_step hw).2) h.settled (.refl s)
  rw [← List.map_eq_flatMap, List.flatMap_map, List.map_map] at hstep
  rw [h.same]
  exact ⟨hstep.insert_operation h.fresh, ⟨hbeside.pools, hbeside.batches, hbeside.entries⟩⟩

theorem executeNoteProduct_step {tx : NoteProductTx V}
    (h : s.executeNoteProduct api now tx = .ok t) :
    ProductStep now tx.resolutions tx.requests s t ∧ t.admissionBatches = s.admissionBatches ∧
      t.admissionEntries = s.admissionEntries := by
  cases tx with
  | allocate => exact allocateStandingNotePool_step h
  | settle =>
    obtain ⟨hstep, hbeside⟩ := applyNoteProductSettlement_step (settleNoteProduct_ok h)
    exact ⟨hstep, hbeside.batches, hbeside.entries⟩
  | settleStanding =>
    obtain ⟨u, hu, ht⟩ := settleStandingPoolProduct_ok h
    obtain ⟨hopen, hbatches, hentries⟩ := allocateStandingNotePool_step hu
    obtain ⟨hstep, hbeside⟩ := applyNoteProductSettlement_step ht
    exact ⟨hopen.trans hstep, hbeside.batches.trans hbatches, hbeside.entries.trans hentries⟩
  | settleBatch =>
    obtain ⟨hstep, hbeside⟩ := settleNoteProductBatch_step h
    exact ⟨hstep, hbeside.batches, hbeside.entries⟩
  | release =>
    obtain ⟨hstep, hbeside⟩ := releaseNoteProduct_step h
    exact ⟨hstep, hbeside.batches, hbeside.entries⟩
  | releaseNoFill =>
    obtain ⟨hstep, hbeside⟩ := releaseNoteProductNoFill_step h
    exact ⟨hstep, hbeside.batches, hbeside.entries⟩

end Anonymous

section Execution

variable {api : ConfidentialApi V R} {optimistic : ApplicationNoteFill V → Check}
  {tx : LedgerTx V}

section
variable (h : s.execute api optimistic now tx = .ok t)
include h

theorem execute_still (hquiet : tx.isProduct = false)
    (hcredit : ∀ o approval, tx ≠ .creditTransition o approval) : s.Still t := by
  cases tx with
  | asset => exact registerAsset_still h
  | account => exact openAccount_still h
  | guarantor => exact registerGuarantor_still h
  | creditGrant => exact grantCredit_still h
  | creditTransition o approval => exact absurd rfl (hcredit o approval)
  | creditControl => exact controlCredit_still h
  | creditAmendment => exact amendCredit_still h
  | settlement => exact settle_still h
  | csdIssuer => exact registerCsdIssuer_still h
  | csdIssuerControl => exact controlCsdIssuer_still h
  | note => exact issueNote_still h
  | noteClaimMaterialization => exact materializeNoteClaim_still h
  | noteClaimRedemption => exact redeemNoteClaim_still h
  | noteSettlement => exact settleNotes_still h
  | admissionCommittee => exact registerAdmissionCommittee_still h
  | settlementVerifier => exact registerSettlementVerifier_still h
  | applicationReserveScope => exact registerScope_still h
  | applicationNoteReservation => exact reserveApplication_still h
  | applicationNoteFill => exact fill_still h
  | applicationNoteFillBatch => exact fillBatch_still h
  | applicationNoteRelease => exact releaseApplication_still h
  | confidentialAssetIdentity => exact registerIdentity_still h
  | confidentialNote => exact issueConfidential_still h
  | confidentialNoteTransfer => exact transferConfidential_still h
  | confidentialNoteReservation => exact reserveConfidential_still h
  | confidentialNoteFill => exact confidentialFill_still h
  | _ => simp [LedgerTx.isProduct] at hquiet

theorem execute_quiet (hquiet : tx.isProduct = false) : s.Quiet t := by
  cases tx with
  | creditTransition => exact transitionCredit_quiet h
  | _ => exact (execute_still h hquiet (by simp)).toQuiet

theorem execute_step : ProductStep now tx.resolutions tx.requests s t := by
  cases tx with
  | standingNotePool => exact (registerStandingNotePool_step h).1
  | admissionBatch => exact (registerAdmissionBatch_step h).1
  | admissionAdvance => exact (advanceAdmission_step h).1
  | productReservation => exact (reserveProduct_step h).1
  | noteProductReservation => exact (reserveNoteProduct_step h).1
  | productRelease => exact (releaseProduct_step h).1
  | productSettlement => exact (settleProduct_step h).1
  | productSettlementBatch => exact (settleProductBatch_step h).1
  | noteProduct => exact (executeNoteProduct_step h).1
  | _ => exact (execute_quiet h rfl).productStep

end

end Execution
end VmState

/-- A runtime that keeps every replay row, note and claim of the ledger it is handed,
and the index of applied transactions. -/
def ApplicationRuntime.AppendOnly {V O : Type} (application : ApplicationRuntime V O) : Prop :=
  ∀ s params now t, application.execute s params now = .ok t →
    s.toVmState.Extends t.toVmState ∧ s.appliedTransactions ⊆ t.appliedTransactions

/-- A runtime that also stays away from reservations, pools and admission. -/
def ApplicationRuntime.StaysOut {V O : Type} (application : ApplicationRuntime V O) : Prop :=
  ∀ s params now t, application.execute s params now = .ok t → s.Quiet t

theorem ApplicationRuntime.StaysOut.appendOnly {V O : Type} {application : ApplicationRuntime V O}
    (h : application.StaysOut) : application.AppendOnly := by
  intro s params now t ht
  have hquiet := h s params now t ht
  exact ⟨hquiet.toExtends, hquiet.applied ▸ Finset.Subset.refl _⟩

theorem noApplications_staysOut {V O : Type} :
    (noApplications : ApplicationRuntime V O).StaysOut := by
  intro s params now t h
  simp [noApplications] at h

namespace HostState

variable {V O : Type} {api : HostApi V O} {application : ApplicationRuntime V O}
  {s t : HostState V O} {now : ℕ} {method : String} {tx : Tx V}

theorem productStep_registry {rs : List Resolved} {requests : List Id}
    {s t : VmState V (ParticipantRegistry V)} (registry : ParticipantRegistry V)
    (h : ProductStep now rs requests s t) :
    ProductStep now rs requests s { t with participantRegistry := registry } :=
  { h with resolves := h.resolves.congr fun key => reservationStatus_congr rfl rfl key }

structure ReplayKept (s t : HostState V O) : Prop extends s.toVmState.Extends t.toVmState where
  applied : s.appliedTransactions ⊆ t.appliedTransactions

variable [AddCommGroup V] [DecidableEq V]

theorem reserveProductWithMandate_ok {transition : CreditFacilityTransition V}
    {auth : ReservationAuthorization V} {custody : Custody V} {reservation : MandateReservation V}
    {underlyingApproval mandateApproval : Bytes}
    {expectedBeforeRoot expectedAfterUnderlyingRoot : Id}
    (h : s.reserveProductWithMandate api now transition auth custody reservation underlyingApproval
      mandateApproval expectedBeforeRoot expectedAfterUnderlyingRoot = .ok t) :
    ∃ u registry, s.reserveUnderlying api now transition auth
        ⟨expectedBeforeRoot, underlyingApproval⟩ custody = .ok u ∧
      t = { u with participantRegistry := registry } := by
  simp only [reserveProductWithMandate, ok_iff] at h
  obtain ⟨_, _, _, _, u, hu, _, _, _, _, _, registry, _, rfl⟩ := h
  exact ⟨u, registry, hu, rfl⟩

theorem reserveUnderlying_step {transition : CreditFacilityTransition V}
    {auth : ReservationAuthorization V} {approval : Approval} {custody : Custody V}
    (h : s.reserveUnderlying api now transition auth approval custody = .ok t) :
    ProductStep now [] [] s.toVmState t.toVmState ∧
      t.standingNotePools = s.standingNotePools ∧
      AdmissionTaken (ledgerApi api s now).toAdmissionApi now auth transition.operationId
        s.toVmState t.toVmState ∧ t.appliedTransactions = s.appliedTransactions := by
  cases custody with
  | account =>
    simp only [reserveUnderlying] at h
    obtain ⟨ledger, hledger, rfl⟩ := onLedger_ok h
    obtain ⟨hstep, hpools, htaken⟩ := reserveProduct_step hledger
    exact ⟨hstep, hpools, htaken, rfl⟩
  | note =>
    simp only [reserveUnderlying] at h
    obtain ⟨ledger, hledger, rfl⟩ := onLedger_ok h
    obtain ⟨hstep, hpools, htaken⟩ := reserveNoteProduct_step hledger
    exact ⟨hstep, hpools, htaken, rfl⟩

variable [Module Scalar V]

theorem dispatch_still (h : s.dispatch api application now method tx = .ok t)
    (hquiet : tx.isProduct = false) (hregistry : ∀ request approval, tx ≠ .registry request approval) :
    s.Still t := by
  cases tx with
  | crossDomainPrepare => exact prepareCrossDomain_still h
  | crossDomainArm => exact armCrossDomain_still h
  | crossDomainClaim => exact claimCrossDomain_still h
  | crossDomainRefund => exact refundCrossDomain_still h
  | crossDomainObserveClaim => exact observeCrossDomainClaim_still h
  | registry request approval => exact absurd rfl (hregistry request approval)
  | ledger _ | participantProductReservation | application _ => simp [Tx.isProduct] at hquiet
  | _ => exact (dispatch_aside rfl h).toStill

theorem dispatch_quiet (h : s.dispatch api application now method tx = .ok t)
    (hquiet : tx.isProduct = false) : s.Quiet t := by
  cases tx with
  | registry => exact requestRegistry_quiet h
  | _ => exact (dispatch_still h hquiet (by simp)).quiet

theorem dispatch_step (hstays : application.StaysOut)
    (h : s.dispatch api application now method tx = .ok t) :
    ProductStep now tx.resolutions tx.requests s.toVmState t.toVmState := by
  cases tx with
  | ledger =>
    simp only [dispatch] at h
    obtain ⟨ledger, hledger, rfl⟩ := onLedger_ok h
    exact execute_step hledger
  | participantProductReservation =>
    obtain ⟨u, registry, hu, rfl⟩ := reserveProductWithMandate_ok h
    exact productStep_registry registry (reserveUnderlying_step hu).1
  | application params => exact (hstays s params now t h).productStep
  | _ => exact (dispatch_quiet h rfl).productStep

theorem dispatch_applied (h : s.dispatch api application now method tx = .ok t)
    (htx : ∀ params, tx ≠ .application params) :
    s.toVmState.Extends t.toVmState ∧ t.appliedTransactions = s.appliedTransactions := by
  cases tx with
  | ledger =>
    simp only [dispatch] at h
    obtain ⟨ledger, hledger, rfl⟩ := onLedger_ok h
    exact ⟨(execute_step hledger).toExtends, rfl⟩
  | participantProductReservation =>
    obtain ⟨u, registry, hu, rfl⟩ := reserveProductWithMandate_ok h
    obtain ⟨hstep, _, _, happlied⟩ := reserveUnderlying_step hu
    exact ⟨(productStep_registry registry hstep).toExtends, happlied⟩
  | application params => exact absurd rfl (htx params)
  | _ =>
    have hquiet := dispatch_quiet h rfl
    exact ⟨hquiet.toExtends, hquiet.applied⟩

theorem dispatch_kept (happ : application.AppendOnly)
    (h : s.dispatch api application now method tx = .ok t) : s.ReplayKept t := by
  by_cases htx : ∀ params, tx ≠ .application params
  · obtain ⟨hext, happlied⟩ := dispatch_applied h htx
    exact { hext with applied := happlied ▸ Finset.Subset.refl _ }
  · simp only [not_forall, not_not] at htx
    obtain ⟨params, rfl⟩ := htx
    obtain ⟨hext, happlied⟩ := happ s params now t h
    exact { hext with applied := happlied }

end HostState

namespace HostState

variable {V O : Type} [AddCommGroup V] [Module Scalar V] [DecidableEq V] {api : MachineApi V O}
  {application : ApplicationRuntime V O} {s t : HostState V O} {now : ℕ} {bytes : Bytes}

def transact (api : MachineApi V O) (application : ApplicationRuntime V O) (call : Bytes × ℕ) :
    InPlace (HostState V O) TransitionReceipt :=
  applyWithApplication api application call.1 call.2

def listed {α : Type} (api : MachineApi V O) (f : Tx V → List α) (bytes : Bytes) : List α :=
  match api.decode bytes with
  | .ok envelope => f envelope.params
  | .error _ => []

structure Accepted (api : MachineApi V O) (application : ApplicationRuntime V O) (bytes : Bytes)
    (now : ℕ) (s t : HostState V O) (envelope : TransactionEnvelope V) (next : HostState V O) :
    Prop where
  decoded : api.decode bytes = .ok envelope
  fresh : api.transactionId bytes ∉ s.appliedTransactions
  dispatched : s.dispatch api.toHostApi application now envelope.method envelope.params = .ok next
  result : t = { next with
    appliedTransactions := insert (api.transactionId bytes) next.appliedTransactions
    transitionCount := next.transitionCount + 1 }
  valid : t.validate api.toHostApi = .ok ()

theorem applyWithApplication_ok {receipt : TransitionReceipt}
    (h : applyWithApplication api application bytes now s = (.ok receipt, t)) :
    ∃ envelope next, Accepted api application bytes now s t envelope next := by
  simp only [applyWithApplication, ran_iff, ok_iff] at h
  obtain ⟨_, _, envelope, hdecode, hfresh, _, _, u, hu, _, rfl⟩ := h
  simp only [successor, execute, ok_iff, checkedSucc_eq_some] at hu
  obtain ⟨next, ⟨_, hdispatch⟩, _, ⟨_, rfl⟩, hvalid, _, rfl⟩ := hu
  exact ⟨envelope, next, hdecode, hfresh, hdispatch, rfl, hvalid⟩

theorem transact_restores (call : Bytes × ℕ) :
    Restores (transact api application call) := by
  iterate 6 refine restores_check_bind fun _ => ?_
  -- what remains writes the copy back and cannot fail
  intro u e v h
  rw [modify_bind] at h
  cases h

end HostState
end DeFMI
