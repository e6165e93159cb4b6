import DeFMI.Vm.Machine
set_option autoImplicit false

/-!
What a transaction may do to the tables that guard against replay, and which
transactions leave the product path alone. Rows of the replay tables and notes are
only ever added, and a claim is redeemed at most once.
-/

namespace DeFMI
open Lib Participant Table

section Rows

variable {V : Type}

def ClaimKept (c c' : NoteClaimRecord V) : Prop :=
  c' = c ∨ c.status = .active ∧
    ∃ statement, c' = { c with status := .materialized, materialization := statement }

theorem ClaimKept.trans {c c' c'' : NoteClaimRecord V} (h : ClaimKept c c')
    (h' : ClaimKept c' c'') : ClaimKept c c'' := by
  grind [ClaimKept]

def HoldsKept (a b : Table Id (CreditHoldRecord V)) : Prop :=
  ∀ id hold, a.lookup id = some hold →
    ∃ hold', b.lookup id = some hold' ∧ hold'.expiresAt = hold.expiresAt

namespace HoldsKept

variable {a b c : Table Id (CreditHoldRecord V)} {id : Id} {hold hold' : CreditHoldRecord V}

theorem refl (a : Table Id (CreditHoldRecord V)) : HoldsKept a a := fun _ hold h => ⟨hold, h, rfl⟩

theorem trans (hab : HoldsKept a b) (hbc : HoldsKept b c) : HoldsKept a c := by
  grind [HoldsKept]

theorem insert_fresh (h : id ∉ a) : HoldsKept a (a.insert id hold) := fun id' hold' h' =>
  ⟨hold', keeps_insert h id' hold' h', rfl⟩

theorem insert_same (hab : HoldsKept a b) (h : a.lookup id = some hold)
    (he : hold'.expiresAt = hold.expiresAt) : HoldsKept a (b.insert id hold') := by
  grind [HoldsKept]

end HoldsKept
end Rows

namespace VmState

variable {V R : Type}

structure Extends (s t : VmState V R) : Prop where
  operations : s.operations.Keeps t.operations
  nullifiers : s.nullifiers.Keeps t.nullifiers
  noteSerials : s.noteSerials.Keeps t.noteSerials
  noteIssuances : s.noteIssuances.Keeps t.noteIssuances
  rfqNullifiers : s.rfqNullifiers.Keeps t.rfqNullifiers
  notes : s.notes.Keeps t.notes
  claims : ∀ id claim, s.noteClaims.lookup id = some claim →
    ∃ claim', t.noteClaims.lookup id = some claim' ∧ ClaimKept claim claim'

theorem Extends.refl (s : VmState V R) : s.Extends s where
  operations := .refl _
  nullifiers := .refl _
  noteSerials := .refl _
  noteIssuances := .refl _
  rfqNullifiers := .refl _
  notes := .refl _
  claims _ claim h := ⟨claim, h, .inl rfl⟩

theorem Extends.trans {s t u : VmState V R} (hst : s.Extends t) (htu : t.Extends u) :
    s.Extends u where
  operations := hst.operations.trans htu.operations
  nullifiers := hst.nullifiers.trans htu.nullifiers
  noteSerials := hst.noteSerials.trans htu.noteSerials
  noteIssuances := hst.noteIssuances.trans htu.noteIssuances
  rfqNullifiers := hst.rfqNullifiers.trans htu.rfqNullifiers
  notes := hst.notes.trans htu.notes
  claims id claim h := by
    obtain ⟨claim', h', hkept⟩ := hst.claims id claim h
    obtain ⟨claim'', h'', hkept'⟩ := htu.claims id claim' h'
    exact ⟨claim'', h'', hkept.trans hkept'⟩

/-- The product path is left alone: reservations, pools, admission and the request
nullifiers are as they were, and holds keep their expiry. -/
structure Quiet (s t : VmState V R) : Prop extends s.Extends t where
  rfq : t.rfqNullifiers = s.rfqNullifiers
  bindings : t.reservationBindings = s.reservationBindings
  escrows : t.reservationEscrows = s.reservationEscrows
  noteReservations : t.noteReservations = s.noteReservations
  pools : t.standingNotePools = s.standingNotePools
  batches : t.admissionBatches = s.admissionBatches
  entries : t.admissionEntries = s.admissionEntries
  holds : HoldsKept s.creditHolds t.creditHolds

theorem Quiet.refl (s : VmState V R) : s.Quiet s where
  toExtends := .refl s
  rfq := rfl
  bindings := rfl
  escrows := rfl
  noteReservations := rfl
  pools := rfl
  batches := rfl
  entries := rfl
  holds := .refl _

theorem Quiet.trans {s t u : VmState V R} (hst : s.Quiet t) (htu : t.Quiet u) : s.Quiet u where
  toExtends := hst.toExtends.trans htu.toExtends
  rfq := htu.rfq.trans hst.rfq
  bindings := htu.bindings.trans hst.bindings
  escrows := htu.escrows.trans hst.escrows
  noteReservations := htu.noteReservations.trans hst.noteReservations
  pools := htu.pools.trans hst.pools
  batches := htu.batches.trans hst.batches
  entries := htu.entries.trans hst.entries
  holds := hst.holds.trans htu.holds

/-- A quiet step that also leaves alone the registry and every hold that no application
was given. -/
structure Still (s t : VmState V R) : Prop extends s.Quiet t where
  registry : t.participantRegistry = s.participantRegistry
  others : ∀ id hold, s.creditHolds.lookup id = some hold → id ∉ s.applicationReservations →
    t.creditHolds.lookup id = some hold ∧ id ∉ t.applicationReservations

theorem Still.refl (s : VmState V R) : s.Still s where
  toQuiet := .refl s
  registry := rfl
  others _ _ h hid := ⟨h, hid⟩

theorem Still.trans {s t u : VmState V R} (hst : s.Still t) (htu : t.Still u) : s.Still u where
  toQuiet := hst.toQuiet.trans htu.toQuiet
  registry := htu.registry.trans hst.registry
  others id hold h hid :=
    have ht := hst.others id hold h hid
    htu.others id hold ht.1 ht.2

section Lines

variable {api : LinesApi V R} {s t : VmState V R} {now : ℕ} {approval : Approval}

theorem registerAsset_still {d : AssetDefinition} (h : s.registerAsset api d approval = .ok t) :
    s.Still t := by
  simp only [registerAsset, ok_iff] at h
  obtain ⟨_, _, _, _, rfl⟩ := h
  exact { Still.refl s with }

theorem registerGuarantor_still {d : GuarantorDefinition}
    (h : s.registerGuarantor api d approval = .ok t) : s.Still t := by
  simp only [registerGuarantor, ok_iff] at h
  obtain ⟨_, _, _, _, _, rfl⟩ := h
  exact { Still.refl s with }

structure AccountsMoved (s t : VmState V R) : Prop where
  same : t = { s with accounts := t.accounts }

theorem moveAccount_moved {handle : Id} {account : AccountRecord V} {commitment : CompressedPoint V}
    {overflow : String} (h : s.moveAccount handle account commitment overflow = .ok t) :
    s.AccountsMoved t := by
  simp only [moveAccount, ok_iff] at h
  obtain ⟨_, _, rfl⟩ := h
  exact ⟨rfl⟩

theorem applyLegs_moved {legs : List (StateLeg V)} (h : foldEach applyLeg s legs = .ok t) :
    s.AccountsMoved t := by
  refine foldEach_invariant s.AccountsMoved ?_ h ⟨rfl⟩
  intro u v leg hv hu
  simp only [applyLeg, ok_iff] at hv
  obtain ⟨_, _, hmove⟩ := hv
  have hmoved := (moveAccount_moved hmove).same
  rw [hu.same] at hmoved
  exact ⟨hmoved⟩

variable [DecidableEq V]

theorem nextHold_kept {facility : CreditFacilityRecord V} {o : CreditFacilityTransition V}
    {hold : CreditHoldRecord V} (h : s.nextHold now facility o = .ok hold) :
    HoldsKept s.creditHolds (s.creditHolds.insert o.holdId hold) := by
  unfold nextHold at h
  cases hkind : o.kind with
  | hold =>
    simp only [hkind, ok_iff] at h
    obtain ⟨_, _, _, hfresh, rfl⟩ := h
    exact .insert_fresh hfresh
  | release =>
    simp only [hkind, ok_iff] at h
    obtain ⟨old, hold, _, _, _, rfl⟩ := h
    exact (HoldsKept.refl _).insert_same hold rfl
  | consume =>
    simp only [hkind, ok_iff] at h
    obtain ⟨old, hold, _, _, rfl⟩ := h
    exact (HoldsKept.refl _).insert_same hold rfl

theorem applySettlementOrder_still {o : SettlementOrder V} {statement : Id}
    (h : s.applySettlementOrder o now statement = .ok t) : s.Still t := by
  simp only [applySettlementOrder, ok_iff] at h
  obtain ⟨_, hoperation, hnullifier, _, u, hu, rfl⟩ := h
  rw [(applyLegs_moved hu).same]
  exact { Still.refl s with
    operations := keeps_insert hoperation
    nullifiers := keeps_insert hnullifier }

variable [AddCommGroup V]

theorem openAccount_still {o : AccountOpening V} (h : s.openAccount api o approval = .ok t) :
    s.Still t := by
  simp only [openAccount, ok_iff] at h
  obtain ⟨_, _, _, _, _, _, _, rfl⟩ := h
  exact { Still.refl s with }

theorem grantCredit_still {g : CreditFacilityGrant V}
    (h : s.grantCredit api now g approval = .ok t) : s.Still t := by
  simp only [grantCredit, ok_iff] at h
  obtain ⟨_, _, _, _, hfresh, _, _, _, _, _, _, rfl⟩ := h
  exact { Still.refl s with operations := keeps_insert hfresh }

theorem transitionCredit_quiet {o : CreditFacilityTransition V}
    (h : s.transitionCredit api now o approval = .ok t) : s.Quiet t := by
  simp only [transitionCredit, ok_iff] at h
  obtain ⟨_, _, _, hfresh, _, _, _, hold, hnext, _, _, rfl⟩ := h
  exact { Quiet.refl s with
    operations := keeps_insert hfresh
    holds := nextHold_kept hnext }

theorem controlCredit_still {c : CreditFacilityControl}
    (h : s.controlCredit api now c approval = .ok t) : s.Still t := by
  simp only [controlCredit, ok_iff] at h
  obtain ⟨_, _, _, _, hfresh, _, _, _, _, _, _, _, _, _, rfl⟩ := h
  exact { Still.refl s with operations := keeps_insert hfresh }

theorem amendCredit_still {a : CreditFacilityAmendment V}
    (h : s.amendCredit api now a approval = .ok t) : s.Still t := by
  simp only [amendCredit, ok_iff] at h
  obtain ⟨_, _, _, _, hfresh, _, _, _, _, _, _, _, _, _, _, rfl⟩ := h
  exact { Still.refl s with operations := keeps_insert hfresh }

theorem settle_still {o : SettlementOrder V} (h : s.settle api now o approval = .ok t) :
    s.Still t := by
  simp only [settle, ok_iff] at h
  obtain ⟨_, _, _, happly⟩ := h
  exact applySettlementOrder_still happly

end Lines

section Notes

variable {api : NotesApi V R} {s t : VmState V R} {now : ℕ} {approval : Approval} {note : NoteApi V}
  {statement : Id}

theorem applyNoteSpendSerial_still {spend : NoteSpend V} {deadline : ℕ}
    (h : s.applyNoteSpendSerial spend deadline statement = .ok t) : s.Still t := by
  obtain ⟨hfresh, rfl⟩ := applyNoteSpendSerial_ok h
  exact { Still.refl s with noteSerials := keeps_insert hfresh }

theorem foldEach_still {α : Type} {step : VmState V R → α → Result (VmState V R)}
    (hstep : ∀ s t a, step s a = .ok t → s.Still t) {as : List α}
    (h : foldEach step s as = .ok t) : s.Still t :=
  foldEach_invariant s.Still (fun u v a hv hu => hu.trans (hstep u v a hv)) h (.refl s)

theorem registerCsdIssuer_still {d : CsdIssuerDefinition}
    (h : s.registerCsdIssuer api now d approval = .ok t) : s.Still t := by
  simp only [registerCsdIssuer, ok_iff] at h
  obtain ⟨_, _, _, _, _, _, _, rfl⟩ := h
  exact { Still.refl s with }

theorem controlCsdIssuer_still {c : CsdIssuerControl}
    (h : s.controlCsdIssuer api c approval = .ok t) : s.Still t := by
  simp only [controlCsdIssuer, ok_iff] at h
  obtain ⟨_, _, _, _, hfresh, _, _, _, _, _, _, _, rfl⟩ := h
  exact { Still.refl s with operations := keeps_insert hfresh }

theorem claims_resolve {claims : Table Id (NoteClaimRecord V)} {claimId statement : Id}
    {claim : NoteClaimRecord V} (h : claims.lookup claimId = some claim)
    (hactive : claim.status = .active) (id : Id) (old : NoteClaimRecord V)
    (hold : claims.lookup id = some old) :
    ∃ claim', (claims.insert claimId
        { claim with status := .materialized, materialization := statement }).lookup id =
      some claim' ∧ ClaimKept old claim' := by
  grind [ClaimKept]

variable [AddCommGroup V] [DecidableEq V]

theorem insertNoteWithConfidentiality_still {output : NoteOutput V}
    {hidden : Bool} (h : s.insertNoteWithConfidentiality note output hidden = .ok t) :
    s.Still t := by
  obtain ⟨hfresh, rfl⟩ := insertNoteWithConfidentiality_ok h
  exact { Still.refl s with notes := keeps_insert hfresh }

theorem insertNotes_still {hidden : Bool} {outputs : List (NoteOutput V)}
    (h : insertNotes note hidden s outputs = .ok t) : s.Still t :=
  foldEach_still (fun _ _ _ hv => insertNoteWithConfidentiality_still hv) h

theorem applyNoteSpend_still {spend : NoteSpend V} {deadline : ℕ}
    (h : s.applyNoteSpend note spend deadline statement = .ok t) :
    s.Still t := by
  obtain ⟨hsame, hserials, hnotes⟩ := applyNoteSpend_ok h
  rw [hsame]
  exact { Still.refl s with noteSerials := hserials, notes := hnotes }

theorem issueNote_still {i : NoteIssuance V} (h : s.issueNote api now i approval = .ok t) :
    s.Still t := by
  simp only [issueNote, ok_iff] at h
  obtain ⟨_, _, _, _, _, hfresh, _, _, _, _, u, hu, rfl⟩ := h
  have hstill := insertNoteWithConfidentiality_still hu
  rw [not_or, not_or] at hfresh
  exact { hstill with
    operations := hstill.operations.insert hfresh.1
    noteIssuances := hstill.noteIssuances.insert hfresh.2.1 }

theorem materializeNoteClaim_still {m : NoteClaimMaterialization V}
    (h : s.materializeNoteClaim api m approval = .ok t) : s.Still t := by
  simp only [materializeNoteClaim, ok_iff] at h
  obtain ⟨_, _, _, _, hfresh, claim, hclaim, _, hguard, u, hu, rfl⟩ := h
  obtain ⟨hnote, rfl⟩ := insertNoteWithConfidentiality_ok hu
  simp only [not_or, not_not] at hguard
  exact { Still.refl s with
    operations := keeps_insert hfresh
    notes := keeps_insert hnote
    claims := claims_resolve hclaim hguard.1 }

theorem redeemNoteClaim_still {r : NoteClaimRedemption V}
    (h : s.redeemNoteClaim api now r = .ok t) : s.Still t := by
  simp only [redeemNoteClaim, ok_iff] at h
  obtain ⟨hfresh, claim, hclaim, hguard, _, _, _, u, hu, rfl⟩ := h
  obtain ⟨hnote, rfl⟩ := insertNoteWithConfidentiality_ok hu
  simp only [not_or, not_not] at hguard hfresh
  exact { Still.refl s with
    operations := keeps_insert hfresh.2
    notes := keeps_insert hnote
    claims := claims_resolve hclaim hguard.1 }

theorem applyNoteSettlement_still {o : NoteSettlementOrder V}
    (h : s.applyNoteSettlement api o statement = .ok t) : s.Still t := by
  unfold applyNoteSettlement at h
  cases hout : o.consolidatedOutput with
  | some =>
    simp only [hout, ok_iff] at h
    obtain ⟨u, hserials, hnote⟩ := h
    have hstill : s.Still u := foldEach_still (fun _ _ _ hv => applyNoteSpendSerial_still hv) hserials
    exact hstill.trans (insertNoteWithConfidentiality_still hnote)
  | none =>
    simp only [hout] at h
    exact foldEach_still (fun _ _ _ hv => applyNoteSpend_still hv) h

theorem settleNotes_still {o : NoteSettlementOrder V} (h : s.settleNotes api now o approval = .ok t) :
    s.Still t := by
  simp only [settleNotes, ok_iff] at h
  obtain ⟨_, statement, _, _, _, hoperation, hnullifier, _, _, happly⟩ := h
  refine Still.trans ?_ (applyNoteSettlement_still happly)
  exact { Still.refl s with
    operations := keeps_insert hoperation
    nullifiers := keeps_insert hnullifier }

end Notes

section Admission

variable {api : AdmissionApi V R} {s t : VmState V R} {now : ℕ} {approval : Approval}

theorem registerAdmissionCommittee_still {plan : AdmissionCommitteePlan}
    (h : s.registerAdmissionCommittee api now plan approval = .ok t) : s.Still t := by
  simp only [registerAdmissionCommittee, ok_iff] at h
  obtain ⟨_, statement, _, _, _, hstore⟩ := h
  cases hlookup : s.admissionCommittees.lookup (plan.venueId, plan.epoch) with
  | some =>
    simp only [hlookup, committeeRetry, ok_iff] at hstore
    obtain ⟨_, rfl⟩ := hstore
    exact .refl s
  | none =>
    simp only [hlookup, addCommittee, ok_iff] at hstore
    obtain ⟨hfresh, rfl⟩ := hstore
    exact { Still.refl s with operations := keeps_insert hfresh }

theorem registerSettlementVerifier_still {config : SettlementVerifierRecord}
    (h : s.registerSettlementVerifier api now config approval = .ok t) : s.Still t := by
  simp only [registerSettlementVerifier, ok_iff] at h
  obtain ⟨_, _, _, _, rfl⟩ := h
  exact { Still.refl s with }

end Admission

section Applications

variable {s t : VmState V R} {now : ℕ} {approval : Approval} {statement : Id}
  {record : ApplicationReservationRecord V} {r : ApplicationNoteReservation V}
  {order : ApplicationNoteFill V} {holdId : Id} {api : FillApi V R}
  {optimistic : ApplicationNoteFill V → Check}

theorem registerScope_still {api : ReserveApi V R} {scope : ApplicationReserveScope}
    (h : s.registerScope api scope approval = .ok t) : s.Still t := by
  simp only [registerScope, ok_iff] at h
  obtain ⟨_, _, _, _, _, _, rfl⟩ := h
  exact { Still.refl s with }

theorem bookApplication_still {facility : CreditFacilityRecord V}
    (h : ¬s.ReserveUsed r) : s.Still (s.bookApplication facility r) := by
  have hhold : r.binding.holdId ∉ s.creditHolds := fun hmem => h (.inl hmem)
  exact { Still.refl s with
    holds := .insert_fresh hhold
    others id hold hrow hid := ⟨keeps_insert hhold id hold hrow, hid⟩ }

theorem storeApplication_still {u : VmState V R}
    (h : ¬s.ReserveUsed r) (hu : s.Still u) : s.Still (u.storeApplication r statement) := by
  have hoperation : r.transition.operationId ∉ s.operations := fun hmem => h (.inr (.inl hmem))
  refine { hu with operations := hu.operations.insert hoperation, others := ?_ }
  intro id hold hrow hid
  obtain ⟨hkept, hapart⟩ := hu.others id hold hrow hid
  refine ⟨hkept, fun hmem => ?_⟩
  rcases (AList.mem_insert _).mp hmem with rfl | hmem
  · exact h (.inl (mem_of_lookup hrow))
  · exact hapart hmem

theorem consumeCovenant_ok {api : NoteApi V} (h : s.consumeCovenant api record statement = .ok t) :
    ∃ serials, s.noteSerials.Keeps serials ∧ t = { s with noteSerials := serials } := by
  unfold consumeCovenant at h
  by_cases hseq : record.sequence = 0
  · simp only [hseq, if_true, ok_iff] at h
    obtain ⟨hfresh, rfl⟩ := h
    exact ⟨_, keeps_insert hfresh, rfl⟩
  · simp only [hseq, if_false, ok_iff] at h
    obtain ⟨_, rfl⟩ := h
    exact ⟨_, .refl _, rfl⟩

theorem claims_insert {claims : Table Id (NoteClaimRecord V)} {claimId : Id}
    {record : NoteClaimRecord V} (h : claimId ∉ claims) (id : Id) (old : NoteClaimRecord V)
    (hold : claims.lookup id = some old) :
    ∃ claim', (claims.insert claimId record).lookup id = some claim' ∧ ClaimKept old claim' :=
  ⟨old, keeps_insert h id old hold, .inl rfl⟩

theorem others_insert {holds : Table Id (CreditHoldRecord V)}
    {applications : Table Id (ApplicationReservationRecord V)} {key : Id}
    {hold' : CreditHoldRecord V}
    (hkey : key ∈ s.applicationReservations)
    (hothers : ∀ id hold, s.creditHolds.lookup id = some hold → id ∉ s.applicationReservations →
      holds.lookup id = some hold ∧ id ∉ applications) (id : Id)
    (hold : CreditHoldRecord V) (h : s.creditHolds.lookup id = some hold)
    (hid : id ∉ s.applicationReservations) :
    (holds.insert key hold').lookup id = some hold ∧ id ∉ applications.insert key record := by
  grind

variable [DecidableEq V]

theorem checkHead_mem {scope : ApplicationReserveScope} {confidential : Bool} {leg : FillLeg}
    (h : s.checkHead now scope confidential order leg = .ok record) :
    (order.head leg).holdId ∈ s.applicationReservations := by
  simp only [checkHead, ok_iff] at h
  obtain ⟨_, _, hrow, _⟩ := h
  exact mem_of_lookup hrow

variable [AddCommGroup V]

theorem insertApplicationClaim_still {api : NoteApi V} {claim : NoteClaim V}
    (h : insertApplicationClaim api statement s claim = .ok t) : s.Still t := by
  simp only [insertApplicationClaim, ok_iff] at h
  obtain ⟨_, hfresh, _, rfl⟩ := h
  exact { Still.refl s with claims := claims_insert hfresh }

theorem applyLegFill_still {leg : PreparedLeg V} (hhead : leg.head.holdId ∈ s.applicationReservations)
    (h : applyLegFill api statement s leg = .ok t) :
    s.Still t ∧ ∀ id ∈ s.applicationReservations, id ∈ t.applicationReservations := by
  simp only [applyLegFill, ok_iff] at h
  obtain ⟨_, _, _, _, _, _, _, hold, hhold, _, _, _, _, facility, _, u, hu, _, _, rfl⟩ := h
  obtain ⟨serials, hserials, rfl⟩ := consumeCovenant_ok hu
  refine ⟨?_, fun id hid => (AList.mem_insert _).mpr (.inr hid)⟩
  exact { Still.refl s with
    noteSerials := hserials
    holds := (HoldsKept.refl _).insert_same hhold rfl
    others := others_insert hhead (Still.refl s).others }

theorem reissueEscrow_still (h : s.reissueEscrow api holdId record = .ok t) : s.Still t := by
  simp only [reissueEscrow, ok_iff] at h
  obtain ⟨_, _, hnote⟩ := h
  exact insertNoteWithConfidentiality_still hnote

variable [Module Scalar V]

theorem reserveApplication_still {api : ReserveApi V R}
    (h : s.reserveApplication api now r approval = .ok t) : s.Still t := by
  simp only [reserveApplication, ok_iff] at h
  obtain ⟨_, _, _, _, _, _, _, _, hunused, _, _, _, _, _, _, _, _, _, u, hu, rfl⟩ := h
  exact storeApplication_still hunused
    ((bookApplication_still hunused).trans (applyNoteSpend_still hu))

theorem applyFillInner_still {parent : Id} {confidential : Option (VerifiedApplicationFill V)}
    (h : s.applyFillInner api order parent now confidential = .ok t) : s.Still t := by
  simp only [applyFillInner, ok_iff] at h
  obtain ⟨hparent, _, _, _, _, _, hsecurities, _, hcash, verified, _, hnullifier, u, hu, v, hv, rfl⟩
    := h
  rw [foldEach_cons] at hu
  obtain ⟨w, hw, hu⟩ := hu
  obtain ⟨hfirst, hkept⟩ := applyLegFill_still (checkHead_mem hsecurities) hw
  rw [foldEach_cons] at hu
  obtain ⟨x, hx, hu⟩ := hu
  obtain ⟨hsecond, _⟩ := applyLegFill_still (hkept _ (checkHead_mem hcash)) hx
  obtain rfl := foldEach_nil.mp hu
  have hclaims : s.Still v := (hfirst.trans hsecond).trans
    (foldEach_still (fun _ _ _ hclaim => insertApplicationClaim_still hclaim) hv)
  rw [not_or] at hparent
  exact { hclaims with
    operations := hclaims.operations.insert hparent.2
    nullifiers := hclaims.nullifiers.insert hnullifier }

theorem fill_still (h : s.fill api optimistic now order = .ok t) : s.Still t := by
  simp only [fill, applyFill, ok_iff] at h
  obtain ⟨_, _, happly⟩ := h
  exact applyFillInner_still happly

theorem fillBatch_still {batch : ApplicationNoteFillBatch V}
    (h : s.fillBatch api optimistic now batch = .ok t) : s.Still t := by
  simp only [fillBatch, applyFill, ok_iff] at h
  obtain ⟨_, _, _, _, _, hfold⟩ := h
  refine foldEach_still (fun u v order hv => ?_) hfold
  simp only [ok_iff] at hv
  obtain ⟨_, happly⟩ := hv
  exact applyFillInner_still happly

theorem refundRemainder_still
    (h : s.refundRemainder api holdId record statement = .ok t) : s.Still t := by
  simp only [refundRemainder, ok_iff] at h
  obtain ⟨_, _, h⟩ := h
  split at h
  · simp only [refundConfidential, ok_iff] at h
    obtain ⟨_, _, _, _, _, _, _, hclaim⟩ := h
    refine Still.trans ?_ (insertApplicationClaim_still hclaim)
    exact { Still.refl s with }
  · simp only [ok_iff] at h
    obtain ⟨_, _, hclaim⟩ := h
    exact insertApplicationClaim_still hclaim

theorem returnReserved_still
    (h : s.returnReserved api holdId record statement = .ok t) : s.Still t := by
  unfold returnReserved at h
  split at h
  · exact reissueEscrow_still h
  · exact refundRemainder_still h

theorem releaseApplication_still {order : ApplicationNoteRelease}
    (h : s.releaseApplication api now order = .ok t) : s.Still t := by
  simp only [releaseApplication, ok_iff] at h
  obtain ⟨hparent, record, hrecord, _, _, _, hold, hhold, _, _, _, _, _, _, _, u, hu, v, hv, _, _,
    rfl⟩ := h
  have hvalue := returnReserved_still hu
  obtain ⟨serials, hserials, rfl⟩ := consumeCovenant_ok hv
  rw [not_or] at hparent
  exact { hvalue with
    operations := hvalue.operations.insert hparent.2
    noteSerials := hvalue.noteSerials.trans hserials
    holds := hvalue.holds.insert_same hhold rfl
    others := others_insert (mem_of_lookup hrecord) hvalue.others }

end Applications
section Confidential

variable {api : ConfidentialApi V R} {s t : VmState V R} {now : ℕ} {approval : Approval}
  {identity : AssetIdentity V}

theorem storeConversions_still (s : VmState V R) (order : ConfidentialFill V) (leg : FillLeg)
    (converted : ConvertedLeg V) : s.Still (s.storeConversions order leg converted) :=
  { Still.refl s with }

variable [DecidableEq V]

theorem storeIdentity_still (h : s.storeIdentity identity = .ok t) : s.Still t := by
  unfold storeIdentity at h
  split at h
  · simp only [ok_iff] at h
    obtain ⟨_, rfl⟩ := h
    exact .refl s
  · obtain rfl := Except.ok.inj h
    exact { Still.refl s with }

variable [AddCommGroup V]

theorem applyConfidentialSpend_still {note : NoteApi V} {spend : NoteSpend V} {deadline : ℕ}
    {statement : Id} (h : s.applyConfidentialSpend note spend deadline statement = .ok t) :
    s.Still t := by
  simp only [applyConfidentialSpend, ok_iff] at h
  obtain ⟨u, hserial, hnotes⟩ := h
  exact (applyNoteSpendSerial_still hserial).trans (insertNotes_still hnotes)

variable [Module Scalar V]

theorem ensureIdentity_still {cohort : List Id}
    (h : s.ensureIdentity api identity cohort = .ok t) : s.Still t := by
  simp only [ensureIdentity, ok_iff] at h
  obtain ⟨_, _, hstore⟩ := h
  exact storeIdentity_still hstore

theorem registerIdentity_still
    (h : s.registerIdentity api identity approval = .ok t) : s.Still t := by
  simp only [registerIdentity, ok_iff] at h
  obtain ⟨_, _, _, _, hensure⟩ := h
  exact ensureIdentity_still hensure

theorem issueConfidential_still {order : ConfidentialIssuance V}
    (h : s.issueConfidential api now order approval = .ok t) : s.Still t := by
  simp only [issueConfidential, ok_iff] at h
  obtain ⟨_, _, _, _, hfresh, _, _, _, _, u, hu, v, hv, rfl⟩ := h
  have hstill := (ensureIdentity_still hu).trans (insertNoteWithConfidentiality_still hv)
  simp only [not_or] at hfresh
  exact { hstill with
    operations := hstill.operations.insert hfresh.2.1
    noteIssuances := hstill.noteIssuances.insert hfresh.2.2 }

theorem transferConfidential_still {order : ConfidentialTransfer V}
    (h : s.transferConfidential api now order approval = .ok t) : s.Still t := by
  simp only [transferConfidential, ok_iff] at h
  obtain ⟨_, _, _, _, hfresh, _, _, _, u, hu, v, hv, rfl⟩ := h
  have hstill := (ensureIdentity_still hu).trans (applyConfidentialSpend_still hv)
  simp only [not_or] at hfresh
  exact { hstill with operations := hstill.operations.insert hfresh.2.2.2 }

theorem reserveConfidential_still {order : ConfidentialReservation V}
    (h : s.reserveConfidential api now order approval = .ok t) : s.Still t := by
  simp only [reserveConfidential, ok_iff] at h
  obtain ⟨_, _, _, _, _, _, _, _, hunused, _, _, _, _, _, _, _, _, u, hu, _, _, rfl⟩ := h
  have hstill := (bookApplication_still hunused).trans (applyConfidentialSpend_still hu)
  exact storeApplication_still hunused { hstill with }

theorem confidentialFill_still {optimistic : ApplicationNoteFill V → Check}
    {order : ConfidentialFill V} (h : s.confidentialFill api optimistic now order = .ok t) :
    s.Still t := by
  simp only [confidentialFill, ok_iff] at h
  obtain ⟨_, _, _, _, _, _, _, _, _, _, _, u, hu, rfl⟩ := h
  exact ((applyFillInner_still hu).trans (storeConversions_still ..)).trans
    (storeConversions_still ..)

end Confidential
end VmState

def Tx.isAside {V : Type} : Tx V → Bool
  | .ledger _ | .crossDomainPrepare .. | .crossDomainArm .. | .crossDomainClaim .. => false
  | .crossDomainRefund .. | .crossDomainObserveClaim .. | .registry .. => false
  | .participantProductReservation .. | .application _ => false
  | _ => true

namespace HostState

variable {V O : Type} {api : HostApi V O} {application : ApplicationRuntime V O}
  {s t : HostState V O} {now : ℕ} {approval : Approval} {order : SettlementOrder V}
  {localLegId : Bytes}

theorem onLedger_ok {f : VmState V (ParticipantRegistry V) →
      Result (VmState V (ParticipantRegistry V))} (h : s.onLedger f = .ok t) :
    ∃ ledger, f s.toVmState = .ok ledger ∧ t = { s with toVmState := ledger } := by
  simp only [onLedger, ok_iff] at h
  obtain ⟨ledger, hledger, rfl⟩ := h
  exact ⟨ledger, hledger, rfl⟩

/-- The index of applied transactions is kept by the handlers; `successor` writes it. -/
structure Quiet (s t : HostState V O) : Prop extends s.toVmState.Quiet t.toVmState where
  applied : t.appliedTransactions = s.appliedTransactions

structure Still (s t : HostState V O) : Prop extends
    toLedger : s.toVmState.Still t.toVmState where
  applied : t.appliedTransactions = s.appliedTransactions

structure Aside (s t : HostState V O) : Prop extends s.Still t where
  crossDomain : t.crossDomain = s.crossDomain
  policy : t.deploymentCryptoPolicy = s.deploymentCryptoPolicy

theorem Aside.refl (s : HostState V O) : s.Aside s where
  toStill := Still.mk (.refl _) rfl
  crossDomain := rfl
  policy := rfl

theorem Still.quiet (h : s.Still t) : s.Quiet t := { h with }

theorem armCrossDomain_still {receipt : FinalityReceipt}
    (h : s.armCrossDomain api now localLegId receipt = .ok t) : s.Still t := by
  simp only [armCrossDomain, ok_iff] at h
  obtain ⟨_, _, _, _, rfl⟩ := h
  exact { Aside.refl s with }

theorem observeCrossDomainClaim_still {receipt : FinalityReceipt}
    (h : s.observeCrossDomainClaim api now localLegId receipt = .ok t) : s.Still t := by
  simp only [observeCrossDomainClaim, ok_iff] at h
  obtain ⟨_, _, _, _, rfl⟩ := h
  exact { Aside.refl s with }

variable [DecidableEq V]

theorem applyLocalSettlement_still {statement : Id}
    {crossDomain : CrossDomainBook} (hvalid : s.validateLocalSettlement order now = .ok ())
    (h : applyLocalSettlement { s with crossDomain } order statement = .ok t) : s.Still t := by
  simp only [validateLocalSettlement, ok_iff] at hvalid
  obtain ⟨_, hoperation, hnullifier, _⟩ := hvalid
  obtain ⟨ledger, hledger, rfl⟩ := onLedger_ok h
  simp only [ok_iff] at hledger
  obtain ⟨u, hu, rfl⟩ := hledger
  rw [(VmState.applyLegs_moved hu).same]
  exact { Aside.refl s with
    operations := keeps_insert hoperation
    nullifiers := keeps_insert hnullifier }

variable [AddCommGroup V]

theorem settleOptimistic_aside {settlement : OptimisticAccountSettlement V}
    (h : s.settleOptimistic api application now settlement approval = .ok t) : s.Aside t := by
  simp only [settleOptimistic, ok_iff] at h
  obtain ⟨_, _, _, _, _, hledger⟩ := h
  obtain ⟨ledger, happly, rfl⟩ := onLedger_ok hledger
  exact { Aside.refl s with toStill := Still.mk (VmState.applySettlementOrder_still happly) rfl }

theorem prepareCrossDomain_still {leg : PrepareLeg}
    (h : s.prepareCrossDomain api now leg order approval = .ok t) : s.Still t := by
  simp only [prepareCrossDomain, ok_iff] at h
  obtain ⟨_, _, _, _, _, hvalid, _, _, _, happly⟩ := h
  exact applyLocalSettlement_still hvalid happly

theorem claimCrossDomain_still {localLegId witness : Bytes}
    (h : s.claimCrossDomain api now localLegId witness order approval = .ok t) : s.Still t := by
  simp only [claimCrossDomain, ok_iff] at h
  obtain ⟨_, _, _, _, hvalid, _, _, _, happly⟩ := h
  exact applyLocalSettlement_still hvalid happly

theorem refundCrossDomain_still
    (h : s.refundCrossDomain api now localLegId order approval = .ok t) : s.Still t := by
  simp only [refundCrossDomain, ok_iff] at h
  obtain ⟨_, _, _, _, hvalid, _, _, _, happly⟩ := h
  exact applyLocalSettlement_still hvalid happly

theorem requestRegistry_quiet {request : RegistryRequest V}
    (h : s.requestRegistry api now request approval = .ok t) : s.Quiet t := by
  simp only [requestRegistry, ok_iff] at h
  obtain ⟨_, _, _, _, _, rfl⟩ := h
  exact { (Aside.refl s).quiet with }

variable [Module Scalar V]

theorem bond_aside {transfer : BondTransfer} (h : s.bond api now transfer approval = .ok t) :
    s.Aside t := by
  simp only [bond, ok_iff] at h
  obtain ⟨_, _, _, _, _, _, _, _, _, _, _, _, _, _, _, _, rfl⟩ := h
  exact { Aside.refl s with }

/-- The deployment and market requests leave the ledger and the cross-domain book alone;
a bond and a settled market also move accounts. -/
theorem dispatch_aside {method : String} {tx : Tx V} (haside : tx.isAside = true)
    (h : s.dispatch api application now method tx = .ok t) : s.Aside t := by
  cases tx
  case optimisticBond => exact bond_aside h
  case optimisticAccountSettlement => exact settleOptimistic_aside h
  case unsupported | malformed => simp [dispatch] at h
  all_goals
    first
    | exact absurd haside Bool.false_ne_true
    | simp only [dispatch, enroll, register, propose, challenge, answer, advance,
        registerCrossDomainDomain, registerCrossDomainCommittee, performBoj, ok_iff] at h
      have hsame : t.toVmState = s.toVmState ∧ t.appliedTransactions = s.appliedTransactions ∧
          t.crossDomain = s.crossDomain ∧ t.deploymentCryptoPolicy = s.deploymentCryptoPolicy := by
        grind
      exact ⟨⟨hsame.1 ▸ .refl _, hsame.2.1⟩, hsame.2.2.1, hsame.2.2.2⟩

end HostState
end DeFMI
