import DeFMI.Vm.NoteProductEffects
import DeFMI.Vm.Reservations
set_option autoImplicit false

/-!
The product handlers as steps: what each of them resolves, and that apart from it the
replay tables, the notes and the claims only grow.
-/

namespace DeFMI
open Lib Participant Table AList List ProductNoteSettlementOrder

namespace VmState

variable {V R : Type}
  {s t u : VmState V R} {now : ℕ} {approval : Approval}

structure Grows (s t : VmState V R) : Prop extends s.Extends t, s.Beside t where
  holds : HoldsKept s.creditHolds t.creditHolds

theorem Grows.refl (s : VmState V R) : s.Grows s :=
  { Extends.refl s, Beside.refl s with holds := .refl _ }

theorem Grows.trans (hst : s.Grows t) (htu : t.Grows u) : s.Grows u :=
  { hst.toExtends.trans htu.toExtends, hst.toBeside.trans htu.toBeside with
    holds := hst.holds.trans htu.holds }

theorem Quiet.grows (h : s.Quiet t) : s.Grows t :=
  { h.toExtends, h.beside with holds := h.holds }

def settled (rail : Rail) (c : ReservationConsumption V) : Resolved :=
  ⟨rail, c.transition.holdId, .settlement⟩

theorem nodup_settled {cs : List (ReservationConsumption V)} (rail : Rail)
    (h : cs.Pairwise ReservationConsumption.Distinct) :
    ((cs.map (settled rail)).map Resolved.reservation).Nodup := by
  rw [map_map]
  refine Pairwise.map _ (fun q r hqr heq => ?_) h
  exact hqr.2.1 (Prod.mk.inj heq).2

theorem ProductStep.of_settlement {rail : Rail} {cs : List (ReservationConsumption V)}
    {request : Id} (hgrows : s.Grows t) (hresolves : Resolves (cs.map (settled rail)) s t)
    (hlive : ∀ c ∈ cs, ∃ hold, s.creditHolds.lookup c.transition.holdId = some hold ∧
      now ≤ hold.expiresAt)
    (hfresh : request ∉ s.rfqNullifiers) (hused : request ∈ t.rfqNullifiers) :
    ProductStep now (cs.map (settled rail)) [request] s t where
  toExtends := hgrows.toExtends
  holds := hgrows.holds
  resolves := hresolves
  inTime := by
    intro r hr
    obtain ⟨c, hc, rfl⟩ := mem_map.mp hr
    obtain ⟨hold, hhold, htime⟩ := hlive c hc
    obtain ⟨hold', hhold', hexpiry⟩ := hgrows.holds _ _ hhold
    refine ⟨hold', hhold', ?_⟩
    rw [hexpiry]
    exact htime
  requestsNodup := nodup_singleton _
  requestsUsed := by
    intro id hid
    obtain rfl := mem_singleton.mp hid
    exact ⟨hfresh, hused⟩

theorem Quiet.of_registry (h : t = { s with participantRegistry := t.participantRegistry }) :
    s.Quiet t := by
  rw [h]
  exact { Quiet.refl s with }

section Consumption

variable {Row : Type} {rail : Rail} {cs : List (ReservationConsumption V)} {statement : Id}

/-- One prepared reservation is consumed and marked on its rail. -/
structure Consumes (rail : Rail) (item : PreparedReservation Row V) (s t : VmState V R) : Prop where
  status : ∀ key, t.reservationStatus key =
    if key = (rail, item.transition.holdId) then some .consumed else s.reservationStatus key
  same : t = { s with
    creditFacilities := t.creditFacilities
    creditHolds := s.creditHolds.insert item.transition.holdId
      (item.hold.resolve .consumed item.transition.settlementDigest item.transition)
    reservationEscrows := t.reservationEscrows
    noteReservations := t.noteReservations
    operations := s.operations.insert item.transition.operationId item.transitionStatement }

def Ready (rail : Rail) (s : VmState V R) (now : ℕ) (c : ReservationConsumption V)
    (item : PreparedReservation Row V) : Prop :=
  Bound s now c item ∧ s.reservationStatus (rail, item.transition.holdId) = some .active

theorem Bound.hold_live {c : ReservationConsumption V} {item : PreparedReservation Row V}
    (h : Bound s now c item) :
    ∃ hold, s.creditHolds.lookup c.transition.holdId = some hold ∧ now ≤ hold.expiresAt := by
  refine ⟨item.hold, h.transition ▸ h.hold, ?_⟩
  rw [h.holdMatches.2.2.2.1]
  exact h.live

theorem consumes_step {items : List (PreparedReservation Row V)}
    {step : VmState V R → PreparedReservation Row V → Result (VmState V R)}
    (hstep : ∀ v w item, step v item = .ok w → Consumes rail item v w)
    (hready : Forall₂ (Ready rail s now) cs items)
    (hdistinct : cs.Pairwise ReservationConsumption.Distinct) (h : foldEach step s items = .ok t) :
    s.Grows t ∧ Resolves (cs.map (settled rail)) s t := by
  constructor
  · refine foldEach_invariant_mem s.Grows ?_ h (.refl s)
    intro v w item hitem hw hv
    obtain ⟨c, _, hc, _⟩ := forall₂_mem_right hready hitem
    rw [(hstep v w item hw).same]
    exact { hv with
      operations := hv.operations.insert hc.operation
      holds := hv.holds.insert_same hc.hold rfl }
  · let result := fun item : PreparedReservation Row V =>
      (⟨rail, item.transition.holdId, .settlement⟩ : Resolved)
    have hkeys : items.map result = cs.map (settled rail) :=
      forall₂_map_eq hready fun c item hc => by simp only [result, hc.1.transition, settled]
    rw [← hkeys]
    refine Resolves.of_foldEach result (fun v w item hw => (hstep v w item hw).status) h ?_ ?_
    · rw [hkeys]
      exact nodup_settled rail hdistinct
    · intro item hitem
      obtain ⟨_, _, _, hactive⟩ := forall₂_mem_right hready hitem
      exact hactive

theorem consumeReservation_ok {item : PreparedProductReservation V}
    (h : consumeReservation statement s item = .ok t) : Consumes .account item s t := by
  simp only [consumeReservation, consumeBound, ok_iff] at h
  obtain ⟨_, ⟨_, _, rfl⟩, ht⟩ := h
  have hescrows : t.reservationEscrows = s.reservationEscrows.insert item.transition.holdId
      { item.escrow with status := .consumed, settlementDigest := statement } := by rw [← ht]
  have hnotes : t.noteReservations = s.noteReservations := by rw [← ht]
  exact ⟨reservationStatus_escrow hescrows hnotes, by rw [← ht]⟩

theorem consumeNoteReservation_ok {item : PreparedNoteProductReservation V}
    (h : consumeNoteReservation statement s item = .ok t) : Consumes .note item s t := by
  simp only [consumeNoteReservation, consumeBound, ok_iff] at h
  obtain ⟨_, ⟨_, _, rfl⟩, ht⟩ := h
  have hescrows : t.reservationEscrows = s.reservationEscrows := by rw [← ht]
  have hnotes : t.noteReservations = s.noteReservations.insert item.transition.holdId
      { item.escrow with status := .consumed, settlementDigest := statement } := by rw [← ht]
  exact ⟨reservationStatus_note hescrows hnotes, by rw [← ht]⟩

end Consumption

section Accounts

variable {api : ProductApi V R} {o : ProductSettlementOrder V} [AddCommGroup V] [DecidableEq V]

theorem prepareReservation_ok {paymentAssetId base : Id} {direction direction' : ℕ}
    {c : ReservationConsumption V} {item : PreparedProductReservation V}
    (hfresh : c.transition.operationId ∉ s.operations)
    (h : s.prepareReservation api o now paymentAssetId base direction c = .ok (direction', item)) :
    Ready .account s now c item := by
  revert h
  simp only [prepareReservation, ok_iff, Prod.exists, Prod.mk.injEq, exists_imp, and_imp]
  intro _ _ _ _ hbound escrow hescrow hactive _ _ _ _ _ _ _ _ _ hitem
  subst hitem
  exact ⟨prepareBound_ok hfresh hbound, by simp [reservationStatus, hescrow, hactive]⟩

theorem applyProductSettlement_step (h : s.applyProductSettlement api o now = .ok t) :
    ProductStep now (o.reservations.map (settled .account)) [o.rfqNullifier] s t ∧ s.Beside t := by
  revert h
  simp only [applyProductSettlement, ok_iff, Prod.exists, exists_imp, and_imp]
  intro statement hstatement _ hoperation hnullifier hrequest _ _ _ _ _ _ _ _ _ items hitems _ _ v
    hv w hw hlinks
  simp only [ProductSettlementOrder.statement, ok_iff] at hstatement
  obtain ⟨hbody, _⟩ := hstatement
  have hready : Forall₂ (Ready .account s now) o.reservations items :=
    prepareEach_ok (fun _ _ _ _ => prepareReservation_ok) hitems
  obtain ⟨hgrows, hresolves⟩ := consumes_step (fun _ _ _ => consumeReservation_ok) hready
    (ProductSettlementOrder.body_ok hbody).distinct hv
  have hmoved := (applyLegs_moved hw).same
  have hquiet := Quiet.of_registry (consumeLinkedReservations_ok hlinks)
  have hlast : s.Grows { w with
      operations := w.operations.insert o.settlement.operationId statement } := by
    rw [hmoved]
    exact { hgrows with
      operations := hgrows.operations.insert hoperation
      nullifiers := hgrows.nullifiers.insert hnullifier
      rfqNullifiers := hgrows.rfqNullifiers.insert hrequest }
  have hall := hlast.trans hquiet.grows
  refine ⟨.of_settlement hall (hresolves.congr fun key => ?_) ?_ hrequest ?_, hall.toBeside⟩
  · have hescrows : t.reservationEscrows = v.reservationEscrows := by
      rw [hquiet.escrows, hmoved]
    have hnotes : t.noteReservations = v.noteReservations := by
      rw [hquiet.noteReservations, hmoved]
    exact reservationStatus_congr hescrows hnotes key
  · intro c hc
    obtain ⟨item, _, hitem⟩ := forall₂_mem_left hready hc
    exact hitem.1.hold_live
  · rw [hquiet.rfq, hmoved]
    simp

end Accounts

section Notes

variable {api : VmApi V R} {o : ProductNoteSettlementOrder V} {statement : Id}

/-- The serial and the claims of a covenant that both are new to `s`. -/
def FreshSpend (api : VmApi V R) (s : VmState V R) (spend : EscrowClaimSpend V) : Prop :=
  api.escrowClaimSerial spend.escrowNoteId spend.holdId ∉ s.noteSerials ∧
    ∀ claim ∈ spend.claims, claim.claimId ∉ s.noteClaims

theorem insertClaims_kept {claims : List (NoteClaim V)}
    (hfresh : ∀ claim ∈ claims, claim.claimId ∉ s.noteClaims)
    (h : foldEach (insertClaim statement) u claims = .ok t)
    (hu : ∀ id claim, s.noteClaims.lookup id = some claim →
      ∃ claim', u.noteClaims.lookup id = some claim' ∧ ClaimKept claim claim') :
    ∀ id claim, s.noteClaims.lookup id = some claim →
      ∃ claim', t.noteClaims.lookup id = some claim' ∧ ClaimKept claim claim' := by
  refine foldEach_invariant_mem (fun w : VmState V R => ∀ id claim,
    s.noteClaims.lookup id = some claim →
      ∃ claim', w.noteClaims.lookup id = some claim' ∧ ClaimKept claim claim') ?_ h hu
  intro v w new hnew hw hv id claim hclaim
  simp only [insertClaim, ok_iff] at hw
  obtain ⟨_, rfl⟩ := hw
  have hne : id ≠ new.claimId := by
    rintro rfl
    exact hfresh new hnew (lookup_isSome.mp (by simp [hclaim]))
  obtain ⟨claim', hclaim', hkept⟩ := hv id claim hclaim
  exact ⟨claim', (lookup_insert_ne hne).trans hclaim', hkept⟩

theorem settleSpends_grows {deadline : ℕ} {spends : List (EscrowClaimSpend V)}
    (hfresh : ∀ spend ∈ spends, FreshSpend api s spend) (hu : s.Grows u)
    (h : foldEach (settleSpend api statement deadline) u spends = .ok t) : s.Grows t := by
  refine foldEach_invariant_mem s.Grows ?_ h hu
  intro v w spend hspend hw hgrows
  obtain ⟨hserial, hclaims⟩ := hfresh spend hspend
  have hkept := insertClaims_kept hclaims hw hgrows.claims
  rw [insertClaims_ok hw]
  exact { hgrows with
    noteSerials := hgrows.noteSerials.insert hserial
    claims := hkept }

theorem ProductStep.of_release {r : Resolved} {hold : CreditHoldRecord V} (hgrows : s.Grows t)
    (hresolves : Resolves [r] s t) (hhold : s.creditHolds.lookup r.holdId = some hold)
    (htime : r.how.InTime now hold.expiresAt) : ProductStep now [r] [] s t where
  toExtends := hgrows.toExtends
  holds := hgrows.holds
  resolves := hresolves
  inTime := by
    intro r' hr'
    obtain rfl := mem_singleton.mp hr'
    obtain ⟨hold', hhold', hexpiry⟩ := hgrows.holds _ _ hhold
    exact ⟨hold', hhold', hexpiry ▸ htime⟩
  requestsNodup := nodup_nil
  requestsUsed := by simp

def releaseEnding (certifiedNoFill : Bool) : Ending := if certifiedNoFill then .noFill else .timeout

variable [AddCommGroup V]

theorem Released.step {release : ProductNoteReleaseOrder V} {certifiedNoFill : Bool}
    (h : Released release statement now certifiedNoFill s t) :
    ProductStep now [⟨.note, release.transition.holdId, releaseEnding certifiedNoFill⟩] [] s t ∧
      s.Beside t ∧ t.rfqNullifiers = s.rfqNullifiers := by
  obtain ⟨hold, hhold, hmatch, hholds⟩ := h.hold
  obtain ⟨escrow, hescrow, hactive, hnotes⟩ := h.escrow
  have hall : s.Grows t := by
    rw [h.same]
    exact { Grows.refl s with
      operations := keeps_insert h.operation
      nullifiers := keeps_insert h.nullifier
      noteSerials := h.serials
      notes := h.notes
      holds := hholds ▸ (HoldsKept.refl _).insert_same hhold rfl }
  refine ⟨.of_release hall (.single ?_ fun key => ?_) hhold ?_, hall.toBeside, by rw [h.same]⟩
  · simp [Resolved.reservation, reservationStatus, hescrow, hactive]
  · rw [reservationStatus_note (by rw [h.same]) hnotes key]
    cases certifiedNoFill <;> rfl
  · rw [hmatch.2.2.2.1]
    cases certifiedNoFill <;> exact h.inTime

variable [DecidableEq V]

theorem body_covers {note : NoteOrderApi V} (h : o.body note = .ok ()) {spend : EscrowClaimSpend V}
    (hspend : spend ∈ o.settlement.spends) :
    ∃ c ∈ o.reservations, o.settlement.spends.find? (fun p => p.holdId = c.transition.holdId) =
      some spend := by
  have hdistinct := body_distinct h
  simp only [body, ok_iff] at h
  obtain ⟨hshape, _, _, _, _, _, _, hloop, _, _, hsettlement⟩ := h
  simp only [not_or, not_not] at hshape
  simp only [DelegatedNoteSettlementOrder.body, ok_iff] at hsettlement
  obtain ⟨_, _, ⟨_, hnodup⟩, _⟩ := hsettlement
  have hsub : o.reservations.map (fun c => c.transition.holdId) ⊆
      o.settlement.spends.map EscrowClaimSpend.holdId := by
    intro id hid
    obtain ⟨c, hc, rfl⟩ := mem_map.mp hid
    exact consumedOnce_spends hloop c hc
  have hholds : (o.reservations.map (fun c => c.transition.holdId)).Nodup :=
    hdistinct.map _ (fun _ _ hqr => hqr.2.1)
  have hperm := (subperm_of_subset hholds hsub).perm_of_length_le (by
    simp [hshape.1, hshape.2.1])
  obtain ⟨c, hc, hid⟩ := mem_map.mp (hperm.mem_iff.mpr (mem_map_of_mem hspend))
  refine ⟨c, hc, ?_⟩
  cases hfind : o.settlement.spends.find? (fun p => p.holdId = c.transition.holdId) with
  | none =>
    have hnone := find?_eq_none.mp hfind spend hspend
    simp [hid] at hnone
  | some p =>
    have hp : p.holdId = c.transition.holdId := by simpa using find?_some hfind
    exact congrArg some (inj_on_of_nodup_map hnodup (mem_of_find?_eq_some hfind) hspend
      (hp.trans hid))

theorem applyNoteProductSettlement_step (h : s.applyNoteProductSettlement api o now = .ok t) :
    ProductStep now (o.reservations.map (settled .note)) [o.rfqNullifier] s t ∧ s.Beside t := by
  obtain ⟨statement, items, v, w, h⟩ := applyNoteProductSettlement_ok h
  have hready : Forall₂ (Ready .note s now) o.reservations items :=
    h.prepared.imp fun c item hc =>
      ⟨hc.toBound, by simp [reservationStatus, hc.escrow, hc.escrowActive]⟩
  obtain ⟨hgrows, hresolves⟩ := consumes_step (fun _ _ _ => consumeNoteReservation_ok) hready
    (body_distinct h.body) h.consumed
  have hfresh : ∀ spend ∈ o.settlement.spends, FreshSpend api s spend := by
    intro spend hspend
    obtain ⟨c, hc, hfind⟩ := body_covers h.body hspend
    obtain ⟨item, _, hitem⟩ := forall₂_mem_left h.prepared hc
    obtain ⟨p, hp, hserial, hclaims⟩ := hitem.spend
    rw [hitem.transition, hfind] at hp
    obtain rfl := Option.some.inj hp
    exact ⟨hserial, hclaims⟩
  have hbase : s.Grows { v with
      nullifiers := v.nullifiers.insert o.settlement.nullifier ⟨o.settlement.deadline, statement⟩
      rfqNullifiers := v.rfqNullifiers.insert o.rfqNullifier statement
      operations := v.operations.insert o.settlement.operationId statement } :=
    { hgrows with
      operations := hgrows.operations.insert h.operation
      nullifiers := hgrows.nullifiers.insert h.nullifier
      rfqNullifiers := hgrows.rfqNullifiers.insert h.request }
  have honly := settleSpends_ok h.spent
  have hall := (settleSpends_grows hfresh hbase h.spent).trans (Quiet.of_registry h.linked).grows
  refine ⟨.of_settlement hall (hresolves.congr fun key => ?_) ?_ h.request ?_, hall.toBeside⟩
  · have hescrows : t.reservationEscrows = v.reservationEscrows := by rw [h.linked, honly]
    have hnotes : t.noteReservations = v.noteReservations := by rw [h.linked, honly]
    exact reservationStatus_congr hescrows hnotes key
  · intro c hc
    obtain ⟨item, _, hitem⟩ := forall₂_mem_left h.prepared hc
    exact hitem.hold_live
  · rw [h.linked, honly]
    simp

theorem releaseNoteProduct_step {release : ProductNoteReleaseOrder V}
    (h : s.releaseNoteProduct api now release approval = .ok t) :
    ProductStep now [⟨.note, release.transition.holdId, .timeout⟩] [] s t ∧ s.Beside t := by
  obtain ⟨_, h⟩ := releaseNoteProduct_ok h
  obtain ⟨hstep, hbeside, _⟩ := h.step
  exact ⟨hstep, hbeside⟩

theorem releaseNoteProductNoFill_step {release : ProductNoteNoFillReleaseOrder V}
    {evidence : MpcNoFillEvidence V}
    (h : s.releaseNoteProductNoFill api now release evidence approval = .ok t) :
    ProductStep now [⟨.note, release.release.transition.holdId, .noFill⟩]
      [evidence.signedTakerMandate.rfqNullifier] s t ∧ s.Beside t := by
  obtain ⟨statement, u, h⟩ := releaseNoteProductNoFill_ok h
  obtain ⟨hstep, hbeside, _⟩ := h.released.step
  rw [h.same]
  refine ⟨?_, ⟨hbeside.pools, hbeside.batches, hbeside.entries⟩⟩
  exact { hstep with
    rfqNullifiers := hstep.rfqNullifiers.insert h.fresh
    resolves := hstep.resolves.congr fun key => reservationStatus_congr rfl rfl key
    requestsNodup := nodup_singleton _
    requestsUsed := by
      intro id hid
      obtain rfl := mem_singleton.mp hid
      exact ⟨h.fresh, by simp⟩ }

end Notes

attribute [local simp] Resolved.reservation reservationStatus

section Openings

variable {api : ProductApi V R} {auth : ReservationAuthorization V}
  {transition : CreditFacilityTransition V}

theorem status_kept {key key' : Rail × Id} {status : HoldStatus} {row : Option HoldStatus}
    (hfresh : s.reservationStatus key = none)
    (h : ∀ key', t.reservationStatus key' = if key' = key then row else s.reservationStatus key')
    (hstatus : s.reservationStatus key' = some status) : t.reservationStatus key' = some status := by
  rw [h, if_neg, hstatus]
  rintro rfl
  rw [hfresh] at hstatus
  cases hstatus

theorem consumeLane_ok {batchId : Id} {batch : RegisteredBatch} {sequence : ℕ}
    {entry : AdmissionEntryRecord} {consumer : Id}
    (h : s.consumeLane batchId batch sequence entry consumer = .ok t) :
    t = { s with
      admissionEntries := s.admissionEntries.insert (batchId, sequence)
        { entry with consumedBy := consumer }
      admissionBatches := s.admissionBatches.insert batchId
        { batch with consumed := batch.consumed + 1 } } := by
  simp only [consumeLane, ok_iff, checkedSucc_eq_some] at h
  obtain ⟨_, ⟨_, rfl⟩, rfl⟩ := h
  rfl

def AdmissionTaken (api : AdmissionApi V R) (now : ℕ) (auth : ReservationAuthorization V)
    (consumer : Id) (s t : VmState V R) : Prop :=
  match auth.role with
  | .maker => t.admissionBatches = s.admissionBatches ∧ t.admissionEntries = s.admissionEntries
  | .taker => ∃ batch entry, s.takerLane api now auth = .ok (batch, entry) ∧
      t.admissionEntries = s.admissionEntries.insert (auth.admissionBatchId, auth.admissionSequence)
        { entry with consumedBy := consumer } ∧
      t.admissionBatches = s.admissionBatches.insert auth.admissionBatchId
        { batch with consumed := batch.consumed + 1 }

theorem consumeAdmission_ok {admission : Option (RegisteredBatch × AdmissionEntryRecord)}
    {consumer : Id} (hlane : s.takerAdmission api.toAdmissionApi now auth = .ok admission)
    (h : u.consumeAdmission auth consumer admission = .ok t)
    (hbatches : u.admissionBatches = s.admissionBatches)
    (hentries : u.admissionEntries = s.admissionEntries) :
    t = { u with admissionEntries := t.admissionEntries, admissionBatches := t.admissionBatches } ∧
      AdmissionTaken api.toAdmissionApi now auth consumer s t := by
  cases hrole : auth.role with
  | maker =>
    simp only [takerAdmission, hrole, Except.ok.injEq] at hlane
    subst hlane
    obtain rfl := Except.ok.inj h
    refine ⟨rfl, ?_⟩
    simp only [AdmissionTaken, hrole]
    exact ⟨hbatches, hentries⟩
  | taker =>
    simp only [takerAdmission, hrole, map_eq_ok] at hlane
    obtain ⟨⟨batch, entry⟩, hlane, rfl⟩ := hlane
    have ht := consumeLane_ok h
    refine ⟨by rw [ht], ?_⟩
    simp only [AdmissionTaken, hrole]
    refine ⟨batch, entry, hlane, ?_, ?_⟩
    · rw [ht, ← hentries]
    · rw [ht, ← hbatches]

theorem bookReservation_grows {facility : CreditFacilityRecord V} {statement : Id}
    (hhold : transition.holdId ∉ s.creditHolds) :
    s.Grows (s.bookReservation facility transition auth statement) :=
  { Grows.refl s with holds := .insert_fresh hhold }

variable [AddCommGroup V] [DecidableEq V]

theorem reserveProduct_step {escrow : ReservationEscrow V}
    (h : s.reserveProduct api now transition auth escrow approval = .ok t) :
    ProductStep now [] [] s t ∧ t.standingNotePools = s.standingNotePools ∧
      AdmissionTaken api.toAdmissionApi now auth transition.operationId s t := by
  revert h
  simp only [reserveProduct, ok_iff, exists_imp, and_imp]
  intro _ _ _ _ _ _ statement _ _ hfresh _ _ _ hhold source _ _ admission hlane facility _ v hv w hw
    operation _ ht
  subst ht
  simp only [not_or] at hfresh
  have hmoved := (moveAccount_moved hv).same
  obtain ⟨hsame, htaken⟩ := consumeAdmission_ok hlane hw (by rw [hmoved]; rfl) (by rw [hmoved]; rfl)
  refine ⟨.of_unresolved ?_ ?_ ?_, ?_, htaken⟩
  · rw [hsame, hmoved]
    exact { Extends.refl s with operations := keeps_insert hfresh.1 }
  · rw [hsame, hmoved]
    exact .insert_fresh hhold
  · have hescrows : w.reservationEscrows =
        s.reservationEscrows.insert transition.holdId escrow.record := by
      rw [hsame, hmoved]
      rfl
    have hnotes : w.noteReservations = s.noteReservations := by
      rw [hsame, hmoved]
      rfl
    exact fun _ _ => status_kept (by simp [lookup_eq_none.mpr hfresh.2.2])
      (reservationStatus_escrow hescrows hnotes)
  · rw [hsame, hmoved]
    rfl

theorem reserveNoteProduct_step {escrow : NoteReservationEscrow V}
    (h : s.reserveNoteProduct api now transition auth escrow approval = .ok t) :
    ProductStep now [] [] s t ∧ t.standingNotePools = s.standingNotePools ∧
      AdmissionTaken api.toAdmissionApi now auth transition.operationId s t := by
  revert h
  simp only [reserveNoteProduct, ok_iff, exists_imp, and_imp]
  intro _ _ _ _ _ _ statement _ _ hfresh _ _ _ _ admission hlane facility _ v hv w hw operation _ ht
  subst ht
  simp only [not_or] at hfresh
  have hspend := (applyNoteSpend_still hv).toQuiet
  have hgrows := (bookReservation_grows hfresh.2.2.2).trans hspend.grows
  obtain ⟨hsame, htaken⟩ := consumeAdmission_ok hlane hw hgrows.batches hgrows.entries
  refine ⟨.of_unresolved ?_ ?_ ?_, ?_, htaken⟩
  · rw [hsame]
    exact { hgrows with operations := hgrows.operations.insert hfresh.1 }
  · rw [hsame]
    exact hgrows.holds
  · have hescrows : w.reservationEscrows = s.reservationEscrows := by
      rw [hsame]
      exact hspend.escrows
    have hnotes : w.noteReservations =
        s.noteReservations.insert transition.holdId (escrow.record transition) := by
      rw [hsame]
      exact congrArg (insert _ _) hspend.noteReservations
    exact fun _ _ => status_kept (by simp [lookup_eq_none.mpr hfresh.2.2.1])
      (reservationStatus_note hescrows hnotes)
  · rw [hsame]
    exact hgrows.pools

theorem releaseProduct_step {release : ProductReleaseOrder V}
    (h : s.releaseProduct api now release approval = .ok t) :
    ProductStep now [⟨.account, release.transition.holdId, .timeout⟩] [] s t ∧ s.Beside t := by
  revert h
  simp only [releaseProduct, ok_iff, exists_imp, and_imp]
  intro _ statement _ _ htime hnullifier hoperation _ _ _ _ _ _ _ _ hold hhold hmatch escrow hescrow
    hactive _ _ _ _ _ _ _ _ facility _ u hu hlink
  have hmoved := (moveAccount_moved hu).same
  have hquiet := Quiet.of_registry (followLinkedReservation_ok hlink)
  have hlast : s.Grows { u with
      operations := u.operations.insert release.transition.operationId statement } := by
    rw [hmoved]
    exact { Grows.refl s with
      operations := keeps_insert hoperation
      nullifiers := keeps_insert hnullifier
      holds := (HoldsKept.refl _).insert_same hhold rfl }
  have hall := hlast.trans hquiet.grows
  refine ⟨.of_release hall (.single ?_ fun key => ?_) hhold ?_, hall.toBeside⟩
  · simp [hescrow, hactive]
  · have hescrows : t.reservationEscrows = s.reservationEscrows.insert release.transition.holdId
        { escrow with status := .released, settlementDigest := statement } := by
      rw [hquiet.escrows, hmoved]
    have hnotes : t.noteReservations = s.noteReservations := by
      rw [hquiet.noteReservations, hmoved]
    exact reservationStatus_escrow hescrows hnotes key
  · rw [hmatch.2.2.2.1]
    simp only [not_or, not_le] at htime
    exact htime.1

end Openings

section Pools

variable {api : VmApi V R} {auth : ReservationAuthorization V}
  {transition : CreditFacilityTransition V} {allocation : StandingNotePoolAllocation V}
  [AddCommGroup V] [DecidableEq V]

theorem allocateStandingNotePool_step
    (h : s.allocateStandingNotePool api now transition auth allocation approval = .ok t) :
    ProductStep now [] [] s t ∧ t.admissionBatches = s.admissionBatches ∧
      t.admissionEntries = s.admissionEntries := by
  have h := allocateStandingNotePool_ok h
  obtain ⟨row, operation, hsame⟩ := h.same
  have hescrows : t.reservationEscrows = s.reservationEscrows := by rw [hsame]
  have hnotes : t.noteReservations = s.noteReservations.insert transition.holdId row := by
    rw [hsame]
  refine ⟨.of_unresolved ?_ ?_ fun _ _ => status_kept (by simp [lookup_eq_none.mpr h.reservation])
    (reservationStatus_note hescrows hnotes), ?_, ?_⟩ <;> rw [hsame]
  · exact { Extends.refl s with operations := keeps_insert h.operation, notes := h.notes }
  · exact .insert_fresh h.hold

theorem registerStandingNotePool_step {notes : NotesApi V R}
    {r : StandingNotePoolRegistration V}
    (h : s.registerStandingNotePool notes now r approval = .ok t) :
    ProductStep now [] [] s t ∧ t.admissionBatches = s.admissionBatches ∧
      t.admissionEntries = s.admissionEntries := by
  simp only [registerStandingNotePool, ok_iff] at h
  obtain ⟨_, _, _, _, _, hfresh, _, _, _, _, v, hv, rfl⟩ := h
  have hquiet := (applyNoteSpend_still hv).toQuiet
  rw [not_or] at hfresh
  refine ⟨.of_same ?_ hquiet.holds hquiet.escrows hquiet.noteReservations, hquiet.batches,
    hquiet.entries⟩
  exact { hquiet.toExtends with operations := hquiet.operations.insert hfresh.1 }

end Pools

section Admission

variable {api : AdmissionApi V R}

structure BatchAdded (plan : AdmissionBatchPlan) (s t : VmState V R) : Prop where
  body : plan.body = .ok ()
  fresh : plan.batchId ∉ s.admissionBatches
  checked : s.checkNewBatch plan = .ok ()
  added : ∃ statement, t = s.addBatch plan statement

theorem registerAdmissionBatch_ok {plan : AdmissionBatchPlan} {lanes : List (List Bytes)}
    (h : s.registerAdmissionBatch api now plan lanes approval = .ok t) :
    (plan.batchId ∈ s.admissionBatches ∧ t = s) ∨ BatchAdded plan s t := by
  simp only [registerAdmissionBatch, ok_iff] at h
  obtain ⟨hbody, statement, _, _, _, retry, hretry, h⟩ := h
  cases retry with
  | true =>
    simp only [if_true, ok_iff] at h
    obtain ⟨_, _, _, _, _, rfl⟩ := h
    refine Or.inl ⟨?_, rfl⟩
    by_contra hfresh
    simp [batchRetry, lookup_eq_none.mpr hfresh] at hretry
  | false =>
    simp only [Bool.false_eq_true, if_false, ok_iff] at h
    obtain ⟨hchecked, _, _, _, _, rfl⟩ := h
    refine Or.inr ⟨hbody, ?_, hchecked, statement, rfl⟩
    cases hlookup : s.admissionBatches.lookup plan.batchId with
    | none => exact lookup_eq_none.mp hlookup
    | some =>
      simp only [batchRetry, hlookup, ok_iff] at hretry
      obtain ⟨_, hfalse⟩ := hretry
      simp at hfalse

theorem registerAdmissionBatch_step {plan : AdmissionBatchPlan} {lanes : List (List Bytes)}
    (h : s.registerAdmissionBatch api now plan lanes approval = .ok t) :
    ProductStep now [] [] s t ∧ t.standingNotePools = s.standingNotePools := by
  rcases registerAdmissionBatch_ok h with ⟨_, rfl⟩ | hadded
  · exact ⟨(Quiet.refl t).productStep, rfl⟩
  · have hfresh : plan.operationId ∉ s.operations := by
      have hchecked := hadded.checked
      simp only [checkNewBatch, ok_iff] at hchecked
      obtain ⟨hfresh, _⟩ := hchecked
      exact hfresh
    obtain ⟨_, rfl⟩ := hadded.added
    refine ⟨.of_same ?_ (.refl _) rfl rfl, rfl⟩
    exact { Extends.refl s with operations := keeps_insert hfresh }

def LaneAdvanced (advance : AdmissionSlotAdvance) (s t : VmState V R) : Prop :=
  ∃ batch entry last, s.admissionBatches.lookup advance.batchId = some batch ∧
    s.admissionBatchSequenceWindow advance.batchId batch = .ok (advance.sequence, last) ∧
    advance.sequence ≤ last ∧
    s.admissionEntries.lookup (advance.batchId, advance.sequence) = some entry ∧
    entry.consumedBy = 0 ∧
    t.admissionEntries = s.admissionEntries.insert (advance.batchId, advance.sequence)
      { entry with consumedBy := advance.operationId } ∧
    t.admissionBatches = s.admissionBatches.insert advance.batchId
      { batch with consumed := batch.consumed + 1 }

theorem advanceAdmission_step {advance : AdmissionSlotAdvance}
    (h : s.advanceAdmission api now advance approval = .ok t) :
    ProductStep now [] [] s t ∧ t.standingNotePools = s.standingNotePools ∧
      LaneAdvanced advance s t := by
  simp only [advanceAdmission, ok_iff, Prod.exists] at h
  obtain ⟨_, _, _, _, hfresh, batch, hbatch, _, next, last, hwindow, ⟨rfl, hlast⟩, entry, hentry,
    hopen, v, hv, rfl⟩ := h
  obtain rfl := consumeLane_ok hv
  refine ⟨.of_same ?_ (.refl _) rfl rfl, rfl, batch, entry, last, hbatch, hwindow, hlast, hentry,
    hopen.2, rfl, rfl⟩
  exact { Extends.refl s with operations := keeps_insert hfresh }

end Admission
end VmState
end DeFMI
