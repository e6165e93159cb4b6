import DeFMI.CrossDomainRuns
import DeFMI.Vm.Replay
set_option autoImplicit false

/-!
Armed legs of cross-domain settlements. The claim of a leg carries a settlement that
was fixed when the leg was prepared. Other transactions leave the leg armed, and the
claim can be made exactly while the rows the settlement was proved against are unchanged.
-/

namespace DeFMI
open Lib Participant InPlace Table AList List CrossDomainBook VmState

def Tx.crossLegs {V : Type} : Tx V → List Bytes
  | .crossDomainPrepare leg _ _ => [leg.localLegId]
  | .crossDomainArm localLegId _ => [localLegId]
  | .crossDomainClaim localLegId _ _ _ => [localLegId]
  | .crossDomainRefund localLegId _ _ => [localLegId]
  | .crossDomainObserveClaim localLegId _ => [localLegId]
  | _ => []

abbrev LegRecord.taken (record : LegRecord) (now : ℕ) : LegRecord :=
  { record with status := .claimed, claimedAt := some now }

/-- A runtime that leaves the cross-domain book and the deployment policy alone. -/
def ApplicationRuntime.SparesLegs {V O : Type} (application : ApplicationRuntime V O) : Prop :=
  ∀ s params now t, application.execute s params now = .ok t →
    t.crossDomain = s.crossDomain ∧ t.deploymentCryptoPolicy = s.deploymentCryptoPolicy

/-- A runtime whose judgement of a state is about its own part of it. -/
def ApplicationRuntime.JudgesOwnState {V O : Type} (application : ApplicationRuntime V O) : Prop :=
  ∀ s t : HostState V O, t.applicationStates = s.applicationStates →
    application.validateState t = application.validateState s

theorem noApplications_sparesLegs {V O : Type} :
    (noApplications : ApplicationRuntime V O).SparesLegs := by
  intro s params now t h
  simp [noApplications] at h

theorem noApplications_judgesOwnState {V O : Type} :
    (noApplications : ApplicationRuntime V O).JudgesOwnState := by
  intro s t h
  simp only [noApplications, h]

namespace VmState

variable {V R : Type}

theorem any_of_keeps {α : Type} {t u : Table Id α} (h : Keeps t u) {p : α → Bool}
    (hany : t.entries.any (fun e => p e.2) = true) : u.entries.any (fun e => p e.2) = true := by
  simp only [any_eq_true] at hany ⊢
  obtain ⟨e, he, hp⟩ := hany
  exact ⟨e, mem_lookup_iff.mp (h e.1 e.2 (mem_lookup_iff.mpr he)), hp⟩

section Grown

variable {api : NoteApi V} {s : VmState V R} {accounts : Table Id (AccountRecord V)}
  {nullifiers : Table Id NullifierRecord} {operations : Table Id Id}

section
variable (hnullifiers : Keeps s.nullifiers nullifiers)
include hnullifiers

theorem validateRemainder_grown {r : ApplicationReservationRecord V} {u : Unit}
    (h : s.validateRemainder api r = .ok u) :
    validateRemainder api { s with accounts, nullifiers, operations } r = .ok u := by
  unfold validateRemainder at h ⊢
  cases hopening : r.remainingOpening with
  | none => rfl
  | some =>
    rw [hopening] at h
    simp only [ok_iff, Option.any_eq_true] at h ⊢
    obtain ⟨domain, hdomain, nullifier, hrow, hhead⟩ := h
    exact ⟨domain, hdomain, nullifier, hnullifiers _ _ hrow, hhead⟩

theorem validateHead_grown {r : ApplicationReservationRecord V} {u : Unit}
    (hoperations : Keeps s.operations operations) (h : s.validateHead api r = .ok u) :
    validateHead api { s with accounts, nullifiers, operations } r = .ok u := by
  unfold validateHead at h ⊢
  split
  · next hsequence => rw [if_pos hsequence] at h; exact h
  · next hsequence =>
    rw [if_neg hsequence] at h
    simp only [ok_iff] at h ⊢
    obtain ⟨⟨hcommitment, hreceipt, hcustody, hoperation, hstatus⟩, hremainder⟩ := h
    have hnamed := any_of_keeps hoperations (p := fun statement => statement = r.headReceipt) hoperation
    exact ⟨⟨hcommitment, hreceipt, hcustody, hnamed, hstatus⟩,
      validateRemainder_grown hnullifiers hremainder⟩

variable [AddCommGroup V] [DecidableEq V]

theorem validateApplication_grown {e : Sigma fun _ : Id => ApplicationReservationRecord V} {u : Unit}
    (hoperations : Keeps s.operations operations) (h : s.validateApplication api e = .ok u) :
    validateApplication api { s with accounts, nullifiers, operations } e = .ok u := by
  simp only [validateApplication, ok_iff] at h ⊢
  obtain ⟨hbinding, hrefund, hold, hhold, note, hnote, facility, hfacility, key, hkey, hrow, point,
    hpoint, hhead⟩ := h
  exact ⟨hbinding, hrefund, hold, hhold, note, hnote, facility, hfacility, key, hkey, hrow, point,
    hpoint, validateHead_grown hnullifiers hoperations hhead⟩

end

variable [AddCommGroup V] [Module Scalar V] [DecidableEq V]

/-- Validity reads the replay tables only to find rows in them. -/
theorem validate_grown (h : s.validate api = .ok ())
    (hnullifiers : Keeps s.nullifiers nullifiers)
    (hoperations : Keeps s.operations operations) :
    validate api { s with accounts, nullifiers, operations } = .ok () := by
  simp only [validate, ok_iff, forEach_eq_ok] at h ⊢
  obtain ⟨h₁, h₂, h₃, h₄, h₅, h₆, hrest⟩ := h
  exact ⟨h₁, h₂, h₃, h₄, h₅,
    fun e he => validateApplication_grown hnullifiers hoperations (h₆ e he), hrest⟩

end Grown

section Settled

variable {s t : VmState V R} {order : SettlementOrder V} {statement : Id}

def settleLocal (order : SettlementOrder V) (statement : Id) (s : VmState V R) :
    Result (VmState V R) := do
  let t ← foldEach applyLeg
    { s with nullifiers := s.nullifiers.insert order.nullifier ⟨order.deadline, statement⟩ }
    order.legs
  pure { t with operations := t.operations.insert order.operationId statement }

theorem settleLocal_ok (h : settleLocal order statement s = .ok t) :
    ∃ accounts, t = { s with
      accounts
      nullifiers := s.nullifiers.insert order.nullifier ⟨order.deadline, statement⟩
      operations := s.operations.insert order.operationId statement } := by
  simp only [settleLocal, ok_iff] at h
  obtain ⟨u, hu, rfl⟩ := h
  rw [(applyLegs_moved hu).same]
  exact ⟨u.accounts, rfl⟩

theorem applyLegs_total {legs : List (StateLeg V)} (hnodup : (legs.map StateLeg.handle).Nodup)
    (hrows : ∀ leg ∈ legs, ∃ account,
      s.accounts.lookup leg.handle = some account ∧ account.sequence < u64Max) :
    ∃ t, foldEach applyLeg s legs = .ok t := by
  induction legs generalizing s with
  | nil => exact ⟨s, by simp⟩
  | cons leg legs ih =>
    obtain ⟨account, hrow, hbelow⟩ := hrows leg mem_cons_self
    rw [map_cons, nodup_cons] at hnodup
    let account' : AccountRecord V :=
      { account with commitment := leg.afterCommitment, sequence := account.sequence + 1 }
    let moved : VmState V R := { s with accounts := s.accounts.insert leg.handle account' }
    have hmoved : applyLeg s leg = .ok moved := by
      simp [applyLeg, moveAccount, hrow, okOr, checkedSucc, hbelow, moved, account']
    have hlater : ∀ other ∈ legs, ∃ account,
        moved.accounts.lookup other.handle = some account ∧ account.sequence < u64Max := by
      intro other hother
      have hne : other.handle ≠ leg.handle := fun heq =>
        hnodup.1 (heq ▸ mem_map_of_mem hother)
      obtain ⟨row, hrow, hbelow⟩ := hrows other (mem_cons_of_mem _ hother)
      exact ⟨row, (lookup_insert_ne hne).trans hrow, hbelow⟩
    obtain ⟨t, ht⟩ := ih hnodup.2 hlater
    exact ⟨t, foldEach_cons.mpr ⟨moved, hmoved, ht⟩⟩

theorem settleLocal_total (hnodup : (order.legs.map StateLeg.handle).Nodup)
    (hrows : ∀ leg ∈ order.legs, ∃ account,
      s.accounts.lookup leg.handle = some account ∧ account.sequence < u64Max) :
    ∃ t, settleLocal order statement s = .ok t := by
  let noted : VmState V R :=
    { s with nullifiers := s.nullifiers.insert order.nullifier ⟨order.deadline, statement⟩ }
  obtain ⟨t, ht⟩ := applyLegs_total (s := noted) hnodup hrows
  exact ⟨_, by simp only [settleLocal, ok_iff]; exact ⟨t, ht, rfl⟩⟩

end Settled

end VmState

namespace HostState

variable {V O : Type} {api : HostApi V O} {application : ApplicationRuntime V O}
  {s t : HostState V O} {now : ℕ} {method : String} {tx : Tx V} {localLegId : Bytes}

structure LegKept (localLegId : Bytes) (s t : HostState V O) : Prop where
  leg : t.crossDomain.legs.lookup localLegId = s.crossDomain.legs.lookup localLegId
  policy : t.deploymentCryptoPolicy = s.deploymentCryptoPolicy

theorem LegKept.refl (localLegId : Bytes) (s : HostState V O) : LegKept localLegId s s := ⟨rfl, rfl⟩

theorem LegKept.trans {u : HostState V O} (hst : LegKept localLegId s t)
    (htu : LegKept localLegId t u) : LegKept localLegId s u :=
  ⟨htu.leg.trans hst.leg, htu.policy.trans hst.policy⟩

theorem Aside.legKept (h : s.Aside t) : LegKept localLegId s t :=
  ⟨by rw [h.crossDomain], h.policy⟩

theorem onLedger_legKept {f : VmState V (ParticipantRegistry V) →
      Result (VmState V (ParticipantRegistry V))} (h : s.onLedger f = .ok t) :
    LegKept localLegId s t := by
  obtain ⟨ledger, _, rfl⟩ := onLedger_ok h
  exact ⟨rfl, rfl⟩

theorem crossDomainResult_ok {x : CrossResult (CrossDomainBook × Bytes)}
    {book : CrossDomainBook} (h : crossDomainResult x = .ok book) :
    ∃ digest, x = .ok (book, digest) := by
  simp only [crossDomainResult, mapError_eq_ok, map_eq_ok] at h
  obtain ⟨⟨_, digest⟩, hx, rfl⟩ := h
  exact ⟨digest, hx⟩

theorem legKept_insert {localLegId other : Bytes} {crossDomain : CrossDomainBook}
    {record : LegRecord} (hne : localLegId ≠ other)
    (hlegs : crossDomain.legs = s.crossDomain.legs.insert other record) :
    LegKept localLegId s { s with crossDomain } :=
  ⟨by rw [hlegs]; exact lookup_insert_ne hne, rfl⟩

theorem applyLocalSettlement_legKept {order : SettlementOrder V}
    {statement : Id} (h : s.applyLocalSettlement order statement = .ok t) :
    LegKept localLegId s t := onLedger_legKept h

section Claims

variable {localLegId witness : Bytes} {order : SettlementOrder V} {record : LegRecord}
  {statement : Id} {approval : Approval}

/-- The rows a settlement was proved against are rows of the state. -/
structure OrderCurrent (s : HostState V O) (order : SettlementOrder V) (now : ℕ) : Prop where
  inTime : now ≤ order.deadline
  operation : order.operationId ∉ s.operations
  nullifier : order.nullifier ∉ s.nullifiers
  rows : ∀ leg ∈ order.legs, ∃ account, s.accounts.lookup leg.handle = some account ∧
    account.assetId = leg.assetId ∧ account.commitment = leg.beforeCommitment ∧
    account.sequence = leg.beforeSequence
  active : ∀ leg ∈ order.legs, s.assetActive leg.assetId = true

/-- No row that the settlement was proved against is written from `s` to `t`. -/
structure OrderSpared (order : SettlementOrder V) (s t : HostState V O) : Prop where
  operation : order.operationId ∈ t.operations → order.operationId ∈ s.operations
  nullifier : order.nullifier ∈ t.nullifiers → order.nullifier ∈ s.nullifiers
  rows : ∀ leg ∈ order.legs, t.accounts.lookup leg.handle = s.accounts.lookup leg.handle
  active : ∀ leg ∈ order.legs, s.assetActive leg.assetId = true → t.assetActive leg.assetId = true

theorem OrderCurrent.spared (h : OrderCurrent s order now) (hspared : OrderSpared order s t) :
    OrderCurrent t order now where
  inTime := h.inTime
  operation := fun hmem => h.operation (hspared.operation hmem)
  nullifier := fun hmem => h.nullifier (hspared.nullifier hmem)
  rows leg hleg := by rw [hspared.rows leg hleg]; exact h.rows leg hleg
  active leg hleg := hspared.active leg hleg (h.active leg hleg)

def claimed (s : HostState V O) (localLegId : Bytes) (record : LegRecord) (now : ℕ)
    (ledger : VmState V (ParticipantRegistry V)) : HostState V O :=
  { s with
    toVmState := ledger
    crossDomain := { s.crossDomain with
      legs := s.crossDomain.legs.insert localLegId (record.taken now) } }

variable [DecidableEq V]

theorem checkLocalLeg_eq_ok {leg : StateLeg V} {u : Unit} :
    s.checkLocalLeg leg = .ok u ↔
      (∃ account, s.accounts.lookup leg.handle = some account ∧ account.assetId = leg.assetId ∧
        account.commitment = leg.beforeCommitment ∧ account.sequence = leg.beforeSequence) ∧
      s.assetActive leg.assetId = true ∧ leg.beforeSequence < u64Max := by
  simp only [checkLocalLeg, ok_iff, not_or, not_not]
  constructor
  · grind
  · grind

theorem validateLocalSettlement_eq_ok {u : Unit} :
    s.validateLocalSettlement order now = .ok u ↔
      OrderCurrent s order now ∧ ∀ leg ∈ order.legs, leg.beforeSequence < u64Max := by
  simp only [validateLocalSettlement, ok_iff, forEach_eq_ok, checkLocalLeg_eq_ok]
  constructor
  · grind [OrderCurrent]
  · grind [OrderCurrent]

variable [AddCommGroup V]

structure ClaimTerms (api : HostApi V O) (s : HostState V O) (localLegId witness : Bytes)
    (order : SettlementOrder V) (record : LegRecord) (statement : Id) : Prop where
  leg : s.crossDomain.legs.lookup localLegId = some record
  armed : record.status = .armed
  released : api.cross.hashReleaseWitness witness = record.prepare.releaseCondition
  committed : ensureCrossDomainOrder api record.prepare order .claim = .ok statement
  below : ∀ leg ∈ order.legs, leg.beforeSequence < u64Max

theorem ClaimTerms.nodup (h : ClaimTerms api s localLegId witness order record statement) :
    (order.legs.map StateLeg.handle).Nodup := by
  have hstatement := h.committed
  simp only [ensureCrossDomainOrder, SettlementOrder.statement, ok_iff] at hstatement
  obtain ⟨_, ⟨hbody, _⟩, _⟩ := hstatement
  exact SettlementOrder.body_ok hbody

theorem ClaimTerms.of_legKept (h : ClaimTerms api s localLegId witness order record statement)
    (hkept : LegKept localLegId s t) : ClaimTerms api t localLegId witness order record statement :=
  { h with leg := hkept.leg.trans h.leg }

def claimStatement (api : HostApi V O) (s : HostState V O) (localLegId : Bytes)
    (order : SettlementOrder V) : Result Id := do
  let p ← s.preparedLeg localLegId
  let transfer ← ensureCrossDomainOrder api p order .claim
  pure (api.crossDomainStatement LegAction.claim.name localLegId transfer.1
    p.localInstructionDigest)

theorem claimCrossDomain_ok (h : s.claimCrossDomain api now localLegId witness order approval = .ok t) :
    ∃ record statement, ClaimTerms api s localLegId witness order record statement ∧
      OrderCurrent s order now ∧ ∃ ledger, settleLocal order statement s.toVmState = .ok ledger ∧
        t = s.claimed localLegId record now ledger := by
  simp only [claimCrossDomain, preparedLeg, ok_iff] at h
  obtain ⟨p, ⟨record, hrow, rfl⟩, statement, hcommitted, hvalid, _, book, hbook, happly⟩ := h
  obtain ⟨hcurrent, hbelow⟩ := validateLocalSettlement_eq_ok.mp hvalid
  obtain ⟨_, hclaim⟩ := crossDomainResult_ok hbook
  simp only [claim, ok_iff, hrow, Option.some.injEq, Prod.mk.injEq] at hclaim
  obtain ⟨_, rfl, harmed, hreleased, rfl, _⟩ := hclaim
  obtain ⟨ledger, hledger, rfl⟩ := onLedger_ok happly
  exact ⟨record, statement, ⟨hrow, harmed, hreleased, hcommitted, hbelow⟩, hcurrent, ledger,
    hledger, rfl⟩

theorem claimCrossDomain_of_current
    (hterms : ClaimTerms api s localLegId witness order record statement)
    (hcurrent : OrderCurrent s order now)
    (happroved : ∀ claim, s.claimStatement api localLegId order = .ok claim →
      s.authorizeAt api now approval claim = .ok ()) :
    ∃ ledger, settleLocal order statement s.toVmState = .ok ledger ∧
      s.claimCrossDomain api now localLegId witness order approval =
        .ok (s.claimed localLegId record now ledger) := by
  have hrows : ∀ leg ∈ order.legs, ∃ account,
      s.accounts.lookup leg.handle = some account ∧ account.sequence < u64Max := by
    intro leg hleg
    obtain ⟨account, hrow, _, _, hsequence⟩ := hcurrent.rows leg hleg
    exact ⟨account, hrow, hsequence ▸ hterms.below leg hleg⟩
  obtain ⟨ledger, hledger⟩ : ∃ ledger,
      settleLocal order statement s.toVmState = .ok ledger :=
    settleLocal_total hterms.nodup hrows
  have hprepared : s.preparedLeg localLegId = .ok record.prepare := by
    simp only [preparedLeg, ok_iff]
    exact ⟨record, hterms.leg, rfl⟩
  have hauthorized := happroved (api.crossDomainStatement LegAction.claim.name localLegId statement.1
    record.prepare.localInstructionDigest) (by
      simp only [claimStatement, ok_iff]
      exact ⟨_, hprepared, _, hterms.committed, rfl⟩)
  refine ⟨ledger, hledger, ?_⟩
  simp only [claimCrossDomain, ok_iff]
  refine ⟨_, hprepared, _, hterms.committed, validateLocalSettlement_eq_ok.mpr ⟨hcurrent,
    hterms.below⟩, hauthorized, { s.crossDomain with
    legs := s.crossDomain.legs.insert localLegId (record.taken now) }, ?_, ?_⟩
  · simp only [crossDomainResult, mapError_eq_ok, map_eq_ok]
    refine ⟨(_, api.cross.recordDigest (record.taken now)), ?_, rfl⟩
    simp only [claim, ok_iff]
    exact ⟨record, hterms.leg, hterms.armed, hterms.released, rfl⟩
  · change onLedger _ (settleLocal order statement) = _
    simp only [onLedger, ok_iff]
    exact ⟨ledger, hledger, rfl⟩

end Claims

section Validity

variable {localLegId witness : Bytes} {order : SettlementOrder V} {record : LegRecord}
  {statement : Id}

theorem validateCrossDomain_book {u : Unit} (h : s.validateCrossDomain api = .ok u) :
    ∃ v, s.crossDomain.validate = .ok v := by
  simp only [validateCrossDomain, bind_eq_ok, mapError_eq_ok] at h
  obtain ⟨v, hbook, _⟩ := h
  exact ⟨v, hbook⟩

theorem validateCrossDomain_leg {record' : LegRecord} {u : Unit} (h : s.validateCrossDomain api = .ok u)
    (hrow : s.crossDomain.legs.lookup localLegId = some record)
    (hvalid : (CrossDomainBook.mk (s.crossDomain.legs.insert localLegId record')
      s.crossDomain.consumedReceipts).validate = .ok ())
    (hterms : record'.prepare = record.prepare) :
    validateCrossDomain api { s with crossDomain := { s.crossDomain with
      legs := s.crossDomain.legs.insert localLegId record' } } = .ok u := by
  simp only [validateCrossDomain, ok_iff] at h ⊢
  obtain ⟨_, hhome, hlegs, hcommittees⟩ := h
  have hmem : ⟨localLegId, record⟩ ∈ s.crossDomain.legs.entries := mem_lookup_iff.mp hrow
  refine ⟨by rw [hvalid]; rfl, ?_, ?_, hcommittees⟩
  · rintro ⟨_, hnone⟩
    exact hhome ⟨fun hempty => ne_nil_of_mem hmem hempty.1, hnone⟩
  · intro home hdomain e he
    obtain ⟨id, stored⟩ := e
    have hstored := mem_lookup_iff.mpr he
    obtain ⟨rfl, rfl⟩ | ⟨_, hold⟩ := lookup_insert_cases hstored
    · exact hterms ▸ hlegs home hdomain ⟨_, record⟩ hmem
    · exact hlegs home hdomain ⟨id, stored⟩ (mem_lookup_iff.mp hold)

def entered (s : HostState V O) (transactionId : Id) : HostState V O :=
  { s with
    appliedTransactions := insert transactionId s.appliedTransactions
    transitionCount := s.transitionCount + 1 }

theorem card_entered {transactionId : Id} (hfresh : transactionId ∉ s.appliedTransactions)
    (hcount : s.transitionCount = s.appliedTransactions.card) :
    s.transitionCount + 1 = (insert transactionId s.appliedTransactions).card := by
  rw [Finset.card_insert_of_notMem hfresh, hcount]

theorem stored_claimed {consumed : Finset Bytes} (now' : ℕ)
    (h : Stored consumed localLegId (record.taken now)) :
    Stored consumed localLegId (record.taken now') := { h with }

variable [AddCommGroup V] [Module Scalar V] [DecidableEq V]

theorem validate_moved {accounts : Table Id (AccountRecord V)} {nullifiers : Table Id NullifierRecord}
    {operations : Table Id Id} {crossDomain : CrossDomainBook} {appliedTransactions : Finset Id}
    {transitionCount : ℕ} (h : s.validate api = .ok ())
    (hcount : transitionCount = appliedTransactions.card)
    (hcross : validateCrossDomain api { s with crossDomain } = .ok ())
    (hledger : VmState.validate api.toNoteApi
      { s.toVmState with accounts, nullifiers, operations } = .ok ()) :
    validate api { s with
      toVmState := { s.toVmState with accounts, nullifiers, operations }
      crossDomain, appliedTransactions, transitionCount } = .ok () := by
  simp only [validate, ok_iff] at h ⊢
  obtain ⟨hoptimistic, hpolicy, hstates, _, _, hboj, hregistry, _⟩ := h
  exact ⟨hoptimistic, hpolicy, hstates, hcount, hcross, hboj, hregistry, hledger⟩

theorem claimed_validate {ledger : VmState V (ParticipantRegistry V)} {transactionId : Id}
    (hterms : ClaimTerms api s localLegId witness order record statement)
    (hcurrent : OrderCurrent s order now)
    (hledger : settleLocal order statement s.toVmState = .ok ledger)
    (hs : s.validate api = .ok ()) (hfresh : transactionId ∉ s.appliedTransactions) :
    ((s.claimed localLegId record now ledger).entered transactionId).validate api = .ok () := by
  have hparts := hs
  simp only [validate, ok_iff] at hparts
  obtain ⟨_, _, _, hcount, hcross, _, _, hvm⟩ := hparts
  obtain ⟨v, hbook⟩ := validateCrossDomain_book hcross
  have hleg : (CrossDomainBook.mk (s.crossDomain.legs.insert localLegId (record.taken now))
      s.crossDomain.consumedReceipts).validate = .ok () :=
    (Effect.claim (c := api.cross) localLegId witness now record hterms.leg
      hterms.armed).validate hbook
  obtain ⟨accounts, rfl⟩ := settleLocal_ok hledger
  exact validate_moved hs (card_entered hfresh hcount)
    (validateCrossDomain_leg hcross hterms.leg hleg rfl)
    (validate_grown hvm (keeps_insert hcurrent.nullifier)
      (keeps_insert hcurrent.operation))

theorem claimed_validate_again {ledger : VmState V (ParticipantRegistry V)} {id id' : Id} {now' : ℕ}
    (h : ((s.claimed localLegId record now ledger).entered id).validate api = .ok ())
    (hfresh : id ∉ s.appliedTransactions) (hfresh' : id' ∉ s.appliedTransactions) :
    ((s.claimed localLegId record now' ledger).entered id').validate api = .ok () := by
  have hparts := h
  simp only [validate, ok_iff] at hparts
  obtain ⟨_, _, _, hcount, hcross, _, _, hvm⟩ := hparts
  have hcount' : s.transitionCount = s.appliedTransactions.card := by
    have hcard := Finset.card_insert_of_notMem hfresh
    change s.transitionCount + 1 = (insert id s.appliedTransactions).card at hcount
    omega
  obtain ⟨v, hbook⟩ := validateCrossDomain_book hcross
  have hstored := validate_eq_ok.mp hbook localLegId _ (lookup_insert _)
  have hleg := validate_insert hbook subset_rfl (stored_claimed now' hstored)
  have hwritten : (s.crossDomain.legs.insert localLegId (record.taken now)).insert localLegId
      (record.taken now') = s.crossDomain.legs.insert localLegId (record.taken now') :=
    insert_insert _
  have hmoved := validate_moved h (card_entered hfresh' hcount')
    (validateCrossDomain_leg hcross (lookup_insert _) hleg rfl) hvm
  unfold claimed
  rw [← hwritten]
  exact hmoved

end Validity

theorem validateHostState_same {api : HostApi V O} {u : Unit} (hjudges : application.JudgesOwnState)
    (hoptimistic : t.optimistic = s.optimistic)
    (hstates : t.applicationStates = s.applicationStates)
    (h : s.validateHostState api application = .ok u) :
    t.validateHostState api application = .ok u := by
  simp only [validateHostState, hoptimistic, hjudges s t hstates] at h ⊢
  exact h

variable [AddCommGroup V] [Module Scalar V] [DecidableEq V]

theorem dispatch_legKept (hspares : application.SparesLegs)
    (hother : localLegId ∉ tx.crossLegs) (h : s.dispatch api application now method tx = .ok t) :
    LegKept localLegId s t := by
  cases tx with
  | crossDomainPrepare leg order approval =>
    have hne : localLegId ≠ leg.localLegId := by simpa [Tx.crossLegs] using hother
    simp only [dispatch, prepareCrossDomain, ok_iff] at h
    obtain ⟨_, _, _, _, _, _, _, book, hbook, happly⟩ := h
    obtain ⟨_, hprepare⟩ := crossDomainResult_ok hbook
    obtain ⟨_, _, _, _, _, _, hlegs⟩ := prepare_ok hprepare
    exact (legKept_insert hne hlegs).trans (applyLocalSettlement_legKept happly)
  | crossDomainArm other receipt =>
    have hne : localLegId ≠ other := by simpa [Tx.crossLegs] using hother
    simp only [dispatch, armCrossDomain, ok_iff] at h
    obtain ⟨_, _, book, hbook, rfl⟩ := h
    obtain ⟨_, harm⟩ := crossDomainResult_ok hbook
    obtain ⟨_, _, _, _, _, _, _, hlegs⟩ := arm_ok harm
    exact legKept_insert hne hlegs
  | crossDomainClaim other witness order approval =>
    have hne : localLegId ≠ other := by simpa [Tx.crossLegs] using hother
    simp only [dispatch, claimCrossDomain, ok_iff] at h
    obtain ⟨_, _, _, _, _, _, book, hbook, happly⟩ := h
    obtain ⟨_, hclaim⟩ := crossDomainResult_ok hbook
    obtain ⟨_, _, _, _, _, _, hlegs⟩ := claim_ok hclaim
    exact (legKept_insert hne hlegs).trans (applyLocalSettlement_legKept happly)
  | crossDomainRefund other order approval =>
    have hne : localLegId ≠ other := by simpa [Tx.crossLegs] using hother
    simp only [dispatch, refundCrossDomain, ok_iff] at h
    obtain ⟨_, _, _, _, _, _, book, hbook, happly⟩ := h
    obtain ⟨_, hrefund⟩ := crossDomainResult_ok hbook
    obtain ⟨_, _, _, _, _, _, hlegs⟩ := refund_ok hrefund
    exact (legKept_insert hne hlegs).trans (applyLocalSettlement_legKept happly)
  | crossDomainObserveClaim other receipt =>
    have hne : localLegId ≠ other := by simpa [Tx.crossLegs] using hother
    simp only [dispatch, observeCrossDomainClaim, ok_iff] at h
    obtain ⟨_, _, book, hbook, rfl⟩ := h
    obtain ⟨_, hobserve⟩ := crossDomainResult_ok hbook
    obtain ⟨_, _, _, _, _, _, _, hlegs⟩ := observeRemoteClaim_ok hobserve
    exact legKept_insert hne hlegs
  | ledger => simp only [dispatch] at h; exact onLedger_legKept h
  | registry =>
    simp only [dispatch, requestRegistry, ok_iff] at h
    obtain ⟨_, _, _, _, _, rfl⟩ := h
    exact ⟨rfl, rfl⟩
  | participantProductReservation transition auth custody reservation underlyingApproval
      mandateApproval expectedBeforeRoot expectedAfterUnderlyingRoot =>
    obtain ⟨u, registry, hu, rfl⟩ := reserveProductWithMandate_ok h
    have hkept : LegKept localLegId s u := by
      cases custody with
      | account | note => simp only [reserveUnderlying] at hu; exact onLedger_legKept hu
    exact ⟨hkept.leg, hkept.policy⟩
  | application params =>
    obtain ⟨hbook, hpolicy⟩ := hspares s params now t h
    exact ⟨by rw [hbook], hpolicy⟩
  | _ => exact (dispatch_aside rfl h).legKept

section Machine

variable {api : MachineApi V O} {bytes : Bytes} {localLegId witness : Bytes}
  {order : SettlementOrder V} {record : LegRecord} {statement : Id}

theorem successor_eq_ok {api : HostApi V O} {transactionId : Id} {envelope : TransactionEnvelope V} :
    successor api application transactionId now envelope s = .ok t ↔
      (∀ policy ∈ s.deploymentCryptoPolicy, policy.mode ≠ .on) ∧
        ∃ next, s.dispatch api application now envelope.method envelope.params = .ok next ∧
          next.transitionCount < u64Max ∧ t = next.entered transactionId ∧
          t.validate api = .ok () ∧ t.validateHostState api application = .ok () := by
  simp only [successor, execute, requireSupportedDeploymentCryptoPath, ok_iff, checkedSucc_eq_some]
  constructor
  · rintro ⟨next, ⟨hsupported, hdispatch⟩, _, ⟨hbelow, rfl⟩, hvalid, hhost, rfl⟩
    exact ⟨hsupported, next, hdispatch, hbelow, rfl, hvalid, hhost⟩
  · rintro ⟨hsupported, next, hdispatch, hbelow, rfl, hvalid, hhost⟩
    exact ⟨next, ⟨hsupported, hdispatch⟩, _, ⟨hbelow, rfl⟩, hvalid, hhost, rfl⟩

theorem applyWithApplication_eq_ok :
    (∃ receipt, applyWithApplication api application bytes now s = (.ok receipt, t)) ↔
      s.deploymentCryptoPolicy = api.authorizer.deploymentCryptoPolicy ∧
        s.validateHostState api.toHostApi application = .ok () ∧
        ∃ envelope, api.decode bytes = .ok envelope ∧
          api.transactionId bytes ∉ s.appliedTransactions ∧
          successor api.toHostApi application (api.transactionId bytes) now envelope s = .ok t := by
  simp only [applyWithApplication, ran_iff, ok_iff]
  constructor
  · grind
  · grind

theorem leg_kept_of_accepted {receipt : TransitionReceipt} (hspares : application.SparesLegs)
    (hother : localLegId ∉ listed api Tx.crossLegs bytes)
    (h : applyWithApplication api application bytes now s = (.ok receipt, t)) :
    LegKept localLegId s t ∧ t.validateHostState api.toHostApi application = .ok () ∧
      t.validate api.toHostApi = .ok () := by
  obtain ⟨_, _, envelope, hdecode, _, hsuccessor⟩ := applyWithApplication_eq_ok.mp ⟨receipt, h⟩
  obtain ⟨_, next, hdispatch, _, rfl, hvalid, hhost⟩ := successor_eq_ok.mp hsuccessor
  simp only [listed, hdecode] at hother
  have hkept := dispatch_legKept hspares hother hdispatch
  exact ⟨⟨hkept.leg, hkept.policy⟩, hhost, hvalid⟩

/-- Where everything but the accounts is right, the accounts decide. -/
theorem claim_accepted_iff {approval : Approval} (hjudges : application.JudgesOwnState)
    (hterms : ClaimTerms api.toHostApi s localLegId witness order record statement)
    (hpolicy : s.deploymentCryptoPolicy = api.authorizer.deploymentCryptoPolicy)
    (hsupported : ∀ policy ∈ s.deploymentCryptoPolicy, policy.mode ≠ .on)
    (hhost : s.validateHostState api.toHostApi application = .ok ())
    (hvalid : ∀ ledger, OrderCurrent s order now →
      settleLocal order statement s.toVmState = .ok ledger →
      ((s.claimed localLegId record now ledger).entered (api.transactionId bytes)).validate
        api.toHostApi = .ok ())
    (hdecode : api.decode bytes = .ok ⟨method, .crossDomainClaim localLegId witness order approval⟩)
    (hfresh : api.transactionId bytes ∉ s.appliedTransactions)
    (happroved : ∀ claim, s.claimStatement api.toHostApi localLegId order = .ok claim →
      s.authorizeAt api.toHostApi now approval claim = .ok ()) :
    (∃ receipt t, applyWithApplication api application bytes now s = (.ok receipt, t)) ↔
      OrderCurrent s order now ∧ s.transitionCount < u64Max := by
  rw [exists_comm]
  simp only [applyWithApplication_eq_ok, successor_eq_ok, hdecode, Except.ok.injEq,
    exists_eq_left']
  constructor
  · rintro ⟨t, _, _, _, _, next, hdispatch, hbelow, _⟩
    obtain ⟨_, _, _, hcurrent, ledger, _, rfl⟩ := claimCrossDomain_ok hdispatch
    exact ⟨hcurrent, hbelow⟩
  · rintro ⟨hcurrent, hbelow⟩
    obtain ⟨ledger, hledger, hdispatch⟩ := claimCrossDomain_of_current hterms hcurrent happroved
    exact ⟨_, hpolicy, hhost, hfresh, hsupported, _, hdispatch, hbelow, rfl,
      hvalid ledger hcurrent hledger, validateHostState_same (s := s) hjudges rfl rfl hhost⟩

/-- A leg is armed and its claim would be taken. After any other transactions the leg
is armed still. A claim with the same settlement and witness is then taken exactly if
the state has the rows that the settlement was proved against, and the count of
transactions has room. It has them until the deadline if no accepted transaction writes
one of them. -/
theorem armed_leg_claimable_iff (api : MachineApi V O) (application : ApplicationRuntime V O)
    (hspares : application.SparesLegs) (hjudges : application.JudgesOwnState)
    {s₀ s₁ t₀ : HostState V O} {localLegId witness : Bytes} {order : SettlementOrder V}
    {bytes₀ bytes : Bytes} {now₀ now : ℕ} {method₀ method : String} {approval₀ approval : Approval}
    {receipt₀ : TransitionReceipt} {calls : List (Bytes × ℕ)}
    (hdecode₀ : api.decode bytes₀ =
      .ok ⟨method₀, .crossDomainClaim localLegId witness order approval₀⟩)
    (hclaim₀ : applyWithApplication api application bytes₀ now₀ s₀ = (.ok receipt₀, t₀))
    (hothers : EachAccepted (transact api application)
      (fun _ call => localLegId ∉ listed api Tx.crossLegs call.1) s₀ calls)
    (hs₁ : run (transact api application) s₀ calls = s₁)
    (hdecode : api.decode bytes = .ok ⟨method, .crossDomainClaim localLegId witness order approval⟩)
    (hfresh : api.transactionId bytes ∉ s₁.appliedTransactions)
    (happroved : ∀ claim, s₁.claimStatement api.toHostApi localLegId order = .ok claim →
      s₁.authorizeAt api.toHostApi now approval claim = .ok ()) :
    (∃ record, s₁.crossDomain.legs.lookup localLegId = some record ∧ record.status = .armed) ∧
      ((∃ receipt t, applyWithApplication api application bytes now s₁ = (.ok receipt, t)) ↔
        OrderCurrent s₁ order now ∧ s₁.transitionCount < u64Max) ∧
      (EachAccepted (transact api application)
          (fun s call => OrderSpared order s (transact api application call s).2) s₀ calls →
        now ≤ order.deadline → OrderCurrent s₁ order now) := by
  obtain ⟨hpolicy₀, hhost₀, envelope, hdecode', hfresh₀, hsuccessor⟩ :=
    applyWithApplication_eq_ok.mp ⟨receipt₀, hclaim₀⟩
  obtain rfl := Except.ok.inj (hdecode'.symm.trans hdecode₀)
  obtain ⟨hsupported₀, next, hdispatch, _, rfl, hvalid₀, _⟩ := successor_eq_ok.mp hsuccessor
  obtain ⟨record, statement, hterms₀, hcurrent₀, ledger₀, hledger₀, rfl⟩ :=
    claimCrossDomain_ok hdispatch
  -- the first state need not be valid itself, every later one is
  have hrun : LegKept localLegId s₀ s₁ ∧ s₁.validateHostState api.toHostApi application = .ok () ∧
      (s₁ = s₀ ∨ s₁.validate api.toHostApi = .ok ()) := by
    rw [← hs₁]
    let inv : HostState V O → Prop := fun s => LegKept localLegId s₀ s ∧
      s.validateHostState api.toHostApi application = .ok () ∧
      (s = s₀ ∨ s.validate api.toHostApi = .ok ())
    have hstart : inv s₀ := ⟨.refl localLegId s₀, hhost₀, .inl rfl⟩
    refine EachAccepted.invariant ?_ transact_restores hstart hothers
    rintro s call receipt t ⟨hkept, _, _⟩ hother haccept
    obtain ⟨hstep, hhost, hvalid⟩ := leg_kept_of_accepted hspares hother haccept
    exact ⟨hkept.trans hstep, hhost, .inr hvalid⟩
  obtain ⟨hkept, hhost, hwhole⟩ := hrun
  have hterms := hterms₀.of_legKept hkept
  refine ⟨⟨record, hterms.leg, hterms.armed⟩, ?_, fun hspared hlater => ?_⟩
  · refine claim_accepted_iff hjudges hterms (hkept.policy.trans hpolicy₀)
      (by rw [hkept.policy]; exact hsupported₀) hhost ?_ hdecode hfresh happroved
    intro ledger hcurrent hledger
    obtain rfl | hvalid := hwhole
    · obtain rfl := Except.ok.inj (hledger.symm.trans hledger₀)
      exact claimed_validate_again hvalid₀ hfresh₀ hfresh
    · exact claimed_validate hterms hcurrent hledger hvalid hfresh
  · have hstep : ∀ s call receipt t, OrderCurrent s order now₀ →
        OrderSpared order s (transact api application call s).2 →
        transact api application call s = (.ok receipt, t) → OrderCurrent t order now₀ := by
      intro s call receipt t hs hcall haccept
      rw [haccept] at hcall
      exact hs.spared hcall
    rw [← hs₁]
    exact { EachAccepted.invariant hstep transact_restores hcurrent₀ hspared with
      inTime := hlater }

end Machine

end HostState

section Sample

def legTerms : PrepareLeg where
  localDomain := ⟨1, (vmId 60).1, (vmId 61).1⟩
  remoteDomain := ⟨2, (vmId 62).1, (vmId 63).1⟩
  localLegId := (vmId 64).1
  expectedRemotePrepareBinding := (vmId 66).1
  expectedRemoteClaimBinding := (vmId 67).1
  ownerCommitment := (vmId 5).1
  escrowCommitment := (vmId 6).1
  destinationCommitment := (vmId 7).1
  assetCommitment := (vmId 1).1
  amountCommitment := (vmId 68).1
  localInstructionDigest := (vmId 22).1
  localRelationProofDigest := (vmId 23).1
  reserveTransferDigest := (vmId 26).1
  claimTransferDigest := (vmId 20).1
  refundTransferDigest := (vmId 25).1
  armDeadline := 1000
  claimDeadline := 2000
  refundAfter := 3000
  releaseCondition := (vmId 69).1

def inEscrow : CompressedPoint Plane := .point (((10 : ℕ) : Scalar), ((3 : ℕ) : Scalar))

def outOfEscrow : CompressedPoint Plane := .point (0, ((3 : ℕ) : Scalar))

def armedHost : HostState Plane Unit :=
  { hostSample { emptyLedger with
      assets := (∅ : Table Id AssetRecord).insert (vmId 1) ⟨.cash, true⟩
      accounts := ((((∅ : Table Id (AccountRecord Plane)).insert (vmId 5) ⟨vmId 1, clear 90, 1⟩).insert
        (vmId 6) ⟨vmId 1, inEscrow, 1⟩).insert (vmId 7) ⟨vmId 1, clear 100, 0⟩).insert
        (vmId 8) ⟨vmId 1, clear 50, 0⟩ } with
    crossDomain := ⟨(∅ : Table Bytes LegRecord).insert legTerms.localLegId
      ⟨legTerms, .armed, 100, some 200, none, none, some (vmId 65).1, none⟩, {(vmId 65).1}⟩
    crossDomainLocalDomain := some legTerms.localDomain }

def claimOrder : SettlementOrder Plane :=
  ⟨vmId 20, vmId 21, 4000, vmId 22, vmId 23, vmId 24,
    [⟨vmId 6, vmId 1, inEscrow, outOfEscrow, 1⟩, ⟨vmId 7, vmId 1, clear 100, clear 110, 0⟩]⟩

def refundOrder : SettlementOrder Plane :=
  ⟨vmId 25, vmId 27, 4000, vmId 22, vmId 23, vmId 24,
    [⟨vmId 6, vmId 1, inEscrow, outOfEscrow, 1⟩, ⟨vmId 5, vmId 1, clear 90, clear 100, 1⟩]⟩

def payment (payee : UInt8) (before after sequence : ℕ) : SettlementOrder Plane :=
  ⟨vmId 30, vmId 31, 4000, vmId 32, vmId 33, vmId 34,
    [⟨vmId 8, vmId 1, clear 50, clear 49, 0⟩,
      ⟨vmId payee, vmId 1, clear before, clear after, sequence⟩]⟩

def legTxs : List (Tx Plane) :=
  [.crossDomainClaim legTerms.localLegId (vmId 69).1 claimOrder ⟨vmId 90, [59]⟩,
    .ledger (.settlement (payment 7 100 101 0) ⟨vmId 90, [30]⟩),
    .crossDomainRefund legTerms.localLegId refundOrder ⟨vmId 90, [59]⟩,
    .ledger (.settlement (payment 5 90 91 1) ⟨vmId 90, [30]⟩)]

def legCall (name : UInt8) (now : ℕ) : InPlace (HostState Plane Unit) TransitionReceipt :=
  sampleStep legTxs ([name], now)

theorem armedHost_claims : (legCall 0 2500 armedHost).1 = .ok ⟨vmId 0, vmId 90, vmId 90⟩ := by
  decide +kernel

theorem armed_leg_claimable_sample :
    ∃ receipt t, legCall 0 2600 (run (sampleStep legTxs) armedHost [([3], 2500)]) =
      (.ok receipt, t) := by
  have hdecode : (machineSample legTxs).decode [0] = .ok ⟨"defmivm.issue",
      .crossDomainClaim legTerms.localLegId (vmId 69).1 claimOrder ⟨vmId 90, [59]⟩⟩ := rfl
  have hothers : EachAccepted (sampleStep legTxs) (fun _ call => legTerms.localLegId ∉
      HostState.listed (machineSample legTxs) Tx.crossLegs call.1) armedHost [([3], 2500)] :=
    ⟨fun _ => by decide, trivial⟩
  obtain ⟨_, htaken, hspared⟩ := HostState.armed_leg_claimable_iff (machineSample legTxs)
    noApplications noApplications_sparesLegs noApplications_judgesOwnState hdecode
    (Prod.ext armedHost_claims rfl) hothers rfl hdecode (by decide +kernel)
    fun claim h => by
      simp only [HostState.claimStatement, ok_iff] at h
      obtain ⟨_, _, _, _, rfl⟩ := h
      exact show HostState.authorizeAt _ _ 2600 _ (vmId 59) = .ok () by decide +kernel
  refine htaken.mpr ⟨hspared ⟨fun _ => ⟨?_, ?_, ?_, ?_⟩, trivial⟩ (by decide), by decide +kernel⟩
  all_goals decide +kernel

/-- A payment into the account the leg goes to. It is taken and is not about the leg;
afterwards the leg can neither be claimed nor refunded. -/
theorem armed_leg_stranded :
    (legCall 0 2500 armedHost).1 = .ok ⟨vmId 0, vmId 90, vmId 90⟩ ∧
      (legCall 1 2500 armedHost).1 = .ok ⟨vmId 1, vmId 90, vmId 90⟩ ∧
      legTerms.localLegId ∉ HostState.listed (machineSample legTxs) Tx.crossLegs [1] ∧
      (legCall 0 2600 (legCall 1 2500 armedHost).2).1 =
        .error "cross-domain settlement was proved against stale account state" ∧
      (legCall 2 3500 (legCall 1 2500 armedHost).2).1 =
        .error "invalid cross-domain state transition" := by
  decide +kernel

end Sample

end DeFMI
