import DeFMI.CrossDomain
import DeFMI.Lib.Transaction
set_option autoImplicit false

/-!
Whole histories of one cross-domain book. The methods write the record they found in
place, field by field; each is shown to be the update its pure model computes, and what
a history keeps is read off what one update does to one record.
-/

namespace DeFMI
open Lib InPlace Finset CrossDomainBook Relation.ReflTransGen CrossDomainError

namespace CrossDomainBook

variable {α : Type}

def guarded (f : CrossDomainBook → CrossResult α) : InPlace CrossDomainBook α :=
  check fun book => (f book).mapError CrossDomainError.text

def write (id : Bytes) (record : LegRecord) : InPlace CrossDomainBook Unit :=
  modify fun book => { book with legs := book.legs.insert id record }

def consume (digest : Bytes) : InPlace CrossDomainBook Unit :=
  modify fun book => { book with consumedReceipts := insert digest book.consumedReceipts }

def answer (f : CrossDomainBook → CrossResult (CrossDomainBook × Bytes)) :
    InPlace CrossDomainBook Bytes := fun book =>
  match f book with
  | .ok (book', digest) => (.ok digest, book')
  | .error e => (.error e.text, book)

/-! The methods in the order of their statements. -/

namespace Mut

def prepare (c : CrossCrypto) (p : PrepareLeg) (now : ℕ) : InPlace CrossDomainBook Bytes := do
  guarded fun _ => p.validate
  guarded fun _ => require (now ≤ p.armDeadline) .armDeadlinePassed
  guarded fun book => require (p.localLegId ∉ book.legs) .duplicateLeg
  let record : LegRecord := ⟨p, .prepared, now, none, none, none, none, none⟩
  let digest := c.recordDigest record
  write p.localLegId record
  pure digest

def arm (c : CrossCrypto) (localLegId : Bytes) (receipt : FinalityReceipt) (committee : Committee)
    (now : ℕ) : InPlace CrossDomainBook Bytes := do
  let digest := c.receiptDigest receipt
  guarded fun book => require (digest ∉ book.consumedReceipts) .receiptAlreadyConsumed
  let record ← guarded fun book => okOr (book.legs.lookup localLegId) .unknownLeg
  guarded fun _ => require (record.status = .prepared) .invalidTransition
  guarded fun _ => require (now ≤ record.prepare.armDeadline) .armDeadlinePassed
  guarded fun _ => validateReceiptBinding record receipt .prepared
  guarded fun _ => require (receipt.finalisedAt ≤ record.prepare.armDeadline ∧
    receipt.finalisedAt ≤ now) .receiptOutsideWindow
  guarded fun _ => receipt.verify c committee now
  let record := { record with status := .armed }
  write localLegId record
  let record := { record with armedAt := some now }
  write localLegId record
  let record := { record with remotePrepareReceipt := some digest }
  write localLegId record
  consume digest
  pure (c.recordDigest record)

def claim (c : CrossCrypto) (localLegId witness : Bytes) (now : ℕ) :
    InPlace CrossDomainBook Bytes := do
  let record ← guarded fun book => okOr (book.legs.lookup localLegId) .unknownLeg
  guarded fun _ => require (record.status = .armed) .invalidTransition
  guarded fun _ => require (c.hashReleaseWitness witness = record.prepare.releaseCondition)
    .invalidReleaseWitness
  let record := { record with status := .claimed }
  write localLegId record
  let record := { record with claimedAt := some now }
  write localLegId record
  pure (c.recordDigest record)

def observeRemoteClaim (c : CrossCrypto) (localLegId : Bytes) (receipt : FinalityReceipt)
    (committee : Committee) (now : ℕ) : InPlace CrossDomainBook Bytes := do
  let digest := c.receiptDigest receipt
  guarded fun book => require (digest ∉ book.consumedReceipts) .receiptAlreadyConsumed
  let record ← guarded fun book => okOr (book.legs.lookup localLegId) .unknownLeg
  guarded fun _ => require (record.status = .claimed) .invalidTransition
  guarded fun _ => validateReceiptBinding record receipt .claimed
  guarded fun _ => require (receipt.finalisedAt ≤ now) .receiptOutsideWindow
  guarded fun _ => receipt.verify c committee now
  let record := { record with remoteClaimReceipt := some digest }
  write localLegId record
  consume digest
  pure (c.recordDigest record)

def refund (c : CrossCrypto) (localLegId : Bytes) (now : ℕ) : InPlace CrossDomainBook Bytes := do
  let record ← guarded fun book => okOr (book.legs.lookup localLegId) .unknownLeg
  guarded fun _ => require (record.status = .prepared) .invalidTransition
  guarded fun _ => require (record.prepare.refundAfter ≤ now) .refundTooEarly
  let record := { record with status := .refunded }
  write localLegId record
  let record := { record with refundedAt := some now }
  write localLegId record
  pure (c.recordDigest record)

end Mut

inductive BookCall where
  | prepare (p : PrepareLeg) (now : ℕ)
  | arm (localLegId : Bytes) (receipt : FinalityReceipt) (committee : Committee) (now : ℕ)
  | claim (localLegId witness : Bytes) (now : ℕ)
  | observeRemoteClaim (localLegId : Bytes) (receipt : FinalityReceipt) (committee : Committee)
      (now : ℕ)
  | refund (localLegId : Bytes) (now : ℕ)

def perform (c : CrossCrypto) : BookCall → InPlace CrossDomainBook Bytes
  | .prepare p now => Mut.prepare c p now
  | .arm localLegId receipt committee now => Mut.arm c localLegId receipt committee now
  | .claim localLegId witness now => Mut.claim c localLegId witness now
  | .observeRemoteClaim localLegId receipt committee now =>
    Mut.observeRemoteClaim c localLegId receipt committee now
  | .refund localLegId now => Mut.refund c localLegId now

def step (c : CrossCrypto) (book : CrossDomainBook) :
    BookCall → CrossResult (CrossDomainBook × Bytes)
  | .prepare p now => book.prepare c p now
  | .arm localLegId receipt committee now => book.arm c localLegId receipt committee now
  | .claim localLegId witness now => book.claim c localLegId witness now
  | .observeRemoteClaim localLegId receipt committee now =>
    book.observeRemoteClaim c localLegId receipt committee now
  | .refund localLegId now => book.refund c localLegId now

def BookCall.consumed (c : CrossCrypto) : BookCall → Option Bytes
  | .arm _ receipt _ _ => some (c.receiptDigest receipt)
  | .observeRemoteClaim _ receipt _ _ => some (c.receiptDigest receipt)
  | _ => none

section InPlace

variable {c : CrossCrypto} {book book' : CrossDomainBook} {call : BookCall} {digest : Bytes}

theorem guarded_bind_eq_answer {f : CrossDomainBook → CrossResult α}
    {g : α → InPlace CrossDomainBook Bytes}
    {h : α → CrossDomainBook → CrossResult (CrossDomainBook × Bytes)}
    (hg : ∀ a, f book = .ok a → g a book = answer (h a) book) :
    (guarded f >>= g) book = answer (fun book => f book >>= fun a => h a book) book := by
  cases hf : f book with
  | ok a =>
    have hcheck : (f book).mapError text = .ok a := by rw [hf]; rfl
    rw [guarded, check_bind_ok (f := fun book => (f book).mapError text)
      hcheck, hg a hf, answer, answer, hf]
    rfl
  | error e =>
    have hcheck : (f book).mapError text = .error e.text := by rw [hf]; rfl
    rw [guarded, check_bind_error (f := fun book => (f book).mapError text)
      hcheck, answer, hf]
    rfl

theorem perform_eq (c : CrossCrypto) (call : BookCall) (book : CrossDomainBook) :
    perform c call book = answer (fun book => book.step c call) book := by
  cases call with
  | prepare =>
    iterate 3 refine guarded_bind_eq_answer fun _ _ => ?_
    rfl
  | arm =>
    iterate 7 refine guarded_bind_eq_answer fun _ _ => ?_
    change _ = (Except.ok _, _)
    simp [write, consume]
  | claim | refund =>
    iterate 3 refine guarded_bind_eq_answer fun _ _ => ?_
    change _ = (Except.ok _, _)
    simp [write]
  | observeRemoteClaim =>
    iterate 6 refine guarded_bind_eq_answer fun _ _ => ?_
    rfl

inductive Effect (c : CrossCrypto) (book : CrossDomainBook) : BookCall → CrossDomainBook → Prop where
  | prepare (p : PrepareLeg) (now : ℕ) (hvalid : p.validate = .ok ()) (hnow : now ≤ p.armDeadline)
      (hfresh : book.legs.lookup p.localLegId = none) :
      Effect c book (.prepare p now)
        ⟨book.legs.insert p.localLegId ⟨p, .prepared, now, none, none, none, none, none⟩,
          book.consumedReceipts⟩
  | arm (id : Bytes) (receipt : FinalityReceipt) (committee : Committee) (now : ℕ)
      (record : LegRecord) (hrecord : book.legs.lookup id = some record)
      (hs : record.status = .prepared) (hfresh : c.receiptDigest receipt ∉ book.consumedReceipts) :
      Effect c book (.arm id receipt committee now)
        ⟨book.legs.insert id { record with
          status := .armed
          armedAt := some now
          remotePrepareReceipt := some (c.receiptDigest receipt) },
          insert (c.receiptDigest receipt) book.consumedReceipts⟩
  | claim (id witness : Bytes) (now : ℕ) (record : LegRecord)
      (hrecord : book.legs.lookup id = some record) (hs : record.status = .armed) :
      Effect c book (.claim id witness now)
        ⟨book.legs.insert id { record with status := .claimed, claimedAt := some now },
          book.consumedReceipts⟩
  | observe (id : Bytes) (receipt : FinalityReceipt) (committee : Committee) (now : ℕ)
      (record : LegRecord) (hrecord : book.legs.lookup id = some record)
      (hs : record.status = .claimed) (hfresh : c.receiptDigest receipt ∉ book.consumedReceipts) :
      Effect c book (.observeRemoteClaim id receipt committee now)
        ⟨book.legs.insert id { record with remoteClaimReceipt := some (c.receiptDigest receipt) },
          insert (c.receiptDigest receipt) book.consumedReceipts⟩
  | refund (id : Bytes) (now : ℕ) (record : LegRecord)
      (hrecord : book.legs.lookup id = some record) (hs : record.status = .prepared) :
      Effect c book (.refund id now)
        ⟨book.legs.insert id { record with status := .refunded, refundedAt := some now },
          book.consumedReceipts⟩

theorem step_effect (h : book.step c call = .ok (book', digest)) : Effect c book call book' := by
  cases call with
  | prepare p now =>
    simp only [step, prepare, ok_iff, Prod.mk.injEq] at h
    obtain ⟨hvalid, hnow, hfresh, rfl, _⟩ := h
    exact .prepare p now hvalid hnow (AList.lookup_eq_none.mpr hfresh)
  | arm id receipt committee now =>
    simp only [step, arm, ok_iff, Prod.mk.injEq] at h
    obtain ⟨hfresh, record, hrecord, hs, _, _, _, _, rfl, _⟩ := h
    exact .arm id receipt committee now record hrecord hs hfresh
  | claim id witness now =>
    simp only [step, claim, ok_iff, Prod.mk.injEq] at h
    obtain ⟨record, hrecord, hs, _, rfl, _⟩ := h
    exact .claim id witness now record hrecord hs
  | observeRemoteClaim id receipt committee now =>
    simp only [step, observeRemoteClaim, ok_iff, Prod.mk.injEq] at h
    obtain ⟨hfresh, record, hrecord, hs, _, _, _, rfl, _⟩ := h
    exact .observe id receipt committee now record hrecord hs hfresh
  | refund id now =>
    simp only [step, refund, ok_iff, Prod.mk.injEq] at h
    obtain ⟨record, hrecord, hs, _, rfl, _⟩ := h
    exact .refund id now record hrecord hs

theorem perform_effect (h : perform c call book = (.ok digest, book')) :
    Effect c book call book' := by
  rw [perform_eq, answer] at h
  cases hstep : book.step c call with
  | ok =>
    rw [hstep] at h
    cases h
    exact step_effect hstep
  | error => simp [hstep] at h

theorem perform_restores {e : String} (h : perform c call book = (.error e, book')) :
    book' = book := by
  rw [perform_eq, answer] at h
  cases hstep : book.step c call with
  | ok => simp [hstep] at h
  | error => rw [hstep] at h; cases h; rfl

end InPlace

section Validity

variable {c : CrossCrypto} {book book' : CrossDomainBook} {call : BookCall}

structure Stored (consumed : Finset Bytes) (id : Bytes) (record : LegRecord) : Prop where
  terms : record.prepare.validate = .ok ()
  name : id = record.prepare.localLegId
  inTime : record.preparedAt ≤ record.prepare.armDeadline
  shape : recordShape record = true
  prepareConsumed : ∀ d ∈ record.remotePrepareReceipt, d ∈ consumed
  claimConsumed : ∀ d ∈ record.remoteClaimReceipt, d ∈ consumed

theorem Stored.mono {consumed consumed' : Finset Bytes} {id : Bytes} {record : LegRecord}
    (h : Stored consumed id record) (hsub : consumed ⊆ consumed') : Stored consumed' id record :=
  { h with
    prepareConsumed d hd := hsub (h.prepareConsumed d hd)
    claimConsumed d hd := hsub (h.claimConsumed d hd) }

theorem validate_eq_ok {u : Unit} :
    book.validate = .ok u ↔
      ∀ id record, book.legs.lookup id = some record →
        Stored book.consumedReceipts id record := by
  have hentry : ∀ id record, book.validateRecord ⟨id, record⟩ = .ok () ↔
      Stored book.consumedReceipts id record := by
    intro id record
    simp only [validateRecord, bind_eq_ok, require_eq_ok, not_or, not_not, not_lt]
    constructor
    · grind [Stored]
    · grind [Stored]
  simp only [validate, forEach_eq_ok]
  constructor
  · intro h id record hrow
    exact (hentry id record).mp (h ⟨id, record⟩ (AList.mem_lookup_iff.mp hrow))
  · intro h e he
    exact (hentry e.1 e.2).mpr (h e.1 e.2 (AList.mem_lookup_iff.mpr he))

theorem validate_insert {u : Unit} {id : Bytes} {record : LegRecord} {consumed : Finset Bytes}
    (h : book.validate = .ok u) (hsub : book.consumedReceipts ⊆ consumed)
    (hrecord : Stored consumed id record) :
    (mk (book.legs.insert id record) consumed).validate = .ok () := by
  rw [validate_eq_ok] at h ⊢
  intro k stored hrow
  rw [Table.lookup_insert_eq_ite] at hrow
  split at hrow
  · next hk =>
    cases hrow
    exact hk ▸ hrecord
  · exact (h k stored hrow).mono hsub

theorem Effect.validate {u : Unit} (h : Effect c book call book') (hbook : book.validate = .ok u) :
    book'.validate = .ok () := by
  have hstored := validate_eq_ok.mp hbook
  cases h with
  | prepare p now hvalid hnow hfresh =>
    exact validate_insert hbook subset_rfl ⟨hvalid, rfl, hnow, rfl, by simp, by simp⟩
  | arm id receipt committee now record hrecord hs hfresh =>
    have hold := hstored id record hrecord
    have hshape := hold.shape
    refine validate_insert hbook (subset_insert _ _)
      { hold.mono (subset_insert (c.receiptDigest receipt) _) with
        shape := ?_
        prepareConsumed := by simp }
    simp_all [recordShape]
  | claim id witness now record hrecord hs =>
    have hold := hstored id record hrecord
    have hshape := hold.shape
    refine validate_insert hbook subset_rfl { hold with shape := ?_ }
    simp_all [recordShape]
  | observe id receipt committee now record hrecord hs hfresh =>
    have hold := hstored id record hrecord
    have hshape := hold.shape
    refine validate_insert hbook (subset_insert _ _)
      { hold.mono (subset_insert (c.receiptDigest receipt) _) with
        shape := ?_
        claimConsumed := by simp }
    simp_all [recordShape]
  | refund id now record hrecord hs =>
    have hold := hstored id record hrecord
    have hshape := hold.shape
    refine validate_insert hbook subset_rfl { hold with shape := ?_ }
    simp_all [recordShape]

end Validity

section Runs

variable {c : CrossCrypto} {book book' : CrossDomainBook} {call : BookCall} {digest : Bytes}

inductive Moves : LegStatus → LegStatus → Prop where
  | arm : Moves .prepared .armed
  | claim : Moves .armed .claimed
  | refund : Moves .prepared .refunded

/-- The later record of a leg, found from its status before by these changes; a leg that
was not there started as prepared. -/
def Follows (before after : Option LegStatus) : Prop :=
  match before, after with
  | some s, some t => Relation.ReflTransGen Moves s t
  | none, some t => Relation.ReflTransGen Moves .prepared t
  | none, none => True
  | some _, none => False

theorem Follows.refl (status : Option LegStatus) : Follows status status := by
  cases status with
  | none => trivial
  | some => exact Relation.ReflTransGen.refl

theorem Follows.trans {x y z : Option LegStatus} (hxy : Follows x y) (hyz : Follows y z) :
    Follows x z := by
  cases x <;> cases y <;> cases z <;> simp only [Follows] at hxy hyz ⊢
  · exact hyz
  · exact hxy.trans hyz
  · exact hxy.trans hyz

def status (book : CrossDomainBook) (id : Bytes) : Option LegStatus :=
  (book.legs.lookup id).map LegRecord.status

theorem status_insert (legs : Table Bytes LegRecord) (consumed : Finset Bytes) (id : Bytes)
    (record : LegRecord) (k : Bytes) :
    (mk (legs.insert id record) consumed).status k =
      if k = id then some record.status else (legs.lookup k).map LegRecord.status := by
  rw [status, Table.lookup_insert_eq_ite]
  split
  · rfl
  · rfl

theorem Effect.follows (h : Effect c book call book') (k : Bytes) :
    Follows (book.status k) (book'.status k) := by
  have hinsert : ∀ (id : Bytes) (record : LegRecord) (consumed : Finset Bytes),
      Follows (book.status id) (some record.status) →
        Follows (book.status k)
          ((mk (book.legs.insert id record) consumed).status k) := by
    intro id record consumed hrecord
    rw [status_insert]
    split
    · next hk => exact hk ▸ hrecord
    · exact Follows.refl _
  have hstatus : ∀ {id : Bytes} {record : LegRecord}, book.legs.lookup id = some record →
      book.status id = some record.status := by
    intro id record hrecord
    rw [status, hrecord]
    rfl
  cases h with
  | prepare p now hvalid hnow hfresh =>
    refine hinsert _ _ _ ?_
    rw [status, hfresh]
    exact Relation.ReflTransGen.refl
  | arm id receipt committee now record hrecord hs hfresh =>
    refine hinsert _ _ _ ?_
    rw [hstatus hrecord, hs]
    exact single .arm
  | claim id witness now record hrecord hs =>
    refine hinsert _ _ _ ?_
    rw [hstatus hrecord, hs]
    exact single .claim
  | observe id receipt committee now record hrecord hs hfresh =>
    refine hinsert _ _ _ ?_
    rw [hstatus hrecord]
    exact Relation.ReflTransGen.refl
  | refund id now record hrecord hs =>
    refine hinsert _ _ _ ?_
    rw [hstatus hrecord, hs]
    exact single .refund

theorem Effect.consumed (h : Effect c book call book') :
    book.consumedReceipts ⊆ book'.consumedReceipts ∧
      ∀ d ∈ call.consumed c, d ∉ book.consumedReceipts ∧ d ∈ book'.consumedReceipts := by
  cases h with
  | prepare | claim | refund => exact ⟨subset_rfl, by simp [BookCall.consumed]⟩
  | arm id receipt committee now record hrecord hs hfresh
  | observe id receipt committee now record hrecord hs hfresh =>
    exact ⟨subset_insert _ _, by simpa [BookCall.consumed] using hfresh⟩

theorem run_follows (c : CrossCrypto) (book : CrossDomainBook) (calls : List BookCall) (k : Bytes) :
    Follows (book.status k) ((run (perform c) book calls).status k) := by
  let inv : CrossDomainBook → Prop := fun later => Follows (book.status k) (later.status k)
  have hrun : inv (run (perform c) book calls) := by
    refine run_invariant ?_ ?_ calls (Follows.refl _)
    · intro s op d t hs h
      exact hs.trans ((perform_effect h).follows k)
    · intro s op e t hs h
      rw [perform_restores h]
      exact hs
  exact hrun

/-- The book stays valid through every run, a leg is prepared, then armed and claimed or
refunded, no receipt is consumed twice, and a refused call changes nothing. -/
theorem book_wellFormed (c : CrossCrypto) :
    empty.validate = .ok () ∧
      (∀ book call digest book', book.validate = .ok () →
        perform c call book = (.ok digest, book') → book'.validate = .ok ()) ∧
      (∀ calls, (run (perform c) empty calls).validate = .ok ()) ∧
      (∀ book calls id,
        Follows (status book id) (status (run (perform c) book calls) id)) ∧
      (∀ book calls digest, (history (perform c) book calls).countP
        (fun step => step.op.consumed c = some digest) ≤ 1) ∧
      ∀ book call e book', perform c call book = (.error e, book') → book' = book := by
  have hvalid : ∀ book call digest book', book.validate = .ok () →
      perform c call book = (.ok digest, book') → book'.validate = .ok () :=
    fun book call digest book' hbook h => (perform_effect h).validate hbook
  have hempty : empty.validate = .ok () := rfl
  refine ⟨hempty, hvalid, fun calls => ?_, run_follows c, fun book calls digest => ?_,
    fun book call e book' => perform_restores⟩
  · let inv : CrossDomainBook → Prop := fun book => book.validate = .ok ()
    have hrun : inv (run (perform c) empty calls) := by
      refine run_invariant ?_ ?_ calls hempty
      · intro s op d t hs h
        exact hvalid s op d t hs h
      · intro s op e t hs h
        rw [perform_restores h]
        exact hs
    exact hrun
  · refine (countP_history_le_one (fun _ => True)
      (fun book => digest ∈ book.consumedReceipts) _ ?_ ?_ calls trivial).1
    · intro s op d t _ h
      obtain ⟨hsub, hconsumed⟩ := (perform_effect h).consumed
      exact ⟨trivial, fun hmem => hsub hmem, fun hop => hconsumed digest (by simpa using hop)⟩
    · intro s op e t _ h
      rw [perform_restores h]
      exact ⟨trivial, id⟩

end Runs

end CrossDomainBook
end DeFMI
