import DeFMI.Facility.Receipts
set_option autoImplicit false

/-!
What the receipt chain shows. Every transaction of the facility only adds genuine
receipts behind the last one, and nothing but an initial part of the signed
sequence passes the check.
-/

namespace DeFMI
open Lib InPlace HashChain List

section Chain

variable {V : Type} {api : FacilityApi V}

/-- The signer and the JSON codec of the facility, which are other crates. -/
structure FacilityApi.SignsReceipts (api : FacilityApi V) : Prop where
  readBack : ∀ wire, api.receiptWireFromJson (api.receiptWireJson wire) = .ok wire
  signature : ∀ body coins signature, api.signReceipt body coins = .ok signature →
    signature.length = receiptSignatureBytes ∧ api.verifyReceipt body signature = true

/-- No two of the receipts collide, and no digest is the value the chain starts from. -/
structure FacilityApi.CollisionFree (api : FacilityApi V) (signed : List SettlementReceipt) :
    Prop where
  distinct : ∀ r ∈ signed, ∀ q ∈ signed, api.receiptDigest r = api.receiptDigest q → r = q
  started : ∀ r ∈ signed, api.receiptDigest r ≠ 0

/-- Rows written without the key: a receipt in them that verifies is one that was signed. -/
def FacilityApi.Unforged (api : FacilityApi V) (signed : List SettlementReceipt)
    (db : FacilityDb V) : Prop :=
  ∀ row ∈ db.receipts, ∀ r, receiptFromJson api row.receiptJson = .ok r →
    api.verifyReceipt r.toSettlementReceiptBody r.signature = true → r ∈ signed

abbrev ReceiptsLinked (api : FacilityApi V) (start : Id) (receipts : List SettlementReceipt) : Prop :=
  Linked (fun r : SettlementReceipt => r.previousReceipt) api.receiptDigest start receipts

def Genuine (api : FacilityApi V) (r : SettlementReceipt) : Prop :=
  r.signature.length = receiptSignatureBytes ∧
    api.verifyReceipt r.toSettlementReceiptBody r.signature = true

theorem receiptFromJson_receiptJson (hsigns : api.SignsReceipts) {r : SettlementReceipt}
    (hr : Genuine api r) : receiptFromJson api (receiptJson api r) = .ok r := by
  simp only [receiptFromJson, receiptJson, hsigns.readBack]
  exact ReceiptWire.intoReceipt_fromReceipt hr.1

theorem verifyRows_map_receiptRow (hsigns : api.SignsReceipts) {start : Id}
    {receipts : List SettlementReceipt} (hgenuine : ∀ r ∈ receipts, Genuine api r)
    (hlinked : ReceiptsLinked api start receipts) :
    verifyRows api start (receipts.map (receiptRow api)) =
      .ok (some (tip api.receiptDigest start receipts)) := by
  induction receipts generalizing start with
  | nil => rfl
  | cons r receipts ih =>
    obtain ⟨hprevious, hrest⟩ := hlinked
    replace hprevious : r.previousReceipt = start := hprevious
    have hr := hgenuine r mem_cons_self
    have hread := receiptFromJson_receiptJson hsigns hr
    have hnext := ih (fun q hq => hgenuine q (mem_cons_of_mem _ hq)) hrest
    simpa [verifyRows, receiptRow, hread, hprevious, hr.2, tip] using hnext

theorem verifyRows_eq_some {start final : Id} {rows : List ReceiptRow}
    (h : verifyRows api start rows = .ok (some final)) :
    ∃ receipts, Forall₂ (fun row r => receiptFromJson api row.receiptJson = .ok r) rows receipts ∧
      (∀ r ∈ receipts, api.verifyReceipt r.toSettlementReceiptBody r.signature = true) ∧
      ReceiptsLinked api start receipts ∧ tip api.receiptDigest start receipts = final := by
  induction rows generalizing start with
  | nil =>
    cases h
    exact ⟨[], .nil, by simp, trivial, rfl⟩
  | cons row rows ih =>
    simp only [verifyRows, ok_iff] at h
    obtain ⟨r, hread, recorded, hrecorded, h⟩ := h
    split at h
    · cases h
    · next hfits =>
      simp only [not_or, not_not] at hfits
      obtain ⟨hprevious, hverified, hdigest⟩ := hfits
      obtain ⟨receipts, hrows, hall, hlinked, htip⟩ := ih h
      subst hdigest
      refine ⟨r :: receipts, .cons hread hrows, ?_, ⟨hprevious, hlinked⟩, htip⟩
      simp only [mem_cons, forall_eq_or_imp]
      exact ⟨hverified, hall⟩

theorem verifyReceiptChain_eq_true {db : FacilityDb V} (h : verifyReceiptChain api db = .ok true) :
    ∃ receipts, storedReceipts api db = .ok receipts ∧
      (∀ r ∈ receipts, api.verifyReceipt r.toSettlementReceiptBody r.signature = true) ∧
      ReceiptsLinked api 0 receipts := by
  simp only [verifyReceiptChain, ok_iff] at h
  obtain ⟨reached, hrows, h⟩ := h
  cases reached with
  | none => cases h
  | some =>
    obtain ⟨receipts, hstored, hverified, hlinked, -⟩ := verifyRows_eq_some hrows
    exact ⟨receipts, mapEach_eq_ok.mpr hstored, hverified, hlinked⟩

theorem stored_prefix_of_signed {signed : List SettlementReceipt} {db : FacilityDb V}
    (hlinked : ReceiptsLinked api 0 signed) (hfree : api.CollisionFree signed)
    (hunforged : api.Unforged signed db) (h : verifyReceiptChain api db = .ok true) :
    ∃ stored, storedReceipts api db = .ok stored ∧ stored <+: signed := by
  obtain ⟨stored, hstored, hverified, hchain⟩ := verifyReceiptChain_eq_true h
  refine ⟨stored, hstored, prefix_of_linked hfree.distinct hfree.started hlinked hchain ?_⟩
  intro r hr
  obtain ⟨row, hrow, hread⟩ := forall₂_mem_right (mapEach_eq_ok.mp hstored) hr
  exact hunforged row hrow r hread (hverified r hr)

structure Appends (api : FacilityApi V) (new : List SettlementReceipt) (f f' : NativeFacility V) :
    Prop where
  signed : f'.signed = f.signed ++ new
  rows : f'.db.receipts = f.db.receipts ++ new.map (receiptRow api)
  genuine : ∀ r ∈ new, Genuine api r
  last : ∀ d : Id, f.db.lastReceipt = some d.val → ReceiptsLinked api d new ∧
    f'.db.lastReceipt = some (tip api.receiptDigest d new).val

namespace Appends

variable {f f₁ f₂ : NativeFacility V} {new new₁ new₂ : List SettlementReceipt}

theorem of_same_chain (hsigned : f₁.signed = f.signed) (hrows : f₁.db.receipts = f.db.receipts)
    (hlast : f₁.db.lastReceipt = f.db.lastReceipt) : Appends api [] f f₁ where
  signed := by simp [hsigned]
  rows := by simp [hrows]
  genuine := by simp
  last d hd := ⟨trivial, hlast.trans hd⟩

theorem refl (f : NativeFacility V) : Appends api [] f f := of_same_chain rfl rfl rfl

theorem trans (h₁ : Appends api new₁ f f₁) (h₂ : Appends api new₂ f₁ f₂) :
    Appends api (new₁ ++ new₂) f f₂ where
  signed := by rw [h₂.signed, h₁.signed, append_assoc]
  rows := by rw [h₂.rows, h₁.rows, map_append, append_assoc]
  genuine r hr := (mem_append.mp hr).elim (h₁.genuine r) (h₂.genuine r)
  last d hd := by
    obtain ⟨hlinked₁, hlast₁⟩ := h₁.last d hd
    obtain ⟨hlinked₂, hlast₂⟩ := h₂.last _ hlast₁
    exact ⟨(linked_append _ _).mpr ⟨hlinked₁, hlinked₂⟩, by rw [hlast₂, tip_append]⟩

end Appends

variable {r : SettlementReceipt} {f f' : NativeFacility V} {order : SettlementOrder V}
  {db db' : FacilityDb V} {operationId statement : Id} {approval : QuorumApproval}
  {entry : ReceiptEntry} {measured : Measured} {beforeRoot : Id} {u : Unit} {now : ℕ}

theorem receiptOperationRegistry_keeps
    (h : receiptOperationRegistry operationId statement db = .ok db') :
    db'.receipts = db.receipts ∧ db'.lastReceipt = db.lastReceipt := by
  unfold receiptOperationRegistry at h
  split at h
  · simp only [ok_iff] at h
    obtain ⟨_, rfl⟩ := h
    exact ⟨rfl, rfl⟩
  · split at h
    · cases h; exact ⟨rfl, rfl⟩
    · cases h; exact ⟨rfl, rfl⟩

theorem insertReceipt_eq_ok (h : insertReceipt api r db = .ok db') :
    db'.receipts = db.receipts ++ [receiptRow api r] ∧
      db'.lastReceipt = db.lastReceipt.map fun _ => (api.receiptDigest r).val := by
  simp only [insertReceipt, ok_iff] at h
  obtain ⟨_, registered, hregistered, rfl⟩ := h
  obtain ⟨hrows, hlast⟩ := receiptOperationRegistry_keeps hregistered
  exact ⟨hrows, by simp only [hlast]⟩

theorem newReceipt_eq_ok (hsigns : api.SignsReceipts)
    {db : FacilityDb V} (h : newReceipt api entry beforeRoot db = .ok r) :
    Genuine api r ∧ db.lastReceipt = some r.previousReceipt.val ∧
      r.operationId = entry.operationId ∧ r.statement = entry.statement := by
  simp only [newReceipt, ok_iff] at h
  obtain ⟨stored, hstored, previous, hprevious, signature, hsignature, rfl⟩ := h
  have hval : stored = previous.val := by
    unfold parseId at hprevious
    split at hprevious
    · cases hprevious; rfl
    · cases hprevious
  exact ⟨hsigns.signature _ _ _ hsignature, by rw [hstored, hval], rfl, rfl⟩

theorem appendReceipt_eq_ok (h : appendReceipt api entry beforeRoot f = (.ok r, f')) :
    newReceipt api entry beforeRoot f.db = .ok r ∧ insertReceipt api r f.db = .ok f'.db ∧
      f'.signed = f.signed ++ [r] := by
  obtain ⟨receipt, hnew, h⟩ := check_bind_inv h
  replace h := modify_bind_inv h
  simp only [ran_iff, ok_iff] at h
  obtain ⟨_, ⟨db, hdb, rfl⟩, rfl, rfl⟩ := h
  exact ⟨hnew, hdb, rfl⟩

theorem appendReceipt_appends (hsigns : api.SignsReceipts)
    (h : appendReceipt api entry beforeRoot f = (.ok r, f')) : Appends api [r] f f' := by
  obtain ⟨hnew, hinsert, hsigned⟩ := appendReceipt_eq_ok h
  obtain ⟨hgenuine, hprevious, -, -⟩ := newReceipt_eq_ok hsigns hnew
  obtain ⟨hrows, hlast⟩ := insertReceipt_eq_ok hinsert
  refine ⟨hsigned, hrows, by simpa using hgenuine, fun d hd => ?_⟩
  have hd' : r.previousReceipt = d := Subtype.ext (Option.some.inj (hprevious.symm.trans hd))
  exact ⟨⟨hd', trivial⟩, by rw [hlast, hd]; rfl⟩

theorem FacilityWork.perform_appends {work : FacilityWork V}
    (h : work.perform f = (.ok u, f')) : Appends api [] f f' := by
  simp only [perform, ran_iff, ok_iff] at h
  obtain ⟨db, hdb, rfl⟩ := h
  obtain ⟨hrows, hlast⟩ := work.keeps_chain hdb
  exact Appends.of_same_chain rfl hrows hlast

theorem settleMember_appends (hsigns : api.SignsReceipts) {member : FacilityWork V × ReceiptEntry}
    (h : settleMember api member f = (.ok u, f')) :
    ∃ new, Appends api new f f' := by
  obtain ⟨beforeRoot, -, h⟩ := check_bind_inv h
  simp only [bind_eq, pure_eq] at h
  obtain ⟨_, worked, hwork, r, _, hreceipt, -, rfl⟩ := h
  exact ⟨_, (FacilityWork.perform_appends hwork).trans (appendReceipt_appends hsigns hreceipt)⟩

theorem applySettlement_keeps {statement : Id} (h : applySettlement order statement db = .ok db') :
    db'.receipts = db.receipts ∧ db'.lastReceipt = db.lastReceipt := by
  simp only [applySettlement, ok_iff] at h
  obtain ⟨nullifiers, _, h⟩ := h
  obtain ⟨operations, rfl⟩ := registerOperation_ok h
  exact ⟨rfl, rfl⟩

theorem verifyReceiptChain_of_appends (hsigns : api.SignsReceipts) {new : List SettlementReceipt}
    {f : NativeFacility V} (h : Appends api new {} f) : verifyReceiptChain api f.db = .ok true := by
  obtain ⟨hlinked, hlast⟩ := h.last 0 rfl
  have hrows := verifyRows_map_receiptRow hsigns h.genuine hlinked
  simp [verifyReceiptChain, h.rows, hrows, hlast]

theorem settledReceipt_of_more (h : settledReceipt api operationId statement db = .ok (some r))
    (hmore : db.receipts <+: db'.receipts) :
    settledReceipt api operationId statement db' = .ok (some r) := by
  unfold settledReceipt at h ⊢
  cases hrow : db.receipts.find? (fun row => row.operationId = operationId) with
  | none => simp [hrow] at h
  | some =>
    rw [hmore.find?_eq_some hrow]
    simpa [hrow] using h

theorem settledReceipt_append (hsigns : api.SignsReceipts) (hr : Genuine api r)
    (h : settledReceipt api operationId statement db = .ok none)
    (hrows : db'.receipts = db.receipts ++ [receiptRow api r]) (hid : r.operationId = operationId)
    (hstatement : r.statement = statement) :
    settledReceipt api operationId statement db' = .ok (some r) := by
  unfold settledReceipt at h ⊢
  cases hrow : db.receipts.find? (fun row => row.operationId = operationId) with
  | none =>
    simp [hrows, find?_append, hrow, receiptRow, hid, hstatement, require,
      receiptFromJson_receiptJson hsigns hr]
  | some =>
    simp only [hrow, ok_iff] at h
    obtain ⟨_, _, _, h⟩ := h
    cases h

theorem unforged_of_rows (hsigns : api.SignsReceipts) {signed : List SettlementReceipt}
    {db : FacilityDb V} (hgenuine : ∀ r ∈ signed, Genuine api r)
    (hrows : ∀ row ∈ db.receipts, row ∈ signed.map (receiptRow api)) : api.Unforged signed db := by
  intro row hrow r hread _
  obtain ⟨q, hq, rfl⟩ := mem_map.mp (hrows row hrow)
  rw [receiptRow, receiptFromJson_receiptJson hsigns (hgenuine q hq)] at hread
  cases hread
  exact hq

variable [AddCommGroup V] [DecidableEq V]

/-- A settlement is a replay, which returns what is stored, or adds one receipt. -/
theorem settle_eq_ok (h : settle api measured order approval now f = (.ok r, f')) :
    ∃ statement, order.statement api.toFacilityDigests = .ok statement ∧
      ((settledReceipt api order.operationId statement f.db = .ok (some r) ∧ f' = f) ∨
        (settledReceipt api order.operationId statement f.db = .ok none ∧
          ∃ written entry beforeRoot, Appends api [] f written ∧
            entry.operationId = order.operationId ∧ entry.statement = statement ∧
            appendReceipt api entry beforeRoot written = (.ok r, f'))) := by
  obtain ⟨statement, hstatement, h⟩ := check_bind_inv h
  obtain ⟨committed, h, rfl⟩ := transaction_eq.mp h
  obtain ⟨settled, hsettled, h⟩ := check_bind_inv h
  refine ⟨statement, hstatement, ?_⟩
  cases settled with
  | some =>
    obtain ⟨rfl, rfl⟩ := pure_eq.mp h
    exact .inl ⟨hsettled, rfl⟩
  | none =>
    obtain ⟨beforeRoot, -, h⟩ := check_bind_inv h
    obtain ⟨-, -, h⟩ := check_bind_inv h
    simp only [ran_iff, ok_iff] at h
    obtain ⟨_, ⟨db, hdb, rfl⟩, h⟩ := h
    obtain ⟨hrows, hlast⟩ := applySettlement_keeps hdb
    have hkept : Appends api [] f { f with db } := Appends.of_same_chain rfl hrows hlast
    exact .inr ⟨hsettled, _, _, beforeRoot, hkept, rfl, rfl, h⟩

theorem settle_appends (hsigns : api.SignsReceipts)
    (h : settle api measured order approval now f = (.ok r, f')) : ∃ new, Appends api new f f' := by
  obtain ⟨-, -, ⟨-, rfl⟩ | ⟨-, written, entry, beforeRoot, hwritten, -, -, h⟩⟩ := settle_eq_ok h
  · exact ⟨[], Appends.refl _⟩
  · exact ⟨_, hwritten.trans (appendReceipt_appends hsigns h)⟩

theorem NativeOperation.exec_appends (hsigns : api.SignsReceipts) {op : NativeOperation V}
    (h : op.exec api f = (.ok u, f')) :
    ∃ new, Appends api new f f' := by
  cases op with
  | settle =>
    simp only [exec, bind_eq, pure_eq] at h
    obtain ⟨r, _, h, -, rfl⟩ := h
    exact settle_appends hsigns h
  | transaction members finish =>
    obtain ⟨committed, h, rfl⟩ := transaction_eq.mp h
    simp only [bind_eq] at h
    obtain ⟨_, settled, hmembers, hfinish⟩ := h
    have hmember : ∀ member ∈ members, ∀ s t, settleMember api member s = (.ok (), t) →
        (∃ new, Appends api new f s) → ∃ new, Appends api new f t := by
      rintro member - s t ht ⟨new, hnew⟩
      obtain ⟨more, hmore⟩ := settleMember_appends hsigns ht
      exact ⟨_, hnew.trans hmore⟩
    obtain ⟨new, hnew⟩ := each_invariant hmember hmembers ⟨[], Appends.refl f⟩
    exact ⟨_, hnew.trans (FacilityWork.perform_appends hfinish)⟩

theorem settle_restores (measured : Measured) (order : SettlementOrder V) (approval : QuorumApproval)
    (now : ℕ) : Restores (settle api measured order approval now) :=
  restores_check_bind fun _ => restores_transaction true _

theorem NativeOperation.exec_restores (op : NativeOperation V) :
    Restores (op.exec api) := by
  cases op with
  | settle measured order approval now => exact (settle_restores measured order approval now).discard
  | transaction => exact restores_transaction true _

theorem run_appends (hsigns : api.SignsReceipts) (f : NativeFacility V)
    (ops : List (NativeOperation V)) :
    ∃ new, Appends api new f (run (NativeOperation.exec api) f ops) := by
  have hstep : ∀ s (op : NativeOperation V) u t, (∃ new, Appends api new f s) →
      op.exec api s = (.ok u, t) → ∃ new, Appends api new f t := by
    rintro s op u t ⟨new, hnew⟩ h
    obtain ⟨more, hmore⟩ := op.exec_appends hsigns h
    exact ⟨_, hnew.trans hmore⟩
  have hfail : ∀ s (op : NativeOperation V) e t, (∃ new, Appends api new f s) →
      op.exec api s = (.error e, t) → ∃ new, Appends api new f t := by
    intro s op e t hs h
    rw [op.exec_restores s e t h]
    exact hs
  exact run_invariant hstep hfail ops ⟨[], Appends.refl f⟩

theorem settledReceipt_of_settle (hsigns : api.SignsReceipts)
    (h : settle api measured order approval now f = (.ok r, f')) :
    ∃ statement, order.statement api.toFacilityDigests = .ok statement ∧
      settledReceipt api order.operationId statement f'.db = .ok (some r) := by
  obtain ⟨statement, hstatement, hcases⟩ := settle_eq_ok h
  refine ⟨statement, hstatement, ?_⟩
  obtain ⟨hsettled, rfl⟩ | ⟨hfresh, written, entry, beforeRoot, hwritten, hop, hst, h⟩ := hcases
  · exact hsettled
  · have hadded := hwritten.trans (appendReceipt_appends hsigns h)
    obtain ⟨hgenuine, -, hid, hsame⟩ := newReceipt_eq_ok hsigns (appendReceipt_eq_ok h).1
    exact settledReceipt_append hsigns hgenuine hfresh (by simpa using hadded.rows)
      (hid.trans hop) (hsame.trans hst)

theorem settle_of_settled {statement : Id} {f : NativeFacility V}
    (hstatement : order.statement api.toFacilityDigests = .ok statement)
    (h : settledReceipt api order.operationId statement f.db = .ok (some r)) (measured : Measured)
    (approval : QuorumApproval) (now : ℕ) :
    settle api measured order approval now f = (.ok r, f) := by
  rw [settle, check_bind_ok (s := f) (f := fun _ => order.statement _) hstatement]
  refine transaction_eq.mpr ⟨f, ?_, rfl⟩
  exact check_bind_ok 
    (f := fun g : NativeFacility V => settledReceipt api order.operationId statement g.db) h

theorem receipt_chain_integrity (hsigns : api.SignsReceipts) (ops : List (NativeOperation V)) :
    let f := run (NativeOperation.exec api) {} ops
    verifyReceiptChain api f.db = .ok true ∧
      (api.CollisionFree f.signed → ∀ db : FacilityDb V, api.Unforged f.signed db →
        verifyReceiptChain api db = .ok true →
          ∃ stored, storedReceipts api db = .ok stored ∧ stored <+: f.signed) ∧
      ∀ measured order approval now receipt f₁,
        settle api measured order approval now f = (.ok receipt, f₁) →
          ∀ later measured' approval' now',
            let f₂ := run (NativeOperation.exec api) f₁ later
            settle api measured' order approval' now' f₂ = (.ok receipt, f₂) := by
  intro f
  obtain ⟨signed, hsigned⟩ := run_appends hsigns {} ops
  have hall : f.signed = signed := by simpa using hsigned.signed
  refine ⟨verifyReceiptChain_of_appends hsigns hsigned, ?_, ?_⟩
  · intro hfree db hunforged h
    rw [hall] at hfree hunforged ⊢
    exact stored_prefix_of_signed (hsigned.last 0 rfl).1 hfree hunforged h
  · intro measured order approval now receipt f₁ h later measured' approval' now'
    obtain ⟨statement, hstatement, hsettled⟩ := settledReceipt_of_settle hsigns h
    obtain ⟨more, hmore⟩ := run_appends hsigns f₁ later
    exact settle_of_settled hstatement
      (settledReceipt_of_more hsettled ⟨_, hmore.rows.symm⟩) measured' approval' now'

end Chain

section Sample
open Governance.QuorumAuthorizer

/-! A codec that writes numbers in unary and lengths in front of byte strings, and a facility
with two accounts that settles twice. -/

def unary (n : ℕ) : Bytes := List.replicate n 1 ++ [0]

def readUnary : Bytes → ℕ × Bytes
  | [] => (0, [])
  | b :: rest => if b = 0 then (0, rest) else ((readUnary rest).1 + 1, (readUnary rest).2)

theorem readUnary_unary (n : ℕ) (rest : Bytes) : readUnary (unary n ++ rest) = (n, rest) := by
  induction n with
  | zero => simp [unary, readUnary]
  | succ n ih =>
    have hone : unary (n + 1) ++ rest = 1 :: (unary n ++ rest) := by
      simp [unary, replicate_succ]
    simp [hone, readUnary, ih]

def framed (bytes : Bytes) : Bytes := unary bytes.length ++ bytes

def readFramed (raw : Bytes) : Bytes × Bytes :=
  ((readUnary raw).2.take (readUnary raw).1, (readUnary raw).2.drop (readUnary raw).1)

theorem readFramed_framed (bytes rest : Bytes) : readFramed (framed bytes ++ rest) = (bytes, rest) := by
  simp [readFramed, framed, append_assoc, readUnary_unary]

def wireCode (w : ReceiptWire) : Bytes :=
  framed w.operationId ++ (framed w.nullifier ++ (framed w.statement ++ (framed w.beforeRoot ++
    (framed w.afterRoot ++ (framed w.previousReceipt ++ (unary w.committedAtNs ++
      (unary w.elapsedNs ++ (unary w.requestBytes ++ (unary w.responseBytes ++
        (unary w.databaseBytesBefore ++ (unary w.databaseBytesAfter ++ w.signature)))))))))))

def readWire (raw : Bytes) : ReceiptWire :=
  let operationId := readFramed raw
  let nullifier := readFramed operationId.2
  let statement := readFramed nullifier.2
  let beforeRoot := readFramed statement.2
  let afterRoot := readFramed beforeRoot.2
  let previousReceipt := readFramed afterRoot.2
  let committedAtNs := readUnary previousReceipt.2
  let elapsedNs := readUnary committedAtNs.2
  let requestBytes := readUnary elapsedNs.2
  let responseBytes := readUnary requestBytes.2
  let databaseBytesBefore := readUnary responseBytes.2
  let databaseBytesAfter := readUnary databaseBytesBefore.2
  ⟨operationId.1, nullifier.1, statement.1, beforeRoot.1, afterRoot.1, previousReceipt.1,
    committedAtNs.1, elapsedNs.1, requestBytes.1, responseBytes.1, databaseBytesBefore.1,
    databaseBytesAfter.1, databaseBytesAfter.2⟩

theorem readWire_wireCode (w : ReceiptWire) : readWire (wireCode w) = w := by
  simp only [readWire, wireCode, readFramed_framed, readUnary_unary]

def receiptSignature (body : SettlementReceiptBody) : Bytes :=
  List.replicate receiptSignatureBytes (body.operationId.val.headD 0)

def receiptApi : FacilityApi Plane where
  transition _ := Id.fill 1
  reservation _ _ := Id.fill 1
  grant _ := Id.fill 1
  control _ := Id.fill 1
  relationContext _ := Id.fill 1
  relationProof _ := Id.fill 1
  amendmentContext _ := Id.fill 1
  amendment _ := Id.fill 1
  amendmentProof _ := Id.fill 1
  escrow _ := Id.fill 1
  settlement order := Id.fill (order.operationId.val.headD 0 + 50)
  productRelease _ := Id.fill 1
  productSettlement _ := Id.fill 1
  productBatch _ := Id.fill 1
  key := planeKey
  root db := Id.fill (UInt8.ofNat (db.nullifiers.entries.length + 1))
  governance := signingApi
  authorizer := council
  asset _ := Id.fill 1
  account _ := Id.fill 1
  guarantor _ := Id.fill 1
  guarantorKeys _ _ := true
  guarantorSignature _ _ _ _ := .ok ()
  settlementVerifier _ := Id.fill 1
  settlementCommittee _ _ := true
  admissionCommittee _ := Id.fill 1
  nodeKey _ := true
  admissionBatch _ := Id.fill 1
  admissionLane _ _ _ _ := .error ""
  admissionAdvance _ := Id.fill 1
  certifiedDigest _ := .error ""
  verifyTyped _ _ _ := .ok ()
  assetLink _ _ _ _ := true
  assetLinkDigest _ _ _ := Id.fill 1
  accountOf _ _ := []
  reserveHandle _ := 0
  transferDigest _ := Id.fill 1
  dvpDigest _ := Id.fill 1
  thresholdDvpDigest _ := Id.fill 1
  makerMandate _ _ _ := .ok ()
  takerMandate _ _ _ := .ok ()
  priceLimit _ _ _ _ _ _ _ := .ok ()
  priceLimitDigest _ _ _ _ := Id.fill 1
  settlementBytes order := order.legs.length
  receiptWireJson := wireCode
  receiptWireFromJson raw := .ok (readWire raw)
  signReceipt body _ := .ok (receiptSignature body)
  verifyReceipt body signature := signature = receiptSignature body
  receiptDigest r := Id.fill (r.operationId.val.headD 0 + 100)

theorem receiptApi_signs : receiptApi.SignsReceipts where
  readBack wire := congrArg Except.ok (readWire_wireCode wire)
  signature body coins signature h := by
    cases h
    exact ⟨length_replicate, decide_eq_true rfl⟩

def openedAccounts (db : FacilityDb Plane) : Result (FacilityDb Plane) :=
  .ok { db with
    assets := db.assets.insert (Id.fill 2) ⟨⟨.cash, true⟩, Id.fill 3⟩
    accounts := (db.accounts.insert (Id.fill 10) ⟨⟨Id.fill 2, .point (5, 0), 0⟩, Id.fill 11⟩).insert
      (Id.fill 20) ⟨⟨Id.fill 2, .point (1, 0), 0⟩, Id.fill 21⟩ }

theorem openedAccounts_keeps {db db' : FacilityDb Plane} (h : openedAccounts db = .ok db') :
    db'.receipts = db.receipts ∧ db'.lastReceipt = db.lastReceipt := by
  cases h
  exact ⟨rfl, rfl⟩

def receiptOrder (byte : UInt8) (sequence : ℕ) (paid received : Plane × Plane) :
    SettlementOrder Plane where
  operationId := Id.fill byte
  nullifier := Id.fill (byte + 1)
  deadline := 9
  paymentInstructionDigest := Id.fill 4
  proofDigest := Id.fill 4
  marketStatementDigest := Id.fill 4
  legs := [⟨Id.fill 10, Id.fill 2, .point paid.1, .point paid.2, sequence⟩,
    ⟨Id.fill 20, Id.fill 2, .point received.1, .point received.2, sequence⟩]

def receiptOrders : List (SettlementOrder Plane) :=
  [receiptOrder 60 0 ((5, 0), (4, 0)) ((1, 0), (2, 0)),
    receiptOrder 70 1 ((4, 0), (3, 0)) ((2, 0), (3, 0))]

def thirdOrder : SettlementOrder Plane := receiptOrder 80 2 ((3, 0), (2, 0)) ((3, 0), (4, 0))

def receiptApproval (n : ℕ) : QuorumApproval :=
  councilApproval (.ofNat (110 + 10 * n)) (.ofNat (n + 1)) ["a", "b"]

def receiptRun : List (NativeOperation Plane) :=
  .transaction [] ⟨openedAccounts, openedAccounts_keeps⟩ ::
    receiptOrders.zipIdx.map fun (order, n) => .settle ⟨1, 1, 8, 9, []⟩ order (receiptApproval n) 5

def receiptFacility : NativeFacility Plane :=
  run (NativeOperation.exec receiptApi) {} receiptRun

def truncatedReceipts : FacilityDb Plane :=
  { receiptFacility.db with
    receipts := receiptFacility.db.receipts.take 1
    lastReceipt := some (Id.fill 160).val }

theorem truncatedReceipts_unforged : receiptApi.Unforged receiptFacility.signed truncatedReceipts := by
  obtain ⟨signed, hsigned⟩ := run_appends receiptApi_signs {} receiptRun
  have hall : receiptFacility.signed = signed := hsigned.signed
  rw [hall]
  refine unforged_of_rows receiptApi_signs hsigned.genuine fun row hrow => ?_
  have hmem : row ∈ receiptFacility.db.receipts := mem_of_mem_take hrow
  have hrows : receiptFacility.db.receipts = signed.map (receiptRow receiptApi) := hsigned.rows
  rwa [hrows] at hmem

theorem receipt_chain_integrity_sample :
    receiptApi.SignsReceipts ∧ receiptFacility.signed.length = 2 ∧
      verifyReceiptChain receiptApi receiptFacility.db = .ok true ∧
      verifyReceiptChain receiptApi truncatedReceipts = .ok true ∧
      (∃ stored, storedReceipts receiptApi truncatedReceipts = .ok stored ∧
        stored <+: receiptFacility.signed) ∧
      (settle receiptApi ⟨1, 1, 8, 9, []⟩ thirdOrder (receiptApproval 2) 5 receiptFacility).1.isOk = true ∧
      ∀ receipt f₁, settle receiptApi ⟨1, 1, 8, 9, []⟩ thirdOrder (receiptApproval 2) 5 receiptFacility =
          (.ok receipt, f₁) →
        settle receiptApi ⟨2, 2, 9, 9, []⟩ thirdOrder (receiptApproval 0) 20 f₁ = (.ok receipt, f₁) := by
  obtain ⟨hchain, htampered, hreplay⟩ := receipt_chain_integrity receiptApi_signs receiptRun
  have hverified : verifyReceiptChain receiptApi truncatedReceipts = .ok true := by decide +kernel
  refine ⟨receiptApi_signs, by decide +kernel, hchain, hverified, ?_, by decide +kernel,
    fun receipt f₁ h => ?_⟩
  · exact htampered ⟨by decide +kernel, by decide +kernel⟩ _ truncatedReceipts_unforged hverified
  · exact hreplay _ _ _ _ _ _ h [] _ _ _

end Sample
end DeFMI
