import DeFMI.CrossDomainPair
import DeFMI.CrossDomainRuns
set_option autoImplicit false

/-!
The receipt that a leg keeps as proof of the remote claim. A book writes it whenever a
fresh receipt is observed, so it stays only if a leg is observed once.
-/

namespace DeFMI
open Lib InPlace

namespace CrossDomainBook

def claimReceipt (book : CrossDomainBook) (id : Bytes) : Option Bytes :=
  (book.legs.lookup id).bind LegRecord.remoteClaimReceipt

def BookCall.observed : BookCall → Option Bytes
  | .observeRemoteClaim id _ _ _ => some id
  | _ => none

/-- What was recorded at one time of a run is recorded at every later time. -/
def WrittenOnce (c : CrossCrypto) (book : CrossDomainBook) (calls : List BookCall) : Prop :=
  ∀ earlier later more, earlier ++ later ++ more = calls → ∀ id digest,
    claimReceipt (run (perform c) book earlier) id = some digest →
      claimReceipt (run (perform c) book (earlier ++ later)) id = some digest

def ObservesUnrecorded (book : CrossDomainBook) (call : BookCall) : Prop :=
  ∀ id ∈ call.observed, book.claimReceipt id = none

section Steps

variable {c : CrossCrypto} {book book' : CrossDomainBook} {call : BookCall} {id digest : Bytes}

theorem claimReceipt_eq_some :
    book.claimReceipt id = some digest ↔
      ∃ record, book.legs.lookup id = some record ∧ record.remoteClaimReceipt = some digest := by
  simp [claimReceipt, Option.bind_eq_some_iff]

theorem claimReceipt_insert {k : Bytes} {record record' : LegRecord} {consumed : Finset Bytes}
    (hrecord : book.legs.lookup k = some record) (hreceipt : book.claimReceipt id = some digest)
    (hsame : record'.remoteClaimReceipt = record.remoteClaimReceipt) :
    (CrossDomainBook.mk (book.legs.insert k record') consumed).claimReceipt id = some digest := by
  rw [← hreceipt]
  unfold claimReceipt
  rw [Table.lookup_insert_eq_ite]
  split
  · next hid =>
    subst hid
    simp [hrecord, hsame]
  · rfl

theorem Effect.claimReceipt_kept (h : Effect c book call book') (hother : call.observed ≠ some id)
    (hreceipt : book.claimReceipt id = some digest) : book'.claimReceipt id = some digest := by
  cases h with
  | prepare p now hvalid hnow hfresh =>
    obtain ⟨record, hrow, hdigest⟩ := claimReceipt_eq_some.mp hreceipt
    have hne : id ≠ p.localLegId := by
      rintro rfl
      simp [hfresh] at hrow
    exact claimReceipt_eq_some.mpr ⟨record, (AList.lookup_insert_ne hne).trans hrow, hdigest⟩
  | arm k receipt committee now record hrecord hs hfresh =>
    exact claimReceipt_insert hrecord hreceipt rfl
  | claim k witness now record hrecord hs => exact claimReceipt_insert hrecord hreceipt rfl
  | observe k receipt committee now record hrecord hs hfresh =>
    obtain ⟨row, hrow, hdigest⟩ := claimReceipt_eq_some.mp hreceipt
    have hne : id ≠ k := by
      rintro rfl
      exact hother rfl
    exact claimReceipt_eq_some.mpr ⟨row, (AList.lookup_insert_ne hne).trans hrow, hdigest⟩
  | refund k now record hrecord hs => exact claimReceipt_insert hrecord hreceipt rfl

theorem Effect.claimReceipt_observed (h : Effect c book call book')
    (hobserved : call.observed = some id) :
    ∃ fresh, fresh ∉ book.consumedReceipts ∧ book'.claimReceipt id = some fresh := by
  cases h with
  | observe k receipt committee now record hrecord hs hfresh =>
    cases hobserved
    refine ⟨c.receiptDigest receipt, hfresh, claimReceipt_eq_some.mpr ⟨_, AList.lookup_insert _, rfl⟩⟩
  | prepare | arm | claim | refund => simp [BookCall.observed] at hobserved

theorem claimReceipt_consumed {u : Unit} (hvalid : book.validate = .ok u)
    (hreceipt : book.claimReceipt id = some digest) : digest ∈ book.consumedReceipts := by
  obtain ⟨record, hrow, hdigest⟩ := claimReceipt_eq_some.mp hreceipt
  exact (validate_eq_ok.mp hvalid id record hrow).claimConsumed digest hdigest

theorem Effect.observesUnrecorded_iff {u : Unit} (h : Effect c book call book')
    (hvalid : book.validate = .ok u) :
    ObservesUnrecorded book call ↔
      ∀ id digest, book.claimReceipt id = some digest → book'.claimReceipt id = some digest := by
  constructor
  · intro hcall id digest hreceipt
    refine h.claimReceipt_kept (fun hobserved => ?_) hreceipt
    simp [hcall id hobserved] at hreceipt
  · intro hkept id hobserved
    by_contra hrecorded
    obtain ⟨digest, hreceipt⟩ := Option.ne_none_iff_exists'.mp hrecorded
    obtain ⟨fresh, hfresh, hwritten⟩ := h.claimReceipt_observed hobserved
    have hsame : fresh = digest := Option.some.inj (hwritten.symm.trans (hkept id digest hreceipt))
    exact hfresh (hsame ▸ claimReceipt_consumed hvalid hreceipt)

end Steps

section Runs

variable {c : CrossCrypto} {book : CrossDomainBook} {calls : List BookCall}

theorem writtenOnce_of_unrecorded
    (h : EachAccepted (perform c) ObservesUnrecorded book calls) :
    WrittenOnce c book calls := by
  rintro earlier later more rfl id digest hreceipt
  obtain ⟨hlater, _⟩ := eachAccepted_append.mp h
  obtain ⟨_, hlater⟩ := eachAccepted_append.mp hlater
  rw [run_append]
  let inv : CrossDomainBook → Prop := fun later => later.claimReceipt id = some digest
  have hrun : inv (run (perform c) (run (perform c) book earlier) later) := by
    refine EachAccepted.invariant ?_ (fun _ _ _ _ => perform_restores) hreceipt hlater
    intro s call d t hs hcall h
    refine (perform_effect h).claimReceipt_kept (fun hobserved => ?_) hs
    have hnone := hcall id hobserved
    simp [inv, hnone] at hs
  exact hrun

theorem WrittenOnce.head {call : BookCall} {digest : Bytes} {book' : CrossDomainBook}
    (h : WrittenOnce c book (call :: calls)) (hcall : perform c call book = (.ok digest, book')) :
    ∀ id d, book.claimReceipt id = some d → book'.claimReceipt id = some d := by
  intro id d hreceipt
  have hlater := h [] [call] calls rfl id d hreceipt
  simpa [run, hcall] using hlater

theorem WrittenOnce.tail {call : BookCall} (h : WrittenOnce c book (call :: calls)) :
    WrittenOnce c (perform c call book).2 calls := by
  rintro earlier later more rfl id d hreceipt
  exact h (call :: earlier) later more rfl id d hreceipt

theorem unrecorded_of_writtenOnce {u : Unit} (hvalid : book.validate = .ok u)
    (h : WrittenOnce c book calls) :
    EachAccepted (perform c) ObservesUnrecorded book calls := by
  induction calls generalizing book with
  | nil => trivial
  | cons call calls ih =>
    cases hcall : perform c call book with
    | mk result book' =>
      have hrest := h.tail
      rw [hcall] at hrest
      refine ⟨fun haccepted => ?_, ?_⟩
      · cases result with
        | ok => exact ((perform_effect hcall).observesUnrecorded_iff hvalid).mpr (h.head hcall)
        | error => simp [hcall, Except.isOk, Except.toBool] at haccepted
      · rw [hcall]
        refine ih ?_ hrest
        cases result with
        | ok => exact (perform_effect hcall).validate hvalid
        | error => rw [perform_restores hcall]; exact hvalid

/-- A recorded receipt stays in every run that observes only legs without one. In a run
from a valid book it stays for no other reason. -/
theorem claimReceipt_writtenOnce_iff (c : CrossCrypto) (book : CrossDomainBook)
    (calls : List BookCall) :
    (EachAccepted (perform c) ObservesUnrecorded book calls → WrittenOnce c book calls) ∧
      (book.validate = .ok () →
        (WrittenOnce c book calls ↔
          EachAccepted (perform c) ObservesUnrecorded book calls)) :=
  ⟨writtenOnce_of_unrecorded,
    fun hvalid => ⟨unrecorded_of_writtenOnce hvalid, writtenOnce_of_unrecorded⟩⟩

end Runs

section Sample

def auditCrypto : CrossCrypto :=
  { sampleCrypto with
    receiptDigest receipt := receipt.destinationLegId ++ receipt.eventBinding ++
      receipt.signatures.flatMap ReceiptSignature.memberId }

def auditMember (n : UInt8) : CommitteeMember :=
  ⟨[n], ⟨[n], [n], .ed25519MlDsa65, .attestation, List.replicate 32 n ++ [n], []⟩, 1⟩

def auditCommittee : Committee := ⟨sampleDomain .second, 1, 1, [auditMember 1, auditMember 2]⟩

def auditReceipt (n : UInt8) : FinalityReceipt :=
  ⟨⟨.ed25519MlDsa65, (sampleDomain .second).chainId, sampleDomain .second, sampleDomain .first,
    sampleLegId .first, [21], .claimed, [40], [41], 1, 1, 1⟩, [⟨[n], [1]⟩]⟩

def auditCalls : List BookCall :=
  [.prepare (sampleTerms .first) 1,
    .arm (sampleLegId .first) (sampleReceipt .first) (sampleCommittee .second) 2,
    .claim (sampleLegId .first) [32] 3,
    .observeRemoteClaim (sampleLegId .first) (auditReceipt 1) auditCommittee 4]

theorem claimReceipt_writtenOnce_sample : WrittenOnce auditCrypto empty auditCalls := by
  refine (claimReceipt_writtenOnce_iff auditCrypto empty auditCalls).1 ⟨?_, ?_, ?_, ?_, trivial⟩
  · exact fun _ id hid => by simp [BookCall.observed] at hid
  · exact fun _ id hid => by simp [BookCall.observed] at hid
  · exact fun _ id hid => by simp [BookCall.observed] at hid
  · intro _ id hid
    obtain rfl : sampleLegId .first = id := Option.some.inj hid
    decide +kernel

/-- A second proof of the same claim, signed by the other member, takes the place of
the first. -/
theorem claimReceipt_rewritten :
    claimReceipt (run (perform auditCrypto) empty auditCalls) (sampleLegId .first) =
        some [11, 21, 1] ∧
      claimReceipt (run (perform auditCrypto) empty (auditCalls ++
        [.observeRemoteClaim (sampleLegId .first) (auditReceipt 2) auditCommittee 5]))
        (sampleLegId .first) = some [11, 21, 2] := by
  decide +kernel

end Sample

end CrossDomainBook
end DeFMI
