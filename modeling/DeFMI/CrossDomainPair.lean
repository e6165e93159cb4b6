import DeFMI.CrossDomain
set_option autoImplicit false

/-!
Two books, one per domain, each with one leg of the same pair. Receipts are
signed from what a book says at that moment and may be delivered late, more
than once or never.
-/

namespace DeFMI
open Lib CrossDomainBook

inductive Side where
  | first
  | second
  deriving DecidableEq

def Side.other : Side → Side
  | .first => .second
  | .second => .first

@[simp] theorem Side.other_other (i : Side) : i.other.other = i := by
  cases i <;> rfl

@[simp] theorem Side.other_ne (i : Side) : i.other ≠ i := by
  cases i <;> simp [Side.other]

theorem Side.eq_or_other (i j : Side) : j = i ∨ j = i.other := by
  cases i <;> cases j <;> simp [Side.other]

structure Pair where
  terms : Side → PrepareLeg
  facing : ∀ i, (terms i).remoteDomain = (terms i.other).localDomain

structure PairState where
  book : Side → CrossDomainBook
  clock : ℕ
  signed : List ReceiptBody

inductive PairEvent where
  | wait (seconds : ℕ)
  | sign (i : Side) (event : ReceiptEvent) (context : FinalityContext)
  | prepare (i : Side)
  | arm (i : Side) (receipt : FinalityReceipt) (committee : Committee)
  | claim (i : Side) (witness : Bytes)
  | observeRemoteClaim (i : Side) (receipt : FinalityReceipt) (committee : Committee)
  | refund (i : Side)

namespace PairState

def initial : PairState := ⟨fun _ => CrossDomainBook.empty, 0, []⟩

section
variable (pair : Pair) (s : PairState)

def setBook (i : Side) (result : CrossDomainBook × Bytes) : PairState :=
  { s with book := Function.update s.book i result.1 }

/-- A body no committee signed has no quorum, so delivering it is refused. -/
def apply (c : CrossCrypto) (pair : Pair) (s : PairState) :
    PairEvent → CrossResult PairState
  | .wait seconds => .ok { s with clock := s.clock + seconds }
  | .sign i event context => do
    let receipt ← (s.book i).receiptFor (pair.terms i).localLegId event context
    pure { s with signed := receipt.toReceiptBody :: s.signed }
  | .prepare i => do
    let result ← (s.book i).prepare c (pair.terms i) s.clock
    pure (s.setBook i result)
  | .arm i receipt committee => do
    require (receipt.toReceiptBody ∈ s.signed) .insufficientQuorum
    let result ← (s.book i).arm c (pair.terms i).localLegId receipt committee s.clock
    pure (s.setBook i result)
  | .claim i witness => do
    let result ← (s.book i).claim c (pair.terms i).localLegId witness s.clock
    pure (s.setBook i result)
  | .observeRemoteClaim i receipt committee => do
    require (receipt.toReceiptBody ∈ s.signed) .insufficientQuorum
    let result ← (s.book i).observeRemoteClaim c (pair.terms i).localLegId receipt committee
      s.clock
    pure (s.setBook i result)
  | .refund i => do
    let result ← (s.book i).refund c (pair.terms i).localLegId s.clock
    pure (s.setBook i result)

def run (c : CrossCrypto) (pair : Pair) (s : PairState) (es : List PairEvent) : PairState :=
  runEvents (apply c pair) s es

def leg (i : Side) : Option LegRecord :=
  (s.book i).legs.lookup (pair.terms i).localLegId

def status (i : Side) : Option LegStatus :=
  (s.leg pair i).map LegRecord.status

def Atomic : Prop :=
  ∀ i, s.status pair i = some .claimed → s.status pair i.other ≠ some .refunded

def Locked (i : Side) : Prop :=
  s.status pair i = some .armed ∨ s.status pair i = some .claimed

/-- A claim is presented only while the paired leg can no longer be refunded. -/
def ClaimGuarded : PairEvent → Prop
  | .claim i _ => s.Locked pair i.other
  | _ => True

end

instance (pair : Pair) (s : PairState) (i : Side) : Decidable (s.Locked pair i) :=
  inferInstanceAs (Decidable (_ ∨ _))

instance (pair : Pair) (s : PairState) : (e : PairEvent) → Decidable (s.ClaimGuarded pair e)
  | .claim i _ => inferInstanceAs (Decidable (s.Locked pair i.other))
  | .wait _ | .sign .. | .prepare _ | .arm .. | .observeRemoteClaim .. | .refund _ =>
    isTrue trivial

variable {c : CrossCrypto} {pair : Pair} {s t : PairState} {e : PairEvent}

structure LegStep (pair : Pair) (s t : PairState) (e : PairEvent) (i : Side)
    (record : LegRecord) : Prop where
  advance : Advance (s.leg pair i) record
  after : t.leg pair i = some record
  frame : t.leg pair i.other = s.leg pair i.other
  signed : t.signed = s.signed
  fresh : s.leg pair i = none → record.prepare = pair.terms i ∧
    record.prepare.localDomain ≠ record.prepare.remoteDomain
  kept : ∀ old, s.leg pair i = some old → record.prepare = old.prepare
  armed : record.status = .armed →
    ∃ body ∈ s.signed, body.sourceDomain = record.prepare.remoteDomain
  claimed : record.status = .claimed → s.status pair i = some .armed → ∃ w, e = .claim i w

variable {record : LegRecord} {i : Side}

theorem setBook_leg (result : CrossDomainBook × Bytes)
    (h : result.1.legs = (s.book i).legs.insert (pair.terms i).localLegId record) :
    (s.setBook i result).leg pair i = some record ∧
      (s.setBook i result).leg pair i.other = s.leg pair i.other := by
  simp [leg, setBook, h]

theorem legStep_of_update {result : CrossDomainBook × Bytes} {old record : LegRecord}
    (hold : s.leg pair i = some old) (hadvance : Advance (some old) record)
    (hkept : record.prepare = old.prepare)
    (hlegs : result.1.legs = (s.book i).legs.insert (pair.terms i).localLegId record)
    (harmed : record.status = .armed →
      ∃ body ∈ s.signed, body.sourceDomain = record.prepare.remoteDomain)
    (hclaimed : record.status = .claimed → old.status = .armed → ∃ w, e = .claim i w) :
    LegStep pair s (s.setBook i result) e i record := by
  obtain ⟨hafter, hframe⟩ := setBook_leg result hlegs
  refine ⟨hold ▸ hadvance, hafter, hframe, rfl, ?_, ?_, harmed, ?_⟩
  · intro hnone
    rw [hold] at hnone
    cases hnone
  · intro old' hold'
    rw [hold] at hold'
    cases hold'
    exact hkept
  · intro hs hold'
    simp only [status, hold, Option.map_some, Option.some.injEq] at hold'
    exact hclaimed hs hold'

theorem apply_cases (h : s.apply c pair e = .ok t) :
    (∀ i, t.leg pair i = s.leg pair i) ∧ (∀ body ∈ t.signed, body ∈ s.signed ∨
        ∃ i record, s.leg pair i = some record ∧ body.sourceDomain = record.prepare.localDomain) ∨
      ∃ i record, LegStep pair s t e i record := by
  cases e with
  | wait =>
    cases h
    exact .inl ⟨fun _ => rfl, fun _ hbody => .inl hbody⟩
  | sign i event context =>
    simp only [apply, ok_iff] at h
    obtain ⟨receipt, hreceipt, rfl⟩ := h
    obtain ⟨record, hrecord, hsource⟩ := receiptFor_ok hreceipt
    refine .inl ⟨fun _ => rfl, ?_⟩
    intro body hbody
    cases hbody with
    | head => exact .inr ⟨i, record, hrecord, hsource⟩
    | tail _ hold => exact .inl hold
  | prepare i =>
    simp only [apply, ok_iff] at h
    obtain ⟨⟨book, digest⟩, hbook, rfl⟩ := h
    obtain ⟨hdomain, hnone, record, hadvance, hterms, hstatus, hlegs⟩ := prepare_ok hbook
    have hfresh : s.leg pair i = none := hnone
    obtain ⟨hafter, hframe⟩ := setBook_leg (book, digest) hlegs
    refine .inr ⟨i, record, hfresh ▸ hadvance, hafter, hframe, rfl, ?_, ?_, ?_, ?_⟩
    · intro _
      rw [hterms]
      exact ⟨rfl, hdomain⟩
    · intro old hold
      rw [hfresh] at hold
      cases hold
    · intro hs
      rw [hstatus] at hs
      cases hs
    · intro hs
      rw [hstatus] at hs
      cases hs
  | arm i receipt committee =>
    simp only [apply, ok_iff] at h
    obtain ⟨hsigned, ⟨book, digest⟩, hbook, rfl⟩ := h
    obtain ⟨old, record, hold, hadvance, hsource, hkept, hstatus, hlegs⟩ := arm_ok hbook
    refine .inr ⟨i, record, legStep_of_update hold hadvance hkept hlegs ?_ ?_⟩
    · intro _
      exact ⟨receipt.toReceiptBody, hsigned, hkept ▸ hsource⟩
    · intro hs
      rw [hstatus] at hs
      cases hs
  | claim i witness =>
    simp only [apply, ok_iff] at h
    obtain ⟨⟨book, digest⟩, hbook, rfl⟩ := h
    obtain ⟨old, record, hold, hadvance, hkept, hstatus, hlegs⟩ := claim_ok hbook
    refine .inr ⟨i, record, legStep_of_update hold hadvance hkept hlegs ?_ ?_⟩
    · intro hs
      rw [hstatus] at hs
      cases hs
    · intro _ _
      exact ⟨witness, rfl⟩
  | observeRemoteClaim i receipt committee =>
    simp only [apply, ok_iff] at h
    obtain ⟨_, ⟨book, digest⟩, hbook, rfl⟩ := h
    obtain ⟨old, record, hold, hadvance, hkept, hstatus, hstay, hlegs⟩ := observeRemoteClaim_ok hbook
    refine .inr ⟨i, record, legStep_of_update hold hadvance hkept hlegs ?_ ?_⟩
    · intro hs
      rw [hstay, hstatus] at hs
      cases hs
    · intro _ harmed
      rw [hstatus] at harmed
      cases harmed
  | refund i =>
    simp only [apply, ok_iff] at h
    obtain ⟨⟨book, digest⟩, hbook, rfl⟩ := h
    obtain ⟨old, record, hold, hadvance, hkept, hstatus, hlegs⟩ := refund_ok hbook
    refine .inr ⟨i, record, legStep_of_update hold hadvance hkept hlegs ?_ ?_⟩
    · intro hs
      rw [hstatus] at hs
      cases hs
    · intro hs
      rw [hstatus] at hs
      cases hs

theorem LegStep.status_cases (h : LegStep pair s t e i record) :
    s.status pair i = none ∧ t.status pair i = some .prepared ∨
      s.status pair i = some .prepared ∧ t.status pair i = some .armed ∨
      s.status pair i = some .armed ∧ t.status pair i = some .claimed ∨
      s.status pair i = some .claimed ∧ t.status pair i = some .claimed ∨
      s.status pair i = some .prepared ∧ t.status pair i = some .refunded := by
  have hadvance := h.advance
  simp only [status, h.after]
  cases hold : s.leg pair i with
  | none =>
    rw [hold] at hadvance
    cases hadvance
    simp
  | some =>
    rw [hold] at hadvance
    cases hadvance with
    | arm _ hs | claim _ hs | observe _ hs | refund _ hs => simp [hs]

theorem LegStep.status_other (h : LegStep pair s t e i record) :
    t.status pair i.other = s.status pair i.other := by
  simp [status, h.frame]

def Safe (pair : Pair) (s : PairState) : Prop :=
  ∀ i, s.status pair i = some .claimed → s.Locked pair i.other

theorem Safe.atomic (h : s.Safe pair) : s.Atomic pair := by
  intro i hclaimed hrefunded
  have hlocked := h i hclaimed
  simp [Locked, hrefunded] at hlocked

theorem safe_apply (hs : s.Safe pair) (hguard : s.ClaimGuarded pair e)
    (h : s.apply c pair e = .ok t) : t.Safe pair := by
  cases apply_cases h with
  | inl hsame =>
    intro i hclaimed
    simpa [Locked, status, hsame.1] using hs i (by simpa [status, hsame.1] using hclaimed)
  | inr hstep =>
    obtain ⟨i, record, hstep⟩ := hstep
    have hcases := hstep.status_cases
    intro j hclaimed
    cases Side.eq_or_other i j with
    | inl hj =>
      subst hj
      -- the leg that moved: the guard speaks when it is claimed just now
      have hlocked : s.Locked pair j.other := by
        by_cases hold : s.status pair j = some .armed
        · have hrecord : record.status = .claimed := by
            simpa [status, hstep.after] using hclaimed
          obtain ⟨w, rfl⟩ := hstep.claimed hrecord hold
          exact hguard
        · apply hs j
          simp [hclaimed, hold] at hcases
          exact hcases
      simpa [Locked, hstep.status_other] using hlocked
    | inr hj =>
      subst hj
      -- the other leg moved: armed or claimed, it can only be claimed now
      rw [hstep.status_other] at hclaimed
      have hlocked := hs i.other hclaimed
      rw [Side.other_other] at hlocked ⊢
      cases hlocked with
      | inl harmed => simp [harmed] at hcases; exact .inr hcases
      | inr hclaimed' => simp [hclaimed'] at hcases; exact .inr hcases

theorem safe_run {es : List PairEvent} (hs : s.Safe pair)
    (h : EachStep (apply c pair) (IfAccepted (apply c pair) (ClaimGuarded pair)) s es) :
    (s.run c pair es).Safe pair :=
  h.invariant_accepted (fun _ _ _ hi hguard hstep => safe_apply hi hguard hstep) hs

/-- An armed or claimed leg was armed on a receipt of its pair's book, so the
paired leg was prepared there. -/
structure Backed (pair : Pair) (s : PairState) : Prop where
  terms : ∀ i record, s.leg pair i = some record → record.prepare = pair.terms i ∧
    record.prepare.localDomain ≠ record.prepare.remoteDomain
  signed : ∀ body ∈ s.signed, ∃ i, (s.leg pair i).isSome ∧
    body.sourceDomain = (pair.terms i).localDomain
  paired : ∀ i, s.Locked pair i → (s.leg pair i.other).isSome

theorem backed_initial (pair : Pair) : initial.Backed pair where
  terms i record h := by cases h
  signed body h := by cases h
  paired i h := by simp [Locked, status, leg, initial, CrossDomainBook.empty] at h

theorem LegStep.isSome {i j : Side} (h : LegStep pair s t e i record)
    (hj : (s.leg pair j).isSome) : (t.leg pair j).isSome := by
  cases Side.eq_or_other i j with
  | inl hi => simp [hi, h.after]
  | inr hi => rw [hi] at hj ⊢; rwa [h.frame]

theorem LegStep.terms (h : LegStep pair s t e i record)
    (hb : s.Backed pair) : record.prepare = pair.terms i ∧
      record.prepare.localDomain ≠ record.prepare.remoteDomain := by
  cases hold : s.leg pair i with
  | none => exact h.fresh hold
  | some old =>
    rw [h.kept old hold]
    exact hb.terms i old hold

/-- The receipt that arms a leg can only have come from the other book. -/
theorem LegStep.paired (h : LegStep pair s t e i record)
    (hb : s.Backed pair) (hlocked : t.Locked pair i) : (s.leg pair i.other).isSome := by
  by_cases hold : s.Locked pair i
  · exact hb.paired i hold
  have hcases := h.status_cases
  simp only [Locked, not_or] at hold
  have harmed : t.status pair i = some .armed := by
    grind [Locked]
  have hrecord : record.status = .armed := by simpa [status, h.after] using harmed
  obtain ⟨body, hbody, hremote⟩ := h.armed hrecord
  obtain ⟨k, hk, hlocal⟩ := hb.signed body hbody
  obtain ⟨hterms, hdomains⟩ := h.terms hb
  cases Side.eq_or_other i k with
  | inl hki =>
    subst hki
    rw [hterms] at hremote hdomains
    exact absurd (hlocal.symm.trans hremote) hdomains
  | inr hki => exact hki ▸ hk

theorem backed_apply (hb : s.Backed pair) (h : s.apply c pair e = .ok t) : t.Backed pair := by
  cases apply_cases h with
  | inl hsame =>
    obtain ⟨hlegs, hsigned⟩ := hsame
    refine ⟨?_, ?_, ?_⟩
    · intro i record hrecord
      exact hb.terms i record (hlegs i ▸ hrecord)
    · grind [Backed, Locked]
    · intro i hlocked
      rw [hlegs]
      exact hb.paired i (by simpa [Locked, status, hlegs] using hlocked)
  | inr hstep =>
    obtain ⟨i, record, hstep⟩ := hstep
    refine ⟨?_, ?_, ?_⟩
    · intro j record' hrecord
      cases Side.eq_or_other i j with
      | inl hj =>
        subst hj
        rw [hstep.after] at hrecord
        cases hrecord
        exact hstep.terms hb
      | inr hj =>
        subst hj
        rw [hstep.frame] at hrecord
        exact hb.terms _ record' hrecord
    · intro body hbody
      rw [hstep.signed] at hbody
      obtain ⟨k, hk, hdomain⟩ := hb.signed body hbody
      exact ⟨k, hstep.isSome hk, hdomain⟩
    · intro j hlocked
      cases Side.eq_or_other i j with
      | inl hj =>
        subst hj
        exact hstep.isSome (hstep.paired hb hlocked)
      | inr hj =>
        subst hj
        simp [hstep.after]

attribute [local simp] status

theorem backed_run (es : List PairEvent) : (initial.run c pair es).Backed pair :=
  runEvents_invariant (fun _ _ _ hb h => backed_apply hb h) es (backed_initial pair)

/-- Once a leg is claimed over a leg that can still be refunded, waiting out the
refund deadline is enough to break the pair. -/
theorem unguarded_claim_breaks (c : CrossCrypto) (hb : s.Backed pair)
    (hclaimed : s.status pair i = some .claimed) (hfree : ¬ s.Locked pair i.other) :
    ∃ more, ¬ (s.run c pair more).Atomic pair := by
  obtain ⟨old, hold⟩ := Option.isSome_iff_exists.mp (hb.paired i (.inr hclaimed))
  cases hs : old.status with
  | armed => exact absurd (Or.inl (by simp [hold, hs])) hfree
  | claimed => exact absurd (Or.inr (by simp [hold, hs])) hfree
  | refunded =>
    have hrefunded : s.status pair i.other = some .refunded := by simp [hold, hs]
    exact ⟨[], fun hatomic => hatomic i hclaimed hrefunded⟩
  | prepared =>
    let late : PairState := { s with clock := s.clock + old.prepare.refundAfter }
    obtain ⟨book, digest, hrefund⟩ :=
      refund_of_prepared c hold hs (Nat.le_add_left old.prepare.refundAfter s.clock)
    obtain ⟨_, record, _, _, _, hrecord, hlegs⟩ := refund_ok hrefund
    obtain ⟨hafter, hframe⟩ := setBook_leg (s := late) (book, digest) hlegs
    rw [Side.other_other] at hframe
    have hrun : s.run c pair [.wait old.prepare.refundAfter, .refund i.other] =
        late.setBook i.other (book, digest) := by
      simp [run, runEvents, apply, hrefund, late]
    have hkept : (late.setBook i.other (book, digest)).status pair i = some .claimed := by
      rw [status, hframe]
      exact hclaimed
    have hrefunded : (late.setBook i.other (book, digest)).status pair i.other =
        some .refunded := by
      simp [hafter, hrecord]
    refine ⟨[.wait old.prepare.refundAfter, .refund i.other], fun hatomic => ?_⟩
    rw [hrun] at hatomic
    exact hatomic i hkept hrefunded

/-- A run whose claims are accepted only against a locked pair stays atomic,
and every other claim can be continued into a broken pair. -/
theorem pair_atomic_iff_guarded (c : CrossCrypto) (pair : Pair) :
    (∀ es, EachStep (apply c pair) (IfAccepted (apply c pair) (ClaimGuarded pair)) initial es →
        (initial.run c pair es).Atomic pair) ∧
      ∀ es i, (initial.run c pair es).status pair i = some .claimed →
        ¬ (initial.run c pair es).Locked pair i.other →
        ∃ more, ¬ (initial.run c pair (es ++ more)).Atomic pair := by
  constructor
  · intro es h
    have hsafe : initial.Safe pair := by
      intro i hclaimed
      simp [leg, initial, CrossDomainBook.empty] at hclaimed
    exact (safe_run hsafe h).atomic
  · intro es i hclaimed hfree
    obtain ⟨more, hbroken⟩ := unguarded_claim_breaks c (backed_run es) hclaimed hfree
    refine ⟨more, ?_⟩
    rw [run, runEvents_append]
    exact hbroken

end PairState

section Sample

def sampleCrypto : CrossCrypto where
  keyValid _ := true
  keyValidAt _ _ := true
  pointDecodes _ := true
  verify _ _ signature := signature = [1]
  committeeDigest committee := committee.domain.chainId
  receiptDigest receipt := receipt.destinationLegId ++ receipt.eventBinding
  recordDigest _ := []
  hashReleaseWitness := id

def sampleDomain : Side → Domain
  | .first => ⟨1, [1], [1]⟩
  | .second => ⟨2, [2], [2]⟩

def sampleLegId : Side → Bytes
  | .first => [11]
  | .second => [12]

def sampleTerms (i : Side) : PrepareLeg :=
  ⟨sampleDomain i, sampleDomain i.other, sampleLegId i, [20], [21], [22], [23], [24], [25], [26],
    [27], [28], [29], [30], [31], 10, 20, 30, [32]⟩

def samplePair : Pair := ⟨sampleTerms, fun _ => rfl⟩

def sampleCommittee (i : Side) : Committee :=
  ⟨sampleDomain i, 1, 1, [⟨[1], ⟨[1], [1], .ed25519MlDsa65, .attestation,
    List.replicate 32 1 ++ [1], []⟩, 1⟩]⟩

def sampleContext (i : Side) : FinalityContext :=
  ⟨(sampleDomain i.other).chainId, sampleDomain i, sampleLegId i, [20], [40], [41], 1, 1, 1⟩

def sampleReceipt (i : Side) : FinalityReceipt :=
  ⟨⟨.ed25519MlDsa65, (sampleDomain i.other).chainId, sampleDomain i.other, sampleDomain i,
    sampleLegId i, [20], .prepared, [40], [41], 1, 1, 1⟩, [⟨[1], [1]⟩]⟩

def armEvents (i : Side) : List PairEvent :=
  [.sign i.other .prepared (sampleContext i), .arm i (sampleReceipt i) (sampleCommittee i.other)]

def guardedEvents : List PairEvent :=
  [.wait 1, .prepare .first, .prepare .second] ++ armEvents .first ++ armEvents .second ++
    [.claim .first [32], .claim .second [32]]

def brokenEvents : List PairEvent :=
  [.wait 1, .prepare .first, .prepare .second] ++ armEvents .first ++
    [.claim .first [32], .wait 40, .refund .second]

theorem pair_atomic_guarded_sample :
    (PairState.initial.run sampleCrypto samplePair guardedEvents).Atomic samplePair ∧
      ∀ i, (PairState.initial.run sampleCrypto samplePair guardedEvents).status samplePair i =
        some .claimed := by
  have hguarded := (PairState.pair_atomic_iff_guarded sampleCrypto samplePair).1 guardedEvents
    (by decide +kernel)
  refine ⟨hguarded, fun i => ?_⟩
  cases i with
  | first => decide +kernel
  | second => decide +kernel

/-- A leg armed and claimed alone ends claimed with its pair refunded. -/
theorem pair_broken_by_lone_claim :
    ¬ (PairState.initial.run sampleCrypto samplePair brokenEvents).Atomic samplePair := by
  intro hatomic
  exact hatomic .first (by decide +kernel) (by decide +kernel)

end Sample
end DeFMI
