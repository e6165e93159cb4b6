import DeFMI.Credit
set_option autoImplicit false

/-!
Reconciliation of committed balances with the figures of a register. The sum of the
commitments less the stated total has to be a commitment to zero, and where it is not,
a search over ranges asks the register for subtotals until single positions are left.
-/

namespace DeFMI
open Lib List

def Pedersen.commitU64 {V : Type} [AddCommGroup V] [Module Scalar V] (key : Pedersen V) (value : ℕ)
    (blinding : Scalar) : V :=
  (value : Scalar) • key.g + blinding • key.h

namespace Reconcile

structure AttestationBody where
  register : String
  account : String
  asset : String
  asOf : String
  total : ℕ
  deriving DecidableEq

abbrev AttestationVerifier := Bytes → AttestationBody → Bytes → Bool

structure Attestation where
  register : String
  account : String
  asset : String
  total : ℕ
  asOf : String
  signature : Option Bytes

def Attestation.body (a : Attestation) : AttestationBody :=
  ⟨a.register, a.account, a.asset, a.asOf, a.total⟩

structure Reconciliation where
  attestation : Attestation
  positions : ℕ
  proof : ZeroProof AttestationBody

section Totals

variable {V : Type} [AddCommGroup V] [Module Scalar V]

def aggregate (commitments : List V) : V := commitments.foldl (· + ·) 0

def residual (key : Pedersen V) (commitments : List V) (total : ℕ) : V :=
  aggregate commitments - (total : Scalar) • key.g

/-- The proof is made from the blindings, whether the total is right or not. -/
def prove (commitments : List V) (blindings : List Scalar) (attestation : Attestation) :
    Result Reconciliation := do
  require (commitments.length = blindings.length)
    "a blinding per commitment, or the sum is not the sum"
  pure ⟨attestation, commitments.length, ⟨attestation.body, blindings.sum⟩⟩

def checkSignature (signed : AttestationVerifier) (attestation : Attestation) :
    Option Bytes → Check
  | some registrar =>
    match attestation.signature with
    | some signature => require (signed registrar attestation.body signature = true)
        "the attestation is not signed by that registrar"
    | none => .error "that registrar signed nothing here"
  | none => require (attestation.signature = none)
      "an attestation carries a signature and no registrar key was given to check it"

variable [DecidableEq V]

def check (signed : AttestationVerifier) (key : Pedersen V)
    (commitments : List V) (reconciliation : Reconciliation) (registrar : Option Bytes) :
    Check := do
  require (commitments.length = reconciliation.positions)
    ("reconciliation covers " ++ toString reconciliation.positions ++ " positions and " ++
      toString commitments.length ++ " were offered")
  let attestation := reconciliation.attestation
  checkSignature signed attestation registrar
  require (reconciliation.proof.verify key.h attestation.body
      (residual key commitments attestation.total) = true)
    ("the committed balances do not sum to " ++ toString attestation.total ++
      ": a break, and this says nothing about where")

end Totals

section Search

variable {V : Type} [AddCommGroup V] [Module Scalar V] [DecidableEq V]

structure BreakSearch where
  found : List ℕ
  proofs : ℕ
  rangesMadePublic : List (ℕ × ℕ × ℕ)
  deriving DecidableEq

def BreakSearch.empty : BreakSearch := ⟨[], 0, []⟩

structure Range where
  low : ℕ
  high : ℕ
  total : ℕ

def Range.text (r : Range) : String := "[" ++ toString r.low ++ "," ++ toString r.high ++ ")"

def Range.slice {α : Type} (r : Range) (xs : List α) : List α := (xs.drop r.low).take (r.high - r.low)

def Range.attestation (r : Range) : Attestation := ⟨"sub-range", r.text, "", r.total, "", none⟩

def claimRange (claimed : ℕ → ℕ → Option ℕ) (low high : ℕ) : Result Range := do
  let sub ← okOr (claimed low high)
    ("this register cannot say what [" ++ toString low ++ "," ++ toString high ++
      ") should total, so the break stays pass-or-fail")
  pure ⟨low, high, sub⟩

def searchRange (signed : AttestationVerifier) (key : Pedersen V)
    (commitments : List V) (blindings : List Scalar) (claimed : ℕ → ℕ → Option ℕ)
    (search : BreakSearch) (r : Range) : Result (BreakSearch × List Range) := do
  let search := { search with
    rangesMadePublic := search.rangesMadePublic ++ [(r.low, r.high, r.total)] }
  let reconciliation ← prove (r.slice commitments) (r.slice blindings) r.attestation
  let search := { search with proofs := search.proofs + 1 }
  if (check signed key (r.slice commitments) reconciliation none).isOk then
    pure (search, [])
  else if r.high - r.low = 1 then
    pure ({ search with found := search.found ++ [r.low] }, [])
  else do
    let middle := (r.low + r.high) / 2
    let first ← claimRange claimed r.low middle
    let second ← claimRange claimed middle r.high
    require (checkedAdd first.total second.total = some r.total)
      ("this register says " ++ first.text ++ " is " ++ toString first.total ++ " and " ++
        second.text ++ " is " ++ toString second.total ++ ", which do not add up to the " ++
        toString r.total ++ " it says " ++ r.text ++ " is; the break is in its own figures")
    pure (search, [first, second])

def searchLoop (signed : AttestationVerifier) (key : Pedersen V)
    (commitments : List V) (blindings : List Scalar) (claimed : ℕ → ℕ → Option ℕ) :
    ℕ → BreakSearch → List Range → Option (Result BreakSearch)
  | _, search, [] => some (.ok { search with found := search.found.insertionSort (· ≤ ·) })
  | 0, _, _ :: _ => none
  | rounds + 1, search, r :: stack =>
    match searchRange signed key commitments blindings claimed search r with
    | .error e => some (.error e)
    | .ok (search, halves) =>
      searchLoop signed key commitments blindings claimed rounds search (halves ++ stack)

/-- Each round takes a range off; `n` positions have at most `2 n - 1` ranges. -/
def locateBreak (signed : AttestationVerifier) (key : Pedersen V)
    (commitments : List V) (blindings : List Scalar) (claimed : ℕ → ℕ → Option ℕ) (expected : ℕ) :
    Option (Result BreakSearch) :=
  if commitments = [] then some (.ok .empty)
  else searchLoop signed key commitments blindings claimed (2 * commitments.length - 1) .empty
    [⟨0, commitments.length, expected⟩]

end Search

section Exact

variable {V : Type} [AddCommGroup V] [Module Scalar V] {key : Pedersen V} {commitments : List V}
  {blindings : List Scalar} {values : List ℕ}

structure Openings (key : Pedersen V) (commitments : List V) (blindings : List Scalar)
    (values : List ℕ) : Prop where
  length : blindings.length = values.length
  commits : commitments = List.zipWith key.commitU64 values blindings
  u64 : ∀ v ∈ values, v ≤ u64Max
  usize : values.length < 2 ^ 64

omit [Module Scalar V] in
theorem aggregate_eq_sum (commitments : List V) : aggregate commitments = commitments.sum := by
  rw [aggregate, sum_eq_foldl]

theorem sum_commitU64 (key : Pedersen V) {values : List ℕ} {blindings : List Scalar}
    (h : blindings.length = values.length) :
    (zipWith key.commitU64 values blindings).sum =
      ((values.sum : ℕ) : Scalar) • key.g + blindings.sum • key.h := by
  induction values generalizing blindings with
  | nil =>
    obtain rfl : blindings = [] := length_eq_zero_iff.mp h
    simp
  | cons v values ih =>
    match blindings, h with
    | r :: blindings, h =>
      have hrest : blindings.length = values.length := by simpa using h
      simp only [zipWith_cons_cons, sum_cons, ih hrest, Pedersen.commitU64, Nat.cast_add,
        add_smul]
      abel

theorem sum_le_of_u64 {values : List ℕ} (h : ∀ v ∈ values, v ≤ u64Max) :
    values.sum ≤ values.length * u64Max := by
  induction values with
  | nil => simp
  | cons v values ih =>
    have hv := h v mem_cons_self
    have hrest := ih fun w hw => h w (mem_cons_of_mem _ hw)
    rw [sum_cons, length_cons, Nat.add_mul]
    omega

section
variable (h : Openings key commitments blindings values)
include h

theorem Openings.sum_lt : values.sum < 2 ^ 252 := by
  have hsum := sum_le_of_u64 h.u64
  have hmul : values.length * u64Max ≤ 2 ^ 64 * u64Max := Nat.mul_le_mul_right _ h.usize.le
  have hbound : 2 ^ 64 * u64Max < 2 ^ 252 := by decide
  omega

theorem Openings.slice (r : Range) :
    Openings key (r.slice commitments) (r.slice blindings) (r.slice values) where
  length := by simp [Range.slice, h.length]
  commits := by simp [Range.slice, h.commits, drop_zipWith, take_zipWith]
  u64 v hv := h.u64 v (mem_of_mem_drop (mem_of_mem_take hv))
  usize := by
    have hlength := h.usize
    simp only [Range.slice, length_take, length_drop]
    omega

theorem Openings.residual_eq (total : ℕ) : residual key commitments total =
      (((values.sum : ℕ) : Scalar) - (total : Scalar)) • key.g + blindings.sum • key.h := by
  rw [residual, aggregate_eq_sum, h.commits, sum_commitU64 key h.length, sub_smul]
  abel

end

theorem Openings.residual_zero_iff (hg : key.g ≠ 0) (h : Openings key commitments blindings values)
    {total : ℕ} (htotal : total ≤ u64Max) :
    residual key commitments total = blindings.sum • key.h ↔ total = values.sum := by
  have hsmall : total < 2 ^ 252 := htotal.trans_lt (by decide)
  rw [h.residual_eq, add_eq_right, smul_eq_zero, or_iff_left hg, sub_eq_zero]
  constructor
  · intro hcast
    exact (natCast_scalar_inj h.sum_lt hsmall hcast).symm
  · rintro rfl
    rfl

variable [DecidableEq V] {signed : AttestationVerifier}

/-- With the true blindings the proof is accepted exactly for the true total. -/
theorem check_prove_eq_ok (hg : key.g ≠ 0) (h : Openings key commitments blindings values)
    {attestation : Attestation} (htotal : attestation.total ≤ u64Max) {registrar : Option Bytes}
    {reconciliation : Reconciliation}
    (hprove : prove commitments blindings attestation = .ok reconciliation) :
    check signed key commitments reconciliation registrar = .ok () ↔
      checkSignature signed attestation registrar = .ok () ∧ attestation.total = values.sum := by
  simp only [prove, ok_iff] at hprove
  obtain ⟨_, rfl⟩ := hprove
  rw [← h.residual_zero_iff hg htotal]
  simp only [check, bind_eq_ok, require_eq_ok, ZeroProof.verify, decide_true, Bool.true_and,
    decide_eq_true_eq]
  constructor
  · rintro ⟨_, _, _, hsigned, hzero⟩
    exact ⟨hsigned, hzero⟩
  · rintro ⟨hsigned, hzero⟩
    exact ⟨(), trivial, (), hsigned, hzero⟩

theorem check_prove_isOk (hg : key.g ≠ 0) (h : Openings key commitments blindings values)
    {attestation : Attestation} (hsignature : attestation.signature = none)
    (htotal : attestation.total ≤ u64Max) {reconciliation : Reconciliation}
    (hprove : prove commitments blindings attestation = .ok reconciliation) :
    (check signed key commitments reconciliation none).isOk = true ↔
      attestation.total = values.sum := by
  have hsigned : checkSignature signed attestation none = .ok () := by
    simp [checkSignature, hsignature]
  have hiff : check signed key commitments reconciliation none = .ok () ↔
      attestation.total = values.sum := by
    rw [check_prove_eq_ok hg h htotal hprove, and_iff_right hsigned]
  rw [isOk_eq_true, ← hiff]
  constructor
  · rintro ⟨_, hok⟩
    exact hok
  · exact fun hok => ⟨(), hok⟩

variable {claimed : ℕ → ℕ → Option ℕ} {expected : ℕ} {r : Range} {search search' : BreakSearch}
  {halves : List Range}

/-- What the register claims for one position. Where there is only one, that is the total
it is asked about. -/
def claimedAt (claimed : ℕ → ℕ → Option ℕ) (expected count i : ℕ) : Option ℕ :=
  if count = 1 then some expected else claimed i (i + 1)

structure Range.Fits (values : List ℕ) (claimed : ℕ → ℕ → Option ℕ) (expected : ℕ) (r : Range) :
    Prop where
  nonempty : r.low < r.high
  within : r.high ≤ values.length
  u64 : r.total ≤ u64Max
  single : r.high = r.low + 1 → claimedAt claimed expected values.length r.low = some r.total

inductive Visited (values : List ℕ) (claimed : ℕ → ℕ → Option ℕ) (r : Range) :
    List ℕ → List Range → Prop where
  | agrees (h : r.total = (r.slice values).sum) : Visited values claimed r [] []
  | broken (h : r.total ≠ (r.slice values).sum) (hsingle : r.high = r.low + 1) :
      Visited values claimed r [r.low] []
  | split (middle first second : ℕ) (h : r.total ≠ (r.slice values).sum) (hlow : r.low < middle)
      (hhigh : middle < r.high) (hfirst : claimed r.low middle = some first)
      (hsecond : claimed middle r.high = some second) (htotal : first + second = r.total) :
      Visited values claimed r [] [⟨r.low, middle, first⟩, ⟨middle, r.high, second⟩]

theorem searchRange_visited (hg : key.g ≠ 0) (h : Openings key commitments blindings values)
    (hr : r.Fits values claimed expected)
    (hok : searchRange signed key commitments blindings claimed search r = .ok (search', halves)) :
    search'.proofs = search.proofs + 1 ∧
      ∃ found, search'.found = search.found ++ found ∧ Visited values claimed r found halves := by
  simp only [searchRange, ok_iff] at hok
  obtain ⟨reconciliation, hprove, hok⟩ := hok
  have hcheck : (check signed key (r.slice commitments) reconciliation none).isOk = true ↔
      r.total = (r.slice values).sum := check_prove_isOk hg (h.slice r) rfl hr.u64 hprove
  have hlow := hr.nonempty
  split at hok
  · next hagrees =>
    cases hok
    exact ⟨rfl, [], by simp, .agrees (hcheck.mp hagrees)⟩
  · next hdiffers =>
    have hne : r.total ≠ (r.slice values).sum := fun heq => hdiffers (hcheck.mpr heq)
    split at hok
    · next hsingle =>
      cases hok
      exact ⟨rfl, [r.low], rfl, .broken hne (by omega)⟩
    · next hmany =>
      simp only [claimRange, ok_iff, checkedAdd_eq_some] at hok
      obtain ⟨_, ⟨first, hfirst, rfl⟩, _, ⟨second, hsecond, rfl⟩, ⟨_, htotal⟩, heq⟩ := hok
      cases heq
      exact ⟨rfl, [], by simp, .split _ first second hne (by omega) (by omega) hfirst hsecond htotal⟩

def Range.gap (values : List ℕ) (r : Range) : ℤ := (r.total : ℤ) - ((r.slice values).sum : ℤ)

def gapAt (values : List ℕ) (claimed : ℕ → ℕ → Option ℕ) (expected i : ℕ) : ℤ :=
  ((claimedAt claimed expected values.length i).getD 0 : ℤ) - (values.getD i 0 : ℤ)

def Range.weight (r : Range) : ℕ := 2 * (r.high - r.low) - 1

theorem sum_slice_split (values : List ℕ) {low middle high : ℕ} (hlow : low ≤ middle)
    (hhigh : middle ≤ high) (t t₁ t₂ : ℕ) :
    ((Range.mk low high t).slice values).sum =
      ((Range.mk low middle t₁).slice values).sum + ((Range.mk middle high t₂).slice values).sum := by
  simp only [Range.slice]
  have hsize : high - low = (middle - low) + (high - middle) := by omega
  have hdrop : low + (middle - low) = middle := by omega
  rw [hsize, take_add, sum_append, drop_drop, hdrop]

theorem slice_single (values : List ℕ) (hlow : r.low < values.length) (h : r.high = r.low + 1) :
    (r.slice values).sum = values.getD r.low 0 := by
  have hsize : r.high - r.low = 1 := by omega
  rw [Range.slice, hsize, drop_eq_getElem_cons hlow, take_succ_cons, take_zero,
    sum_singleton]
  simp [hlow]

/-- A range hands its gap on, to what it finds and to its halves, and loses weight. -/
theorem Visited.accounts {found : List ℕ} (hr : r.Fits values claimed expected)
    (h : Visited values claimed r found halves) :
    (∀ half ∈ halves, half.Fits values claimed expected) ∧
      (found.map (gapAt values claimed expected)).sum + (halves.map (Range.gap values)).sum =
        r.gap values ∧
      (∀ i ∈ found, i < values.length ∧
        ∃ figure, claimedAt claimed expected values.length i = some figure ∧
          figure ≠ values.getD i 0) ∧
      (halves.map Range.weight).sum + 1 ≤ r.weight := by
  have hnonempty := hr.nonempty
  have hwithin := hr.within
  have hu64 := hr.u64
  cases h with
  | agrees h =>
    refine ⟨by simp, ?_, by simp, ?_⟩
    · simp [Range.gap, h]
    · simp [Range.weight]; omega
  | broken h hsingle =>
    have hfigure := hr.single hsingle
    have hvalue := slice_single values (by omega) hsingle
    refine ⟨by simp, ?_, ?_, ?_⟩
    · simp [Range.gap, gapAt, hfigure, hvalue]
    · grind
    · simp [Range.weight]; omega
  | split middle first second h hlow hhigh hfirst hsecond htotal =>
    have hcount : values.length ≠ 1 := by omega
    have hsum := sum_slice_split values hlow.le hhigh.le r.total first second
    refine ⟨?_, ?_, by simp, ?_⟩
    · intro half hhalf
      simp only [mem_cons, not_mem_nil, or_false] at hhalf
      obtain rfl | rfl := hhalf
      · refine ⟨hlow, by simp; omega, by simp; omega, fun hone => ?_⟩
        simp only at hone
        subst hone
        simp [claimedAt, hcount, hfirst]
      · refine ⟨hhigh, hwithin, by simp; omega, fun hone => ?_⟩
        simp only at hone
        simp [claimedAt, hcount, ← hone, hsecond]
    · simp only [map_nil, sum_nil, map_cons, sum_cons, Range.gap, hsum]
      push_cast [← htotal]
      ring
    · simp [Range.weight]; omega

theorem Visited.quiet {found : List ℕ} (h : Visited values claimed r found halves)
    (hgap : r.gap values = 0) : found = [] ∧ halves = [] := by
  have htotal : r.total = (r.slice values).sum := by
    simp only [Range.gap] at hgap
    omega
  cases h with
  | agrees => exact ⟨rfl, rfl⟩
  | broken h => exact absurd htotal h
  | split middle first second h => exact absurd htotal h

structure Completes (values : List ℕ) (claimed : ℕ → ℕ → Option ℕ) (expected : ℕ)
    (search : BreakSearch) (stack : List Range) (search' : BreakSearch) (found : List ℕ) : Prop where
  sorted : search'.found = (search.found ++ found).insertionSort (· ≤ ·)
  quiet : (∀ r ∈ stack, r.gap values = 0) → found = []
  gap : (found.map (gapAt values claimed expected)).sum = (stack.map (Range.gap values)).sum
  wrong : ∀ i ∈ found, i < values.length ∧
    ∃ figure, claimedAt claimed expected values.length i = some figure ∧ figure ≠ values.getD i 0
  proofs : search'.proofs ≤ search.proofs + (stack.map Range.weight).sum

/-- Induction on the rounds. The weight of the stack bounds how many are needed, and its
gap is what is still to be found. -/
theorem searchLoop_completes (hg : key.g ≠ 0) (h : Openings key commitments blindings values)
    {rounds : ℕ} {stack : List Range} (hstack : ∀ r ∈ stack, r.Fits values claimed expected)
    (hrounds : (stack.map Range.weight).sum ≤ rounds) :
    ∃ result, searchLoop signed key commitments blindings claimed rounds search stack = some result ∧
      ∀ search', result = .ok search' →
        ∃ found, Completes values claimed expected search stack search' found := by
  induction rounds generalizing search stack with
  | zero =>
    cases stack with
    | nil =>
      refine ⟨_, rfl, fun search' hresult => ⟨[], ?_⟩⟩
      cases hresult
      exact ⟨by simp, fun _ => rfl, rfl, by simp, by simp⟩
    | cons r stack =>
      have hr := (hstack r mem_cons_self).nonempty
      simp only [map_cons, sum_cons, Range.weight] at hrounds
      omega
  | succ rounds ih =>
    cases stack with
    | nil =>
      refine ⟨_, rfl, fun search' hresult => ⟨[], ?_⟩⟩
      cases hresult
      exact ⟨by simp, fun _ => rfl, rfl, by simp, by simp⟩
    | cons r stack =>
      rw [searchLoop]
      cases hstep : searchRange signed key commitments blindings claimed search r with
      | error => exact ⟨_, rfl, fun search' hresult => by cases hresult⟩
      | ok next =>
        obtain ⟨search₁, halves⟩ := next
        have hr := hstack r mem_cons_self
        obtain ⟨hproofs, found₁, hfound₁, hvisited⟩ := searchRange_visited hg h hr hstep
        obtain ⟨hhalves, hgap, hwrong, hweight⟩ := hvisited.accounts hr
        have hnext : ∀ r ∈ halves ++ stack, r.Fits values claimed expected := by
          grind
        simp only [map_cons, sum_cons] at hrounds
        obtain ⟨result, hresult, hok⟩ := @ih search₁ _ hnext
          (by rw [map_append, sum_append]; omega)
        refine ⟨result, hresult, fun search' hsearch => ?_⟩
        obtain ⟨found₂, hrest⟩ := hok search' hsearch
        have hgap₂ := hrest.gap
        have hproofs₂ := hrest.proofs
        rw [map_append, sum_append] at hgap₂ hproofs₂
        refine ⟨found₁ ++ found₂, ?_, ?_, ?_, ?_, ?_⟩
        · rw [hrest.sorted, hfound₁, append_assoc]
        · intro hquiet
          obtain ⟨rfl, rfl⟩ := hvisited.quiet (hquiet r mem_cons_self)
          exact hrest.quiet fun q hq => hquiet q (mem_cons_of_mem _ hq)
        · grind
        · grind [Completes, Openings]
        · simp only [map_cons, sum_cons]
          omega

end Exact

section Break

variable {V : Type} [AddCommGroup V] [Module Scalar V] [DecidableEq V]

/-- The search ends, and where it gives a result, that is empty exactly if the expected
total is right; every position in it has a wrong figure, these figures are together as
wrong as the total, and at most `2 n - 1` totals were proved. -/
theorem locateBreak_exact (signed : AttestationVerifier) (key : Pedersen V)
    (hg : key.g ≠ 0) (commitments : List V) (blindings : List Scalar) (values : List ℕ)
    (h : Openings key commitments blindings values) (hne : commitments ≠ [])
    (claimed : ℕ → ℕ → Option ℕ) (expected : ℕ) (hexpected : expected ≤ u64Max) :
    ∃ result, locateBreak signed key commitments blindings claimed expected = some result ∧
      ∀ search, result = .ok search →
        (search.found ≠ [] ↔ expected ≠ values.sum) ∧
        (∀ i ∈ search.found, i < values.length ∧
          ∃ figure, claimedAt claimed expected values.length i = some figure ∧
            figure ≠ values.getD i 0) ∧
        (search.found.map (gapAt values claimed expected)).sum =
          (expected : ℤ) - (values.sum : ℤ) ∧
        search.proofs ≤ 2 * values.length - 1 := by
  have hlength : commitments.length = values.length := by
    rw [h.commits, List.length_zipWith, h.length, min_self]
  have hpos : 0 < commitments.length := List.length_pos_iff.mpr hne
  let whole : Range := ⟨0, commitments.length, expected⟩
  have hslice : whole.slice values = values := by
    simp [Range.slice, whole, hlength]
  have hwhole : whole.gap values = (expected : ℤ) - (values.sum : ℤ) := by
    rw [Range.gap, hslice]
  have hfits : ∀ r ∈ [whole], r.Fits values claimed expected := by
    intro r hr
    obtain rfl := List.mem_singleton.mp hr
    refine ⟨hpos, hlength.le, hexpected, fun hone => ?_⟩
    have hcount : values.length = 1 := by simpa [whole, hlength] using hone
    simp [claimedAt, hcount, whole]
  have hrounds : ([whole].map Range.weight).sum ≤ 2 * commitments.length - 1 := by
    simp [Range.weight, whole]
  rw [locateBreak, if_neg hne]
  obtain ⟨result, hresult, hok⟩ := searchLoop_completes hg h hfits hrounds
  refine ⟨result, hresult, fun search hsearch => ?_⟩
  obtain ⟨found, hdone⟩ := hok search hsearch
  have hperm : search.found.Perm found := by
    rw [hdone.sorted]
    exact List.perm_insertionSort _ _
  have hgap : (search.found.map (gapAt values claimed expected)).sum =
      (expected : ℤ) - (values.sum : ℤ) := by
    rw [(hperm.map _).sum_eq, hdone.gap, List.map_singleton, List.sum_singleton, hwhole]
  refine ⟨⟨fun hfound heq => ?_, fun hdiffers hfound => ?_⟩, ?_, hgap, ?_⟩
  · have hnil : found = [] := by
      refine hdone.quiet fun r hr => ?_
      obtain rfl := List.mem_singleton.mp hr
      rw [hwhole, heq, sub_self]
    rw [hnil] at hperm
    exact hfound hperm.eq_nil
  · rw [hfound] at hgap
    simp only [List.map_nil, List.sum_nil] at hgap
    omega
  · exact fun i hi => hdone.wrong i (hperm.mem_iff.mp hi)
  · have hproofs := hdone.proofs
    simp only [BreakSearch.empty] at hproofs
    omega

def pairBlindings : List Scalar := [((3 : ℕ) : Scalar), ((4 : ℕ) : Scalar)]

def pairCommitments : List Plane := List.zipWith planeKey.commitU64 [5, 7] pairBlindings

def pairAnswers (low high : ℕ) : Option ℕ :=
  if low = 0 ∧ high = 1 then some 5 else if low = 1 ∧ high = 2 then some 9 else none

theorem pairOpenings : Openings planeKey pairCommitments pairBlindings [5, 7] :=
  ⟨rfl, rfl, by decide, by decide⟩

theorem locateBreak_exact_sample :
    ∃ search, locateBreak (fun _ _ _ => true) planeKey pairCommitments pairBlindings pairAnswers 14 =
        some (.ok search) ∧ search.found = [1] ∧ search.proofs = 3 ∧
      (search.found.map (gapAt [5, 7] pairAnswers 14)).sum = (14 : ℤ) - 12 := by
  have hrun : locateBreak (fun _ _ _ => true) planeKey pairCommitments pairBlindings pairAnswers 14 =
      some (.ok ⟨[1], 3, [(0, 2, 14), (0, 1, 5), (1, 2, 9)]⟩) := by decide +kernel
  obtain ⟨result, hresult, hexact⟩ := locateBreak_exact (fun _ _ _ => true) planeKey (by decide)
    pairCommitments pairBlindings [5, 7] pairOpenings (by decide) pairAnswers 14 (by decide)
  obtain rfl := Option.some.inj (hresult.symm.trans hrun)
  exact ⟨_, hrun, rfl, rfl, (hexact _ rfl).2.2.1⟩

/-- One position, whose figure the register has right while its total is wrong: the
position is found, and the register is not asked about it. -/
theorem locateBreak_lone_position :
    locateBreak (fun _ _ _ => true) planeKey (pairCommitments.take 1) (pairBlindings.take 1)
        pairAnswers 7 = some (.ok ⟨[0], 1, [(0, 1, 7)]⟩) ∧
      Openings planeKey (pairCommitments.take 1) (pairBlindings.take 1) [5] ∧
      pairAnswers 0 1 = some 5 :=
  ⟨by decide +kernel, ⟨rfl, rfl, by decide, by decide⟩, rfl⟩

end Break

end Reconcile
end DeFMI
