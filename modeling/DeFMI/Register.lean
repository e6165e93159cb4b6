import DeFMI.Reconcile
set_option autoImplicit false

/-!
Reconciliation with what a register sends: a statement of its positions, whose sum is
attested, and perhaps a figure for each position besides.
-/

namespace DeFMI
open Lib List

namespace Reconcile

structure Position where
  handle : String
  quantity : ℕ
  u64 : quantity ≤ u64Max

structure Statement where
  register : String
  account : String
  asset : String
  asOf : String
  positions : List Position

namespace Statement

def checkedTotal (s : Statement) : Option ℕ :=
  s.positions.foldlM (fun total p => checkedAdd total p.quantity) 0

/-- The sum, saturating. -/
def total (s : Statement) : ℕ := s.checkedTotal.getD u64Max

def attestation (s : Statement) (signature : Option Bytes) : Attestation :=
  ⟨s.register, s.account, s.asset, s.total, s.asOf, signature⟩

def quantities (s : Statement) : List ℕ := s.positions.map Position.quantity

end Statement

structure Register where
  statement : Statement
  positions : Option (List Position)
  signature : Option Bytes

def fileRegister (statement : Statement) (signature : Option Bytes) : Register :=
  ⟨statement, some statement.positions, signature⟩

def totalOnly (statement : Statement) : Register := ⟨statement, none, none⟩

structure Report where
  register : String
  account : String
  asset : String
  asOf : String
  positions : ℕ
  registerTotal : ℕ
  agrees : Bool
  reason : String
  broken : List (String × ℕ)
  search : Option BreakSearch
  reconciliation : Option Reconciliation

section Positions

variable {V : Type} [AddCommGroup V] [Module Scalar V] [DecidableEq V]

/-- One combination of all positions, with weights drawn for it. -/
def positionsAgree (key : Pedersen V) (commitments : List V) (blindings : List Scalar)
    (expected : List ℕ) (weights : List Scalar) : Bool :=
  if commitments.length ≠ blindings.length ∨ commitments.length ≠ expected.length then false
  else
    let valueSum := (List.zipWith (fun w v => w * ((v : ℕ) : Scalar)) weights expected).sum
    let blindingSum := (List.zipWith (· * ·) weights blindings).sum
    decide ((List.zipWith (· • ·) weights commitments).sum =
      valueSum • key.g + blindingSum • key.h)

def checkPositions (key : Pedersen V) (commitments : List V) (blindings : List Scalar)
    (expected : List ℕ) (weights : List Scalar) : List ℕ :=
  if positionsAgree key commitments blindings expected weights = true then []
  else
    (((commitments.zip blindings).zip expected).zipIdx.filter
      (fun e => key.commitU64 e.1.2 e.1.1.2 ≠ e.1.1.1)).map Prod.snd

def run (signed : AttestationVerifier) (key : Pedersen V) (register : Register)
    (commitments : List V) (blindings : List Scalar) (registrar : Option Bytes)
    (weights : List Scalar) : Report :=
  let statement := register.statement
  let attestation := statement.attestation register.signature
  let report : Report := ⟨statement.register, statement.account, statement.asset, statement.asOf,
    statement.positions.length, statement.total, false, "", [], none, none⟩
  if commitments.length ≠ statement.positions.length then
    { report with reason := "the register lists " ++ toString statement.positions.length ++
        " position(s) and the ledger offered " ++ toString commitments.length }
  else
    match prove commitments blindings attestation with
    | .error why => { report with reason := why }
    | .ok reconciliation =>
      let totalsAgree := check signed key commitments reconciliation registrar
      let broken := register.positions.map fun figures =>
        checkPositions key commitments blindings (figures.map Position.quantity) weights
      match totalsAgree, broken with
      | .ok (), none => { report with agrees := true, reconciliation := some reconciliation }
      | .ok (), some [] => { report with agrees := true, reconciliation := some reconciliation }
      | .ok (), some broken =>
        { report with
          reason := "the totals agree and the positions do not, which is a reordering or an " ++
            "offsetting pair --- a sum cannot see either"
          broken := broken.filterMap fun i =>
            ((register.positions.getD [])[i]?).map fun p => (p.handle, p.quantity) }
      | .error why, none => { report with reason := why }
      | .error why, some [] =>
        { report with reason := why ++ ", and yet every position holds what the register says " ++
            "--- so the disagreement is in the register's own total" }
      | .error why, some broken =>
        { report with
          reason := why
          broken := broken.filterMap fun i =>
            ((register.positions.getD [])[i]?).map fun p => (p.handle, p.quantity) }

def misses (key : Pedersen V) (commitments : List V) (blindings : List Scalar)
    (expected : List ℕ) : List V :=
  ((commitments.zip blindings).zip expected).map fun e => e.1.1 - key.commitU64 e.2 e.1.2

/-- Weights under which points that are not all zero do not add up to zero. A combination
drawn at random fails to be so with negligible probability. -/
def Generic (weights : List Scalar) (points : List V) : Prop :=
  (List.zipWith (· • ·) weights points).sum = 0 → ∀ p ∈ points, p = 0

end Positions

section Truth

variable {V : Type} [AddCommGroup V] [Module Scalar V] {key : Pedersen V} {commitments : List V}
  {blindings weights : List Scalar} {expected values : List ℕ}

theorem foldlM_checkedAdd {positions : List Position} {start t : ℕ} (hstart : start < 2 ^ 64) :
    positions.foldlM (fun total p => checkedAdd total p.quantity) start = some t ↔
      start + (positions.map Position.quantity).sum = t ∧ t < 2 ^ 64 := by
  induction positions generalizing start with
  | nil => grind
  | cons p positions ih =>
    simp only [foldlM_cons, map_cons, sum_cons]
    by_cases hfits : start + p.quantity < 2 ^ 64
    · have hadd : checkedAdd start p.quantity = some (start + p.quantity) :=
        checkedAdd_eq_some.mpr ⟨hfits, rfl⟩
      rw [hadd, Option.bind_eq_bind, Option.bind_some, ih hfits, Nat.add_assoc]
    · have hadd : checkedAdd start p.quantity = none := if_neg hfits
      rw [hadd]
      constructor
      · intro h
        cases h
      · rintro ⟨rfl, hlt⟩
        omega

namespace Statement

theorem checkedTotal_eq_some {s : Statement} {t : ℕ} :
    s.checkedTotal = some t ↔ s.quantities.sum = t ∧ t < 2 ^ 64 := by
  rw [checkedTotal, foldlM_checkedAdd (by decide), Nat.zero_add, quantities]

theorem total_le (s : Statement) : s.total ≤ u64Max := by
  unfold total
  cases h : s.checkedTotal with
  | none => rfl
  | some =>
    obtain ⟨_, hlt⟩ := checkedTotal_eq_some.mp h
    simp only [Option.getD_some, u64Max]
    omega

theorem total_eq_sum_iff (s : Statement) : s.total = s.quantities.sum ↔ s.quantities.sum ≤ u64Max := by
  constructor
  · intro h
    exact h ▸ s.total_le
  · intro hfits
    have hlt : s.quantities.sum < 2 ^ 64 := hfits.trans_lt (by decide)
    rw [total, checkedTotal_eq_some.mpr ⟨rfl, hlt⟩, Option.getD_some]

end Statement

theorem sum_weighted_misses (key : Pedersen V) (commitments : List V) (blindings : List Scalar)
    (expected : List ℕ) (weights : List Scalar) (hblindings : commitments.length = blindings.length)
    (hexpected : commitments.length = expected.length) :
    (zipWith (· • ·) weights (misses key commitments blindings expected)).sum =
      (zipWith (· • ·) weights commitments).sum -
        ((zipWith (fun w v => w * ((v : ℕ) : Scalar)) weights expected).sum • key.g +
          (zipWith (· * ·) weights blindings).sum • key.h) := by
  induction weights generalizing commitments blindings expected with
  | nil => simp
  | cons w weights ih =>
    match commitments, blindings, expected, hblindings, hexpected with
    | [], [], [], _, _ => simp [misses]
    | C :: commitments, r :: blindings, v :: expected, hblindings, hexpected =>
      have hrest := ih commitments blindings expected (by simpa using hblindings)
        (by simpa using hexpected)
      have hhead : misses key (C :: commitments) (r :: blindings) (v :: expected) =
          (C - key.commitU64 v r) :: misses key commitments blindings expected := rfl
      rw [hhead]
      simp only [zipWith_cons_cons, sum_cons]
      rw [hrest, Pedersen.commitU64]
      module

theorem commitU64_inj (hg : key.g ≠ 0) {v w : ℕ} (hv : v ≤ u64Max) (hw : w ≤ u64Max) {r : Scalar}
    (h : key.commitU64 v r = key.commitU64 w r) : v = w := by
  have hcast : ((v : ℕ) : Scalar) • key.g = ((w : ℕ) : Scalar) • key.g := add_right_cancel h
  rw [← sub_eq_zero, ← sub_smul, smul_eq_zero, or_iff_left hg, sub_eq_zero] at hcast
  exact natCast_scalar_inj (hv.trans_lt (by decide)) (hw.trans_lt (by decide)) hcast

theorem figures_eq_values (hg : key.g ≠ 0) (h : Openings key commitments blindings values)
    (hlength : expected.length = values.length) (hu64 : ∀ v ∈ expected, v ≤ u64Max)
    (hholds : ∀ e ∈ (commitments.zip blindings).zip expected, e.1.1 = key.commitU64 e.2 e.1.2) :
    expected = values := by
  refine ext_getElem hlength fun i hi hi' => ?_
  have hblinding : i < blindings.length := h.length ▸ hi'
  have hcommitment : i < commitments.length := by
    rw [h.commits, length_zipWith]
    omega
  have hcommits : commitments[i] = key.commitU64 values[i] blindings[i] := by
    simp [h.commits]
  have hposition : i < ((commitments.zip blindings).zip expected).length := by
    simp only [length_zip]
    omega
  have hfigure := hholds _ (getElem_mem hposition)
  simp only [getElem_zip] at hfigure
  exact (commitU64_inj hg (h.u64 _ (getElem_mem hi')) (hu64 _ (getElem_mem hi))
    (hcommits.symm.trans hfigure)).symm

variable [DecidableEq V]

theorem checkPositions_eq_nil (hgeneric : Generic weights (misses key commitments blindings expected))
    (h : checkPositions key commitments blindings expected weights = []) :
    ∀ e ∈ (commitments.zip blindings).zip expected, e.1.1 = key.commitU64 e.2 e.1.2 := by
  unfold checkPositions at h
  split at h
  · next hagree =>
    unfold positionsAgree at hagree
    split at hagree
    · simp at hagree
    · next hlengths =>
      simp only [not_or, not_not] at hlengths
      have hzero := sum_weighted_misses key commitments blindings expected weights hlengths.1
        hlengths.2
      rw [of_decide_eq_true hagree, sub_self] at hzero
      intro e he
      exact sub_eq_zero.mp (hgeneric hzero _ (mem_map_of_mem he))
  · intro e he
    obtain ⟨i, hi⟩ := mem_iff_getElem?.mp he
    rw [map_eq_nil_iff, filter_eq_nil_iff] at h
    have hholds := h (e, i) (mk_mem_zipIdx_iff_getElem?.mpr hi)
    simp only [ne_eq, decide_not, Bool.not_eq_true', decide_eq_false_iff_not, not_not] at hholds
    exact hholds.symm

theorem run_agrees {signed : AttestationVerifier} {register : Register}
    {registrar : Option Bytes}
    (h : (run signed key register commitments blindings registrar weights).agrees = true) :
    ∃ reconciliation,
      prove commitments blindings (register.statement.attestation register.signature) =
        .ok reconciliation ∧
      check signed key commitments reconciliation registrar = .ok () ∧
      ∀ figures ∈ register.positions, checkPositions key commitments blindings
        (figures.map Position.quantity) weights = [] := by
  unfold run at h
  simp only at h
  split at h
  · cases h
  · split at h
    · cases h
    · next reconciliation hprove =>
      split at h
      · next hcheck hbroken =>
        refine ⟨reconciliation, hprove, hcheck, fun figures hfigures => ?_⟩
        rw [Option.mem_def] at hfigures
        simp [hfigures] at hbroken
      · next hcheck hbroken =>
        refine ⟨reconciliation, hprove, hcheck, fun figures hfigures => ?_⟩
        rw [Option.mem_def] at hfigures
        simpa [hfigures] using hbroken
      · cases h
      · cases h
      · cases h
      · cases h

end Truth

section Agreement

variable {V : Type} [AddCommGroup V] [Module Scalar V] [DecidableEq V]

/-- Where a run reports agreement, the ledger holds what the register says exactly if the
positions of the statement have a 64-bit sum and the figures sent besides, if any, are as
many as the commitments. -/
theorem agreement_truthful_iff (signed : AttestationVerifier) (key : Pedersen V)
    (hg : key.g ≠ 0) (register : Register) (commitments : List V) (blindings : List Scalar)
    (values : List ℕ) (h : Openings key commitments blindings values) (registrar : Option Bytes)
    (weights : List Scalar)
    (hgeneric : ∀ figures ∈ register.positions,
      Generic weights (misses key commitments blindings (figures.map Position.quantity)))
    (hagrees : (run signed key register commitments blindings registrar weights).agrees = true) :
    (values.sum = register.statement.quantities.sum ∧
        ∀ figures ∈ register.positions, figures.map Position.quantity = values) ↔
      register.statement.quantities.sum ≤ u64Max ∧
        ∀ figures ∈ register.positions, figures.length = commitments.length := by
  obtain ⟨reconciliation, hprove, hcheck, hpositions⟩ := run_agrees hagrees
  have htotal : register.statement.total = values.sum :=
    ((check_prove_eq_ok hg h register.statement.total_le hprove).mp hcheck).2
  have hlength : commitments.length = values.length := by
    rw [h.commits, List.length_zipWith, h.length, min_self]
  constructor
  · rintro ⟨hsum, hfigures⟩
    refine ⟨(register.statement.total_eq_sum_iff).mp (htotal.trans hsum), fun figures hmem => ?_⟩
    rw [hlength, ← hfigures figures hmem, List.length_map]
  · rintro ⟨hfits, hcounts⟩
    refine ⟨?_, fun figures hmem => ?_⟩
    · rw [← htotal]
      exact (register.statement.total_eq_sum_iff).mpr hfits
    · refine figures_eq_values hg h ?_ ?_
        (checkPositions_eq_nil (hgeneric figures hmem) (hpositions figures hmem))
      · rw [List.length_map, hcounts figures hmem, hlength]
      · intro v hv
        obtain ⟨p, _, rfl⟩ := List.mem_map.mp hv
        exact p.u64

def position (handle : String) (quantity : ℕ) (u64 : quantity ≤ u64Max) : Position :=
  ⟨handle, quantity, u64⟩

theorem five_le : 5 ≤ u64Max := by decide

theorem seven_le : 7 ≤ u64Max := by decide

theorem one_le : 1 ≤ u64Max := by decide

def pairStatement : Statement :=
  ⟨"JASDEC", "customer-omnibus-001", "JP3633400001", "2026-08-22",
    [position "p0" 5 five_le, position "p1" 7 seven_le]⟩

theorem agreement_truthful_sample :
    [5, 7].sum = pairStatement.quantities.sum ∧
      ∀ figures ∈ (fileRegister pairStatement none).positions,
        figures.map Position.quantity = [5, 7] := by
  refine (agreement_truthful_iff (fun _ _ _ => true) planeKey (by decide)
    (fileRegister pairStatement none) pairCommitments pairBlindings [5, 7] pairOpenings none
    pairBlindings ?_ (by decide +kernel)).mpr ?_
  · intro figures hfigures _ p hp
    obtain rfl : pairStatement.positions = figures := Option.some.inj hfigures
    simp only [misses, pairCommitments, pairBlindings, pairStatement, position, List.zipWith_cons_cons,
      List.zipWith_nil_left, List.zip_cons_cons, List.map_cons, List.map_nil, List.zip_nil_left,
      sub_self, List.mem_cons, List.not_mem_nil, or_false, or_self] at hp
    exact hp
  · refine ⟨by decide +kernel, fun figures hfigures => ?_⟩
    obtain rfl : pairStatement.positions = figures := Option.some.inj hfigures
    rfl

def largeStatement : Statement :=
  { pairStatement with positions := [position "p0" u64Max le_rfl, position "p1" 1 one_le] }

def largeCommitments : List Plane := List.zipWith planeKey.commitU64 [u64Max, 0] pairBlindings

/-- The sum of a file that does not fit is attested as the largest number, with which a
ledger that holds one unit less agrees; and a ledger of two positions agrees with a
register that sends a figure for one of them. -/
theorem agreement_untruthful :
    Openings planeKey largeCommitments pairBlindings [u64Max, 0] ∧
      (run (fun _ _ _ => true) planeKey (totalOnly largeStatement) largeCommitments pairBlindings none
        pairBlindings).agrees = true ∧
      [u64Max, 0].sum ≠ largeStatement.quantities.sum ∧
      (run (fun _ _ _ => true) planeKey
        ⟨pairStatement, some [position "p0" 5 five_le], none⟩ pairCommitments pairBlindings none
        pairBlindings).agrees = true :=
  ⟨⟨rfl, rfl, by decide +kernel, by decide⟩, by decide +kernel, by decide +kernel, by decide +kernel⟩

end Agreement

end Reconcile
end DeFMI
