import DeFMI.Lib.ScalarField
import Mathlib.Algebra.Module.Basic
import Mathlib.Algebra.BigOperators.Group.List.Basic
import Mathlib.Data.List.Forall2
import Mathlib.Algebra.Order.BigOperators.Group.List
import Mathlib.Tactic.Abel
import Mathlib.Tactic.Module
set_option autoImplicit false

/-!
Pedersen openings over an arbitrary group with scalars in a prime field.
A commitment is a point; what it holds is relative to a value generator `B`
and a blinding generator `h`.
-/

namespace DeFMI.Lib
open List

variable {V : Type} [AddCommGroup V] [Module Scalar V] {B T h C D : V} {x y : Scalar} {m n : ℕ}

/-- No relation between the value and the blinding generator. -/
def Independent (B h : V) : Prop := ∀ a b : Scalar, a • B + b • h = 0 → a = 0 ∧ b = 0

def Opens (B h C : V) (x : Scalar) : Prop := ∃ r : Scalar, C = x • B + r • h

def Holds (B h C : V) (n : ℕ) : Prop := Opens B h C (n : Scalar)

def Reblinds (B h T : V) : Prop := ∃ γ : Scalar, T = B + γ • h

def Scales (B h T : V) (c : Scalar) : Prop := ∃ γ : Scalar, T = c • B + γ • h

/-- The signed whole number that `C` commits to. -/
def Signed (B h C : V) (n : ℤ) : Prop :=
  Opens B h C (n : Scalar) ∧ -(groupOrder : ℤ) < n * 2 ∧ n * 2 ≤ groupOrder

/-- A value that is small modulo the group order is not negative, unless it is very negative. -/
theorem nonneg_of_cast_eq {x : ℤ} {n : ℕ} (hcast : (x : Scalar) = (n : Scalar)) (hn : n < 2 ^ 64)
    (hfloor : 2 ^ 64 - 2 ^ 252 < x) : 0 ≤ x := by
  by_contra hneg
  have hmod : (x : Scalar) = ((n : ℤ) : Scalar) := by rw [hcast, Int.cast_natCast]
  have hdvd : (groupOrder : ℤ) ∣ n - x :=
    Int.modEq_iff_dvd.mp ((ZMod.intCast_eq_intCast_iff x n groupOrder).mp hmod)
  have hle := Int.le_of_dvd (by omega) hdvd
  rw [groupOrder_eq] at hle
  push_cast at hle
  omega

theorem Independent.opens_unique (hi : Independent B h) (hx : Opens B h C x)
    (hy : Opens B h C y) : x = y := by
  obtain ⟨r, hr⟩ := hx
  obtain ⟨s, hs⟩ := hy
  have hzero : (x - y) • B + (r - s) • h = 0 := by
    calc (x - y) • B + (r - s) • h = (x • B + r • h) - (y • B + s • h) := by module
      _ = 0 := by rw [← hr, ← hs, sub_self]
  exact sub_eq_zero.mp (hi _ _ hzero).1

theorem Independent.holds_unique (hi : Independent B h) (hm : Holds B h C m)
    (hn : Holds B h C n) (hmb : m < 2 ^ 252) (hnb : n < 2 ^ 252) : m = n :=
  natCast_scalar_inj hmb hnb (hi.opens_unique hm hn)

theorem Opens.zero : Opens B h (0 : V) 0 := ⟨0, by simp⟩

theorem Opens.add (hC : Opens B h C x) (hD : Opens B h D y) : Opens B h (C + D) (x + y) := by
  obtain ⟨r, rfl⟩ := hC
  obtain ⟨s, rfl⟩ := hD
  exact ⟨r + s, by module⟩

theorem Opens.sub (hC : Opens B h C x) (hD : Opens B h D y) : Opens B h (C - D) (x - y) := by
  obtain ⟨r, rfl⟩ := hC
  obtain ⟨s, rfl⟩ := hD
  exact ⟨r - s, by module⟩

theorem Holds.add (hC : Holds B h C m) (hD : Holds B h D n) : Holds B h (C + D) (m + n) := by
  have hsum := Opens.add hC hD
  unfold Holds
  rwa [Nat.cast_add]

theorem Holds.sub (hle : n ≤ m) (hC : Holds B h C m) (hD : Holds B h D n) :
    Holds B h (C - D) (m - n) := by
  have hdiff := Opens.sub hC hD
  unfold Holds
  rwa [Nat.cast_sub hle]

/-- Two ranged values whose commitments differ by a third ranged one. -/
theorem Independent.le_of_holds_sub {k : ℕ} (hi : Independent B h) (hm : m < 2 ^ 64)
    (hn : n < 2 ^ 64) (hk : k < 2 ^ 64) (hC : Holds B h C m) (hD : Holds B h D n)
    (hCD : Holds B h (C - D) k) : n ≤ m ∧ k = m - n := by
  have hsum : Holds B h C (k + n) := by
    have hadd := Holds.add hCD hD
    simpa using hadd
  have heq := hi.holds_unique hC hsum (by omega) (by omega)
  omega

theorem Holds.sum {cs : List V} {ns : List ℕ} (hall : Forall₂ (Holds B h) cs ns) :
    Holds B h cs.sum ns.sum := by
  induction hall with
  | nil => exact ⟨0, by simp⟩
  | cons hC _ ih =>
    simp only [sum_cons]
    exact Holds.add hC ih

theorem Reblinds.refl (B h : V) : Reblinds B h B := ⟨0, by simp⟩

theorem reblinds_iff_scales : Reblinds B h T ↔ Scales B h T 1 := by
  simp [Reblinds, Scales]

theorem Scales.opens {c : Scalar} (hT : Scales B h T c) (hC : Opens T h C x) :
    Opens B h C (c * x) := by
  obtain ⟨γ, rfl⟩ := hT
  obtain ⟨r, rfl⟩ := hC
  exact ⟨x * γ + r, by module⟩

theorem Reblinds.opens (hT : Reblinds B h T) (hC : Opens T h C x) : Opens B h C x := by
  have hscaled := (reblinds_iff_scales.mp hT).opens hC
  rwa [one_mul] at hscaled

theorem Opens.of_value_zero (hx : x = 0) (hC : Opens T h C x) : Opens B h C x := by
  subst hx
  obtain ⟨r, rfl⟩ := hC
  exact ⟨r, by simp⟩

/-- Reading one commitment under two generators relates them, unless it holds nothing. -/
theorem scales_of_opens (hx : x ≠ 0) (hT : Opens T h C x) (hB : Opens B h C y) :
    Scales B h T (x⁻¹ * y) := by
  obtain ⟨r, rfl⟩ := hT
  obtain ⟨s, hs⟩ := hB
  refine ⟨x⁻¹ * (s - r), ?_⟩
  have hscaled : x⁻¹ • (x • T + r • h) = x⁻¹ • (y • B + s • h) := by rw [hs]
  simp only [smul_add, smul_smul, inv_mul_cancel₀ hx, one_smul] at hscaled
  rw [mul_sub, sub_smul]
  calc T = T + (x⁻¹ * r) • h - (x⁻¹ * r) • h := by abel
    _ = (x⁻¹ * y) • B + (x⁻¹ * s) • h - (x⁻¹ * r) • h := by rw [hscaled]
    _ = (x⁻¹ * y) • B + ((x⁻¹ * s) • h - (x⁻¹ * r) • h) := by abel

theorem reblinds_of_opens (hx : x ≠ 0) (hT : Opens T h C x) (hB : Opens B h C x) :
    Reblinds B h T := by
  have hscaled := scales_of_opens hx hT hB
  rwa [inv_mul_cancel₀ hx, ← reblinds_iff_scales] at hscaled

/-- The value read under `T` is the value under `B` exactly when nothing is
held or `T` is `B` blinded. -/
theorem opens_transfer_iff (hT : Opens T h C x) :
    Opens B h C x ↔ x = 0 ∨ Reblinds B h T := by
  constructor
  · intro hB
    by_cases hx : x = 0
    · exact .inl hx
    · exact .inr (reblinds_of_opens hx hT hB)
  · rintro (hx | hT')
    · exact hT.of_value_zero hx
    · exact hT'.opens hT

/-- `cs` hold the values `xs`, each below `M`, under the generator `B`. -/
def HoldAll (B h : V) (M : ℕ) (cs : List V) (xs : List ℕ) : Prop :=
  List.Forall₂ (fun C x => x < M ∧ Holds B h C x) cs xs

variable {M : ℕ} {cs : List V} {xs ys : List ℕ}

theorem HoldAll.sum (hall : HoldAll B h M cs xs) : Holds B h cs.sum xs.sum := by
  apply Holds.sum
  exact Forall₂.imp (fun _ _ hC => hC.2) hall

theorem HoldAll.lt (hall : HoldAll B h M cs xs) : ∀ x ∈ xs, x < M := by
  induction hall with
  | nil => intro x hx; cases hx
  | cons hC _ ih =>
    intro x hx
    cases hx with
    | head => exact hC.1
    | tail _ hx => exact ih x hx

theorem HoldAll.sum_le (hall : HoldAll B h M cs xs) : xs.sum ≤ cs.length * M := by
  have hle := sum_le_card_nsmul xs M (fun x hx => Nat.le_of_lt (hall.lt x hx))
  rw [Forall₂.length_eq hall]
  simpa using hle

theorem HoldAll.unique (hi : Independent B h) (hM : M ≤ 2 ^ 64) (hx : HoldAll B h M cs xs)
    (hy : HoldAll B h M cs ys) : xs = ys := by
  induction hx generalizing ys with
  | nil => cases hy; rfl
  | cons hC _ ih =>
    cases hy with
    | cons hD htail =>
      rw [ih htail, hi.holds_unique hC.2 hD.2 (by omega) (by omega)]

theorem HoldAll.exists_common (hx : HoldAll T h M cs xs) (hy : HoldAll B h M cs ys) :
    ∀ x ∈ xs, ∃ C y, y < M ∧ Holds T h C x ∧ Holds B h C y := by
  induction hx generalizing ys with
  | nil => intro x hx; cases hx
  | cons hC _ ih =>
    intro x hx
    cases hy with
    | cons hD htail =>
      cases hx with
      | head => exact ⟨_, _, hD.1, hC.2, hD.2⟩
      | tail _ hx => exact ih htail x hx

theorem HoldAll.map (f : ℕ → ℕ) (hall : HoldAll T h M cs xs)
    (hf : ∀ x ∈ xs, f x < M ∧ ∀ C, Holds T h C x → Holds B h C (f x)) :
    HoldAll B h M cs (xs.map f) := by
  induction hall with
  | nil => exact Forall₂.nil
  | @cons C x cs xs hC _ ih =>
    have hx := hf x mem_cons_self
    exact Forall₂.cons ⟨hx.1, hx.2 C hC.2⟩
      (ih (fun x hx => hf x (mem_cons_of_mem _ hx)))

/-- Values ranged under `T` are ranged under `B` exactly when all are zero or
`T` is a multiple of `B` whose factor keeps each of them below the bound. -/
theorem HoldAll.restate_iff (hi : Independent B h) (hM : M ≤ 2 ^ 64) (hT : HoldAll T h M cs xs) :
    (∃ ys, HoldAll B h M cs ys) ↔
      (∀ x ∈ xs, x = 0) ∨ ∃ c, Scales B h T c ∧ ∀ x ∈ xs, (c * (x : Scalar)).val < M := by
  constructor
  · intro hB
    obtain ⟨ys, hys⟩ := hB
    by_cases hzero : ∀ x ∈ xs, x = 0
    · exact .inl hzero
    simp only [not_forall] at hzero
    obtain ⟨x, hx, hx0⟩ := hzero
    have hxs : (x : Scalar) ≠ 0 := fun h0 =>
      hx0 (natCast_scalar_eq_zero (lt_of_lt_of_le (hT.lt x hx) (by omega)) h0)
    obtain ⟨C, y, _, hCx, hCy⟩ := hT.exists_common hys x hx
    have hscale := scales_of_opens hxs hCx hCy
    refine .inr ⟨_, hscale, ?_⟩
    intro x' hx'
    obtain ⟨D, z, hz, hDx, hDz⟩ := hT.exists_common hys x' hx'
    have hval := hi.opens_unique (hscale.opens hDx) hDz
    rw [hval, ZMod.val_natCast_of_lt (lt_groupOrder (by omega))]
    exact hz
  · intro hcond
    cases hcond with
    | inl hzero =>
      refine ⟨xs.map id, hT.map id (fun x hx => ⟨hT.lt x hx, fun C hC => ?_⟩)⟩
      exact Opens.of_value_zero (by simp [hzero x hx]) hC
    | inr hscaled =>
      obtain ⟨c, hc, hval⟩ := hscaled
      refine ⟨xs.map (fun x : ℕ => (c * (x : Scalar)).val), hT.map _ (fun x hx => ⟨hval x hx, ?_⟩)⟩
      intro C hC
      unfold Holds
      rw [ZMod.natCast_zmod_val]
      exact hc.opens hC

end DeFMI.Lib
