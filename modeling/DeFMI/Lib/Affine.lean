import Mathlib.Data.Nat.ModEq
import Mathlib.Logic.Function.Iterate
import Mathlib.Tactic.Ring
set_option autoImplicit false

/-!
Iterates of an affine map modulo a power of two. With a multiplier of the form
`4 * u + 1` and an odd increment every residue is reached from every start.
-/

namespace DeFMI.Lib
open Nat

def affine (a c x : ℕ) : ℕ := a * x + c

variable {u v : ℕ}

/-- `2 ^ k` steps together are affine again, with a multiplier near one and an
increment that is an odd multiple of `2 ^ k`. -/
theorem affine_iterate_two_pow (k : ℕ) : ∃ t s, ∀ x,
    (affine (4 * u + 1) (2 * v + 1))^[2 ^ k] x = (2 ^ (k + 2) * t + 1) * x + 2 ^ k * (2 * s + 1) := by
  induction k with
  | zero => exact ⟨u, v, fun x => by simp [affine]⟩
  | succ k ih =>
    obtain ⟨t, s, hstep⟩ := ih
    refine ⟨t + 2 ^ (k + 1) * t * t, s + 2 ^ k * t * (2 * s + 1), fun x => ?_⟩
    rw [pow_succ, mul_two, Function.iterate_add_apply, hstep, hstep]
    ring

theorem affine_iterate_modEq (k x : ℕ) :
    (affine (4 * u + 1) (2 * v + 1))^[2 ^ k] x ≡ x + 2 ^ k [MOD 2 ^ (k + 1)] := by
  obtain ⟨t, s, hstep⟩ := affine_iterate_two_pow (u := u) (v := v) k
  have hsplit : (2 ^ (k + 2) * t + 1) * x + 2 ^ k * (2 * s + 1) =
      x + 2 ^ k + 2 ^ (k + 1) * (2 * t * x + s) := by ring
  rw [hstep, hsplit, ModEq, add_mul_mod_self_left]

/-- A residue modulo `2 ^ k` is one of two residues modulo `2 ^ (k + 1)`. -/
theorem modEq_two_pow_succ {k x y : ℕ} (h : x ≡ y [MOD 2 ^ k]) :
    x ≡ y [MOD 2 ^ (k + 1)] ∨ x + 2 ^ k ≡ y [MOD 2 ^ (k + 1)] := by
  have hmod (z : ℕ) : z % 2 ^ (k + 1) = z % 2 ^ k + 2 ^ k * (z / 2 ^ k % 2) := by
    rw [pow_succ, mod_mul]
  have hpos : 0 < 2 ^ k := Nat.two_pow_pos k
  have hrest : x % 2 ^ k = y % 2 ^ k := h
  have hnext : (x + 2 ^ k) / 2 ^ k = x / 2 ^ k + 1 := add_div_right x hpos
  have hsame : (x + 2 ^ k) % 2 ^ k = x % 2 ^ k := add_mod_right x _
  rcases mod_two_eq_zero_or_one (x / 2 ^ k) with hx | hx <;>
    rcases mod_two_eq_zero_or_one (y / 2 ^ k) with hy | hy
  · left; simp [ModEq, hmod, hrest, hx, hy]
  · right; simp [ModEq, hmod, hrest, hsame, hnext, add_mod, hx, hy]
  · right; simp [ModEq, hmod, hrest, hsame, hnext, add_mod, hx, hy]
  · left; simp [ModEq, hmod, hrest, hx, hy]

theorem exists_affine_iterate_modEq (k x y : ℕ) :
    ∃ n, (affine (4 * u + 1) (2 * v + 1))^[n] x ≡ y [MOD 2 ^ k] := by
  induction k with
  | zero => exact ⟨0, by simp [modEq_one]⟩
  | succ k ih =>
    obtain ⟨n, hn⟩ := ih
    cases modEq_two_pow_succ hn with
    | inl hsame => exact ⟨n, hsame⟩
    | inr hother =>
      refine ⟨2 ^ k + n, ?_⟩
      rw [Function.iterate_add_apply]
      exact (affine_iterate_modEq k _).trans hother

end DeFMI.Lib
