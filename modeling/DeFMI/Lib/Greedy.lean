import Mathlib.Algebra.GroupWithZero.Nat
import Mathlib.Data.List.Basic
import Mathlib.Tactic.Common
set_option autoImplicit false

/-!
Drawing an amount from a list of layers in order. `takes` is the greedy draw;
`InOrder` says that a layer is touched only when the nearest layer above it that
held anything is used up, and is what makes a draw the greedy one.
-/

namespace DeFMI.Lib
open List

def takes : ℕ → List ℕ → List ℕ
  | _, [] => []
  | amount, layer :: layers => min layer amount :: takes (amount - min layer amount) layers

def Within (layers draws : List ℕ) : Prop := List.Forall₂ (fun draw layer => draw ≤ layer) draws layers

def Exhausts (layers draws : List ℕ) : Prop :=
  ∀ i j, j < i → draws.getD i 0 ≠ 0 → draws.getD j 0 = layers.getD j 0

/-- `above` is what is left of the nearest layer above that held anything. -/
def InOrder : ℕ → List ℕ → List ℕ → Prop
  | above, layer :: layers, draw :: draws =>
    (draw = 0 ∨ above = 0) ∧ InOrder (if layer = 0 then above else layer - draw) layers draws
  | _, _, _ => True

/-- Consecutive layers only: a draw needs the layer right above it to be used up. -/
def Chained : Option ℕ → List ℕ → List ℕ → Prop
  | above, layer :: layers, draw :: draws =>
    (∀ left, above = some left → left = 0 ∨ draw = 0) ∧
      Chained (some (layer - draw)) layers draws
  | _, _, _ => True

/-- The order that consecutive comparisons leave open: a layer right below one
that held nothing. -/
def GapsInOrder : Bool → ℕ → List ℕ → List ℕ → Prop
  | belowEmpty, above, layer :: layers, draw :: draws =>
    (belowEmpty = true → draw = 0 ∨ above = 0) ∧
      GapsInOrder (layer = 0) (if layer = 0 then above else layer - draw) layers draws
  | _, _, _, _ => True

theorem takes_zero (layers : List ℕ) : takes 0 layers = replicate layers.length 0 := by
  induction layers with
  | nil => rfl
  | cons layer layers ih => simp [takes, ih, replicate_succ]

theorem length_takes (amount : ℕ) (layers : List ℕ) : (takes amount layers).length = layers.length := by
  induction layers generalizing amount with
  | nil => rfl
  | cons layer layers ih => simp [takes, ih]

theorem sum_takes (amount : ℕ) (layers : List ℕ) :
    (takes amount layers).sum = min amount layers.sum := by
  induction layers generalizing amount with
  | nil => simp [takes]
  | cons layer layers ih =>
    rw [takes, sum_cons, sum_cons, ih]
    omega

theorem takes_exhausts (amount : ℕ) (layers : List ℕ) : Exhausts layers (takes amount layers) := by
  induction layers generalizing amount with
  | nil => intro i j _ h; simp [takes] at h
  | cons layer layers ih =>
    intro i j hji hdrawn
    cases i with
    | zero => omega
    | succ i =>
      simp only [takes, getD_cons_succ] at hdrawn
      cases j with
      | succ j =>
        simp only [takes, getD_cons_succ]
        exact ih _ i j (by omega) hdrawn
      | zero =>
        -- something is left for a lower layer, so this one was taken whole
        have hleft : amount - min layer amount ≠ 0 := by
          intro hzero
          rw [hzero, takes_zero] at hdrawn
          simp [getD_eq_getElem?_getD, getElem?_replicate] at hdrawn
          split at hdrawn <;> simp at hdrawn
        simp only [takes, getD_cons_zero]
        omega

theorem takes_inOrder {above amount : ℕ} (layers : List ℕ) (h : above = 0 ∨ amount = 0) :
    InOrder above layers (takes amount layers) := by
  induction layers generalizing above amount with
  | nil => trivial
  | cons layer layers ih =>
    refine ⟨by omega, ih ?_⟩
    by_cases hlayer : layer = 0
    · simp only [hlayer, ↓reduceIte]; omega
    · simp only [hlayer, ↓reduceIte]; omega

variable {layers draws : List ℕ}

theorem InOrder.sum_eq_zero {above : ℕ} (h : InOrder above layers draws)
    (hwithin : Within layers draws) (habove : above ≠ 0) : draws.sum = 0 := by
  induction hwithin generalizing above with
  | nil => rfl
  | @cons draw layer draws layers hle _ ih => grind [InOrder, Within]

theorem takes_of_sum_zero (hwithin : Within layers draws)
    (hsum : draws.sum = 0) : draws = takes 0 layers := by
  induction hwithin with
  | nil => rfl
  | @cons draw layer draws layers hle _ ih =>
    simp only [sum_cons] at hsum
    have hzero : draw = 0 := by omega
    subst hzero
    simp only [takes, Nat.min_zero, Nat.zero_sub]
    rw [← ih (by omega)]

/-- In order and within the layers, the draw is the greedy one of its own sum. -/
theorem InOrder.eq_takes (h : InOrder 0 layers draws)
    (hwithin : Within layers draws) : draws = takes draws.sum layers := by
  induction hwithin with
  | nil => rfl
  | @cons draw layer draws layers hle hwithin ih =>
    obtain ⟨_, hrest⟩ := h
    by_cases hleft : layer - draw = 0
    · have hdraw : draw = layer := by omega
      subst hdraw
      have hrest' : InOrder 0 layers draws := by
        grind
      have hmin : min draw (draw + draws.sum) = draw := by omega
      simp only [takes, sum_cons, hmin, Nat.add_sub_cancel_left]
      rw [← ih hrest']
    · have hlayer : layer ≠ 0 := by omega
      simp only [hlayer, ↓reduceIte] at hrest
      have hzero := hrest.sum_eq_zero hwithin hleft
      have hmin : min layer draw = draw := by omega
      simp only [takes, sum_cons, hzero, Nat.add_zero, hmin, Nat.sub_self]
      rw [← takes_of_sum_zero hwithin hzero]

theorem inOrder_of_chained {above : Option ℕ} {belowEmpty : Bool} {left : ℕ}
    (hchain : Chained above layers draws)
    (hgaps : GapsInOrder belowEmpty left layers draws)
    (hlink : belowEmpty = false → left = 0 ∨ above = some left) : InOrder left layers draws := by
  induction layers generalizing draws above belowEmpty left with
  | nil => trivial
  | cons layer layers ih =>
    cases draws with
    | nil => trivial
    | cons => grind [Chained, GapsInOrder, InOrder]

theorem InOrder.gapsInOrder {belowEmpty : Bool} {above : ℕ}
    (h : InOrder above layers draws) : GapsInOrder belowEmpty above layers draws := by
  induction layers generalizing draws above belowEmpty with
  | nil => trivial
  | cons layer layers ih =>
    cases draws with
    | nil => trivial
    | cons => exact ⟨fun _ => h.1, ih h.2⟩

end DeFMI.Lib
