import DeFMI.Lib.Table
set_option autoImplicit false

/-!
Tables of running sums. Amounts are posted under keys, a key that was never posted
stands at zero, and what a key stands at is the sum of what was posted under it.
-/

namespace DeFMI.Lib.Table
open List

variable {β κ M : Type} [DecidableEq κ] [AddCommMonoid M]

def standing (t : Table κ M) (k : κ) : M := (t.lookup k).getD 0

def post (t : Table κ M) (k : κ) (x : M) : Table κ M := t.insert k (t.standing k + x)

@[simp] theorem standing_empty (k : κ) : (∅ : Table κ M).standing k = 0 := rfl

theorem standing_post (t : Table κ M) (k k' : κ) (x : M) :
    (t.post k x).standing k' = t.standing k' + if k' = k then x else 0 := by
  unfold post
  rw [standing, lookup_insert_eq_ite]
  by_cases h : k' = k
  · simp [h]
  · simp [h, standing]

theorem total_post (t : Table κ M) (k : κ) (x : M) :
    total (fun _ y => y) (t.post k x) = total (fun _ y => y) t + x := by
  unfold post
  cases hrow : t.lookup k with
  | none =>
    have hmem : k ∉ t := AList.lookup_eq_none.mp hrow
    rw [total_insert_of_not_mem _ hmem, standing, hrow]
    simp [add_comm]
  | some =>
    rw [total_insert, total_erase _ hrow, standing, hrow]
    simp only [Option.getD_some]
    abel

def postAll (key : β → κ) (amount : β → M) (t : Table κ M) (l : List β) : Table κ M :=
  l.foldl (fun t b => t.post (key b) (amount b)) t

theorem standing_postAll (key : β → κ) (amount : β → M) (t : Table κ M) (l : List β) (k : κ) :
    (postAll key amount t l).standing k =
      t.standing k + (l.map fun b => if k = key b then amount b else 0).sum := by
  induction l generalizing t with
  | nil => simp [postAll]
  | cons b l ih =>
    rw [postAll, foldl_cons, ← postAll, ih, standing_post, map_cons, sum_cons,
      add_assoc]

theorem total_postAll (key : β → κ) (amount : β → M) (t : Table κ M) (l : List β) :
    total (fun _ y => y) (postAll key amount t l) =
      total (fun _ y => y) t + (l.map amount).sum := by
  induction l generalizing t with
  | nil => simp [postAll]
  | cons b l ih =>
    rw [postAll, foldl_cons, ← postAll, ih, total_post, map_cons, sum_cons, add_assoc]

end DeFMI.Lib.Table
