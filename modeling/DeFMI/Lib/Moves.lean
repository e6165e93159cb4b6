import DeFMI.Lib.Table
import Mathlib.Data.List.Sort
set_option autoImplicit false

/-!
Amounts moved between the rows of a table. One amount leaves one row and enters
another, so no total changes, and what a list of moves does to a row is a sum that
does not depend on the order they were made in.
-/

namespace DeFMI.Lib
open AList List Option

@[ext]
structure Move (κ M : Type) where
  payer : κ
  payee : κ
  amount : M

namespace Move

variable {κ M : Type} [DecidableEq κ] [AddCommGroup M]

def effect (m : Move κ M) (k : κ) : M :=
  (if k = m.payee then m.amount else 0) - (if k = m.payer then m.amount else 0)

theorem effect_payer {m : Move κ M} (hne : m.payer ≠ m.payee) : m.effect m.payer = -m.amount := by
  simp [effect, hne]

theorem effect_payee {m : Move κ M} (hne : m.payer ≠ m.payee) : m.effect m.payee = m.amount := by
  simp [effect, hne.symm]

theorem effect_of_ne {m : Move κ M} {k : κ} (hpayer : k ≠ m.payer) (hpayee : k ≠ m.payee) :
    m.effect k = 0 := by
  simp [effect, hpayer, hpayee]

theorem eq_or_eq_of_effect_eq {m n : Move κ M} (hne : m.payer ≠ m.payee)
    (hamount : n.amount = m.amount) (hodd : m.amount + m.amount = 0 → m.amount = 0)
    (hpayer : m.effect m.payer = n.effect m.payer) (hpayee : m.effect m.payee = n.effect m.payee) :
    m.amount = 0 ∨ m = n := by
  by_cases hzero : m.amount = 0
  · exact Or.inl hzero
  have hdouble : m.amount ≠ -m.amount := fun h => hzero (hodd (eq_neg_iff_add_eq_zero.mp h))
  rw [effect_payer hne] at hpayer
  rw [effect_payee hne] at hpayee
  have hfrom : m.payer = n.payer := by
    by_contra hother
    by_cases hto : m.payer = n.payee
    · rw [effect, if_pos hto, if_neg hother, hamount, sub_zero] at hpayer
      exact hdouble hpayer.symm
    · rw [effect_of_ne hother hto] at hpayer
      exact hzero (neg_eq_zero.mp hpayer)
  have hto : m.payee = n.payee := by
    by_contra hother
    have hback : m.payee ≠ n.payer := fun heq => hne (hfrom.trans heq.symm)
    rw [effect_of_ne hback hother] at hpayee
    exact hzero hpayee
  exact Or.inr (Move.ext hfrom hto hamount.symm)

def effects (ms : List (Move κ M)) (k : κ) : M := (ms.map fun m => m.effect k).sum

@[simp] theorem effects_nil (k : κ) : effects ([] : List (Move κ M)) k = 0 := rfl

@[simp] theorem effects_append (ms ns : List (Move κ M)) (k : κ) :
    effects (ms ++ ns) k = effects ms k + effects ns k := by
  simp [effects]

@[simp] theorem effects_singleton (m : Move κ M) (k : κ) : effects [m] k = m.effect k := by
  simp [effects]

theorem effects_perm {ms ns : List (Move κ M)} (h : ms.Perm ns) (k : κ) :
    effects ms k = effects ns k := by
  unfold effects
  exact (h.map fun m => m.effect k).sum_eq

end Move

namespace Table

variable {κ M : Type} [DecidableEq κ]

section Group

variable [AddCommGroup M] {t u : Table κ M} {m : Move κ M}

/-- Both rows are read before either is written; `none` is a row that does not exist. -/
def move (t : Table κ M) (m : Move κ M) : Option (Table κ M) := do
  let payer ← t.lookup m.payer
  let payee ← t.lookup m.payee
  some ((t.insert m.payer (payer - m.amount)).insert m.payee (payee + m.amount))

theorem move_eq_some :
    t.move m = some u ↔ ∃ payer payee, t.lookup m.payer = some payer ∧
      t.lookup m.payee = some payee ∧
      u = (t.insert m.payer (payer - m.amount)).insert m.payee (payee + m.amount) := by
  simp only [move, bind_eq_bind, bind_eq_some_iff, some.injEq]
  constructor
  · rintro ⟨payer, hpayer, payee, hpayee, rfl⟩
    exact ⟨payer, payee, hpayer, hpayee, rfl⟩
  · rintro ⟨payer, payee, hpayer, hpayee, rfl⟩
    exact ⟨payer, hpayer, payee, hpayee, rfl⟩

theorem exists_move (hpayer : m.payer ∈ t) (hpayee : m.payee ∈ t) : ∃ u, t.move m = some u := by
  obtain ⟨payer, hpayer⟩ := isSome_iff_exists.mp (lookup_isSome.mpr hpayer)
  obtain ⟨payee, hpayee⟩ := isSome_iff_exists.mp (lookup_isSome.mpr hpayee)
  exact ⟨_, move_eq_some.mpr ⟨payer, payee, hpayer, hpayee, rfl⟩⟩

theorem lookup_move (hne : m.payer ≠ m.payee) (h : t.move m = some u) (k : κ) :
    u.lookup k = (t.lookup k).map (· + m.effect k) := by
  obtain ⟨payer, payee, hpayer, hpayee, rfl⟩ := move_eq_some.mp h
  by_cases hk : k = m.payee
  · subst hk
    rw [lookup_insert, hpayee, map_some, Move.effect_payee hne]
  rw [lookup_insert_ne hk]
  by_cases hk' : k = m.payer
  · subst hk'
    rw [lookup_insert, hpayer, map_some, Move.effect_payer hne, sub_eq_add_neg]
  · rw [lookup_insert_ne hk', Move.effect_of_ne hk' hk]
    simp

theorem total_move (hne : m.payer ≠ m.payee) (h : t.move m = some u) :
    total (fun _ v => v) u = total (fun _ v => v) t := by
  obtain ⟨payer, payee, hpayer, hpayee, rfl⟩ := move_eq_some.mp h
  have hkept : (t.insert m.payer (payer - m.amount)).lookup m.payee = some payee := by
    rw [lookup_insert_ne hne.symm, hpayee]
  have hdebit := total_insert_of_lookup (w := payer - m.amount) (fun _ v => v) hpayer
  have hcredit := total_insert_of_lookup (w := payee + m.amount) (fun _ v => v) hkept
  rw [← add_right_cancel_iff (a := payee), hcredit, ← add_right_cancel_iff (a := payer)]
  calc total (fun _ v => v) (t.insert m.payer (payer - m.amount)) + (payee + m.amount) + payer
      = (total (fun _ v => v) (t.insert m.payer (payer - m.amount)) + payer) +
          (payee + m.amount) := by abel
    _ = total (fun _ v => v) t + (payer - m.amount) + (payee + m.amount) := by rw [hdebit]
    _ = total (fun _ v => v) t + payee + payer := by abel

end Group

section Sorted

variable {α : Type} [LE κ] [DecidableLE κ]

def sorted (t : Table κ α) : List (κ × α) :=
  (t.keys.insertionSort (· ≤ ·)).filterMap fun k => (t.lookup k).map fun v => (k, v)

theorem mem_sorted {t : Table κ α} {k : κ} {v : α} : (k, v) ∈ t.sorted ↔ t.lookup k = some v := by
  simp only [sorted, mem_filterMap, mem_insertionSort, map_eq_some_iff,
    Prod.mk.injEq]
  constructor
  · rintro ⟨_, _, _, hrow, rfl, rfl⟩
    exact hrow
  · intro hrow
    exact ⟨k, mem_of_lookup hrow, v, hrow, rfl, rfl⟩

theorem lookup_eq_of_sorted_eq {t u : Table κ α} (h : t.sorted = u.sorted) (k : κ) :
    t.lookup k = u.lookup k := by
  ext v
  rw [← mem_sorted, ← mem_sorted, h]

variable [Std.Total (fun a b : κ => a ≤ b)] [IsTrans κ (fun a b : κ => a ≤ b)]
  [Std.Antisymm (fun a b : κ => a ≤ b)]

theorem sorted_eq_of_lookup_eq {t u : Table κ α} (h : ∀ k, t.lookup k = u.lookup k) :
    t.sorted = u.sorted := by
  have hentries : t.entries.Perm u.entries := by
    refine lookup_ext t.nodupKeys u.nodupKeys ?_
    intro k v
    exact Eq.to_iff (congrArg (v ∈ ·) (h k))
  have hkeys : t.keys.Perm u.keys := hentries.map Sigma.fst
  have hsame : t.keys.insertionSort (· ≤ ·) = u.keys.insertionSort (· ≤ ·) := by
    refine Perm.eq_of_pairwise (fun a b _ _ hab hba => ?_)
      (pairwise_insertionSort (· ≤ ·) t.keys) (pairwise_insertionSort (· ≤ ·) u.keys) ?_
    · exact Std.Antisymm.antisymm (r := fun a b : κ => a ≤ b) a b hab hba
    · exact (perm_insertionSort _ _).trans (hkeys.trans (perm_insertionSort _ _).symm)
  simp only [sorted, hsame, h]

end Sorted
end Table
end DeFMI.Lib
