import Mathlib.Data.List.AList
import Mathlib.Algebra.BigOperators.Group.List.Basic
import Mathlib.Tactic.Abel
set_option autoImplicit false

/-!
Keyed tables and sums over their rows. `AList` is the table; what is added
here is how a sum over all rows changes when one row does.
-/

namespace DeFMI.Lib
open List Option AList

abbrev Table (κ α : Type) := AList (fun _ : κ => α)

namespace Table

variable {κ α : Type} {M : Type} [AddCommMonoid M]

def total (f : κ → α → M) (t : Table κ α) : M := (t.entries.map (fun e => f e.1 e.2)).sum

@[simp] theorem total_empty (f : κ → α → M) : total f (∅ : Table κ α) = 0 := rfl

theorem total_le_total {f g : κ → α → ℕ} (h : ∀ k v, f k v ≤ g k v) (t : Table κ α) :
    total f t ≤ total g t := by
  unfold total
  induction t.entries with
  | nil => simp
  | cons e l ih =>
    have he := h e.1 e.2
    simp only [map_cons, sum_cons]
    omega

variable [DecidableEq κ]

theorem sum_kerase (f : κ → α → M) (k : κ) (v : α) (l : List (Sigma fun _ : κ => α))
    (h : dlookup k l = some v) :
    (l.map (fun e => f e.1 e.2)).sum = f k v + ((kerase k l).map (fun e => f e.1 e.2)).sum := by
  induction l with
  | nil => simp at h
  | cons e l ih =>
    obtain ⟨k', w⟩ := e
    by_cases he : k = k'
    · subst he
      have hv : w = v := by simpa [dlookup_cons_eq] using h
      subst hv
      simp [kerase_cons_eq]
    · rw [kerase_cons_ne he]
      have hl : dlookup k l = some v := by
        rw [← h]; exact (dlookup_cons_ne l ⟨k', w⟩ he).symm
      simp only [map_cons, sum_cons]
      rw [ih hl]
      exact add_left_comm _ _ _

variable {t : Table κ α} {k : κ} {v : α}

theorem total_erase (f : κ → α → M) (h : t.lookup k = some v) :
    total f t = f k v + total f (t.erase k) :=
  sum_kerase f k v t.entries h

theorem total_erase_of_not_mem (f : κ → α → M) (h : k ∉ t) : total f (t.erase k) = total f t := by
  have hkeys : k ∉ t.entries.keys := h
  have hentries : (t.erase k).entries = t.entries.kerase k := rfl
  simp [total, hentries, kerase_of_notMem_keys hkeys]

theorem total_insert (f : κ → α → M) (t : Table κ α) (k : κ) (v : α) :
    total f (t.insert k v) = f k v + total f (t.erase k) := by
  have hentries : (t.erase k).entries = t.entries.kerase k := rfl
  simp [total, entries_insert, hentries]

theorem total_insert_of_not_mem (f : κ → α → M) (h : k ∉ t) :
    total f (t.insert k v) = f k v + total f t := by
  rw [total_insert, total_erase_of_not_mem f h]

theorem total_insert_of_lookup {v w : α} (f : κ → α → M)
    (h : t.lookup k = some v) : total f (t.insert k w) + f k v = total f t + f k w := by
  rw [total_insert, total_erase f h]
  abel

/-- A sum over the rows depends on what the keys hold and on nothing else. -/
theorem total_eq_of_lookup_eq {f : κ → α → M} {t u : Table κ α}
    (h : ∀ k, t.lookup k = u.lookup k) : total f t = total f u := by
  have hperm : t.entries.Perm u.entries := by
    refine lookup_ext t.nodupKeys u.nodupKeys ?_
    intro k v
    exact Eq.to_iff (congrArg (v ∈ ·) (h k))
  exact (hperm.map fun e => f e.1 e.2).sum_eq

/-! The rules by which `grind` reads a table after a write. -/

attribute [grind =] AList.mem_insert AList.mem_erase

@[grind =] theorem mem_iff_lookup : k ∈ t ↔ ∃ v, t.lookup k = some v := by
  rw [← lookup_isSome, isSome_iff_exists]

@[grind =] theorem lookup_insert_eq_ite (t : Table κ α) (k k' : κ) (v : α) :
    (t.insert k v).lookup k' = if k' = k then some v else t.lookup k' := by
  by_cases h : k' = k
  · subst h
    simp
  · simp [h, lookup_insert_ne h]

@[grind =] theorem lookup_erase_eq_ite (t : Table κ α) (k k' : κ) :
    (t.erase k).lookup k' = if k' = k then none else t.lookup k' := by
  by_cases h : k' = k
  · subst h
    simp
  · simp [h, lookup_erase_ne h]

theorem mem_of_lookup (h : t.lookup k = some v) : k ∈ t := by grind

theorem lookup_insert_cases {k i : κ} {v x : α}
    (h : (t.insert k v).lookup i = some x) : i = k ∧ x = v ∨ i ≠ k ∧ t.lookup i = some x := by
  grind

theorem forall_insert {P : κ → α → Prop}
    (hold : ∀ i x, t.lookup i = some x → P i x) (hnew : P k v) (i : κ) (x : α)
    (hx : (t.insert k v).lookup i = some x) : P i x := by
  grind

section Rows

variable {β : Type} (key : β → κ) (val : β → α) {l : List β} {k : κ}

theorem lookup_foldl_insert_of_ne (h : ∀ e ∈ l, key e ≠ k) (t : Table κ α) :
    (l.foldl (fun t e => t.insert (key e) (val e)) t).lookup k = t.lookup k := by
  induction l generalizing t with
  | nil => rfl
  | cons e l ih =>
    rw [foldl_cons, ih fun e' he' => h e' (mem_cons_of_mem e he')]
    exact lookup_insert_ne (h e mem_cons_self).symm

theorem lookup_foldl_insert_of_mem (hnodup : (l.map key).Nodup) {e : β} (he : e ∈ l)
    (t : Table κ α) :
    (l.foldl (fun t e => t.insert (key e) (val e)) t).lookup (key e) = some (val e) := by
  induction l generalizing t with
  | nil => simp at he
  | cons e' l ih =>
    obtain ⟨hfresh, hnodup⟩ := nodup_cons.mp hnodup
    rw [foldl_cons]
    rcases mem_cons.mp he with rfl | he
    · have hlater : ∀ e' ∈ l, key e' ≠ key e := fun e' he' heq =>
        hfresh (heq ▸ mem_map_of_mem he')
      rw [lookup_foldl_insert_of_ne key val hlater]
      exact lookup_insert ..
    · exact ih hnodup he _

end Rows

def Keeps (t u : Table κ α) : Prop := ∀ k v, t.lookup k = some v → u.lookup k = some v

namespace Keeps

variable {t u w : Table κ α} {k : κ} {v : α}

theorem refl (t : Table κ α) : Keeps t t := fun _ _ h => h

theorem trans (htu : Keeps t u) (huw : Keeps u w) : Keeps t w :=
  fun k v h => huw k v (htu k v h)

theorem mem (h : Keeps t u) (hk : k ∈ t) : k ∈ u := by grind [Keeps]

theorem insert (h : Keeps t u) (hk : k ∉ t) : Keeps t (u.insert k v) := by grind [Keeps]

end Keeps

theorem keeps_insert {t : Table κ α} {k : κ} {v : α} (hk : k ∉ t) : Keeps t (t.insert k v) :=
  (Keeps.refl t).insert hk

def retain (p : κ → α → Bool) (t : Table κ α) : Table κ α where
  entries := t.entries.filter fun e => p e.1 e.2
  nodupKeys := List.NodupKeys.sublist List.filter_sublist t.nodupKeys

theorem lookup_retain (p : κ → α → Bool) (t : Table κ α) (k : κ) :
    (t.retain p).lookup k = (t.lookup k).filter (p k) := by
  ext v
  rw [filter_eq_some_iff]
  have hrow : ∀ u : Table κ α, u.lookup k = some v ↔ (⟨k, v⟩ : Sigma fun _ => α) ∈ u.entries :=
    fun u => mem_lookup_iff
  rw [hrow, hrow, retain, mem_filter]

def mapValues {β : Type} (f : α → β) (t : Table κ α) : Table κ β where
  entries := t.entries.map fun e => ⟨e.1, f e.2⟩
  nodupKeys := by
    have hkeys : (t.entries.map fun e => (⟨e.1, f e.2⟩ : Sigma fun _ : κ => β)).keys =
        t.entries.keys := by simp [List.keys, Function.comp_def]
    rw [List.NodupKeys, hkeys]
    exact t.nodupKeys

theorem lookup_mapValues {β : Type} (f : α → β) (t : Table κ α) (k : κ) :
    (t.mapValues f).lookup k = (t.lookup k).map f := by
  change dlookup k (t.entries.map fun e => (⟨e.1, f e.2⟩ : Sigma fun _ : κ => β)) =
    (dlookup k t.entries).map f
  induction t.entries with
  | nil => rfl
  | cons e l ih =>
    obtain ⟨k', v⟩ := e
    by_cases he : k = k'
    · subst he
      simp
    · rw [map_cons, dlookup_cons_ne _ _ he, dlookup_cons_ne _ _ he, ih]

/-- The second table has, under the same keys, the images of the rows of the first. -/
def Maps {β : Type} (f : α → β) (t : Table κ α) (u : Table κ β) : Prop :=
  ∀ k, u.lookup k = (t.lookup k).map f

namespace Maps

variable {β : Type} {f : α → β} {t : Table κ α} {u : Table κ β}

theorem mem_iff (h : Maps f t u) (k : κ) : k ∈ u ↔ k ∈ t := by
  rw [← lookup_isSome, ← lookup_isSome, h k, isSome_map]

theorem lookup_eq_some (h : Maps f t u) {k : κ} {v : α} (hrow : t.lookup k = some v) :
    u.lookup k = some (f v) := by
  rw [h k, hrow, map_some]

theorem insert (h : Maps f t u) (k : κ) (v : α) : Maps f (t.insert k v) (u.insert k (f v)) := by
  grind [Maps]

theorem erase (h : Maps f t u) (k : κ) : Maps f (t.erase k) (u.erase k) := by
  grind [Maps]

end Maps

omit [DecidableEq κ] in
theorem total_mapValues {β : Type} (f : α → β) (g : κ → β → M) (t : Table κ α) :
    total g (t.mapValues f) = total (fun k v => g k (f v)) t := by
  simp [total, mapValues, Function.comp_def]

/-- Rows outside the support of the summand do not matter for the sum. -/
theorem total_eq_of_support [DecidableEq M] {f : κ → α → M} {t u : Table κ α}
    (h : ∀ k v, f k v ≠ 0 → (t.lookup k = some v ↔ u.lookup k = some v)) :
    total f t = total f u := by
  have hretain : ∀ w : Table κ α, total f (w.retain fun k v => f k v ≠ 0) = total f w := by
    intro w
    simp only [total, retain]
    induction w.entries with
    | nil => rfl
    | cons e l ih => by_cases he : f e.1 e.2 = 0 <;> simp_all
  rw [← hretain t, ← hretain u]
  refine total_eq_of_lookup_eq fun k => ?_
  ext v
  rw [lookup_retain, lookup_retain, filter_eq_some_iff, filter_eq_some_iff]
  constructor
  · rintro ⟨hv, hne⟩
    exact ⟨(h k v (by simpa using hne)).mp hv, hne⟩
  · rintro ⟨hv, hne⟩
    exact ⟨(h k v (by simpa using hne)).mpr hv, hne⟩

/-- A row of the second table is one of the first, or it was and is one of the
owners' and `good` holds of it; no row goes away. -/
def Touches {ω : Type} (owner : α → ω) (owners : List ω) (good : κ → α → Prop)
    (t u : Table κ α) : Prop :=
  ∀ k, u.lookup k = t.lookup k ∨ (∀ v, t.lookup k = some v → owner v ∈ owners) ∧
    ∃ v, u.lookup k = some v ∧ owner v ∈ owners ∧ good k v

namespace Touches

variable {ω : Type} {owner : α → ω} {owners : List ω} {good : κ → α → Prop} {t u : Table κ α}

theorem refl (t : Table κ α) : Touches owner owners good t t := fun _ => Or.inl rfl

theorem insert {k : κ} {v : α} (hold : ∀ w, t.lookup k = some w → owner w ∈ owners)
    (hnew : owner v ∈ owners) (hgood : good k v) :
    Touches owner owners good t (t.insert k v) := by
  grind [Touches]

theorem mapValues {f : α → α} (h : ∀ k v, t.lookup k = some v →
      f v = v ∨ owner v ∈ owners ∧ owner (f v) ∈ owners ∧ good k (f v)) :
    Touches owner owners good t (t.mapValues f) := by
  intro k
  rw [lookup_mapValues]
  cases hv : t.lookup k with
  | none => exact Or.inl rfl
  | some v =>
    rcases h k v hv with hsame | ⟨hold, hnew, hgood⟩
    · simp [hsame]
    · exact Or.inr ⟨by simp [hold], f v, rfl, hnew, hgood⟩

theorem frame (h : Touches owner owners good t u) {k : κ} {v : α} (hv : owner v ∉ owners) :
    t.lookup k = some v ↔ u.lookup k = some v := by
  grind [Touches]

theorem rows (h : Touches owner owners good t u) {k : κ} {v : α} (hv : u.lookup k = some v) :
    t.lookup k = some v ∨ owner v ∈ owners ∧ good k v := by
  grind [Touches]

end Touches

end Table
end DeFMI.Lib
