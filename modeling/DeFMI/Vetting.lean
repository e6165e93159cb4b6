import DeFMI.Ledger
set_option autoImplicit false

/-!
The roll of vetted firms: envelopes take the places of decoys in groups of one size.
-/

namespace DeFMI.Vetting
open Lib List

structure Group (V : Type) where
  cohort : Bytes
  epoch : ℕ
  envelopes : List V
  filled : ℕ

structure Roll (V : Type) where
  groups : List (Group V)
  crowd : ℕ

structure Seal where
  group : ℕ
  index : ℕ
  blinding : Scalar
  epoch : ℕ

/-- A call of the operator, with the blinding and the word it draws at random. -/
structure Vouch where
  cohort : Bytes
  secret : Scalar
  blinding : Scalar
  draw : ℕ

variable {V : Type}

def Roll.new (crowd : ℕ) : Result (Roll V) := do
  require (¬(2 ^ crowd.log2 ≠ crowd ∨ crowd < 2)) "a group is a power of two, at least two"
  pure ⟨[], crowd⟩

def Roll.vetted (roll : Roll V) : ℕ := (roll.groups.map Group.filled).sum

/-- A group of the cohort that is not full. -/
def Roll.Open (roll : Roll V) (cohort : Bytes) (j : ℕ) : Prop :=
  ∃ g, roll.groups[j]? = some g ∧ g.cohort = cohort ∧ g.filled < roll.crowd

variable [DecidableEq V]

section
variable (decoy : Bytes → ℕ → ℕ → V)

/-- The places of a group whose envelope is not the decoy of that place. -/
def Group.real (j : ℕ) (g : Group V) : Finset ℕ :=
  (Finset.range g.envelopes.length).filter fun i => g.envelopes[i]? ≠ some (decoy g.cohort j i)

def Roll.decoys (roll : Roll V) (cohort : Bytes) : Group V :=
  ⟨cohort, 0, (List.range roll.crowd).map (decoy cohort roll.groups.length), 0⟩

/-- The first group of the cohort that is not full, or else a new one of decoys. -/
def Roll.place (roll : Roll V) (cohort : Bytes) : List (Group V) × ℕ :=
  match roll.groups.findIdx? fun g => g.cohort = cohort ∧ g.filled < roll.crowd with
  | some index => (roll.groups, index)
  | none => (roll.groups ++ [roll.decoys decoy cohort], roll.groups.length)

variable (sealed : Vouch → V)

def NoDecoy (call : Vouch) : Prop := ∀ cohort j i, sealed call ≠ decoy cohort j i

structure Group.Sound (crowd j : ℕ) (g : Group V) : Prop where
  length : g.envelopes.length = crowd
  epoch : g.filled = g.epoch
  filled : g.filled = (g.real decoy j).card

/-- What holds of a roll and of the calls it has sealed. -/
structure Roll.Sound (roll : Roll V) (held : List (Vouch × Seal)) : Prop where
  groups : ∀ j (g : Group V), roll.groups[j]? = some g → g.Sound decoy roll.crowd j
  single : ∀ cohort i j, roll.Open cohort i → roll.Open cohort j → i = j
  opens : ∀ p ∈ held, NoDecoy decoy sealed p.1 ∧ p.2.blinding = p.1.blinding ∧
    ∃ g, roll.groups[p.2.group]? = some g ∧ g.envelopes[p.2.index]? = some (sealed p.1)

variable [AddCommGroup V] [Module Scalar V] (key : Pedersen V)

def envelope (call : Vouch) : V := call.secret • key.g + call.blinding • key.h

/-- `none` is a panic: an index out of bounds, a remainder by zero, or an overflow. -/
def vouch (roll : Roll V) (call : Vouch) : Option (Seal × Roll V) := do
  let (groups, group) := roll.place decoy call.cohort
  let g ← groups[group]?
  if g.envelopes.length < roll.crowd then none
  else
    let free := (List.range roll.crowd).filter fun i =>
      g.envelopes[i]? = some (decoy call.cohort group i)
    let pick ← free[call.draw % free.length]?
    let filled ← checkedAdd g.filled 1
    let epoch ← checkedAdd g.epoch 1
    let envelopes := g.envelopes.set pick (envelope key call)
    some (⟨group, pick, call.blinding, epoch⟩,
      ⟨groups.set group ⟨g.cohort, epoch, envelopes, filled⟩, roll.crowd⟩)

def vouchAll (roll : Roll V) : List Vouch → Option (List Seal × Roll V)
  | [] => some ([], roll)
  | call :: calls => do
    let (given, roll) ← vouch decoy key roll call
    let (seals, roll) ← vouchAll roll calls
    some (given :: seals, roll)

end

variable {decoy : Bytes → ℕ → ℕ → V} {sealed : Vouch → V} {roll : Roll V}
  {held : List (Vouch × Seal)} {g : Group V} {j : ℕ}

/-- One group is new or has changed. -/
theorem Roll.Sound.update (h : roll.Sound decoy sealed held) {groups : List (Group V)}
    (hat : groups[j]? = some g) (helse : ∀ i, i ≠ j → groups[i]? = roll.groups[i]?)
    (hg : g.Sound decoy roll.crowd j)
    (hopen : g.filled < roll.crowd → ∀ i, roll.Open g.cohort i → i = j)
    (hkeeps : ∀ old, roll.groups[j]? = some old → ∀ (k : ℕ) call, NoDecoy decoy sealed call →
      old.envelopes[k]? = some (sealed call) → g.envelopes[k]? = some (sealed call)) :
    Roll.Sound decoy sealed ⟨groups, roll.crowd⟩ held where
  groups i g' hg' := by
    by_cases hi : i = j
    · subst hi
      obtain rfl : g = g' := by simpa [hat] using hg'
      exact hg
    · exact h.groups i g' (helse i hi ▸ hg')
  single c i k := by
    have hold : ∀ i, Roll.Open ⟨groups, roll.crowd⟩ c i → roll.Open c i ∨ i = j := by
      rintro i ⟨g', hg', hrest⟩
      exact or_iff_not_imp_right.mpr fun hi => ⟨g', helse i hi ▸ hg', hrest⟩
    have hnew : Roll.Open ⟨groups, roll.crowd⟩ c j → ∀ i, roll.Open c i → i = j := by
      rintro ⟨g', hg', rfl, hroom⟩
      obtain rfl : g = g' := by simpa [hat] using hg'
      exact hopen hroom
    intro hi hk
    obtain hi' | rfl := hold i hi
    · obtain hk' | rfl := hold k hk
      · exact h.single c i k hi' hk'
      · exact hnew hk i hi'
    · obtain hk' | rfl := hold k hk
      · exact (hnew hi k hk').symm
      · rfl
  opens p hp := by
    obtain ⟨hfresh, hblinding, old, hold, hopens⟩ := h.opens p hp
    refine ⟨hfresh, hblinding, ?_⟩
    by_cases hi : p.2.group = j
    · exact ⟨g, hi ▸ hat, hkeeps old (hi ▸ hold) _ _ hfresh hopens⟩
    · exact ⟨old, (helse _ hi).trans hold, hopens⟩

theorem Roll.Sound.place (h : roll.Sound decoy sealed held) (hcrowd : 0 < roll.crowd)
    {cohort : Bytes} {groups : List (Group V)} (hplace : roll.place decoy cohort = (groups, j)) :
    Roll.Sound decoy sealed ⟨groups, roll.crowd⟩ held ∧
      Roll.Open ⟨groups, roll.crowd⟩ cohort j ∧
      Roll.vetted ⟨groups, roll.crowd⟩ = roll.vetted := by
  unfold Roll.place at hplace
  split at hplace
  · next index hfound =>
    cases hplace
    obtain ⟨hindex, hg, -⟩ := findIdx?_eq_some_iff_getElem.mp hfound
    exact ⟨h, ⟨_, List.getElem?_eq_getElem hindex, by simpa using hg⟩, rfl⟩
  · next hnone =>
    cases hplace
    have hat : (roll.groups ++ [roll.decoys decoy cohort])[roll.groups.length]? =
      some (roll.decoys decoy cohort) := by simp
    refine ⟨h.update hat (by grind) ⟨by simp [decoys], rfl, ?_⟩ ?_ (by simp),
      ⟨_, hat, rfl, hcrowd⟩, by simp [Roll.vetted, decoys]⟩
    · refine (Finset.card_eq_zero.mpr (Finset.filter_eq_empty_iff.mpr fun i hi => ?_)).symm
      simp only [decoys, length_map, length_range, Finset.mem_range] at hi
      simp [decoys, hi]
    · rintro - i ⟨g, hg, hcohort, hroom⟩
      have hno := findIdx?_eq_none_iff.mp hnone g (mem_of_getElem? hg)
      simp [decoys] at hcohort
      simp [hcohort, hroom] at hno

theorem Group.real_set {pick : ℕ} {call : Vouch} (hcall : NoDecoy decoy sealed call)
    (hpick : g.envelopes[pick]? = some (decoy g.cohort j pick)) (epoch filled : ℕ) :
    Group.real decoy j ⟨g.cohort, epoch, g.envelopes.set pick (sealed call), filled⟩ =
      insert pick (g.real decoy j) := by
  have hlt := (List.getElem?_eq_some_iff.mp hpick).1
  ext i
  by_cases hi : pick = i
  · subst hi
    simp [Group.real, hlt, hcall _ _ _]
  · simp [Group.real, List.getElem?_set_ne hi, Ne.symm hi]

theorem sum_set {l : List ℕ} {n : ℕ} (h : l[j]? = some n) : (l.set j (n + 1)).sum = l.sum + 1 := by
  induction l generalizing j with
  | nil => simp at h
  | cons m l ih =>
    cases j with
    | zero =>
      obtain rfl : m = n := by simpa using h
      simp
      omega
    | succ j =>
      simp [ih (by simpa using h)]
      omega

theorem Roll.Sound.seal (h : roll.Sound decoy sealed held) (hg : roll.groups[j]? = some g)
    {pick : ℕ} (hpick : g.envelopes[pick]? = some (decoy g.cohort j pick)) {call : Vouch}
    (hcall : NoDecoy decoy sealed call) (hroom : g.filled < roll.crowd) :
    Roll.Sound decoy sealed ⟨roll.groups.set j
      ⟨g.cohort, g.epoch + 1, g.envelopes.set pick (sealed call), g.filled + 1⟩, roll.crowd⟩
      (held ++ [(call, ⟨j, pick, call.blinding, g.epoch + 1⟩)]) := by
  obtain ⟨hlength, hepoch, hfilled⟩ := h.groups j g hg
  have hat := List.getElem?_set_self (a := (⟨g.cohort, g.epoch + 1,
    g.envelopes.set pick (sealed call), g.filled + 1⟩ : Group V)) (List.getElem?_eq_some_iff.mp hg).1
  have hafter := h.update hat (fun i hi => List.getElem?_set_ne (Ne.symm hi))
    ⟨by simpa using hlength, congrArg (· + 1) hepoch, ?_⟩
    (fun _ i hi => h.single g.cohort i j hi ⟨g, hg, rfl, hroom⟩) ?_
  · refine { hafter with opens := forall_mem_append.mpr ⟨hafter.opens, ?_⟩ }
    simp only [mem_singleton, forall_eq]
    exact ⟨hcall, trivial, _, hat, List.getElem?_set_self (List.getElem?_eq_some_iff.mp hpick).1⟩
  · rw [Group.real_set hcall hpick, Finset.card_insert_of_notMem (by simp [Group.real, hpick]),
      ← hfilled]
  · intro old hold k other hother hk
    obtain rfl : g = old := by simpa [hg] using hold
    have hne : pick ≠ k := by
      rintro rfl
      exact hother _ _ _ (Option.some.inj (hk.symm.trans hpick))
    simpa [List.getElem?_set_ne hne] using hk

theorem getElem?_mod_of_mem {l : List ℕ} (h : j ∈ l) (n : ℕ) :
    ∃ k ∈ l, l[n % l.length]? = some k :=
  ⟨_, getElem_mem _, List.getElem?_eq_getElem (Nat.mod_lt n (length_pos_of_mem h))⟩

section
variable [AddCommGroup V] [Module Scalar V] {key : Pedersen V}

theorem vouch_ok (h : roll.Sound decoy (envelope key) held) (hcrowd : 0 < roll.crowd)
    (hmax : roll.crowd < 2 ^ 64) {call : Vouch} (hcall : NoDecoy decoy (envelope key) call) :
    ∃ given after, vouch decoy key roll call = some (given, after) ∧
      after.Sound decoy (envelope key) (held ++ [(call, given)]) ∧ after.crowd = roll.crowd ∧
      after.vetted = roll.vetted + 1 := by
  rcases hplace : roll.place decoy call.cohort with ⟨groups, j⟩
  obtain ⟨hplaced, ⟨g, hg, hcohort, hroom⟩, hvetted⟩ := h.place hcrowd hplace
  obtain ⟨hlength, hepoch, hfilled⟩ := hplaced.groups j g hg
  obtain ⟨i, hi, hdecoy⟩ : ∃ i ∈ Finset.range roll.crowd, i ∉ g.real decoy j :=
    Finset.exists_mem_notMem_of_card_lt_card (by rwa [Finset.card_range, ← hfilled])
  have hmem : i ∈ (range roll.crowd).filter fun i =>
      g.envelopes[i]? = some (decoy call.cohort j i) := by
    simp_all [Group.real]
  obtain ⟨pick, hfree, hat⟩ := getElem?_mod_of_mem hmem call.draw
  have hpick : g.envelopes[pick]? = some (decoy g.cohort j pick) := by
    simpa [hcohort] using (mem_filter.mp hfree).2
  refine ⟨_, _, ?_, hplaced.seal hg hpick hcall hroom, rfl, ?_⟩
  · have hadd : checkedAdd g.filled 1 = some (g.filled + 1) := if_pos (by simp only at hroom; omega)
    simp [vouch, hplace, hg, hlength, hat, hadd, ← hepoch]
  · rw [← hvetted]
    simpa [Roll.vetted] using sum_set (l := groups.map Group.filled) (j := j) (by simp [hg])

theorem vouchAll_ok (h : roll.Sound decoy (envelope key) held) (hcrowd : 0 < roll.crowd)
    (hmax : roll.crowd < 2 ^ 64) {calls : List Vouch}
    (hcalls : ∀ call ∈ calls, NoDecoy decoy (envelope key) call) :
    ∃ seals after, vouchAll decoy key roll calls = some (seals, after) ∧
      after.Sound decoy (envelope key) (held ++ calls.zip seals) ∧ after.crowd = roll.crowd ∧
      seals.length = calls.length ∧ after.vetted = roll.vetted + calls.length := by
  induction calls generalizing roll held with
  | nil => exact ⟨[], roll, rfl, by simpa using h, rfl, rfl, rfl⟩
  | cons call calls ih =>
    obtain ⟨hcall, hcalls⟩ := forall_mem_cons.mp hcalls
    obtain ⟨given, next, hvouch, hnext, hsame, hvetted⟩ := vouch_ok h hcrowd hmax hcall
    obtain ⟨seals, after, hrest, hafter, hcrowd', hlength, hvetted'⟩ :=
      ih hnext (hsame ▸ hcrowd) (hsame ▸ hmax) hcalls
    refine ⟨given :: seals, after, ?_, by simpa using hafter, hcrowd'.trans hsame, ?_, ?_⟩
    · simp [vouchAll, hvouch, hrest]
    · simp [hlength]
    · rw [hvetted', hvetted, length_cons]
      omega

theorem vetting_roll {crowd : ℕ} (hcrowd : crowd < 2 ^ 64) {roll : Roll V}
    (hnew : Roll.new crowd = .ok roll) {calls : List Vouch}
    (hcalls : ∀ call ∈ calls, NoDecoy decoy (envelope key) call) :
    ∃ seals after, vouchAll decoy key roll calls = some (seals, after) ∧
      after.vetted = calls.length ∧
      (∀ j (g : Group V), after.groups[j]? = some g → g.filled = g.epoch ∧
        g.filled = (g.real decoy j).card ∧ g.filled ≤ crowd) ∧
      (∀ cohort i j, after.Open cohort i → after.Open cohort j → i = j) ∧
      seals.length = calls.length ∧
      ∀ p ∈ calls.zip seals, ∃ g, after.groups[p.2.group]? = some g ∧
        g.envelopes[p.2.index]? = some (p.1.secret • key.g + p.2.blinding • key.h) := by
  simp only [Roll.new, ok_iff, not_or, not_lt] at hnew
  obtain ⟨⟨-, htwo⟩, rfl⟩ := hnew
  have hempty : Roll.Sound decoy (envelope key) ⟨[], crowd⟩ [] :=
    ⟨by simp, by simp [Roll.Open], by simp⟩
  obtain ⟨seals, after, hrun, hafter, hsame, hlength, hvetted⟩ :=
    vouchAll_ok hempty (by simp only; omega) hcrowd hcalls
  refine ⟨seals, after, hrun, by simpa [Roll.vetted] using hvetted, fun j g hg => ?_,
    hafter.single, hlength, fun p hp => ?_⟩
  · obtain ⟨hg, hepoch, hfilled⟩ := hafter.groups j g hg
    refine ⟨hepoch, hfilled, ?_⟩
    rw [hfilled, ← show after.crowd = crowd from hsame, ← hg]
    exact (Finset.card_filter_le _ _).trans_eq (Finset.card_range _)
  · obtain ⟨-, hblinding, hopens⟩ := hafter.opens p hp
    rw [hblinding]
    exact hopens

end

/-- Three firms of one cohort, in groups of two. -/
theorem vetting_roll_three :
    ∃ seals after, vouchAll (fun _ _ _ => 0) planeKey ⟨[], 2⟩
      (List.replicate 3 ⟨[], 1, 0, 5⟩) = some (seals, after) ∧ after.vetted = 3 := by
  have hcalls : ∀ call ∈ List.replicate 3 (⟨[], 1, 0, 5⟩ : Vouch),
      NoDecoy (fun _ _ _ => 0) (envelope planeKey) call := by
    intro call hcall cohort j i
    rw [List.eq_of_mem_replicate hcall]
    simp [envelope, planeKey]
  obtain ⟨seals, after, hrun, hvetted, -⟩ := vetting_roll (by decide : 2 < 2 ^ 64) rfl hcalls
  exact ⟨seals, after, hrun, hvetted⟩

end DeFMI.Vetting
