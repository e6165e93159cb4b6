import Mathlib.Algebra.GroupWithZero.Nat
import Mathlib.Data.List.Basic
import Mathlib.Tactic.Common
set_option autoImplicit false

/-!
Merkle trees over a list of leaf digests. A level is paired up from the left,
a last digest without a partner is paired with itself, and a proof lists the
siblings from the leaf to the root.
-/

namespace DeFMI.Lib.Merkle
open List Option

variable {H : Type} (node : H → H → H)

def up : List H → List H
  | [] => []
  | [a] => [node a a]
  | a :: b :: rest => node a b :: up rest

@[simp] theorem length_up (L : List H) : (up node L).length = (L.length + 1) / 2 := by
  induction L using up.induct with
  | case1 => simp [up]
  | case2 => simp [up]
  | case3 a b rest ih => simp only [up, length_cons, ih]; omega

def root : List H → Option H
  | [] => none
  | [a] => some a
  | a :: b :: rest => root (up node (a :: b :: rest))
termination_by L => L.length
decreasing_by simp only [length_up, List.length_cons]; omega

/-- The partner of a position in its level, the position itself at a ragged end. -/
def sibling (L : List H) (p : ℕ) : Option H :=
  if p % 2 = 0 then (L[p + 1]?).or L[p]? else L[p - 1]?

def proofFor (L : List H) (p : ℕ) : Option (List H) :=
  if L.length ≤ 1 then some []
  else do
    let s ← sibling L p
    let rest ← proofFor (up node L) (p / 2)
    pure (s :: rest)
termination_by L.length
decreasing_by simp only [length_up]; omega

def climb : H → ℕ → List H → H
  | h, _, [] => h
  | h, p, s :: rest => climb (if p % 2 = 0 then node h s else node s h) (p / 2) rest

/-- How many times a level of `n` digests is halved until one is left. -/
def depth (n : ℕ) : ℕ := if n - 1 = 0 then 0 else Nat.log2 (n - 1) + 1

variable {L : List H} {p : ℕ} {n : ℕ}

theorem depth_of_le_one (h : n ≤ 1) : depth n = 0 := by
  simp only [depth]
  split
  · rfl
  · omega

theorem depth_halve (h : 1 < n) : depth n = depth ((n + 1) / 2) + 1 := by
  have hhalf : (n + 1) / 2 - 1 = (n - 1) / 2 := by omega
  unfold depth
  rw [hhalf, if_neg (by omega)]
  by_cases hsmall : n - 1 < 2
  · have hone : n - 1 = 1 := by omega
    simp [hone, Nat.log2_def]
  · rw [if_neg (by omega), Nat.log2_def (n - 1), if_pos (by omega)]

theorem depth_le {n k : ℕ} (h : n ≤ 2 ^ k) : depth n ≤ k := by
  unfold depth
  by_cases hzero : n - 1 = 0
  · simp [hzero]
  · rw [if_neg hzero]
    exact (Nat.log2_lt hzero).mpr (by omega)

/-- The width of a level after `k` pairings. -/
def halvings : ℕ → ℕ → ℕ
  | 0, width => width
  | k + 1, width => halvings k ((width + 1) / 2)

theorem halvings_depth (h : 0 < n) : halvings (depth n) n = 1 := by
  induction n using Nat.strongRecOn with
  | ind n ih =>
    by_cases hone : n ≤ 1
    · have : n = 1 := by omega
      simp [this, depth, halvings]
    · rw [depth_halve (by omega), halvings]
      exact ih _ (by omega) (by omega)

variable {node}

theorem root_single (a : H) : root node [a] = some a := by
  simp [root]

theorem root_up (h : 1 < L.length) : root node L = root node (up node L) := by
  match L, h with
  | a :: b :: rest, _ => rw [root]

theorem proofFor_single (h : L.length ≤ 1) (p : ℕ) : proofFor node L p = some [] := by
  rw [proofFor, if_pos h]

theorem proofFor_up (h : 1 < L.length) (p : ℕ) : proofFor node L p = (sibling L p).bind fun s =>
      (proofFor node (up node L) (p / 2)).map fun rest => s :: rest := by
  rw [proofFor, if_neg (by omega)]
  cases sibling L p with
  | none => rfl
  | some =>
    cases proofFor node (up node L) (p / 2) with
    | none => rfl
    | some => rfl

theorem getElem?_up (L : List H) (k : ℕ) :
    (up node L)[k]? = (L[2 * k]?).map fun a => node a ((L[2 * k + 1]?).getD a) := by
  induction L using up.induct generalizing k with
  | case1 => simp [up]
  | case2 =>
    cases k with
    | zero => simp [up]
    | succ => simp [up, Nat.mul_add]
  | case3 a b rest ih =>
    cases k with
    | zero => simp [up]
    | succ => simp [up, ih, Nat.mul_add]

theorem up_position {h s : H} (hp : L[p]? = some h) (hs : sibling L p = some s) :
    (up node L)[p / 2]? = some (if p % 2 = 0 then node h s else node s h) := by
  rw [getElem?_up]
  unfold sibling at hs
  by_cases heven : p % 2 = 0
  · grind
  · grind

theorem sibling_isSome (hp : p < L.length) : (sibling L p).isSome := by
  unfold sibling
  by_cases heven : p % 2 = 0
  · grind
  · rw [if_neg heven]
    have hprev : p - 1 < L.length := by omega
    simp [hprev]

theorem up_position_inj (hinj : ∀ a b c d, node a b = node c d → a = c ∧ b = d) {h s : H}
    (hp : p < L.length)
    (hup : (up node L)[p / 2]? = some (if p % 2 = 0 then node h s else node s h)) :
    L[p]? = some h ∧ sibling L p = some s := by
  obtain ⟨h', hh'⟩ : ∃ h', L[p]? = some h' := ⟨L[p], getElem?_eq_getElem hp⟩
  obtain ⟨s', hs'⟩ := isSome_iff_exists.mp (sibling_isSome hp)
  rw [up_position hh' hs'] at hup
  have heq := some.inj hup
  by_cases heven : p % 2 = 0
  · grind
  · grind

/-- A proof of full depth leads from a digest to the root exactly when it is the
proof for its position and the digest is the one there. -/
theorem climb_eq_root_iff (hinj : ∀ a b c d, node a b = node c d → a = c ∧ b = d) {h : H}
    {proof : List H} (hp : p < L.length) (hlen : proof.length = depth L.length) :
    root node L = some (climb node h p proof) ↔
      L[p]? = some h ∧ proofFor node L p = some proof := by
  induction hn : L.length using Nat.strongRecOn generalizing L p h proof with
  | ind n ih =>
    subst hn
    by_cases hone : L.length ≤ 1
    · match L, hone, hp with
      | [a], _, hp =>
        have hzero : p = 0 := by simpa using hp
        have hnil : proof = [] := by simpa [depth] using hlen
        subst hzero hnil
        simp [root, climb, proofFor_single]
    · have hmany : 1 < L.length := by omega
      rw [depth_halve hmany] at hlen
      cases proof with
      | nil => simp at hlen
      | cons s rest =>
        have hhalf : (up node L).length < L.length := by rw [length_up]; omega
        have hp' : p / 2 < (up node L).length := by rw [length_up]; omega
        have hrest : rest.length = depth (up node L).length := by
          rw [length_up]; simpa using hlen
        have hrec := ih _ hhalf (h := if p % 2 = 0 then node h s else node s h) hp' hrest rfl
        rw [root_up hmany, climb, hrec, proofFor_up hmany]
        constructor
        · rintro ⟨hup, hrest⟩
          obtain ⟨hhere, hsib⟩ := up_position_inj hinj hp hup
          simp [hhere, hsib, hrest]
        · rintro ⟨hhere, hproof⟩
          obtain ⟨s', hs', hrest⟩ := bind_eq_some_iff.mp hproof
          obtain ⟨rest', hrest', heq⟩ := map_eq_some_iff.mp hrest
          cases heq
          exact ⟨up_position hhere hs', hrest'⟩

theorem proofFor_exists (node : H → H → H) (hp : p < L.length) :
    ∃ proof, proofFor node L p = some proof ∧ proof.length = depth L.length := by
  induction hn : L.length using Nat.strongRecOn generalizing L p with
  | ind n ih =>
    subst hn
    by_cases hone : L.length ≤ 1
    · exact ⟨[], proofFor_single hone p, (depth_of_le_one hone).symm⟩
    · have hmany : 1 < L.length := by omega
      have hhalf : (up node L).length < L.length := by rw [length_up]; omega
      have hp' : p / 2 < (up node L).length := by rw [length_up]; omega
      obtain ⟨rest, hrest, hlen⟩ := ih _ hhalf hp' rfl
      obtain ⟨s, hs⟩ := isSome_iff_exists.mp (sibling_isSome hp)
      refine ⟨s :: rest, by simp [proofFor_up hmany, hs, hrest], ?_⟩
      rw [depth_halve hmany, length_cons, hlen, length_up]

theorem single_of_depth_zero {r : H} (hroot : root node L = some r)
    (h : depth L.length = 0) : ∃ a, L = [a] := by
  match L, hroot with
  | [], hroot => simp [root] at hroot
  | [a], _ => exact ⟨a, rfl⟩
  | a :: b :: rest, _ => rw [depth_halve (by simp)] at h; omega

theorem root_exists (h : 0 < L.length) : ∃ r, root node L = some r := by
  induction hn : L.length using Nat.strongRecOn generalizing L with
  | ind n ih =>
    subst hn
    by_cases hone : L.length ≤ 1
    · match L, hone, h with
      | [a], _, _ => exact ⟨a, root_single a⟩
    · have hmany : 1 < L.length := by omega
      rw [root_up hmany]
      exact ih _ (by rw [length_up]; omega) (by rw [length_up]; omega) rfl

/-- Digests by their height over the leaves. -/
inductive Height (node : H → H → H) (leaf : H → Prop) : ℕ → H → Prop where
  | leaf {a : H} (h : leaf a) : Height node leaf 0 a
  | node {k : ℕ} {a b : H} (ha : Height node leaf k a) (hb : Height node leaf k b) :
      Height node leaf (k + 1) (node a b)

section Injective

variable {leaf : H → Prop} (hinj : ∀ a b c d, node a b = node c d → a = c ∧ b = d)
  (hseparate : ∀ a b, ¬ leaf (node a b))

include hinj hseparate in
theorem Height.unique {j k : ℕ} {a : H} (hj : Height node leaf j a) (hk : Height node leaf k a) :
    j = k := by
  induction hj generalizing k with
  | leaf h =>
    cases hk with
    | leaf => rfl
    | node => exact absurd h (hseparate _ _)
  | @node j a b _ _ iha _ => grind [Height]

theorem height_up {k : ℕ} {L : List H} (h : ∀ a ∈ L, Height node leaf k a) :
    ∀ a ∈ up node L, Height node leaf (k + 1) a := by
  induction L using up.induct with
  | case1 => simp [up]
  | case2 a =>
    have ha := h a (by simp)
    simpa [up] using Height.node ha ha
  | case3 a b rest ih =>
    have ha := h a (by simp)
    have hb := h b (by simp)
    have hrest := ih fun c hc => h c (by simp [hc])
    intro c hc
    rcases mem_cons.mp hc with rfl | hc
    · exact .node ha hb
    · exact hrest c hc

theorem height_root {k : ℕ} {L : List H} {r : H} (h : ∀ a ∈ L, Height node leaf k a)
    (hroot : root node L = some r) : Height node leaf (k + depth L.length) r := by
  induction hn : L.length using Nat.strongRecOn generalizing L k with
  | ind n ih =>
    subst hn
    match L, h, hroot with
    | [], _, hroot => simp [root] at hroot
    | [a], h, hroot =>
      obtain rfl : a = r := by simpa [root] using hroot
      simpa [depth] using h a (by simp)
    | a :: b :: rest, h, hroot =>
      have hmany : 1 < (a :: b :: rest).length := by simp
      have hless : (up node (a :: b :: rest)).length < (a :: b :: rest).length := by
        rw [length_up]; omega
      rw [root_up hmany] at hroot
      have hup := ih _ hless (height_up h) hroot rfl
      rw [length_up] at hup
      rw [depth_halve hmany]
      convert hup using 1
      omega

include hinj in
theorem nodup_up {L : List H} (h : L.Nodup) : (up node L).Nodup := by
  have hleft : ∀ L : List H, ∀ c ∈ up node L, ∃ a ∈ L, ∃ b, c = node a b := by
    intro L
    induction L using up.induct with
    | case1 => simp [up]
    | case2 => simp [up]
    | case3 a b rest ih =>
      intro c hc
      rcases mem_cons.mp hc with rfl | hc
      · exact ⟨a, by simp, b, rfl⟩
      · obtain ⟨x, hx, y, rfl⟩ := ih c hc
        exact ⟨x, by simp [hx], y, rfl⟩
  induction L using up.induct with
  | case1 => simp [up]
  | case2 => simp [up]
  | case3 a b rest ih =>
    simp only [nodup_cons, mem_cons, not_or] at h
    obtain ⟨⟨_, ha⟩, _, hrest⟩ := h
    refine nodup_cons.mpr ⟨fun hmem => ?_, ih hrest⟩
    obtain ⟨x, hx, y, heq⟩ := hleft rest _ hmem
    exact ha ((hinj _ _ _ _ heq).1 ▸ hx)

include hinj in
/-- A level of distinct digests is known from the level above it: a digest paired with
itself was the last of its level. -/
theorem up_inj {L M : List H} (hL : L.Nodup) (hM : M.Nodup) (h : up node L = up node M) : L = M := by
  induction L using up.induct generalizing M with
  | case1 =>
    match M, h with
    | [], _ => rfl
    | [a], h => simp [up] at h
    | a :: b :: rest, h => simp [up] at h
  | case2 =>
    match M, h with
    | [c], h =>
      simp only [up, cons.injEq, and_true] at h
      rw [(hinj _ _ _ _ h).1]
    | c :: d :: rest, h =>
      simp only [up, cons.injEq] at h
      obtain ⟨rfl, rfl⟩ := hinj _ _ _ _ h.1
      simp at hM
  | case3 a b rest ih =>
    match M, h with
    | [c], h =>
      simp only [up, cons.injEq] at h
      obtain ⟨rfl, rfl⟩ := hinj _ _ _ _ h.1
      simp at hL
    | c :: d :: more, h =>
      simp only [up, cons.injEq] at h
      obtain ⟨rfl, rfl⟩ := hinj _ _ _ _ h.1
      simp only [nodup_cons] at hL hM
      rw [ih hL.2.2 hM.2.2 h.2]

include hinj hseparate in
theorem root_inj {k : ℕ} {L M : List H} {r : H} (hL : L.Nodup) (hM : M.Nodup)
    (hheightL : ∀ a ∈ L, Height node leaf k a) (hheightM : ∀ a ∈ M, Height node leaf k a)
    (hrootL : root node L = some r) (hrootM : root node M = some r) : L = M := by
  have hdepth : depth L.length = depth M.length := by
    have hsame := (height_root hheightL hrootL).unique hinj hseparate (height_root hheightM hrootM)
    omega
  induction hn : L.length using Nat.strongRecOn generalizing L M k with
  | ind n ih =>
    subst hn
    by_cases hone : depth L.length = 0
    · obtain ⟨a, rfl⟩ := single_of_depth_zero hrootL hone
      obtain ⟨b, rfl⟩ := single_of_depth_zero hrootM (hdepth ▸ hone)
      rw [root_single] at hrootL hrootM
      rw [some.inj hrootL, some.inj hrootM]
    · have hmanyL : 1 < L.length := by
        by_contra hsmall
        exact hone (depth_of_le_one (by omega))
      have hmanyM : 1 < M.length := by
        by_contra hsmall
        exact hone (hdepth.trans (depth_of_le_one (by omega)))
      rw [root_up hmanyL] at hrootL
      rw [root_up hmanyM] at hrootM
      rw [depth_halve hmanyL, depth_halve hmanyM] at hdepth
      refine up_inj hinj hL hM (ih _ ?_ (nodup_up hinj hL) (nodup_up hinj hM) (height_up hheightL)
        (height_up hheightM) hrootL hrootM ?_ rfl)
      · rw [length_up]; omega
      · rw [length_up, length_up]; omega

end Injective

end DeFMI.Lib.Merkle
