import Mathlib.Data.List.Infix
set_option autoImplicit false

/-!
Records that each carry the digest of the record before them. The digest of the
last record commits to the whole list, so a list made of records of one chain
that starts where the chain starts is an initial part of it.
-/

namespace DeFMI.Lib.HashChain
open List

variable {α δ : Type} (previous digest : α → δ)

def Linked : δ → List α → Prop
  | _, [] => True
  | d, a :: as => previous a = d ∧ Linked (digest a) as

def tip : δ → List α → δ
  | d, [] => d
  | _, a :: as => tip (digest a) as

@[simp] theorem tip_append (d : δ) (as bs : List α) :
    tip digest d (as ++ bs) = tip digest (tip digest d as) bs := by
  induction as generalizing d with
  | nil => rfl
  | cons a as ih => exact ih (digest a)

@[simp] theorem linked_append {d : δ} {as bs : List α} :
    Linked previous digest d (as ++ bs) ↔
      Linked previous digest d as ∧ Linked previous digest (tip digest d as) bs := by
  induction as generalizing d with
  | nil => simp [Linked, tip]
  | cons a as ih => simp [Linked, tip, ih, and_assoc]

variable {previous digest}

/-- Two chains over records without a collision end alike only if they are the same. -/
theorem linked_unique {start : δ} (genuine : α → Prop)
    (hinj : ∀ a b, genuine a → genuine b → digest a = digest b → a = b)
    (hstart : ∀ a, genuine a → digest a ≠ start) {as bs : List α}
    (has : ∀ a ∈ as, genuine a) (hbs : ∀ b ∈ bs, genuine b)
    (hla : Linked previous digest start as) (hlb : Linked previous digest start bs)
    (htip : tip digest start as = tip digest start bs) : as = bs := by
  induction as using reverseRecOn generalizing bs with
  | nil =>
    cases bs using reverseRecOn with
    | nil => rfl
    | append_singleton bs b =>
      simp only [tip_append, tip] at htip
      exact absurd htip.symm (hstart b (hbs b (by simp)))
  | append_singleton as a ih =>
    cases bs using reverseRecOn with
    | nil =>
      simp only [tip_append, tip] at htip
      exact absurd htip (hstart a (has a (by simp)))
    | append_singleton bs b =>
      simp only [tip_append, tip] at htip
      obtain rfl := hinj a b (has a (by simp)) (hbs b (by simp)) htip
      simp only [linked_append, Linked, and_true] at hla hlb
      have hsame : tip digest start as = tip digest start bs := hla.2.symm.trans hlb.2
      rw [ih (fun c hc => has c (by simp [hc])) (fun c hc => hbs c (by simp [hc])) hla.1 hlb.1 hsame]

theorem prefix_of_linked {start : δ} {as bs : List α}
    (hinj : ∀ a ∈ as, ∀ b ∈ as, digest a = digest b → a = b)
    (hstart : ∀ a ∈ as, digest a ≠ start) (hla : Linked previous digest start as)
    (hlb : Linked previous digest start bs) (hmem : ∀ b ∈ bs, b ∈ as) : bs <+: as := by
  cases bs using reverseRecOn with
  | nil => exact nil_prefix
  | append_singleton bs b =>
    obtain ⟨earlier, later, rfl⟩ := append_of_mem (hmem b (by simp))
    simp only [linked_append, Linked, and_true] at hla hlb
    -- both the records before `b` here and those before it there end in what `b` carries
    have htip : tip digest start bs = tip digest start earlier := hlb.2.symm.trans hla.2.1
    have hbefore : bs = earlier :=
      linked_unique (· ∈ earlier ++ b :: later)
        (fun a c ha hc => hinj a ha c hc) hstart (fun c hc => hmem c (by simp [hc]))
        (fun c hc => by simp [hc]) hlb.1 hla.1 htip
    rw [hbefore]
    exact ⟨later, by simp⟩

end DeFMI.Lib.HashChain
