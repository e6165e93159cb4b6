import DeFMI.Lib.Commitment
set_option autoImplicit false

/-!
Ideal non-interactive arguments about Pedersen commitments. A proof carries
the context it was made for and its witness, and a verifier accepts exactly
when the context matches and the witness satisfies the relation, so some proof
is accepted precisely when the statement is true.
-/

namespace DeFMI.Lib
open List Bool

variable {V : Type} [AddCommGroup V] [Module Scalar V] [DecidableEq V] {Ctx : Type}
  [DecidableEq Ctx]

/-- An aggregated range proof: one opening for each commitment. -/
structure RangeProof (Ctx : Type) where
  context : Ctx
  openings : List (ℕ × Scalar)
  deriving DecidableEq

/-- The bit lengths Bulletproofs accepts. -/
def supportedBits (bits : ℕ) : Bool := bits = 8 || bits = 16 || bits = 32 || bits = 64

variable {ctx : Ctx} {p : RangeProof Ctx} {bits : ℕ} {B h : V}

theorem supportedBits_le (h : supportedBits bits = true) : bits ≤ 64 := by
  simp only [supportedBits, or_eq_true, decide_eq_true_eq] at h
  omega

/-- An aggregation is over a power of two many commitments, at most `parties`. -/
def aggregable (parties count : ℕ) : Bool := count = 2 ^ Nat.log2 count && count ≤ parties

def opensTo (B h : V) (bits : ℕ) (C : V) (o : ℕ × Scalar) : Bool :=
  o.1 < 2 ^ bits && C = (o.1 : Scalar) • B + o.2 • h

def RangeProof.verifyMultiple (p : RangeProof Ctx) (parties : ℕ) (B h : V) (ctx : Ctx)
    (cs : List V) (bits : ℕ) : Bool :=
  p.context = ctx && supportedBits bits && aggregable parties cs.length &&
    p.openings.length = cs.length && (cs.zip p.openings).all (fun c => opensTo B h bits c.1 c.2)

theorem opensTo_holds {B h C : V} {o : ℕ × Scalar}
    (hC : opensTo B h bits C o = true) : o.1 < 2 ^ bits ∧ Holds B h C o.1 := by
  simp only [opensTo, and_eq_true, decide_eq_true_eq] at hC
  exact ⟨hC.1, o.2, hC.2⟩

theorem forall₂_opensTo (cs : List V) (os : List (ℕ × Scalar)) (hlen : os.length = cs.length)
    (hall : (cs.zip os).all (fun c => opensTo B h bits c.1 c.2) = true) :
    Forall₂ (fun C n => n < 2 ^ bits ∧ Holds B h C n) cs (os.map Prod.fst) := by
  induction cs generalizing os with
  | nil =>
    have hnil : os = [] := length_eq_zero_iff.mp hlen
    subst hnil
    exact Forall₂.nil
  | cons C cs ih =>
    cases os with
    | nil => simp at hlen
    | cons o os =>
      simp only [zip_cons_cons, all_cons, and_eq_true] at hall
      simp only [length_cons, Nat.add_right_cancel_iff] at hlen
      exact Forall₂.cons (opensTo_holds hall.1) (ih os hlen hall.2)

theorem aggregable_two {count : ℕ} (h : aggregable 2 count = true) : count = 1 ∨ count = 2 := by
  simp only [aggregable, and_eq_true, decide_eq_true_eq] at h
  obtain ⟨hpow, hle⟩ := h
  have hpos : 0 < count := by
    rw [hpow]; exact Nat.two_pow_pos _
  omega

/-- What an accepted range proof shows, and nothing about any other generator. -/
theorem RangeProof.verifyMultiple_sound {parties bits : ℕ} {cs : List V}
    (hv : p.verifyMultiple parties B h ctx cs bits = true) :
    bits ≤ 64 ∧ Forall₂ (fun C n => n < 2 ^ bits ∧ Holds B h C n) cs
      (p.openings.map Prod.fst) := by
  simp only [verifyMultiple, and_eq_true, decide_eq_true_eq] at hv
  obtain ⟨⟨⟨⟨_, hbits⟩, _⟩, hlen⟩, hall⟩ := hv
  exact ⟨supportedBits_le hbits, forall₂_opensTo cs p.openings hlen hall⟩

theorem RangeProof.verifyMultiple_two
    {cs : List V} (hv : p.verifyMultiple 2 B h ctx cs bits = true) :
    cs.length = 1 ∨ cs.length = 2 := by
  simp only [verifyMultiple, and_eq_true] at hv
  exact aggregable_two hv.1.1.2

theorem RangeProof.verifyMultiple_single {parties bits : ℕ} {B h C : V}
    (hv : p.verifyMultiple parties B h ctx [C] bits = true) :
    bits ≤ 64 ∧ ∃ n, n < 2 ^ bits ∧ Holds B h C n := by
  obtain ⟨hbits, hall⟩ := RangeProof.verifyMultiple_sound hv
  cases hp : p.openings.map Prod.fst with
  | nil => rw [hp] at hall; cases hall
  | cons n ns =>
    rw [hp] at hall
    obtain ⟨hn, _⟩ := forall₂_cons.mp hall
    exact ⟨hbits, n, hn⟩

/-- A range proof made jointly by several parties; it names its own width. -/
structure ThresholdRangeProof (Ctx : Type) where
  context : Ctx
  bits : ℕ
  value : ℕ
  blinding : Scalar

def ThresholdRangeProof.verify (p : ThresholdRangeProof Ctx) (g h : V) (C : V) (ctx : Ctx) : Bool :=
  p.context = ctx && opensTo g h p.bits C (p.value, p.blinding)

/-- Equality of the values two commitments hold under two generators. -/
structure CrossGeneratorProof (Ctx : Type) where
  context : Ctx
  value : Scalar
  first : Scalar
  second : Scalar
  deriving DecidableEq

def CrossGeneratorProof.verify (p : CrossGeneratorProof Ctx) (h : V) (ctx : Ctx) (G₁ G₂ C₁ C₂ : V) :
    Bool :=
  p.context = ctx && C₁ = p.value • G₁ + p.first • h && C₂ = p.value • G₂ + p.second • h

theorem CrossGeneratorProof.verify_sound {p : CrossGeneratorProof Ctx} {h G₁ G₂ C₁ C₂ : V}
    (hv : p.verify h ctx G₁ G₂ C₁ C₂ = true) :
    Opens G₁ h C₁ p.value ∧ Opens G₂ h C₂ p.value := by
  simp only [verify, and_eq_true, decide_eq_true_eq] at hv
  exact ⟨⟨p.first, hv.1.2⟩, ⟨p.second, hv.2⟩⟩

/-- The third commitment holds the product of what the first two hold. -/
structure ProductProof (Ctx : Type) where
  context : Ctx
  left : Scalar
  leftBlinding : Scalar
  right : Scalar
  rightBlinding : Scalar
  productBlinding : Scalar
  deriving DecidableEq

def ProductProof.verify (p : ProductProof Ctx) (g h : V) (ctx : Ctx) (L R P : V) : Bool :=
  p.context = ctx && L = p.left • g + p.leftBlinding • h &&
    R = p.right • g + p.rightBlinding • h &&
    P = (p.left * p.right) • g + p.productBlinding • h

theorem ProductProof.verify_sound {p : ProductProof Ctx} {g h L R P : V}
    (hv : p.verify g h ctx L R P = true) :
    Opens g h L p.left ∧ Opens g h R p.right ∧ Opens g h P (p.left * p.right) := by
  simp only [verify, and_eq_true, decide_eq_true_eq] at hv
  obtain ⟨⟨⟨_, hl⟩, hr⟩, hp⟩ := hv
  exact ⟨⟨_, hl⟩, ⟨_, hr⟩, ⟨_, hp⟩⟩

structure OpeningProof (Ctx : Type) where
  context : Ctx
  value : Scalar
  blinding : Scalar

def OpeningProof.verify (p : OpeningProof Ctx) (g h : V) (ctx : Ctx) (C : V) : Bool :=
  p.context = ctx && C = p.value • g + p.blinding • h

/-- Knowledge of the discrete logarithm of a commitment to zero. -/
structure ZeroProof (Ctx : Type) where
  context : Ctx
  blinding : Scalar

def ZeroProof.verify (p : ZeroProof Ctx) (h : V) (ctx : Ctx) (C : V) : Bool :=
  p.context = ctx && C = p.blinding • h

end DeFMI.Lib
