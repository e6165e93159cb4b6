import DeFMI.Lib.Greedy
import DeFMI.Lib.Reader
import DeFMI.Reconcile
set_option autoImplicit false

/-!
The default waterfall: tranches stay committed, a resolution commits one draw
per tranche and proves what is left of each in range, the order of consecutive
tranches by a product with zero, and an opening of the residual.
-/

namespace DeFMI
open Lib List Forall₂

inductive WaterfallContext where
  | within (index : ℕ)
  | order (index : ℕ)
  | shortfall
  | balance
  deriving DecidableEq

structure Tranche (V : Type) where
  name : String
  commitment : V

structure Draw (V : Type) where
  tranche : ℕ
  amountCommitment : V
  within : RangeProof WaterfallContext
  withinCommitment : V
  ordering : Option (ProductProof WaterfallContext)

structure Resolution (V : Type) where
  shortfallCommitment : V
  shortfallRange : RangeProof WaterfallContext
  shortfallRangeCommitment : V
  draws : List (Draw V)
  balance : OpeningProof WaterfallContext

structure Waterfall (V : Type) where
  key : Pedersen V
  bits : ℕ
  tranches : List (Tranche V)

def Resolution.amounts {V : Type} (r : Resolution V) : List V := r.draws.map Draw.amountCommitment

namespace Waterfall

variable {V : Type}

def commitments (w : Waterfall V) : List V := w.tranches.map Tranche.commitment

def new (key : Pedersen V) (tranches : List (Tranche V)) (bits : ℕ) : Option (Waterfall V) :=
  if tranches = [] then none else some ⟨key, bits, tranches⟩

variable [AddCommGroup V]

def applied (w : Waterfall V) (r : Resolution V) : List (Tranche V) :=
  List.zipWith (fun t d => ⟨t.name, t.commitment - d.amountCommitment⟩) w.tranches r.draws

def residual (r : Resolution V) : V := r.shortfallCommitment - r.amounts.sum

section Build

variable [Module Scalar V]

/-- The last blinding absorbs the sum, so that the residual commits to nothing. -/
def drawBlindings (shortfallBlinding : Scalar) (randoms : List Scalar) : List Scalar :=
  randoms.dropLast ++ [shortfallBlinding - randoms.dropLast.sum]

/-- One draw per tranche; `above` is what the previous tranche was left with. -/
def buildDraws (w : Waterfall V) : ℕ → Option (ℕ × Scalar) →
    List (ℕ × Scalar) → List (ℕ × Scalar) → List (Draw V)
  | index, above, (balance, blinding) :: held, (amount, drawBlinding) :: drawn =>
    let left := balance - amount
    let leftBlinding := blinding - drawBlinding
    { tranche := index
      amountCommitment := w.key.commitU64 amount drawBlinding
      within := ⟨.within index, [(left, leftBlinding)]⟩
      withinCommitment := w.key.commitU64 left leftBlinding
      ordering := above.map fun a => ⟨.order index, a.1, a.2, amount, drawBlinding, 0⟩ } ::
      w.buildDraws (index + 1) (some (left, leftBlinding)) held drawn
  | _, _, _, _ => []

/-- Needs every opening. `randoms` are the blindings drawn for the draws. -/
def build (panics : Bool) (w : Waterfall V) (shortfall : ℕ) (shortfallBlinding : Scalar)
    (balances : List ℕ) (blindings randoms : List Scalar) :
    Except Stop (Resolution V × List ℕ) := do
  require (balances.length = w.tranches.length ∧ blindings.length = w.tranches.length)
    (.error "one balance and one blinding per tranche")
  let total ← okOr (balances.foldlM (addU64 panics) 0) .panic
  require (shortfall ≤ total) (.error "the shortfall exceeds what the waterfall holds")
  -- without a tranche there is no last blinding
  require (balances ≠ []) .panic
  require (supportedBits w.bits = true) (.error "a tranche is overdrawn")
  let amounts := takes shortfall balances
  let draws := w.buildDraws 0 none (balances.zip blindings)
    (amounts.zip (drawBlindings shortfallBlinding randoms))
  let commitment := w.key.commitU64 shortfall shortfallBlinding
  pure (⟨commitment, ⟨.shortfall, [(shortfall, shortfallBlinding)]⟩, commitment, draws,
    ⟨.balance, 0, 0⟩⟩, amounts)

end Build

section Check

variable [Module Scalar V]

/-- The amounts are within their tranches, add up to the shortfall, leave every
tranche above a drawn one empty, and are the ones `build` computes. -/
def Sound (key : Pedersen V) (bits : ℕ) (Ts : List ℕ) (r : Resolution V) : Prop :=
  ∃ S ds, S < 2 ^ bits ∧ Holds key.g key.h r.shortfallCommitment S ∧
    HoldAll key.g key.h (2 ^ bits) r.amounts ds ∧ Within Ts ds ∧ ds.sum = S ∧
    Exhausts Ts ds ∧ ds = takes S Ts

/-- What the check leaves to the prover: the residual commits to zero, no draw
is negative, and no tranche right below an empty one is drawn while the nearest
tranche above that held anything still does. -/
def Covered (key : Pedersen V) (bits : ℕ) (Ts : List ℕ) (r : Resolution V) : Prop :=
  ∃ ds, HoldAll key.g key.h (2 ^ bits) r.amounts ds ∧ Opens key.g key.h (residual r) 0 ∧
    GapsInOrder false 0 Ts ds

def Above (key : Pedersen V) : Option V → Option ℕ → Prop
  | none, none => True
  | some C, some left => left < 2 ^ 64 ∧ Holds key.g key.h C left
  | _, _ => False

variable {key : Pedersen V} {bits : ℕ}

theorem holdAll_applied {Ts ds : List ℕ} {tranches : List (Tranche V)} {draws : List (Draw V)}
    (hT : HoldAll key.g key.h (2 ^ bits) (tranches.map Tranche.commitment) Ts)
    (hd : HoldAll key.g key.h (2 ^ bits) (draws.map Draw.amountCommitment) ds)
    (hwithin : Within Ts ds) :
    ∃ rest, HoldAll key.g key.h (2 ^ bits)
        ((zipWith (fun (t : Tranche V) (d : Draw V) =>
          (⟨t.name, t.commitment - d.amountCommitment⟩ : Tranche V)) tranches draws).map
            Tranche.commitment) rest ∧ rest.sum + ds.sum = Ts.sum := by
  induction hwithin generalizing tranches draws with
  | nil =>
    refine ⟨[], ?_, rfl⟩
    cases tranches with
    | nil => exact nil
    | cons => cases hT
  | @cons d T ds Ts hle _ ih =>
    cases tranches with
    | nil => cases hT
    | cons =>
      cases draws with
      | nil => cases hd
      | cons =>
        obtain ⟨hT, hTs⟩ := forall₂_cons.mp hT
        obtain ⟨hd, hds⟩ := forall₂_cons.mp hd
        obtain ⟨rest, hrest, hsum⟩ := ih hTs hds
        refine ⟨(T - d) :: rest, cons ⟨by omega, ?_⟩ hrest, ?_⟩
        · exact Holds.sub hle hT.2 hd.2
        · simp only [sum_cons]
          omega

variable [DecidableEq V]

def orderTerm (key : Pedersen V) (index : ℕ) (above : Option V) (draw : Draw V) :
    Result (List Bool) :=
  match draw.ordering, above with
  | none, some _ => .error "a draw below the first tranche has no order proof"
  | some proof, some left =>
    .ok [proof.verify key.g key.h (.order index) left draw.amountCommitment 0]
  | _, none => .ok []

def checkDraws (key : Pedersen V) (bits : ℕ) : ℕ → Option V → List (Tranche V) →
    List (Draw V) → Result (List Bool)
  | index, above, tranche :: tranches, draw :: draws => do
    require (draw.tranche = index) "the draws are not in tranche order"
    let remaining := tranche.commitment - draw.amountCommitment
    require (draw.withinCommitment = remaining)
      "a tranche's range proof is about another commitment"
    require (draw.within.verifyMultiple 1 key.g key.h (.within index) [draw.withinCommitment]
      bits = true) "a tranche is overdrawn"
    let term ← orderTerm key index above draw
    let terms ← checkDraws key bits (index + 1) (some remaining) tranches draws
    pure (term ++ terms)
  | _, _, _, _ => .ok []

def check (w : Waterfall V) (r : Resolution V) : Check := do
  require (r.draws.length = w.tranches.length) "one draw per tranche, present or zero"
  require (r.shortfallRangeCommitment = r.shortfallCommitment)
    "the shortfall range is about another commitment"
  require (r.shortfallRange.verifyMultiple 1 w.key.g w.key.h .shortfall
    [r.shortfallRangeCommitment] w.bits = true)
    "the shortfall is not shown to be a positive amount"
  let batch ← checkDraws w.key w.bits 0 none w.tranches r.draws
  require ((batch.all fun term => term) = true ∧
      r.balance.verify w.key.g w.key.h .balance (residual r) = true)
    ("a tranche was drawn before the one above it was exhausted, " ++
      "or the draws do not add up to the shortfall")

variable {w : Waterfall V} {r : Resolution V}

theorem check_ok {u : Unit} (h : w.check r = .ok u) :
    r.draws.length = w.tranches.length ∧ w.bits ≤ 64 ∧
      (∃ S, S < 2 ^ w.bits ∧ Holds w.key.g w.key.h r.shortfallCommitment S) ∧
      ∃ batch, checkDraws w.key w.bits 0 none w.tranches r.draws = .ok batch ∧
        ∀ term ∈ batch, term = true := by
  simp only [check, ok_iff] at h
  obtain ⟨hlen, hsame, hrange, batch, hbatch, hall, _⟩ := h
  rw [hsame] at hrange
  obtain ⟨hbits, hshortfall⟩ := RangeProof.verifyMultiple_single hrange
  exact ⟨hlen, hbits, hshortfall, batch, hbatch, by simpa using hall⟩

theorem orderTerm_zero {index d left : ℕ} {C : V} {draw : Draw V} {terms : List Bool}
    (hi : Independent key.g key.h) (h : orderTerm key index (some C) draw = .ok terms)
    (hall : ∀ term ∈ terms, term = true) (hleft : left < 2 ^ 64) (hd : d < 2 ^ 64)
    (hC : Holds key.g key.h C left) (hdraw : Holds key.g key.h draw.amountCommitment d) :
    left = 0 ∨ d = 0 := by
  cases hproof : draw.ordering with
  | none => simp [orderTerm, hproof] at h
  | some =>
    simp only [orderTerm, hproof, Except.ok.injEq] at h
    subst h
    have hverify := hall _ mem_cons_self
    obtain ⟨hl, hr, hp⟩ := ProductProof.verify_sound hverify
    have hleft' := hi.opens_unique hl hC
    have hright' := hi.opens_unique hr hdraw
    have hproduct := hi.opens_unique hp Opens.zero
    rw [hleft', hright', mul_eq_zero] at hproduct
    exact hproduct.imp (natCast_scalar_eq_zero (by omega)) (natCast_scalar_eq_zero (by omega))

theorem checkDraws_chained {Ts ds : List ℕ} {index : ℕ} {above : Option V} {left : Option ℕ}
    {tranches : List (Tranche V)} {draws : List (Draw V)} {batch : List Bool}
    (hi : Independent key.g key.h) (hbits : bits ≤ 64)
    (h : checkDraws key bits index above tranches draws = .ok batch)
    (hall : ∀ term ∈ batch, term = true) (hlen : draws.length = tranches.length)
    (hT : HoldAll key.g key.h (2 ^ bits) (tranches.map Tranche.commitment) Ts)
    (hd : HoldAll key.g key.h (2 ^ bits) (draws.map Draw.amountCommitment) ds)
    (habove : Above key above left) : Within Ts ds ∧ Chained left Ts ds := by
  have hpow : 2 ^ bits ≤ 2 ^ 64 := Nat.pow_le_pow_right (by omega) hbits
  induction tranches generalizing draws index above left batch Ts ds with
  | nil =>
    obtain rfl := length_eq_zero_iff.mp hlen
    cases hT
    cases hd
    exact ⟨nil, trivial⟩
  | cons tranche tranches ih =>
    cases draws with
    | nil => simp at hlen
    | cons =>
      cases hT with
      | @cons _ T _ Ts hT hTs =>
      cases hd with
      | @cons _ d _ ds hd hds =>
      simp only [checkDraws, ok_iff] at h
      obtain ⟨_, hcommit, hrange, term, hterm, terms, hterms, rfl⟩ := h
      rw [hcommit] at hrange
      obtain ⟨_, left', hleft', hholds⟩ := RangeProof.verifyMultiple_single hrange
      obtain ⟨hle, hleft⟩ := hi.le_of_holds_sub (by omega) (by omega) (by omega) hT.2 hd.2 hholds
      subst hleft
      obtain ⟨hwithin, hchain⟩ := ih hterms
        (fun t ht => hall t (mem_append_right _ ht)) (by simpa using hlen) hTs hds
        (show Above key (some _) (some (T - d)) from ⟨by omega, hholds⟩)
      refine ⟨cons hle hwithin, ?_, hchain⟩
      intro rest hrest
      subst hrest
      cases above with
      | none => cases habove
      | some =>
        exact orderTerm_zero hi hterm (fun t ht => hall t (mem_append_left _ ht)) habove.1
          (by omega) habove.2 hd.2

theorem check_sound_iff {Ts : List ℕ} (hi : Independent w.key.g w.key.h)
    (hvec : w.tranches.length < 2 ^ 64)
    (hT : HoldAll w.key.g w.key.h (2 ^ w.bits) w.commitments Ts) (hc : w.check r = .ok ()) :
    Sound w.key w.bits Ts r ↔ Covered w.key w.bits Ts r := by
  obtain ⟨hlen, hbits, ⟨S, hS, hshortfall⟩, batch, hbatch, hall⟩ := check_ok hc
  have hpow : 2 ^ w.bits ≤ 2 ^ 64 := Nat.pow_le_pow_right (by omega) hbits
  constructor
  · rintro ⟨S', ds, _, hS', hds, _, hsum, _, htakes⟩
    refine ⟨ds, hds, ?_, ?_⟩
    · have hresidual := Opens.sub hS' hds.sum
      rwa [hsum, sub_self] at hresidual
    · rw [htakes]
      exact (takes_inOrder Ts (Or.inl rfl)).gapsInOrder
  · rintro ⟨ds, hds, hresidual, hgaps⟩
    obtain ⟨hwithin, hchain⟩ :=
      checkDraws_chained hi hbits hbatch hall hlen hT hds
        (show Above w.key none none from trivial)
    have horder := inOrder_of_chained hchain hgaps (fun _ => Or.inl rfl)
    -- fewer than 2 ^ 64 draws of at most 64 bits do not wrap around the group order
    have hle := hds.sum_le
    have hcount : r.amounts.length < 2 ^ 64 := by simpa [Resolution.amounts, hlen] using hvec
    have hbound : ds.sum < 2 ^ 252 := by
      calc ds.sum ≤ r.amounts.length * 2 ^ w.bits := hle
        _ ≤ 2 ^ 64 * 2 ^ 64 := Nat.mul_le_mul (by omega) hpow
        _ < 2 ^ 252 := by norm_num
    have hsumS : Holds w.key.g w.key.h r.shortfallCommitment ds.sum := by
      have hadd := Opens.add hresidual hds.sum
      have hcancel : residual r + r.amounts.sum = r.shortfallCommitment := by simp [residual]
      rw [zero_add, hcancel] at hadd
      exact hadd
    have hsum := hi.holds_unique hsumS hshortfall hbound (by omega)
    have htakes : ds = takes S Ts := hsum ▸ horder.eq_takes hwithin
    exact ⟨S, ds, hS, hshortfall, hds, hwithin, hsum, htakes ▸ takes_exhausts S Ts, htakes⟩

end Check

section Complete

variable [Module Scalar V] {w : Waterfall V}

theorem commitU64_sub {balance amount : ℕ} (key : Pedersen V) (hle : amount ≤ balance)
    (blinding drawn : Scalar) :
    key.commitU64 balance blinding - key.commitU64 amount drawn =
      key.commitU64 (balance - amount) (blinding - drawn) := by
  simp only [Pedersen.commitU64, Nat.cast_sub hle, sub_smul]
  abel

theorem sum_drawBlindings (blinding : Scalar) (randoms : List Scalar) :
    (drawBlindings blinding randoms).sum = blinding := by
  simp [drawBlindings]

theorem buildDraws_amounts {held : List (ℕ × Scalar)} {amounts : List ℕ} {drawn : List Scalar}
    (index : ℕ) (above : Option (ℕ × Scalar)) (hamounts : amounts.length = held.length)
    (hdrawn : drawn.length = held.length) :
    (w.buildDraws index above held (amounts.zip drawn)).map Draw.amountCommitment =
      zipWith w.key.commitU64 amounts drawn := by
  induction held generalizing amounts drawn index above with
  | nil =>
    obtain rfl := length_eq_zero_iff.mp hamounts
    rfl
  | cons _ _ ih =>
    obtain ⟨_, amounts, rfl⟩ := exists_cons_of_length_eq_add_one hamounts
    obtain ⟨_, drawn, rfl⟩ := exists_cons_of_length_eq_add_one hdrawn
    simp only [length_cons, Nat.add_right_cancel_iff] at hamounts hdrawn
    simp [buildDraws, ih _ _ hamounts hdrawn]

variable [DecidableEq V]

theorem verifyMultiple_honest {bits n : ℕ} (key : Pedersen V) (hbits : supportedBits bits = true)
    (hn : n < 2 ^ bits) (blinding : Scalar) (ctx : WaterfallContext) :
    RangeProof.verifyMultiple ⟨ctx, [(n, blinding)]⟩ 1 key.g key.h ctx [key.commitU64 n blinding]
      bits = true := by
  have hone : aggregable 1 1 = true := by decide
  simp [RangeProof.verifyMultiple, hbits, hone, opensTo, hn, Pedersen.commitU64]

theorem verify_product_honest {left right : ℕ} (key : Pedersen V) (hzero : left = 0 ∨ right = 0)
    (leftBlinding rightBlinding : Scalar) (ctx : WaterfallContext) :
    ProductProof.verify ⟨ctx, left, leftBlinding, right, rightBlinding, 0⟩ key.g key.h ctx
      (key.commitU64 left leftBlinding) (key.commitU64 right rightBlinding) 0 = true := by
  have hproduct : (left : Scalar) * (right : Scalar) = 0 := by
    rcases hzero with h | h <;> simp [h]
  simp [ProductProof.verify, Pedersen.commitU64, hproduct]

/-- The greedy draw leaves nothing above it, or it draws nothing. -/
theorem checkDraws_honest (hbits : supportedBits w.bits = true) {tranches : List (Tranche V)}
    {balances : List ℕ} {blindings drawn : List Scalar} {shortfall : ℕ}
    {above : Option (ℕ × Scalar)} (index : ℕ) (hrange : ∀ balance ∈ balances, balance < 2 ^ w.bits)
    (hopen : tranches.map Tranche.commitment = zipWith w.key.commitU64 balances blindings)
    (hblindings : blindings.length = balances.length) (hdrawn : drawn.length = balances.length)
    (habove : ∀ a ∈ above, a.1 = 0 ∨ shortfall = 0) :
    ∃ batch, checkDraws w.key w.bits index (above.map fun a => w.key.commitU64 a.1 a.2) tranches
        (w.buildDraws index above (balances.zip blindings) ((takes shortfall balances).zip drawn)) =
      .ok batch ∧ ∀ term ∈ batch, term = true := by
  induction balances generalizing blindings drawn tranches index above shortfall with
  | nil => exact ⟨[], by cases tranches <;> rfl, by simp⟩
  | cons balance balances ih =>
    obtain ⟨blinding, blindings, rfl⟩ := exists_cons_of_length_eq_add_one hblindings
    obtain ⟨drawBlinding, drawn, rfl⟩ := exists_cons_of_length_eq_add_one hdrawn
    simp only [length_cons, Nat.add_right_cancel_iff] at hblindings hdrawn
    cases tranches with
    | nil => simp at hopen
    | cons tranche tranches =>
      simp only [map_cons, zipWith_cons_cons, cons.injEq] at hopen
      obtain ⟨hbalance, hbalances⟩ := forall_mem_cons.mp hrange
      have hleft := commitU64_sub w.key (Nat.min_le_left balance shortfall) blinding drawBlinding
      have hwithin := verifyMultiple_honest w.key hbits
        (lt_of_le_of_lt (Nat.sub_le balance (min balance shortfall)) hbalance)
        (blinding - drawBlinding) (.within index)
      have hnext : ∀ a ∈ some (balance - min balance shortfall, blinding - drawBlinding),
          a.1 = 0 ∨ shortfall - min balance shortfall = 0 := by
        simp
        omega
      obtain ⟨batch, hbatch, hall⟩ := ih (index + 1) hbalances hopen.2 hblindings hdrawn hnext
      simp only [Option.map_some] at hbatch
      cases above with
      | none =>
        refine ⟨batch, ?_, hall⟩
        simp [takes, buildDraws, checkDraws, require, hopen.1, hleft, hwithin, orderTerm, hbatch]
      | some a =>
        have hzero : a.1 = 0 ∨ min balance shortfall = 0 := by
          have := habove a rfl
          omega
        have horder := verify_product_honest w.key hzero a.2 drawBlinding (.order index)
        refine ⟨true :: batch, ?_, by simpa using hall⟩
        simp [takes, buildDraws, checkDraws, require, hopen.1, hleft, hwithin, orderTerm, horder,
          hbatch]

/-- What the prover has to know: each tranche opens to its balance, which is in range. -/
structure Opened (w : Waterfall V) (balances : List ℕ) (blindings : List Scalar) : Prop where
  balances_length : balances.length = w.tranches.length
  blindings_length : blindings.length = w.tranches.length
  opens : w.commitments = zipWith w.key.commitU64 balances blindings
  range : ∀ balance ∈ balances, balance < 2 ^ w.bits

variable {panics : Bool} {shortfall : ℕ} {shortfallBlinding : Scalar} {balances : List ℕ}
  {blindings randoms : List Scalar} {r : Resolution V} {amounts : List ℕ}

theorem check_build (hopen : w.Opened balances blindings)
    (hrandoms : randoms.length = w.tranches.length) (hrange : shortfall < 2 ^ w.bits)
    (hle : shortfall ≤ balances.sum)
    (h : w.build panics shortfall shortfallBlinding balances blindings randoms = .ok (r, amounts)) :
    amounts = takes shortfall balances ∧ amounts.sum = shortfall ∧ w.check r = .ok () := by
  simp only [build, ok_iff, Prod.mk.injEq] at h
  obtain ⟨_, _, _, _, hne, hbits, rfl, rfl⟩ := h
  have hlen : balances.length = w.tranches.length := hopen.balances_length
  have hsum : (takes shortfall balances).sum = shortfall := by rw [sum_takes, min_eq_left hle]
  have hdrawn : (drawBlindings shortfallBlinding randoms).length = balances.length := by
    have hpos := length_pos_iff.mpr hne
    simp [drawBlindings]
    omega
  refine ⟨rfl, hsum, ?_⟩
  have hheld : (balances.zip blindings).length = balances.length := by
    simp [hlen, hopen.blindings_length]
  have hamounts := buildDraws_amounts (w := w) 0 none
    ((length_takes shortfall balances).trans hheld.symm) (hdrawn.trans hheld.symm)
  have hcount := congrArg length hamounts
  simp only [length_map, length_zipWith, length_takes, hdrawn, min_self] at hcount
  have hshortfall := verifyMultiple_honest w.key hbits hrange shortfallBlinding .shortfall
  have hnone : ∀ a ∈ (none : Option (ℕ × Scalar)), a.1 = 0 ∨ shortfall = 0 := by simp
  obtain ⟨batch, hbatch, hall⟩ := checkDraws_honest hbits 0 hopen.range hopen.opens
    (hopen.blindings_length.trans hlen.symm) hdrawn hnone
  rw [Option.map_none] at hbatch
  have hresidual :=
    Reconcile.sum_commitU64 w.key (hdrawn.trans (length_takes shortfall balances).symm)
  rw [hsum, sum_drawBlindings] at hresidual
  simp only [check, ok_iff]
  refine ⟨hcount.trans hlen, trivial, hshortfall, batch, hbatch, by simpa using hall, ?_⟩
  simp [OpeningProof.verify, residual, Resolution.amounts, hamounts, hresidual, Pedersen.commitU64]

/-- With the openings of tranches in range `build` returns the greedy draws, and a resolution
that `check` accepts, exactly when the sum it has of the balances covers the shortfall. -/
theorem waterfall_completes_iff (panics : Bool) (shortfallBlinding : Scalar)
    (hbits : supportedBits w.bits = true) (hne : w.tranches ≠ [])
    (hopen : w.Opened balances blindings) (hrandoms : randoms.length = w.tranches.length)
    (hrange : shortfall < 2 ^ w.bits) (hle : shortfall ≤ balances.sum) :
    ((∃ r amounts, w.build panics shortfall shortfallBlinding balances blindings randoms =
          .ok (r, amounts) ∧
        amounts = takes shortfall balances ∧ amounts.sum = shortfall ∧ w.check r = .ok ()) ↔
      balances.sum < 2 ^ 64 ∨ panics = false ∧ shortfall ≤ balances.sum % 2 ^ 64) ∧
    (w.build panics shortfall shortfallBlinding balances blindings randoms = .error .panic ↔
      panics = true ∧ 2 ^ 64 ≤ balances.sum) := by
  have hlen := hopen.balances_length
  have hbalances : balances ≠ [] := by
    rintro rfl
    exact hne (length_eq_zero_iff.mp hlen.symm)
  have hfold : balances.foldlM (addU64 panics) 0 = addU64 panics 0 balances.sum :=
    foldlM_addU64 (by decide)
  rw [addU64, Nat.zero_add] at hfold
  -- once the sum is there, `build` stops at nothing but a shortfall above it
  have hrun : ∀ total, balances.foldlM (addU64 panics) 0 = some total → shortfall ≤ total →
      ∃ r amounts, w.build panics shortfall shortfallBlinding balances blindings randoms =
        .ok (r, amounts) ∧
        amounts = takes shortfall balances ∧ amounts.sum = shortfall ∧ w.check r = .ok () := by
    intro total htotal hcovers
    obtain ⟨r, amounts, hbuild⟩ :
        ∃ r amounts, w.build panics shortfall shortfallBlinding balances blindings randoms =
          .ok (r, amounts) := by
      simp [build, hlen, hopen.blindings_length, htotal, okOr, require, hcovers, hbalances, hbits]
    exact ⟨r, amounts, hbuild, check_build hopen hrandoms hrange hle hbuild⟩
  by_cases hfits : balances.sum < 2 ^ 64
  · rw [if_pos hfits] at hfold
    obtain ⟨r, amounts, hbuild, hchecked⟩ := hrun _ hfold hle
    refine ⟨⟨fun _ => .inl hfits, fun _ => ⟨r, amounts, hbuild, hchecked⟩⟩, ?_⟩
    simp [-Nat.reducePow, hbuild, hfits]
  · rw [if_neg hfits] at hfold
    cases panics with
    | true =>
      have hbuild : w.build true shortfall shortfallBlinding balances blindings randoms =
          .error .panic := by
        simp [build, bind, Except.bind, hlen, hopen.blindings_length, hfold, okOr, require]
      simp [-Nat.reducePow, hbuild, hfits, Nat.le_of_not_lt hfits]
    | false =>
      rw [if_neg (by simp)] at hfold
      by_cases hcovers : shortfall ≤ balances.sum % 2 ^ 64
      · obtain ⟨r, amounts, hbuild, hchecked⟩ := hrun _ hfold hcovers
        refine ⟨⟨fun _ => .inr ⟨rfl, hcovers⟩, fun _ => ⟨r, amounts, hbuild, hchecked⟩⟩, ?_⟩
        simp [hbuild]
      · have hbuild : w.build false shortfall shortfallBlinding balances blindings randoms =
            .error (.error "the shortfall exceeds what the waterfall holds") := by
          simp [-Nat.reducePow, build, bind, Except.bind, hlen, hopen.blindings_length, hfold, okOr,
            require, hcovers]
        simp [-Nat.reducePow, hbuild, hfits, hcovers]

end Complete
end Waterfall

/-- What identifies a resolution: the hashed shortfall and draws, kept as they are. -/
def resolutionId {V : Type} (r : Resolution V) : V × List V := (r.shortfallCommitment, r.amounts)

structure TrancheBook (V : Type) where
  tranches : List (Tranche V)
  applied : Finset (V × List V)

namespace TrancheBook

variable {V : Type} [AddCommGroup V] [Module Scalar V] [DecidableEq V]

def new (tranches : List (Tranche V)) : TrancheBook V := ⟨tranches, ∅⟩

def apply (key : Pedersen V) (bits : ℕ) (book : TrancheBook V) (r : Resolution V) :
    Except Stop (TrancheBook V) := do
  require (resolutionId r ∉ book.applied)
    (.error "this resolution has already been written down")
  let waterfall ← okOr (Waterfall.new key book.tranches bits) .panic
  Stop.lift (waterfall.check r)
  pure ⟨waterfall.applied r, insert (resolutionId r) book.applied⟩

def record (key : Pedersen V) (bits : ℕ) (s : TrancheBook V × List (Resolution V))
    (r : Resolution V) : Except Stop (TrancheBook V × List (Resolution V)) := do
  let book ← s.1.apply key bits r
  pure (book, r :: s.2)

def commitments (book : TrancheBook V) : List V := book.tranches.map Tranche.commitment

def CoveredStep (key : Pedersen V) (bits : ℕ) (s : TrancheBook V × List (Resolution V))
    (r : Resolution V) : Prop :=
  ∀ Ts, HoldAll key.g key.h (2 ^ bits) s.1.commitments Ts → Waterfall.Covered key bits Ts r

def Absorbs (key : Pedersen V) (bits total : ℕ) (s : TrancheBook V × List (Resolution V)) : Prop :=
  s.1.tranches.length < 2 ^ 64 ∧ ∃ Ts Ss,
    HoldAll key.g key.h (2 ^ bits) s.1.commitments Ts ∧
    HoldAll key.g key.h (2 ^ bits) (s.2.map Resolution.shortfallCommitment) Ss ∧
    Ts.sum + Ss.sum = total

variable {key : Pedersen V} {bits total : ℕ} {s t : TrancheBook V × List (Resolution V)}
  {r : Resolution V}

theorem record_ok (h : record key bits s r = .ok t) :
    ∃ w : Waterfall V, w.key = key ∧ w.bits = bits ∧ w.tranches = s.1.tranches ∧
      w.check r = .ok () ∧ t.1.tranches = w.applied r ∧ t.2 = r :: s.2 := by
  simp only [record, apply, Waterfall.new, ok_iff, Stop.lift_eq_ok] at h
  obtain ⟨_, ⟨_, w, hw, hcheck, rfl⟩, rfl⟩ := h
  split at hw
  · cases hw
  · cases hw
    exact ⟨_, rfl, rfl, rfl, hcheck, rfl, rfl⟩

theorem absorbs_record (hi : Independent key.g key.h) (hs : Absorbs key bits total s)
    (hcovered : CoveredStep key bits s r) (h : record key bits s r = .ok t) :
    Absorbs key bits total t := by
  obtain ⟨hvec, Ts, Ss, hT, hS, htotal⟩ := hs
  obtain ⟨w, rfl, rfl, htranches, hcheck, hafter, hlist⟩ := record_ok h
  rw [← htranches] at hvec
  have hT' : HoldAll w.key.g w.key.h (2 ^ w.bits) w.commitments Ts := by
    rw [Waterfall.commitments, htranches]
    exact hT
  obtain ⟨S, ds, hSb, hshortfall, hds, hwithin, hsum, _, _⟩ :=
    (Waterfall.check_sound_iff hi hvec hT' hcheck).mpr (hcovered Ts hT)
  obtain ⟨rest, hrest, hrestSum⟩ := Waterfall.holdAll_applied hT' hds hwithin
  refine ⟨?_, rest, S :: Ss, ?_, ?_, ?_⟩
  · rw [hafter, Waterfall.applied, length_zipWith]
    omega
  · rw [commitments, hafter]
    exact hrest
  · rw [hlist]
    exact cons ⟨hSb, hshortfall⟩ hS
  · simp only [sum_cons]
    omega

/-- Accepted resolutions are sound exactly when they are covered, and over a run
of covered resolutions the tranches stay in range and fall by the shortfalls. -/
theorem waterfall_sound_iff (key : Pedersen V) (bits : ℕ) (hi : Independent key.g key.h) :
    (∀ (tranches : List (Tranche V)) (r : Resolution V) (Ts : List ℕ),
        tranches.length < 2 ^ 64 →
        HoldAll key.g key.h (2 ^ bits) (tranches.map Tranche.commitment) Ts →
        Waterfall.check ⟨key, bits, tranches⟩ r = .ok () →
        (Waterfall.Sound key bits Ts r ↔ Waterfall.Covered key bits Ts r)) ∧
      ∀ (tranches : List (Tranche V)) (Ts : List ℕ) (rs : List (Resolution V)),
        tranches.length < 2 ^ 64 →
        HoldAll key.g key.h (2 ^ bits) (tranches.map Tranche.commitment) Ts →
        EachStep (record key bits) (IfAccepted (record key bits) (CoveredStep key bits))
          (TrancheBook.new tranches, []) rs →
        Absorbs key bits Ts.sum
          (runEvents (record key bits) (TrancheBook.new tranches, []) rs) := by
  constructor
  · intro tranches r Ts hvec hT hc
    exact Waterfall.check_sound_iff hi hvec hT hc
  · intro tranches Ts rs hvec hT hrun
    have hstart : Absorbs key bits Ts.sum (TrancheBook.new tranches, []) :=
      ⟨hvec, Ts, [], hT, List.Forall₂.nil, rfl⟩
    exact hrun.invariant_accepted (fun _ _ _ hs hcovered h => absorbs_record hi hs hcovered h) hstart

end TrancheBook

section Sample

def sampleTranches (Ts : List ℕ) : List (Tranche Plane) := Ts.map fun T => ⟨"", (T, 0)⟩

def sampleDraws : ℕ → Option ℕ → List (ℕ × Scalar) → List (Draw Plane)
  | index, above, (left, amount) :: rest =>
    ⟨index, (amount, 0), ⟨.within index, [(left, 0)]⟩, (left, 0),
      above.map fun a => ⟨.order index, a, 0, amount, 0, 0⟩⟩ ::
      sampleDraws (index + 1) (some left) rest
  | _, _, [] => []

def sampleResolution (shortfall : ℕ) (draws : List (ℕ × Scalar)) (residual : Scalar) :
    Resolution Plane :=
  ⟨(shortfall, 0), ⟨.shortfall, [(shortfall, 0)]⟩, (shortfall, 0), sampleDraws 0 none draws,
    ⟨.balance, residual, 0⟩⟩

def sampleWaterfall (bits : ℕ) (Ts : List ℕ) : Waterfall Plane :=
  ⟨planeKey, bits, sampleTranches Ts⟩

theorem waterfall_completes_iff_sample :
    ∃ r, (sampleWaterfall 8 [5, 7]).build true 6 3 [5, 7] [0, 0] [4, 9] = .ok (r, [5, 1]) ∧
      (sampleWaterfall 8 [5, 7]).check r = .ok () := by
  have hopen : (sampleWaterfall 8 [5, 7]).Opened [5, 7] [0, 0] :=
    ⟨rfl, rfl, by decide +kernel, by decide⟩
  have hrandoms : ([4, 9] : List Scalar).length = (sampleTranches [5, 7]).length := rfl
  obtain ⟨hbuilds, _⟩ := Waterfall.waterfall_completes_iff true 3 (by decide)
    (by simp [sampleWaterfall, sampleTranches]) hopen hrandoms (show 6 < 2 ^ 8 by decide)
    (by decide)
  obtain ⟨r, _, hbuild, rfl, _, hcheck⟩ := hbuilds.mpr (.inl (by decide))
  exact ⟨r, hbuild, hcheck⟩

/-- The tranches hold the shortfall, whose draws `check` accepts, and `build` panics or,
where the sum wraps to zero, refuses. -/
theorem waterfall_build_overflows :
    (sampleWaterfall 64 [2 ^ 63, 2 ^ 63]).Opened [2 ^ 63, 2 ^ 63] [0, 0] ∧
      (sampleWaterfall 64 [2 ^ 63, 2 ^ 63]).check
        (sampleResolution 1 [(2 ^ 63 - 1, 1), (2 ^ 63, 0)] 0) = .ok () ∧
      (sampleWaterfall 64 [2 ^ 63, 2 ^ 63]).build true 1 0 [2 ^ 63, 2 ^ 63] [0, 0] [0, 0] =
        .error .panic ∧
      (sampleWaterfall 64 [2 ^ 63, 2 ^ 63]).build false 1 0 [2 ^ 63, 2 ^ 63] [0, 0] [0, 0] =
        .error (.error "the shortfall exceeds what the waterfall holds") :=
  ⟨⟨rfl, rfl, by decide +kernel, by decide⟩, by decide +kernel, rfl, rfl⟩

theorem sampleTranches_holdAll {Ts : List ℕ} (h : ∀ T ∈ Ts, T < 2 ^ 8) :
    HoldAll planeKey.g planeKey.h (2 ^ 8) ((sampleTranches Ts).map Tranche.commitment) Ts := by
  induction Ts with
  | nil => exact nil
  | cons T Ts ih =>
    obtain ⟨hT, hTs⟩ := forall_mem_cons.mp h
    exact cons ⟨hT, holds_plane.mpr rfl⟩ (ih hTs)

theorem sampleDraws_amounts (index : ℕ) (above : Option ℕ) (draws : List (ℕ × Scalar)) :
    (sampleDraws index above draws).map Draw.amountCommitment =
      draws.map fun d => (d.2, 0) := by
  induction draws generalizing index above with
  | nil => rfl
  | cons d draws ih => simp [sampleDraws, ih]

theorem holdAll_values {cs : List Plane} {ds : List ℕ} {M : ℕ}
    (h : HoldAll planeKey.g planeKey.h M cs ds) : cs.map Prod.fst = ds.map Nat.cast := by
  induction h with
  | nil => rfl
  | cons hC _ ih => simp [ih, holds_plane.mp hC.2]

theorem sampleResolution_unsound {shortfall : ℕ} {draws : List (ℕ × Scalar)} {residual : Scalar}
    {Ts : List ℕ} (hlt : shortfall < 2 ^ 8)
    (hne : draws.map Prod.snd ≠ (takes shortfall Ts).map Nat.cast) :
    ¬ Waterfall.Sound planeKey 8 Ts (sampleResolution shortfall draws residual) := by
  rintro ⟨S, ds, hS, hholds, hds, _, _, _, rfl⟩
  have hvalue := holds_plane.mp hholds
  obtain rfl := natCast_scalar_inj (by omega) (by omega) hvalue
  have hvalues := holdAll_values hds
  simp only [Resolution.amounts, sampleResolution, sampleDraws_amounts, map_map] at hvalues
  exact hne hvalues

theorem waterfall_sound_iff_sample :
    Waterfall.Sound planeKey 8 [5, 7] (sampleResolution 6 [(0, 5), (6, 1)] 0) ∧
      TrancheBook.Absorbs planeKey 8 12 (runEvents (TrancheBook.record planeKey 8)
        (TrancheBook.new (sampleTranches [5, 7]), []) [sampleResolution 6 [(0, 5), (6, 1)] 0]) := by
  obtain ⟨hcheck, hrun⟩ := TrancheBook.waterfall_sound_iff planeKey 8 planeKey_independent
  have hT : HoldAll planeKey.g planeKey.h (2 ^ 8)
      ((sampleTranches [5, 7]).map Tranche.commitment) [5, 7] :=
    sampleTranches_holdAll (by decide)
  have hdraws : HoldAll planeKey.g planeKey.h (2 ^ 8)
      (sampleResolution 6 [(0, 5), (6, 1)] 0).amounts [5, 1] :=
    .cons ⟨by decide, holds_plane.mpr rfl⟩ (.cons ⟨by decide, holds_plane.mpr rfl⟩ .nil)
  have hcovered : Waterfall.Covered planeKey 8 [5, 7] (sampleResolution 6 [(0, 5), (6, 1)] 0) :=
    ⟨[5, 1], hdraws, ⟨0, by decide +kernel⟩, by simp [GapsInOrder]⟩
  refine ⟨(hcheck _ _ _ (by decide) hT (by decide +kernel)).mpr hcovered,
    hrun _ _ _ (by decide) hT ⟨?_, by split <;> trivial⟩⟩
  intro _ Ts hTs
  have hsame : Ts = [5, 7] := HoldAll.unique planeKey_independent (by decide) hTs hT
  exact hsame ▸ hcovered

/-- Accepted although nothing is drawn, although a draw is negative, and
although the third tranche is drawn before the first. -/
theorem waterfall_accepts_unsound :
    (Waterfall.check ⟨planeKey, 8, sampleTranches [5, 7]⟩
          (sampleResolution 6 [(5, 0), (7, 0)] 6) = .ok () ∧
        ¬ Waterfall.Sound planeKey 8 [5, 7] (sampleResolution 6 [(5, 0), (7, 0)] 6)) ∧
      (Waterfall.check ⟨planeKey, 8, sampleTranches [5]⟩ (sampleResolution 0 [(8, -3)] 3) =
          .ok () ∧
        ¬ Waterfall.Sound planeKey 8 [5] (sampleResolution 0 [(8, -3)] 3)) ∧
      Waterfall.check ⟨planeKey, 8, sampleTranches [5, 0, 7]⟩
          (sampleResolution 3 [(5, 0), (0, 0), (4, 3)] 0) = .ok () ∧
        ¬ Waterfall.Sound planeKey 8 [5, 0, 7]
          (sampleResolution 3 [(5, 0), (0, 0), (4, 3)] 0) := by
  refine ⟨⟨by decide +kernel, sampleResolution_unsound (by decide) (by decide +kernel)⟩,
    ⟨by decide +kernel, sampleResolution_unsound (by decide) (by decide +kernel)⟩,
    by decide +kernel, sampleResolution_unsound (by decide) (by decide +kernel)⟩

end Sample
end DeFMI
