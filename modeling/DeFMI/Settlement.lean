import DeFMI.Ledger
set_option autoImplicit false

/-!
Delivery versus payment over two account ledgers: a package names the four
accounts the instruction fixes, carries one transfer per leg, and links both
legs to the instructed quantity and to quantity times price.
-/

namespace DeFMI
open Lib Option

/-- The zkPI instruction. What the venue alone reads (ranges, nullifier,
deadline, signatures) is one opaque envelope. -/
structure Instruction (V : Type) where
  payerHandle : V
  payeeHandle : V
  amountCommitment : V
  priceCommitment : V
  envelope : Bytes
  deriving DecidableEq

structure VenueApi (V Ven : Type) where
  verify : Ven → Instruction V → ℕ → Check
  settle : Ven → Instruction V → ℕ → Result Ven
  accountOf : V → String → Bytes
  nullifier : Instruction V → Bytes

structure DvpPackage (V : Type) where
  instruction : Instruction V
  securitiesFrom : Bytes
  securitiesTo : Bytes
  cashFrom : Bytes
  cashTo : Bytes
  securitiesLeg : Transfer V
  cashLeg : Transfer V
  quantityLink : CrossGeneratorProof String
  cashReference : V
  valueProof : ProductProof String
  cashLink : CrossGeneratorProof String

structure Sides where
  securitiesFrom : Bytes
  securitiesTo : Bytes
  cashFrom : Bytes
  cashTo : Bytes
  deriving DecidableEq

def securitiesRail : String := "securities"
def cashRail : String := "cash"

/-- The payee of the cash delivers the securities. -/
def Sides.of {V : Type} (accountOf : V → String → Bytes) (i : Instruction V) : Sides where
  securitiesFrom := accountOf i.payeeHandle securitiesRail
  securitiesTo := accountOf i.payerHandle securitiesRail
  cashFrom := accountOf i.payerHandle cashRail
  cashTo := accountOf i.payeeHandle cashRail

def securitiesContext : Bytes := utf8 "QOMM:DEFMI:DVP:v1:sec"
def cashContext : Bytes := utf8 "QOMM:DEFMI:DVP:v1:cash"

structure Defmi (V Ven : Type) where
  key : Pedersen V
  securities : Ledger V
  cash : Ledger V
  venue : Ven

structure Receipt (V : Type) where
  status : Check
  securitiesBefore : Table Bytes V
  securitiesAfter : Table Bytes V
  cashBefore : Table Bytes V
  cashAfter : Table Bytes V

section Package

variable {V Ven : Type}

/-- The value generator a leg's link is stated under. -/
def legGenerator (key : Pedersen V) (leg : Transfer V) : V :=
  match leg.tag with
  | some t => t.point
  | none => key.g

theorem legGenerator_eq_gens (l : Ledger V) (leg : Transfer V) :
    legGenerator l.key leg = (l.gens leg.tag).g := by
  unfold legGenerator Ledger.gens
  cases leg.tag with
  | none => rfl
  | some => rfl

variable [AddCommGroup V]

def Defmi.apply (api : VenueApi V Ven) (d : Defmi V Ven) (package : DvpPackage V) (now : ℕ) :
    Option (Defmi V Ven) := do
  let securities ← d.securities.applyTransfer package.securitiesFrom package.securitiesTo
    package.securitiesLeg
  let cash ← d.cash.applyTransfer package.cashFrom package.cashTo package.cashLeg
  let venue ← (api.settle d.venue package.instruction now).toOption
  some { d with securities, cash, venue }

variable {api : VenueApi V Ven} {d d' : Defmi V Ven} {package : DvpPackage V} {now : ℕ}

theorem Defmi.apply_some (h : d.apply api package now = some d') :
    d.securities.applyTransfer package.securitiesFrom package.securitiesTo package.securitiesLeg =
        some d'.securities ∧
      d.cash.applyTransfer package.cashFrom package.cashTo package.cashLeg = some d'.cash := by
  simp only [apply, bind_eq_bind, bind_eq_some_iff, some.injEq] at h
  obtain ⟨securities, hs, cash, hc, _, _, rfl⟩ := h
  exact ⟨hs, hc⟩

variable [Module Scalar V]

structure Instructed (key : Pedersen V) (i : Instruction V) (q p : ℕ) : Prop where
  quantity : Holds key.g key.h i.amountCommitment q
  price : Holds key.g key.h i.priceCommitment p
  quantity_lt : q < 2 ^ 64
  price_lt : p < 2 ^ 64

variable {key : Pedersen V} {q p : ℕ}

theorem Instructed.value_lt {i : Instruction V}
    (hq : Instructed key i q p) : q < 2 ^ 128 ∧ q * p < 2 ^ 128 := by
  have hprod : q * p < 2 ^ 64 * 2 ^ 64 := Nat.mul_lt_mul'' hq.quantity_lt hq.price_lt
  have hquantity := hq.quantity_lt
  omega

variable [DecidableEq V]

def linksHold (key : Pedersen V) (package : DvpPackage V) : Bool :=
  package.quantityLink.verify key.h "qomm:defmi:qty-link" (legGenerator key package.securitiesLeg)
      key.g package.securitiesLeg.amountCommitment package.instruction.amountCommitment &&
    package.valueProof.verify key.g key.h "qomm:defmi:value" package.instruction.priceCommitment
      package.instruction.amountCommitment package.cashReference &&
    package.cashLink.verify key.h "qomm:defmi:cash-link" (legGenerator key package.cashLeg)
      key.g package.cashLeg.amountCommitment package.cashReference

def verifyPackageLegsForSides (key : Pedersen V) (securities cash : Ledger V)
    (package : DvpPackage V) (who : Sides) : Check := do
  require (package.securitiesFrom = who.securitiesFrom ∧ package.securitiesTo = who.securitiesTo ∧
      package.cashFrom = who.cashFrom ∧ package.cashTo = who.cashTo)
    "the package names accounts the instruction does not"
  require (package.securitiesFrom ∈ securities.accounts ∧
      package.securitiesTo ∈ securities.accounts ∧
      package.cashFrom ∈ cash.accounts ∧ package.cashTo ∈ cash.accounts)
    "an account is not open"
  require (package.securitiesFrom ≠ package.securitiesTo) "securities legs share a handle"
  require (package.cashFrom ≠ package.cashTo) "cash legs share a handle"
  securities.checkTransfer package.securitiesFrom package.securitiesLeg securitiesContext true
  cash.checkTransfer package.cashFrom package.cashLeg cashContext true
  require (linksHold key package = true) "the legs do not match what the instruction says"

def Defmi.check (api : VenueApi V Ven) (d : Defmi V Ven) (package : DvpPackage V) (now : ℕ) :
    Check := do
  api.verify d.venue package.instruction now
  verifyPackageLegsForSides d.key d.securities d.cash package
    (Sides.of api.accountOf package.instruction)

def Defmi.receipt (d d' : Defmi V Ven) (status : Check) : Receipt V :=
  ⟨status, d.securities.snapshot, d'.securities.snapshot, d.cash.snapshot, d'.cash.snapshot⟩

/-- The settlement returns its receipt in every case; only a passed check moves anything. -/
def Defmi.settle (api : VenueApi V Ven) (d : Defmi V Ven) (package : DvpPackage V) (now : ℕ) :
    Option (Defmi V Ven × Receipt V) :=
  match d.check api package now with
  | .ok () => (d.apply api package now).map fun d' => (d', d.receipt d' (.ok ()))
  | .error message => some (d, d.receipt d (.error message))

theorem Defmi.settle_ok {r : Receipt V} (h : d.settle api package now = some (d', r))
    (hok : r.status = .ok ()) :
    d.check api package now = .ok () ∧ d.apply api package now = some d' := by
  unfold settle at h
  cases hc : d.check api package now with
  | ok =>
    simp only [hc, map_eq_some_iff, Prod.mk.injEq] at h
    obtain ⟨e, he, rfl, _⟩ := h
    exact ⟨rfl, he⟩
  | error =>
    simp only [hc, some.injEq, Prod.mk.injEq] at h
    obtain ⟨_, rfl⟩ := h
    cases hok

theorem Defmi.settle_of_check (hc : d.check api package now = .ok ())
    (ha : d.apply api package now = some d') :
    d.settle api package now = some (d', d.receipt d' (.ok ())) := by
  simp only [settle, hc, ha, map_some]

theorem Defmi.check_ok (h : d.check api package now = .ok ()) :
    api.verify d.venue package.instruction now = .ok () ∧
      package.securitiesFrom ≠ package.securitiesTo ∧ package.cashFrom ≠ package.cashTo ∧
      d.securities.checkTransfer package.securitiesFrom package.securitiesLeg
        securitiesContext true = .ok () ∧
      d.cash.checkTransfer package.cashFrom package.cashLeg cashContext true = .ok () ∧
      linksHold d.key package = true := by
  simp only [check, verifyPackageLegsForSides, ok_iff] at h
  obtain ⟨hv, _, _, hs, hc, hsec, hcash, hl⟩ := h
  exact ⟨hv, hs, hc, hsec, hcash, hl⟩

/-- The venue admits an instruction only with its amount and price proved in
range, which is why the legs carry no amount range of their own. -/
def VenueProvesRanges (api : VenueApi V Ven) (key : Pedersen V) : Prop :=
  ∀ venue i now, api.verify venue i now = .ok () → ∃ q p, Instructed key i q p

/-- One key throughout, and accounts that hold ranged values under the
securities generator `A` and the cash generator `C`. -/
structure Deployed (d : Defmi V Ven) (A C : V) : Prop where
  securities_key : d.securities.key = d.key
  cash_key : d.cash.key = d.key
  key_independent : Independent d.key.g d.key.h
  securities_independent : Independent A d.key.h
  cash_independent : Independent C d.key.h
  securities_backed : d.securities.Backed A
  cash_backed : d.cash.Backed C

theorem Instructed.link_values {Ctx : Type} [DecidableEq Ctx]
    {i : Instruction V} {x y : Scalar} {reference : V} {proof : ProductProof Ctx}
    {ctx : Ctx} (hq : Instructed key i q p) (hi : Independent key.g key.h)
    (hx : Opens key.g key.h i.amountCommitment x) (hy : Opens key.g key.h reference y)
    (hproof : proof.verify key.g key.h ctx i.priceCommitment i.amountCommitment reference = true) :
    x = (q : Scalar) ∧ y = ((q * p : ℕ) : Scalar) := by
  obtain ⟨hprice, hfactor, hproduct⟩ := ProductProof.verify_sound hproof
  have hleft := hi.opens_unique hprice hq.price
  have hright := hi.opens_unique hfactor hq.quantity
  have hvalue := hi.opens_unique hy hproduct
  refine ⟨hi.opens_unique hx hq.quantity, ?_⟩
  rw [hvalue, hleft, hright, Nat.cast_mul, mul_comm]

theorem linksHold_opens (hi : Independent key.g key.h)
    (h : linksHold key package = true) (hq : Instructed key package.instruction q p) :
    Holds (legGenerator key package.securitiesLeg) key.h
        package.securitiesLeg.amountCommitment q ∧
      Holds (legGenerator key package.cashLeg) key.h package.cashLeg.amountCommitment (q * p) := by
  simp only [linksHold, Bool.and_eq_true] at h
  obtain ⟨⟨hqty, hvalue⟩, hcash⟩ := h
  obtain ⟨hleg, hamount⟩ := CrossGeneratorProof.verify_sound hqty
  obtain ⟨hcashLeg, hreference⟩ := CrossGeneratorProof.verify_sound hcash
  obtain ⟨hx, hy⟩ := hq.link_values hi hamount hreference hvalue
  rw [hx] at hleg
  rw [hy] at hcashLeg
  exact ⟨hleg, hcashLeg⟩

/-- A settled package moves the instructed amounts, measured under the
accounts' own generators, exactly when each leg that moves anything was proved
under a blinding of its accounts' generator. -/
theorem settle_exact_iff {A C : V} {r : Receipt V} (hd : Deployed d A C)
    (hv : VenueProvesRanges api d.key) (hs : d.settle api package now = some (d', r))
    (hok : r.status = .ok ()) :
    ∃ q p, Instructed d.key package.instruction q p ∧
      ((Ledger.MovesExactly A d.securities d'.securities package.securitiesFrom
            package.securitiesTo q ∧
          Ledger.MovesExactly C d.cash d'.cash package.cashFrom package.cashTo (q * p)) ↔
        (q = 0 ∨ Reblinds A d.key.h (legGenerator d.key package.securitiesLeg)) ∧
          (q * p = 0 ∨ Reblinds C d.key.h (legGenerator d.key package.cashLeg))) := by
  obtain ⟨hcheck, happly⟩ := Defmi.settle_ok hs hok
  obtain ⟨hvenue, hsne, hcne, hsec, hcash, hlinks⟩ := Defmi.check_ok hcheck
  obtain ⟨hsapply, hcapply⟩ := Defmi.apply_some happly
  obtain ⟨q, p, hq⟩ := hv _ _ _ hvenue
  obtain ⟨hsopen, hcopen⟩ := linksHold_opens hd.key_independent hlinks hq
  obtain ⟨hqb, hqp⟩ := hq.value_lt
  have hgs := legGenerator_eq_gens d.securities package.securitiesLeg
  have hgc := legGenerator_eq_gens d.cash package.cashLeg
  rw [hd.securities_key] at hgs
  rw [hd.cash_key] at hgc
  refine ⟨q, p, hq, and_congr ?_ ?_⟩
  · rw [hgs] at hsopen ⊢
    have hi := hd.securities_independent
    rw [← hd.securities_key] at hsopen hi ⊢
    exact Ledger.movesExactly_iff hi hd.securities_backed hqb hsne hsec hsapply hsopen
  · rw [hgc] at hcopen ⊢
    have hi := hd.cash_independent
    rw [← hd.cash_key] at hcopen hi ⊢
    exact Ledger.movesExactly_iff hi hd.cash_backed hqp hcne hcash hcapply hcopen

end Package

section Sample

def sampleInstruction : Instruction Plane := ⟨(1, 0), (0, 1), (3, 0), (1, 0), []⟩

def sampleApi : VenueApi Plane Unit where
  verify _ i _ := require (i = sampleInstruction) "unknown instruction"
  settle _ _ _ := .ok ()
  accountOf handle rail :=
    if rail = securitiesRail then (if handle = (1, 0) then [1] else [2])
    else (if handle = (1, 0) then [3] else [4])
  nullifier i := i.envelope

def sampleDefmi : Defmi Plane Unit where
  key := planeKey
  securities := { Ledger.new planeKey 8 with
    accounts := ((∅ : Table Bytes Plane).insert [1] (0, 0)).insert [2] (10, 0) }
  cash := { Ledger.new planeKey 8 with
    accounts := ((∅ : Table Bytes Plane).insert [3] (5, 0)).insert [4] (0, 0) }
  venue := ()

def samplePackage (tag : Option (BlindedTag Plane)) (amount remainder : Plane) (left : ℕ) :
    DvpPackage Plane where
  instruction := sampleInstruction
  securitiesFrom := [2]
  securitiesTo := [1]
  cashFrom := [3]
  cashTo := [4]
  securitiesLeg := ⟨amount, none, remainder,
    ⟨Ledger.rangeContext "qomm:defmi:rem" securitiesContext tag, [(left, 0)]⟩, tag⟩
  cashLeg := ⟨(3, 0), none, (2, 0),
    ⟨Ledger.rangeContext "qomm:defmi:rem" cashContext none, [(2, 0)]⟩, none⟩
  quantityLink := ⟨"qomm:defmi:qty-link", 3, 0, 0⟩
  cashReference := (3, 0)
  valueProof := ⟨"qomm:defmi:value", 1, 0, 3, 0, 0⟩
  cashLink := ⟨"qomm:defmi:cash-link", 3, 0, 0⟩

def plainPackage : DvpPackage Plane := samplePackage none (3, 0) (7, 0) 7

def doubledPackage : DvpPackage Plane := samplePackage (some ⟨(2, 0)⟩) (6, 0) (4, 0) 2

theorem backed_of_units {l : Ledger Plane} (hkey : l.key = planeKey)
    (h : ∀ e ∈ l.accounts.entries, e.2.1.val < 2 ^ l.bits) : l.Backed planeKey.g := by
  intro handle c hc
  have hval : c.1.val < 2 ^ l.bits := h ⟨handle, c⟩ (AList.mem_lookup_iff.mp hc)
  refine ⟨c.1.val, hval, ?_⟩
  rw [hkey, holds_plane, ZMod.natCast_zmod_val]

theorem sample_deployed : Deployed sampleDefmi planeKey.g planeKey.g where
  securities_key := rfl
  cash_key := rfl
  key_independent := planeKey_independent
  securities_independent := planeKey_independent
  cash_independent := planeKey_independent
  securities_backed := backed_of_units rfl (by decide +kernel)
  cash_backed := backed_of_units rfl (by decide +kernel)

theorem sample_instructed : Instructed planeKey sampleInstruction 3 1 where
  quantity := holds_plane.mpr rfl
  price := holds_plane.mpr rfl
  quantity_lt := by norm_num
  price_lt := by norm_num

theorem sample_venueProvesRanges : VenueProvesRanges sampleApi planeKey := by
  intro venue i now h
  have hi : i = sampleInstruction := require_eq_ok.mp h
  exact ⟨3, 1, hi ▸ sample_instructed⟩

theorem settle_exact_iff_plain :
    ∃ d' r, sampleDefmi.settle sampleApi plainPackage 0 = some (d', r) ∧ r.status = .ok () ∧
      ∃ q p, Instructed planeKey plainPackage.instruction q p ∧
        Ledger.MovesExactly planeKey.g sampleDefmi.securities d'.securities [2] [1] q ∧
        Ledger.MovesExactly planeKey.g sampleDefmi.cash d'.cash [3] [4] (q * p) := by
  have hs : sampleDefmi.settle sampleApi plainPackage 0 = some (_, _) :=
    Defmi.settle_of_check (by decide +kernel) rfl
  obtain ⟨q, p, hq, hiff⟩ := settle_exact_iff sample_deployed sample_venueProvesRanges hs rfl
  obtain ⟨hsec, hcash⟩ := hiff.mpr ⟨Or.inr (Reblinds.refl _ _), Or.inr (Reblinds.refl _ _)⟩
  exact ⟨_, _, hs, rfl, q, p, hq, hsec, hcash⟩

/-- Settling the doubled package delivers six units for an instruction of three. -/
theorem settle_doubles_delivery :
    Deployed sampleDefmi planeKey.g planeKey.g ∧ VenueProvesRanges sampleApi planeKey ∧
      Instructed planeKey doubledPackage.instruction 3 1 ∧
      ∃ d' r, sampleDefmi.settle sampleApi doubledPackage 0 = some (d', r) ∧ r.status = .ok () ∧
        ¬ Ledger.MovesExactly planeKey.g sampleDefmi.securities d'.securities [2] [1] 3 := by
  have hs : sampleDefmi.settle sampleApi doubledPackage 0 = some (_, _) :=
    Defmi.settle_of_check (by decide +kernel) rfl
  refine ⟨sample_deployed, sample_venueProvesRanges, sample_instructed, _, _, hs, rfl, ?_⟩
  intro hmoves
  obtain ⟨c, e, c', e', v, w, _, he, _, he', _, _, hw, hwb, _, _, _, hafter⟩ := hmoves
  obtain rfl : ((0, 0) : Plane) = e := Option.some.inj he
  obtain rfl : ((0, 0) + (6, 0) : Plane) = e' := Option.some.inj he'
  have hw0 : w = 0 := natCast_scalar_eq_zero (lt_trans hwb (by decide)) (holds_plane.mp hw).symm
  subst hw0
  have hsix := holds_plane.mp hafter
  exact absurd hsix (by decide)

end Sample
end DeFMI
