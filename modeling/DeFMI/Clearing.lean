import DeFMI.Lib.Posting
import DeFMI.Netting
import DeFMI.Waterfall
set_option autoImplicit false

/-!
The clearing house. Novation replaces every signed obligation by two that run through
the house; a third party redoes the rewriting, checks both signatures of every edge and
the house's attestation of the set, and the net positions are accumulated from the
rewritten graph.
-/

namespace DeFMI.Clearing
open Lib Table List Prod

inductive KeyPurpose where
  | settlementInstruction
  | attestation

structure Crypto (V : Type) where
  encode : V → Bytes
  sha256 : Bytes → Bytes
  verify : KeyPurpose → Bytes → Bytes → Bytes → Bool

structure HybridSigner where
  publicKey : Bytes
  sign : KeyPurpose → Bytes → Option Bytes

structure Obligation (V : Type) where
  payer : Bytes
  payee : Bytes
  asset : String
  commitment : V
  deriving DecidableEq

structure SignedObligation (V : Type) where
  obligation : Obligation V
  byPayer : Bytes
  byPayee : Bytes
  deriving DecidableEq

structure Novation (V : Type) where
  house : Bytes
  asset : String
  before : List (SignedObligation V)
  after : List (Obligation V)
  owedToHouse : V
  owedByHouse : V

structure Attestation where
  provider : String
  handle : Bytes
  cycle : Bytes
  digest : Bytes
  signature : Bytes
  edges : ℕ
  asset : String

structure ClearingProvider where
  name : String
  handle : Bytes
  signing : HybridSigner

/-- The default order, with the position of the provider's own layer in it. -/
structure ProviderWaterfall (V : Type) where
  provider : String
  tranches : List (Tranche V)
  own : ℕ

structure Admitted (V : Type) where
  handle : Bytes
  identity : Bytes
  margin : Netting.CreditLine V
  waterfall : ProviderWaterfall V

structure ClearingRegistry (V : Type) where
  providers : Table String (Admitted V)

def ccpDomain : Bytes := utf8 "QOMM:DEFMI:CCP:v1"

section Signing

variable {V : Type}

section
variable (crypto : Crypto V)

def Obligation.body (o : Obligation V) : Bytes :=
  ccpDomain ++ utf8 ":obligation:" ++
    [o.payer, o.payee, utf8 o.asset].flatMap (fun part => beBytes 4 part.length ++ part) ++
    crypto.encode o.commitment

def attestationDigest (n : Novation V) (cycle : Bytes) : Bytes :=
  crypto.sha256 (ccpDomain ++ utf8 ":novation:" ++
    [cycle, n.house, utf8 n.asset].flatMap (fun field => beBytes 8 field.length ++ field) ++
    n.before.flatMap fun edge => edge.obligation.body crypto)

def signObligation (o : Obligation V) (payer payee : HybridSigner) :
    Result (SignedObligation V) := do
  let body := o.body crypto
  let byPayer ← okOr (payer.sign .settlementInstruction body) "payer hybrid signing failed"
  let byPayee ← okOr (payee.sign .settlementInstruction body) "payee hybrid signing failed"
  pure ⟨o, byPayer, byPayee⟩

def checkAgreement (edge : SignedObligation V) (payer payee : Bytes) : Check := do
  let body := edge.obligation.body crypto
  require (crypto.verify .settlementInstruction payer body edge.byPayer = true)
    "the payer did not sign this"
  require (crypto.verify .settlementInstruction payee body edge.byPayee = true)
    "the payee did not sign this"

def checkAttestation (attestation : Attestation) (n : Novation V) (provider : Bytes) : Check := do
  require (attestation.digest = attestationDigest crypto n attestation.cycle)
    "the attestation is over a different trade set"
  require (crypto.verify .attestation provider attestation.digest attestation.signature = true)
    "not signed by that provider"

def ClearingProvider.attest (provider : ClearingProvider) (n : Novation V) (cycle : Bytes) :
    Result Attestation := do
  let digest := attestationDigest crypto n cycle
  let signature ← okOr (provider.signing.sign .attestation digest)
    "hybrid clearing attestation signing failed"
  pure ⟨provider.name, provider.handle, cycle, digest, signature, n.before.length, n.asset⟩

/-- One signature for each key and each obligation it signs. -/
def SignsOnce : Prop :=
  ∀ key body signature signature',
    crypto.verify .settlementInstruction key body signature = true →
      crypto.verify .settlementInstruction key body signature' = true → signature = signature'

end

end Signing

section Novation

variable {V : Type}

def halves (house : Bytes) (asset : String) (edge : SignedObligation V) : List (Obligation V) :=
  [⟨edge.obligation.payer, house, asset, edge.obligation.commitment⟩,
    ⟨house, edge.obligation.payee, asset, edge.obligation.commitment⟩]

def Novation.obligations (n : Novation V) : List (Obligation V) := n.before.map (·.obligation)

variable [AddCommGroup V]

def ClearingProvider.novate (provider : ClearingProvider) (edges : List (SignedObligation V)) :
    Result (Novation V) := do
  let first ← okOr edges.head? "nothing to novate"
  let asset := first.obligation.asset
  require (∀ edge ∈ edges, edge.obligation.asset = asset) "an obligation graph is per asset"
  let total := (edges.map fun edge => edge.obligation.commitment).sum
  pure ⟨provider.handle, asset, edges, edges.flatMap (halves provider.handle asset), total, total⟩

def netPositions (n : Novation V) : Table Bytes (V × V) :=
  n.after.foldl (fun out edge =>
    if edge.payer = n.house then out.post edge.payee (0, edge.commitment)
    else out.post edge.payer (edge.commitment, 0)) ∅

variable [DecidableEq V]

def checkEdge (house : Bytes) (asset : String) (index : ℕ) (o first second : Obligation V) :
    Check := do
  require (first.payer = o.payer ∧ first.payee = house)
    s!"edge {index} does not run from its payer to the house"
  require (second.payer = house ∧ second.payee = o.payee)
    s!"edge {index} does not run from the house to its payee"
  require (first.commitment = o.commitment ∧ second.commitment = o.commitment)
    s!"edge {index} changed amount on the way through"
  require (o.asset = asset ∧ first.asset = asset ∧ second.asset = asset)
    s!"edge {index} is in another asset"

/-- Two rewritten edges are read for each original one, and both totals are run up. -/
def checkEdges (house : Bytes) (asset : String) : ℕ → List (SignedObligation V) →
    List (Obligation V) → V × V → Result (V × V)
  | index, edge :: edges, first :: second :: rest, (toHouse, byHouse) => do
    checkEdge house asset index edge.obligation first second
    checkEdges house asset (index + 1) edges rest
      (toHouse + first.commitment, byHouse + second.commitment)
  | _, _, _, totals => .ok totals

def checkNovation (house : Bytes) (n : Novation V) : Check := do
  require (n.house = house) "novated by a different house than the one being checked"
  let edges := n.before.length
  let became := n.after.length
  let expected := 2 * n.before.length
  require (became = expected) s!"{edges} edges became {became}, not {expected}"
  let totals ← checkEdges house n.asset 0 n.before n.after (0, 0)
  require (totals = (n.owedToHouse, n.owedByHouse))
    "the published totals are not the totals of the edges"
  require (totals.1 = totals.2)
    "the house's book is not flat: it owes something other than what it is owed"

end Novation

section Registry

variable {V : Type} [AddCommGroup V] [Module Scalar V] [DecidableEq V]

def ProviderWaterfall.ownCapital (w : ProviderWaterfall V) : Option (Tranche V) :=
  w.tranches[w.own]?

def forProvider (provider : String)
    (defaulterMargin defaulterFund providerCapital mutualised : V) : ProviderWaterfall V :=
  ⟨provider, [⟨provider ++ ":defaulter margin", defaulterMargin⟩,
    ⟨provider ++ ":defaulter fund contribution", defaulterFund⟩,
    ⟨provider ++ ":provider capital", providerCapital⟩,
    ⟨provider ++ ":mutualised pool", mutualised⟩], 2⟩

namespace ClearingRegistry

def new : ClearingRegistry V := ⟨∅⟩

def admitProvider (registry : ClearingRegistry V) (ctx : Netting.CreditCtx V)
    (provider : ClearingProvider)
    (margin : Netting.CreditLine V) (waterfall : ProviderWaterfall V) :
    Result (ClearingRegistry V) := do
  let name := provider.name
  let built := waterfall.provider
  require (waterfall.ownCapital.isSome = true)
    s!"{name}: no tranche of its own, so its attestation costs it nothing to get wrong"
  require (built = name) s!"{name}: a waterfall built for {built}"
  require (margin.handle = provider.handle)
    s!"{name}: the margin is under another handle, so it is not this provider that is margined"
  (ctx.check margin).mapError fun why => s!"{name}: the margin's backing proof: {why}"
  pure ⟨registry.providers.insert name
    ⟨provider.handle, provider.signing.publicKey, margin, waterfall⟩⟩

def checkSigned (crypto : Crypto V) (parties : Table Bytes Bytes) (index : ℕ)
    (edge : SignedObligation V) : Check := do
  let payer ← okOr (parties.lookup edge.obligation.payer)
    s!"edge {index}: the payer is not a known party"
  let payee ← okOr (parties.lookup edge.obligation.payee)
    s!"edge {index}: the payee is not a known party"
  (checkAgreement crypto edge payer payee).mapError fun why => s!"edge {index}: {why}"

/-- Everything a third party can establish about one cleared cycle. -/
def checkCycle (registry : ClearingRegistry V) (crypto : Crypto V) (attestation : Attestation)
    (n : Novation V) (parties : Table Bytes Bytes) : Check := do
  let provider := attestation.provider
  let entry ← okOr (registry.providers.lookup provider) s!"{provider} is not an admitted provider"
  require (entry.handle = n.house) "novated under a handle this provider did not register"
  checkNovation entry.handle n
  forEach (fun edge : SignedObligation V × ℕ => checkSigned crypto parties edge.2 edge.1)
    n.before.zipIdx
  checkAttestation crypto attestation n entry.identity

end ClearingRegistry

end Registry

section Positions

variable {V : Type} [AddCommGroup V] {house : Bytes} {asset : String}

def owedBy (p : Bytes) (obligations : List (Obligation V)) : V :=
  ((obligations.filter fun o => o.payer = p).map (·.commitment)).sum

def owedTo (p : Bytes) (obligations : List (Obligation V)) : V :=
  ((obligations.filter fun o => o.payee = p).map (·.commitment)).sum

@[simp] theorem owedBy_cons (p : Bytes) (o : Obligation V) (os : List (Obligation V)) :
    owedBy p (o :: os) = (if o.payer = p then o.commitment else 0) + owedBy p os := by
  by_cases h : o.payer = p
  · simp [owedBy, h]
  · simp [owedBy, h]

@[simp] theorem owedTo_cons (p : Bytes) (o : Obligation V) (os : List (Obligation V)) :
    owedTo p (o :: os) = (if o.payee = p then o.commitment else 0) + owedTo p os := by
  by_cases h : o.payee = p
  · simp [owedTo, h]
  · simp [owedTo, h]

/-- The account an edge of the rewritten graph is posted to, and what is posted. -/
def account (house : Bytes) (edge : Obligation V) : Bytes :=
  if edge.payer = house then edge.payee else edge.payer

def posting (house : Bytes) (edge : Obligation V) : V × V :=
  if edge.payer = house then (0, edge.commitment) else (edge.commitment, 0)

theorem netPositions_eq (n : Novation V) :
    netPositions n = postAll (account n.house) (posting n.house) ∅ n.after := by
  unfold netPositions postAll
  congr 1
  funext out edge
  unfold account posting
  split
  · rfl
  · rfl

/-- The first half of an edge the house pays runs from the house to itself, so it is
posted as a claim of the house and not as an obligation. -/
theorem standing_first (p payer : Bytes) (c : V) :
    (if p = account house ⟨payer, house, asset, c⟩ then posting house ⟨payer, house, asset, c⟩
      else 0) =
      (if p = house then 0 else if payer = p then c else 0,
        if p = house then if payer = house then c else 0 else 0) := by
  simp only [account, posting]
  by_cases hpayer : payer = house
  · by_cases hp : p = house
    · simp [hpayer, hp]
    · simp [hpayer, hp, Ne.symm hp, Prod.ext_iff]
  · by_cases hp : p = house
    · simp [hpayer, hp, Ne.symm hpayer, Prod.ext_iff]
    · by_cases hpp : payer = p
      · simp [hp, hpp]
      · simp [hpayer, hp, hpp, Ne.symm hpp, Prod.ext_iff]

theorem standing_second (p payee : Bytes) (c : V) :
    (if p = account house ⟨house, payee, asset, c⟩ then posting house ⟨house, payee, asset, c⟩
      else 0) = (0, if payee = p then c else 0) := by
  simp only [account, posting]
  by_cases hpayee : payee = p
  · simp [hpayee]
  · simp [hpayee, Ne.symm hpayee, Prod.ext_iff]

theorem standing_edges (edges : List (SignedObligation V)) (p : Bytes) :
    ((edges.flatMap (halves house asset)).map fun e =>
        if p = account house e then posting house e else 0).sum =
      (if p = house then 0 else owedBy p (edges.map (·.obligation)),
        owedTo p (edges.map (·.obligation)) +
          if p = house then owedBy house (edges.map (·.obligation)) else 0) := by
  induction edges with
  | nil => simp [owedBy, owedTo, Prod.ext_iff]
  | cons edge edges ih =>
    rw [flatMap_cons, map_append, sum_append, ih]
    simp only [halves, map_cons, map_nil, sum_cons, sum_nil, standing_first,
      standing_second, owedBy_cons, owedTo_cons]
    by_cases hp : p = house
    · simp only [if_pos hp, Prod.ext_iff, fst_add, snd_add, fst_zero, snd_zero]
      constructor <;> abel
    · simp only [if_neg hp, Prod.ext_iff, fst_add, snd_add, fst_zero, snd_zero]
      constructor <;> abel

theorem total_edges (edges : List (SignedObligation V)) :
    ((edges.flatMap (halves house asset)).map (posting house)).sum =
      ((edges.map fun edge => edge.obligation.commitment).sum -
          owedBy house (edges.map (·.obligation)),
        (edges.map fun edge => edge.obligation.commitment).sum +
          owedBy house (edges.map (·.obligation))) := by
  induction edges with
  | nil => simp [owedBy, Prod.ext_iff]
  | cons edge edges ih =>
    rw [flatMap_cons, map_append, sum_append, ih]
    simp only [halves, posting, map_cons, map_nil, sum_cons, sum_nil,
      owedBy_cons, if_true]
    by_cases hpayer : edge.obligation.payer = house
    · simp only [if_pos hpayer, Prod.ext_iff, fst_add, snd_add, fst_zero,
        snd_zero]
      constructor <;> abel
    · simp only [if_neg hpayer, Prod.ext_iff, fst_add, snd_add, fst_zero,
        snd_zero]
      constructor <;> abel

variable [DecidableEq V] {edges : List (SignedObligation V)} {n : Novation V} {u : Unit} {index : ℕ}

omit [AddCommGroup V] in
theorem checkEdge_ok {o first second : Obligation V}
    (h : checkEdge house asset index o first second = .ok u) :
    first = ⟨o.payer, house, asset, o.commitment⟩ ∧
      second = ⟨house, o.payee, asset, o.commitment⟩ ∧ o.asset = asset := by
  simp only [checkEdge, ok_iff] at h
  obtain ⟨⟨hpayer, hhouse⟩, ⟨hhouse', hpayee⟩, ⟨hfirst, hsecond⟩, hasset, hasset', hasset''⟩ := h
  obtain ⟨_, _, _, _⟩ := first
  obtain ⟨_, _, _, _⟩ := second
  subst hpayer hhouse hpayee hfirst hsecond hasset hasset'
  exact ⟨rfl, by simp_all, rfl⟩

theorem checkEdges_ok {after : List (Obligation V)}
    {totals totals' : V × V} (hlength : after.length = 2 * edges.length)
    (h : checkEdges house asset index edges after totals = .ok totals') :
    after = edges.flatMap (halves house asset) ∧ ∀ edge ∈ edges, edge.obligation.asset = asset := by
  induction edges generalizing index after totals with
  | nil =>
    have hafter : after = [] := length_eq_zero_iff.mp hlength
    simp [hafter]
  | cons edge edges ih =>
    match after with
    | [] => simp at hlength
    | [_] => simp at hlength; omega
    | first :: second :: rest =>
      simp only [checkEdges, ok_iff] at h
      obtain ⟨hedge, hrest⟩ := h
      obtain ⟨rfl, rfl, hasset⟩ := checkEdge_ok hedge
      obtain ⟨rfl, hassets⟩ := ih (by simp at hlength; omega) hrest
      exact ⟨rfl, forall_mem_cons.mpr ⟨hasset, hassets⟩⟩

theorem checkEdges_halves {totals : V × V}
    (hassets : ∀ edge ∈ edges, edge.obligation.asset = asset) :
    checkEdges house asset index edges (edges.flatMap (halves house asset)) totals =
      .ok (totals.1 + (edges.map fun edge => edge.obligation.commitment).sum,
        totals.2 + (edges.map fun edge => edge.obligation.commitment).sum) := by
  induction edges generalizing index totals with
  | nil => simp [checkEdges]
  | cons edge edges ih =>
    obtain ⟨hasset, hassets⟩ := forall_mem_cons.mp hassets
    have hhalves : (edge :: edges).flatMap (halves house asset) =
        ⟨edge.obligation.payer, house, asset, edge.obligation.commitment⟩ ::
          ⟨house, edge.obligation.payee, asset, edge.obligation.commitment⟩ ::
            edges.flatMap (halves house asset) := rfl
    rw [hhalves, checkEdges, bind_eq_ok]
    refine ⟨(), by simp [checkEdge, hasset], ?_⟩
    rw [ih hassets]
    simp [add_assoc]

theorem checkNovation_ok (h : checkNovation house n = .ok u) :
    n.house = house ∧ n.after = n.before.flatMap (halves n.house n.asset) ∧
      ∀ edge ∈ n.before, edge.obligation.asset = n.asset := by
  simp only [checkNovation, ok_iff] at h
  obtain ⟨hhouse, hlength, _, hedges, _⟩ := h
  rw [hhouse]
  exact ⟨rfl, checkEdges_ok hlength hedges⟩

theorem standing_netPositions (h : checkNovation house n = .ok u) (p : Bytes) :
    (netPositions n).standing p =
      (if p = n.house then 0 else owedBy p n.obligations,
        owedTo p n.obligations + if p = n.house then owedBy n.house n.obligations else 0) := by
  obtain ⟨_, hafter, _⟩ := checkNovation_ok h
  rw [netPositions_eq, standing_postAll, hafter, standing_edges, standing_empty,
    zero_add]
  rfl

theorem checkNovation_novate {provider : ClearingProvider} (h : provider.novate edges = .ok n) :
    checkNovation provider.handle n = .ok () := by
  simp only [ClearingProvider.novate, ok_iff] at h
  obtain ⟨first, _, hassets, rfl⟩ := h
  have hlength : (edges.flatMap (halves provider.handle first.obligation.asset)).length =
      2 * edges.length := by
    rw [length_flatMap]
    simp [halves, Nat.mul_comm]
  simp only [checkNovation, ok_iff, exists_const, true_and]
  exact ⟨hlength, _, checkEdges_halves hassets, by simp, rfl⟩

/-- What a third party's check accepts is what the house makes of the same edges, and nothing else. -/
theorem novate_eq_ok_iff {provider : ClearingProvider} {edges : List (SignedObligation V)}
    {n : Novation V} : provider.novate edges = .ok n ↔
      edges ≠ [] ∧ n.before = edges ∧ checkNovation provider.handle n = .ok () := by
  constructor
  · intro h
    have hchecked := checkNovation_novate h
    simp only [ClearingProvider.novate, ok_iff] at h
    obtain ⟨first, hfirst, _, rfl⟩ := h
    exact ⟨ne_nil_of_mem (mem_of_head? hfirst), rfl, hchecked⟩
  · rintro ⟨hne, rfl, h⟩
    obtain ⟨hhouse, hafter, hassets⟩ := checkNovation_ok h
    simp only [checkNovation, ok_iff] at h
    obtain ⟨_, _, totals, hedges, rfl, _⟩ := h
    rw [hafter, hhouse, checkEdges_halves hassets, zero_add] at hedges
    obtain ⟨hto, hby⟩ := Prod.mk.inj (Except.ok.inj hedges)
    have hfirst := head?_eq_some_head hne
    generalize n.before.head hne = first at hfirst
    have hasset : first.obligation.asset = n.asset := hassets first (mem_of_head? hfirst)
    simp only [ClearingProvider.novate, ok_iff]
    refine ⟨first, hfirst, by rwa [hasset], ?_⟩
    rw [hasset, ← hhouse, ← hafter]
    exact congr (congrArg _ hto) hby

theorem standing_own_iff (h : checkNovation house n = .ok u) :
    (∀ p, (netPositions n).standing p = (owedBy p n.obligations, owedTo p n.obligations)) ↔
      owedBy n.house n.obligations = 0 := by
  constructor
  · intro hpositions
    have hhouse := hpositions n.house
    rw [standing_netPositions h, if_pos rfl] at hhouse
    exact (Prod.ext_iff.mp hhouse).1.symm
  · intro hpaid p
    rw [standing_netPositions h, hpaid]
    by_cases hp : p = n.house
    · simp [hp, hpaid]
    · simp [hp]

/-- The net positions are the parties' own, and as much is owed as is claimed, exactly
when what the house itself pays among the original edges comes to nothing. -/
theorem netPositions_own_iff {n : Novation V} (h : checkNovation house n = .ok ()) :
    ((∀ p, (netPositions n).standing p = (owedBy p n.obligations, owedTo p n.obligations)) ∧
        (total (fun _ position => position) (netPositions n)).1 =
          (total (fun _ position => position) (netPositions n)).2) ↔
      owedBy house n.obligations = 0 := by
  obtain ⟨rfl, hafter, _⟩ := checkNovation_ok h
  rw [standing_own_iff h, and_iff_left_iff_imp]
  intro hpaid
  have htotal : owedBy n.house (n.before.map (·.obligation)) = 0 := hpaid
  rw [netPositions_eq, total_postAll, hafter, total_edges, htotal]
  simp

def sampleEdge (payer payee : Bytes) (n : ℕ) : SignedObligation Plane :=
  ⟨⟨payer, payee, "an instrument", ((n : Scalar), 0)⟩, [1], [1]⟩

def sampleNovation (edges : List (SignedObligation Plane)) : Novation Plane :=
  let total := (edges.map fun edge => edge.obligation.commitment).sum
  ⟨[9], "an instrument", edges, edges.flatMap (halves [9] "an instrument"), total, total⟩

theorem netPositions_own_iff_sample :
    let n := sampleNovation [sampleEdge [1] [2] 5, sampleEdge [2] [9] 3]
    (netPositions n).standing [2] = (owedBy [2] n.obligations, owedTo [2] n.obligations) ∧
      (netPositions n).standing [2] = ((3, 0), (5, 0)) := by
  intro n
  have hpaid : owedBy [9] n.obligations = 0 := by decide +kernel
  have hchecked : checkNovation [9] n = .ok () := by decide +kernel
  exact ⟨((netPositions_own_iff hchecked).mpr hpaid).1 [2], by decide +kernel⟩

/-- What the house owes a member stands as a claim of the house. -/
theorem house_debt_claimed :
    let n := sampleNovation [sampleEdge [9] [1] 5]
    checkNovation [9] n = .ok () ∧ owedBy [9] n.obligations = (5, 0) ∧
      (netPositions n).standing [9] = ((0, 0), (5, 0)) ∧
      total (fun _ position => position) (netPositions n) = ((0, 0), (10, 0)) := by
  decide +kernel

end Positions

section Agreement

variable {V : Type} {registry : ClearingRegistry V} {crypto : Crypto V}
  {attestation : Attestation} {n : Novation V} {parties : Table Bytes Bytes}

theorem checkSigned_ok {index : ℕ} {edge : SignedObligation V} {u : Unit}
    (h : ClearingRegistry.checkSigned crypto parties index edge = .ok u) :
    ∃ payer payee, parties.lookup edge.obligation.payer = some payer ∧
      parties.lookup edge.obligation.payee = some payee ∧
      crypto.verify .settlementInstruction payer (edge.obligation.body crypto) edge.byPayer = true ∧
      crypto.verify .settlementInstruction payee (edge.obligation.body crypto) edge.byPayee =
        true := by
  simp only [ClearingRegistry.checkSigned, checkAgreement, ok_iff, mapError_eq_ok] at h
  obtain ⟨payer, hpayer, payee, hpayee, hbyPayer, hbyPayee⟩ := h
  exact ⟨payer, payee, hpayer, hpayee, hbyPayer, hbyPayee⟩

variable [AddCommGroup V] [DecidableEq V]

theorem checkCycle_ok {u : Unit}
    (h : registry.checkCycle crypto attestation n parties = .ok u) :
    checkNovation n.house n = .ok () ∧
      ∀ edge ∈ n.before, ∃ index, ClearingRegistry.checkSigned crypto parties index edge = .ok () := by
  simp only [ClearingRegistry.checkCycle, ok_iff, forEach_eq_ok] at h
  obtain ⟨entry, _, hhouse, hnovation, hsigned, _⟩ := h
  rw [hhouse] at hnovation
  refine ⟨hnovation, fun edge hedge => ?_⟩
  obtain ⟨index, hindex, rfl⟩ := mem_iff_getElem.mp hedge
  exact ⟨index, hsigned (n.before[index], index)
    (mk_mem_zipIdx_iff_getElem?.mpr (getElem?_eq_getElem hindex))⟩

def setPosition (obligations : Finset (Obligation V)) (p : Bytes) : V × V :=
  (∑ o ∈ obligations with o.payer = p, o.commitment,
    ∑ o ∈ obligations with o.payee = p, o.commitment)

theorem setPosition_of_nodup {obligations : List (Obligation V)} (h : obligations.Nodup)
    (p : Bytes) :
    setPosition obligations.toFinset p = (owedBy p obligations, owedTo p obligations) := by
  have hfilter : ∀ q : Obligation V → Bool, ∑ o ∈ obligations.toFinset with q o = true,
      o.commitment = ((obligations.filter q).map (·.commitment)).sum := by
    intro q
    rw [← toFinset_filter, sum_toFinset _ (h.filter q)]
  simpa [setPosition, owedBy, owedTo] using
    And.intro (hfilter fun o => o.payer = p) (hfilter fun o => o.payee = p)

theorem edge_eq_of_obligation_eq (once : SignsOnce crypto)
    (h : registry.checkCycle crypto attestation n parties = .ok ()) {edge edge' : SignedObligation V}
    (hedge : edge ∈ n.before) (hedge' : edge' ∈ n.before)
    (heq : edge.obligation = edge'.obligation) : edge = edge' := by
  obtain ⟨_, hsigned⟩ := checkCycle_ok h
  obtain ⟨_, hcheck⟩ := hsigned edge hedge
  obtain ⟨_, hcheck'⟩ := hsigned edge' hedge'
  obtain ⟨payer, payee, hpayer, hpayee, hbyPayer, hbyPayee⟩ := checkSigned_ok hcheck
  obtain ⟨payer', payee', hpayer', hpayee', hbyPayer', hbyPayee'⟩ := checkSigned_ok hcheck'
  rw [← heq] at hpayer' hpayee' hbyPayer' hbyPayee'
  obtain rfl := Option.some.inj (hpayer.symm.trans hpayer')
  obtain rfl := Option.some.inj (hpayee.symm.trans hpayee')
  have hsame := once _ _ _ _ hbyPayer hbyPayer'
  have hsame' := once _ _ _ _ hbyPayee hbyPayee'
  cases edge
  cases edge'
  simp_all

/-- An accepted cycle counts what the parties signed, once each, exactly when no signed
edge is listed twice and the edges the house itself pays come to nothing. -/
theorem counts_agreed_once_iff (once : SignsOnce crypto)
    (h : registry.checkCycle crypto attestation n parties = .ok ()) :
    (n.obligations.Nodup ∧
        ∀ p, (netPositions n).standing p = setPosition n.obligations.toFinset p) ↔
      n.before.Nodup ∧ owedBy n.house n.obligations = 0 := by
  obtain ⟨hnovation, _⟩ := checkCycle_ok h
  have hnodup : n.obligations.Nodup ↔ n.before.Nodup :=
    ⟨List.Nodup.of_map _, fun hbefore => hbefore.map_on fun edge hedge edge' hedge' heq =>
      edge_eq_of_obligation_eq once h hedge hedge' heq⟩
  rw [← hnodup]
  refine and_congr_right fun hobligations => ?_
  simp only [setPosition_of_nodup hobligations]
  exact standing_own_iff hnovation

def sampleCrypto : Crypto Plane where
  encode c := beBytes 32 c.1.val ++ beBytes 32 c.2.val
  sha256 bytes := bytes
  verify _ key body signature := signature = key ++ body

theorem sampleCrypto_signsOnce : SignsOnce sampleCrypto := by
  intro key body signature signature' h h'
  simp only [sampleCrypto, decide_eq_true_eq] at h h'
  rw [h, h']

def sampleSigner (key : Bytes) : HybridSigner := ⟨key, fun _ body => some (key ++ body)⟩

def sampleHouse : ClearingProvider := ⟨"DeCCP-A", [9], sampleSigner [7]⟩

def sampleMargin : Netting.CreditLine Plane :=
  ⟨[9], "cash", (((8 : ℕ) : Scalar), 0), (((10 : ℕ) : Scalar), 0), 0,
    ⟨"qomm:credit:backing", [(20000, 0)]⟩, (((20000 : ℕ) : Scalar), 0)⟩

def sampleLayers : ProviderWaterfall Plane :=
  forProvider "DeCCP-A" (1, 0) (1, 0) (1, 0) (1, 0)

def sampleRegistry : ClearingRegistry Plane :=
  ⟨(∅ : Table String (Admitted Plane)).insert "DeCCP-A" ⟨[9], [7], sampleMargin, sampleLayers⟩⟩

theorem sampleRegistry_admitted :
    ClearingRegistry.new.admitProvider ⟨planeKey, 64⟩ sampleHouse sampleMargin sampleLayers =
      .ok sampleRegistry := by
  have hcheck : Netting.CreditCtx.check ⟨planeKey, 64⟩ sampleMargin = .ok () := by decide +kernel
  simp only [ClearingRegistry.admitProvider, hcheck]
  rfl

def sampleParties : Table Bytes Bytes :=
  ((∅ : Table Bytes Bytes).insert [1] [1]).insert [2] [2]

def agreedEdge (payer payee : Bytes) (n : ℕ) : SignedObligation Plane :=
  let o : Obligation Plane := ⟨payer, payee, "an instrument", ((n : Scalar), 0)⟩
  ⟨o, payer ++ o.body sampleCrypto, payee ++ o.body sampleCrypto⟩

def sampleAttestation (n : Novation Plane) : Attestation :=
  let digest := attestationDigest sampleCrypto n [1]
  ⟨"DeCCP-A", [9], [1], digest, [7] ++ digest, n.before.length, n.asset⟩

theorem counts_agreed_once_iff_sample :
    let n := sampleNovation [agreedEdge [1] [2] 5, agreedEdge [2] [1] 3]
    sampleRegistry.checkCycle sampleCrypto (sampleAttestation n) n sampleParties = .ok () ∧
      n.obligations.Nodup ∧ (netPositions n).standing [1] = ((5, 0), (3, 0)) := by
  intro n
  have hcycle : sampleRegistry.checkCycle sampleCrypto (sampleAttestation n) n sampleParties =
      .ok () := by decide +kernel
  have hcounted := (counts_agreed_once_iff sampleCrypto_signsOnce hcycle).mpr (by decide +kernel)
  exact ⟨hcycle, hcounted.1, by decide +kernel⟩

/-- One signed trade, listed twice by the house, is cleared twice. -/
theorem edge_counted_twice :
    let n := sampleNovation [agreedEdge [1] [2] 5, agreedEdge [1] [2] 5]
    ClearingRegistry.new.admitProvider ⟨planeKey, 64⟩ sampleHouse sampleMargin sampleLayers =
        .ok sampleRegistry ∧
      SignsOnce sampleCrypto ∧
      signObligation sampleCrypto (agreedEdge [1] [2] 5).obligation (sampleSigner [1])
        (sampleSigner [2]) = .ok (agreedEdge [1] [2] 5) ∧
      sampleRegistry.checkCycle sampleCrypto (sampleAttestation n) n sampleParties = .ok () ∧
      ¬n.obligations.Nodup ∧ (netPositions n).standing [1] = ((10, 0), (0, 0)) ∧
      setPosition n.obligations.toFinset [1] = ((5, 0), (0, 0)) := by
  intro n
  exact ⟨sampleRegistry_admitted, sampleCrypto_signsOnce, rfl, by decide +kernel,
    by decide +kernel, by decide +kernel, by decide +kernel⟩

end Agreement

section Binding

variable {V : Type} {crypto : Crypto V} {signed : KeyPurpose → Bytes → Bytes → Prop}

/-- A hash without collisions, points in one length, and signatures that are made for one
key and one message. -/
structure Crypto.Ideal (crypto : Crypto V) (signed : KeyPurpose → Bytes → Bytes → Prop) : Prop where
  hash : Function.Injective crypto.sha256
  point : Function.Injective crypto.encode
  length : ∀ v w, (crypto.encode v).length = (crypto.encode w).length
  made : ∀ {purpose key message signature},
    crypto.verify purpose key message signature = true → signed purpose key message
  one : ∀ {purpose key message key' message' signature},
    crypto.verify purpose key message signature = true →
      crypto.verify purpose key' message' signature = true → key = key' ∧ message = message'

def Obligation.Sized (o : Obligation V) : Prop :=
  o.payer.length < 2 ^ 32 ∧ o.payee.length < 2 ^ 32 ∧ (utf8 o.asset).length < 2 ^ 32

def Novation.Sized (n : Novation V) (cycle : Bytes) : Prop :=
  cycle.length < 2 ^ 32 ∧ n.house.length < 2 ^ 32 ∧ (utf8 n.asset).length < 2 ^ 32 ∧
    ∀ o ∈ n.obligations, o.Sized

theorem Obligation.body_eq (o : Obligation V) :
    o.body crypto = (ccpDomain ++ utf8 ":obligation:") ++ (counted 4 o.payer ++
      (counted 4 o.payee ++ (counted 4 (utf8 o.asset) ++ crypto.encode o.commitment))) := by
  simp [body, counted]

theorem Obligation.body_framed (ideal : crypto.Ideal signed) :
    Framed Obligation.Sized (Obligation.body crypto) := by
  intro o o' r s ho ho' h
  simp only [body_eq, append_assoc, append_cancel_left_eq] at h
  obtain ⟨hpayer, h⟩ := framed_counted 4 ho.1 ho'.1 h
  obtain ⟨hpayee, h⟩ := framed_counted 4 ho.2.1 ho'.2.1 h
  obtain ⟨hasset, h⟩ := framed_counted 4 ho.2.2 ho'.2.2 h
  obtain ⟨hcommitment, h⟩ := framed_fixed ideal.length ideal.point trivial trivial h
  have hasset := toUTF8_toList_inj hasset
  cases o
  cases o'
  simp_all

theorem attestationDigest_eq (n : Novation V) (cycle : Bytes) :
    attestationDigest crypto n cycle = crypto.sha256 ((ccpDomain ++ utf8 ":novation:") ++
      (counted 8 cycle ++ (counted 8 n.house ++ (counted 8 (utf8 n.asset) ++
        n.obligations.flatMap (Obligation.body crypto))))) := by
  simp [attestationDigest, counted, Novation.obligations, flatMap_map]

theorem attestationDigest_inj (ideal : crypto.Ideal signed) {n n' : Novation V}
    {cycle cycle' : Bytes} (hn : n.Sized cycle) (hn' : n'.Sized cycle')
    (h : attestationDigest crypto n cycle = attestationDigest crypto n' cycle') :
    cycle = cycle' ∧ n.house = n'.house ∧ n.asset = n'.asset ∧ n.obligations = n'.obligations := by
  have hwide {l : ℕ} (hl : l < 2 ^ 32) : l < 256 ^ 8 := by omega
  have hne (o : Obligation V) : o.body crypto ≠ [] := by
    simp [Obligation.body_eq, counted, ← length_eq_zero_iff]
  rw [attestationDigest_eq, attestationDigest_eq] at h
  replace h := append_cancel_left (ideal.hash h)
  obtain ⟨hcycle, h⟩ := framed_counted 8 (hwide hn.1) (hwide hn'.1) h
  obtain ⟨hhouse, h⟩ := framed_counted 8 (hwide hn.2.1) (hwide hn'.2.1) h
  obtain ⟨hasset, h⟩ := framed_counted 8 (hwide hn.2.2.1) (hwide hn'.2.2.1) h
  exact ⟨hcycle, hhouse, toUTF8_toList_inj hasset,
    (Obligation.body_framed ideal).stream hne hn.2.2.2 hn'.2.2.2 h⟩

variable [AddCommGroup V] [DecidableEq V]

theorem checkCycle_attested {registry : ClearingRegistry V} {attestation : Attestation}
    {n : Novation V} {parties : Table Bytes Bytes}
    (h : registry.checkCycle crypto attestation n parties = .ok ()) : ∃ identity,
    crypto.verify .attestation identity (attestationDigest crypto n attestation.cycle)
      attestation.signature = true := by
  simp only [ClearingRegistry.checkCycle, checkAttestation, ok_iff] at h
  obtain ⟨entry, -, -, -, -, hdigest, hverify⟩ := h
  exact ⟨entry.identity, hdigest ▸ hverify⟩

/-- A signed attestation stands for one cycle, house, asset and list of obligations, and both
parties of every edge have signed that obligation and no other under the same bytes. -/
theorem attestation_binds (ideal : crypto.Ideal signed) :
    (∀ n n' cycle cycle', n.Sized cycle → n'.Sized cycle' →
      attestationDigest crypto n cycle = attestationDigest crypto n' cycle' →
      cycle = cycle' ∧ n.house = n'.house ∧ n.asset = n'.asset ∧
        n.obligations = n'.obligations) ∧
    (∀ (registry registry' : ClearingRegistry V) a a' n n' parties parties',
      n.Sized a.cycle → n'.Sized a'.cycle →
      registry.checkCycle crypto a n parties = .ok () →
      registry'.checkCycle crypto a' n' parties' = .ok () → a.signature = a'.signature →
      a.cycle = a'.cycle ∧ n.house = n'.house ∧ n.asset = n'.asset ∧
        n.obligations = n'.obligations) ∧
    ∀ (registry : ClearingRegistry V) a n parties,
      registry.checkCycle crypto a n parties = .ok () → ∀ edge ∈ n.before,
      ∃ payer payee, parties.lookup edge.obligation.payer = some payer ∧
        parties.lookup edge.obligation.payee = some payee ∧
        signed .settlementInstruction payer (edge.obligation.body crypto) ∧
        signed .settlementInstruction payee (edge.obligation.body crypto) ∧
        ∀ o, o.Sized → edge.obligation.Sized → o.body crypto = edge.obligation.body crypto →
          o = edge.obligation := by
  refine ⟨fun _ _ _ _ => attestationDigest_inj ideal,
    fun _ _ a a' n n' _ _ hn hn' h h' hsame => ?_, fun _ a n parties h edge hedge => ?_⟩
  · obtain ⟨_, hverify⟩ := checkCycle_attested h
    obtain ⟨_, hverify'⟩ := checkCycle_attested h'
    exact attestationDigest_inj ideal hn hn' (ideal.one (hsame ▸ hverify) hverify').2
  · obtain ⟨_, hsigned⟩ := (checkCycle_ok h).2 edge hedge
    obtain ⟨payer, payee, hpayer, hpayee, hbyPayer, hbyPayee⟩ := checkSigned_ok hsigned
    refine ⟨payer, payee, hpayer, hpayee, ideal.made hbyPayer, ideal.made hbyPayee,
      fun o ho hedge hbody => ?_⟩
    exact (Obligation.body_framed ideal (r := []) (s := []) ho hedge (by rw [hbody])).1

end Binding

/-- Keys are single bytes, and a signature is the key before a message that was `made`. -/
def byteCrypto (made : List (Bytes × Bytes)) : Crypto Plane :=
  { sampleCrypto with
    verify _ key message signature := key.length = 1 && signature = key ++ message &&
      made.any fun m => m.1 = key && m.2 = message }

theorem byteCrypto_ideal (made : List (Bytes × Bytes)) :
    (byteCrypto made).Ideal fun _ key message => (key, message) ∈ made where
  hash _ _ h := h
  point c d h := by
    have hlt (x : Scalar) : x.val < 256 ^ 32 := x.val_lt.trans (by decide +kernel)
    obtain ⟨hfirst, hsecond⟩ := append_inj h (by simp)
    exact Prod.ext (ZMod.val_injective _ (beBytes_inj (hlt _) (hlt _) hfirst))
      (ZMod.val_injective _ (beBytes_inj (hlt _) (hlt _) hsecond))
  length _ _ := by simp [byteCrypto, sampleCrypto]
  made h := by simp_all [byteCrypto]
  one h h' := by
    simp only [byteCrypto, Bool.and_eq_true, decide_eq_true_eq] at h h'
    exact append_inj (h.1.2.symm.trans h'.1.2) (h.1.1.trans h'.1.1.symm)

def boundCycle : Novation Plane := sampleNovation [agreedEdge [1] [2] 5, agreedEdge [2] [1] 3]

def boundMade : List (Bytes × Bytes) :=
  ([7], attestationDigest sampleCrypto boundCycle [1]) :: boundCycle.obligations.flatMap
    fun o => [(o.payer, o.body sampleCrypto), (o.payee, o.body sampleCrypto)]

theorem attestation_binds_sample :
    sampleRegistry.checkCycle (byteCrypto boundMade) (sampleAttestation boundCycle) boundCycle
        sampleParties = .ok () ∧
      ∀ edge ∈ boundCycle.before, ∃ payer, sampleParties.lookup edge.obligation.payer = some payer ∧
        (payer, edge.obligation.body (byteCrypto boundMade)) ∈ boundMade := by
  refine (fun h => ⟨h, fun edge hedge => ?_⟩) (by decide +kernel)
  obtain ⟨payer, _, hpayer, _, hsigned, _⟩ :=
    (attestation_binds (byteCrypto_ideal boundMade)).2.2 _ _ _ _ h edge hedge
  exact ⟨payer, hpayer, hsigned⟩

end DeFMI.Clearing
