import DeFMI.Ledger
import DeFMI.Lib.Schnorr
set_option autoImplicit false

/-!
Blinded asset tags and the proof that a tag, and if wanted a committed asset
name, belong to one position of a registry. The proof is a disjunction of
Schnorr relations, one branch for each registered asset, with one challenge
split over the branches.
-/

namespace DeFMI
open Lib List

inductive EncodedScalar where
  | canonical (s : Scalar)
  | malformed (bytes : Bytes)
  deriving DecidableEq

def EncodedScalar.scalar : EncodedScalar → Result Scalar
  | canonical s => .ok s
  | malformed _ => .error "confidential asset scalar is not canonical"

@[simp] theorem EncodedScalar.scalar_canonical (s : Scalar) : (canonical s).scalar = .ok s := rfl

structure AssetNames (V : Type) where
  generator : Id → V
  assetScalar : Id → Scalar

structure Registry where
  assets : List Id
  deriving DecidableEq

def maxAssets : ℕ := 64

def ascending : List Id → Bool
  | a :: b :: ids => decide (a.1 < b.1) && ascending (b :: ids)
  | _ => true

def Registry.validate (registry : Registry) : Check :=
  require (2 ≤ registry.assets.length ∧ registry.assets.length ≤ maxAssets ∧
      Id.zero ∉ registry.assets ∧ ascending registry.assets = true)
    "asset anonymity cohort must contain 2..64 sorted unique registered assets"

structure AssetProof where
  challenges : List EncodedScalar
  tagResponses : List EncodedScalar
  instructionResponses : List EncodedScalar
  deriving DecidableEq

/-- What the challenge hash reads, kept as its fields. -/
structure AssetTranscript (V : Type) where
  key : Pedersen V
  assets : List Id
  tag : V
  instruction : Option V
  context : Bytes
  announcements : List (V × Option V)

/-- Challenge share and responses of one branch; without an instruction there is
no second response and `w` is zero. -/
structure Branch where
  c : Scalar
  z : Scalar
  w : Scalar
  deriving DecidableEq

structure AssetCoins where
  k : Scalar
  l : Scalar
  branch : ℕ → Branch

section Proof

variable {V : Type} [AddCommGroup V] [Module Scalar V]

structure AssetStatement (V : Type) where
  key : Pedersen V
  registry : Registry
  tag : V
  instruction : Option V
  context : Bytes

def AssetStatement.transcript (statement : AssetStatement V)
    (announcements : List (V × Option V)) : AssetTranscript V :=
  ⟨statement.key, statement.registry.assets, statement.tag, statement.instruction,
    statement.context, announcements⟩

/-- The residuals a branch is about: `T - A_i` and `C - s_i G`. -/
def AssetStatement.announce (names : AssetNames V) (statement : AssetStatement V) (id : Id)
    (branch : Branch) : V × Option V :=
  (schnorrAnnouncement statement.key.h (statement.tag - names.generator id) branch.c branch.z,
    statement.instruction.map fun commitment =>
      schnorrAnnouncement statement.key.h (commitment - names.assetScalar id • statement.key.g)
        branch.c branch.w)

structure AssetWitness where
  asset : Id
  gamma : Scalar
  rho : Scalar

def AssetStatement.checkInstruction [DecidableEq V] (names : AssetNames V)
    (statement : AssetStatement V) (witness : AssetWitness) : Check :=
  match statement.instruction with
  | none => .ok ()
  | some commitment =>
    require (commitment = names.assetScalar witness.asset • statement.key.g +
        witness.rho • statement.key.h)
      "instruction and tag do not open to the same asset"

namespace AssetProof

section
variable (names : AssetNames V) (statement : AssetStatement V) (coins : AssetCoins)

/-- A position the prover has no witness for is simulated from random values. -/
def simulated (i : ℕ) : Branch :=
  { coins.branch i with w := if statement.instruction.isSome then (coins.branch i).w else 0 }

def announceAt (selected : ℕ) (row : Id × ℕ) : V × Option V :=
  if row.2 = selected then
    (coins.k • statement.key.h, statement.instruction.map fun _ => coins.l • statement.key.h)
  else statement.announce names row.1 (simulated statement coins row.2)

def share (oracle : AssetTranscript V → Scalar) (names : AssetNames V)
    (statement : AssetStatement V) (coins : AssetCoins) (selected : ℕ) : Scalar :=
  oracle (statement.transcript
      (statement.registry.assets.zipIdx.map (announceAt names statement coins selected))) -
    ((List.range statement.registry.assets.length).map fun i =>
      if i = selected then 0 else (coins.branch i).c).sum

def answered (witness : AssetWitness) (coins : AssetCoins) (selected : ℕ) (c : Scalar) (i : ℕ) :
    Branch :=
  if i = selected then
    { c := c
      z := coins.k + c * witness.gamma
      w := if statement.instruction.isSome then coins.l + c * witness.rho else 0 }
  else simulated statement coins i

def encode (linked : Bool) (branches : List Branch) : AssetProof where
  challenges := branches.map fun b => .canonical b.c
  tagResponses := branches.map fun b => .canonical b.z
  instructionResponses := if linked then branches.map fun b => .canonical b.w else []

def prove [DecidableEq V] (oracle : AssetTranscript V → Scalar) (names : AssetNames V)
    (statement : AssetStatement V) (witness : AssetWitness) (coins : AssetCoins) :
    Result AssetProof := do
  statement.registry.validate
  require (statement.tag ≠ 0) "confidential asset point is malformed or identity"
  let selected ← okOr (statement.registry.assets.idxOf? witness.asset) "asset is not registered"
  require (statement.tag = names.generator witness.asset + witness.gamma • statement.key.h)
    "asset tag witness does not match"
  statement.checkInstruction names witness
  pure (encode statement.instruction.isSome
    ((List.range statement.registry.assets.length).map
      (answered statement witness coins selected (share oracle names statement coins selected))))

def scalarAt (l : List EncodedScalar) (i : ℕ) : Result Scalar := do
  let encoded ← okOr l[i]? "panic: index out of bounds"
  encoded.scalar

def readBranch (proof : AssetProof) (linked : Bool) (i : ℕ) : Result Branch := do
  let c ← scalarAt proof.challenges i
  let z ← scalarAt proof.tagResponses i
  let w ← if linked then scalarAt proof.instructionResponses i else pure 0
  pure ⟨c, z, w⟩

def branches (proof : AssetProof) (statement : AssetStatement V) : Result (List Branch) :=
  mapEach (proof.readBranch statement.instruction.isSome)
    (List.range statement.registry.assets.length)

def announcements (bs : List Branch) : List (V × Option V) :=
  List.zipWith (statement.announce names) statement.registry.assets bs

end

def total (bs : List Branch) : Scalar := (bs.map Branch.c).sum

def verify [DecidableEq V] (oracle : AssetTranscript V → Scalar) (names : AssetNames V)
    (proof : AssetProof) (statement : AssetStatement V) : Check := do
  statement.registry.validate
  require (statement.tag ≠ 0) "confidential asset point is malformed or identity"
  require (proof.challenges.length = statement.registry.assets.length ∧
      proof.tagResponses.length = statement.registry.assets.length ∧
      proof.instructionResponses.length =
        if statement.instruction.isSome then statement.registry.assets.length else 0)
    "asset proof dimensions differ from the registered cohort"
  let bs ← proof.branches statement
  require (total bs = oracle (statement.transcript (announcements names statement bs)))
    "confidential asset membership/link proof failed"

/-- The first position at which the shares differ, with the secrets the two answers
there give away. -/
def extract : List Branch → List Branch → Option (ℕ × Scalar × Scalar)
  | b :: bs, b' :: bs' =>
    if b.c = b'.c then (extract bs bs').map fun found => (found.1 + 1, found.2)
    else some (0, schnorrExtract b.c b'.c b.z b'.z, schnorrExtract b.c b'.c b.w b'.w)
  | _, _ => none

section Completeness

variable {names : AssetNames V} {statement : AssetStatement V} {witness : AssetWitness}
  {coins : AssetCoins} {selected : ℕ}

theorem announce_answered [DecidableEq V] {c : Scalar}
    (htag : statement.tag = names.generator witness.asset + witness.gamma • statement.key.h)
    (hinstruction : statement.checkInstruction names witness = .ok ()) :
    statement.announce names witness.asset (answered statement witness coins selected c selected) =
      (coins.k • statement.key.h, statement.instruction.map fun _ => coins.l • statement.key.h) := by
  have hfirst : statement.tag - names.generator witness.asset =
      witness.gamma • statement.key.h := by rw [htag]; abel
  have htagAnswer := schnorrAnnouncement_response hfirst c coins.k
  cases hlink : statement.instruction with
  | none => simp [AssetStatement.announce, answered, hlink, htagAnswer]
  | some commitment =>
    simp only [AssetStatement.checkInstruction, hlink, require_eq_ok] at hinstruction
    have hsecond : commitment - names.assetScalar witness.asset • statement.key.g =
        witness.rho • statement.key.h := by rw [hinstruction]; abel
    have hlinkAnswer := schnorrAnnouncement_response hsecond c coins.l
    simp [AssetStatement.announce, answered, hlink, htagAnswer, hlinkAnswer]

theorem announcements_answered [DecidableEq V] {c : Scalar}
    (hselected : statement.registry.assets[selected]? = some witness.asset)
    (htag : statement.tag = names.generator witness.asset + witness.gamma • statement.key.h)
    (hinstruction : statement.checkInstruction names witness = .ok ()) :
    announcements names statement ((range statement.registry.assets.length).map
        (answered statement witness coins selected c)) =
      statement.registry.assets.zipIdx.map (announceAt names statement coins selected) := by
  apply ext_getElem?
  intro i
  simp only [announcements, getElem?_zipWith, getElem?_map, getElem?_zipIdx,
    Nat.zero_add]
  by_cases hi : i < statement.registry.assets.length
  · have hrange : (range statement.registry.assets.length)[i]? = some i := by simp [hi]
    have hid : statement.registry.assets[i]? = some statement.registry.assets[i] := by simp [hi]
    simp only [hrange, hid, Option.map_some, announceAt]
    by_cases hsel : i = selected
    · subst hsel
      have hasset : statement.registry.assets[i] = witness.asset :=
        Option.some.inj (hid.symm.trans hselected)
      simp only [if_true, hasset]
      rw [announce_answered htag hinstruction]
    · simp [hsel, answered]
  · simp [hi]

omit [AddCommGroup V] [Module Scalar V] in
theorem total_answered {c : Scalar} (hselected : selected < statement.registry.assets.length) :
    total ((range statement.registry.assets.length).map
        (answered statement witness coins selected c)) =
      c + ((range statement.registry.assets.length).map fun i =>
        if i = selected then 0 else (coins.branch i).c).sum := by
  have hsplit : ∀ i, (answered statement witness coins selected c i).c =
      (if i = selected then c else 0) + if i = selected then 0 else (coins.branch i).c := by
    intro i
    by_cases hi : i = selected <;> simp [answered, simulated, hi]
  have hone : ((range statement.registry.assets.length).map
      fun i => if i = selected then c else 0).sum = c := by
    rw [sum_map_ite_eq]
    simp [count_range, hselected]
  simp only [total, map_map, Function.comp_def, hsplit, sum_map_add, hone]

omit [AddCommGroup V] [Module Scalar V] in
theorem readBranch_encode {linked : Bool} {bs : List Branch} {b : Branch} {i : ℕ}
    (hb : bs[i]? = some b) (hw : linked = false → b.w = 0) :
    (encode linked bs).readBranch linked i = .ok b := by
  cases linked with
  | false =>
    have hzero := hw rfl
    simp [readBranch, scalarAt, encode, hb, okOr, ← hzero]
  | true => simp [readBranch, scalarAt, encode, hb, okOr]

omit [AddCommGroup V] [Module Scalar V] in
theorem branches_encode (statement : AssetStatement V) (f : ℕ → Branch)
    (hw : ∀ i, statement.instruction.isSome = false → (f i).w = 0) :
    (encode statement.instruction.isSome
        ((range statement.registry.assets.length).map f)).branches statement =
      .ok ((range statement.registry.assets.length).map f) := by
  rw [branches, mapEach_eq_ok, forall₂_map_right_iff, forall₂_same]
  intro i hi
  refine readBranch_encode ?_ (hw i)
  simp [mem_range.mp hi]

theorem prove_ok [DecidableEq V] {oracle : AssetTranscript V → Scalar} {proof : AssetProof}
    (h : prove oracle names statement witness coins = .ok proof) :
    ∃ selected, statement.registry.validate = .ok () ∧ statement.tag ≠ 0 ∧
      statement.registry.assets.idxOf? witness.asset = some selected ∧
      statement.tag = names.generator witness.asset + witness.gamma • statement.key.h ∧
      statement.checkInstruction names witness = .ok () ∧
      proof = encode statement.instruction.isSome
        ((range statement.registry.assets.length).map (answered statement witness coins
          selected (share oracle names statement coins selected))) := by
  simp only [prove, ok_iff] at h
  obtain ⟨hvalid, htag, selected, hselected, hgamma, hinstruction, rfl⟩ := h
  exact ⟨selected, hvalid, htag, hselected, hgamma, hinstruction, rfl⟩

theorem verify_prove [DecidableEq V] {oracle : AssetTranscript V → Scalar} {proof : AssetProof}
    (h : prove oracle names statement witness coins = .ok proof) :
    proof.verify oracle names statement = .ok () := by
  obtain ⟨selected, hvalid, htag, hfind, hgamma, hinstruction, rfl⟩ := prove_ok h
  obtain ⟨hlt, hasset⟩ := idxOf?_eq_some_iff.mp hfind
  have hselected : statement.registry.assets[selected]? = some witness.asset := by
    simpa [hlt] using hasset.1
  have hbranches := branches_encode statement (answered statement witness coins selected
    (share oracle names statement coins selected)) (by
      intro i hnone
      by_cases hi : i = selected <;> simp [answered, simulated, hi, hnone])
  simp only [verify, ok_iff]
  refine ⟨hvalid, htag, ?_, _, hbranches, ?_⟩
  · cases statement.instruction.isSome <;> simp [encode]
  · rw [total_answered hlt, announcements_answered hselected hgamma hinstruction, share]
    abel

end Completeness

section Extraction

variable {names : AssetNames V} {statement : AssetStatement V}

/-- Equal announcements and different totals: at the first position where the
shares differ, both residuals are multiples of `h`. -/
theorem extract_sound (ids : List Id) (bs bs' : List Branch) (hlength : bs.length = ids.length)
    (hlength' : bs'.length = ids.length)
    (hsame : zipWith (statement.announce names) ids bs =
      zipWith (statement.announce names) ids bs')
    (htotal : total bs ≠ total bs') :
    ∃ i id gamma rho, extract bs bs' = some (i, gamma, rho) ∧ ids[i]? = some id ∧
      statement.tag - names.generator id = gamma • statement.key.h ∧
      ∀ commitment, statement.instruction = some commitment →
        commitment - names.assetScalar id • statement.key.g = rho • statement.key.h := by
  induction ids generalizing bs bs' with
  | nil => grind
  | cons id ids ih =>
    obtain ⟨b, bs, rfl⟩ := exists_cons_of_length_eq_add_one hlength
    obtain ⟨b', bs', rfl⟩ := exists_cons_of_length_eq_add_one hlength'
    simp only [zipWith_cons_cons, cons.injEq, AssetStatement.announce,
      Prod.mk.injEq] at hsame
    obtain ⟨⟨hfirst, hsecond⟩, hrest⟩ := hsame
    by_cases hc : b.c = b'.c
    · have htotal' : total bs ≠ total bs' := by
        intro heq
        apply htotal
        simp only [total, map_cons, sum_cons] at heq ⊢
        rw [hc, heq]
      obtain ⟨i, id', gamma, rho, hfound, hid, hrelation⟩ :=
        ih bs bs' (by simpa using hlength) (by simpa using hlength') hrest htotal'
      exact ⟨i + 1, id', gamma, rho, by simp [extract, hc, hfound], by simpa using hid, hrelation⟩
    · refine ⟨0, id, schnorrExtract b.c b'.c b.z b'.z, schnorrExtract b.c b'.c b.w b'.w,
        by simp [extract, hc], rfl, schnorrExtract_sound hc hfirst, ?_⟩
      intro commitment hlink
      simp only [hlink, Option.map_some, Option.some.injEq] at hsecond
      exact schnorrExtract_sound hc hsecond

omit [AddCommGroup V] [Module Scalar V] in
theorem length_branches {proof : AssetProof} {bs : List Branch}
    (h : proof.branches statement = .ok bs) : bs.length = statement.registry.assets.length := by
  rw [branches, mapEach_eq_ok] at h
  simpa using h.length_eq.symm

end Extraction

/-- Completeness and special soundness. What `prove` returns is accepted, and it
returns a proof for every valid witness of a tag that is not the identity. Two
accepted proofs of one statement, under whatever challenge oracles, with the same
announcements and different total challenges, determine a position of the registry
at which both relations hold. -/
theorem asset_proof_complete_and_special_sound [DecidableEq V] (names : AssetNames V)
    (statement : AssetStatement V) :
    (∀ oracle witness coins proof, prove oracle names statement witness coins = .ok proof →
      proof.verify oracle names statement = .ok ()) ∧
    (∀ oracle coins (witness : AssetWitness), statement.registry.validate = .ok () →
      statement.tag ≠ 0 → witness.asset ∈ statement.registry.assets →
      statement.tag = names.generator witness.asset + witness.gamma • statement.key.h →
      (∀ commitment, statement.instruction = some commitment → commitment =
        names.assetScalar witness.asset • statement.key.g + witness.rho • statement.key.h) →
      ∃ proof, prove oracle names statement witness coins = .ok proof) ∧
    (∀ oracle oracle' (proof proof' : AssetProof) bs bs',
      proof.verify oracle names statement = .ok () →
      proof'.verify oracle' names statement = .ok () →
      proof.branches statement = .ok bs → proof'.branches statement = .ok bs' →
      announcements names statement bs = announcements names statement bs' →
      total bs ≠ total bs' →
      ∃ i id gamma rho, extract bs bs' = some (i, gamma, rho) ∧
        statement.registry.assets[i]? = some id ∧
        statement.tag - names.generator id = gamma • statement.key.h ∧
        ∀ commitment, statement.instruction = some commitment →
          commitment - names.assetScalar id • statement.key.g = rho • statement.key.h) := by
  refine ⟨fun oracle witness coins proof h => verify_prove h, ?_, ?_⟩
  · intro oracle coins witness hvalid htag hmem hgamma hinstruction
    obtain ⟨selected, hselected⟩ : ∃ selected,
        statement.registry.assets.idxOf? witness.asset = some selected :=
      Option.isSome_iff_exists.mp (List.isSome_idxOf?.mpr hmem)
    have hcheck : statement.checkInstruction names witness = .ok () := by
      unfold AssetStatement.checkInstruction
      cases hlink : statement.instruction with
      | none => rfl
      | some commitment => exact require_eq_ok.mpr (hinstruction commitment hlink)
    simp only [prove, ok_iff]
    exact ⟨_, hvalid, htag, selected, hselected, hgamma, hcheck, rfl⟩
  · intro oracle oracle' proof proof' bs bs' _ _ hbs hbs' hsame htotal
    exact extract_sound _ bs bs' (length_branches hbs) (length_branches hbs') hsame htotal

end AssetProof
end Proof

section AssetSample
open AssetProof

def tagNames : AssetNames Plane where
  generator id := if id = Id.fill 1 then (2, 0) else (3, 0)
  assetScalar id := if id = Id.fill 1 then 5 else 7

def tagStatement : AssetStatement Plane where
  key := planeKey
  registry := ⟨[Id.fill 1, Id.fill 2]⟩
  tag := (3, 10)
  instruction := some (7, 2)
  context := []

def tagWitness : AssetWitness := ⟨Id.fill 2, 10, 2⟩

def tagCoins : AssetCoins := ⟨3, 5, fun _ => ⟨2, 3, 5⟩⟩

def tagBranches (e : Scalar) : List Branch :=
  [⟨2, 3, 5⟩, ⟨e - 2, 3 + (e - 2) * 10, 5 + (e - 2) * 2⟩]

theorem asset_proof_sample :
    (encode true (tagBranches 5)).verify (fun _ => 5) tagNames tagStatement = .ok () ∧
      (encode true (tagBranches 7)).verify (fun _ => 7) tagNames tagStatement = .ok () ∧
      (∃ proof, prove (fun _ => 5) tagNames tagStatement tagWitness tagCoins = .ok proof) ∧
      ∃ i id gamma rho, extract (tagBranches 5) (tagBranches 7) = some (i, gamma, rho) ∧
        tagStatement.registry.assets[i]? = some id ∧
        tagStatement.tag - tagNames.generator id = gamma • tagStatement.key.h ∧
        ∀ commitment, tagStatement.instruction = some commitment →
          commitment - tagNames.assetScalar id • tagStatement.key.g =
            rho • tagStatement.key.h := by
  obtain ⟨hcomplete, hprove, hsound⟩ :=
    asset_proof_complete_and_special_sound tagNames tagStatement
  have hfive : prove (fun _ => 5) tagNames tagStatement tagWitness tagCoins =
      .ok (encode true (tagBranches 5)) := by decide +kernel
  have hseven : prove (fun _ => 7) tagNames tagStatement tagWitness tagCoins =
      .ok (encode true (tagBranches 7)) := by decide +kernel
  have haccept := hcomplete _ _ _ _ hfive
  have haccept' := hcomplete _ _ _ _ hseven
  refine ⟨haccept, haccept', hprove _ _ tagWitness ?_ ?_ ?_ ?_ ?_, ?_⟩
  · decide +kernel
  · decide +kernel
  · decide +kernel
  · decide +kernel
  · intro commitment hlink
    obtain rfl := Option.some.inj hlink
    decide +kernel
  · exact hsound _ _ _ _ _ _ haccept haccept' (by decide +kernel) (by decide +kernel)
      (by decide +kernel) (by decide +kernel)

end AssetSample

end DeFMI
