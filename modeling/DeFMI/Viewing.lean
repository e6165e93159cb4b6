import DeFMI.Lib.Wire
import DeFMI.Notes
import DeFMI.Reconcile
set_option autoImplicit false

/-!
What the holder of a viewing grant reads off the note pool: the notes of one scope, and
their commitments, blindings and total for a reconciliation.
-/

namespace DeFMI
open Lib Reconcile Option

structure Address (V : Type) where
  view : V
  spend : V
  openingPublic : Bytes

structure ViewKey where
  scalar : Scalar
  openingKey : Bytes

structure ViewingGrant (V : Type) where
  address : Address V
  viewKey : ViewKey

/-- The key encapsulation, the hashes and the scalar encoding. `ciphertext` is the length
of an envelope's ciphertext, where the opening is an envelope. -/
structure ViewingApi (V : Type) where
  base : V
  publicKey : Bytes → Bytes
  shared : V → Scalar
  openingContext : V → V → V → Id
  ciphertext : Bytes → Option ℕ
  openEnvelope : Bytes → Id → Bytes → Option Bytes
  assetGenerator : Bytes → V
  scalar : Bytes → Option Scalar

def confidentialOpeningMagic : Bytes := [0x44, 0x43, 0x41, 0x33]

def confidentialOpeningBytes : ℕ := 108

section Scan

variable {V : Type} [AddCommGroup V] [Module Scalar V] [DecidableEq V] (api : ViewingApi V)

/-- The value and blinding at the end of a payload, under the asset it names if it does. -/
def openingBody (assetKey : Pedersen V) (payload : Bytes) : Option Bytes :=
  if payload.length = confidentialOpeningBytes ∧ payload.take 4 = confidentialOpeningMagic then
    if assetKey.g = api.assetGenerator ((payload.drop 4).take 32) then some (payload.drop 68) else none
  else if payload.length = 40 then some payload else none

def NoteLedger.readNote (l : NoteLedger V) (view : ViewKey) (address : Address V)
    (assetKey : Pedersen V) (note : Note V) : Option (ℕ × Scalar) := do
  guard (api.shared (view.scalar • note.ephemeral) • api.base + address.spend = note.oneTime)
  let length ← api.ciphertext note.encryptedOpening
  guard (length = 40 ∨ length = confidentialOpeningBytes)
  let payload ← api.openEnvelope view.openingKey
    (api.openingContext note.oneTime note.valueCommitment note.ephemeral) note.encryptedOpening
  let body ← openingBody api assetKey payload
  let value := beValue (body.take 8)
  guard (¬(l.bits < 64 ∧ 2 ^ l.bits ≤ value))
  let blinding ← api.scalar (body.drop 8)
  guard (assetKey.commitU64 value blinding = note.valueCommitment)
  some (value, blinding)

def NoteLedger.scanView (l : NoteLedger V) (view : ViewKey) (address : Address V)
    (assetKey : Pedersen V) : List (ℕ × ℕ × Scalar) :=
  if view.scalar • api.base ≠ address.view ∨ api.publicKey view.openingKey ≠ address.openingPublic
  then []
  else l.notes.zipIdx.filterMap fun (note, index) =>
    (l.readNote api view address assetKey note).map fun opened => (index, opened)

def scanScope (l : NoteLedger V) (grant : ViewingGrant V) (assetKey : Pedersen V) :
    List (ℕ × ℕ × Scalar) :=
  l.scanView api grant.viewKey grant.address assetKey

end Scan

section Scope

variable {V : Type} [AddCommGroup V] [Module Scalar V]

def scopeStep (panics : Bool) (assetKey : Pedersen V) (seen : List V × List Scalar × ℕ)
    (found : ℕ × ℕ × Scalar) : Option (List V × List Scalar × ℕ) := do
  let total ← addU64 panics seen.2.2 found.2.1
  some (seen.1 ++ [assetKey.commitU64 found.2.1 found.2.2], seen.2.1 ++ [found.2.2], total)

/-- `none` is a panic. -/
def scopeCommitments [DecidableEq V] (panics : Bool) (api : ViewingApi V) (l : NoteLedger V)
    (grant : ViewingGrant V) (assetKey : Pedersen V) : Option (List V × List Scalar × ℕ) :=
  (scanScope api l grant assetKey).foldlM (scopeStep panics assetKey) ([], [], 0)

variable {panics : Bool} {assetKey : Pedersen V} {seen : List V × List Scalar × ℕ}
  {found : List (ℕ × ℕ × Scalar)}

theorem foldlM_scopeStep : found.foldlM (scopeStep panics assetKey) seen =
    ((found.map (·.2.1)).foldlM (addU64 panics) seen.2.2).map fun total =>
      (seen.1 ++ found.map (fun f => assetKey.commitU64 f.2.1 f.2.2),
        seen.2.1 ++ found.map (·.2.2), total) := by
  induction found generalizing seen with
  | nil => simp
  | cons f found ih =>
    simp only [List.map_cons, List.foldlM_cons, scopeStep]
    cases addU64 panics seen.2.2 f.2.1 <;> simp [ih]

variable [DecidableEq V] {signed : AttestationVerifier}

/-- Where the blindings open the residual, only the signature can be at fault. -/
theorem check_prove_of_residual {commitments : List V} {blindings : List Scalar}
    {attestation : Attestation} (registrar : Option Bytes)
    (hlength : commitments.length = blindings.length)
    (h : Reconcile.residual assetKey commitments attestation.total = blindings.sum • assetKey.h) :
    ∃ r, prove commitments blindings attestation = .ok r ∧
      check signed assetKey commitments r registrar = checkSignature signed attestation registrar := by
  refine ⟨_, by simp only [prove, require, hlength, if_true]; rfl, ?_⟩
  cases hsigned : checkSignature signed attestation registrar with
  | error => simp [check, require, hlength, hsigned]; rfl
  | ok => simp [check, require, hlength, hsigned, ZeroProof.verify, h]

/-- The scope is returned with the sum of what was opened, which reconciles, exactly when
that sum fits in 64 bits. -/
theorem scope_total_exact_iff (panics : Bool) (api : ViewingApi V) (l : NoteLedger V)
    (grant : ViewingGrant V) (assetKey : Pedersen V) :
    (∃ commitments blindings, scopeCommitments panics api l grant assetKey =
        some (commitments, blindings, ((scanScope api l grant assetKey).map (·.2.1)).sum) ∧
      ∀ signed registrar attestation,
        attestation.total = ((scanScope api l grant assetKey).map (·.2.1)).sum →
          ∃ r, prove commitments blindings attestation = .ok r ∧
            check signed assetKey commitments r registrar =
              checkSignature signed attestation registrar) ↔
      ((scanScope api l grant assetKey).map (·.2.1)).sum < 2 ^ 64 := by
  simp only [scopeCommitments, foldlM_scopeStep, foldlM_addU64 (Nat.two_pow_pos 64), List.nil_append]
  generalize scanScope api l grant assetKey = found
  constructor
  · rintro ⟨_, _, h, _⟩
    obtain ⟨_, htotal, h⟩ := map_eq_some_iff.mp h
    cases h
    exact addU64_lt htotal
  · intro h
    refine ⟨_, _, by rw [addU64, Nat.zero_add, if_pos h]; rfl, ?_⟩
    intro signed registrar attestation htotal
    refine check_prove_of_residual registrar (by simp) ?_
    have hlength : (found.map (·.2.2)).length = (found.map (·.2.1)).length := by simp
    have hsum := sum_commitU64 assetKey hlength
    rw [List.zipWith_map, List.zipWith_self] at hsum
    rw [Reconcile.residual, aggregate_eq_sum, htotal, hsum, add_sub_cancel_left]

end Scope

section Rolling

def checkedMul (a b : ℕ) : Option ℕ := if a * b < 2 ^ 64 then some (a * b) else none

/-- A scope that moves on a schedule. A period is never zero, as the constructor refuses it. -/
structure Rolling where
  name : String
  period : ℕ
  epoch : ℕ
  positive : 0 < period

namespace Rolling

def new (name : String) (period epoch : ℕ) : Result Rolling :=
  if h : 0 < period then .ok ⟨name, period, epoch, h⟩
  else .error "a rolling schedule needs a period; zero never rolls"

def periodOf (r : Rolling) (now : ℕ) : ℕ := (now - r.epoch) / r.period

def scope (r : Rolling) (now : ℕ) : String := r.name ++ ":" ++ toString (r.periodOf now)

/-- An end that does not fit is the end of the clock. -/
def endsAt (r : Rolling) (now : ℕ) : ℕ :=
  (((checkedAdd (r.periodOf now) 1).bind (checkedMul · r.period)).bind
    (checkedAdd r.epoch)).getD u64Max

theorem scope_eq_iff {r : Rolling} {now t : ℕ} :
    r.scope now = r.scope t ↔ r.periodOf now = r.periodOf t := by
  constructor
  · intro h
    have hdigits : Nat.toDigits 10 (r.periodOf now) = Nat.toDigits 10 (r.periodOf t) := by
      simpa [scope, Nat.repr_eq_ofList_toDigits] using congrArg String.toList h
    simpa using congrArg (Nat.ofDigitChars 10 · 0) hdigits
  · intro h
    rw [scope, h, scope]

theorem endsAt_eq (r : Rolling) (now : ℕ) :
    r.endsAt now = if r.epoch + (r.periodOf now + 1) * r.period < 2 ^ 64 then
      r.epoch + (r.periodOf now + 1) * r.period else u64Max := by
  have hle := Nat.le_mul_of_pos_right (r.periodOf now + 1) r.positive
  unfold endsAt checkedAdd checkedMul
  by_cases hcount : r.periodOf now + 1 < 2 ^ 64
  · rw [if_pos hcount, bind_some]
    by_cases hproduct : (r.periodOf now + 1) * r.period < 2 ^ 64
    · rw [if_pos hproduct, bind_some]
      split <;> rfl
    · rw [if_neg hproduct, if_neg (by omega)]
      rfl
  · rw [if_neg hcount, if_neg (by omega)]
    rfl

/-- A later time is before the end of the period in force exactly when it is in that period. -/
theorem lt_endsAt_iff (r : Rolling) {now t : ℕ} (hnow : now ≤ t) (ht : t < u64Max) :
    t < r.endsAt now ↔ r.periodOf now = r.periodOf t := by
  have hlater : r.periodOf now ≤ r.periodOf t :=
    Nat.div_le_div_right (Nat.sub_le_sub_right hnow _)
  have hperiod : r.periodOf t < r.periodOf now + 1 ↔
      t < r.epoch + (r.periodOf now + 1) * r.period := by
    have hpos : 0 < (r.periodOf now + 1) * r.period := Nat.mul_pos (by omega) r.positive
    rw [periodOf, Nat.div_lt_iff_lt_mul r.positive]
    omega
  have hmax : u64Max < 2 ^ 64 := by decide
  rw [endsAt_eq]
  split <;> omega

end Rolling

/-- What the wallet signs: scope, grantee, address, and the dates of issue and expiry. -/
abbrev GrantBody (V : Type) := String × String × Address V × ℕ × ℕ

/-- A grant as it is handed out. -/
structure SignedGrant (V Sig : Type) extends ViewingGrant V where
  scope : String
  grantee : String
  issuedAt : ℕ
  expiresAt : ℕ
  signature : Option Sig

/-- The seeds by what is derived from them for a scope, the identity by its signatures. -/
structure ScopedWallet (V Sig : Type) where
  view : String → Scalar
  spend : String → Scalar
  openingKey : String → Bytes
  identity : Bytes
  sign : GrantBody V → Sig

variable {V Sig : Type} [AddCommGroup V] [Module Scalar V] [DecidableEq V]

def SignedGrant.body (g : SignedGrant V Sig) : GrantBody V :=
  (g.scope, g.grantee, g.address, g.issuedAt, g.expiresAt)

namespace ScopedWallet
variable (w : ScopedWallet V Sig) (api : ViewingApi V)

def address (scope : String) : Address V :=
  ⟨w.view scope • api.base, w.spend scope • api.base, api.publicKey (w.openingKey scope)⟩

def grantUntil (scope grantee : String) (issuedAt expiresAt : ℕ) : SignedGrant V Sig :=
  let grant : SignedGrant V Sig := ⟨⟨w.address api scope, ⟨w.view scope, w.openingKey scope⟩⟩,
    scope, grantee, issuedAt, expiresAt, none⟩
  { grant with signature := some (w.sign grant.body) }

def grantCurrent (rolling : Rolling) (grantee : String) (now : ℕ) : SignedGrant V Sig :=
  w.grantUntil api (rolling.scope now) grantee now (rolling.endsAt now)

end ScopedWallet

def SignedGrant.checkGrant (api : ViewingApi V) (verify : Bytes → GrantBody V → Sig → Bool)
    (grant : SignedGrant V Sig) (owner : Bytes) (now : ℕ) : Check := do
  let signature ← okOr grant.signature "an unsigned grant is a key somebody wrote down"
  require (verify owner grant.body signature = true)
    "not signed by that wallet --- a hybrid signature is both halves or nothing"
  require (¬(grant.viewKey.scalar • api.base ≠ grant.address.view ∨
    api.publicKey grant.viewKey.openingKey ≠ grant.address.openingPublic))
    "the key does not open the address it names"
  require (¬now < grant.issuedAt) "the grant has not begun"
  require (¬grant.expiresAt ≤ now) ("the grant has expired --- which stops a party that chooses " ++
    "to be stopped, and nothing else")

def isCurrentScope (grant : SignedGrant V Sig) (rolling : Rolling) (now : ℕ) : Bool :=
  grant.scope = rolling.scope now

/-- A grant of the period in force is good for as long as its scope is the current one. -/
theorem rolling_grant_ends_with_scope {verify : Bytes → GrantBody V → Sig → Bool}
    {w : ScopedWallet V Sig} (hsigned : ∀ body, verify w.identity body (w.sign body) = true)
    (api : ViewingApi V) (rolling : Rolling) (grantee : String) {now t : ℕ} (hnow : now ≤ t)
    (ht : t < 2 ^ 64 - 1) :
    (w.grantCurrent api rolling grantee now).checkGrant api verify w.identity t = .ok () ↔
      isCurrentScope (w.grantCurrent api rolling grantee now) rolling t = true := by
  have hperiod := rolling.lt_endsAt_iff hnow ht
  have hcheck : (w.grantCurrent api rolling grantee now).checkGrant api verify w.identity t =
      .ok () ↔ t < rolling.endsAt now := by
    simp only [SignedGrant.checkGrant, ok_iff]
    simp [ScopedWallet.grantCurrent, ScopedWallet.grantUntil, SignedGrant.body,
      ScopedWallet.address, hsigned, hnow]
  rw [hcheck, hperiod, ← Rolling.scope_eq_iff, isCurrentScope, decide_eq_true_eq]
  rfl

end Rolling

section Sample

def viewingApi : ViewingApi Plane where
  base := (1, 0)
  publicKey key := key
  shared _ := 0
  openingContext _ _ _ := Id.zero
  ciphertext opening := some opening.length
  openEnvelope _ _ opening := some opening
  assetGenerator _ := 0
  scalar _ := some 0

/-- A pool with notes of the given values, all in the scope of `sampleGrant`. -/
def scopedPool (values : List ℕ) : NoteLedger Plane :=
  { NoteLedger.new planeKey 64 with
    notes := values.map fun value =>
      ⟨0, planeKey.commitU64 value 0, 0, beBytes 8 value ++ List.replicate 32 0⟩ }

def sampleGrant : ViewingGrant Plane := ⟨⟨0, 0, [1]⟩, ⟨0, [1]⟩⟩

/-- Two notes of half the range each: one build panics, the other returns a total of zero. -/
theorem scope_total_overflows :
    (scanScope viewingApi (scopedPool [2 ^ 63, 2 ^ 63]) sampleGrant planeKey).map (·.2.1) =
        [2 ^ 63, 2 ^ 63] ∧
      scopeCommitments true viewingApi (scopedPool [2 ^ 63, 2 ^ 63]) sampleGrant planeKey = none ∧
      (scopeCommitments false viewingApi (scopedPool [2 ^ 63, 2 ^ 63]) sampleGrant planeKey).map
        (·.2.2) = some 0 := by
  decide +kernel

def sampleWallet : ScopedWallet Plane Unit := ⟨fun _ => 0, fun _ => 0, fun _ => [1], [], fun _ => ()⟩

/-- The second period from 100 on runs from 110 to 120. -/
theorem rolling_grant_ends_with_scope_sample :
    (sampleWallet.grantCurrent viewingApi ⟨"q", 10, 100, by decide⟩ "auditor" 115).checkGrant
        viewingApi (fun _ _ _ => true) sampleWallet.identity 119 = .ok () ↔
      isCurrentScope (sampleWallet.grantCurrent viewingApi ⟨"q", 10, 100, by decide⟩ "auditor" 115)
        ⟨"q", 10, 100, by decide⟩ 119 = true :=
  rolling_grant_ends_with_scope (fun _ => rfl) _ _ _ (by decide) (by decide)

end Sample
end DeFMI
