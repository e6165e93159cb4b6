import DeFMI.Ledger
set_option autoImplicit false

/-!
Guarantee facilities. A facility splits its line into an available, a held and
an outstanding part, each a commitment; a transition moves an amount between
them, and a reservation binds a hold to the policy or request it serves.
-/

namespace DeFMI
open Lib

instance : Zero Id := ⟨Id.zero⟩

/-- A 32-byte commitment field: the encoding of a point, or bytes that do not
decompress. -/
inductive CompressedPoint (V : Type) where
  | point (p : V)
  | malformed (bytes : Bytes)
  deriving DecidableEq

namespace CompressedPoint

variable {V : Type}

def decompress : CompressedPoint V → Option V
  | point p => some p
  | malformed _ => none

@[simp] theorem decompress_point (p : V) : (point p).decompress = some p := rfl

@[simp] theorem decompress_eq_some {c : CompressedPoint V} {p : V} :
    c.decompress = some p ↔ c = point p := by
  cases c with
  | point => simp
  | malformed => simp [decompress]

/-- The all-zero field is the encoding of the group identity. -/
instance [Zero V] : Zero (CompressedPoint V) := ⟨point 0⟩

end CompressedPoint

def maxUnixTime : ℕ := 253402300799
def u64Max : ℕ := 2 ^ 64 - 1

def checkedSucc (n : ℕ) : Option ℕ := if n < u64Max then some (n + 1) else none

/-- A sum in a build that panics on overflow, or in one that wraps. -/
def addU64 (panics : Bool) (a b : ℕ) : Option ℕ :=
  if a + b < 2 ^ 64 then some (a + b) else if panics then none else some ((a + b) % 2 ^ 64)

theorem addU64_lt {panics : Bool} {a b total : ℕ} (h : addU64 panics a b = some total) :
    total < 2 ^ 64 := by
  rw [addU64] at h
  split at h
  · cases h; assumption
  · split at h
    · cases h
    · cases h; exact Nat.mod_lt _ (by decide)

theorem foldlM_addU64 {panics : Bool} {values : List ℕ} {acc : ℕ} (h : acc < 2 ^ 64) :
    values.foldlM (addU64 panics) acc = addU64 panics acc values.sum := by
  induction values generalizing acc with
  | nil =>
    rw [List.foldlM_nil, List.sum_nil, addU64, Nat.add_zero, if_pos h]
    rfl
  | cons value values ih =>
    rw [List.foldlM_cons, List.sum_cons]
    by_cases hfits : acc + value < 2 ^ 64
    · have hadd : addU64 panics acc value = some (acc + value) := if_pos hfits
      rw [hadd, Option.bind_eq_bind, Option.bind_some, ih hfits]
      simp only [addU64, Nat.add_assoc]
    · have hlarge : ¬acc + (value + values.sum) < 2 ^ 64 := by omega
      cases panics with
      | true => simp only [addU64, if_neg hfits, if_neg hlarge, if_true, Option.bind_eq_bind,
          Option.bind_none]
      | false =>
        have hadd : addU64 false acc value = some ((acc + value) % 2 ^ 64) := if_neg hfits
        rw [hadd, Option.bind_eq_bind, Option.bind_some, ih (Nat.mod_lt _ (by decide))]
        simp only [addU64, if_neg hlarge, Bool.false_eq_true, if_false]
        split <;> (congr 1; omega)

theorem checkedSucc_eq_some {n m : ℕ} : checkedSucc n = some m ↔ n < u64Max ∧ m = n + 1 := by
  unfold checkedSucc
  by_cases h : n < u64Max
  · simp [h, eq_comm]
  · simp [h]

def nonzero {α : Type} [Zero α] [DecidableEq α] (value : α) (name : String) : Check :=
  require (value ≠ 0) (name ++ " cannot be the all-zero identifier")

@[simp] theorem nonzero_eq_ok {α : Type} [Zero α] [DecidableEq α] {value : α} {name : String}
    {u : Unit} : nonzero value name = .ok u ↔ value ≠ 0 := require_eq_ok

def settlementPoint {V : Type} (encoded : CompressedPoint V) (name : String) : Result V :=
  okOr encoded.decompress (name ++ " is not a canonical Ristretto commitment")

@[simp] theorem settlementPoint_eq_ok {V : Type} {c : CompressedPoint V} {name : String} {p : V} :
    settlementPoint c name = .ok p ↔ c = .point p := by
  simp [settlementPoint]

inductive CreditFacilityStatus where
  | active
  | frozen
  | closed
  | defaulted
  deriving DecidableEq

inductive HoldStatus where
  | active
  | consumed
  | released
  deriving DecidableEq

inductive CreditTransitionKind where
  | hold
  | release
  | consume
  deriving DecidableEq

/-- The three parts of a line, as commitments, as points or as values. -/
structure Balances (M : Type) where
  available : M
  held : M
  outstanding : M
  deriving DecidableEq

namespace Balances

variable {M V : Type}

def total [Add M] (b : Balances M) : M := b.available + b.held + b.outstanding

def total? [Add V] (b : Balances (CompressedPoint V)) : Option V := do
  let available ← b.available.decompress
  let held ← b.held.decompress
  let outstanding ← b.outstanding.decompress
  some (available + held + outstanding)

def Moves [Add M] [Zero M] (kind : CreditTransitionKind) (before after : Balances M)
    (amount consumed refund : M) : Prop :=
  match kind with
  | .hold =>
    before.available = after.available + amount ∧ after.held = before.held + amount ∧
      before.outstanding = after.outstanding ∧ consumed = 0 ∧ refund = 0
  | .release =>
    after.available = before.available + amount ∧ before.held = after.held + amount ∧
      before.outstanding = after.outstanding ∧ consumed = 0 ∧ refund = 0
  | .consume =>
    before.held = after.held + amount ∧ after.outstanding = before.outstanding + consumed ∧
      after.available = before.available + refund ∧ amount = consumed + refund

instance [Add M] [Zero M] [DecidableEq M] (kind : CreditTransitionKind) (before after : Balances M)
    (amount consumed refund : M) : Decidable (Moves kind before after amount consumed refund) :=
  match kind with
  | .hold => inferInstanceAs (Decidable (_ ∧ _))
  | .release => inferInstanceAs (Decidable (_ ∧ _))
  | .consume => inferInstanceAs (Decidable (_ ∧ _))

end Balances

structure CreditFacilityTransition (V : Type) where
  operationId : Id
  facilityId : Id
  holdId : Id
  kind : CreditTransitionKind
  queryCommitment : Id
  amountCommitment : CompressedPoint V
  consumedCommitment : CompressedPoint V
  refundCommitment : CompressedPoint V
  before : Balances (CompressedPoint V)
  after : Balances (CompressedPoint V)
  beforeSequence : ℕ
  expiresAt : ℕ
  settlementDigest : Id
  relationProofDigest : Id

structure CreditFacilityRecord (V : Type) where
  guarantorId : Id
  beneficiaryCommitment : Id
  railAssetId : Id
  capCommitment : CompressedPoint V
  balances : Balances (CompressedPoint V)
  overlimitCommitment : CompressedPoint V
  collateralCommitment : CompressedPoint V
  riskPolicyDigest : Id
  validFrom : ℕ
  validUntil : ℕ
  status : CreditFacilityStatus
  sequence : ℕ
  deriving DecidableEq

structure CreditHoldRecord (V : Type) where
  facilityId : Id
  queryCommitment : Id
  amountCommitment : CompressedPoint V
  expiresAt : ℕ
  status : HoldStatus
  settlementDigest : Id
  createdSequence : ℕ
  updatedSequence : ℕ

inductive ReservationRole where
  | maker
  | taker
  deriving DecidableEq

structure ReservationAuthorization (V : Type) where
  role : ReservationRole
  entityCommitment : Id
  assetId : Id
  direction : ℕ
  authorizationDigest : Id
  mandateDigest : Id
  typedReserveDigest : Id
  reserveNullifier : Id
  assetLinkProofDigest : Id
  limitPriceCommitment : CompressedPoint V
  escrowDigest : Id
  rfqNullifier : Id
  policyVersion : ℕ
  admissionTicketId : Id
  admissionSlot : ℕ
  admissionReceiptDigest : Id
  admissionEpoch : ℕ
  admissionSequence : ℕ
  admissionBatchId : Id

structure ReservationBindingRecord (V : Type) where
  role : ReservationRole
  entityCommitment : Id
  assetId : Id
  direction : ℕ
  authorizationDigest : Id
  mandateDigest : Id
  typedReserveDigest : Id
  reserveNullifier : Id
  assetLinkProofDigest : Id
  limitPriceCommitment : CompressedPoint V
  rfqNullifier : Id
  policyVersion : ℕ
  admissionTicketId : Id
  admissionSlot : ℕ
  admissionReceiptDigest : Id
  admissionEpoch : ℕ
  admissionSequence : ℕ
  admissionBatchId : Id
  receiptDigest : Id

structure ReservationConsumption (V : Type) where
  role : ReservationRole
  reserveReceiptDigest : Id
  transition : CreditFacilityTransition V

structure CreditDigests (V : Type) where
  transition : CreditFacilityTransition V → Id
  reservation : ReservationAuthorization V → CreditFacilityTransition V → Id

section Bodies

variable {V : Type} [AddCommGroup V] [DecidableEq V]

section
variable (t : CreditFacilityTransition V) (a : ReservationAuthorization V)

def CreditFacilityTransition.body : Check := do
  require (¬(t.expiresAt = 0 ∨ maxUnixTime < t.expiresAt ∨ t.beforeSequence = u64Max))
    "credit reservation expiry or sequence is invalid"
  require (¬(t.kind = .hold ∧ t.settlementDigest ≠ 0)) "a new hold cannot name a settlement"
  require (¬(t.kind = .release ∧ t.settlementDigest ≠ 0)) "a released hold cannot name a settlement"
  require (¬(t.kind = .consume ∧ t.settlementDigest = 0))
    "a consumed hold must bind the resulting zkPI settlement"
  require (¬((t.kind = .hold ∨ t.kind = .release) ∧
      (t.consumedCommitment ≠ 0 ∨ t.refundCommitment ≠ 0)))
    "only hold consumption can contain used and refunded amounts"
  nonzero t.operationId "operation_id"
  nonzero t.facilityId "facility_id"
  nonzero t.holdId "hold_id"
  nonzero t.queryCommitment "query_commitment"
  nonzero t.amountCommitment "amount_commitment"
  nonzero t.relationProofDigest "relation_proof_digest"

def CreditFacilityTransition.statement (digests : CreditDigests V) (t : CreditFacilityTransition V) :
    Result Id := do
  t.body
  pure (digests.transition t)

def verifyCreditRelationEquations : Check := do
  let beforeAvailable ← settlementPoint t.before.available "before available commitment"
  let afterAvailable ← settlementPoint t.after.available "after available commitment"
  let beforeHeld ← settlementPoint t.before.held "before held commitment"
  let afterHeld ← settlementPoint t.after.held "after held commitment"
  let beforeOutstanding ← settlementPoint t.before.outstanding "before outstanding commitment"
  let afterOutstanding ← settlementPoint t.after.outstanding "after outstanding commitment"
  let amount ← settlementPoint t.amountCommitment "hold amount commitment"
  let consumed ← settlementPoint t.consumedCommitment "consumed commitment"
  let refund ← settlementPoint t.refundCommitment "refund commitment"
  require (Balances.Moves t.kind ⟨beforeAvailable, beforeHeld, beforeOutstanding⟩
      ⟨afterAvailable, afterHeld, afterOutstanding⟩ amount consumed refund)
    "credit commitments do not conserve the facility balance"

def ReservationAuthorization.scope : Check :=
  match a.role with
  | .maker =>
    require (¬(a.policyVersion = 0 ∨ a.rfqNullifier ≠ 0 ∨ a.admissionTicketId ≠ 0 ∨
        a.admissionSlot ≠ 0 ∨ a.admissionReceiptDigest ≠ 0 ∨ a.admissionEpoch ≠ 0 ∨
        a.admissionSequence ≠ 0 ∨ a.admissionBatchId ≠ 0 ∨ a.limitPriceCommitment ≠ 0))
      "Maker reservation must name a policy version, not an RFQ"
  | .taker =>
    require (¬(a.policyVersion ≠ 0 ∨ a.rfqNullifier = 0 ∨ a.admissionTicketId = 0 ∨
        a.admissionReceiptDigest = 0 ∨ a.admissionEpoch = 0 ∨ a.admissionSequence = 0 ∨
        a.admissionBatchId = 0 ∨ a.limitPriceCommitment = 0 ∨
        a.limitPriceCommitment.decompress = none))
      "Taker reservation must name an admitted one-use RFQ"

def ReservationAuthorization.body (a : ReservationAuthorization V)
    (t : CreditFacilityTransition V) : Check := do
  require (t.kind = .hold) "a bound reservation must create a hold"
  require (a.direction = 1 ∨ a.direction = 2)
    "reservation direction must be Taker-buy or Taker-sell"
  require (t.queryCommitment = a.authorizationDigest)
    "facility hold is bound to another policy or RFQ authorization"
  a.scope
  nonzero a.entityCommitment "entity_commitment"
  nonzero a.assetId "asset_id"
  nonzero a.authorizationDigest "authorization_digest"
  nonzero a.mandateDigest "mandate_digest"
  nonzero a.typedReserveDigest "typed_reserve_digest"
  nonzero a.reserveNullifier "reserve_nullifier"
  nonzero a.assetLinkProofDigest "asset_link_proof_digest"
  nonzero a.escrowDigest "escrow_digest"
  t.body

def ReservationAuthorization.statement (digests : CreditDigests V)
    (a : ReservationAuthorization V) (t : CreditFacilityTransition V) : Result Id := do
  a.body t
  pure (digests.reservation a t)

def ReservationAuthorization.binding (receipt : Id) : ReservationBindingRecord V where
  role := a.role
  entityCommitment := a.entityCommitment
  assetId := a.assetId
  direction := a.direction
  authorizationDigest := a.authorizationDigest
  mandateDigest := a.mandateDigest
  typedReserveDigest := a.typedReserveDigest
  reserveNullifier := a.reserveNullifier
  assetLinkProofDigest := a.assetLinkProofDigest
  limitPriceCommitment := a.limitPriceCommitment
  rfqNullifier := a.rfqNullifier
  policyVersion := a.policyVersion
  admissionTicketId := a.admissionTicketId
  admissionSlot := a.admissionSlot
  admissionReceiptDigest := a.admissionReceiptDigest
  admissionEpoch := a.admissionEpoch
  admissionSequence := a.admissionSequence
  admissionBatchId := a.admissionBatchId
  receiptDigest := receipt

end

end Bodies

section Records

variable {V : Type}

/-- The role a release is made in must fit what its reservation is scoped to. -/
def ReservationBindingRecord.releaseScope (b : ReservationBindingRecord V) (role : ReservationRole)
    (t : CreditFacilityTransition V) : Check :=
  match role with
  | .maker =>
    require (¬(b.policyVersion = 0 ∨ b.rfqNullifier ≠ 0)) "Maker release is not policy-scoped"
  | .taker =>
    require (¬(b.policyVersion ≠ 0 ∨ b.rfqNullifier = 0 ∨ b.mandateDigest ≠ t.queryCommitment))
      "Taker release is not RFQ-scoped"

/-- A Maker reserve serves any request of its policy, a Taker reserve one admitted request. -/
def ReservationBindingRecord.settlementScope (b : ReservationBindingRecord V)
    (role : ReservationRole) (rfqNullifier admissionReceiptDigest : Id)
    (admissionEpoch admissionSequence : ℕ) : Check :=
  match role with
  | .maker =>
    require (¬(b.policyVersion = 0 ∨ b.rfqNullifier ≠ 0)) "Maker reservation is not policy-scoped"
  | .taker =>
    require (¬(b.rfqNullifier ≠ rfqNullifier ∨ b.admissionReceiptDigest ≠ admissionReceiptDigest ∨
        b.admissionEpoch ≠ admissionEpoch ∨ b.admissionSequence ≠ admissionSequence))
      "Taker reservation is not for the admitted RFQ"

def CreditFacilityTransition.newHold (t : CreditFacilityTransition V) : CreditHoldRecord V where
  facilityId := t.facilityId
  queryCommitment := t.queryCommitment
  amountCommitment := t.amountCommitment
  expiresAt := t.expiresAt
  status := .active
  settlementDigest := 0
  createdSequence := t.beforeSequence + 1
  updatedSequence := t.beforeSequence + 1

/-- The compare-and-swap every operation on an existing hold makes. -/
def CreditHoldRecord.Matches (hold : CreditHoldRecord V) (t : CreditFacilityTransition V) : Prop :=
  hold.facilityId = t.facilityId ∧ hold.queryCommitment = t.queryCommitment ∧
    hold.amountCommitment = t.amountCommitment ∧ hold.expiresAt = t.expiresAt ∧
    hold.status = .active

instance [DecidableEq V] (hold : CreditHoldRecord V) (t : CreditFacilityTransition V) :
    Decidable (hold.Matches t) :=
  inferInstanceAs (Decidable (_ ∧ _))

def CreditHoldRecord.resolve (hold : CreditHoldRecord V) (status : HoldStatus) (settlement : Id)
    (t : CreditFacilityTransition V) : CreditHoldRecord V :=
  { hold with status, settlementDigest := settlement, updatedSequence := t.beforeSequence + 1 }

def CreditFacilityRecord.advance (facility : CreditFacilityRecord V)
    (t : CreditFacilityTransition V) : Result (CreditFacilityRecord V) := do
  let sequence ← okOr (checkedSucc facility.sequence) "credit facility sequence overflow"
  pure { facility with balances := t.after, sequence }

theorem CreditFacilityRecord.advance_ok {facility facility' : CreditFacilityRecord V}
    {t : CreditFacilityTransition V} (h : facility.advance t = .ok facility') :
    facility.sequence < u64Max ∧
      facility' = { facility with balances := t.after, sequence := facility.sequence + 1 } := by
  simp only [advance, ok_iff, checkedSucc_eq_some] at h
  obtain ⟨_, ⟨hlt, rfl⟩, rfl⟩ := h
  exact ⟨hlt, rfl⟩

namespace ReservationConsumption

def Distinct (q r : ReservationConsumption V) : Prop :=
  q.role ≠ r.role ∧ q.transition.holdId ≠ r.transition.holdId ∧
    q.transition.facilityId ≠ r.transition.facilityId

end ReservationConsumption
end Records
end DeFMI
