import DeFMI.Lib.IdealProof
import DeFMI.Lib.Machine
import DeFMI.Lib.Table
import Mathlib.Data.Finset.Insert
set_option autoImplicit false

/-!
The account ledger: balances are commitments, a transfer overwrites the payer
with a remainder and credits the payee, and an escrow takes the amount out of
both accounts until it is released or unwound.
-/

namespace DeFMI
open Lib AList Option

abbrev Bytes := List UInt8

def utf8 (s : String) : Bytes := s.toUTF8.toList

/-- Identifiers, digests and roots: 32 bytes. -/
abbrev Id := {bytes : Bytes // bytes.length = 32}

def Id.zero : Id := ⟨List.replicate 32 0, rfl⟩

def Id.fill (byte : UInt8) : Id := ⟨List.replicate 32 byte, List.length_replicate⟩

instance : LawfulBEq Bytes := inferInstance

instance : LawfulBEq Id := inferInstance

def checkedAdd (a b : ℕ) : Option ℕ := if a + b < 2 ^ 64 then some (a + b) else none

theorem checkedAdd_eq_some {a b c : ℕ} : checkedAdd a b = some c ↔ a + b < 2 ^ 64 ∧ a + b = c := by
  unfold checkedAdd
  split
  · next h => rw [and_iff_right h, some.injEq]
  · next h => exact ⟨fun hnone => absurd hnone (by simp), fun hsum => absurd hsum.1 h⟩

structure Pedersen (V : Type) where
  g : V
  h : V
  deriving DecidableEq

/-- The membership proof a tag may carry is not read by any ledger operation. -/
structure BlindedTag (V : Type) where
  point : V
  deriving DecidableEq

structure RangeContext (V : Type) where
  label : String
  context : Bytes
  tag : Option V
  deriving DecidableEq

structure Transfer (V : Type) where
  amountCommitment : V
  amountRange : Option (RangeProof (RangeContext V) × V)
  remainderCommitment : V
  remainderRange : RangeProof (RangeContext V)
  tag : Option (BlindedTag V)
  deriving DecidableEq

structure Pending (V : Type) where
  payer : Bytes
  releaseKey : V
  payee : Bytes
  amountCommitment : V
  deadline : ℕ
  deriving DecidableEq

/-- The hashed body an issuer signs, kept as its fields. -/
structure IssuanceBody (V : Type) where
  handle : Bytes
  balance : V
  nonce : Bytes
  deriving DecidableEq

abbrev IssuanceVerifier (V : Type) := Bytes → IssuanceBody V → Bytes → Bool

abbrev Verifier (V Sig : Type) := V → Bytes → Sig → Bool

structure Ledger (V : Type) where
  key : Pedersen V
  bits : ℕ
  accounts : Table Bytes V
  pending : Table Bytes (Pending V)
  spentLegs : Finset Bytes
  minted : V
  issuer : Option Bytes
  issued : Finset (IssuanceBody V)

namespace Ledger

variable {V Sig : Type}

def gens (l : Ledger V) : Option (BlindedTag V) → Pedersen V
  | some t => ⟨t.point, l.key.h⟩
  | none => l.key

@[simp] theorem gens_h (l : Ledger V) (tag : Option (BlindedTag V)) :
    (l.gens tag).h = l.key.h := by
  cases tag with
  | none => rfl
  | some => rfl

def rangeContext (label : String) (context : Bytes) (tag : Option (BlindedTag V)) :
    RangeContext V :=
  ⟨label, context, tag.map BlindedTag.point⟩

variable [AddCommGroup V]

def new (key : Pedersen V) (bits : ℕ) : Ledger V :=
  ⟨key, bits, ∅, ∅, ∅, 0, none, ∅⟩

def underIssuer (key : Pedersen V) (bits : ℕ) (issuer : Bytes) : Ledger V :=
  { Ledger.new key bits with issuer := some issuer }

/-- `none` is a failed assertion. -/
def «open» (l : Ledger V) (handle : Bytes) (balance : V) : Option (Ledger V) :=
  if l.issuer.isNone ∧ handle ∉ l.accounts then
    some { l with accounts := l.accounts.insert handle balance, minted := l.minted + balance }
  else none

def openAuthorised [DecidableEq V] (verify : IssuanceVerifier V) (l : Ledger V)
    (handle : Bytes) (balance : V) (nonce authorisation : Bytes) : Result (Ledger V) := do
  let issuer ← okOr l.issuer "this ledger has no issuer"
  require (handle ∉ l.accounts) "handle already open"
  let body : IssuanceBody V := ⟨handle, balance, nonce⟩
  require (body ∉ l.issued) "that issuance authorisation was already used"
  require (verify issuer body authorisation = true)
    "the opening balance is not signed by the issuer"
  pure { l with
    issued := insert body l.issued
    accounts := l.accounts.insert handle balance
    minted := l.minted + balance }

def held (l : Ledger V) : V := l.pending.total (fun _ p => p.amountCommitment)

def booked (l : Ledger V) : V := l.accounts.total (fun _ c => c)

def conserved [DecidableEq V] (l : Ledger V) : Bool := l.booked + l.held = l.minted

/-- Writes the remainder first, so a payee equal to the payer is credited on top
of it; `none` is the index panic on an account that is not open. -/
def applyTransfer (l : Ledger V) (payer payee : Bytes) (transfer : Transfer V) :
    Option (Ledger V) :=
  let debited := l.accounts.insert payer transfer.remainderCommitment
  (debited.lookup payee).map fun balance =>
    { l with accounts := debited.insert payee (balance + transfer.amountCommitment) }

theorem applyTransfer_some {l m : Ledger V} {payer payee : Bytes} {transfer : Transfer V}
    (h : l.applyTransfer payer payee transfer = some m)
    (hne : payer ≠ payee) :
    ∃ balance, l.accounts.lookup payee = some balance ∧
      m.accounts = (l.accounts.insert payer transfer.remainderCommitment).insert payee
        (balance + transfer.amountCommitment) := by
  simp only [applyTransfer, map_eq_some_iff] at h
  obtain ⟨balance, hlookup, hm⟩ := h
  rw [lookup_insert_ne hne.symm] at hlookup
  exact ⟨balance, hlookup, by rw [← hm]⟩

section Transfers

variable [DecidableEq V] [Module Scalar V]

def checkAmountRange (l : Ledger V) (transfer : Transfer V) (context : Bytes) :
    Bool → Check
  | true =>
    match transfer.amountRange with
    | some _ => .error "an externally bounded amount carries a stale range proof"
    | none => .ok ()
  | false =>
    match transfer.amountRange with
    | none => .error "the amount carries no range proof"
    | some (proof, commitment) => do
      require (commitment = transfer.amountCommitment)
        "the range proof is about a different amount"
      require (proof.verifyMultiple 1 (l.gens transfer.tag).g (l.gens transfer.tag).h
        (rangeContext "qomm:defmi:amt" context transfer.tag) [commitment] l.bits = true)
        "amount not shown to be within the ledger range"

def checkTransfer (l : Ledger V) (payer : Bytes) (transfer : Transfer V) (context : Bytes)
    (amountBounded : Bool) : Check := do
  let balance ← okOr (l.accounts.lookup payer) "unknown payer handle"
  l.checkAmountRange transfer context amountBounded
  require (transfer.remainderRange.verifyMultiple 1 (l.gens transfer.tag).g
    (l.gens transfer.tag).h (rangeContext "qomm:defmi:rem" context transfer.tag)
    [transfer.remainderCommitment] l.bits = true) "payer would be left with a negative balance"
  require (balance - transfer.amountCommitment = transfer.remainderCommitment)
    "remainder does not equal balance minus amount"

def settleTransfer (l : Ledger V) (payer payee : Bytes) (transfer : Transfer V) (context : Bytes)
    (amountBounded : Bool) : Result (Ledger V) := do
  require (payee ∈ l.accounts) "unknown payee handle"
  l.checkTransfer payer transfer context amountBounded
  okOr (l.applyTransfer payer payee transfer) "panic: unknown account"

def prepareTransfer (l : Ledger V) (leg payer payee : Bytes) (transfer : Transfer V)
    (context : Bytes) (amountBounded : Bool) (deadline : ℕ) (releaseKey : V) :
    Result (Ledger V) := do
  require (leg ∉ l.pending) "that leg is already prepared"
  require (leg ∉ l.spentLegs) "that leg name has been used before"
  require (payee ∈ l.accounts) "unknown payee handle"
  l.checkTransfer payer transfer context amountBounded
  pure { l with
    accounts := l.accounts.insert payer transfer.remainderCommitment
    spentLegs := insert leg l.spentLegs
    pending := l.pending.insert leg ⟨payer, releaseKey, payee, transfer.amountCommitment, deadline⟩ }

end Transfers

def snapshot (l : Ledger V) : Table Bytes V := l.accounts

def credit (l : Ledger V) (handle leg : Bytes) (amount : V) : Result (Ledger V) := do
  let balance ← okOr (l.accounts.lookup handle) "panic: unknown account"
  pure { l with
    pending := l.pending.erase leg
    accounts := l.accounts.insert handle (balance + amount) }

def commitPending (verify : Verifier V Sig) (l : Ledger V) (leg : Bytes) (release : Sig)
    (now : ℕ) : Result (Ledger V) := do
  let held ← okOr (l.pending.lookup leg) "no such prepared leg"
  require (now ≤ held.deadline) "the escrow has expired"
  require (verify held.releaseKey leg release = true) "the release is not signed for this leg"
  l.credit held.payee leg held.amountCommitment

def unwindPending (l : Ledger V) (leg : Bytes) (now : ℕ) : Result (Ledger V) := do
  let held ← okOr (l.pending.lookup leg) "no such prepared leg"
  require (held.deadline < now) "the escrow has not expired"
  l.credit held.payer leg held.amountCommitment

section Escrow

variable {verify : Verifier V Sig} {l m : Ledger V} {now : ℕ} {leg : Bytes}

def PendingOpen (l : Ledger V) : Prop :=
  ∀ leg p, l.pending.lookup leg = some p → p.payer ∈ l.accounts ∧ p.payee ∈ l.accounts

theorem credit_ok {handle : Bytes} {amount : V} (h : l.credit handle leg amount = .ok m) :
    ∃ balance, l.accounts.lookup handle = some balance ∧ m.pending = l.pending.erase leg ∧
      m.accounts = l.accounts.insert handle (balance + amount) := by
  simp only [credit, ok_iff] at h
  obtain ⟨balance, hbalance, rfl⟩ := h
  exact ⟨balance, hbalance, rfl, rfl⟩

theorem commitPending_ok {release : Sig} (h : l.commitPending verify leg release now = .ok m) :
    ∃ p, l.pending.lookup leg = some p ∧ now ≤ p.deadline ∧
      verify p.releaseKey leg release = true ∧ l.credit p.payee leg p.amountCommitment = .ok m := by
  simp only [commitPending, ok_iff] at h
  obtain ⟨p, hp, hnow, hverify, hcredit⟩ := h
  exact ⟨p, hp, hnow, hverify, hcredit⟩

theorem unwindPending_ok (h : l.unwindPending leg now = .ok m) :
    ∃ p, l.pending.lookup leg = some p ∧ p.deadline < now ∧
      l.credit p.payer leg p.amountCommitment = .ok m := by
  simp only [unwindPending, ok_iff] at h
  obtain ⟨p, hp, hnow, hcredit⟩ := h
  exact ⟨p, hp, hnow, hcredit⟩

theorem commitPending_of_pending {p : Pending V} {release : Sig} (hopen : l.PendingOpen)
    (hp : l.pending.lookup leg = some p) (hnow : now ≤ p.deadline)
    (hverify : verify p.releaseKey leg release = true) :
    ∃ m, l.commitPending verify leg release now = .ok m := by
  obtain ⟨balance, hbalance⟩ :=
    isSome_iff_exists.mp (lookup_isSome.mpr (hopen leg p hp).2)
  refine ⟨{ l with
    pending := l.pending.erase leg
    accounts := l.accounts.insert p.payee (balance + p.amountCommitment) }, ?_⟩
  simp only [commitPending, credit, ok_iff]
  exact ⟨p, hp, hnow, hverify, balance, hbalance, rfl⟩

end Escrow

section Specs

variable [DecidableEq V] [Module Scalar V] {l m : Ledger V} {payer payee context : Bytes}
  {transfer : Transfer V}

theorem checkTransfer_ok {bounded : Bool} {u : Unit}
    (h : l.checkTransfer payer transfer context bounded = .ok u) :
    ∃ balance, l.accounts.lookup payer = some balance ∧
      l.checkAmountRange transfer context bounded = .ok () ∧
      transfer.remainderRange.verifyMultiple 1 (l.gens transfer.tag).g (l.gens transfer.tag).h
        (rangeContext "qomm:defmi:rem" context transfer.tag)
        [transfer.remainderCommitment] l.bits = true ∧
      balance - transfer.amountCommitment = transfer.remainderCommitment := by
  simp only [checkTransfer, ok_iff] at h
  obtain ⟨balance, hbalance, hamount, hrange, heq⟩ := h
  exact ⟨balance, hbalance, hamount, hrange, heq⟩

def Backed (l : Ledger V) (A : V) : Prop :=
  ∀ handle c, l.accounts.lookup handle = some c → ∃ v, v < 2 ^ l.bits ∧ Holds A l.key.h c v

/-- Measured under `A`, the payer falls by exactly `n` and keeps a value in
range, and the payee rises by exactly `n`. -/
def MovesExactly (A : V) (before after : Ledger V) (payer payee : Bytes) (n : ℕ) : Prop :=
  ∃ c d c' d' v w, before.accounts.lookup payer = some c ∧ before.accounts.lookup payee = some d ∧
    after.accounts.lookup payer = some c' ∧ after.accounts.lookup payee = some d' ∧
    Holds A before.key.h c v ∧ v < 2 ^ before.bits ∧
    Holds A before.key.h d w ∧ w < 2 ^ before.bits ∧
    n ≤ v ∧ v - n < 2 ^ before.bits ∧
    Holds A before.key.h c' (v - n) ∧ Holds A before.key.h d' (w + n)

/-- A bounded transfer of `n` under its own generator moves `n` under the
accounts' generator exactly when nothing moves or the leg's generator is the
accounts' one, blinded. -/
theorem movesExactly_iff {A : V} {n : ℕ} (hi : Independent A l.key.h) (hb : l.Backed A)
    (hn : n < 2 ^ 128) (hne : payer ≠ payee)
    (hc : l.checkTransfer payer transfer context true = .ok ())
    (ha : l.applyTransfer payer payee transfer = some m)
    (hopen : Holds (l.gens transfer.tag).g l.key.h transfer.amountCommitment n) :
    MovesExactly A l m payer payee n ↔ n = 0 ∨ Reblinds A l.key.h (l.gens transfer.tag).g := by
  obtain ⟨c, hpayer, _, hrange, hrem⟩ := checkTransfer_ok hc
  obtain ⟨d, hpayee, hm⟩ := applyTransfer_some ha hne
  have hpayer' : m.accounts.lookup payer = some transfer.remainderCommitment := by
    rw [hm, lookup_insert_ne hne, lookup_insert]
  have hpayee' : m.accounts.lookup payee = some (d + transfer.amountCommitment) := by
    rw [hm, lookup_insert]
  have hzero : ∀ P : Prop, ((n : Scalar) = 0 ∨ P) ↔ (n = 0 ∨ P) := by
    intro P
    have hcast : (n : Scalar) = 0 ↔ n = 0 := by
      refine ⟨natCast_scalar_eq_zero (by omega), fun h => by simp [h]⟩
    rw [hcast]
  rw [← hzero, ← opens_transfer_iff hopen]
  constructor
  · intro hmoves
    obtain ⟨c₀, d₀, c', d', v, w, _, hd₀, _, hd', _, _, hw, _, _, _, _, hafter⟩ := hmoves
    obtain rfl : d = d₀ := some.inj (hpayee.symm.trans hd₀)
    obtain rfl : d + transfer.amountCommitment = d' := some.inj (hpayee'.symm.trans hd')
    have hdiff := Opens.sub hafter hw
    have hval : ((w + n : ℕ) : Scalar) - (w : Scalar) = n := by push_cast; ring
    rw [hval] at hdiff
    simpa using hdiff
  · intro hamount
    obtain ⟨v, hv, hcv⟩ := hb payer c hpayer
    obtain ⟨w, hw, hdw⟩ := hb payee d hpayee
    rw [gens_h] at hrange
    obtain ⟨hbits, x, hx, hrx⟩ := RangeProof.verifyMultiple_single hrange
    have hpow : 2 ^ l.bits ≤ 2 ^ 64 := Nat.pow_le_pow_right (by norm_num) hbits
    have hremA : Opens A l.key.h transfer.remainderCommitment ((v : Scalar) - n) := by
      rw [← hrem]; exact Opens.sub hcv hamount
    have hle : n ≤ v ∧ Holds A l.key.h transfer.remainderCommitment (v - n) := by
      have hle : n ≤ v := by
        by_cases hn0 : n = 0
        · omega
        have hTn : (n : Scalar) ≠ 0 := fun h => hn0 (natCast_scalar_eq_zero (by omega) h)
        have hre : Reblinds A l.key.h (l.gens transfer.tag).g :=
          reblinds_of_opens hTn hopen hamount
        have hxv : (x : Scalar) = (v : Scalar) - n := hi.opens_unique (hre.opens hrx) hremA
        have hsum : ((x + n : ℕ) : Scalar) = (v : Scalar) := by push_cast; rw [hxv]; ring
        have hnat := natCast_scalar_inj (by omega) (by omega) hsum
        omega
      refine ⟨hle, ?_⟩
      unfold Holds
      rwa [Nat.cast_sub hle]
    exact ⟨c, d, _, _, v, w, hpayer, hpayee, hpayer', hpayee', hcv, hv, hdw, hw, hle.1, by omega,
      hle.2, Holds.add hdw hamount⟩

end Specs

end Ledger

inductive LedgerOp (V Sig : Type) where
  | «open» (handle : Bytes) (balance : V)
  | openAuthorised (handle : Bytes) (balance : V) (nonce authorisation : Bytes)
  | settleTransfer (payer payee : Bytes) (transfer : Transfer V) (context : Bytes)
      (amountBounded : Bool)
  | prepareTransfer (leg payer payee : Bytes) (transfer : Transfer V) (context : Bytes)
      (amountBounded : Bool) (deadline : ℕ) (releaseKey : V)
  | commitPending (leg : Bytes) (release : Sig)
  | unwindPending (leg : Bytes)

namespace Ledger

section Steps

variable {V Sig : Type} [AddCommGroup V] [DecidableEq V] [Module Scalar V]

def step (issuance : IssuanceVerifier V) (verify : Verifier V Sig)
    (l : Ledger V) (now : ℕ) : LedgerOp V Sig → Result (Ledger V)
  | .open handle balance => okOr (l.open handle balance) "panic: failed assertion"
  | .openAuthorised handle balance nonce authorisation =>
    l.openAuthorised issuance handle balance nonce authorisation
  | .settleTransfer payer payee transfer context amountBounded =>
    l.settleTransfer payer payee transfer context amountBounded
  | .prepareTransfer leg payer payee transfer context amountBounded deadline releaseKey =>
    l.prepareTransfer leg payer payee transfer context amountBounded deadline releaseKey
  | .commitPending leg release => l.commitPending verify leg release now
  | .unwindPending leg => l.unwindPending leg now

variable {issuance : IssuanceVerifier V} {verify : Verifier V Sig} {l m : Ledger V} {now : ℕ}
  {op : LedgerOp V Sig} {leg : Bytes}

theorem prepareTransfer_ok {payer payee context : Bytes} {transfer : Transfer V} {bounded : Bool}
    {deadline : ℕ} {releaseKey : V}
    (h : l.prepareTransfer leg payer payee transfer context bounded deadline releaseKey = .ok m) :
    leg ∉ l.pending ∧ payee ∈ l.accounts ∧ payer ∈ l.accounts ∧
      m.accounts = l.accounts.insert payer transfer.remainderCommitment ∧
      m.pending = l.pending.insert leg
        ⟨payer, releaseKey, payee, transfer.amountCommitment, deadline⟩ := by
  simp only [prepareTransfer, ok_iff] at h
  obtain ⟨hleg, _, hpayee, hcheck, rfl⟩ := h
  obtain ⟨balance, hpayer, _⟩ := checkTransfer_ok hcheck
  exact ⟨hleg, hpayee, lookup_isSome.mp (by simp [hpayer]), rfl, rfl⟩

section
variable (h : l.step issuance verify now op = .ok m)
include h

/-- What an accepted operation does to the escrows: nothing, one new entry
between open accounts, or one entry released in time or unwound after it. -/
theorem step_cases : (∀ handle ∈ l.accounts, handle ∈ m.accounts) ∧
      (m.pending = l.pending ∨
        (∃ leg p, leg ∉ l.pending ∧ p.payer ∈ l.accounts ∧ p.payee ∈ l.accounts ∧
          m.pending = l.pending.insert leg p) ∨
        ∃ leg p, l.pending.lookup leg = some p ∧ m.pending = l.pending.erase leg ∧
          ((∃ release, op = .commitPending leg release ∧ now ≤ p.deadline ∧
              verify p.releaseKey leg release = true) ∨
            op = .unwindPending leg ∧ p.deadline < now)) := by
  cases op with
  | «open» handle balance =>
    simp only [step, Ledger.open, okOr_eq_ok] at h
    split at h
    · cases h
      exact ⟨fun other hother => by simp [hother], .inl rfl⟩
    · cases h
  | openAuthorised =>
    simp only [step, openAuthorised, ok_iff] at h
    obtain ⟨_, _, _, _, _, rfl⟩ := h
    exact ⟨fun other hother => by simp [hother], .inl rfl⟩
  | settleTransfer =>
    simp only [step, settleTransfer, applyTransfer, ok_iff, map_eq_some_iff] at h
    obtain ⟨_, _, balance, _, rfl⟩ := h
    exact ⟨fun other hother => by simp [hother], .inl rfl⟩
  | prepareTransfer leg payer payee transfer context bounded deadline releaseKey =>
    obtain ⟨hleg, hpayee, hpayer, haccounts, hpending⟩ := prepareTransfer_ok h
    exact ⟨fun other hother => by simp [haccounts, hother],
      .inr (.inl ⟨leg, _, hleg, hpayer, hpayee, hpending⟩)⟩
  | commitPending leg release =>
    obtain ⟨p, hp, hnow, hverify, hcredit⟩ := commitPending_ok h
    obtain ⟨_, _, hpending, haccounts⟩ := credit_ok hcredit
    exact ⟨fun other hother => by simp [haccounts, hother],
      .inr (.inr ⟨leg, p, hp, hpending, .inl ⟨release, rfl, hnow, hverify⟩⟩)⟩
  | unwindPending leg =>
    obtain ⟨p, hp, hnow, hcredit⟩ := unwindPending_ok h
    obtain ⟨_, _, hpending, haccounts⟩ := credit_ok hcredit
    exact ⟨fun other hother => by simp [haccounts, hother],
      .inr (.inr ⟨leg, p, hp, hpending, .inr ⟨rfl, hnow⟩⟩)⟩

theorem step_pending {p : Pending V} (hp : l.pending.lookup leg = some p) :
    m.pending.lookup leg = some p ∨
      (∃ release, op = .commitPending leg release ∧ now ≤ p.deadline ∧
        verify p.releaseKey leg release = true) ∨
      op = .unwindPending leg ∧ p.deadline < now := by
  obtain ⟨_, hsame | ⟨other, q, hother, _, _, hinsert⟩ | ⟨other, q, hq, herase, hcause⟩⟩ :=
    step_cases h
  · exact .inl (hsame ▸ hp)
  · grind
  · grind

theorem step_pendingOpen (hopen : l.PendingOpen) : m.PendingOpen := by
  obtain ⟨hgrow, hcases⟩ := step_cases h
  intro leg p hp
  have hparties : p.payer ∈ l.accounts ∧ p.payee ∈ l.accounts := by
    grind [PendingOpen]
  exact ⟨hgrow _ hparties.1, hgrow _ hparties.2⟩

end

end Steps
end Ledger

section Sample

/-- Points with two independent generators, as coordinates. -/
abbrev Plane := Scalar × Scalar

-- The literals of the samples, with one proof each for all modules.
instance two_atLeastTwo : Nat.AtLeastTwo 2 := inferInstance
instance three_atLeastTwo : Nat.AtLeastTwo 3 := inferInstance
instance four_atLeastTwo : Nat.AtLeastTwo 4 := inferInstance
instance five_atLeastTwo : Nat.AtLeastTwo 5 := inferInstance
instance seven_atLeastTwo : Nat.AtLeastTwo 7 := inferInstance
instance ten_atLeastTwo : Nat.AtLeastTwo 10 := inferInstance

def planeKey : Pedersen Plane := ⟨(1, 0), (0, 1)⟩

theorem planeKey_independent : Independent planeKey.g planeKey.h := by
  intro a b h
  simpa [planeKey] using h

theorem holds_plane {c : Plane} {n : ℕ} : Holds planeKey.g planeKey.h c n ↔ c.1 = (n : Scalar) := by
  constructor
  · intro h
    obtain ⟨r, hr⟩ := h
    rw [hr]
    simp [planeKey]
  · intro h
    refine ⟨c.2, Prod.ext ?_ ?_⟩
    · simp [planeKey, h]
    · simp [planeKey]

end Sample
end DeFMI
