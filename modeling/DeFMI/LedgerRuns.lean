import DeFMI.Ledger
import DeFMI.Lib.Transaction
set_option autoImplicit false

/-!
Whole histories of one account ledger. The methods change the ledger in place,
statement by statement; each is shown to be the update its pure model computes,
and what a history keeps is then read off one description of a step.
-/

namespace DeFMI
open Lib InPlace Table AList Option LedgerOp

namespace Ledger

variable {V Sig : Type} [AddCommGroup V]

def start (key : Pedersen V) (bits : ℕ) : Option Bytes → Ledger V
  | some issuer => Ledger.underIssuer key bits issuer
  | none => Ledger.new key bits

/-! The methods in the order of their statements. A panic is an error whose
earlier writes stay. -/

namespace Mut

def «open» (handle : Bytes) (balance : V) : InPlace (Ledger V) Unit := do
  check fun l => require (l.issuer.isNone = true) "panic: failed assertion"
  check fun l => require (handle ∉ l.accounts) "panic: failed assertion"
  modify fun l => { l with accounts := l.accounts.insert handle balance }
  modify fun l => { l with minted := l.minted + balance }

def applyTransfer (payer payee : Bytes) (transfer : Transfer V) : InPlace (Ledger V) Unit := do
  modify fun l =>
    { l with accounts := l.accounts.insert payer transfer.remainderCommitment }
  let balance ← check fun l => okOr (l.accounts.lookup payee) "panic: unknown account"
  modify fun l =>
    { l with accounts := l.accounts.insert payee (balance + transfer.amountCommitment) }

def credit (handle leg : Bytes) (amount : V) : InPlace (Ledger V) Unit := do
  modify fun l => { l with pending := l.pending.erase leg }
  let balance ← check fun l => okOr (l.accounts.lookup handle) "panic: unknown account"
  modify fun l => { l with accounts := l.accounts.insert handle (balance + amount) }

def commitPending (verify : Verifier V Sig) (leg : Bytes) (release : Sig) (now : ℕ) :
    InPlace (Ledger V) Unit := do
  let held ← check fun l => okOr (l.pending.lookup leg) "no such prepared leg"
  check fun _ => require (now ≤ held.deadline) "the escrow has expired"
  check fun _ => require (verify held.releaseKey leg release = true)
    "the release is not signed for this leg"
  credit held.payee leg held.amountCommitment

def unwindPending (leg : Bytes) (now : ℕ) : InPlace (Ledger V) Unit := do
  let held ← check fun l => okOr (l.pending.lookup leg) "no such prepared leg"
  check fun _ => require (held.deadline < now) "the escrow has not expired"
  credit held.payer leg held.amountCommitment

variable [DecidableEq V]

def openAuthorised (verify : IssuanceVerifier V) (handle : Bytes) (balance : V)
    (nonce authorisation : Bytes) : InPlace (Ledger V) Unit := do
  let issuer ← check fun l => okOr l.issuer "this ledger has no issuer"
  check fun l => require (handle ∉ l.accounts) "handle already open"
  let body : IssuanceBody V := ⟨handle, balance, nonce⟩
  check fun l => require (body ∉ l.issued) "that issuance authorisation was already used"
  check fun _ => require (verify issuer body authorisation = true)
    "the opening balance is not signed by the issuer"
  modify fun l => { l with issued := insert body l.issued }
  modify fun l => { l with accounts := l.accounts.insert handle balance }
  modify fun l => { l with minted := l.minted + balance }

variable [Module Scalar V]

def settleTransfer (payer payee : Bytes) (transfer : Transfer V) (context : Bytes)
    (amountBounded : Bool) : InPlace (Ledger V) Unit := do
  check fun l => require (payee ∈ l.accounts) "unknown payee handle"
  check fun l => l.checkTransfer payer transfer context amountBounded
  applyTransfer payer payee transfer

def prepareTransfer (leg payer payee : Bytes) (transfer : Transfer V) (context : Bytes)
    (amountBounded : Bool) (deadline : ℕ) (releaseKey : V) : InPlace (Ledger V) Unit := do
  check fun l => require (leg ∉ l.pending) "that leg is already prepared"
  check fun l => require (leg ∉ l.spentLegs) "that leg name has been used before"
  check fun l => require (payee ∈ l.accounts) "unknown payee handle"
  check fun l => l.checkTransfer payer transfer context amountBounded
  modify fun l =>
    { l with accounts := l.accounts.insert payer transfer.remainderCommitment }
  modify fun l => { l with spentLegs := insert leg l.spentLegs }
  let entry : Pending V := ⟨payer, releaseKey, payee, transfer.amountCommitment, deadline⟩
  modify fun l => { l with pending := l.pending.insert leg entry }

end Mut

section Pure

variable {verify : Verifier V Sig} {l : Ledger V}

/-- The only panic of an application is a payee that is not open. -/
theorem applyTransfer_of_open {payee : Bytes} (payer : Bytes) (transfer : Transfer V)
    (h : payee ∈ l.accounts) : ∃ m, l.applyTransfer payer payee transfer = some m := by
  have hpayee : payee ∈ l.accounts.insert payer transfer.remainderCommitment := by simp [h]
  obtain ⟨balance, hbalance⟩ := isSome_iff_exists.mp (lookup_isSome.mpr hpayee)
  simp [applyTransfer, hbalance]

theorem okOr_open (handle : Bytes) (balance : V) (l : Ledger V) :
    okOr (l.open handle balance) "panic: failed assertion" = (do
      require (l.issuer.isNone = true) "panic: failed assertion"
      require (handle ∉ l.accounts) "panic: failed assertion"
      pure { l with
        accounts := l.accounts.insert handle balance
        minted := l.minted + balance }) := by
  unfold Ledger.open require okOr
  by_cases hissuer : l.issuer.isNone = true
  · by_cases hfresh : handle ∈ l.accounts
    · simp only [hissuer, hfresh]; rfl
    · simp only [hissuer, hfresh]; rfl
  · simp only [hissuer]; rfl

theorem Mut.open_eq (handle : Bytes) (balance : V) :
    Mut.open handle balance l =
      update (fun l => okOr (l.open handle balance) "panic: failed assertion") l := by
  simp only [okOr_open]
  iterate 2 refine check_bind_eq_update fun _ _ => ?_
  rfl

theorem Mut.credit_eq {handle leg : Bytes} {amount : V} (h : handle ∈ l.accounts) :
    Mut.credit handle leg amount l = update (fun l => l.credit handle leg amount) l := by
  obtain ⟨balance, hbalance⟩ := isSome_iff_exists.mp (lookup_isSome.mpr h)
  have hpure : l.credit handle leg amount = .ok { l with
      pending := l.pending.erase leg
      accounts := l.accounts.insert handle (balance + amount) } := by
    simp only [Ledger.credit, hbalance]; rfl
  simp only [update, hpure]
  simp [Mut.credit, hbalance]

theorem Mut.commitPending_eq {leg : Bytes} {release : Sig} {now : ℕ} (hopen : l.PendingOpen) :
    Mut.commitPending verify leg release now l =
      update (fun l => l.commitPending verify leg release now) l := by
  refine check_bind_eq_update ?_
  intro held hheld
  iterate 2 refine check_bind_eq_update fun _ _ => ?_
  exact Mut.credit_eq (hopen leg held (okOr_eq_ok.mp hheld)).2

theorem Mut.unwindPending_eq {leg : Bytes} {now : ℕ} (hopen : l.PendingOpen) :
    Mut.unwindPending leg now l = update (fun l => l.unwindPending leg now) l := by
  refine check_bind_eq_update ?_
  intro held hheld
  refine check_bind_eq_update fun _ _ => ?_
  exact Mut.credit_eq (hopen leg held (okOr_eq_ok.mp hheld)).1

variable [DecidableEq V]

theorem Mut.openAuthorised_eq {issuance : IssuanceVerifier V} {handle : Bytes}
    {balance : V} {nonce authorisation : Bytes} :
    Mut.openAuthorised issuance handle balance nonce authorisation l =
      update (fun l => l.openAuthorised issuance handle balance nonce authorisation) l := by
  iterate 4 refine check_bind_eq_update fun _ _ => ?_
  rfl

variable [Module Scalar V]

theorem Mut.settleTransfer_eq {payer payee context : Bytes} {transfer : Transfer V}
    {bounded : Bool} :
    Mut.settleTransfer payer payee transfer context bounded l =
      update (fun l => l.settleTransfer payer payee transfer context bounded) l := by
  refine check_bind_eq_update ?_
  intro _ hpayee
  refine check_bind_eq_update fun _ _ => ?_
  have hpayee' : payee ∈ l.accounts.insert payer transfer.remainderCommitment := by
    simp [require_eq_ok.mp hpayee]
  obtain ⟨balance, hbalance⟩ := isSome_iff_exists.mp (lookup_isSome.mpr hpayee')
  simp [Mut.applyTransfer, Ledger.applyTransfer, update, hbalance, okOr]

theorem Mut.prepareTransfer_eq {leg payer payee context : Bytes} {transfer : Transfer V}
    {bounded : Bool} {deadline : ℕ} {releaseKey : V} :
    Mut.prepareTransfer leg payer payee transfer context bounded deadline releaseKey l =
      update (fun l =>
        l.prepareTransfer leg payer payee transfer context bounded deadline releaseKey) l := by
  iterate 4 refine check_bind_eq_update fun _ _ => ?_
  rfl

end Pure

section Worth

variable {l m : Ledger V} {p : Pending V} {transfer : Transfer V}

theorem start_pendingOpen (key : Pedersen V) (bits : ℕ) (issuer : Option Bytes) :
    (start key bits issuer).PendingOpen := by
  intro leg p hp
  cases issuer with
  | none => simp [start, Ledger.new] at hp
  | some => simp [start, underIssuer, Ledger.new] at hp

def worth (l : Ledger V) : V := l.booked + l.held

theorem conserved_iff [DecidableEq V] : l.conserved = true ↔ l.worth = l.minted := by
  simp [conserved, worth]

/-- `balance` is what `handle` has, and `m` is `l` with the escrow `leg` paid into it. -/
def Credits (l m : Ledger V) (handle leg : Bytes) (amount : V) : Prop :=
  ∃ balance, l.accounts.lookup handle = some balance ∧ m = { l with
    pending := l.pending.erase leg
    accounts := l.accounts.insert handle (balance + amount) }

theorem credits_of_credit {handle leg : Bytes} {amount : V}
    (h : l.credit handle leg amount = .ok m) : l.Credits m handle leg amount := by
  simp only [credit, ok_iff] at h
  obtain ⟨balance, hbalance, rfl⟩ := h
  exact ⟨balance, hbalance, rfl⟩

theorem credit_worth {handle leg : Bytes} (hp : l.pending.lookup leg = some p)
    (h : l.Credits m handle leg p.amountCommitment) : m.worth = l.worth := by
  obtain ⟨balance, hbalance, rfl⟩ := h
  have hout := total_erase (fun _ (p : Pending V) => p.amountCommitment) hp
  have hin := total_insert_of_lookup (w := balance + p.amountCommitment)
    (fun _ (c : V) => c) hbalance
  unfold worth booked held
  rw [hout]
  have hbooked : total (fun _ c => c) (l.accounts.insert handle (balance + p.amountCommitment)) =
      total (fun _ c => c) l.accounts + p.amountCommitment :=
    add_right_cancel (b := balance) (by rw [hin]; abel)
  rw [hbooked]
  abel

theorem applyTransfer_frame {payer payee : Bytes}
    (h : l.applyTransfer payer payee transfer = some m) :
    m.pending = l.pending ∧ m.spentLegs = l.spentLegs ∧ m.key = l.key ∧ m.bits = l.bits := by
  simp only [applyTransfer, map_eq_some_iff] at h
  obtain ⟨_, _, rfl⟩ := h
  exact ⟨rfl, rfl, rfl, rfl⟩

structure EscrowsKnown (l : Ledger V) : Prop where
  parties : l.PendingOpen
  spent : ∀ leg ∈ l.pending, leg ∈ l.spentLegs

theorem start_escrowsKnown (key : Pedersen V) (bits : ℕ) (issuer : Option Bytes) :
    (start key bits issuer).EscrowsKnown := by
  refine ⟨start_pendingOpen key bits issuer, ?_⟩
  intro leg hleg
  cases issuer with
  | none => simp [start, Ledger.new] at hleg
  | some => simp [start, underIssuer, Ledger.new] at hleg

end Worth
end Ledger

def LedgerOp.opened {V Sig : Type} [Zero V] : LedgerOp V Sig → V
  | .open _ balance => balance
  | .openAuthorised _ balance _ _ => balance
  | .settleTransfer .. => 0
  | .prepareTransfer .. => 0
  | .commitPending .. => 0
  | .unwindPending .. => 0

def LedgerOp.entry {V Sig : Type} (leg : Bytes) : LedgerOp V Sig → Option (Pending V)
  | .prepareTransfer name payer payee transfer _ _ deadline releaseKey =>
    if name = leg then some ⟨payer, releaseKey, payee, transfer.amountCommitment, deadline⟩
    else none
  | .open .. => none
  | .openAuthorised .. => none
  | .settleTransfer .. => none
  | .commitPending .. => none
  | .unwindPending .. => none

namespace Ledger

variable {V Sig : Type} [AddCommGroup V] [DecidableEq V] [Module Scalar V]

def Effect (verify : Verifier V Sig) (now : ℕ) (op : LedgerOp V Sig) (l m : Ledger V) :
    Prop :=
  match op with
  | .open handle balance =>
    handle ∉ l.accounts ∧ m = { l with
      accounts := l.accounts.insert handle balance
      minted := l.minted + balance }
  | .openAuthorised handle balance nonce _ =>
    handle ∉ l.accounts ∧ m = { l with
      issued := insert ⟨handle, balance, nonce⟩ l.issued
      accounts := l.accounts.insert handle balance
      minted := l.minted + balance }
  | .settleTransfer payer payee transfer context bounded =>
    payee ∈ l.accounts ∧ l.checkTransfer payer transfer context bounded = .ok () ∧
      l.applyTransfer payer payee transfer = some m
  | .prepareTransfer leg payer payee transfer context bounded deadline releaseKey =>
    leg ∉ l.pending ∧ leg ∉ l.spentLegs ∧
      l.checkTransfer payer transfer context bounded = .ok () ∧ m = { l with
        accounts := l.accounts.insert payer transfer.remainderCommitment
        spentLegs := insert leg l.spentLegs
        pending := l.pending.insert leg
          ⟨payer, releaseKey, payee, transfer.amountCommitment, deadline⟩ }
  | .commitPending leg release =>
    ∃ p, l.pending.lookup leg = some p ∧ now ≤ p.deadline ∧
      verify p.releaseKey leg release = true ∧ l.Credits m p.payee leg p.amountCommitment
  | .unwindPending leg =>
    ∃ p, l.pending.lookup leg = some p ∧ p.deadline < now ∧
      l.Credits m p.payer leg p.amountCommitment

def perform (issuance : IssuanceVerifier V) (verify : Verifier V Sig)
    (call : ℕ × LedgerOp V Sig) : InPlace (Ledger V) Unit :=
  match call.2 with
  | .open handle balance => Mut.open handle balance
  | .openAuthorised handle balance nonce authorisation =>
    Mut.openAuthorised issuance handle balance nonce authorisation
  | .settleTransfer payer payee transfer context bounded =>
    Mut.settleTransfer payer payee transfer context bounded
  | .prepareTransfer leg payer payee transfer context bounded deadline releaseKey =>
    Mut.prepareTransfer leg payer payee transfer context bounded deadline releaseKey
  | .commitPending leg release => Mut.commitPending verify leg release call.1
  | .unwindPending leg => Mut.unwindPending leg call.1

section Runs

variable {issuance : IssuanceVerifier V} {verify : Verifier V Sig} {l m : Ledger V} {now : ℕ}
  {call : ℕ × LedgerOp V Sig} {op : LedgerOp V Sig}

theorem step_effect (h : l.step issuance verify now op = .ok m) : Effect verify now op l m := by
  cases op with
  | «open» handle balance =>
    simp only [step, okOr_open, ok_iff] at h
    obtain ⟨_, hfresh, rfl⟩ := h
    exact ⟨hfresh, rfl⟩
  | openAuthorised =>
    simp only [step, openAuthorised, ok_iff] at h
    obtain ⟨_, _, hfresh, _, _, rfl⟩ := h
    exact ⟨hfresh, rfl⟩
  | settleTransfer =>
    simp only [step, settleTransfer, ok_iff] at h
    obtain ⟨hpayee, hcheck, happly⟩ := h
    exact ⟨hpayee, hcheck, happly⟩
  | prepareTransfer =>
    simp only [step, prepareTransfer, ok_iff] at h
    obtain ⟨hleg, hspent, _, hcheck, rfl⟩ := h
    exact ⟨hleg, hspent, hcheck, rfl⟩
  | commitPending =>
    obtain ⟨p, hp, hnow, hverify, hcredit⟩ := commitPending_ok h
    exact ⟨p, hp, hnow, hverify, credits_of_credit hcredit⟩
  | unwindPending =>
    obtain ⟨p, hp, hnow, hcredit⟩ := unwindPending_ok h
    exact ⟨p, hp, hnow, credits_of_credit hcredit⟩

theorem perform_eq (hopen : l.PendingOpen) :
    perform issuance verify call l =
      update (fun l => l.step issuance verify call.1 call.2) l := by
  obtain ⟨now, op⟩ := call
  cases op with
  | «open» handle balance => exact Mut.open_eq handle balance
  | openAuthorised => exact Mut.openAuthorised_eq
  | settleTransfer => exact Mut.settleTransfer_eq
  | prepareTransfer =>
    exact Mut.prepareTransfer_eq
  | commitPending => exact Mut.commitPending_eq hopen
  | unwindPending => exact Mut.unwindPending_eq hopen

variable {transfer : Transfer V} {bounded : Bool} {payer context : Bytes} {u : Unit} {p : Pending V}

theorem step_of_perform (hopen : l.PendingOpen) (h : perform issuance verify call l = (.ok u, m)) :
    l.step issuance verify call.1 call.2 = .ok m := by
  rw [perform_eq hopen] at h
  exact update_eq.mp h

theorem perform_restores {e : String} (hopen : l.PendingOpen)
    (h : perform issuance verify call l = (.error e, m)) : m = l := by
  rw [perform_eq hopen] at h
  exact restores_update _ l e m h

theorem perform_pendingOpen (hopen : l.PendingOpen)
    (h : perform issuance verify call l = (.ok u, m)) : m.PendingOpen :=
  step_pendingOpen (step_of_perform hopen h) hopen

theorem run_pendingOpen (hopen : l.PendingOpen) (calls : List (ℕ × LedgerOp V Sig)) :
    (run (perform issuance verify) l calls).PendingOpen :=
  run_invariant (fun _ _ _ _ => perform_pendingOpen)
    (fun _ _ _ _ hopen h => perform_restores hopen h ▸ hopen) calls hopen

theorem booked_debit (h : l.checkTransfer payer transfer context bounded = .ok u) :
    total (fun _ c => c) (l.accounts.insert payer transfer.remainderCommitment) +
      transfer.amountCommitment = l.booked := by
  obtain ⟨balance, hbalance, _, _, heq⟩ := checkTransfer_ok h
  have hmove := total_insert_of_lookup (w := transfer.remainderCommitment)
    (fun _ (c : V) => c) hbalance
  have hsplit : balance = transfer.remainderCommitment + transfer.amountCommitment := by
    rw [← heq]; abel
  refine add_right_cancel (b := transfer.remainderCommitment) ?_
  rw [booked, ← hmove, hsplit]
  abel

/-- A transfer that was checked keeps the books, also when it pays its own payer. -/
theorem applyTransfer_booked {payer payee context : Bytes}
    (hc : l.checkTransfer payer transfer context bounded = .ok u)
    (ha : l.applyTransfer payer payee transfer = some m) :
    m.booked = l.booked ∧ m.pending = l.pending ∧ m.minted = l.minted := by
  simp only [applyTransfer, map_eq_some_iff] at ha
  obtain ⟨balance, hbalance, rfl⟩ := ha
  have hmove := total_insert_of_lookup (w := balance + transfer.amountCommitment)
    (fun _ (c : V) => c) hbalance
  refine ⟨add_right_cancel (b := balance) ?_, rfl, rfl⟩
  rw [← booked_debit hc]
  refine Eq.trans hmove ?_
  abel

theorem step_worth (h : l.step issuance verify now op = .ok m) :
    m.worth = l.worth + op.opened ∧ m.minted = l.minted + op.opened := by
  have heffect := step_effect h
  cases op with
  | «open» handle balance =>
    obtain ⟨hfresh, rfl⟩ := heffect
    refine ⟨?_, rfl⟩
    simp only [worth, booked, total_insert_of_not_mem _ hfresh, opened, held]
    abel
  | openAuthorised =>
    obtain ⟨hfresh, rfl⟩ := heffect
    refine ⟨?_, rfl⟩
    simp only [worth, booked, total_insert_of_not_mem _ hfresh, opened, held]
    abel
  | settleTransfer =>
    obtain ⟨_, hcheck, happly⟩ := heffect
    obtain ⟨hbooked, hpending, hminted⟩ := applyTransfer_booked hcheck happly
    simp [worth, held, opened, hbooked, hpending, hminted]
  | prepareTransfer =>
    obtain ⟨hleg, _, hcheck, rfl⟩ := heffect
    refine ⟨?_, by simp [opened]⟩
    simp only [worth, held, opened, total_insert_of_not_mem _ hleg,
      ← booked_debit hcheck]
    rw [booked]
    abel
  | commitPending =>
    obtain ⟨p, hp, _, _, hcredits⟩ := heffect
    have hworth := credit_worth hp hcredits
    obtain ⟨_, _, rfl⟩ := hcredits
    simp [opened, hworth]
  | unwindPending =>
    obtain ⟨p, hp, _, hcredits⟩ := heffect
    have hworth := credit_worth hp hcredits
    obtain ⟨_, _, rfl⟩ := hcredits
    simp [opened, hworth]

/-- After any calls, accepted or refused, the accounts and the escrows add up to
the opening balances that were admitted, and a refused call changes nothing. -/
theorem conserved_after_every_call (issuance : IssuanceVerifier V)
    (verify : Verifier V Sig) (key : Pedersen V) (bits : ℕ) (issuer : Option Bytes)
    (calls : List (ℕ × LedgerOp V Sig)) :
    let l := run (perform issuance verify) (start key bits issuer) calls
    let accepted := history (perform issuance verify) (start key bits issuer) calls
    l.conserved = true ∧ l.booked + l.held = (accepted.map fun step => step.op.2.opened).sum ∧
      ∀ call e m, perform issuance verify call l = (.error e, m) → m = l := by
  intro l accepted
  have hopen := start_pendingOpen (V := V) key bits issuer
  have hzero : (start key bits issuer).worth = 0 ∧ (start key bits issuer).minted = 0 := by
    cases issuer with
    | none => simp [start, Ledger.new, worth, booked, held]
    | some => simp [start, underIssuer, Ledger.new, worth, booked, held]
  have hworth : l.worth = _ := run_eq_add_history worth (fun call => call.2.opened)
    (fun s call u t hs h =>
      ⟨perform_pendingOpen hs h, (step_worth (step_of_perform hs h)).1⟩)
    (fun _ _ _ _ => perform_restores) calls hopen
  have hminted : l.minted = _ := run_eq_add_history minted (fun call => call.2.opened)
    (fun s call u t hs h =>
      ⟨perform_pendingOpen hs h, (step_worth (step_of_perform hs h)).2⟩)
    (fun _ _ _ _ => perform_restores) calls hopen
  rw [hzero.1, zero_add] at hworth
  rw [hzero.2, zero_add] at hminted
  refine ⟨conserved_iff.mpr (hworth.trans hminted.symm), hworth, ?_⟩
  intro call e m h
  exact perform_restores (run_pendingOpen hopen calls) h

def PaidTo (l m : Ledger V) (handle : Bytes) (amount : V) : Prop :=
  ∃ balance, l.accounts.lookup handle = some balance ∧
    m.accounts = l.accounts.insert handle (balance + amount)

def Released (verify : Verifier V Sig) (leg : Bytes) (p : Pending V)
    (call : ℕ × LedgerOp V Sig) (l m : Ledger V) : Prop :=
  (∃ release, call.2 = .commitPending leg release ∧ verify p.releaseKey leg release = true) ∧
    call.1 ≤ p.deadline ∧ l.PaidTo m p.payee p.amountCommitment

def Unwound (leg : Bytes) (p : Pending V) (call : ℕ × LedgerOp V Sig) (l m : Ledger V) : Prop :=
  call.2 = .unwindPending leg ∧ p.deadline < call.1 ∧ l.PaidTo m p.payer p.amountCommitment

attribute [local simp] LedgerOp.entry

section
variable (h : l.step issuance verify now op = .ok m)
include h

theorem step_spentLegs : (∀ leg ∈ l.spentLegs, leg ∈ m.spentLegs) ∧
      ∀ leg p, op.entry leg = some p → leg ∉ l.spentLegs ∧ leg ∈ m.spentLegs := by
  have heffect := step_effect h
  cases op with
  | «open» handle balance => obtain ⟨_, rfl⟩ := heffect; simp
  | openAuthorised =>
    obtain ⟨_, rfl⟩ := heffect
    simp
  | settleTransfer =>
    obtain ⟨_, _, happly⟩ := heffect
    simp [applyTransfer_frame happly]
  | prepareTransfer =>
    obtain ⟨_, hspent, _, rfl⟩ := heffect
    refine ⟨fun leg hleg => Finset.mem_insert_of_mem hleg, ?_⟩
    intro leg p hentry
    simp only [entry] at hentry
    split at hentry
    · next heq => subst heq; exact ⟨hspent, Finset.mem_insert_self _ _⟩
    · cases hentry
  | commitPending =>
    obtain ⟨_, _, _, _, _, _, rfl⟩ := heffect
    simp
  | unwindPending => obtain ⟨_, _, _, _, _, rfl⟩ := heffect; simp

theorem step_entry (leg : Bytes) : m.pending.lookup leg = l.pending.lookup leg ∨
      (l.pending.lookup leg = none ∧ (op.entry leg).isSome = true ∧
        m.pending.lookup leg = op.entry leg) ∨
      ∃ p, l.pending.lookup leg = some p ∧ m.pending.lookup leg = none ∧
        (Released verify leg p (now, op) l m ∨ Unwound leg p (now, op) l m) := by
  have heffect := step_effect h
  cases op with
  | «open» handle balance => obtain ⟨_, rfl⟩ := heffect; exact .inl rfl
  | openAuthorised =>
    obtain ⟨_, rfl⟩ := heffect
    exact .inl rfl
  | settleTransfer =>
    obtain ⟨_, _, happly⟩ := heffect
    exact .inl (by rw [(applyTransfer_frame happly).1])
  | prepareTransfer name payer payee transfer context bounded deadline releaseKey =>
    obtain ⟨hname, _, _, rfl⟩ := heffect
    by_cases heq : name = leg
    · subst heq
      refine .inr (.inl ⟨lookup_eq_none.mpr hname, ?_, ?_⟩)
      · simp
      · simp
    · exact .inl (lookup_insert_ne (Ne.symm heq))
  | commitPending name release =>
    obtain ⟨p, hp, hnow, hverify, balance, hbalance, rfl⟩ := heffect
    by_cases heq : name = leg
    · subst heq
      refine .inr (.inr ⟨p, hp, by simp, .inl ?_⟩)
      exact ⟨⟨release, rfl, hverify⟩, hnow, balance, hbalance, rfl⟩
    · exact .inl (lookup_erase_ne (Ne.symm heq))
  | unwindPending name =>
    obtain ⟨p, hp, hnow, balance, hbalance, rfl⟩ := heffect
    by_cases heq : name = leg
    · subst heq
      refine .inr (.inr ⟨p, hp, by simp, .inr ?_⟩)
      exact ⟨rfl, hnow, balance, hbalance, rfl⟩
    · exact .inl (lookup_erase_ne (Ne.symm heq))

theorem step_entry_source {leg : Bytes} (hp : m.pending.lookup leg = some p) :
    l.pending.lookup leg = some p ∨ op.entry leg = some p := by
  rcases step_entry h leg with hsame | ⟨_, _, hentry⟩ | ⟨_, _, hnone, _⟩
  · exact .inl (hsame ▸ hp)
  · exact .inr (hentry ▸ hp)
  · rw [hnone] at hp
    cases hp

end

theorem perform_escrowsKnown (hl : l.EscrowsKnown)
    (h : perform issuance verify call l = (.ok u, m)) : m.EscrowsKnown := by
  have hstep := step_of_perform hl.parties h
  obtain ⟨hkeep, hfresh⟩ := step_spentLegs hstep
  refine ⟨perform_pendingOpen hl.parties h, ?_⟩
  intro leg hleg
  obtain ⟨p, hp⟩ := isSome_iff_exists.mp (lookup_isSome.mpr hleg)
  rcases step_entry_source hstep hp with hbefore | hentry
  · exact hkeep leg (hl.spent leg (lookup_isSome.mp (by simp [hbefore])))
  · exact (hfresh leg p hentry).2

def prepares (leg : Bytes) (step : Step (Ledger V) (ℕ × LedgerOp V Sig)) : Bool :=
  (step.op.2.entry leg).isSome

def leaves (leg : Bytes) (step : Step (Ledger V) (ℕ × LedgerOp V Sig)) : Bool :=
  leg ∈ step.before.pending ∧ leg ∉ step.after.pending

theorem prepares_at_most_once (hl : l.EscrowsKnown) (leg : Bytes)
    (calls : List (ℕ × LedgerOp V Sig)) :
    (history (perform issuance verify) l calls).countP (prepares leg) ≤ 1 := by
  refine (countP_history_le_one EscrowsKnown (fun l => leg ∈ l.spentLegs)
    (prepares leg) ?_ ?_ calls hl).1
  case refine_2 =>
    intro s call e t hs h
    rw [perform_restores hs.parties h]
    exact ⟨hs, id⟩
  intro s call u t hs h
  obtain ⟨hkeep, hfresh⟩ := step_spentLegs (step_of_perform hs.parties h)
  refine ⟨perform_escrowsKnown hs h, hkeep leg, ?_⟩
  intro hprepares
  obtain ⟨p, hp⟩ := isSome_iff_exists.mp hprepares
  exact hfresh leg p hp

theorem leaves_at_most_once (hl : l.EscrowsKnown) (leg : Bytes)
    (calls : List (ℕ × LedgerOp V Sig)) :
    (history (perform issuance verify) l calls).countP (leaves leg) ≤ 1 := by
  -- a name that is spent and no longer pending can never become pending again
  refine (countP_history_le_one EscrowsKnown
    (fun l => leg ∈ l.spentLegs ∧ leg ∉ l.pending) (leaves leg) ?_ ?_ calls hl).1
  case refine_2 =>
    intro s call e t hs h
    rw [perform_restores hs.parties h]
    exact ⟨hs, id⟩
  intro s call u t hs h
  have hstep := step_of_perform hs.parties h
  obtain ⟨hkeep, hfresh⟩ := step_spentLegs hstep
  refine ⟨perform_escrowsKnown hs h, ?_, ?_⟩
  · rintro ⟨hspent, hgone⟩
    refine ⟨hkeep leg hspent, ?_⟩
    intro hback
    obtain ⟨p, hp⟩ := isSome_iff_exists.mp (lookup_isSome.mpr hback)
    rcases step_entry_source hstep hp with hbefore | hentry
    · exact hgone (lookup_isSome.mp (by simp [hbefore]))
    · exact (hfresh leg p hentry).1 hspent
  · intro hleaves
    obtain ⟨hin, hout⟩ : leg ∈ s.pending ∧ leg ∉ t.pending := by simpa [leaves] using hleaves
    exact ⟨fun hgone => hgone.2 hin, hkeep leg (hs.spent leg hin), hout⟩

/-- On every history a leg is prepared at most once and leaves at most once; what
is pending is what its preparation recorded; and a call changes the entry under
a name only by preparing it or by ending it in exactly one of the two ways. -/
theorem escrow_exactly_once (issuance : IssuanceVerifier V)
    (verify : Verifier V Sig) (key : Pedersen V) (bits : ℕ) (issuer : Option Bytes)
    (calls : List (ℕ × LedgerOp V Sig)) (leg : Bytes) :
    let l := run (perform issuance verify) (start key bits issuer) calls
    let accepted := history (perform issuance verify) (start key bits issuer) calls
    accepted.countP (prepares leg) ≤ 1 ∧ accepted.countP (leaves leg) ≤ 1 ∧
      (∀ p, l.pending.lookup leg = some p → ∃ step ∈ accepted, step.op.2.entry leg = some p) ∧
      ∀ call result m, perform issuance verify call l = (result, m) →
        m.pending.lookup leg = l.pending.lookup leg ∨
          (result = .ok () ∧ l.pending.lookup leg = none ∧ (call.2.entry leg).isSome = true ∧
            m.pending.lookup leg = call.2.entry leg) ∨
          ∃ p, result = .ok () ∧ l.pending.lookup leg = some p ∧ m.pending.lookup leg = none ∧
            Xor (Released verify leg p call l m) (Unwound leg p call l m) := by
  intro l accepted
  have hstart := start_escrowsKnown (V := V) key bits issuer
  refine ⟨prepares_at_most_once hstart leg calls, leaves_at_most_once hstart leg calls, ?_, ?_⟩
  · intro p hp
    have hcause := exists_cause (fun l => l.pending.lookup leg = some p)
      (fun step => step.op.2.entry leg = some p)
      (fun s call u t hs h => ⟨perform_escrowsKnown hs h,
        step_entry_source (step_of_perform hs.parties h)⟩)
      (fun _ _ _ _ hs => perform_restores hs.parties) calls hstart hp
    rcases hcause with hinitial | hprepared
    · have hspent := hstart.spent leg (lookup_isSome.mp (by simp [hinitial]))
      cases issuer with
      | none => simp [start, Ledger.new] at hspent
      | some => simp [start, underIssuer, Ledger.new] at hspent
    · exact hprepared
  · intro call result m h
    have hopen : l.PendingOpen := run_pendingOpen hstart.parties calls
    cases result with
    | error => exact Or.inl (by rw [perform_restores hopen h])
    | ok =>
      rcases step_entry (step_of_perform hopen h) leg with hsame | ⟨hnone, hentry⟩ | hends
      · exact Or.inl hsame
      · exact Or.inr (Or.inl ⟨rfl, hnone, hentry⟩)
      · grind [Released, Unwound]

def settles (payer : Bytes) (transfer : Transfer V) (context : Bytes)
    (step : Step (Ledger V) (ℕ × LedgerOp V Sig)) : Bool :=
  match step.op.2 with
  | .settleTransfer payer' _ transfer' context' _ =>
    payer' = payer ∧ transfer' = transfer ∧ context' = context
  | _ => false

theorem step_frame (h : l.step issuance verify now op = .ok m) :
    m.key = l.key ∧ m.bits = l.bits ∧ ∀ handle ∈ l.accounts, handle ∈ m.accounts := by
  have hgrow := (step_cases h).1
  have heffect := step_effect h
  cases op with
  | «open» handle balance => obtain ⟨_, rfl⟩ := heffect; exact ⟨rfl, rfl, hgrow⟩
  | openAuthorised =>
    obtain ⟨_, rfl⟩ := heffect
    exact ⟨rfl, rfl, hgrow⟩
  | settleTransfer =>
    obtain ⟨_, _, happly⟩ := heffect
    obtain ⟨_, _, hkey, hbits⟩ := applyTransfer_frame happly
    exact ⟨hkey, hbits, hgrow⟩
  | prepareTransfer =>
    obtain ⟨_, _, _, rfl⟩ := heffect
    exact ⟨rfl, rfl, hgrow⟩
  | commitPending =>
    obtain ⟨_, _, _, _, _, _, rfl⟩ := heffect
    exact ⟨rfl, rfl, hgrow⟩
  | unwindPending => obtain ⟨_, _, _, _, _, rfl⟩ := heffect; exact ⟨rfl, rfl, hgrow⟩

theorem run_frame (hopen : l.PendingOpen) (calls : List (ℕ × LedgerOp V Sig)) :
    let m := run (perform issuance verify) l calls
    m.key = l.key ∧ m.bits = l.bits ∧ ∀ handle ∈ l.accounts, handle ∈ m.accounts := by
  let inv : Ledger V → Prop := fun m => m.PendingOpen ∧ m.key = l.key ∧ m.bits = l.bits ∧
    ∀ handle ∈ l.accounts, handle ∈ m.accounts
  suffices hrun : inv (run (perform issuance verify) l calls) from hrun.2
  refine run_invariant ?_ ?_ calls ⟨hopen, rfl, rfl, fun _ h => h⟩
  · rintro s call u t ⟨hs, hkey, hbits, hgrow⟩ h
    obtain ⟨hkey', hbits', hgrow'⟩ := step_frame (step_of_perform hs h)
    exact ⟨perform_pendingOpen hs h, hkey'.trans hkey, hbits'.trans hbits,
      fun handle hmem => hgrow' handle (hgrow handle hmem)⟩
  · rintro s call e t ⟨hs, hrest⟩ h
    rw [perform_restores hs h]
    exact ⟨hs, hrest⟩

theorem checkTransfer_congr (hkey : m.key = l.key) (hbits : m.bits = l.bits)
    (hpayer : m.accounts.lookup payer = l.accounts.lookup payer) :
    m.checkTransfer payer transfer context bounded =
      l.checkTransfer payer transfer context bounded := by
  have hgens : ∀ tag, m.gens tag = l.gens tag := by
    intro tag
    cases tag with
    | none => exact hkey
    | some => simp [gens, hkey]
  simp only [checkTransfer, checkAmountRange, hgens, hbits, hpayer]

theorem lookup_of_checkTransfer (h : l.checkTransfer payer transfer context bounded = .ok u) :
    l.accounts.lookup payer =
      some (transfer.remainderCommitment + transfer.amountCommitment) := by
  obtain ⟨balance, hbalance, _, _, heq⟩ := checkTransfer_ok h
  rw [hbalance, ← heq]
  simp

theorem settleTransfer_of_check {payer payee context : Bytes} (hpayee : payee ∈ l.accounts)
    (hcheck : l.checkTransfer payer transfer context bounded = .ok ()) :
    ∃ n, l.settleTransfer payer payee transfer context bounded = .ok n := by
  obtain ⟨n, hn⟩ := applyTransfer_of_open payer transfer hpayee
  simp only [settleTransfer, ok_iff]
  exact ⟨n, hpayee, hcheck, hn⟩

/-- After an accepted transfer, the same transfer is refused exactly while the
payer's commitment differs from the one it was accepted against; so a run on
which that commitment never comes back does not accept it a second time. -/
theorem replay_refused_iff (issuance : IssuanceVerifier V)
    (verify : Verifier V Sig) (key : Pedersen V) (bits : ℕ) (issuer : Option Bytes)
    (before later : List (ℕ × LedgerOp V Sig)) {now : ℕ} {payer payee context : Bytes}
    {transfer : Transfer V} {bounded : Bool} {m : Ledger V}
    (h : perform issuance verify (now, .settleTransfer payer payee transfer context bounded)
      (run (perform issuance verify) (start key bits issuer) before) = (.ok (), m)) :
    let l := run (perform issuance verify) (start key bits issuer) before
    let reached := fun calls => run (perform issuance verify) m calls
    ((∀ payee' bounded' n, (reached later).settleTransfer payer payee' transfer context bounded' ≠
          .ok n) ↔ (reached later).accounts.lookup payer ≠ l.accounts.lookup payer) ∧
      ((∀ calls, calls <+: later →
          (reached calls).accounts.lookup payer ≠ l.accounts.lookup payer) →
        (history (perform issuance verify) m later).countP
          (settles payer transfer context) = 0) := by
  intro l reached
  have hopen : l.PendingOpen := run_pendingOpen (start_pendingOpen key bits issuer) before
  have hmopen := perform_pendingOpen hopen h
  obtain ⟨hpayee, hcheck, _⟩ := step_effect (step_of_perform hopen h)
  obtain ⟨hkey, hbits, hgrow⟩ := step_frame (step_of_perform hopen h)
  have hcommitment := lookup_of_checkTransfer hcheck
  constructor
  · obtain ⟨hkey', hbits', hgrow'⟩ : (reached later).key = m.key ∧ (reached later).bits = m.bits ∧
        ∀ handle ∈ m.accounts, handle ∈ (reached later).accounts := run_frame hmopen later
    constructor
    · intro hrefused hback
      have hcheck' : (reached later).checkTransfer payer transfer context bounded = .ok () := by
        rw [checkTransfer_congr (hkey'.trans hkey) (hbits'.trans hbits) hback]
        exact hcheck
      obtain ⟨n, hn⟩ := settleTransfer_of_check (hgrow' payee (hgrow payee hpayee)) hcheck'
      exact hrefused payee bounded n hn
    · intro hmoved payee' bounded' n hn
      simp only [settleTransfer, ok_iff] at hn
      obtain ⟨_, hcheck', _⟩ := hn
      exact hmoved ((lookup_of_checkTransfer hcheck').trans hcommitment.symm)
  · intro hmoved
    rw [List.countP_eq_zero]
    intro step hmem hsettles
    obtain ⟨done, u, hdone, hbefore, hstep⟩ := exists_prefix_of_mem_history hmem
    have hdone' : done <+: later := (List.prefix_append _ _).trans hdone
    have hsopen : step.before.PendingOpen := hbefore ▸ run_pendingOpen hmopen done
    have heffect := step_effect (step_of_perform hsopen hstep)
    unfold settles at hsettles
    split at hsettles
    · next payer' payee' transfer' context' bounded' hop =>
      obtain ⟨rfl, rfl, rfl⟩ : payer' = payer ∧ transfer' = transfer ∧ context' = context := by
        simpa using hsettles
      rw [hop] at heffect
      obtain ⟨_, hcheck', _⟩ := heffect
      have hreached : step.before = reached done := hbefore
      refine hmoved done hdone' ?_
      rw [← hreached]
      exact (lookup_of_checkTransfer hcheck').trans hcommitment.symm
    · simp at hsettles

end Runs

section Sample

def samplePayment (left : ℕ) : Transfer Plane where
  amountCommitment := (3, 0)
  amountRange := none
  remainderCommitment := (left, 0)
  remainderRange := ⟨rangeContext "qomm:defmi:rem" [] none, [(left, 0)]⟩
  tag := none

def sampleOpenings : List (ℕ × LedgerOp Plane Unit) :=
  [(0, .open [1] (5, 0)), (0, .open [2] (0, 0))]

def samplePay : ℕ × LedgerOp Plane Unit :=
  (0, .settleTransfer [1] [2] (samplePayment 2) [] true)

def samplePayBack : ℕ × LedgerOp Plane Unit :=
  (0, .settleTransfer [2] [1] (samplePayment 0) [] true)

theorem replay_refused_after_payment :
    ∃ m, perform (fun _ _ _ => true) (fun _ _ _ => true) samplePay
        (run (perform (fun _ _ _ => true) (fun _ _ _ => true))
          (start planeKey 8 none) sampleOpenings) = (.ok (), m) ∧
      ∀ payee bounded n, m.settleTransfer [1] payee (samplePayment 2) [] bounded ≠ .ok n := by
  have hpaid : perform (fun _ _ _ => true) (fun _ _ _ => true) samplePay
      (run (perform (fun _ _ _ => true) (fun _ _ _ => true))
        (start planeKey 8 none) sampleOpenings) = (.ok (), _) := rfl
  refine ⟨_, hpaid, (replay_refused_iff _ _ planeKey 8 none sampleOpenings [] hpaid).1.mpr ?_⟩
  decide +kernel

/-- Once the payee has paid the same commitment back, the first payment settles again. -/
theorem returned_payment_settles_twice :
    (samplePayment 2).amountCommitment ≠ 0 ∧
      (history (perform (fun _ _ _ => true) (fun _ _ _ => true)) (start planeKey 8 none)
        (sampleOpenings ++ [samplePay, samplePayBack, samplePay])).countP
          (settles [1] (samplePayment 2) []) = 2 := by
  decide +kernel

end Sample
end Ledger
end DeFMI
