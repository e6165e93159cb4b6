import DeFMI.ContractState
import DeFMI.LedgerRuns
set_option autoImplicit false

/-!
The contract's escrows beside the ledger's. The same preparations, claims and unwinds
are made on both, the contract being handed the points the ledger computes; they stay in
step as long as no name of an escrow that is gone is used again, which the ledger
refuses for good and the contract does not.
-/

namespace DeFMI.Contract
open Lib Ledger

inductive Call (V Sig : Type) where
  | prepare (leg payer payee : Bytes) (transfer : Transfer V) (context : Bytes) (bounded : Bool)
      (deadline : ℕ) (releaseKey : V)
  | claim (leg : Bytes) (release : Sig) (credited : V) (now : ℕ)
  | unwind (leg : Bytes) (returned : V) (now : ℕ)

variable {V Sig : Type} {compress : V → Id} {l m : Ledger V} {s : ChainState}
  {leg payer payee : Bytes} {deadline now : ℕ} {result : Delta × ChainState}

theorem prepare_eq_ok {remainder held : V} :
    s.prepare compress leg payer payee remainder held deadline = .ok result ↔
      payer ∈ s.accounts ∧ payee ∈ s.accounts ∧ leg ∉ s.escrows ∧
        result = (⟨2, 2, 96, 0⟩, { s with
          accounts := s.accounts.insert payer (compress remainder)
          escrows := s.escrows.insert leg ⟨payer, payee, compress held, deadline⟩ }) := by
  simp only [ChainState.prepare, bind_eq_ok, require_eq_ok, pure_eq_ok]
  constructor
  · rintro ⟨_, ⟨hpayer, hpayee⟩, _, hleg, rfl⟩
    exact ⟨hpayer, hpayee, hleg, rfl⟩
  · rintro ⟨hpayer, hpayee, hleg, rfl⟩
    exact ⟨(), ⟨hpayer, hpayee⟩, (), hleg, rfl⟩

theorem claim_eq_ok {credited : V} : s.claim compress leg credited now = .ok result ↔
      ∃ escrow, s.escrows.lookup leg = some escrow ∧ now ≤ escrow.deadline ∧
        result = (⟨2, 2, 32, 0⟩, { s with
          accounts := s.accounts.insert escrow.payee (compress credited)
          escrows := s.escrows.erase leg }) := by
  simp only [ChainState.claim, bind_eq_ok, okOr_eq_ok, require_eq_ok, pure_eq_ok]
  constructor
  · rintro ⟨escrow, hrow, _, hnow, rfl⟩
    exact ⟨escrow, hrow, hnow, rfl⟩
  · rintro ⟨escrow, hrow, hnow, rfl⟩
    exact ⟨escrow, hrow, (), hnow, rfl⟩

theorem unwind_eq_ok {returned : V} : s.unwind compress leg returned now = .ok result ↔
      ∃ escrow, s.escrows.lookup leg = some escrow ∧ escrow.deadline < now ∧
        result = (⟨2, 2, 32, 0⟩, { s with
          accounts := s.accounts.insert escrow.payer (compress returned)
          escrows := s.escrows.erase leg }) := by
  simp only [ChainState.unwind, bind_eq_ok, okOr_eq_ok, require_eq_ok, pure_eq_ok]
  constructor
  · rintro ⟨escrow, hrow, _, hnow, rfl⟩
    exact ⟨escrow, hrow, hnow, rfl⟩
  · rintro ⟨escrow, hrow, hnow, rfl⟩
    exact ⟨escrow, hrow, (), hnow, rfl⟩

def escrowOf (compress : V → Id) (p : Pending V) : Escrow :=
  ⟨p.payer, p.payee, compress p.amountCommitment, p.deadline⟩

structure Agrees (compress : V → Id) (l : Ledger V) (s : ChainState) : Prop where
  accounts : Table.Maps compress l.accounts s.accounts
  escrows : Table.Maps (escrowOf compress) l.pending s.escrows

inductive Answered (compress : V → Id) (l : Ledger V) (s : ChainState) :
    Result (Ledger V) → Except Rejected (Delta × ChainState) → Prop where
  | accepted {m : Ledger V} {delta : Delta} {t : ChainState} (hagree : Agrees compress m t) :
    Answered compress l s (.ok m) (.ok (delta, t))
  | refused {e : String} {e' : Rejected} : Answered compress l s (.error e) (.error e')

theorem answered_of_not_ok {x : Result (Ledger V)} {y : Except Rejected (Delta × ChainState)}
    (hx : ∀ m, x ≠ .ok m) (hy : ∀ r, y ≠ .ok r) : Answered compress l s x y := by
  cases x with
  | ok m => exact absurd rfl (hx m)
  | error =>
    cases y with
    | ok r => exact absurd rfl (hy r)
    | error => exact .refused

variable [AddCommGroup V] [Module Scalar V] [DecidableEq V]

namespace Call

def onLedger (verify : Verifier V Sig) (l : Ledger V) : Call V Sig → Result (Ledger V)
  | .prepare leg payer payee transfer context bounded deadline releaseKey =>
    l.prepareTransfer leg payer payee transfer context bounded deadline releaseKey
  | .claim leg release _ now => l.commitPending verify leg release now
  | .unwind leg _ now => l.unwindPending leg now

def onChain (compress : V → Id) (s : ChainState) : Call V Sig → Except Rejected (Delta × ChainState)
  | .prepare leg payer payee transfer _ _ deadline _ =>
    s.prepare compress leg payer payee transfer.remainderCommitment transfer.amountCommitment deadline
  | .claim leg _ credited now => s.claim compress leg credited now
  | .unwind leg returned now => s.unwind compress leg returned now

/-- The proofs and the release signature are valid, and the points are the ledger's. -/
def Genuine (verify : Verifier V Sig) (l : Ledger V) : Call V Sig → Prop
  | .prepare _ payer _ transfer context bounded _ _ =>
    payer ∈ l.accounts → l.checkTransfer payer transfer context bounded = .ok ()
  | .claim leg release credited _ =>
    ∀ p ∈ l.pending.lookup leg, ∀ balance ∈ l.accounts.lookup p.payee,
      verify p.releaseKey leg release = true ∧ credited = balance + p.amountCommitment
  | .unwind leg returned _ =>
    ∀ p ∈ l.pending.lookup leg, ∀ balance ∈ l.accounts.lookup p.payer,
      returned = balance + p.amountCommitment

instance Genuine.decidable (verify : Verifier V Sig) (l : Ledger V) :
    (call : Call V Sig) → Decidable (call.Genuine verify l)
  | .prepare .. => inferInstanceAs (Decidable (_ → _))
  | .claim .. => inferInstanceAs (Decidable (∀ p ∈ _, ∀ balance ∈ _, _ ∧ _))
  | .unwind .. => inferInstanceAs (Decidable (∀ p ∈ _, ∀ balance ∈ _, _ = _))

/-- No escrow between open accounts is prepared under the name of one that is gone. -/
def Unspent (l : Ledger V) : Call V Sig → Prop
  | .prepare leg payer payee .. =>
    leg ∈ l.spentLegs → leg ∈ l.pending ∨ payer ∉ l.accounts ∨ payee ∉ l.accounts
  | _ => True

instance Unspent.decidable (l : Ledger V) : (call : Call V Sig) → Decidable (call.Unspent l)
  | .prepare .. => inferInstanceAs (Decidable (_ → _))
  | .claim .. => isTrue trivial
  | .unwind .. => isTrue trivial

end Call

def InStep (verify : Verifier V Sig) (compress : V → Id) :
    Ledger V → ChainState → List (Call V Sig) → Prop
  | _, _, [] => True
  | l, s, call :: calls =>
    match call.onLedger verify l, call.onChain compress s with
    | .ok m, .ok (_, t) => Agrees compress m t ∧ InStep verify compress m t calls
    | .error _, .error _ => Agrees compress l s ∧ InStep verify compress l s calls
    | _, _ => False

section Steps

variable {verify : Verifier V Sig} {call : Call V Sig} {context : Bytes} {transfer : Transfer V}
  {bounded : Bool} {releaseKey point : V} {release : Sig}

theorem prepareTransfer_eq_ok :
    l.prepareTransfer leg payer payee transfer context bounded deadline releaseKey = .ok m ↔
      leg ∉ l.pending ∧ leg ∉ l.spentLegs ∧ payee ∈ l.accounts ∧
        l.checkTransfer payer transfer context bounded = .ok () ∧
        m = { l with
          accounts := l.accounts.insert payer transfer.remainderCommitment
          spentLegs := insert leg l.spentLegs
          pending := l.pending.insert leg
            ⟨payer, releaseKey, payee, transfer.amountCommitment, deadline⟩ } := by
  simp only [prepareTransfer, bind_eq_ok, require_eq_ok, pure_eq_ok]
  constructor
  · grind
  · rintro ⟨hpending, hspent, hpayee, hcheck, rfl⟩
    exact ⟨(), hpending, (), hspent, (), hpayee, (), hcheck, rfl⟩

theorem onLedger_pendingOpen (hopen : l.PendingOpen) (h : call.onLedger verify l = .ok m) :
    m.PendingOpen := by
  cases call with
  | prepare leg payer payee transfer context bounded deadline releaseKey =>
    have hstep : l.step (fun _ _ _ => false) verify 0
      (.prepareTransfer leg payer payee transfer context bounded deadline releaseKey) = .ok m := h
    exact step_pendingOpen hstep hopen
  | claim leg release credited now =>
    have hstep : l.step (fun _ _ _ => false) verify now (.commitPending leg release) = .ok m := h
    exact step_pendingOpen hstep hopen
  | unwind leg returned now =>
    have hstep : l.step (fun _ _ _ => false) verify now (.unwindPending leg) = .ok m := h
    exact step_pendingOpen hstep hopen

section
variable (hagree : Agrees compress l s)
include hagree

/-- A preparation is answered alike exactly when it does not reuse the name of an escrow
that is gone; reused, the ledger refuses it and the contract accepts it. -/
theorem answered_prepare_iff
    (hgenuine : payer ∈ l.accounts → l.checkTransfer payer transfer context bounded = .ok ()) :
    Answered compress l s
        (l.prepareTransfer leg payer payee transfer context bounded deadline releaseKey)
        (s.prepare compress leg payer payee transfer.remainderCommitment transfer.amountCommitment
          deadline) ↔
      (leg ∈ l.spentLegs → leg ∈ l.pending ∨ payer ∉ l.accounts ∨ payee ∉ l.accounts) := by
  by_cases hlive : payer ∈ l.accounts ∧ payee ∈ l.accounts ∧ leg ∉ l.pending
  · obtain ⟨hpayer, hpayee, hleg⟩ := hlive
    have hchain : s.prepare compress leg payer payee transfer.remainderCommitment
        transfer.amountCommitment deadline = .ok _ :=
      prepare_eq_ok.mpr ⟨(hagree.accounts.mem_iff payer).mpr hpayer,
        (hagree.accounts.mem_iff payee).mpr hpayee, mt (hagree.escrows.mem_iff leg).mp hleg, rfl⟩
    rw [hchain]
    constructor
    · intro hanswered hspent
      cases hledger : l.prepareTransfer leg payer payee transfer context bounded deadline
          releaseKey with
      | ok m => exact absurd hspent (prepareTransfer_eq_ok.mp hledger).2.1
      | error e =>
        rw [hledger] at hanswered
        cases hanswered
    · intro hunspent
      have hspent : leg ∉ l.spentLegs := fun hspent => by
        grind
      rw [prepareTransfer_eq_ok.mpr ⟨hleg, hspent, hpayee, hgenuine hpayer, rfl⟩]
      exact .accepted ⟨hagree.accounts.insert _ _, hagree.escrows.insert leg
        ⟨payer, releaseKey, payee, transfer.amountCommitment, deadline⟩⟩
  · refine iff_of_true (answered_of_not_ok ?_ ?_) ?_
    · intro m hm
      obtain ⟨hleg, _, hpayee, hcheck, _⟩ := prepareTransfer_eq_ok.mp hm
      obtain ⟨balance, hpayer, _⟩ := checkTransfer_ok hcheck
      exact hlive ⟨Table.mem_of_lookup hpayer, hpayee, hleg⟩
    · intro r hr
      obtain ⟨hpayer, hpayee, hleg, _⟩ := prepare_eq_ok.mp hr
      exact hlive ⟨(hagree.accounts.mem_iff payer).mp hpayer,
        (hagree.accounts.mem_iff payee).mp hpayee, mt (hagree.escrows.mem_iff leg).mpr hleg⟩
    · grind

omit [Module Scalar V] [DecidableEq V] in
theorem Agrees.credited {p : Pending V} {handle : Bytes}
    (hcredit : l.credit handle leg p.amountCommitment = .ok m)
    (hpoint : ∀ balance ∈ l.accounts.lookup handle, point = balance + p.amountCommitment) :
    Agrees compress m { s with
      accounts := s.accounts.insert handle (compress point)
      escrows := s.escrows.erase leg } := by
  obtain ⟨balance, hbalance, hpending, haccounts⟩ := credit_ok hcredit
  rw [hpoint balance hbalance]
  refine ⟨?_, ?_⟩
  · rw [haccounts]
    exact hagree.accounts.insert _ _
  · rw [hpending]
    exact hagree.escrows.erase leg

omit hagree [Module Scalar V] [DecidableEq V] in
/-- What claims and unwinds have in common: an escrow that is due goes to one of its two
parties, on both sides. -/
theorem answered_release {x : Result (Ledger V)} {y : Except Rejected (Delta × ChainState)}
    (party : Pending V → Bytes) (party' : Escrow → Bytes) (due : ℕ → Prop)
    (hagree : Agrees compress l s) (hparty : ∀ p, party' (escrowOf compress p) = party p)
    (hopen : ∀ p, l.pending.lookup leg = some p → party p ∈ l.accounts)
    (hpoint : ∀ p ∈ l.pending.lookup leg, ∀ balance ∈ l.accounts.lookup (party p),
      point = balance + p.amountCommitment)
    (hx : ∀ m, x = .ok m ↔ ∃ p, l.pending.lookup leg = some p ∧ due p.deadline ∧
      l.credit (party p) leg p.amountCommitment = .ok m)
    (hy : ∀ r, y = .ok r ↔ ∃ escrow, s.escrows.lookup leg = some escrow ∧ due escrow.deadline ∧
      r = (⟨2, 2, 32, 0⟩, { s with
        accounts := s.accounts.insert (party' escrow) (compress point)
        escrows := s.escrows.erase leg })) :
    Answered compress l s x y := by
  by_cases hdue : ∃ p, l.pending.lookup leg = some p ∧ due p.deadline
  · obtain ⟨p, hrow, hdue⟩ := hdue
    obtain ⟨balance, hbalance⟩ :=
      Option.isSome_iff_exists.mp (AList.lookup_isSome.mpr (hopen p hrow))
    have hcredit : l.credit (party p) leg p.amountCommitment = .ok { l with
        pending := l.pending.erase leg
        accounts := l.accounts.insert (party p) (balance + p.amountCommitment) } := by
      simp only [credit, hbalance]; rfl
    rw [(hx _).mpr ⟨p, hrow, hdue, hcredit⟩,
      (hy _).mpr ⟨_, hagree.escrows.lookup_eq_some hrow, hdue, rfl⟩, hparty]
    exact .accepted (hagree.credited hcredit (hpoint p hrow))
  · refine answered_of_not_ok ?_ ?_
    · intro m hm
      obtain ⟨p, hrow, hdue', _⟩ := (hx m).mp hm
      exact hdue ⟨p, hrow, hdue'⟩
    · intro r hr
      obtain ⟨escrow, hescrow, hdue', _⟩ := (hy r).mp hr
      rw [hagree.escrows leg, Option.map_eq_some_iff] at hescrow
      obtain ⟨p, hrow, rfl⟩ := hescrow
      exact hdue ⟨p, hrow, hdue'⟩

theorem answered_claim (hopen : l.PendingOpen)
    (hgenuine : Call.Genuine verify l (.claim leg release point now)) :
    Answered compress l s (l.commitPending verify leg release now)
      (s.claim compress leg point now) := by
  refine answered_release Pending.payee Escrow.payee (now ≤ ·) hagree (fun p => rfl)
    (fun p hrow => (hopen leg p hrow).2)
    (fun p hrow balance hbalance => (hgenuine p hrow balance hbalance).2) (fun m => ⟨?_, ?_⟩)
    fun r => claim_eq_ok
  · intro hm
    obtain ⟨p, hrow, hnow, _, hcredit⟩ := commitPending_ok hm
    exact ⟨p, hrow, hnow, hcredit⟩
  · rintro ⟨p, hrow, hnow, hcredit⟩
    obtain ⟨balance, hbalance, _⟩ := credit_ok hcredit
    obtain ⟨hverify, _⟩ := hgenuine p hrow balance hbalance
    simp only [commitPending, ok_iff]
    exact ⟨p, hrow, hnow, hverify, hcredit⟩

omit [Module Scalar V] [DecidableEq V] in
theorem answered_unwind (hopen : l.PendingOpen)
    (hpoint : ∀ p ∈ l.pending.lookup leg, ∀ balance ∈ l.accounts.lookup p.payer,
      point = balance + p.amountCommitment) :
    Answered compress l s (l.unwindPending leg now) (s.unwind compress leg point now) := by
  refine answered_release Pending.payer Escrow.payer (· < now) hagree (fun p => rfl)
    (fun p hrow => (hopen leg p hrow).1) hpoint (fun m => ⟨unwindPending_ok, ?_⟩)
    fun r => unwind_eq_ok
  rintro ⟨p, hrow, hnow, hcredit⟩
  simp only [unwindPending, ok_iff]
  exact ⟨p, hrow, hnow, hcredit⟩

theorem answered_iff (hopen : l.PendingOpen) (hgenuine : call.Genuine verify l) :
    Answered compress l s (call.onLedger verify l) (call.onChain compress s) ↔ call.Unspent l := by
  cases call with
  | prepare =>
    exact answered_prepare_iff hagree hgenuine
  | claim => exact iff_of_true (answered_claim hagree hopen hgenuine) trivial
  | unwind => exact iff_of_true (answered_unwind hagree hopen hgenuine) trivial

end

/-- In a run of genuine calls the contract keeps step with the ledger exactly when no call
prepares an escrow between open accounts under the name of one that is gone. -/
theorem inStep_iff_unspent {calls : List (Call V Sig)} (hagree : Agrees compress l s)
    (hopen : l.PendingOpen)
    (hgenuine : EachStep (Call.onLedger verify) (Call.Genuine verify) l calls) :
    InStep verify compress l s calls ↔
      EachStep (Call.onLedger verify) (fun l call => call.Unspent l) l calls := by
  induction calls generalizing l s with
  | nil => exact Iff.rfl
  | cons call calls ih =>
    obtain ⟨hcall, hrest⟩ := hgenuine
    have hiff := answered_iff hagree hopen hcall
    cases hledger : call.onLedger verify l with
    | ok =>
      cases hchain : call.onChain compress s with
      | ok =>
        rw [hledger, hchain] at hiff
        simp only [hledger] at hrest
        simp only [InStep, EachStep, hledger, hchain, ← hiff]
        constructor
        · rintro ⟨hagree', hsteps⟩
          exact ⟨.accepted hagree', (ih hagree' (onLedger_pendingOpen hopen hledger) hrest).mp hsteps⟩
        · rintro ⟨hanswered, hsteps⟩
          cases hanswered with
          | accepted hagree' =>
            exact ⟨hagree',
              (ih hagree' (onLedger_pendingOpen hopen hledger) hrest).mpr hsteps⟩
      | error =>
        rw [hledger, hchain] at hiff
        simp only [InStep, EachStep, hledger, hchain, ← hiff]
        refine iff_of_false id fun hsteps => ?_
        cases hsteps.1
    | error =>
      cases hchain : call.onChain compress s with
      | ok =>
        rw [hledger, hchain] at hiff
        simp only [InStep, EachStep, hledger, hchain, ← hiff]
        refine iff_of_false id fun hsteps => ?_
        cases hsteps.1
      | error =>
        rw [hledger, hchain] at hiff
        simp only [hledger] at hrest
        simp only [InStep, EachStep, hledger, hchain, ← hiff]
        rw [ih hagree hopen hrest]
        exact and_congr_left fun _ => iff_of_true hagree .refused

end Steps

section Sample

def sampleCompress (c : Plane) : Id := ⟨beBytes 32 c.1.val, length_beBytes 32 c.1.val⟩

def sampleVerify (_ : Plane) (leg release : Bytes) : Bool := release = leg

def openedLedger : Ledger Plane :=
  { Ledger.new planeKey 8 with
    accounts := ((∅ : Table Bytes Plane).insert [1] (5, 0)).insert [2] (0, 0)
    minted := (5, 0) }

def openedChain : ChainState :=
  ((ChainState.new.open sampleCompress [1] (5, 0)).2.open sampleCompress [2] (0, 0)).2

theorem opened_agrees : Agrees sampleCompress openedLedger openedChain where
  accounts := by
    have hempty : Table.Maps sampleCompress (∅ : Table Bytes Plane) ∅ := fun _ => rfl
    exact (hempty.insert [1] (5, 0)).insert [2] (0, 0)
  escrows _ := rfl

theorem opened_pendingOpen : openedLedger.PendingOpen := by
  intro leg p hp
  cases hp

/-- A payment of three that is claimed, and one paid back under the name `leg`, which is
unwound. -/
def sampleCalls (leg : Bytes) : List (Call Plane Bytes) :=
  [.prepare [7] [1] [2] (Ledger.samplePayment 2) [] true 10 (1, 0), .claim [7] [7] (3, 0) 5,
    .prepare leg [2] [1] (Ledger.samplePayment 0) [] true 10 (1, 0), .unwind leg (3, 0) 11]

theorem inStep_iff_unspent_sample :
    InStep sampleVerify sampleCompress openedLedger openedChain (sampleCalls [8]) := by
  have hgenuine : EachStep (Call.onLedger sampleVerify) (Call.Genuine sampleVerify) openedLedger
      (sampleCalls [8]) := by decide +kernel
  exact (inStep_iff_unspent opened_agrees opened_pendingOpen hgenuine).mpr (by decide +kernel)

/-- After a claimed escrow its name is used again: the ledger refuses, the contract does
not, and they part. -/
theorem name_reused_on_chain :
    let calls := (sampleCalls [7]).take 3
    let again : Call Plane Bytes :=
      .prepare [7] [2] [1] (Ledger.samplePayment 0) [] true 10 (1, 0)
    let ledger := runEvents (Call.onLedger sampleVerify) openedLedger (calls.take 2)
    let chain := runEvents (fun s call => (Call.onChain sampleCompress s call).map Prod.snd)
      openedChain (calls.take 2)
    EachStep (Call.onLedger sampleVerify) (Call.Genuine sampleVerify) openedLedger calls ∧
      Agrees sampleCompress openedLedger openedChain ∧ calls.take 2 ++ [again] = calls ∧
      again.onLedger sampleVerify ledger = .error "that leg name has been used before" ∧
      (again.onChain sampleCompress chain).map Prod.fst = .ok ⟨2, 2, 96, 0⟩ := by
  intro calls again ledger chain
  refine ⟨by decide +kernel, opened_agrees, rfl, ?_, by decide +kernel⟩
  have hledger : (again.onLedger sampleVerify ledger).map (fun _ => ()) =
      .error "that leg name has been used before" := by decide +kernel
  cases h : again.onLedger sampleVerify ledger with
  | ok =>
    rw [h] at hledger
    cases hledger
  | error =>
    rw [h] at hledger
    cases hledger
    rfl

end Sample

end DeFMI.Contract
