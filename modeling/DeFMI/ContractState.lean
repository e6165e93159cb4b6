import DeFMI.Ledger
import DeFMI.Lib.Moves
import DeFMI.Lib.Wire
set_option autoImplicit false

/-!
The state a settlement contract keeps: accounts and escrows by name, and the nullifiers
of what was settled, each with the deadline past which it can be dropped. Dropping them
is shown to change nothing that a later settlement can see, and the hash of the state is
shown to fix all of it.
-/

namespace DeFMI.Contract
open Lib Table List

structure Delta where
  slotsRead : ℕ
  slotsWritten : ℕ
  bytesWritten : ℕ
  nullifiersAdded : ℕ
  deriving DecidableEq

inductive Rejected where
  | nullifierSeen
  | expired (deadline now : ℕ)
  | unknownAccount
  deriving DecidableEq

@[ext]
structure Escrow where
  payer : Bytes
  payee : Bytes
  held : Id
  deadline : ℕ

structure ChainState where
  accounts : Table Bytes Id
  nullifiers : Table Id ℕ
  escrows : Table Bytes Escrow

namespace ChainState

variable {V : Type} (compress : V → Id)

def new : ChainState := ⟨∅, ∅, ∅⟩

section
variable (s : ChainState)

def «open» (handle : Bytes) (commitment : V) : Delta × ChainState :=
  (⟨0, 1, 32, 0⟩, { s with accounts := s.accounts.insert handle (compress commitment) })

def write (accounts : Table Bytes Id) (moves : List (Bytes × V)) : Table Bytes Id :=
  moves.foldl (fun accounts move => accounts.insert move.1 (compress move.2)) accounts

def settle (nullifier : Id) (deadline now : ℕ) (moves : List (Bytes × V)) :
    Except Rejected (Delta × ChainState) := do
  require (now ≤ deadline) (.expired deadline now)
  require (nullifier ∉ s.nullifiers) .nullifierSeen
  forEach (fun move : Bytes × V => require (move.1 ∈ s.accounts) .unknownAccount) moves
  pure (⟨moves.length + 1, moves.length + 1, moves.length * 32 + 32 + 8, 1⟩,
    { s with
      accounts := write compress s.accounts moves
      nullifiers := s.nullifiers.insert nullifier deadline })

def prepare (leg payer payee : Bytes) (remainder held : V) (deadline : ℕ) :
    Except Rejected (Delta × ChainState) := do
  require (payer ∈ s.accounts ∧ payee ∈ s.accounts) .unknownAccount
  require (leg ∉ s.escrows) .nullifierSeen
  pure (⟨2, 2, 96, 0⟩,
    { s with
      accounts := s.accounts.insert payer (compress remainder)
      escrows := s.escrows.insert leg ⟨payer, payee, compress held, deadline⟩ })

def claim (leg : Bytes) (credited : V) (now : ℕ) : Except Rejected (Delta × ChainState) := do
  let escrow ← okOr (s.escrows.lookup leg) .unknownAccount
  require (now ≤ escrow.deadline) (.expired escrow.deadline now)
  pure (⟨2, 2, 32, 0⟩,
    { s with
      accounts := s.accounts.insert escrow.payee (compress credited)
      escrows := s.escrows.erase leg })

def unwind (leg : Bytes) (returned : V) (now : ℕ) : Except Rejected (Delta × ChainState) := do
  let escrow ← okOr (s.escrows.lookup leg) .unknownAccount
  require (escrow.deadline < now) (.expired escrow.deadline now)
  pure (⟨2, 2, 32, 0⟩,
    { s with
      accounts := s.accounts.insert escrow.payer (compress returned)
      escrows := s.escrows.erase leg })

/-- Drops the nullifiers whose instruction can no longer be settled anyway. -/
def prune (now : ℕ) : ℕ × ChainState :=
  let kept := s.nullifiers.retain fun _ deadline => decide (now ≤ deadline)
  (s.nullifiers.keys.length - kept.keys.length, { s with nullifiers := kept })

end

section Pruning

variable {compress}

inductive Event (V : Type) where
  | settle (nullifier : Id) (deadline now : ℕ) (moves : List (Bytes × V))
  | prune (now : ℕ)

namespace Event

def time : Event V → ℕ
  | .settle _ _ now _ => now
  | .prune now => now

def isSettle : Event V → Bool
  | .settle .. => true
  | .prune _ => false

/-- The nullifier of a settlement comes with its own deadline. -/
def Dated (deadlineOf : Id → ℕ) : Event V → Prop
  | .settle nullifier deadline _ _ => deadline = deadlineOf nullifier
  | .prune _ => True

end Event

structure Outcome where
  nullifier : Id
  result : Except Rejected Delta
  accounts : Table Bytes Id

def run (compress : V → Id) (s : ChainState) : List (Event V) → List Outcome × ChainState
  | [] => ([], s)
  | .settle nullifier deadline now moves :: es =>
    match s.settle compress nullifier deadline now moves with
    | .ok (delta, t) =>
      (⟨nullifier, .ok delta, t.accounts⟩ :: (run compress t es).1, (run compress t es).2)
    | .error e => (⟨nullifier, .error e, s.accounts⟩ :: (run compress s es).1, (run compress s es).2)
  | .prune now :: es => run compress (s.prune now).2 es

/-- What the pruned state and the other one share at a time: all but nullifiers, and of
these the ones whose deadline has not passed. -/
structure Pruned (now : ℕ) (s full : ChainState) : Prop where
  accounts : s.accounts = full.accounts
  escrows : s.escrows = full.escrows
  kept : Keeps s.nullifiers full.nullifiers
  live : ∀ nullifier deadline, full.nullifiers.lookup nullifier = some deadline → now ≤ deadline →
    s.nullifiers.lookup nullifier = some deadline

def Dated (deadlineOf : Id → ℕ) (s : ChainState) : Prop :=
  ∀ nullifier deadline, s.nullifiers.lookup nullifier = some deadline →
    deadline = deadlineOf nullifier

variable {s full t : ChainState} {now later deadline : ℕ} {nullifier : Id} {delta : Delta}
  {moves : List (Bytes × V)} {deadlineOf : Id → ℕ} {es : List (Event V)}

theorem settle_eq_ok :
    s.settle compress nullifier deadline now moves = .ok (delta, t) ↔
      now ≤ deadline ∧ nullifier ∉ s.nullifiers ∧ (∀ move ∈ moves, move.1 ∈ s.accounts) ∧
        delta = ⟨moves.length + 1, moves.length + 1, moves.length * 32 + 32 + 8, 1⟩ ∧
        t = { s with
          accounts := write compress s.accounts moves
          nullifiers := s.nullifiers.insert nullifier deadline } := by
  simp only [settle, bind_eq_ok, require_eq_ok, forEach_eq_ok, pure_eq_ok, Prod.mk.injEq]
  constructor
  · rintro ⟨_, hnow, _, hfresh, _, hmoves, rfl, rfl⟩
    exact ⟨hnow, hfresh, hmoves, rfl, rfl⟩
  · rintro ⟨hnow, hfresh, hmoves, rfl, rfl⟩
    exact ⟨(), hnow, (), hfresh, (), hmoves, rfl, rfl⟩

theorem Pruned.prune (h : Pruned now s full) (hlater : now ≤ later) :
    Pruned later (s.prune later).2 full := by
  refine ⟨h.accounts, h.escrows, ?_, ?_⟩
  · intro nullifier deadline hrow
    rw [ChainState.prune, lookup_retain, Option.filter_eq_some_iff] at hrow
    exact h.kept nullifier deadline hrow.1
  · intro nullifier deadline hrow hlive
    rw [ChainState.prune, lookup_retain, Option.filter_eq_some_iff]
    exact ⟨h.live nullifier deadline hrow (le_trans hlater hlive), by simpa using hlive⟩

theorem Pruned.mem_iff (h : Pruned now s full) (hfull : full.Dated deadlineOf)
    (hdated : deadline = deadlineOf nullifier) (hlive : now ≤ deadline) :
    nullifier ∈ s.nullifiers ↔ nullifier ∈ full.nullifiers := by
  refine ⟨h.kept.mem, fun hmem => ?_⟩
  obtain ⟨stored, hstored⟩ := Option.isSome_iff_exists.mp (AList.lookup_isSome.mpr hmem)
  have hsame := hfull nullifier stored hstored
  exact mem_of_lookup (h.live nullifier stored hstored (by omega))

theorem Pruned.mono (h : Pruned now s full) (hlater : now ≤ later) : Pruned later s full :=
  ⟨h.accounts, h.escrows, h.kept, fun nullifier deadline hrow hlive =>
    h.live nullifier deadline hrow (le_trans hlater hlive)⟩

theorem Pruned.insert (h : Pruned now s full) (nullifier : Id) (deadline : ℕ)
    (moves : List (Bytes × V)) :
    Pruned now
      { s with
        accounts := write compress s.accounts moves
        nullifiers := s.nullifiers.insert nullifier deadline }
      { full with
        accounts := write compress full.accounts moves
        nullifiers := full.nullifiers.insert nullifier deadline } := by
  refine ⟨by rw [h.accounts], h.escrows, ?_, ?_⟩
  · intro k d hrow
    rw [lookup_insert_eq_ite] at hrow ⊢
    split at hrow
    · next hk => rw [if_pos hk]; exact hrow
    · next hk => rw [if_neg hk]; exact h.kept k d hrow
  · grind [Pruned]

theorem Dated.insert (h : s.Dated deadlineOf) (hdated : deadline = deadlineOf nullifier)
    (accounts : Table Bytes Id) :
    Dated deadlineOf { s with
      accounts := accounts
      nullifiers := s.nullifiers.insert nullifier deadline } := by
  grind [Dated]

theorem Pruned.settle (compress : V → Id) (h : Pruned now s full) (hfull : full.Dated deadlineOf)
    (hdated : deadline = deadlineOf nullifier) (moves : List (Bytes × V)) :
    (∃ e, s.settle compress nullifier deadline now moves = .error e ∧
        full.settle compress nullifier deadline now moves = .error e) ∨
      ∃ delta t u, s.settle compress nullifier deadline now moves = .ok (delta, t) ∧
        full.settle compress nullifier deadline now moves = .ok (delta, u) ∧
        Pruned now t u ∧ u.Dated deadlineOf := by
  by_cases hlive : now ≤ deadline
  · have hmem := h.mem_iff hfull hdated hlive
    by_cases hseen : nullifier ∈ full.nullifiers
    · refine .inl ⟨.nullifierSeen, ?_, ?_⟩
      · simp [ChainState.settle, require, hlive, hmem.mpr hseen]; rfl
      · simp [ChainState.settle, require, hlive, hseen]; rfl
    · by_cases hopen : ∀ move ∈ moves, move.1 ∈ full.accounts
      · refine .inr ⟨_, _, _, settle_eq_ok.mpr ⟨hlive, mt hmem.mp hseen, ?_, rfl, rfl⟩,
          settle_eq_ok.mpr ⟨hlive, hseen, hopen, rfl, rfl⟩, h.insert nullifier deadline moves,
          hfull.insert hdated _⟩
        rw [h.accounts]
        exact hopen
      · cases hloop : forEach (fun move : Bytes × V =>
            require (move.1 ∈ full.accounts) Rejected.unknownAccount) moves with
        | ok u =>
          rw [forEach_eq_ok] at hloop
          exact absurd (fun move hmove => require_eq_ok.mp (hloop move hmove)) hopen
        | error e =>
          refine .inl ⟨e, ?_, ?_⟩
          · rw [ChainState.settle, h.accounts, hloop]
            simp [require, hlive, mt hmem.mp hseen]; rfl
          · rw [ChainState.settle, hloop]
            simp [require, hlive, hseen]; rfl
  · refine .inl ⟨.expired deadline now, ?_, ?_⟩
    · simp [ChainState.settle, require, hlive]; rfl
    · simp [ChainState.settle, require, hlive]; rfl

theorem Pruned.run (compress : V → Id) (h : Pruned now s full) (hfull : full.Dated deadlineOf)
    (htimes : es.Pairwise fun e e' => e.time ≤ e'.time) (hnow : ∀ e ∈ es, now ≤ e.time)
    (hdated : ∀ e ∈ es, e.Dated deadlineOf) :
    (ChainState.run compress s es).1 = (ChainState.run compress full (es.filter Event.isSettle)).1 ∧
      (ChainState.run compress s es).2.accounts =
        (ChainState.run compress full (es.filter Event.isSettle)).2.accounts := by
  induction es generalizing s full now with
  | nil => exact ⟨rfl, h.accounts⟩
  | cons e es ih =>
    obtain ⟨hlater, htimes'⟩ := pairwise_cons.mp htimes
    obtain ⟨hdate, hdated'⟩ := forall_mem_cons.mp hdated
    have hfirst := hnow e mem_cons_self
    cases e with
    | prune => exact ih (h.prune hfirst) hfull htimes' hlater hdated'
    | settle nullifier deadline later moves =>
      have hrel : Pruned later s full := h.mono hfirst
      rw [filter_cons_of_pos rfl]
      rcases hrel.settle compress hfull hdate moves with
        ⟨e, hs, hf⟩ | ⟨delta, t, u, hs, hf, hrel', hfull'⟩
      · obtain ⟨houtcomes, haccounts⟩ := ih hrel hfull htimes' hlater hdated'
        simp only [ChainState.run, hs, hf]
        exact ⟨by rw [houtcomes, h.accounts], haccounts⟩
      · obtain ⟨houtcomes, haccounts⟩ := ih hrel' hfull' htimes' hlater hdated'
        simp only [ChainState.run, hs, hf]
        exact ⟨by rw [houtcomes, hrel'.accounts], haccounts⟩

def Outcome.settles (nullifier : Id) (o : Outcome) : Bool :=
  o.nullifier = nullifier && o.result.isOk

theorem countP_settles (compress : V → Id) (s : ChainState) (es : List (Event V)) (nullifier : Id) :
    ((run compress s (es.filter Event.isSettle)).1.countP (Outcome.settles nullifier)) ≤
      if nullifier ∈ s.nullifiers then 0 else 1 := by
  induction es generalizing s with
  | nil => simp [run]
  | cons e es ih =>
    cases e with
    | prune => exact ih s
    | settle k deadline now moves =>
      rw [filter_cons_of_pos rfl]
      cases hsettle : s.settle compress k deadline now moves with
      | error =>
        simp only [run, hsettle]
        rw [countP_cons_of_neg (by simp [Outcome.settles, Except.isOk, Except.toBool])]
        exact ih s
      | ok result =>
        obtain ⟨delta, t⟩ := result
        obtain ⟨_, hfresh, _, _, rfl⟩ := settle_eq_ok.mp hsettle
        simp only [run, hsettle]
        have hrest := ih { s with
          accounts := write compress s.accounts moves
          nullifiers := s.nullifiers.insert k deadline }
        by_cases hk : k = nullifier
        · grind
        · rw [countP_cons_of_neg (by simp [Outcome.settles, hk])]
          have hmem : nullifier ∈ s.nullifiers.insert k deadline ↔ nullifier ∈ s.nullifiers := by
            rw [AList.mem_insert]
            simp [Ne.symm hk]
          simpa only [hmem] using hrest

/-- Prunings, wherever they are put in a run, change no settlement and no account, and no
nullifier settles twice. -/
theorem pruning_invisible (compress : V → Id) (deadlineOf : Id → ℕ) (s : ChainState)
    (es : List (Event V)) (hs : s.Dated deadlineOf)
    (htimes : es.Pairwise fun e e' => e.time ≤ e'.time) (hdated : ∀ e ∈ es, e.Dated deadlineOf) :
    (run compress s es).1 = (run compress s (es.filter Event.isSettle)).1 ∧
      (run compress s es).2.accounts = (run compress s (es.filter Event.isSettle)).2.accounts ∧
      ∀ nullifier, (run compress s es).1.countP (Outcome.settles nullifier) ≤ 1 := by
  have hstart : Pruned 0 s s := ⟨rfl, rfl, Keeps.refl _, fun _ _ hrow _ => hrow⟩
  obtain ⟨houtcomes, haccounts⟩ :=
    hstart.run compress hs htimes (fun _ _ => Nat.zero_le _) hdated
  refine ⟨houtcomes, haccounts, fun nullifier => ?_⟩
  rw [houtcomes]
  have hcount := countP_settles compress s es nullifier
  split at hcount <;> omega

def sampleState : ChainState := ⟨(∅ : Table Bytes Id).insert [1] (Id.fill 10), ∅, ∅⟩

theorem pruning_invisible_sample :
    let nullifier := Id.fill 7
    let es : List (Event UInt8) := [.settle nullifier 5 3 [([1], 4)], .prune 4,
      .settle nullifier 5 5 [([1], 9)], .prune 6, .settle nullifier 5 7 [([1], 9)]]
    (run Id.fill sampleState es).1.map Outcome.result =
        [.ok ⟨2, 2, 72, 1⟩, .error .nullifierSeen, .error (.expired 5 7)] ∧
      (run Id.fill sampleState es).2.nullifiers.keys = [] ∧
      (run Id.fill sampleState es).1.countP (Outcome.settles nullifier) ≤ 1 := by
  intro nullifier es
  have hs : sampleState.Dated fun _ => 5 := by
    intro k d hrow
    cases hrow
  have hdated : ∀ e ∈ es, e.Dated fun _ => 5 := by
    simp [es, Event.Dated]
  obtain ⟨_, _, honce⟩ := pruning_invisible Id.fill (fun _ => 5) sampleState es hs
    (by simp [es, Event.time]) hdated
  exact ⟨by decide +kernel, by decide +kernel, honce nullifier⟩

end Pruning

section Root

instance : DecidableLE Id := fun a b => inferInstanceAs (Decidable (a.1 ≤ b.1))

def stateDomain : Bytes := utf8 "QOMM:CHAIN:STATE:v1"

/-- The rows of a map in the order of their keys, behind their number. -/
def tableBytes {κ α : Type} [DecidableEq κ] [LE κ] [DecidableLE κ] (row : κ × α → Bytes)
    (t : Table κ α) : Bytes :=
  beBytes 8 t.sorted.length ++ t.sorted.flatMap row

def accountBytes (row : Bytes × Id) : Bytes := counted 8 row.1 ++ row.2.1

def nullifierBytes (row : Id × ℕ) : Bytes := row.1.1 ++ beBytes 8 row.2

def escrowBytes (row : Bytes × Escrow) : Bytes :=
  counted 8 row.1 ++ (counted 8 row.2.payer ++ (counted 8 row.2.payee ++
    (row.2.held.1 ++ beBytes 8 row.2.deadline)))

def root {D : Type} (hash : Bytes → D) (s : ChainState) : D :=
  hash (stateDomain ++ (tableBytes accountBytes s.accounts ++
    (tableBytes nullifierBytes s.nullifiers ++ tableBytes escrowBytes s.escrows)))

/-- Every number in the map is a 64-bit one, its length included. -/
abbrev Sized {κ α : Type} [DecidableEq κ] [LE κ] [DecidableLE κ] (p : κ × α → Prop)
    (t : Table κ α) : Prop :=
  t.sorted.length < 256 ^ 8 ∧ ∀ row ∈ t.sorted, p row

structure Typed (s : ChainState) : Prop where
  accounts : Sized (fun row => row.1.length < 256 ^ 8) s.accounts
  nullifiers : Sized (fun row => row.2 < 256 ^ 8) s.nullifiers
  escrows : Sized (fun row => row.1.length < 256 ^ 8 ∧ row.2.payer.length < 256 ^ 8 ∧
    row.2.payee.length < 256 ^ 8 ∧ row.2.deadline < 256 ^ 8) s.escrows

theorem framed_id : Framed (fun _ => True) (Subtype.val : Id → Bytes) :=
  framed_fixed (fun a b => by rw [a.2, b.2]) Subtype.val_injective

theorem accountBytes_framed : Framed (fun row => row.1.length < 256 ^ 8) accountBytes := by
  intro a b r s ha hb h
  simp only [accountBytes, append_assoc] at h
  obtain ⟨hhandle, h⟩ := framed_counted 8 ha hb h
  obtain ⟨hcommitment, h⟩ := framed_id trivial trivial h
  exact ⟨Prod.ext hhandle hcommitment, h⟩

theorem nullifierBytes_framed : Framed (fun row => row.2 < 256 ^ 8) nullifierBytes := by
  intro a b r s ha hb h
  simp only [nullifierBytes, append_assoc] at h
  obtain ⟨hnullifier, h⟩ := framed_id trivial trivial h
  obtain ⟨hdeadline, h⟩ := framed_beBytes 8 ha hb h
  exact ⟨Prod.ext hnullifier hdeadline, h⟩

theorem escrowBytes_framed :
    Framed (fun row => row.1.length < 256 ^ 8 ∧ row.2.payer.length < 256 ^ 8 ∧
      row.2.payee.length < 256 ^ 8 ∧ row.2.deadline < 256 ^ 8) escrowBytes := by
  intro a b r s ha hb h
  simp only [escrowBytes, append_assoc] at h
  obtain ⟨hleg, h⟩ := framed_counted 8 ha.1 hb.1 h
  obtain ⟨hpayer, h⟩ := framed_counted 8 ha.2.1 hb.2.1 h
  obtain ⟨hpayee, h⟩ := framed_counted 8 ha.2.2.1 hb.2.2.1 h
  obtain ⟨hheld, h⟩ := framed_id trivial trivial h
  obtain ⟨hdeadline, h⟩ := framed_beBytes 8 ha.2.2.2 hb.2.2.2 h
  exact ⟨Prod.ext hleg (Escrow.ext hpayer hpayee hheld hdeadline), h⟩

theorem tableBytes_append_inj {κ α : Type} [DecidableEq κ] [LE κ] [DecidableLE κ]
    {p : κ × α → Prop} {row : κ × α → Bytes} (hrow : Framed p row) {t u : Table κ α}
    {r s : Bytes} (ht : Sized p t) (hu : Sized p u)
    (h : tableBytes row t ++ r = tableBytes row u ++ s) :
    (∀ k, t.lookup k = u.lookup k) ∧ r = s := by
  obtain ⟨hsorted, hrest⟩ := hrow.list 8 ht hu h
  exact ⟨lookup_eq_of_sorted_eq hsorted, hrest⟩

/-- States with one root have the same accounts, nullifiers and escrows. -/
theorem root_binding {D : Type} {hash : Bytes → D} (hhash : Function.Injective hash)
    {s t : ChainState} (hs : s.Typed) (ht : t.Typed) (h : s.root hash = t.root hash) :
    (∀ handle, s.accounts.lookup handle = t.accounts.lookup handle) ∧
      (∀ nullifier, s.nullifiers.lookup nullifier = t.nullifiers.lookup nullifier) ∧
      ∀ leg, s.escrows.lookup leg = t.escrows.lookup leg := by
  have hbytes := List.append_cancel_left (hhash h)
  obtain ⟨haccounts, hbytes⟩ :=
    tableBytes_append_inj accountBytes_framed hs.accounts ht.accounts hbytes
  obtain ⟨hnullifiers, hbytes⟩ :=
    tableBytes_append_inj nullifierBytes_framed hs.nullifiers ht.nullifiers hbytes
  obtain ⟨hescrows, _⟩ := tableBytes_append_inj escrowBytes_framed hs.escrows ht.escrows
    (congrArg (· ++ []) hbytes)
  exact ⟨haccounts, hnullifiers, hescrows⟩

def sampleOpen (handles : List Bytes) : ChainState :=
  ⟨handles.foldl (fun t handle => t.insert handle (Id.fill 10)) ∅,
    (∅ : Table Id ℕ).insert (Id.fill 7) 5,
    (∅ : Table Bytes Escrow).insert [3] ⟨[1], [2, 1], Id.fill 4, 9⟩⟩

/-- Two nodes that opened the same accounts in another order. -/
theorem root_binding_reordered :
    (sampleOpen [[1], [2, 1]]).accounts.keys ≠ (sampleOpen [[2, 1], [1]]).accounts.keys ∧
      ∀ handle, (sampleOpen [[1], [2, 1]]).accounts.lookup handle =
        (sampleOpen [[2, 1], [1]]).accounts.lookup handle := by
  have hs : (sampleOpen [[1], [2, 1]]).Typed := by constructor <;> decide +kernel
  have ht : (sampleOpen [[2, 1], [1]]).Typed := by constructor <;> decide +kernel
  have hroot : root id (sampleOpen [[1], [2, 1]]) = root id (sampleOpen [[2, 1], [1]]) :=
    congrArg (stateDomain ++ ·) (by decide +kernel)
  exact ⟨by decide +kernel, (root_binding Function.injective_id hs ht hroot).1⟩

end Root

end ChainState

end DeFMI.Contract
