import DeFMI.Lib.Wire
import DeFMI.NoteSettlementRuns
set_option autoImplicit false

/-!
What the root of a note ledger says about its history. The hashed bytes carry no
lengths and no counts; records are told apart by the parity of their first byte.
-/

namespace DeFMI
open Lib InPlace List

inductive NoteEvent (V : Type) where
  | note (commitment : V)
  | serial (point : V)

variable {V : Type}

/-- The bytes by which the running hash is extended. -/
def NoteEvent.bytes (P : NoteParams V) : NoteEvent V → Bytes
  | .note commitment => P.compress commitment
  | .serial point => utf8 "s" ++ P.compress point

def NoteLedgerOp.events (P : NoteParams V) : NoteLedgerOp V → List (NoteEvent V)
  | .add note => [.note (P.commitmentOf note)]
  | .addIssued note _ _ => [.note (P.commitmentOf note)]
  | .applySpend proof notes =>
    .serial proof.serialPoint :: notes.map fun note => .note (P.commitmentOf note)

/-- Canonical encodings of points: 32 bytes, the first of them even. -/
structure NoteParams.Canonical (P : NoteParams V) : Prop where
  length : ∀ v, (P.compress v).length = 32
  even : ∀ v, ∀ b ∈ (P.compress v).head?, b.toNat % 2 = 0
  injective : Function.Injective P.compress

section Decoding

variable {P : NoteParams V}

theorem compress_append_inj (hP : P.Canonical) {v w : V} {r s : Bytes}
    (h : P.compress v ++ r = P.compress w ++ s) : v = w ∧ r = s := by
  obtain ⟨hpoint, hrest⟩ := append_inj h (by rw [hP.length, hP.length])
  exact ⟨hP.injective hpoint, hrest⟩

/-- A record of a serial starts with an odd byte, an encoding with an even one. -/
theorem compress_append_ne (hP : P.Canonical) {v w : V} {r s : Bytes} :
    P.compress v ++ r ≠ utf8 "s" ++ P.compress w ++ s := by
  have hlength := hP.length v
  have heven := hP.even v
  cases hbytes : P.compress v with
  | nil => simp [hbytes] at hlength
  | cons b bytes =>
    intro h
    have hs : utf8 "s" = [115] := by decide +kernel
    have hb : b = 115 := by simpa [hs] using congrArg head? h
    simp [hbytes, hb] at heven

theorem NoteEvent.bytes_append_inj (hP : P.Canonical) {a b : NoteEvent V} {r s : Bytes}
    (h : a.bytes P ++ r = b.bytes P ++ s) : a = b ∧ r = s := by
  cases a with
  | note =>
    cases b with
    | note => simpa [bytes] using compress_append_inj hP h
    | serial => exact absurd h (compress_append_ne hP)
  | serial =>
    cases b with
    | note => exact absurd h.symm (compress_append_ne hP)
    | serial =>
      simp only [bytes, append_assoc, append_cancel_left_eq] at h
      simpa using compress_append_inj hP h

theorem NoteEvent.bytes_ne_nil (hP : P.Canonical) (a : NoteEvent V) : a.bytes P ≠ [] := by
  have hpoint (v : V) : P.compress v ≠ [] := ne_nil_of_length_pos (by simp [hP.length v])
  cases a <;> simp [bytes, hpoint]

theorem flatMap_bytes_injective (hP : P.Canonical) :
    Function.Injective (flatMap (NoteEvent.bytes P)) := by
  intro as bs h
  have hframed : Framed (fun _ => True) (NoteEvent.bytes P) :=
    fun _ _ _ _ _ _ h => NoteEvent.bytes_append_inj hP h
  exact hframed.stream (NoteEvent.bytes_ne_nil hP) (by simp) (by simp) h

end Decoding

namespace NoteLedger

variable [DecidableEq V] (P : NoteParams V) (verify : Bytes → V × Bytes → Bytes → Bool)

/-- One call on a ledger. -/
def call (op : NoteLedgerOp V) : InPlace (NoteLedger V) Unit :=
  update fun l => l.act P verify op

/-- The notes a run has appended and the serials it has recorded, in order. -/
def eventsOf (start : NoteLedger V) (ops : List (NoteLedgerOp V)) : List (NoteEvent V) :=
  (history (call P verify) start ops).flatMap fun step => step.op.events P

variable {P verify} {l l' : NoteLedger V}

theorem act_rolling {op : NoteLedgerOp V} (h : l.act P verify op = .ok l') :
    l'.rolling = l.rolling ++ (op.events P).flatMap (NoteEvent.bytes P) := by
  cases op with
  | add =>
    simp only [act, add, okOr_eq_ok, Option.ite_none_right_eq_some, Option.some.injEq] at h
    simp [← h.2, append, NoteLedgerOp.events, NoteEvent.bytes]
  | addIssued =>
    simp only [act, addIssued, ok_iff] at h
    obtain ⟨_, _, _, _, rfl⟩ := h
    simp [append, NoteLedgerOp.events, NoteEvent.bytes]
  | applySpend =>
    simp only [act, applySpend, ok_iff] at h
    obtain ⟨_, _, rfl⟩ := h
    rw [foldl_append_rolling]
    simp [NoteLedgerOp.events, NoteEvent.bytes, flatMap_def, Function.comp_def]

/-- The bytes hashed since the start are those of the events of the steps done. -/
def Logged (P : NoteParams V) (start : NoteLedger V)
    (done : List (Step (NoteLedger V) (NoteLedgerOp V))) (l : NoteLedger V) : Prop :=
  l.rolling = start.rolling ++
    (done.flatMap fun step => step.op.events P).flatMap (NoteEvent.bytes P)

theorem run_logged (start : NoteLedger V) (ops : List (NoteLedgerOp V)) :
    Logged P start (history (call P verify) start ops)
      (run (call P verify) start ops) := by
  refine history_invariant (s := start) ?_ (fun l _ e t h =>
    restores_update _ l e t h) ops (show Logged P start [] start by simp [Logged])
  intro done l op _ t hlogged hstep
  rw [Logged, act_rolling (update_eq.mp hstep), hlogged]
  simp

/-- Under an injective hash the root of a ledger determines the notes appended and the
serials recorded since the start, in their order; and the root predicted for a spend is
the root after it. -/
theorem snapshot_binds_history {D : Type} (hash : Bytes → D) (hhash : Function.Injective hash)
    (P : NoteParams V) (hP : P.Canonical) (verify : Bytes → V × Bytes → Bytes → Bool)
    (start : NoteLedger V) :
    (∀ ops ops', hash (run (call P verify) start ops).snapshot =
        hash (run (call P verify) start ops').snapshot →
      eventsOf P verify start ops = eventsOf P verify start ops') ∧
    ∀ ops proof notes root after,
      (run (call P verify) start ops).spendSnapshot P proof notes = .ok root →
      (run (call P verify) start ops).applySpend P proof notes = .ok after →
      hash root = hash after.snapshot := by
  constructor
  · intro ops ops' h
    have hbytes := hhash h
    rw [snapshot, snapshot, run_logged, run_logged, List.append_cancel_left_eq] at hbytes
    exact flatMap_bytes_injective hP hbytes
  · intro ops proof notes root after hroot happly
    obtain ⟨predicted, hpredicted, rfl⟩ := spendSnapshot_ok hroot
    rw [Except.ok.inj (hpredicted.symm.trans happly)]

/-- Two points, told apart by their first byte. -/
def twoPoints : NoteParams (Fin 2) where
  base := 0
  linking := 1
  compress v := UInt8.ofNat (2 * v) :: List.replicate 31 0
  commitmentOf note := note.valueCommitment

theorem twoPoints_canonical : twoPoints.Canonical where
  length v := by simp [twoPoints]
  even v := by revert v; decide +kernel
  injective := by
    intro v w
    revert v w
    decide

def spendOnce : NoteLedgerOp (Fin 2) :=
  .applySpend ⟨1, 0, ⟨⟨[], 0, [], []⟩, 0, 0, 0⟩, [1], [⟨0, 1, 0, []⟩], ⟨⟨"", [], 0⟩, []⟩, [],
    ⟨⟨"", [], 0⟩, 0⟩, 0⟩ [⟨0, 1, 0, []⟩]

/-- A repeated spend leaves no trace in the root. -/
theorem snapshot_binds_history_sample :
    let events := eventsOf twoPoints (fun _ _ _ => true) (new ⟨0, 1⟩ 64)
    (events [.add ⟨0, 0, 0, []⟩, spendOnce]).length = 3 ∧
      events [.add ⟨0, 0, 0, []⟩, spendOnce] = events [.add ⟨0, 0, 0, []⟩, spendOnce, spendOnce] :=
  ⟨by decide +kernel,
    (snapshot_binds_history id Function.injective_id twoPoints twoPoints_canonical _ _).1 _ _
      (by decide +kernel)⟩

end NoteLedger
end DeFMI
