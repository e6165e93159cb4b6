import DeFMI.Ledger
set_option autoImplicit false

/-!
The note ledger: a pool of notes, a set of spent serials, and a spend that
names a ring, proves membership at one eligible position and commits its
outputs under a tag of the prover's choice.
-/

namespace DeFMI
open Lib

structure Note (V : Type) where
  oneTime : V
  valueCommitment : V
  ephemeral : V
  encryptedOpening : Bytes
  deriving DecidableEq

/-- Fixed points and encodings of the note rail: the group base, the linking
generator, the point encoding and the hash of a note to a point. -/
structure NoteParams (V : Type) where
  base : V
  linking : V
  compress : V → Bytes
  commitmentOf : Note V → V

structure TaggedContext (V : Type) where
  label : String
  context : Bytes
  tag : V
  deriving DecidableEq

structure MembershipContext (V : Type) where
  context : Bytes
  tag : V
  outputs : List V
  notes : List (Note V)
  deriving DecidableEq

structure NoteMembershipProof (V : Type) where
  context : MembershipContext V
  position : ℕ
  secret : Scalar
  blinding : Scalar

/-- A note binding hashes the whole note, so it is kept as the note. -/
structure SpendProof (V : Type) where
  serialPoint : V
  pseudo : V
  ring : NoteMembershipProof V
  outputs : List V
  outputNotes : List (Note V)
  outputRange : RangeProof (TaggedContext V)
  outputRangeCommitments : List V
  balance : ZeroProof (TaggedContext V)
  tag : V

structure NoteLedger (V : Type) where
  key : Pedersen V
  bits : ℕ
  notes : List (Note V)
  spent : Finset V
  rolling : Bytes
  issuer : Option Bytes
  issued : Finset (V × Bytes)

def maxRing : ℕ := 4096

namespace NoteLedger

variable {V : Type}

def new (key : Pedersen V) (bits : ℕ) : NoteLedger V :=
  ⟨key, bits, [], ∅, utf8 "QOMM:DEFMI:NOTES:v1", none, ∅⟩

def append (P : NoteParams V) (l : NoteLedger V) (note : Note V) : NoteLedger V :=
  { l with rolling := l.rolling ++ P.compress (P.commitmentOf note), notes := l.notes ++ [note] }

/-- `none` is a failed assertion. -/
def add (P : NoteParams V) (l : NoteLedger V) (note : Note V) : Option (NoteLedger V) :=
  if l.issuer.isNone then some (l.append P note) else none

def snapshot (l : NoteLedger V) : Bytes := l.rolling

theorem foldl_append_notes (P : NoteParams V) (l : NoteLedger V) (notes : List (Note V)) :
    (notes.foldl (fun ledger note => ledger.append P note) l).notes = l.notes ++ notes := by
  induction notes generalizing l with
  | nil => simp
  | cons note notes ih =>
    rw [List.foldl_cons, ih]
    simp [append]

section Spend

variable [DecidableEq V]

def addIssued (P : NoteParams V) (verify : Bytes → V × Bytes → Bytes → Bool) (l : NoteLedger V)
    (note : Note V) (nonce authorisation : Bytes) : Result (NoteLedger V) := do
  let issuer ← okOr l.issuer "this ledger has no issuer"
  let body := (P.commitmentOf note, nonce)
  require (body ∉ l.issued) "that issuance authorisation was already used"
  require (verify issuer body authorisation = true) "the note is not signed by the issuer"
  pure { l.append P note with issued := insert body l.issued }

def matchesOutputNotes (proof : SpendProof V) (notes : List (Note V)) : Bool :=
  notes = proof.outputNotes && notes.map Note.valueCommitment = proof.outputs

/-- Record the serial and append the outputs; spent notes stay in the pool. -/
def applySpend (P : NoteParams V) (l : NoteLedger V) (proof : SpendProof V)
    (notes : List (Note V)) : Result (NoteLedger V) := do
  require (matchesOutputNotes proof notes = true) "delivered notes differ from signed destinations"
  require (proof.serialPoint ∉ l.spent) "serial already spent"
  let marked : NoteLedger V := { l with
    spent := insert proof.serialPoint l.spent
    rolling := l.rolling ++ utf8 "s" ++ P.compress proof.serialPoint }
  pure (notes.foldl (fun ledger note => ledger.append P note) marked)

theorem applySpend_ok {P : NoteParams V} {l l' : NoteLedger V} {proof : SpendProof V}
    {notes : List (Note V)}
    (h : l.applySpend P proof notes = .ok l') :
    l'.notes = l.notes ++ notes ∧ notes.map Note.valueCommitment = proof.outputs := by
  simp only [applySpend, ok_iff] at h
  obtain ⟨hmatch, _, rfl⟩ := h
  simp only [matchesOutputNotes, Bool.and_eq_true, decide_eq_true_eq] at hmatch
  exact ⟨foldl_append_notes P _ notes, hmatch.2⟩

def spendSnapshot (P : NoteParams V) (l : NoteLedger V) (proof : SpendProof V)
    (notes : List (Note V)) : Result Bytes := do
  require (matchesOutputNotes proof notes = true) "delivered notes differ from signed destinations"
  require (proof.serialPoint ∉ l.spent) "serial already spent"
  pure (notes.foldl (fun rolling note => rolling ++ P.compress (P.commitmentOf note))
    (l.rolling ++ utf8 "s" ++ P.compress proof.serialPoint))

variable [AddCommGroup V] [Module Scalar V]

/-- The signer owns the note at an eligible ring position, publishes its linking
tag, and the pseudo commitment differs from the note's by a multiple of `h`. -/
def ownsPosition (P : NoteParams V) (h pseudo serial : V) (proof : NoteMembershipProof V)
    (note : Note V) : Bool :=
  note.oneTime = proof.secret • P.base && serial = proof.secret⁻¹ • P.linking &&
    note.valueCommitment - pseudo = proof.blinding • h

def verifyMembership (P : NoteParams V) (key : Pedersen V) (notes : List (Note V)) (ring : List ℕ)
    (eligibility : List Bool) (pseudo serial : V) (context : MembershipContext V)
    (proof : NoteMembershipProof V) : Bool :=
  0 < ring.length && ring.length ≤ maxRing && ring.length = eligibility.length &&
    ring.all (fun i => i < notes.length) && proof.context = context && serial ≠ 0 &&
    eligibility[proof.position]? = some true &&
    match ring[proof.position]?.bind (fun i => notes[i]?) with
    | some note => ownsPosition P key.h pseudo serial proof note
    | none => false

def rangeContext (context : Bytes) (tag : V) : TaggedContext V := ⟨"qomm:note:range", context, tag⟩

def balanceContext (context : Bytes) (tag : V) : TaggedContext V :=
  ⟨"qomm:note:balance", context, tag⟩

def checkSpendConstrained (P : NoteParams V) (l : NoteLedger V) (ring : List ℕ)
    (proof : SpendProof V) (eligibility : List Bool) (context : Bytes) : Check := do
  require (proof.serialPoint ∉ l.spent) "serial already spent"
  require (proof.outputs.length = proof.outputNotes.length) "output note binding count mismatch"
  require (ring.length = eligibility.length ∧ ∀ i ∈ ring, i < l.notes.length)
    "the ring names an absent note"
  require ring.Nodup "the ring repeats a note"
  require (verifyMembership P l.key l.notes ring eligibility proof.pseudo proof.serialPoint
    ⟨context, proof.tag, proof.outputs, proof.outputNotes⟩ proof.ring = true)
    "no note in the ring carries this serial"
  require (proof.outputRangeCommitments = proof.outputs) "the range proof is about other outputs"
  require (proof.outputRange.verifyMultiple 2 proof.tag l.key.h (rangeContext context proof.tag)
    proof.outputRangeCommitments l.bits = true) "an output is not shown to be in range"
  require (proof.balance.verify l.key.h (balanceContext context proof.tag)
    (proof.pseudo - proof.outputs.sum) = true) "outputs do not add up to the note being spent"

end Spend

section Values

variable [DecidableEq V] [AddCommGroup V] [Module Scalar V] {P : NoteParams V} {l : NoteLedger V}
  {ring : List ℕ} {proof : SpendProof V} {eligibility : List Bool} {context : Bytes} {A : V}

def spentNote (l : NoteLedger V) (ring : List ℕ) (proof : SpendProof V) : Option (Note V) :=
  ring[proof.ring.position]?.bind (fun i => l.notes[i]?)

def provedValues (proof : SpendProof V) : List ℕ := proof.outputRange.openings.map Prod.fst

variable {notes : List (Note V)} {rest : List V} {first : V}

theorem verifyMembership_spent {key : Pedersen V} {pseudo serial : V}
    {ctx : MembershipContext V} {p : NoteMembershipProof V}
    (h : verifyMembership P key notes ring eligibility pseudo serial ctx p = true) :
    ∃ i note, i ∈ ring ∧ notes[i]? = some note ∧
      ring[p.position]?.bind (fun i => notes[i]?) = some note ∧
      note.valueCommitment - pseudo = p.blinding • key.h := by
  simp only [verifyMembership, Bool.and_eq_true] at h
  obtain ⟨_, hmatch⟩ := h
  cases hnote : ring[p.position]?.bind (fun i => notes[i]?) with
  | none => simp [hnote] at hmatch
  | some note =>
    simp only [hnote, ownsPosition, Bool.and_eq_true, decide_eq_true_eq] at hmatch
    obtain ⟨i, hi, hin⟩ := Option.bind_eq_some_iff.mp hnote
    exact ⟨i, note, List.mem_of_getElem? hi, hin, rfl, hmatch.2⟩

theorem checkSpendConstrained_ok {u : Unit}
    (h : l.checkSpendConstrained P ring proof eligibility context = .ok u) :
    ∃ i note, i ∈ ring ∧ l.notes[i]? = some note ∧ l.spentNote ring proof = some note ∧
      (∃ s : Scalar, note.valueCommitment - proof.outputs.sum = s • l.key.h) ∧ l.bits ≤ 64 ∧
      (proof.outputs.length = 1 ∨ proof.outputs.length = 2) ∧
      HoldAll proof.tag l.key.h (2 ^ l.bits) proof.outputs (provedValues proof) := by
  simp only [checkSpendConstrained, ok_iff] at h
  obtain ⟨_, _, _, _, hmember, hcommit, hrange, hbalance⟩ := h
  obtain ⟨i, note, hi, hin, hspent, hpseudo⟩ := verifyMembership_spent hmember
  simp only [ZeroProof.verify, Bool.and_eq_true, decide_eq_true_eq] at hbalance
  rw [hcommit] at hrange
  obtain ⟨hbits, hvalues⟩ := RangeProof.verifyMultiple_sound hrange
  refine ⟨i, note, hi, hin, hspent, ⟨proof.ring.blinding + proof.balance.blinding, ?_⟩, hbits,
    RangeProof.verifyMultiple_two hrange, hvalues⟩
  rw [add_smul, ← hpseudo, ← hbalance.2]
  abel

def RingBacked (A : V) (l : NoteLedger V) (ring : List ℕ) : Prop :=
  ∀ i ∈ ring, ∀ note, l.notes[i]? = some note →
    ∃ v, v < 2 ^ l.bits ∧ Holds A l.key.h note.valueCommitment v

/-- Under the asset generator the outputs hold ranged values that add up to the
value of the spent note. -/
def SpendSound (A : V) (l : NoteLedger V) (ring : List ℕ) (proof : SpendProof V) : Prop :=
  ∃ note v ys, l.spentNote ring proof = some note ∧ v < 2 ^ l.bits ∧
    Holds A l.key.h note.valueCommitment v ∧
    HoldAll A l.key.h (2 ^ l.bits) proof.outputs ys ∧ ys.sum = v

/-- The tag is a blinded multiple of the asset generator whose factor keeps
every proved output value in range, or no output holds anything. -/
def TagKeepsRange (A : V) (l : NoteLedger V) (proof : SpendProof V) : Prop :=
  (∀ x ∈ provedValues proof, x = 0) ∨
    ∃ c, Scales A l.key.h proof.tag c ∧
      ∀ x ∈ provedValues proof, (c * (x : Scalar)).val < 2 ^ l.bits

section
variable (h : l.checkSpendConstrained P ring proof eligibility context = .ok ())
include h

theorem outputs_sum_opens (hb : RingBacked A l ring) :
    ∃ note v, l.spentNote ring proof = some note ∧ v < 2 ^ l.bits ∧
      Holds A l.key.h note.valueCommitment v ∧ Holds A l.key.h proof.outputs.sum v := by
  obtain ⟨i, note, hi, hin, hspent, ⟨s, hs⟩, _, _, _⟩ := checkSpendConstrained_ok h
  obtain ⟨v, hv, r, hr⟩ := hb i hi note hin
  have hsum : proof.outputs.sum = note.valueCommitment - s • l.key.h := by
    rw [← hs]
    abel
  refine ⟨note, v, hspent, hv, ⟨r, hr⟩, r - s, ?_⟩
  rw [hsum, hr, sub_smul]
  abel

omit h in
theorem spendSound_of_holdAll (ys : List ℕ)
    (h : l.checkSpendConstrained P ring proof eligibility context = .ok ())
    (hi : Independent A l.key.h) (hb : RingBacked A l ring)
    (hys : HoldAll A l.key.h (2 ^ l.bits) proof.outputs ys) : SpendSound A l ring proof := by
  obtain ⟨note, v, hspent, hv, hnote, hsum⟩ := outputs_sum_opens h hb
  obtain ⟨_, _, _, _, _, _, hbits, hlen, _⟩ := checkSpendConstrained_ok h
  have hpow : 2 ^ l.bits ≤ 2 ^ 64 := Nat.pow_le_pow_right (by omega) hbits
  -- Two outputs of at most 64 bits cannot wrap around the group order.
  have hle := hys.sum_le
  have hlt : ys.sum < 2 ^ 252 := by
    cases hlen with
    | inl hone => rw [hone] at hle; omega
    | inr htwo => rw [htwo] at hle; omega
  have hv252 : v < 2 ^ 252 := by omega
  exact ⟨note, v, ys, hspent, hv, hnote, hys, hi.holds_unique hys.sum hsum hlt hv252⟩

theorem spendSound_iff (hi : Independent A l.key.h) (hb : RingBacked A l ring) :
    SpendSound A l ring proof ↔ TagKeepsRange A l proof := by
  obtain ⟨_, _, _, _, _, _, hbits, _, htag⟩ := checkSpendConstrained_ok h
  have hpow : 2 ^ l.bits ≤ 2 ^ 64 := Nat.pow_le_pow_right (by omega) hbits
  have hrestate := htag.restate_iff hi hpow
  constructor
  · rintro ⟨_, _, ys, _, _, _, hys, _⟩
    exact hrestate.mp ⟨ys, hys⟩
  · intro hkeeps
    obtain ⟨ys, hys⟩ := hrestate.mpr hkeeps
    exact spendSound_of_holdAll ys h hi hb hys

def Pays (A : V) (l l' : NoteLedger V) (ring : List ℕ) (proof : SpendProof V) (n : ℕ) : Prop :=
  SpendSound A l ring proof ∧ ∃ note, l'.notes[l.notes.length]? = some note ∧
    Holds A l.key.h note.valueCommitment n

omit h in
theorem firstNote_iff {l' : NoteLedger V}
    {n : ℕ} (h : l.applySpend P proof notes = .ok l') (hout : proof.outputs = first :: rest) :
    (∃ note, l'.notes[l.notes.length]? = some note ∧ Holds A l.key.h note.valueCommitment n) ↔
      Holds A l.key.h first n := by
  obtain ⟨hnotes, hvalues⟩ := applySpend_ok h
  cases notes with
  | nil => simp [hout] at hvalues
  | cons =>
    rw [hout] at hvalues
    obtain ⟨hfirst, _⟩ := List.cons.inj hvalues
    simp [hnotes, hfirst]

/-- A first output of value zero leaves the whole spent value to the second,
whatever the tag. -/
theorem spendSound_of_first_zero (hi : Independent A l.key.h) (hb : RingBacked A l ring)
    (hout : proof.outputs = first :: rest) (hfirst : Holds A l.key.h first 0) :
    SpendSound A l ring proof := by
  obtain ⟨note, v, _, hv, _, hsum⟩ := outputs_sum_opens h hb
  obtain ⟨_, _, _, _, _, _, _, hlen, _⟩ := checkSpendConstrained_ok h
  have hpos : 0 < 2 ^ l.bits := Nat.two_pow_pos _
  rw [hout] at hlen hsum
  match rest, hlen with
  | [], _ =>
    apply spendSound_of_holdAll [0] h hi hb
    rw [hout]
    exact .cons ⟨hpos, hfirst⟩ .nil
  | [second], _ =>
    have hsecond : Holds A l.key.h second v := by
      have hrest := Holds.sub (Nat.zero_le v) hsum hfirst
      simpa using hrest
    apply spendSound_of_holdAll [0, v] h hi hb
    rw [hout]
    exact .cons ⟨hpos, hfirst⟩ (.cons ⟨hv, hsecond⟩ .nil)

theorem tagKeepsRange_of_reblinds
    (ht : Reblinds A l.key.h proof.tag) : TagKeepsRange A l proof := by
  obtain ⟨_, _, _, _, _, _, hbits, _, htag⟩ := checkSpendConstrained_ok h
  have hpow : 2 ^ l.bits ≤ 2 ^ 64 := Nat.pow_le_pow_right (by omega) hbits
  refine Or.inr ⟨1, reblinds_iff_scales.mp ht, ?_⟩
  intro x hx
  have hlt := htag.lt x hx
  rw [one_mul, ZMod.val_natCast_of_lt (lt_groupOrder (by omega))]
  exact hlt

theorem pays_iff {l' : NoteLedger V} {n : ℕ}
    (happly : l.applySpend P proof notes = .ok l') (hi : Independent A l.key.h)
    (hb : RingBacked A l ring) (hout : proof.outputs = first :: rest) (hn : n < 2 ^ 128)
    (hfirst : Holds proof.tag l.key.h first n) :
    Pays A l l' ring proof n ↔ n = 0 ∨ Reblinds A l.key.h proof.tag := by
  have htransfer : Holds A l.key.h first n ↔ (n : Scalar) = 0 ∨ Reblinds A l.key.h proof.tag :=
    opens_transfer_iff hfirst
  have hzero : (n : Scalar) = 0 ↔ n = 0 :=
    ⟨natCast_scalar_eq_zero (by omega), fun h0 => by simp [h0]⟩
  rw [Pays, firstNote_iff happly hout, htransfer, hzero]
  refine ⟨And.right, fun hcond => ⟨?_, hcond⟩⟩
  cases hcond with
  | inl h0 =>
    subst h0
    exact spendSound_of_first_zero h hi hb hout (htransfer.mpr (Or.inl rfl))
  | inr ht => exact (spendSound_iff h hi hb).mpr (tagKeepsRange_of_reblinds h ht)

end

end Values
end NoteLedger
end DeFMI
