import DeFMI.Lib.Transaction
import DeFMI.NoteSettlement
set_option autoImplicit false

/-!
The note settlement as a call that changes its receiver in place, with the
order of its effects, and histories of such calls mixed with any calls on
either rail's own ledger.
-/

namespace DeFMI
open Lib InPlace

inductive NoteOutcome where
  | returned (result : Result NoteReceipt)
  | panicked

inductive NoteLedgerOp (V : Type) where
  | add (note : Note V)
  | addIssued (note : Note V) (nonce authorisation : Bytes)
  | applySpend (proof : SpendProof V) (notes : List (Note V))

inductive NoteRail where
  | securities
  | cash
  deriving DecidableEq

inductive NoteDefmiOp (V : Type) where
  | settle (package : NoteDvpPackage V) (now : ℕ) (context : Bytes)
  | ledger (rail : NoteRail) (op : NoteLedgerOp V)

def NoteDvpPackage.leg {V : Type} (package : NoteDvpPackage V) : NoteRail → NoteLeg V
  | .securities => package.securities
  | .cash => package.cash

namespace NoteLedger

variable {V : Type} [DecidableEq V] {P : NoteParams V} {l l' : NoteLedger V} {proof : SpendProof V}
  {notes : List (Note V)}

def act (P : NoteParams V) (verify : Bytes → V × Bytes → Bytes → Bool) (l : NoteLedger V) :
    NoteLedgerOp V → Result (NoteLedger V)
  | .add note => okOr (l.add P note) "panic: failed assertion"
  | .addIssued note nonce authorisation => l.addIssued P verify note nonce authorisation
  | .applySpend proof notes => l.applySpend P proof notes

omit [DecidableEq V] in
theorem foldl_append_rolling (l : NoteLedger V) (notes : List (Note V)) :
    (notes.foldl (fun ledger note => ledger.append P note) l).rolling =
      notes.foldl (fun rolling note => rolling ++ P.compress (P.commitmentOf note)) l.rolling := by
  induction notes generalizing l with
  | nil => rfl
  | cons note notes ih => rw [List.foldl_cons, List.foldl_cons, ih]; rfl

omit [DecidableEq V] in
theorem foldl_append_spent (l : NoteLedger V) (notes : List (Note V)) :
    (notes.foldl (fun ledger note => ledger.append P note) l).spent = l.spent := by
  induction notes generalizing l with
  | nil => rfl
  | cons note notes ih => rw [List.foldl_cons, ih]; rfl

/-- The predicted root is the root of the ledger the spend makes, and a spend that
can be predicted can be applied. -/
theorem spendSnapshot_ok {root : Bytes} (h : l.spendSnapshot P proof notes = .ok root) :
    ∃ l', l.applySpend P proof notes = .ok l' ∧ l'.snapshot = root := by
  simp only [spendSnapshot, ok_iff] at h
  obtain ⟨hmatch, hfresh, rfl⟩ := h
  refine ⟨_, ?_, foldl_append_rolling (P := P) { l with
    spent := insert proof.serialPoint l.spent
    rolling := l.rolling ++ utf8 "s" ++ P.compress proof.serialPoint } notes⟩
  simp only [applySpend, ok_iff]
  exact ⟨hmatch, hfresh, trivial⟩

theorem applySpend_spent (h : l.applySpend P proof notes = .ok l') :
    proof.serialPoint ∉ l.spent ∧ l'.spent = insert proof.serialPoint l.spent := by
  simp only [applySpend, ok_iff] at h
  obtain ⟨_, hfresh, rfl⟩ := h
  exact ⟨hfresh, foldl_append_spent (P := P) _ notes⟩

def spendsSerial (serial : V) : NoteLedgerOp V → Bool
  | .applySpend proof _ => proof.serialPoint = serial
  | _ => false

theorem act_spent {verify : Bytes → V × Bytes → Bytes → Bool} {op : NoteLedgerOp V} (serial : V)
    (h : l.act P verify op = .ok l') :
    (serial ∈ l.spent → serial ∈ l'.spent) ∧
      (spendsSerial serial op = true → serial ∉ l.spent ∧ serial ∈ l'.spent) := by
  cases op with
  | add =>
    simp only [act, add, okOr_eq_ok] at h
    split at h
    · cases h
      exact ⟨fun hmem => hmem, fun hspends => by cases hspends⟩
    · cases h
  | addIssued =>
    simp only [act, addIssued, ok_iff] at h
    obtain ⟨_, _, _, _, rfl⟩ := h
    exact ⟨fun hmem => hmem, fun hspends => by cases hspends⟩
  | applySpend proof notes =>
    obtain ⟨hfresh, hspent⟩ := applySpend_spent h
    rw [hspent]
    refine ⟨fun hmem => Finset.mem_insert_of_mem hmem, ?_⟩
    intro hspends
    obtain rfl : proof.serialPoint = serial := of_decide_eq_true hspends
    exact ⟨hfresh, Finset.mem_insert_self _ _⟩

end NoteLedger

namespace NoteDefmi

section Call

variable {V Ven : Type} {api : VenueApi V Ven} {P : NoteParams V} {d : NoteDefmi V Ven}
  {package : NoteDvpPackage V} {now : ℕ} {context : Bytes}

def rail (d : NoteDefmi V Ven) : NoteRail → NoteLedger V
  | .securities => d.securities
  | .cash => d.cash

def setRail (d : NoteDefmi V Ven) (ledger : NoteLedger V) : NoteRail → NoteDefmi V Ven
  | .securities => { d with securities := ledger }
  | .cash => { d with cash := ledger }

theorem rail_setRail (d : NoteDefmi V Ven) (ledger : NoteLedger V) (r other : NoteRail) :
    (d.setRail ledger other).rail r = if other = r then ledger else d.rail r := by
  cases r <;> cases other <;> rfl

variable [DecidableEq V]

def applyInPlace (api : VenueApi V Ven) (P : NoteParams V) (d : NoteDefmi V Ven)
    (package : NoteDvpPackage V) (now : ℕ) : Bool × NoteDefmi V Ven :=
  match d.securities.applySpend P package.securities.spend package.securities.notes with
  | .error _ => (false, d)
  | .ok securities =>
    match d.cash.applySpend P package.cash.spend package.cash.notes with
    | .error _ => (false, { d with securities })
    | .ok cash =>
      match api.settle d.venue package.instruction now with
      | .error _ => (false, { d with securities, cash })
      | .ok venue => (true, { d with securities, cash, venue })

def Spends (P : NoteParams V) (package : NoteDvpPackage V) (d d' : NoteDefmi V Ven) : Prop :=
  d.securities.applySpend P package.securities.spend package.securities.notes = .ok d'.securities ∧
    d.cash.applySpend P package.cash.spend package.cash.notes = .ok d'.cash

theorem rail_applySpend {d' : NoteDefmi V Ven}
    (h : d.Spends P package d') (r : NoteRail) :
    (d.rail r).applySpend P (package.leg r).spend (package.leg r).notes = .ok (d'.rail r) := by
  cases r with
  | securities => exact h.1
  | cash => exact h.2

theorem statement_applies {s : NoteStatement}
    (h : d.statement api P package now (.ok ()) = .ok s) :
    ∃ securities cash,
      d.securities.applySpend P package.securities.spend package.securities.notes =
        .ok securities ∧
      d.cash.applySpend P package.cash.spend package.cash.notes = .ok cash ∧
      s = ⟨api.nullifier package.instruction, true, "settled", d.securities.snapshot,
        securities.snapshot, d.cash.snapshot, cash.snapshot, now⟩ := by
  simp only [statement, ok_iff] at h
  obtain ⟨_, hsecurities, _, hcash, rfl⟩ := h
  obtain ⟨securities, hs, rfl⟩ := NoteLedger.spendSnapshot_ok hsecurities
  obtain ⟨cash, hc, rfl⟩ := NoteLedger.spendSnapshot_ok hcash
  exact ⟨securities, cash, hs, hc, rfl⟩

variable [AddCommGroup V] [Module Scalar V]

def settleCall (api : VenueApi V Ven) (P : NoteParams V) (d : NoteDefmi V Ven)
    (package : NoteDvpPackage V) (now : ℕ) (context : Bytes) : NoteOutcome × NoteDefmi V Ven :=
  match d.statement api P package now (d.verify api P package now context) with
  | .error why => (.returned (.error why), d)
  | .ok s =>
    match d.signing s with
    | none =>
      (.returned (.error "hybrid receipt signing failed before either rail changed"), d)
    | some signature =>
      if s.settled = true then
        match d.applyInPlace api P package now with
        | (true, d') => (.returned (.ok ⟨s, signature⟩), d')
        | (false, d') => (.panicked, d')
      else (.returned (.ok ⟨s, signature⟩), d)

def NamesRoots (d d' : NoteDefmi V Ven) (r : NoteReceipt) : Prop :=
  r.securitiesBefore = d.securities.snapshot ∧ r.securitiesAfter = d'.securities.snapshot ∧
    r.cashBefore = d.cash.snapshot ∧ r.cashAfter = d'.cash.snapshot

/-- Every way a call can end. Only a venue that refuses what it has verified makes
it panic, and then both spends have been applied. -/
theorem settleCall_cases {outcome : NoteOutcome} {d' : NoteDefmi V Ven}
    (h : d.settleCall api P package now context = (outcome, d')) :
    (∃ r, outcome = .returned (.ok r) ∧ r.settled = true ∧ d.NamesRoots d' r ∧
        d.Spends P package d') ∨
      (∃ r, outcome = .returned (.ok r) ∧ r.settled = false ∧ d.NamesRoots d' r ∧ d' = d) ∨
      (∃ e, outcome = .returned (.error e) ∧ d' = d) ∨
      (outcome = .panicked ∧ api.verify d.venue package.instruction now = .ok () ∧
        (∀ venue, api.settle d.venue package.instruction now ≠ .ok venue) ∧
        d.Spends P package d') := by
  unfold settleCall at h
  cases hverify : d.verify api P package now context with
  | error =>
    simp only [hverify, statement] at h
    split at h
    · cases h
      exact .inr (.inr (.inl ⟨_, rfl, rfl⟩))
    · cases h
      exact .inr (.inl ⟨_, rfl, rfl, ⟨rfl, rfl, rfl, rfl⟩, rfl⟩)
  | ok =>
    rw [hverify] at h
    cases hstatement : d.statement api P package now (.ok ()) with
    | error =>
      simp only [hstatement] at h
      cases h
      exact .inr (.inr (.inl ⟨_, rfl, rfl⟩))
    | ok =>
      simp only [hstatement] at h
      obtain ⟨securities, cash, hs, hc, rfl⟩ := statement_applies hstatement
      split at h
      · cases h
        exact .inr (.inr (.inl ⟨_, rfl, rfl⟩))
      · simp only [if_true, applyInPlace, hs, hc] at h
        cases hvenue : api.settle d.venue package.instruction now with
        | ok => grind [NamesRoots, Spends]
        | error =>
          simp only [hvenue] at h
          cases h
          exact .inr (.inr (.inr ⟨rfl, (verify_ok hverify).1, by simp, hs, hc⟩))

theorem settle_eq_settleCall : d.settle api P package now context =
    match d.settleCall api P package now context with
    | (.returned (.ok r), d') => some (.ok (d', r))
    | (.returned (.error e), _) => some (.error e)
    | (.panicked, _) => none := by
  unfold settle settleCall
  cases d.statement api P package now (d.verify api P package now context) with
  | error => rfl
  | ok s =>
    cases hsign : d.signing s with
    | none => simp only [hsign]
    | some =>
      simp only [hsign]
      by_cases hsettled : s.settled = true
      · simp only [hsettled, if_true, apply, applyInPlace]
        cases d.securities.applySpend P package.securities.spend package.securities.notes with
        | error => rfl
        | ok =>
          cases d.cash.applySpend P package.cash.spend package.cash.notes with
          | error => rfl
          | ok =>
            cases api.settle d.venue package.instruction now with
            | error => rfl
            | ok => rfl
      · simp only [hsettled]
        rfl

section Runs

variable (api : VenueApi V Ven) (P : NoteParams V) (verify : Bytes → V × Bytes → Bytes → Bool)

def perform (op : NoteDefmiOp V) : InPlace (NoteDefmi V Ven) Unit := fun d =>
  match op with
  | .settle package now context =>
    match d.settleCall api P package now context with
    | (.returned (.ok r), d') => (if r.settled then .ok () else .error r.reason, d')
    | (.returned (.error e), d') => (.error e, d')
    | (.panicked, d') => (.error "panic", d')
  | .ledger r op =>
    match (d.rail r).act P verify op with
    | .ok ledger => (.ok (), d.setRail ledger r)
    | .error e => (.error e, d)

def spendsOn (r : NoteRail) (serial : V) (step : Step (NoteDefmi V Ven) (NoteDefmiOp V)) :
    Bool :=
  match step.op with
  | .settle package _ _ => (package.leg r).spend.serialPoint = serial
  | .ledger other op => other = r && NoteLedger.spendsSerial serial op

variable {api P verify}

theorem perform_spent {d d' : NoteDefmi V Ven} {op : NoteDefmiOp V} {result : Check}
    (r : NoteRail) (serial : V) (h : perform api P verify op d = (result, d')) :
    (serial ∈ (d.rail r).spent → serial ∈ (d'.rail r).spent) ∧
      (result = .ok () → spendsOn r serial ⟨d, op, d'⟩ = true →
        serial ∉ (d.rail r).spent ∧ serial ∈ (d'.rail r).spent) := by
  cases op with
  | settle package now context =>
    have happlied : (d.rail r).applySpend P (package.leg r).spend (package.leg r).notes =
        .ok (d'.rail r) → (serial ∈ (d.rail r).spent → serial ∈ (d'.rail r).spent) ∧
          ((package.leg r).spend.serialPoint = serial →
            serial ∉ (d.rail r).spent ∧ serial ∈ (d'.rail r).spent) := by
      intro hspend
      obtain ⟨hfresh, hspent⟩ := NoteLedger.applySpend_spent hspend
      rw [hspent]
      refine ⟨fun hmem => Finset.mem_insert_of_mem hmem, ?_⟩
      rintro rfl
      exact ⟨hfresh, Finset.mem_insert_self _ _⟩
    cases hcall : d.settleCall api P package now context with
    | mk =>
      simp only [perform, hcall] at h
      obtain ⟨receipt, rfl, hsettled, _, hspends⟩ | ⟨receipt, rfl, hrefused, _, rfl⟩ |
          ⟨e, rfl, rfl⟩ | ⟨rfl, _, _, hspends⟩ := settleCall_cases hcall
      · simp only [hsettled, if_true] at h
        obtain ⟨rfl, rfl⟩ := Prod.mk.inj h
        obtain ⟨hkeep, hnew⟩ := happlied (rail_applySpend hspends r)
        exact ⟨hkeep, fun _ hspends => hnew (of_decide_eq_true hspends)⟩
      · grind
      · obtain ⟨rfl, rfl⟩ := Prod.mk.inj h
        exact ⟨fun hmem => hmem, fun hok => by cases hok⟩
      · obtain ⟨rfl, rfl⟩ := Prod.mk.inj h
        exact ⟨(happlied (rail_applySpend hspends r)).1, fun hok => by cases hok⟩
  | ledger other op =>
    simp only [perform] at h
    cases hact : (d.rail other).act P verify op with
    | error => grind
    | ok =>
      rw [hact] at h
      obtain ⟨rfl, rfl⟩ := Prod.mk.inj h
      rw [rail_setRail]
      by_cases hrail : other = r
      · subst hrail
        obtain ⟨hkeep, hnew⟩ := NoteLedger.act_spent serial hact
        simp only [if_true]
        exact ⟨hkeep, fun _ hspends => hnew (by simpa [spendsOn] using hspends)⟩
      · simp only [hrail, if_false]
        exact ⟨fun hmem => hmem, fun _ hspends => by simp [spendsOn, hrail] at hspends⟩

theorem serial_at_most_once (r : NoteRail) (serial : V) (d : NoteDefmi V Ven)
    (ops : List (NoteDefmiOp V)) :
    (history (perform api P verify) d ops).countP (spendsOn r serial) ≤ 1 := by
  refine (countP_history_le_one (fun _ => True) (fun d => serial ∈ (d.rail r).spent)
    (spendsOn r serial) ?_ ?_ ops trivial).1
  · intro s op u t _ h
    obtain ⟨hkeep, hnew⟩ := perform_spent r serial h
    exact ⟨trivial, hkeep, hnew rfl⟩
  · intro s op e t _ h
    exact ⟨trivial, (perform_spent r serial h).1⟩

/-- A call returns a receipt of a settlement with both spends applied, or a receipt
of a refusal or an error with nothing changed; it does not panic. Receipts name the
roots before and after the call. No history spends a serial twice on one rail. -/
theorem note_dvp_all_or_nothing
    (hvenue : ∀ venue i now, api.verify venue i now = .ok () →
      ∃ venue', api.settle venue i now = .ok venue') :
    (∀ (d : NoteDefmi V Ven) package now context, ∃ result d',
      d.settleCall api P package now context = (.returned result, d') ∧
        ((∃ r, result = .ok r ∧ r.settled = true ∧ d.NamesRoots d' r ∧ d.Spends P package d') ∨
          (∃ r, result = .ok r ∧ r.settled = false ∧ d.NamesRoots d' r ∧ d' = d) ∨
          (∃ e, result = .error e ∧ d' = d))) ∧
      ∀ (d : NoteDefmi V Ven) (ops : List (NoteDefmiOp V)) (r : NoteRail) (serial : V),
        (history (perform api P verify) d ops).countP (spendsOn r serial) ≤ 1 := by
  refine ⟨?_, fun d ops r serial => serial_at_most_once r serial d ops⟩
  intro d package now context
  cases hcall : d.settleCall api P package now context with
  | mk outcome d' =>
    obtain ⟨r, rfl, hsettled⟩ | ⟨r, rfl, hrefused⟩ | ⟨e, rfl, hsame⟩ |
        ⟨_, hverify, hpanics, _⟩ := settleCall_cases hcall
    · exact ⟨.ok r, d', rfl, Or.inl ⟨r, rfl, hsettled⟩⟩
    · exact ⟨.ok r, d', rfl, Or.inr (Or.inl ⟨r, rfl, hrefused⟩)⟩
    · exact ⟨.error e, d', rfl, Or.inr (Or.inr ⟨e, rfl, hsame⟩)⟩
    · obtain ⟨venue, hsettle⟩ := hvenue _ _ _ hverify
      exact absurd hsettle (hpanics venue)

end Runs

end Call
section Sample

theorem sampleApi_settles (venue : Unit) (i : Instruction Plane) (now : ℕ)
    (_ : sampleApi.verify venue i now = .ok ()) :
    ∃ venue', sampleApi.settle venue i now = .ok venue' := ⟨(), rfl⟩

theorem note_dvp_all_or_nothing_sample :
    (history (perform sampleApi sampleParams (fun _ _ _ => true)) sampleNoteDefmi
        [.settle plainNotePackage 0 [], .settle plainNotePackage 0 []]).length = 1 ∧
      (history (perform sampleApi sampleParams (fun _ _ _ => true)) sampleNoteDefmi
        [.settle plainNotePackage 0 [], .settle plainNotePackage 0 []]).countP
          (spendsOn .securities (0, 1)) ≤ 1 := by
  refine ⟨?_, (note_dvp_all_or_nothing sampleApi_settles).2 sampleNoteDefmi _ .securities (0, 1)⟩
  decide +kernel

def unknownNotePackage : NoteDvpPackage Plane :=
  { plainNotePackage with instruction := ⟨(1, 0), (0, 1), (3, 0), (1, 0), [0]⟩ }

/-- A refused package is answered by a signed receipt that neither spend belongs to. -/
theorem refused_package_returns_receipt :
    (∀ venue i now, sampleApi.verify venue i now = .ok () →
      ∃ venue', sampleApi.settle venue i now = .ok venue') ∧
    ∃ r d', sampleNoteDefmi.settleCall sampleApi sampleParams unknownNotePackage 0 [] =
        (.returned (.ok r), d') ∧ r.settled = false ∧
      sampleNoteDefmi.securities.applySpend sampleParams unknownNotePackage.securities.spend
        unknownNotePackage.securities.notes ≠ .ok d'.securities := by
  refine ⟨sampleApi_settles, _, _, rfl, rfl, ?_⟩
  intro h
  have hlength := congrArg (fun l => (l.toOption.map fun m => m.notes.length)) h
  revert hlength
  decide +kernel

end Sample
end NoteDefmi
end DeFMI
