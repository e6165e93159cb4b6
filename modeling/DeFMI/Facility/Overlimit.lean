import DeFMI.Facility.ReceiptChain
set_option autoImplicit false

/-!
Lines over their limit, over any run of facility operations: such a line is frozen or in
default, and no hold is made on it.
-/

namespace DeFMI
open Lib InPlace Table CreditFacilityAmendment

/-- Statements that write neither lines nor holds. -/
structure OtherRows (V : Type) where
  apply : FacilityDb V → Result (FacilityDb V)
  keeps_lines : ∀ {db db' : FacilityDb V}, apply db = .ok db' →
    db'.creditFacilities = db.creditFacilities ∧ db'.creditHolds = db.creditHolds

inductive LineWork (V : Type) where
  | transition (t : CreditFacilityTransition V) (statement : Id) (kind : String) (now : ℕ)
  | other (rows : OtherRows V)

/-- An operation on one line by itself, or the transaction of a registration, reservation,
release or settlement: transitions of lines among rows of other tables. -/
inductive LineOperation (V : Type) where
  | grant (g : CreditFacilityGrant V) (approval : QuorumApproval) (now : ℕ)
  | transition (t : CreditFacilityTransition V) (proof : CreditFacilityRelationProof)
    (approval : QuorumApproval) (now : ℕ)
  | amend (a : CreditFacilityAmendment V) (proof : CreditFacilityAmendmentProof)
    (approval : QuorumApproval) (now : ℕ)
  | control (c : CreditFacilityControl) (approval : QuorumApproval) (now : ℕ)
  | transaction (works : List (LineWork V))

variable {V : Type}

section Operations

variable [AddCommGroup V] [Module Scalar V] [DecidableEq V]

def LineWork.perform : LineWork V → InPlace (FacilityDb V) Unit
  | .transition t statement kind now => do
    let _ ← applyCreditTransition t statement kind now
  | .other rows => update rows.apply

def LineOperation.exec (api : FacilityApi V) : LineOperation V → InPlace (FacilityDb V) Unit
  | .grant g approval now => do
    let _ ← grantCreditFacility api g approval now
  | .transition t proof approval now => do
    let _ ← transitionCreditFacility api t proof approval now
  | .amend a proof approval now => do
    let _ ← amendCreditFacility api a proof approval now
  | .control c approval now => do
    let _ ← controlCreditFacility api c approval now
  | .transaction works => InPlace.transaction true (each LineWork.perform works)

def CreditFacilityRecord.Curbed (f : CreditFacilityRecord V) : Prop :=
  f.overlimitCommitment ≠ 0 → f.status = .frozen ∨ f.status = .defaulted

end Operations

namespace FacilityDb

variable {db db' db'' : FacilityDb V} {api : FacilityApi V} {t : CreditFacilityTransition V}
  {facility record : CreditFacilityRecord V} {statement : Id} {now : ℕ} {kind : String}
  {approval : QuorumApproval} {u : Unit}

/-- Every hold is an earlier one, or is on a line that was active. -/
def HoldsOnActive (db db' : FacilityDb V) : Prop :=
  ∀ id hold, db'.creditHolds.lookup id = some hold →
    (∃ old, db.creditHolds.lookup id = some old ∧ old.facilityId = hold.facilityId) ∨
      ∃ f, db.creditFacilities.lookup hold.facilityId = some f ∧ f.status = .active

theorem HoldsOnActive.of_same (h : db'.creditHolds = db.creditHolds) : HoldsOnActive db db' :=
  fun _ hold hhold => .inl ⟨hold, h ▸ hhold, rfl⟩

/-- What a transition of a line leaves of the lines' limits, and where it makes holds. -/
structure LimitsKept (db db' : FacilityDb V) : Prop where
  limits : ∀ id f', db'.creditFacilities.lookup id = some f' →
    ∃ f, db.creditFacilities.lookup id = some f ∧
      f.overlimitCommitment = f'.overlimitCommitment ∧ f.status = f'.status
  holds : HoldsOnActive db db'

theorem LimitsKept.refl (db : FacilityDb V) : LimitsKept db db :=
  ⟨fun _ f hf => ⟨f, hf, rfl, rfl⟩, .of_same rfl⟩

theorem LimitsKept.trans (h : LimitsKept db db') (h' : LimitsKept db' db'') :
    LimitsKept db db'' := by
  constructor
  · grind [LimitsKept]
  · intro id hold hhold
    rcases h'.holds id hold hhold with ⟨old, hold', hline⟩ | ⟨f', hf', hactive⟩
    · rw [← hline]
      exact h.holds id old hold'
    · grind [LimitsKept]

variable [AddCommGroup V]

def Curbed (db : FacilityDb V) : Prop :=
  ∀ id f, db.creditFacilities.lookup id = some f → f.Curbed

structure LineStep (db db' : FacilityDb V) : Prop where
  curbed : db.Curbed → db'.Curbed
  holds : HoldsOnActive db db'

theorem LineStep.refl (db : FacilityDb V) : LineStep db db := ⟨fun h => h, .of_same rfl⟩

theorem LimitsKept.lineStep (h : LimitsKept db db') : LineStep db db' := by
  refine ⟨fun hdb id f' hf' hover => ?_, h.holds⟩
  obtain ⟨f, hf, hlimit, hstatus⟩ := h.limits id f' hf'
  rw [← hstatus]
  exact hdb id f hf (hlimit ▸ hover)

theorem LineStep.insert {id : Id} {f : CreditFacilityRecord V} (hf : f.Curbed)
    (hlines : db'.creditFacilities = db.creditFacilities.insert id f)
    (hholds : db'.creditHolds = db.creditHolds) : LineStep db db' := by
  refine ⟨fun hdb => ?_, .of_same hholds⟩
  rw [Curbed, hlines]
  exact forall_insert hdb hf

/-- The shape of the operations on one line: a replay writes nothing, anything else runs once. -/
theorem exec_once {first : Result Id} {replayed : Id → FacilityDb V → Result Bool}
    {load : FacilityDb V → Result (CreditFacilityRecord V)}
    {body : Id → InPlace (FacilityDb V) (CreditFacilityRecord V)}
    (h : (do
      let statement ← check fun _ => first
      transaction true do
        let replay ← check (replayed statement)
        if replay then check load else body statement) db = (.ok record, db'))
    (hbody : ∀ statement, first = .ok statement → body statement db = (.ok record, db') →
      LineStep db db') : LineStep db db' := by
  simp only [ran_iff, transaction_eq, if_true] at h
  obtain ⟨statement, hfirst, _, ⟨replay, _, hrest⟩, rfl⟩ := h
  cases replay with
  | true => exact (check_eq.mp hrest).2 ▸ .refl db
  | false => exact hbody statement hfirst hrest

variable [DecidableEq V]

theorem amended_curbed {a : CreditFacilityAmendment V}
    (h : a.statement api.toFacilityDigests = .ok statement) : (a.amended facility).Curbed := by
  intro hover
  cases hmode : a.mode with
  | overLimit => simp [amended, hmode]
  | withinLimit =>
    simp only [CreditFacilityAmendment.statement, unsignedBody,
      modeShape, hmode, ok_iff] at h
    obtain ⟨⟨_, hzero, _⟩, _⟩ := h
    exact absurd hzero hover

theorem controlled_curbed {c : CreditFacilityControl} {sequence : ℕ}
    (h : c.allowed facility = .ok u) :
    CreditFacilityRecord.Curbed { facility with status := c.action.status, sequence } := by
  intro hover
  cases haction : c.action with
  | activate =>
    simp only [CreditFacilityControl.allowed, haction, ok_iff] at h
    exact absurd h.2 hover
  | freeze => exact .inl rfl
  | close =>
    simp only [CreditFacilityControl.allowed, haction, ok_iff, not_or, not_not] at h
    exact absurd h.2.2 hover
  | default => exact .inr rfl

omit [AddCommGroup V] in
theorem stepHold_ok (hline : db.creditFacilities.lookup t.facilityId = some facility)
    (h : stepHold facility t now db = .ok db') :
    db'.creditFacilities = db.creditFacilities ∧ HoldsOnActive db db' := by
  have hkept : HoldsOnActive db db := .of_same rfl
  cases hkind : t.kind with
  | hold =>
    simp only [stepHold, hkind, ok_iff] at h
    obtain ⟨hactive, _, _, _, rows, hrows, rfl⟩ := h
    simp only [not_or, not_not] at hactive
    obtain ⟨_, rfl⟩ := insertRow_ok hrows
    exact ⟨rfl, forall_insert hkept (.inr ⟨facility, hline, hactive.1⟩)⟩
  | release =>
    simp only [stepHold, hkind, ok_iff] at h
    obtain ⟨old, hold, _, _, _, rfl⟩ := h
    exact ⟨rfl, forall_insert hkept (.inl ⟨old, hold, rfl⟩)⟩
  | consume =>
    simp only [stepHold, hkind, ok_iff] at h
    obtain ⟨old, hold, _, _, rfl⟩ := h
    exact ⟨rfl, forall_insert hkept (.inl ⟨old, hold, rfl⟩)⟩

omit [AddCommGroup V] in
theorem applyCreditTransition_limitsKept
    (h : applyCreditTransition t statement kind now db = (.ok record, db')) :
    LimitsKept db db' := by
  simp only [applyCreditTransition, ran_iff, loadCreditFacility, ok_iff] at h
  obtain ⟨_, facility, hline, _, v, hhold, w, hoperation, _, rfl⟩ := h
  obtain ⟨hlines, hholds⟩ := stepHold_ok hline hhold
  obtain ⟨_, _, rfl⟩ := insertCreditOperation_ok hoperation
  refine ⟨?_, hholds⟩
  refine forall_insert (fun id f hf => ⟨f, hlines ▸ hf, rfl, rfl⟩) ?_
  exact ⟨facility, hline, rfl, rfl⟩

omit [AddCommGroup V] in
theorem works_limitsKept {works : List (LineWork V)}
    (h : each LineWork.perform works db = (.ok u, db')) : LimitsKept db db' := by
  refine each_invariant ?_ h (.refl db)
  intro work _ s t hwork hs
  refine hs.trans ?_
  cases work with
  | transition =>
    simp only [LineWork.perform, ran_iff] at hwork
    obtain ⟨_, _, hstep, _, rfl⟩ := hwork
    exact applyCreditTransition_limitsKept hstep
  | other rows =>
    obtain ⟨hlines, hholds⟩ := rows.keeps_lines (update_eq.mp hwork)
    exact ⟨fun id f hf => ⟨f, hlines ▸ hf, rfl, rfl⟩, .of_same hholds⟩

theorem grantCreditFacility_lineStep {g : CreditFacilityGrant V}
    (h : grantCreditFacility api g approval now db = (.ok record, db')) : LineStep db db' := by
  refine exec_once h fun statement _ h => ?_
  simp only [ran_iff, insertFacility, ok_iff] at h
  obtain ⟨_, _, ⟨lines, hlines, _, _, rfl⟩, _, hoperation, _, rfl⟩ := h
  obtain ⟨_, rfl⟩ := insertRow_ok hlines
  obtain ⟨_, _, rfl⟩ := insertCreditOperation_ok hoperation
  exact .insert (fun hover => absurd rfl hover) rfl rfl

theorem controlCreditFacility_lineStep {c : CreditFacilityControl}
    (h : controlCreditFacility api c approval now db = (.ok record, db')) : LineStep db db' := by
  refine exec_once h fun statement _ h => ?_
  simp only [ran_iff, checkControl, ok_iff] at h
  obtain ⟨_, ⟨_, _, _, _, _, _, hallowed, rfl⟩, _, hoperation, _, rfl⟩ := h
  obtain ⟨_, _, rfl⟩ := insertCreditOperation_ok hoperation
  exact .insert (controlled_curbed hallowed) rfl rfl

variable [Module Scalar V]

theorem transitionCreditFacility_lineStep {proof : CreditFacilityRelationProof}
    (h : transitionCreditFacility api t proof approval now db = (.ok record, db')) :
    LineStep db db' := by
  refine exec_once h fun statement _ h => ?_
  simp only [ran_iff, ok_iff] at h
  exact (applyCreditTransition_limitsKept h.2).lineStep

theorem amendCreditFacility_lineStep {a : CreditFacilityAmendment V}
    {proof : CreditFacilityAmendmentProof}
    (h : amendCreditFacility api a proof approval now db = (.ok record, db')) :
    LineStep db db' := by
  refine exec_once h fun statement hstatement h => ?_
  simp only [ok_iff] at hstatement
  simp only [ran_iff, ok_iff] at h
  obtain ⟨_, _, _, hoperation, _, rfl⟩ := h
  obtain ⟨_, _, rfl⟩ := insertCreditOperation_ok hoperation
  exact .insert (amended_curbed hstatement.2) rfl rfl

theorem exec_lineStep {op : LineOperation V} (h : op.exec api db = (.ok u, db')) :
    LineStep db db' := by
  cases op <;> simp only [LineOperation.exec, ran_iff, transaction_eq, if_true] at h
  case transaction works =>
    obtain ⟨_, hworks, rfl⟩ := h
    exact (works_limitsKept hworks).lineStep
  all_goals obtain ⟨_, _, hop, _, rfl⟩ := h
  case grant => exact grantCreditFacility_lineStep hop
  case transition => exact transitionCreditFacility_lineStep hop
  case amend => exact amendCreditFacility_lineStep hop
  case control => exact controlCreditFacility_lineStep hop

theorem exec_restores (op : LineOperation V) : Restores (op.exec api) := by
  cases op with
  | transaction => exact restores_transaction true _
  | _ => exact (restores_check_bind fun _ =>
      restores_transaction true _).discard

/-- After any operations on a database without lines, a line with an over-limit balance is frozen
or in default, and an accepted operation makes new holds only on lines without one. -/
theorem overlimit_frozen_or_defaulted (api : FacilityApi V) (ops : List (LineOperation V)) :
    let db := run (LineOperation.exec api) {} ops
    (∀ id f, db.creditFacilities.lookup id = some f → f.overlimitCommitment ≠ 0 →
      f.status = .frozen ∨ f.status = .defaulted) ∧
      ∀ op db', LineOperation.exec api op db = (.ok (), db') →
        ∀ id hold, id ∉ db.creditHolds → db'.creditHolds.lookup id = some hold →
          ∃ f, db.creditFacilities.lookup hold.facilityId = some f ∧ f.overlimitCommitment = 0 := by
  intro db
  have hdb : db.Curbed :=
    run_invariant (fun _ _ _ _ hs h => (exec_lineStep h).curbed hs)
      (fun _ op _ _ hs h => exec_restores op _ _ _ h ▸ hs) ops (fun _ _ h => by simp at h)
  refine ⟨hdb, fun op db' h id hold hnew hhold => ?_⟩
  rcases (exec_lineStep h).holds id hold hhold with ⟨old, hold', _⟩ | ⟨f, hf, hactive⟩
  · exact absurd (mem_of_lookup hold') hnew
  · grind [CreditFacilityRecord.Curbed, Curbed]

end FacilityDb

section Sample

def lineApi : FacilityApi Plane :=
  { receiptApi with
    grant g := g.operationId
    transition t := t.operationId
    amendment a := a.operationId
    control c := c.operationId }

def lineParties : OtherRows Plane where
  apply db := .ok { db with
    assets := db.assets.insert (Id.fill 2) ⟨⟨.cash, true⟩, Id.fill 3⟩
    guarantors := db.guarantors.insert (Id.fill 4) ⟨Id.fill 5, [], Id.fill 6, true, Id.fill 7⟩ }
  keeps_lines h := by
    cases h
    exact ⟨rfl, rfl⟩

def lineApproval (statement : UInt8) : QuorumApproval :=
  Governance.QuorumAuthorizer.councilApproval statement 1 ["a", "b"]

/-- A line of five, three of it held. -/
def lineOpening : List (LineOperation Plane) :=
  [.transaction [.other lineParties],
    .grant ⟨Id.fill 10, Id.fill 8, Id.fill 4, Id.fill 9, Id.fill 2, .point (5, 0),
      ⟨.point (5, 0), 0, 0⟩, .point (1, 0), Id.fill 6, Id.fill 1, 1, 90, Id.fill 1, []⟩
      (lineApproval 10) 1,
    .transition ⟨Id.fill 11, Id.fill 8, Id.fill 20, .hold, Id.fill 21, .point (3, 0), 0, 0,
      ⟨.point (5, 0), 0, 0⟩, ⟨.point (2, 0), .point (3, 0), 0⟩, 0, 50, 0, Id.fill 1⟩
      ⟨⟨("qomm:credit:state-range", Id.fill 1), [(2, 0), (3, 0), (0, 0), (3, 0)]⟩,
        ⟨("qomm:credit:split-range", Id.fill 1), [(0, 0), (0, 0)]⟩⟩ (lineApproval 11) 2]

/-- Its cap is cut to one, two below what is held. -/
def lineCut : LineOperation Plane :=
  .amend ⟨Id.fill 12, Id.fill 8, .overLimit, .point (5, 0), .point (1, 0),
    ⟨.point (2, 0), .point (3, 0), 0⟩, 0, 0, .point (2, 0), .point (1, 0), .point (1, 0), Id.fill 6,
    Id.fill 6, 90, 90, 1, 3, Id.fill 1, Id.fill 1, []⟩
    ⟨⟨("qomm:credit:amendment:balance", Id.fill 1), [(1, 0), (0, 0), (3, 0), (0, 0)]⟩,
      ⟨("qomm:credit:amendment:support", Id.fill 1), [(1, 0), (2, 0)]⟩⟩ (lineApproval 12) 3

def lineDefault : LineOperation Plane :=
  .control ⟨Id.fill 13, Id.fill 8, .default, 2, 4, Id.fill 1, []⟩ (lineApproval 13) 4

theorem overlimit_defaulted : ∃ f : CreditFacilityRecord Plane,
    (run (LineOperation.exec lineApi) {}
      (lineOpening ++ [lineCut, lineDefault])).creditFacilities.lookup (Id.fill 8) = some f ∧
    f.overlimitCommitment = .point (2, 0) ∧ f.status = .defaulted := by
  refine ⟨⟨Id.fill 4, Id.fill 9, Id.fill 2, .point (1, 0), ⟨0, .point (3, 0), 0⟩, .point (2, 0),
    .point (1, 0), Id.fill 6, 1, 90, .defaulted, 3⟩, ?_, rfl, rfl⟩
  decide +kernel

end Sample
end DeFMI
