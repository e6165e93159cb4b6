import DeFMI.Lib.Moves
import DeFMI.SettlementRuns
set_option autoImplicit false

/-!
Netting cycles. A gross rail checks the payer's cover at every order, a net rail
accumulates and is covered once, at the close; an attested cycle replaces the
instruction of each order by one signature of the quorum over the closing positions.
-/

namespace DeFMI.Netting
open Lib InPlace

/-- Which rails net: gross-gross, securities gross and cash net, net-net. -/
inductive Mode where
  | grossGross
  | grossNet
  | netNet
  deriving DecidableEq

def Mode.securitiesNet (mode : Mode) : Bool := mode = .netNet

def Mode.cashNet (mode : Mode) : Bool := mode ≠ .grossGross

def Mode.label : Mode → String
  | .grossGross => "gross-gross"
  | .grossNet => "gross-net"
  | .netNet => "net-net"

structure CycleContext where
  label : String
  rail : String
  handle : Option Bytes
  deriving DecidableEq

structure CreditLine (V : Type) where
  handle : Bytes
  rail : String
  capCommitment : V
  collateralCommitment : V
  haircutBp : ℕ
  backing : RangeProof String
  backingCommitment : V

structure CreditCtx (V : Type) where
  key : Pedersen V
  bits : ℕ

structure Leg (V : Type) where
  payer : Bytes
  payee : Bytes
  delta : V
  deltaLink : CrossGeneratorProof CycleContext
  cover : Option (RangeProof CycleContext × V)
  deriving DecidableEq

def Leg.move {V : Type} (leg : Leg V) : Move Bytes V := ⟨leg.payer, leg.payee, leg.delta⟩

structure Order (V : Type) where
  instruction : Instruction V
  securities : Leg V
  cash : Leg V
  cashReference : V
  valueProof : ProductProof String
  deriving DecidableEq

structure Coverage (V : Type) where
  handle : Bytes
  proof : RangeProof CycleContext
  commitment : V

structure PositionBook (V : Type) where
  key : Pedersen V
  tag : BlindedTag V
  net : Bool
  rail : String
  bits : ℕ
  positions : Table Bytes V
  opening : Table Bytes V
  credit : Table Bytes (CreditLine V)

/-- The hashed state of a book, kept as its fields. -/
structure Snapshot (V : Type) where
  rail : String
  positions : List (Bytes × V)
  deriving DecidableEq

structure BatchDigest (V : Type) where
  id : Bytes
  label : String
  securities : Snapshot V
  cash : Snapshot V
  admitted : ℕ
  deriving DecidableEq

structure BatchAttestation (V : Type) where
  digest : BatchDigest V
  signature : Bytes

structure Cycle (V Ven : Type) where
  key : Pedersen V
  id : Bytes
  mode : Mode
  attestBatch : Bool
  securities : PositionBook V
  cash : PositionBook V
  venue : Ven
  quorum : Option Bytes
  admitted : ℕ
  refused : ℕ
  closed : Bool

section Credit

variable {V : Type} [AddCommGroup V] [Module Scalar V] [DecidableEq V]

/-- The slack of the collateral over the cap is proved in range, on the scaled values. -/
def CreditCtx.check (ctx : CreditCtx V) (line : CreditLine V) : Check := do
  require (line.haircutBp < 10000) "the haircut is not a fraction"
  let scale : Scalar := ((10000 - line.haircutBp : ℕ) : Scalar)
  require (scale • line.collateralCommitment - ((10000 : ℕ) : Scalar) • line.capCommitment =
    line.backingCommitment) "the backing proof is about other commitments"
  require (line.backing.verifyMultiple 1 ctx.key.g ctx.key.h "qomm:credit:backing"
    [line.backingCommitment] ctx.bits = true) "the pledged collateral does not cover the cap"

end Credit

namespace PositionBook

variable {V : Type}

/-- A width Bulletproofs does not accept is a failed assertion. -/
def new (key : Pedersen V) (tag : BlindedTag V) (net : Bool) (rail : String) (bits : ℕ) :
    Option (PositionBook V) :=
  if supportedBits bits then some ⟨key, tag, net, rail, bits, ∅, ∅, ∅⟩ else none

section
variable (book : PositionBook V)

/-- Once per handle: conservation is measured against the opening. -/
def «open» (handle : Bytes) (commitment : V) : Result (PositionBook V) := do
  require (handle ∉ book.opening) "that handle is already open in this book"
  pure { book with
    positions := book.positions.insert handle commitment
    opening := book.opening.insert handle commitment }

def handles : List Bytes := book.positions.keys

def coverContext (payer : Bytes) : CycleContext :=
  ⟨"qomm:cycle:cover", book.rail, some payer⟩

def closeContext (handle : Bytes) : CycleContext :=
  ⟨"qomm:cycle:close", book.rail, some handle⟩

def linkContext : CycleContext := ⟨"qomm:cycle:link", book.rail, none⟩

def snapshot : Snapshot V := ⟨book.rail, book.positions.sorted⟩

end

variable [AddCommGroup V]

def grant [Module Scalar V] [DecidableEq V] (book : PositionBook V) (ctx : CreditCtx V)
    (line : CreditLine V) : Result (PositionBook V) := do
  require (line.handle ∈ book.positions) "unknown position handle"
  require (line.rail = book.rail) "a cap for another rail does not relax this one"
  ctx.check line
  pure { book with credit := book.credit.insert line.handle line }

def cap (book : PositionBook V) (handle : Bytes) : V :=
  (book.credit.lookup handle).elim 0 CreditLine.capCommitment

/-- The payer's new position is derived, never sent. -/
def checkCover [Module Scalar V] [DecidableEq V] (book : PositionBook V) (leg : Leg V) : Check :=
  match leg.cover, book.net with
  | some _, true => .error "a net rail must not carry a per-order cover proof"
  | none, false => .error "a gross rail needs a cover proof on every leg"
  | some (proof, commitment), false => do
    let position ← okOr (book.positions.lookup leg.payer) "unknown position handle"
    require (commitment = position - leg.delta + book.cap leg.payer)
      "the cover proof is about another position"
    require (proof.verifyMultiple 1 book.tag.point book.key.h (book.coverContext leg.payer)
      [commitment] book.bits = true) "the order would leave the position short of its cap"
  | none, true => .ok ()

def checkParties (book : PositionBook V) (leg : Leg V) : Check := do
  require (leg.payer ∈ book.positions) "unknown position handle"
  require (leg.payee ∈ book.positions) "unknown position handle"
  require (leg.payer ≠ leg.payee) "a leg cannot pay itself"

/-- What is checked of a leg besides the link, which goes into the batch. -/
def check [Module Scalar V] [DecidableEq V] (book : PositionBook V) (leg : Leg V) : Check := do
  book.checkParties leg
  book.checkCover leg

def linkHolds [Module Scalar V] [DecidableEq V] (book : PositionBook V) (leg : Leg V)
    (reference : V) : Bool :=
  leg.deltaLink.verify book.key.h book.linkContext book.tag.point book.key.g leg.delta reference

/-- Moves the delta; `none` is the index panic on a handle that is not open. -/
def apply (book : PositionBook V) (leg : Leg V) : Option (PositionBook V) :=
  (book.positions.move leg.move).map fun positions => { book with positions }

def checkCoverage [Module Scalar V] [DecidableEq V] (book : PositionBook V)
    (coverage : Coverage V) : Check := do
  let position ← okOr (book.positions.lookup coverage.handle) "unknown position handle"
  require (coverage.commitment = position + book.cap coverage.handle)
    "the coverage proof is about another position"
  require (coverage.proof.verifyMultiple 1 book.tag.point book.key.h
      (book.closeContext coverage.handle) [coverage.commitment] book.bits = true)
    "the net position is not covered, even against its cap"

/-- A net rail closes with one coverage proof for each of its handles. -/
def checkClose [Module Scalar V] [DecidableEq V] (book : PositionBook V)
    (coverage : List (Coverage V)) : Check := do
  require (book.net = true → (coverage.map Coverage.handle).toFinset = book.handles.toFinset)
    "not every net position is covered"
  if book.net then forEach book.checkCoverage coverage else pure ()

def conserved [DecidableEq V] (book : PositionBook V) : Bool :=
  book.positions.total (fun _ position => position) = book.opening.total (fun _ position => position)

section Lemmas

variable {book after : PositionBook V} {leg : Leg V} {u : Unit}

omit [AddCommGroup V] in
theorem checkParties_eq_ok :
    book.checkParties leg = .ok u ↔
      leg.payer ∈ book.positions ∧ leg.payee ∈ book.positions ∧ leg.payer ≠ leg.payee := by
  simp [checkParties]

theorem apply_eq_some :
    book.apply leg = some after ↔
      ∃ positions, book.positions.move leg.move = some positions ∧
        after = { book with positions } := by
  simp only [apply, Option.map_eq_some_iff]
  exact exists_congr fun _ => and_congr_right fun _ => eq_comm

theorem exists_apply (h : book.checkParties leg = .ok u) : ∃ after, book.apply leg = some after := by
  obtain ⟨hpayer, hpayee, _⟩ := checkParties_eq_ok.mp h
  obtain ⟨positions, hmove⟩ := Table.exists_move (m := leg.move) hpayer hpayee
  exact ⟨_, apply_eq_some.mpr ⟨positions, hmove, rfl⟩⟩

structure Shifted (book after : PositionBook V) (ms : List (Move Bytes V)) : Prop where
  rest : after = { book with positions := after.positions }
  lookup : ∀ handle, after.positions.lookup handle =
    (book.positions.lookup handle).map (· + Move.effects ms handle)
  total : after.positions.total (fun _ position => position) =
    book.positions.total (fun _ position => position)

namespace Shifted

variable {ms ns : List (Move Bytes V)}

theorem refl (book : PositionBook V) : Shifted book book [] where
  rest := rfl
  lookup handle := by simp
  total := rfl

theorem apply (hshift : Shifted book after ms) (hne : leg.payer ≠ leg.payee)
    {last : PositionBook V} (h : after.apply leg = some last) :
    Shifted book last (ms ++ [leg.move]) := by
  obtain ⟨positions, hmove, rfl⟩ := apply_eq_some.mp h
  have hdiffer : leg.move.payer ≠ leg.move.payee := hne
  constructor
  · rw [hshift.rest]
  · intro handle
    rw [Table.lookup_move hdiffer hmove, hshift.lookup, Option.map_map]
    congr 1
    funext position
    simp [add_assoc]
  · rw [Table.total_move hdiffer hmove, hshift.total]

theorem of_apply (hne : leg.payer ≠ leg.payee) (h : book.apply leg = some after) :
    Shifted book after [leg.move] := (refl book).apply hne h

section
variable (h : Shifted book after ms)
include h

theorem mem_iff (handle : Bytes) : handle ∈ after.positions ↔ handle ∈ book.positions := by
  rw [← AList.lookup_isSome, ← AList.lookup_isSome, h.lookup, Option.isSome_map]

theorem generators_eq : after.key = book.key ∧ after.tag = book.tag := by
  constructor <;> rw [h.rest]

theorem checkParties_eq (leg : Leg V) : after.checkParties leg = book.checkParties leg := by
  simp only [checkParties, h.mem_iff]

theorem snapshot_eq {other : PositionBook V}
    (h' : Shifted book other ns) (hperm : ms.Perm ns) : after.snapshot = other.snapshot := by
  have hlookup : ∀ handle, after.positions.lookup handle = other.positions.lookup handle := by
    intro handle
    rw [h.lookup, h'.lookup, Move.effects_perm hperm]
  have hrail : after.rail = other.rail := by rw [h.rest, h'.rest]
  simp only [snapshot, hrail, Table.sorted_eq_of_lookup_eq hlookup]

end

variable [Module Scalar V] [DecidableEq V]

theorem check_eq (h : Shifted book after ms) (hnet : book.net = true) (leg : Leg V) :
    after.check leg = book.check leg := by
  have hnet' : after.net = true := by rw [h.rest]; exact hnet
  simp only [check, h.checkParties_eq]
  cases hcover : leg.cover with
  | none | some => simp only [checkCover, hcover, hnet, hnet']

theorem linkHolds_eq (h : Shifted book after ms) (leg : Leg V) (reference : V) :
    after.linkHolds leg reference = book.linkHolds leg reference := by
  rw [h.rest]
  rfl

end Shifted

variable [Module Scalar V] [DecidableEq V]

theorem check_parties (h : book.check leg = .ok u) :
    leg.payer ∈ book.positions ∧ leg.payee ∈ book.positions ∧ leg.payer ≠ leg.payee := by
  simp only [check, ok_iff] at h
  obtain ⟨hparties, _⟩ := h
  exact checkParties_eq_ok.mp hparties

end Lemmas
end PositionBook

namespace Cycle

variable {V Ven : Type}

def new (key : Pedersen V) (id : Bytes) (mode : Mode) (securities cash : PositionBook V)
    (venue : Ven) (attestBatch : Bool) (quorum : Option Bytes) : Result (Cycle V Ven) := do
  require (id ≠ []) ("a cycle needs an identity; an attestation over an anonymous cycle " ++
    "settles any cycle that ends the same way")
  require (¬(attestBatch = true ∧ mode ≠ .netNet)) ("a batch attestation replaces the per-trade " ++
    "instruction, which only makes sense when both rails are netted")
  require (¬(securities.net ≠ mode.securitiesNet ∨ cash.net ≠ mode.cashNet))
    "the mode and the books disagree about which rail nets"
  require (¬(attestBatch = true ∧ quorum = none)) ("an attested cycle needs the key its " ++
    "attestation verifies under; without one the attestation is a digest anybody can compute")
  pure ⟨key, id, mode, attestBatch, securities, cash, venue, quorum, 0, 0, false⟩

def batchDigest (c : Cycle V Ven) : BatchDigest V :=
  ⟨c.id, c.mode.label, c.securities.snapshot, c.cash.snapshot, c.admitted⟩

variable [AddCommGroup V]

def linksHold [Module Scalar V] [DecidableEq V] (c : Cycle V Ven) (order : Order V) : Bool :=
  order.valueProof.verify c.key.g c.key.h "qomm:cycle:value" order.instruction.priceCommitment
      order.instruction.amountCommitment order.cashReference &&
    c.securities.linkHolds order.securities order.instruction.amountCommitment &&
    c.cash.linkHolds order.cash order.cashReference

def judge [Module Scalar V] [DecidableEq V] (api : VenueApi V Ven) (order : Order V) (now : ℕ)
    (c : Cycle V Ven) : Check := do
  api.verify c.venue order.instruction now
  c.securities.check order.securities
  c.cash.check order.cash
  require (c.linksHold order = true) "the legs do not match what the instruction says"

def counted (f : Cycle V Ven → Check) : InPlace (Cycle V Ven) Unit := fun c =>
  match f c with
  | .ok u => (.ok u, c)
  | .error e => (.error e, { c with refused := c.refused + 1 })

def applyLegs (order : Order V) : InPlace (Cycle V Ven) Unit :=
  update fun c => do
    let securities ← okOr (c.securities.apply order.securities) "panic"
    let cash ← okOr (c.cash.apply order.cash) "panic"
    pure { c with securities, cash }

def settleInstruction (api : VenueApi V Ven) (order : Order V) (now : ℕ) :
    InPlace (Cycle V Ven) Unit :=
  update fun c => do
    let venue ← api.settle c.venue order.instruction now
    pure { c with venue }

def countAdmitted : InPlace (Cycle V Ven) Unit :=
  modify fun c => { c with admitted := c.admitted + 1 }

/-- An attested cycle applies without verifying, but only a well-formed order. -/
def accumulate (order : Order V) : InPlace (Cycle V Ven) Unit := do
  InPlace.check fun c => c.securities.checkParties order.securities
  InPlace.check fun c => c.cash.checkParties order.cash
  applyLegs order
  countAdmitted

/-- The legs are applied before the venue settles the instruction. -/
def verifyAndApply [Module Scalar V] [DecidableEq V] (api : VenueApi V Ven) (order : Order V)
    (now : ℕ) : InPlace (Cycle V Ven) Unit := do
  counted (judge api order now)
  applyLegs order
  settleInstruction api order now
  countAdmitted

def admitOrder [Module Scalar V] [DecidableEq V] (api : VenueApi V Ven) (order : Order V)
    (now : ℕ) : InPlace (Cycle V Ven) Unit := do
  InPlace.check fun c => require (c.closed = false) "the cycle is closed"
  let attested ← InPlace.check fun c => .ok c.attestBatch
  if attested then accumulate order else verifyAndApply api order now

def checkAttestation [DecidableEq V] (attests : Bytes → BatchDigest V → Bytes → Bool)
    (c : Cycle V Ven) (attestation : Option (BatchAttestation V)) : Check :=
  if c.attestBatch then do
    let quorum ← okOr c.quorum "an attested cycle needs the quorum's key"
    let a ← okOr attestation "an attested cycle needs an attestation"
    require (a.digest = c.batchDigest) "the attestation is for other positions"
    require (attests quorum a.digest a.signature = true)
      "the attestation is not signed by the quorum"
  else pure ()

def close [Module Scalar V] [DecidableEq V] (attests : Bytes → BatchDigest V → Bytes → Bool)
    (securitiesCoverage cashCoverage : List (Coverage V))
    (attestation : Option (BatchAttestation V)) : InPlace (Cycle V Ven) Unit := do
  InPlace.check fun c => c.checkAttestation attests attestation
  InPlace.check fun c => c.securities.checkClose securitiesCoverage
  InPlace.check fun c => c.cash.checkClose cashCoverage
  InPlace.check fun c => require (c.securities.conserved = true ∧ c.cash.conserved = true)
    "a rail does not conserve value"
  modify fun c => { c with closed := true }

section Lemmas

variable {api : VenueApi V Ven} {order : Order V} {now : ℕ} {c t : Cycle V Ven} {u : Unit}

omit [AddCommGroup V] in
theorem counted_eq {f : Cycle V Ven → Check} :
    counted f c = (.ok u, t) ↔ f c = .ok u ∧ c = t := by
  cases h : f c with
  | ok => simp [counted, h]
  | error => simp [counted, h]

def SameButRefused (c t : Cycle V Ven) : Prop := t = { c with refused := t.refused }

theorem accumulate_refused
    (h : ¬(c.securities.checkParties order.securities = .ok () ∧
      c.cash.checkParties order.cash = .ok ())) : SameButRefused c (accumulate order c).2 := by
  refine check_bind_cases (fun _ _ => rfl) fun _ hs => ?_
  exact check_bind_cases (fun _ _ => rfl) fun _ hc => absurd ⟨hs, hc⟩ h

variable [Module Scalar V] [DecidableEq V]

theorem judge_eq_ok :
    judge api order now c = .ok u ↔ api.verify c.venue order.instruction now = .ok () ∧
      c.securities.check order.securities = .ok () ∧ c.cash.check order.cash = .ok () ∧
      c.linksHold order = true := by
  simp only [judge, bind_eq_ok, require_eq_ok]
  constructor
  · rintro ⟨_, hv, _, hs, _, hc, hl⟩
    exact ⟨hv, hs, hc, hl⟩
  · rintro ⟨hv, hs, hc, hl⟩
    exact ⟨(), hv, (), hs, (), hc, hl⟩

structure Moved (c t : Cycle V Ven) (order : Order V) : Prop where
  securitiesParties : order.securities.payer ≠ order.securities.payee
  cashParties : order.cash.payer ≠ order.cash.payee
  securities : c.securities.apply order.securities = some t.securities
  cash : c.cash.apply order.cash = some t.cash

theorem admitOrder_ok (h : admitOrder api order now c = (.ok u, t)) :
    c.closed = false ∧ Moved c t order ∧
      t = { c with
        securities := t.securities, cash := t.cash, venue := t.venue, admitted := c.admitted + 1 } ∧
      (c.attestBatch = true ∧ t.venue = c.venue ∨
        c.attestBatch = false ∧ judge api order now c = .ok () ∧
          api.settle c.venue order.instruction now = .ok t.venue) := by
  simp only [admitOrder, bind_eq, InPlace.check_eq, ok_iff] at h
  obtain ⟨_, ⟨hopen, rfl⟩, attested, _, ⟨hattested, rfl⟩, h⟩ := h
  obtain rfl : c.attestBatch = attested := Except.ok.inj hattested
  refine ⟨hopen, ?_⟩
  rcases Bool.eq_false_or_eq_true c.attestBatch with hb | hb
  · simp only [hb, if_true, accumulate, applyLegs, countAdmitted, bind_eq, InPlace.check_eq,
      update_eq, modify_eq, ok_iff] at h
    obtain ⟨_, ⟨hs, rfl⟩, _, ⟨hc, rfl⟩, _, ⟨securities, hsa, cash, hca, rfl⟩, rfl⟩ := h
    have hsne := (PositionBook.checkParties_eq_ok.mp hs).2.2
    have hcne := (PositionBook.checkParties_eq_ok.mp hc).2.2
    exact ⟨⟨hsne, hcne, hsa, hca⟩, rfl, .inl ⟨hb, rfl⟩⟩
  · simp only [hb, Bool.false_eq_true, if_false, verifyAndApply, applyLegs, settleInstruction,
      countAdmitted, bind_eq, counted_eq, update_eq, modify_eq, ok_iff] at h
    obtain ⟨_, ⟨hj, rfl⟩, _, ⟨securities, hsa, cash, hca, rfl⟩, _, ⟨venue, hv, rfl⟩, rfl⟩ := h
    obtain ⟨_, hs, hc, _⟩ := judge_eq_ok.mp hj
    have hsne := (PositionBook.check_parties hs).2.2
    have hcne := (PositionBook.check_parties hc).2.2
    exact ⟨⟨hsne, hcne, hsa, hca⟩, rfl, .inr ⟨hb, hj, hv⟩⟩

def Admits (api : VenueApi V Ven) (c : Cycle V Ven) (order : Order V) (now : ℕ) : Prop :=
  (c.attestBatch = true ∧ c.securities.checkParties order.securities = .ok () ∧
      c.cash.checkParties order.cash = .ok ()) ∨
    (c.attestBatch = false ∧ judge api order now c = .ok ())

theorem admits_of_ok (h : admitOrder api order now c = (.ok u, t)) : c.Admits api order now := by
  obtain ⟨_, hmoved, _, ⟨hb, _⟩ | ⟨hb, hj, _⟩⟩ := admitOrder_ok h
  · simp only [admitOrder, bind_eq, InPlace.check_eq] at h
    obtain ⟨_, _, ⟨_, rfl⟩, attested, _, ⟨hattested, rfl⟩, h⟩ := h
    obtain rfl : c.attestBatch = attested := Except.ok.inj hattested
    simp only [hb, if_true, accumulate, bind_eq, InPlace.check_eq] at h
    obtain ⟨_, _, ⟨hs, rfl⟩, _, _, ⟨hc, rfl⟩, _⟩ := h
    exact .inl ⟨hb, hs, hc⟩
  · exact .inr ⟨hb, hj⟩

theorem admitOrder_of_open (hopen : c.closed = false) :
    admitOrder api order now c =
      if c.attestBatch then accumulate order c else verifyAndApply api order now c := by
  have hcheck : require (c.closed = false) "the cycle is closed" = Except.ok () :=
    require_eq_ok.mpr hopen
  unfold admitOrder
  rw [check_bind_ok (f := fun c : Cycle V Ven => require (c.closed = false) _) hcheck,
    check_bind_ok (f := fun c : Cycle V Ven => .ok c.attestBatch) rfl]
  split <;> rfl

theorem admitOrder_of_admits
    (hsettles : ∀ venue i now, api.verify venue i now = .ok () →
      ∃ venue', api.settle venue i now = .ok venue')
    (hopen : c.closed = false) (h : c.Admits api order now) :
    ∃ t, admitOrder api order now c = (.ok (), t) := by
  rw [admitOrder_of_open hopen]
  rcases h with ⟨hb, hs, hc⟩ | ⟨hb, hj⟩
  · obtain ⟨securities, hsa⟩ := PositionBook.exists_apply hs
    obtain ⟨cash, hca⟩ := PositionBook.exists_apply hc
    refine ⟨{ c with securities, cash, admitted := c.admitted + 1 }, ?_⟩
    rw [if_pos hb]
    simp only [accumulate, applyLegs, countAdmitted, bind_eq, InPlace.check_eq,
      update_eq, modify_eq, ok_iff]
    exact ⟨c, ⟨hs, rfl⟩, c, ⟨hc, rfl⟩, _, ⟨securities, hsa, cash, hca, rfl⟩, rfl⟩
  · obtain ⟨hverify, hs, hc, _⟩ := judge_eq_ok.mp hj
    simp only [PositionBook.check, bind_eq_ok] at hs hc
    obtain ⟨_, hs, _⟩ := hs
    obtain ⟨_, hc, _⟩ := hc
    obtain ⟨securities, hsa⟩ := PositionBook.exists_apply hs
    obtain ⟨cash, hca⟩ := PositionBook.exists_apply hc
    obtain ⟨venue, hv⟩ := hsettles _ _ _ hverify
    refine ⟨{ c with securities, cash, venue, admitted := c.admitted + 1 }, ?_⟩
    rw [if_neg (by simp [hb])]
    simp only [verifyAndApply, applyLegs, settleInstruction, countAdmitted, bind_eq,
      counted_eq, update_eq, modify_eq, ok_iff]
    exact ⟨c, ⟨hj, rfl⟩, _, ⟨securities, hsa, cash, hca, rfl⟩, _, ⟨venue, hv, rfl⟩, rfl⟩

theorem verifyAndApply_refused (hb : c.attestBatch = false) (h : ¬c.Admits api order now) :
    SameButRefused c (verifyAndApply api order now c).2 := by
  cases hj : judge api order now c with
  | error e =>
    have hrefused : counted (judge api order now) c =
        (.error e, { c with refused := c.refused + 1 }) := by simp [counted, hj]
    unfold verifyAndApply
    rw [bind_snd_of_error hrefused]
    rfl
  | ok => exact absurd (Or.inr ⟨hb, hj⟩) h

theorem admitOrder_error {e : String}
    (hsettles : ∀ venue i now, api.verify venue i now = .ok () →
      ∃ venue', api.settle venue i now = .ok venue')
    (h : admitOrder api order now c = (.error e, t)) : SameButRefused c t := by
  by_cases hopen : c.closed = false
  · by_cases hadmits : c.Admits api order now
    · obtain ⟨t', ht'⟩ := admitOrder_of_admits hsettles hopen hadmits
      rw [ht'] at h
      cases h
    · rw [admitOrder_of_open hopen] at h
      rcases Bool.eq_false_or_eq_true c.attestBatch with hb | hb
      · rw [if_pos hb] at h
        simpa only [h] using accumulate_refused fun hparties => hadmits (.inl ⟨hb, hparties⟩)
      · rw [if_neg (by simp [hb])] at h
        simpa only [h] using verifyAndApply_refused hb hadmits
  · have hstay : SameButRefused c (admitOrder api order now c).2 := by
      refine check_bind_cases (fun _ _ => rfl) fun _ hclosed => ?_
      exact absurd (require_eq_ok.mp hclosed) hopen
    simpa only [h] using hstay

end Lemmas
end Cycle
end DeFMI.Netting
