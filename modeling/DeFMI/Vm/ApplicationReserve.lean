import DeFMI.Vm.Spends
set_option autoImplicit false

/-!
Reservations made for an application: the deployment scope, the order that
carries both full proofs, and the plain reserve.
-/

namespace DeFMI
open Lib

/-- What an approval service forwards once it has verified a participant's mandate. -/
structure ApplicationNoteReservation (V : Type) where
  binding : ApplicationReservationBinding V
  transition : CreditFacilityTransition V
  escrow : NoteReservationEscrow V
  relationProof : Bytes
  spendProof : Bytes

structure ReserveApi (V R : Type) extends SpendApi V R where
  scopeStatement : ApplicationReserveScope → Id
  applicationReservation : ApplicationNoteReservation V → Id

section Orders

variable {V R : Type} [AddCommGroup V] [Module Scalar V] [DecidableEq V]

def ApplicationReserveScope.statement (api : ReserveApi V R) (scope : ApplicationReserveScope) :
    Result Id := do
  let _ ← scope.key api.toNoteApi
  pure (api.scopeStatement scope)

namespace ApplicationNoteReservation

variable (api : ReserveApi V R) (r : ApplicationNoteReservation V)

def locked : List (NoteOutput V) :=
  r.escrow.spend.outputs.filter (fun note => note.lockId = r.binding.holdId)

/-- One output is the escrow. A confidential escrow carries its value under another
generator, and a link proof takes the place of the equality. -/
def Locks (confidential : Bool) : Prop :=
  r.locked.map NoteOutput.noteId = [r.escrow.escrowNoteId] ∧
    (confidential = false →
      r.locked.map (fun note => note.valueCommitment) = [r.binding.amountCommitment]) ∧
    ∀ note ∈ r.escrow.spend.outputs, note.lockId = 0 ∨ note.lockId = r.binding.holdId

instance (r : ApplicationNoteReservation V) (confidential : Bool) :
    Decidable (r.Locks confidential) :=
  inferInstanceAs (Decidable (_ ∧ _))

def bodyWithConfidentialValue (confidential : Bool) : Check := do
  let mandate := r.binding
  let t := r.transition
  mandate.validate api.toNoteApi
  require (¬(r.relationProof = [] ∨ 2 * 1024 * 1024 + 16 < r.relationProof.length ∨
      r.spendProof = [] ∨ 2 * 1024 * 1024 < r.spendProof.length))
    "application reservation proof exceeds its wire bound"
  t.body
  require (¬(t.kind ≠ .hold ∨ t.facilityId ≠ mandate.facilityId ∨ t.holdId ≠ mandate.holdId ∨
      t.queryCommitment ≠ mandate.requestCommitment ∨
      t.amountCommitment ≠ mandate.amountCommitment ∨ t.expiresAt ≠ mandate.validUntil ∨
      r.escrow.spend.assetId ≠ mandate.assetId ∨ r.escrow.spend.inputLockId ≠ 0 ∨
      r.escrow.delegationDigest ≠ mandate.delegationDigest))
    "application note reservation differs from its signed mandate"
  require (r.Locks confidential)
    "application reservation does not create exactly its signed escrow"
  r.escrow.spend.validate api.toNoteApi

def body : Check :=
  r.bodyWithConfidentialValue api false

def statement : Result Id := do
  r.body api
  pure (api.applicationReservation r)

def spendContext : Bytes :=
  utf8 "DEFMI:APPLICATION:RESERVE-SPEND:v1" ++ r.binding.mandateDigest.1

def verifyPublicProofs (ledger : NoteLedger V) (ring : List ℕ) (ringLocks : List Id) : Check := do
  r.body api
  require (¬(ledger.bits ≠ r.binding.scope.amountBits ∨ ledger.key ≠ api.key))
    "application note verifier has different commitment parameters"
  let relation ← api.relationFromBytes r.relationProof
  relation.verify api.facility api.key r.transition
  let proof ← api.decodeSpendProof r.spendProof
  let notes ← mapEach (NoteOutput.toNote api.toSpendApi) r.escrow.spend.outputs
  let verified ← NoteReservationEscrow.fromVerified api.toSpendApi ledger ring proof notes
    r.binding.assetId ringLocks (r.escrow.spend.outputs.map (fun output => output.lockId))
    r.transition r.binding.delegationDigest r.spendContext
  require (verified = r.escrow)
    "application escrow differs from the independently verified note spend"

def record (statement : Id) : ApplicationReservationRecord V where
  binding := r.binding
  escrowNoteId := r.escrow.escrowNoteId
  proofDigest := r.escrow.spend.proofDigest
  receiptDigest := statement
  status := .active
  settlementDigest := 0
  remainingCommitment := none
  sequence := 0
  lastReceipt := none
  remainingOpening := none

def newHold : CreditHoldRecord V where
  facilityId := r.binding.facilityId
  queryCommitment := r.binding.requestCommitment
  amountCommitment := r.binding.amountCommitment
  expiresAt := r.binding.validUntil
  status := .active
  settlementDigest := 0
  createdSequence := r.transition.beforeSequence + 1
  updatedSequence := r.transition.beforeSequence + 1

end ApplicationNoteReservation
end Orders

namespace VmState

variable {V R : Type} [AddCommGroup V] [Module Scalar V] [DecidableEq V]

def registerScope (api : ReserveApi V R) (s : VmState V R) (scope : ApplicationReserveScope)
    (approval : Approval) : Result (VmState V R) := do
  let scopeKey ← scope.key api.toNoteApi
  let statement ← scope.statement api
  s.authorize api.toVmApi approval statement
  require (scopeKey ∉ s.applicationReserveScopes)
    "application reserve scope is already fixed for this epoch"
  pure { s with
    applicationReserveScopes := s.applicationReserveScopes.insert scopeKey scope }

section
variable (s : VmState V R) (facility : CreditFacilityRecord V) (r : ApplicationNoteReservation V)

def ReserveUsed : Prop :=
  r.binding.holdId ∈ s.creditHolds ∨ r.transition.operationId ∈ s.operations ∨
    ∃ e ∈ s.applicationReservations.entries, e.2.binding.scope = r.binding.scope ∧
      e.2.binding.requestCommitment = r.binding.requestCommitment

instance (s : VmState V R) (r : ApplicationNoteReservation V) : Decidable (s.ReserveUsed r) :=
  inferInstanceAs (Decidable (_ ∨ _))

def Funds (now : ℕ) : Prop :=
  facility.status = .active ∧ facility.validFrom ≤ now ∧
    r.binding.validUntil ≤ facility.validUntil ∧
    facility.beneficiaryCommitment = r.binding.entityCommitment ∧
    facility.railAssetId = r.binding.assetId ∧ Fresh facility r.transition

instance (facility : CreditFacilityRecord V) (r : ApplicationNoteReservation V) (now : ℕ) :
    Decidable (Funds facility r now) :=
  inferInstanceAs (Decidable (_ ∧ _))

def bookApplication : VmState V R :=
  { s with
    creditFacilities := s.creditFacilities.insert r.binding.facilityId facility
    creditHolds := s.creditHolds.insert r.binding.holdId r.newHold }

def storeApplication (statement : Id) : VmState V R :=
  { s with
    applicationReservations := s.applicationReservations.insert r.binding.holdId
      (r.record statement)
    operations := s.operations.insert r.transition.operationId statement }

def advanceFunding (t : CreditFacilityTransition V) (overflow : String) :
    Result (CreditFacilityRecord V) := do
  let sequence ← okOr (checkedSucc facility.sequence) overflow
  pure { facility with balances := t.after, sequence }

end

def reserveApplication (api : ReserveApi V R) (s : VmState V R) (now : ℕ)
    (r : ApplicationNoteReservation V) (approval : Approval) : Result (VmState V R) := do
  let binding := r.binding
  binding.validate api.toNoteApi
  let scopeKey ← binding.scope.key api.toNoteApi
  require (s.applicationReserveScopes.lookup scopeKey = some binding.scope)
    "application reservation uses an unregistered deployment scope"
  require (¬(now < binding.validFrom ∨ binding.validUntil < now))
    "application reservation mandate is outside its lifetime"
  let statement ← r.statement api
  s.authorize api.toVmApi approval statement
  require (¬s.ReserveUsed r) "application reservation or request was already used"
  let facility ← okOr (s.creditFacilities.lookup binding.facilityId)
    "application reservation names an unknown facility"
  require (Funds facility r now)
    "application reservation differs from the live facility capacity or identity"
  let spend := r.escrow.spend
  s.checkNoteSpend api.toNoteApi spend none true
  let ringNotes ← mapEach (fun noteId => do
    let note ← okOr (s.notes.lookup noteId) "application reserve ring note is absent"
    (note.output noteId).toNote api.toSpendApi) spend.ring
  r.verifyPublicProofs api (ringLedger api.toSpendApi binding.scope.amountBits ringNotes)
    (List.range spend.ring.length) (List.replicate spend.ring.length 0)
  let facility ← advanceFunding facility r.transition "application reserve sequence overflow"
  let s ← (s.bookApplication facility r).applyNoteSpend api.toNoteApi spend binding.validUntil
    statement
  pure (s.storeApplication r statement)

end VmState
end DeFMI
