import DeFMI.Notes
import DeFMI.Vm.Lines
set_option autoImplicit false

/-!
Full verification of a spend on the replicated state: the ring is rebuilt from
stored notes, and the projection a transaction carries has to be what the
verified proof projects to.
-/

namespace DeFMI
open Lib

structure SpendApi (V R : Type) extends LinesApi V R where
  noteParams : NoteParams V
  encodePoint : V → Id
  decodeSpendProof : Bytes → Result (SpendProof V)
  spendDigest : SpendProof V → Id
  relationFromBytes : Bytes → Result CreditFacilityRelationProof

section Projection

variable {V R : Type} [AddCommGroup V] [Module Scalar V] [DecidableEq V]

def NoteOutput.ofNote (api : SpendApi V R) (note : Note V) (assetId lockId : Id) :
    Result (NoteOutput V) := do
  require (assetId ≠ 0) "note output needs an asset rail"
  let record : NoteRecord V := ⟨assetId, api.encodePoint note.oneTime,
    .point note.valueCommitment, api.encodePoint note.ephemeral, note.encryptedOpening, lockId⟩
  let output := record.output (api.noteId record)
  output.validate api.toNoteApi
  pure output

section
variable (api : SpendApi V R)

def NoteOutput.toNote (output : NoteOutput V) : Result (Note V) := do
  output.validate api.toNoteApi
  let oneTime ← okOr (api.decodePoint output.oneTime).decompress
    "canonical note one-time key is not a Ristretto point"
  let valueCommitment ← okOr output.valueCommitment.decompress
    "canonical note value commitment is not a Ristretto point"
  let ephemeral ← okOr (api.decodePoint output.ephemeral).decompress
    "canonical note ephemeral key is not a Ristretto point"
  pure ⟨oneTime, valueCommitment, ephemeral, output.encryptedOpening⟩

def ringLedger (bits : ℕ) (notes : List (Note V)) : NoteLedger V :=
  notes.foldl (fun ledger note => ledger.append api.noteParams note) (NoteLedger.new api.key bits)

/-- Verifies a proof and binds each ring note to its chain identifier before the
projection is made. -/
def NoteSpend.fromVerified (ledger : NoteLedger V) (ring : List ℕ) (proof : SpendProof V)
    (notes : List (Note V)) (assetId : Id) (ringLocks : List Id) (inputLockId : Id)
    (outputLocks : List Id) (context : Bytes) : Result (NoteSpend V) := do
  require (¬(ring.length ≠ ringLocks.length ∨ notes.length ≠ outputLocks.length))
    "note lock metadata does not match proof dimensions"
  ledger.checkSpendConstrained api.noteParams ring proof
    (ringLocks.map (fun lock => decide (lock = inputLockId))) context
  require (NoteLedger.matchesOutputNotes proof notes = true)
    "projected notes differ from the verified spend outputs"
  let ringOutputs ← mapEach (fun member : ℕ × Id => do
    let note ← okOr ledger.notes[member.1]? "ring names a missing local note"
    NoteOutput.ofNote api note assetId member.2) (ring.zip ringLocks)
  let outputs ← mapEach (fun output : Note V × Id => NoteOutput.ofNote api output.1 assetId output.2)
    (notes.zip outputLocks)
  let ringIds := ringOutputs.map NoteOutput.noteId
  let ringRoot ← noteRingRoot api.toNoteApi assetId ringIds
  let spend : NoteSpend V := ⟨assetId, ringIds, ringRoot, api.encodePoint proof.serialPoint,
    inputLockId, api.spendDigest proof, outputs⟩
  spend.validate api.toNoteApi
  pure spend

/-- The owner signs here, before any quote is seen. -/
def NoteReservationEscrow.fromVerified (ledger : NoteLedger V) (ring : List ℕ)
    (proof : SpendProof V) (notes : List (Note V)) (assetId : Id) (ringLocks outputLocks : List Id)
    (t : CreditFacilityTransition V) (delegationDigest : Id) (context : Bytes) :
    Result (NoteReservationEscrow V) := do
  require (¬(t.kind ≠ .hold ∨ delegationDigest = 0))
    "anonymous reservation needs a hold and delegation"
  let spend ← NoteSpend.fromVerified api ledger ring proof notes assetId ringLocks 0 outputLocks
    context
  let locked ← okOr (spend.outputs.filter (fun output => output.lockId = t.holdId)).head?
    "verified spend does not create the exact reservation covenant"
  let escrow : NoteReservationEscrow V := ⟨spend, locked.noteId, delegationDigest⟩
  require (escrow.Locks t) "verified spend does not create the exact reservation covenant"
  pure escrow

/-- A spend under a hidden asset. Every ring member keeps its own asset commitment:
relabelling would derive other identifiers. -/
def verifySpend (spend : NoteSpend V) (proof : SpendProof V) (identity : AssetIdentity V)
    (canonicalRing : List (NoteOutput V)) (bits : ℕ) (context : Bytes) : Check := do
  spend.validate api.toNoteApi
  identity.validate api.toNoteApi
  require (¬(supportedBits bits = false ∨ canonicalRing.length ≠ spend.ring.length ∨
      spend.assetId ≠ identity.commitment ∨ .point proof.tag ≠ identity.tag ∨
      api.spendDigest proof ≠ spend.proofDigest ∨
      api.encodePoint proof.serialPoint ≠ spend.serialPoint))
    "confidential spend parameters, identity or proof digest differ"
  require (canonicalRing.map NoteOutput.noteId = spend.ring)
    "canonical mixed ring has a different member"
  let ringNotes ← mapEach (NoteOutput.toNote api) canonicalRing
  let outputs ← mapEach (NoteOutput.toNote api) spend.outputs
  require (NoteLedger.matchesOutputNotes proof outputs = true)
    "confidential spend substitutes an output or its ciphertext"
  (ringLedger api bits ringNotes).checkSpendConstrained api.noteParams
    (List.range canonicalRing.length) proof
    (canonicalRing.map (fun output => decide (output.lockId = spend.inputLockId))) context

end

end Projection
end DeFMI
