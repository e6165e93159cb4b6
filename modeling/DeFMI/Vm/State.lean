import DeFMI.Vm.Records
set_option autoImplicit false

/-!
The replicated state: keyed records for assets, accounts, notes, facilities,
holds and everything a reservation leaves behind, and the note operations that
every anonymous path shares.
-/

namespace DeFMI
open Lib

/-- What the state holds. `R` is the participant registry. -/
structure VmState (V R : Type) where
  confidential : ConfidentialState V
  assets : Table Id AssetRecord
  csdIssuers : Table Id CsdIssuerRecord
  accounts : Table Id (AccountRecord V)
  notes : Table Id (NoteRecord V)
  noteReservations : Table Id (NoteReservationRecord V)
  applicationReserveScopes : Table Id ApplicationReserveScope
  applicationReservations : Table Id (ApplicationReservationRecord V)
  standingNotePools : Table Id (StandingNotePoolRecord V)
  noteClaims : Table Id (NoteClaimRecord V)
  guarantors : Table Id GuarantorRecord
  creditFacilities : Table Id (CreditFacilityRecord V)
  creditHolds : Table Id (CreditHoldRecord V)
  reservationBindings : Table Id (ReservationBindingRecord V)
  reservationEscrows : Table Id (ReservationEscrowRecord V)
  nullifiers : Table Id NullifierRecord
  noteSerials : Table Id NoteSerialRecord
  noteIssuances : Table Id Id
  rfqNullifiers : Table Id Id
  admissionCommittees : Table (Id × ℕ) RegisteredCommittee
  admissionBatches : Table Id RegisteredBatch
  admissionEntries : Table (Id × ℕ) AdmissionEntryRecord
  settlementVerifiers : Table (Id × ℕ) SettlementVerifierRecord
  operations : Table Id Id
  participantRegistry : R

/-- Hashes, encodings and keys that the checks of a state read. -/
structure NoteApi (V : Type) extends CreditDigests V where
  key : Pedersen V
  noteId : NoteRecord V → Id
  openingValid : Bytes → Id → Bool
  recipientOpening : Bytes → Bool
  claimId : NoteClaim V → Id
  envelopeValid : Bytes → Bool
  ringRoot : Id → List Id → Id
  standingNotePoolId : Id → Id → Id → Id → ℕ → Result Id
  standingNotePoolDelegationDigest : Id → Id → Id → ℕ → ℕ → Result Id
  escrowClaimSerial : Id → Id → Id
  names : AssetNames V
  assetOracle : AssetTranscript V → Scalar
  decodePoint : Id → CompressedPoint V
  identityContext : Id → CompressedPoint V → Registry → Id
  claimValueContext : Id → CompressedPoint V → CompressedPoint V → CompressedPoint V →
    ApplicationOpening V → Id
  sealedValid : Bytes → Bool
  envelope : Id → ℕ → V → List ApplicationOpeningShare → Result Bytes
  scopeKey : ApplicationReserveScope → Id
  applicationDelegation : Id → Id
  issuerKey : Id → Bool
  guarantorKey : Id → Option Bool
  nodeKey : Id → Bool
  settlementCommittee : Bytes → Bytes → Check

section Notes

variable {V R : Type} [AddCommGroup V] [DecidableEq V]

def NoteOutput.validate (api : NoteApi V) (o : NoteOutput V) : Check := do
  require (¬(o.noteId = 0 ∨ o.assetId = 0 ∨ o.oneTime = 0 ∨ o.valueCommitment = 0 ∨
      o.ephemeral = 0)) "note output has an empty public field"
  require (api.openingValid o.encryptedOpening o.lockId = true) "note opening is invalid"
  require (api.noteId o.toNoteRecord = o.noteId) "note identifier differs from its contents"

def NoteClaim.validate (api : NoteApi V) (c : NoteClaim V) : Check := do
  nonzero c.claimId "claim_id"
  nonzero c.assetId "asset_id"
  nonzero c.recipientCommitment "recipient_commitment"
  nonzero c.sourceHoldId "source_hold_id"
  require (¬(c.valueCommitment = 0 ∧ c.kind ≠ .refund))
    "note claim delivery commitment cannot be zero"
  require (api.envelopeValid c.openingEnvelope = true) "opening envelope is invalid"
  nonzero c.authorization.keyRecordCommitment "claim key-record commitment"
  nonzero c.authorization.keyFingerprint "claim key fingerprint"
  require (api.claimId { c with claimId := 0 } = c.claimId)
    "note claim identifier differs from its contents"

def noteRingRoot (api : NoteApi V) (assetId : Id) (ring : List Id) : Result Id := do
  require (¬(assetId = 0 ∨ ring.length < 2 ∨ 64 < ring.length)) "note ring has invalid dimensions"
  require (0 ∉ ring) "ring note cannot be the all-zero identifier"
  pure (api.ringRoot assetId ring)

def NoteSpend.validate (api : NoteApi V) (spend : NoteSpend V) : Check := do
  require (¬(spend.assetId = 0 ∨ spend.ringRoot = 0 ∨ spend.serialPoint = 0 ∨
      spend.proofDigest = 0 ∨ spend.ring.length < 2 ∨ 64 < spend.ring.length ∨
      spend.ring.length ≠ 2 ^ Nat.log2 spend.ring.length ∨ spend.outputs = [] ∨
      4 < spend.outputs.length ∨ ¬spend.ring.Nodup ∨
      ¬(spend.outputs.map NoteOutput.noteId).Nodup))
    "note spend is incomplete, duplicated, or malformed"
  let ringRoot ← noteRingRoot api spend.assetId spend.ring
  require (ringRoot = spend.ringRoot) "note spend is incomplete, duplicated, or malformed"
  forEach (fun output => do
    output.validate api
    require (output.assetId = spend.assetId) "note spend changes asset rail") spend.outputs

namespace VmState

section
variable (api : NoteApi V) (s : VmState V R) (output : NoteOutput V) (hidden : Bool)
  (spend : NoteSpend V)

def assetActive (assetId : Id) : Bool :=
  (s.assets.lookup assetId).any AssetRecord.active

/-- A confidential note names a registered identity, any other an active asset. -/
def noteAsset : Check :=
  if hidden then
    require (output.assetId ∈ s.confidential.identities ∧
        api.recipientOpening output.encryptedOpening = true)
      "confidential note requires a registered identity and encrypted asset metadata"
  else
    require (s.assetActive output.assetId = true)
      "note output belongs to an inactive or unknown asset"

def addNote : VmState V R :=
  { s with
    notes := s.notes.insert output.noteId output.toNoteRecord
    confidential := if hidden then
        { s.confidential with notes := insert output.noteId s.confidential.notes }
      else s.confidential }

def insertNoteWithConfidentiality : Result (VmState V R) := do
  output.validate api
  s.noteAsset api output hidden
  require (output.noteId ∉ s.notes) "note output identifier was already used"
  pure (s.addNote output hidden)

def insertNote : Result (VmState V R) :=
  s.insertNoteWithConfidentiality api output false

def insertNotes (s : VmState V R) (outputs : List (NoteOutput V)) : Result (VmState V R) :=
  foldEach (fun s output => s.insertNoteWithConfidentiality api output hidden) s outputs

def checkNoteSpend (requiredNote : Option Id) (requireUnlockedRing : Bool) : Check := do
  spend.validate api
  require (s.assetActive spend.assetId = true) "note spend uses an inactive or unknown asset"
  require (spend.serialPoint ∉ s.noteSerials) "note serial was already settled"
  forEach (fun noteId => do
    let note ← okOr (s.notes.lookup noteId) "note anonymity set names an unknown note"
    require (note.assetId = spend.assetId) "note anonymity set crosses asset rails"
    require (¬(requireUnlockedRing = true ∧ note.lockId ≠ 0))
      "ordinary note spend includes a reservation-locked note") spend.ring
  require (∀ required ∈ requiredNote, required ∈ spend.ring ∧
      (s.notes.lookup required).any (fun note => note.lockId = spend.inputLockId) = true)
    "anonymity set omits the required escrow note"
  require (∀ output ∈ spend.outputs, output.noteId ∉ s.notes)
    "note spend reuses an existing output"

def applyNoteSpendSerial (deadline : ℕ) (statement : Id) : Result (VmState V R) := do
  require (spend.serialPoint ∉ s.noteSerials) "note serial was already settled"
  pure { s with
    noteSerials := s.noteSerials.insert spend.serialPoint (spend.serial deadline statement) }

def applyNoteSpend (deadline : ℕ) (statement : Id) : Result (VmState V R) := do
  let s ← s.applyNoteSpendSerial spend deadline statement
  s.insertNotes api false spend.outputs

end

variable {api : NoteApi V} {s t : VmState V R}

theorem insertNoteWithConfidentiality_ok {output : NoteOutput V}
    {hidden : Bool} (h : s.insertNoteWithConfidentiality api output hidden = .ok t) :
    output.noteId ∉ s.notes ∧ t = s.addNote output hidden := by
  simp only [insertNoteWithConfidentiality, ok_iff] at h
  obtain ⟨_, _, hfresh, rfl⟩ := h
  exact ⟨hfresh, rfl⟩

omit [AddCommGroup V] [DecidableEq V] in
theorem applyNoteSpendSerial_ok {spend : NoteSpend V} {deadline : ℕ}
    {statement : Id} (h : s.applyNoteSpendSerial spend deadline statement = .ok t) :
    spend.serialPoint ∉ s.noteSerials ∧
      t = { s with
        noteSerials := s.noteSerials.insert spend.serialPoint (spend.serial deadline statement) } := by
  simp only [applyNoteSpendSerial, ok_iff] at h
  obtain ⟨hfresh, rfl⟩ := h
  exact ⟨hfresh, rfl⟩

theorem applyNoteSpend_ok {spend : NoteSpend V} {deadline : ℕ}
    {statement : Id} (h : s.applyNoteSpend api spend deadline statement = .ok t) :
    t = { s with noteSerials := t.noteSerials, notes := t.notes } ∧
      s.noteSerials.Keeps t.noteSerials ∧ s.notes.Keeps t.notes := by
  simp only [applyNoteSpend, ok_iff] at h
  obtain ⟨u, hserial, ht⟩ := h
  obtain ⟨hfresh, rfl⟩ := applyNoteSpendSerial_ok hserial
  refine foldEach_invariant (fun w => w = { s with noteSerials := w.noteSerials, notes := w.notes } ∧
    s.noteSerials.Keeps w.noteSerials ∧ s.notes.Keeps w.notes) ?_ ht
    ⟨rfl, Table.keeps_insert hfresh, .refl _⟩
  rintro v w output hw ⟨hv, hserials, hnotes⟩
  obtain ⟨hnew, rfl⟩ := insertNoteWithConfidentiality_ok hw
  refine ⟨?_, hserials, hnotes.trans (Table.keeps_insert hnew)⟩
  rw [hv]
  rfl

end VmState
end Notes
end DeFMI
