import DeFMI.Vm.ApplicationFill
set_option autoImplicit false

/-!
Notes whose asset is hidden: registered identities, issuance, transfer and
reserve with their full proofs, and the fill that converts claims to tagged
values.
-/

namespace DeFMI
open Lib

def maxWire : ℕ := 2 * 1024 * 1024

structure ConfidentialIssuance (V : Type) where
  issuance : NoteIssuance V
  identity : AssetIdentity V
  amountBits : ℕ
  rangeProof : Bytes

structure TransferContext where
  beforeRoot : Id
  operationId : Id
  deadline : ℕ
  amountBits : ℕ
  identityStatement : Id

structure ConfidentialTransfer (V : Type) where
  context : TransferContext
  identity : AssetIdentity V
  spend : NoteSpend V
  spendProof : Bytes

structure ConfidentialReservation (V : Type) where
  reservation : ApplicationNoteReservation V
  identity : AssetIdentity V
  valueLink : ValueLink

structure LegConversions (V : Type) where
  delivery : ClaimConversion V
  refund : ClaimConversion V

/-- A fill with the conversions of all four claims, also of refunds that are kept
for later. -/
structure ConfidentialFill (V : Type) where
  fill : ApplicationNoteFill V
  securitiesAssetLink : AssetProof
  securities : LegConversions V
  cash : LegConversions V

def ConfidentialFill.conversions {V : Type} (order : ConfidentialFill V) :
    FillLeg → LegConversions V
  | .securities => order.securities
  | .cash => order.cash

structure ConvertedLeg (V : Type) where
  delivery : NoteClaim V
  refund : NoteClaim V
  retained : RetainedRefund V

structure VerifiedConfidentialFill (V : Type) where
  verified : VerifiedApplicationFill V
  securities : ConvertedLeg V
  cash : ConvertedLeg V

structure ConfidentialApi (V R : Type) extends FillApi V R where
  identityStatement : AssetIdentity V → Id
  issueRangeContext : NoteIssuance V → AssetIdentity V → ℕ → Id
  issueProofDigest : AssetIdentity V → ℕ → Bytes → Id
  confidentialIssue : ConfidentialIssuance V → Id
  decodeRange : Bytes → Result (RangeProof Id)
  transferContext : TransferContext → Id
  confidentialTransfer : ConfidentialTransfer V → Id
  reserveSpendContext : ApplicationReservationBinding V → CreditFacilityTransition V →
    AssetIdentity V → Id
  reserveValueContext : ConfidentialReservation V → Id
  confidentialReservation : ConfidentialReservation V → Id
  fillAssetContext : ApplicationNoteFill V → Id
  conversionContext : ApplicationNoteFill V → ℕ → Id
  confidentialFill : ConfidentialFill V → Id

section Orders

variable {V R : Type} [AddCommGroup V] [Module Scalar V] [DecidableEq V]

def AssetIdentity.statement (api : ConfidentialApi V R) (identity : AssetIdentity V) :
    Result Id := do
  identity.validate api.toNoteApi
  pure (api.identityStatement identity)

namespace ConfidentialIssuance

def statement (api : ConfidentialApi V R) (order : ConfidentialIssuance V) : Result Id := do
  require (¬(8192 < order.rangeProof.length ∨ order.rangeProof = [] ∨
      supportedBits order.amountBits = false ∨
      order.issuance.output.assetId ≠ order.identity.commitment ∨
      order.issuance.proofDigest ≠
        api.issueProofDigest order.identity order.amountBits order.rangeProof))
    "confidential issuance has unbound identity or proof bytes"
  order.issuance.body api.toNotesApi
  pure (api.confidentialIssue order)

/-- The issuer offers its whole cohort, not a subset the prover selects. -/
def verify (api : ConfidentialApi V R) (order : ConfidentialIssuance V)
    (issuer : CsdIssuerDefinition) (now : ℕ) : Check := do
  let _ ← order.statement api
  order.identity.validate api.toNoteApi
  issuer.body api.toNoteApi
  require (¬(order.identity.registry.assets ≠ issuer.permittedAssetIds ∨
      order.issuance.issuerId ≠ issuer.issuerId ∨ now < order.issuance.issuedAt ∨
      300 < now - order.issuance.issuedAt ∨ order.issuance.issuedAt < issuer.validFrom ∨
      issuer.validUntil < now))
    "confidential issuance differs from its issuer cohort or validity"
  api.issuerSignatures issuer order.issuance
  let proof ← api.decodeRange order.rangeProof
  let tag ← assetPoint order.identity.tag
  let value ← assetPoint order.issuance.output.valueCommitment
  require (proof.verifyMultiple 1 tag api.key.h
      (api.issueRangeContext order.issuance order.identity order.amountBits) [value]
      order.amountBits = true) "confidential issuance range failed"

end ConfidentialIssuance

def TransferContext.bytes (api : ConfidentialApi V R) (context : TransferContext) : Result Id := do
  require (¬(context.beforeRoot = 0 ∨ context.operationId = 0 ∨ context.identityStatement = 0 ∨
      supportedBits context.amountBits = false ∨ context.deadline = 0 ∨
      maxUnixTime < context.deadline)) "confidential transfer context is incomplete"
  pure (api.transferContext context)

namespace ConfidentialTransfer

def statement (api : ConfidentialApi V R) (order : ConfidentialTransfer V) : Result Id := do
  let _ ← order.context.bytes api
  let identity ← order.identity.statement api
  require (¬(order.context.identityStatement ≠ identity ∨ maxWire < order.spendProof.length ∨
      order.spendProof = [] ∨ order.spend.inputLockId ≠ 0 ∨
      ∃ note ∈ order.spend.outputs, note.lockId ≠ 0))
    "ordinary confidential transfer has another identity or locked notes"
  order.spend.validate api.toNoteApi
  pure (api.confidentialTransfer order)

def verify (api : ConfidentialApi V R) (order : ConfidentialTransfer V)
    (canonicalRing : List (NoteOutput V)) : Check := do
  let _ ← order.statement api
  let proof ← api.decodeSpendProof order.spendProof
  let context ← order.context.bytes api
  verifySpend api.toSpendApi order.spend proof order.identity canonicalRing
    order.context.amountBits context.1

end ConfidentialTransfer

namespace ConfidentialReservation

variable (api : ConfidentialApi V R) (order : ConfidentialReservation V)

def spendContext : Result Id := do
  order.reservation.binding.validate api.toNoteApi
  order.reservation.transition.body
  let _ ← order.identity.statement api
  pure (api.reserveSpendContext order.reservation.binding order.reservation.transition
    order.identity)

def valueContext : Result Id := do
  let _ ← order.spendContext api
  order.reservation.escrow.spend.validate api.toNoteApi
  pure (api.reserveValueContext order)

def statement : Result Id := do
  require (order.reservation.binding.assetId = order.identity.commitment)
    "confidential reserve names another asset identity"
  order.reservation.bodyWithConfidentialValue api.toReserveApi true
  pure (api.confidentialReservation order)

def escrowOutput : Option (NoteOutput V) :=
  order.reservation.escrow.spend.outputs.find?
    (fun note => note.noteId = order.reservation.escrow.escrowNoteId)

def verifyPublic (canonicalRing : List (NoteOutput V)) : Check := do
  let _ ← order.statement api
  let r := order.reservation
  let relation ← api.relationFromBytes r.relationProof
  relation.verify api.facility api.key r.transition
  let proof ← api.decodeSpendProof r.spendProof
  let context ← order.spendContext api
  verifySpend api.toSpendApi r.escrow.spend proof order.identity canonicalRing
    r.binding.scope.amountBits context.1
  let escrow ← okOr order.escrowOutput "confidential reserve escrow is absent"
  let tag ← assetPoint order.identity.tag
  let value ← assetPoint escrow.valueCommitment
  let amount ← assetPoint r.binding.amountCommitment
  let valueContext ← order.valueContext api
  require (order.valueLink.verify api.key.h valueContext tag api.key.g value amount = true)
    "confidential value link failed"

end ConfidentialReservation

def ClaimConversion.SameRecipient (c : ClaimConversion V) (expected : ApplicationOpening V) : Prop :=
  c.opening.context = expected.context ∧ c.opening.recipientView = expected.recipientView ∧
    c.opening.claimContext = expected.claimContext ∧
    c.opening.claimAuthorization = expected.claimAuthorization ∧
    c.opening.threshold = expected.threshold

instance (c : ClaimConversion V) (expected : ApplicationOpening V) :
    Decidable (c.SameRecipient expected) := inferInstanceAs (Decidable (_ ∧ _))

/-- Only the confidential wrapper may verify a fill of version three. -/
def ApplicationNoteFill.verifyConfidential (api : FillApi V R) (fill : ApplicationNoteFill V)
    (expectedScope : ApplicationReserveScope) (now : ℕ) (statement : Id) :
    Result (VerifiedApplicationFill V) := do
  require (¬(fill.version ≠ 3 ∨ fill.batch ≠ none ∨ fill.assetLinkAnnouncement ≠ 0 ∨
      fill.assetLinkResponse ≠ .canonical 0))
    "confidential fill has a legacy link, batch or version"
  let _ ← fill.signingMessage api
  fill.verifyCertificateAndBody api expectedScope now statement true

namespace ConfidentialFill

variable (api : ConfidentialApi V R) (order : ConfidentialFill V)

def signingMessage : Result Id := do
  require (¬(order.fill.version ≠ 3 ∨ order.fill.batch ≠ none ∨
      order.fill.assetLinkAnnouncement ≠ 0 ∨ order.fill.assetLinkResponse ≠ .canonical 0))
    "confidential fill has a legacy link, batch or version"
  let _ ← order.fill.signingMessage api.toFillApi
  pure (api.confidentialFill order)

def checkIdentity (identity : AssetIdentity V) (expected : Id) : Check := do
  identity.validate api.toNoteApi
  require (identity.commitment = expected)
    "confidential fill identity differs from its reservation"

def convert (leg : FillLeg) (index : ℕ) (kind : NoteClaimKind) (identity : AssetIdentity V)
    (conversion : ClaimConversion V) (expected : ApplicationOpening V)
    (normalized : CompressedPoint V) : Result (NoteClaim V) := do
  require (conversion.SameRecipient expected)
    "confidential conversion changes its authorized recipient or threshold"
  conversion.verify api.toNoteApi normalized identity.tag (api.conversionContext order.fill index)
  conversion.claim api.toFillApi identity.commitment (order.fill.head leg).holdId kind

def convertLeg (leg : FillLeg) (index : ℕ) (identity : AssetIdentity V) (verified : VerifiedLeg V) :
    Result (ConvertedLeg V) := do
  let conversions := order.conversions leg
  let delivery ← order.convert api leg index .delivery identity conversions.delivery
    (order.fill.openings leg).delivery verified.consumed
  let refund ← order.convert api leg (index + 1) .refund identity conversions.refund
    verified.normalizedOpening verified.remaining
  pure ⟨delivery, refund, ⟨conversions.refund, api.conversionContext order.fill (index + 1)⟩⟩

def settled (leg : FillLeg) (converted : ConvertedLeg V) : List (NoteClaim V) :=
  if (order.fill.head leg).close then [converted.delivery, converted.refund]
  else [converted.delivery]

def verify (scope : ApplicationReserveScope) (securities cash : AssetIdentity V) (now : ℕ) :
    Result (VerifiedConfidentialFill V) := do
  let statement ← order.signingMessage api
  checkIdentity api securities order.fill.securitiesAsset
  checkIdentity api cash order.fill.cashAsset
  let i ← api.decodeInstruction order.fill.instruction
  let tag ← assetPoint securities.tag
  order.securitiesAssetLink.verify api.assetOracle api.names
    ⟨api.key, securities.registry, tag, some i.assetCommitment,
      (api.fillAssetContext order.fill).1⟩
  let verified ← order.fill.verifyConfidential api.toFillApi scope now statement
  let securitiesLeg ← order.convertLeg api .securities 0 securities verified.securities
  let cashLeg ← order.convertLeg api .cash 2 cash verified.cash
  pure ⟨{ verified with
      claims := order.settled .securities securitiesLeg ++ order.settled .cash cashLeg },
    securitiesLeg, cashLeg⟩

end ConfidentialFill
end Orders

namespace VmState

variable {V R : Type} [AddCommGroup V] [Module Scalar V] [DecidableEq V]

def proofBytes (bytes : Bytes) (bound : ℕ) : Check :=
  require (¬(bytes = [] ∨ bound < bytes.length)) "confidential proof dimensions are invalid"

section
variable (api : ConfidentialApi V R) (s : VmState V R) (now : ℕ) (identity : AssetIdentity V)

def allAssets : List Id :=
  ((s.assets.entries.filter (fun e => e.2.active)).map Sigma.fst).insertionSort
    (fun a b => a.1 ≤ b.1)

def storeIdentity : Result (VmState V R) :=
  match s.confidential.identities.lookup identity.commitment with
  | some existing => do
    require (existing = identity) "confidential asset identity cannot be replaced"
    pure s
  | none => .ok { s with confidential := { s.confidential with
      identities := s.confidential.identities.insert identity.commitment identity } }

def ensureIdentity (cohort : List Id) : Result (VmState V R) := do
  identity.validate api.toNoteApi
  require (¬(identity.registry.assets ≠ cohort ∨ (∃ id ∈ cohort, s.assetActive id = false) ∨
      identity.commitment ∈ s.assets))
    "confidential identity is outside the canonical eligible cohort"
  s.storeIdentity identity

def registerIdentity (approval : Approval) : Result (VmState V R) := do
  let statement ← identity.statement api
  s.authorize api.toVmApi approval statement
  require (identity.commitment ∉ s.confidential.identities)
    "confidential identity is already registered"
  s.ensureIdentity api identity s.allAssets

def issueConfidential (order : ConfidentialIssuance V) (approval : Approval) :
    Result (VmState V R) := do
  proofBytes order.rangeProof 8192
  let statement ← order.statement api
  s.authorize api.toVmApi approval statement
  let issuance := order.issuance
  require (¬(now = 0 ∨ issuance.operationId ∈ s.operations ∨
      issuance.issuanceNonce ∈ s.noteIssuances))
    "confidential issuance reuses an operation/nonce or lacks consensus time"
  let issuer ← okOr (s.csdIssuers.lookup issuance.issuerId) "confidential issuer is absent"
  require (issuer.status = .active) "confidential issuer is not active"
  order.verify api (issuer.definition issuance.issuerId) now
  let s ← s.ensureIdentity api order.identity issuer.permittedAssetIds
  let s ← s.insertNoteWithConfidentiality api.toNoteApi issuance.output true
  pure { s with
    noteIssuances := s.noteIssuances.insert issuance.issuanceNonce statement
    operations := s.operations.insert issuance.operationId statement }

def canonicalRing (api : NoteApi V) (s : VmState V R) (spend : NoteSpend V) :
    Result (List (NoteOutput V)) := do
  spend.validate api
  require (¬(spend.inputLockId ≠ 0 ∨ spend.serialPoint ∈ s.noteSerials))
    "confidential input is locked or already spent"
  require (∀ note ∈ spend.outputs, note.noteId ∉ s.notes)
    "confidential spend reuses an existing output"
  mapEach (fun id => do
    require (id ∈ s.confidential.notes) "confidential ring contains a legacy or absent note"
    let record ← okOr (s.notes.lookup id) "confidential ring note is absent"
    require (record.lockId = 0) "confidential ring contains a reservation-locked note"
    pure (record.output id)) spend.ring

def applyConfidentialSpend (api : NoteApi V) (s : VmState V R) (spend : NoteSpend V)
    (deadline : ℕ) (statement : Id) : Result (VmState V R) := do
  let s ← s.applyNoteSpendSerial spend deadline statement
  s.insertNotes api true spend.outputs

def transferConfidential (order : ConfidentialTransfer V) (approval : Approval) :
    Result (VmState V R) := do
  proofBytes order.spendProof maxWire
  let statement ← order.statement api
  s.authorize api.toVmApi approval statement
  require (¬(order.context.beforeRoot ≠ api.root s ∨ now = 0 ∨ order.context.deadline < now ∨
      order.context.operationId ∈ s.operations))
    "confidential transfer has a stale parent, expired deadline or repeated operation"
  let ring ← s.canonicalRing api.toNoteApi order.spend
  order.verify api ring
  let s ← s.ensureIdentity api order.identity s.allAssets
  let s ← s.applyConfidentialSpend api.toNoteApi order.spend order.context.deadline statement
  pure { s with operations := s.operations.insert order.context.operationId statement }

def reserveConfidential (order : ConfidentialReservation V) (approval : Approval) :
    Result (VmState V R) := do
  let r := order.reservation
  proofBytes r.relationProof (maxWire + 16)
  proofBytes r.spendProof maxWire
  let statement ← order.statement api
  s.authorize api.toVmApi approval statement
  let binding := r.binding
  let scopeKey ← binding.scope.key api.toNoteApi
  require (¬(s.applicationReserveScopes.lookup scopeKey ≠ some binding.scope ∨
      s.confidential.identities.lookup binding.assetId ≠ some order.identity ∨
      now < binding.validFrom ∨ binding.validUntil < now))
    "confidential reserve scope, asset identity or lifetime is not canonical"
  require (¬s.ReserveUsed r) "confidential reservation or request was already used"
  let facility ← okOr (s.creditFacilities.lookup binding.facilityId)
    "confidential facility is absent"
  require (Funds facility r now) "confidential reserve differs from its live facility state"
  let ring ← s.canonicalRing api.toNoteApi r.escrow.spend
  order.verifyPublic api ring
  let facility ← advanceFunding facility r.transition "confidential facility sequence overflow"
  let s ← (s.bookApplication facility r).applyConfidentialSpend api.toNoteApi r.escrow.spend
    binding.validUntil statement
  let escrow ← okOr order.escrowOutput "confidential escrow is absent"
  let s : VmState V R := { s with confidential := { s.confidential with
    reservationValues := s.confidential.reservationValues.insert binding.holdId
      escrow.valueCommitment } }
  pure (s.storeApplication r statement)

def storeConversions (order : ConfidentialFill V) (leg : FillLeg) (converted : ConvertedLeg V) :
    VmState V R :=
  let head := order.fill.head leg
  let conversions := order.conversions leg
  let delivered := s.confidential.claimAssets.insert converted.delivery.claimId
    conversions.delivery.assetOpening
  { s with confidential := { s.confidential with
    claimAssets := if head.close then
        delivered.insert converted.refund.claimId conversions.refund.assetOpening
      else delivered
    refunds := if head.close then s.confidential.refunds.erase head.holdId
      else s.confidential.refunds.insert head.holdId converted.retained } }

def confidentialFill (optimistic : ApplicationNoteFill V → Check) (s : VmState V R)
    (now : ℕ) (order : ConfidentialFill V) : Result (VmState V R) := do
  optimistic order.fill
  let scopeKey ← order.fill.scope.key api.toNoteApi
  let scope ← okOr (s.applicationReserveScopes.lookup scopeKey)
    "confidential fill scope is not registered"
  let securities ← okOr (s.confidential.identities.lookup order.fill.securitiesAsset)
    "confidential fill asset identity is absent"
  let cash ← okOr (s.confidential.identities.lookup order.fill.cashAsset)
    "confidential fill asset identity is absent"
  let verified ← order.verify api scope securities cash now
  let s ← s.applyFillInner api.toFillApi order.fill (api.root s) now (some verified.verified)
  pure ((s.storeConversions order .securities verified.securities).storeConversions order .cash
    verified.cash)

end

end VmState
end DeFMI
