import DeFMI.Vm.Host
set_option autoImplicit false

/-!
The machine: one transaction at a time is dispatched to its handler on a copy of
the state, and the copy replaces the state only if it is valid.
-/

namespace DeFMI
open Lib Participant InPlace

inductive LedgerTx (V : Type) where
  | asset (definition : AssetDefinition) (approval : Approval)
  | account (opening : AccountOpening V) (approval : Approval)
  | guarantor (definition : GuarantorDefinition) (approval : Approval)
  | creditGrant (grant : CreditFacilityGrant V) (approval : Approval)
  | creditTransition (transition : CreditFacilityTransition V) (approval : Approval)
  | creditControl (control : CreditFacilityControl) (approval : Approval)
  | creditAmendment (amendment : CreditFacilityAmendment V) (approval : Approval)
  | settlement (order : SettlementOrder V) (approval : Approval)
  | csdIssuer (issuer : CsdIssuerDefinition) (approval : Approval)
  | csdIssuerControl (control : CsdIssuerControl) (approval : Approval)
  | note (issuance : NoteIssuance V) (approval : Approval)
  | standingNotePool (registration : StandingNotePoolRegistration V) (approval : Approval)
  | noteClaimMaterialization (materialization : NoteClaimMaterialization V) (approval : Approval)
  | noteClaimRedemption (redemption : NoteClaimRedemption V)
  | noteSettlement (order : NoteSettlementOrder V) (approval : Approval)
  | admissionCommittee (plan : AdmissionCommitteePlan) (approval : Approval)
  | settlementVerifier (config : SettlementVerifierRecord) (approval : Approval)
  | admissionBatch (plan : AdmissionBatchPlan) (lanes : List (List Bytes)) (approval : Approval)
  | admissionAdvance (advance : AdmissionSlotAdvance) (approval : Approval)
  | productReservation (transition : CreditFacilityTransition V)
      (authorization : ReservationAuthorization V) (escrow : ReservationEscrow V)
      (approval : Approval)
  | noteProductReservation (transition : CreditFacilityTransition V)
      (authorization : ReservationAuthorization V) (escrow : NoteReservationEscrow V)
      (approval : Approval)
  | productRelease (order : ProductReleaseOrder V) (approval : Approval)
  | productSettlement (order : ProductSettlementOrder V) (approval : Approval)
  | productSettlementBatch (batch : ProductSettlementBatch) (orders : List (ProductSettlementOrder V))
      (approval : Approval)
  | noteProduct (tx : NoteProductTx V)
  | applicationReserveScope (scope : ApplicationReserveScope) (approval : Approval)
  | applicationNoteReservation (reservation : ApplicationNoteReservation V) (approval : Approval)
  | applicationNoteFill (fill : ApplicationNoteFill V)
  | applicationNoteFillBatch (batch : ApplicationNoteFillBatch V)
  | applicationNoteRelease (release : ApplicationNoteRelease)
  | confidentialAssetIdentity (identity : AssetIdentity V) (approval : Approval)
  | confidentialNote (issuance : ConfidentialIssuance V) (approval : Approval)
  | confidentialNoteTransfer (transfer : ConfidentialTransfer V) (approval : Approval)
  | confidentialNoteReservation (reservation : ConfidentialReservation V) (approval : Approval)
  | confidentialNoteFill (fill : ConfidentialFill V)

/-- What the parameters of an envelope decode to. A method without a handler and
parameters that do not parse are refused when they are dispatched. -/
inductive Tx (V : Type) where
  | ledger (tx : LedgerTx V)
  | optimisticPolicy (policy : OptimisticPolicy) (approval : Approval)
  | optimisticExecution (execution : RegisteredExecution) (approval : Approval)
  | optimisticBond (transfer : BondTransfer) (approval : Approval)
  | optimisticProposal (proposal : Bytes)
  | optimisticChallenge (challenge : Bytes)
  | optimisticAnswer (claim : Id) (proof : Bytes) (attempt : Id)
  | optimisticAdvance (claim attempt : Id)
  | optimisticAccountSettlement (settlement : OptimisticAccountSettlement V) (approval : Approval)
  | crossDomainDomain (domain : Domain) (approval : Approval)
  | crossDomainCommittee (committee : Committee) (approval : Approval)
  | crossDomainPrepare (leg : PrepareLeg) (order : SettlementOrder V) (approval : Approval)
  | crossDomainArm (localLegId : Bytes) (receipt : FinalityReceipt)
  | crossDomainClaim (localLegId witness : Bytes) (order : SettlementOrder V) (approval : Approval)
  | crossDomainRefund (localLegId : Bytes) (order : SettlementOrder V) (approval : Approval)
  | crossDomainObserveClaim (localLegId : Bytes) (receipt : FinalityReceipt)
  | boj (op : Boj.BojOp) (approval : Approval)
  | registry (request : RegistryRequest V) (approval : Approval)
  | participantProductReservation (transition : CreditFacilityTransition V)
      (authorization : ReservationAuthorization V) (custody : HostState.Custody V)
      (reservation : MandateReservation V) (underlyingApproval mandateApproval : Bytes)
      (expectedBeforeRoot expectedAfterUnderlyingRoot : Id)
  | application (params : Bytes)
  | unsupported
  | malformed (error : String)

structure TransactionEnvelope (V : Type) where
  method : String
  params : Tx V

structure TransitionReceipt where
  transactionId : Id
  beforeRoot : Id
  afterRoot : Id
  deriving DecidableEq

/-- Canonical bytes decode to one envelope, and its identifier is their digest. -/
structure MachineApi (V O : Type) extends HostApi V O where
  decode : Bytes → Result (TransactionEnvelope V)
  transactionId : Bytes → Id
  idText : Id → String

section Ledger

variable {V R : Type} [AddCommGroup V] [Module Scalar V] [DecidableEq V]

def VmState.execute (api : ConfidentialApi V R)
    (optimistic : ApplicationNoteFill V → Check) (s : VmState V R) (now : ℕ) :
    LedgerTx V → Result (VmState V R)
  | .asset d approval => s.registerAsset api.toLinesApi d approval
  | .account o approval => s.openAccount api.toLinesApi o approval
  | .guarantor d approval => s.registerGuarantor api.toLinesApi d approval
  | .creditGrant g approval => s.grantCredit api.toLinesApi now g approval
  | .creditTransition t approval => s.transitionCredit api.toLinesApi now t approval
  | .creditControl c approval => s.controlCredit api.toLinesApi now c approval
  | .creditAmendment a approval => s.amendCredit api.toLinesApi now a approval
  | .settlement o approval => s.settle api.toLinesApi now o approval
  | .csdIssuer d approval => s.registerCsdIssuer api.toNotesApi now d approval
  | .csdIssuerControl c approval => s.controlCsdIssuer api.toNotesApi c approval
  | .note i approval => s.issueNote api.toNotesApi now i approval
  | .standingNotePool r approval => s.registerStandingNotePool api.toNotesApi now r approval
  | .noteClaimMaterialization m approval => s.materializeNoteClaim api.toNotesApi m approval
  | .noteClaimRedemption r => s.redeemNoteClaim api.toNotesApi now r
  | .noteSettlement o approval => s.settleNotes api.toNotesApi now o approval
  | .admissionCommittee plan approval =>
    s.registerAdmissionCommittee api.toAdmissionApi now plan approval
  | .settlementVerifier config approval =>
    s.registerSettlementVerifier api.toAdmissionApi now config approval
  | .admissionBatch plan lanes approval =>
    s.registerAdmissionBatch api.toAdmissionApi now plan lanes approval
  | .admissionAdvance a approval => s.advanceAdmission api.toAdmissionApi now a approval
  | .productReservation t auth escrow approval =>
    s.reserveProduct api.toProductApi now t auth escrow approval
  | .noteProductReservation t auth escrow approval =>
    s.reserveNoteProduct api.toProductApi now t auth escrow approval
  | .productRelease o approval => s.releaseProduct api.toProductApi now o approval
  | .productSettlement o approval => s.settleProduct api.toProductApi now o approval
  | .productSettlementBatch batch orders approval =>
    s.settleProductBatch api.toProductApi now batch orders approval
  | .noteProduct tx => s.executeNoteProduct api.toVmApi now tx
  | .applicationReserveScope scope approval => s.registerScope api.toReserveApi scope approval
  | .applicationNoteReservation r approval => s.reserveApplication api.toReserveApi now r approval
  | .applicationNoteFill order => s.fill api.toFillApi optimistic now order
  | .applicationNoteFillBatch batch => s.fillBatch api.toFillApi optimistic now batch
  | .applicationNoteRelease order => s.releaseApplication api.toFillApi now order
  | .confidentialAssetIdentity identity approval => s.registerIdentity api identity approval
  | .confidentialNote issuance approval => s.issueConfidential api now issuance approval
  | .confidentialNoteTransfer order approval => s.transferConfidential api now order approval
  | .confidentialNoteReservation order approval => s.reserveConfidential api now order approval
  | .confidentialNoteFill order => s.confidentialFill api optimistic now order

end Ledger

namespace HostState

variable {V O : Type} [AddCommGroup V] [Module Scalar V] [DecidableEq V]

section
variable (api : HostApi V O) (application : ApplicationRuntime V O) (s : HostState V O) (now : ℕ)

def ConfidentialEmpty : Prop :=
  s.confidential.identities.entries = [] ∧ s.confidential.notes = ∅ ∧
    s.confidential.reservationValues.entries = [] ∧ s.confidential.refunds.entries = [] ∧
    s.confidential.claimAssets.entries = []

instance (s : HostState V O) : Decidable s.ConfidentialEmpty :=
  inferInstanceAs (Decidable (_ ∧ _))

def validatePolicy : Check :=
  match s.deploymentCryptoPolicy with
  | none => .ok ()
  | some policy => do
    api.policyValid policy
    require (¬(policy.mode = .on ∧ ¬s.ConfidentialEmpty))
      "classical confidential assets cannot enter PQC-on state"

def validateCommittee (e : Sigma fun _ : Id × ℕ => Committee) : Check := do
  (e.2.validate api.cross).mapError
    (fun error => "invalid cross-domain committee: " ++ error.text)
  require (e.1 = (api.domainId e.2.domain, e.2.epoch))
    "cross-domain committee is stored under the wrong key"

def validateCrossDomain : Check := do
  s.crossDomain.validate.mapError (fun error => "invalid cross-domain state: " ++ error.text)
  require (¬(¬(s.crossDomain.legs.entries = [] ∧ s.crossDomain.consumedReceipts = ∅) ∧
      s.crossDomainLocalDomain = none)) "cross-domain state has no configured local domain"
  require (∀ home ∈ s.crossDomainLocalDomain,
      ∀ e ∈ s.crossDomain.legs.entries, e.2.prepare.localDomain = home)
    "cross-domain leg does not belong to the configured local domain"
  forEach (validateCommittee api) s.crossDomainCommittees.entries

def validate : Check := do
  api.optimism.validate s.optimistic
  s.validatePolicy api
  require (∀ e ∈ s.applicationStates.entries, e.1 ≠ "" ∧ e.2 ≠ [])
    "application state must have a namespace and nonempty canonical bytes"
  require (s.transitionCount = s.appliedTransactions.card)
    "state transition count does not match the transaction index"
  s.validateCrossDomain api
  s.bojLiquidity.validate.mapError (fun error => "invalid BOJ liquidity state: " ++ error.text)
  (s.participantRegistry.validate api.participants).mapError
    (fun error => "invalid participant registry state: " ++ error)
  s.toVmState.validate api.toNoteApi

def validateHostState : Check := do
  forEach (fun policy : OptimisticPolicy => do
    let installed ← VerifierInstalled api application policy.verifier
    require (installed = true) "stored optimistic policy has no installed verifier")
    (api.optimism.policies s.optimistic)
  application.validateState s

/-- Under a post-quantum policy no method of this build is enabled. -/
def requireSupportedDeploymentCryptoPath (method : String) : Check :=
  require (∀ policy ∈ s.deploymentCryptoPolicy, policy.mode ≠ .on)
    (method ++ " is not enabled under the fresh PQC-on transaction allowlist")

def dispatch (method : String) : Tx V → Result (HostState V O)
  | .ledger tx => s.onLedger fun ledger =>
      ledger.execute (ledgerApi api s now) (s.verifyOptimistic api application) now tx
  | .optimisticPolicy policy approval => s.enroll api application now policy approval
  | .optimisticExecution execution approval => s.register api now execution approval
  | .optimisticBond transfer approval => s.bond api now transfer approval
  | .optimisticProposal proposal => s.propose api now proposal
  | .optimisticChallenge statement => s.challenge api now statement
  | .optimisticAnswer claim proof attempt => s.answer api application now claim proof attempt
  | .optimisticAdvance claim attempt => s.advance api now claim attempt
  | .optimisticAccountSettlement settlement approval =>
    s.settleOptimistic api application now settlement approval
  | .crossDomainDomain domain approval => s.registerCrossDomainDomain api now domain approval
  | .crossDomainCommittee committee approval =>
    s.registerCrossDomainCommittee api now committee approval
  | .crossDomainPrepare leg order approval => s.prepareCrossDomain api now leg order approval
  | .crossDomainArm localLegId receipt => s.armCrossDomain api now localLegId receipt
  | .crossDomainClaim localLegId witness order approval =>
    s.claimCrossDomain api now localLegId witness order approval
  | .crossDomainRefund localLegId order approval =>
    s.refundCrossDomain api now localLegId order approval
  | .crossDomainObserveClaim localLegId receipt => s.observeCrossDomainClaim api now localLegId receipt
  | .boj op approval => s.performBoj api now op approval
  | .registry request approval => s.requestRegistry api now request approval
  | .participantProductReservation t auth custody reservation underlyingApproval mandateApproval
      expectedBeforeRoot expectedAfterUnderlyingRoot =>
    s.reserveProductWithMandate api now t auth custody reservation underlyingApproval
      mandateApproval expectedBeforeRoot expectedAfterUnderlyingRoot
  | .application params => application.execute s params now
  | .unsupported => .error (method ++ " has no Rust consensus executor in this build")
  | .malformed error => .error error

def execute (transaction : TransactionEnvelope V) : Result (HostState V O) := do
  s.requireSupportedDeploymentCryptoPath transaction.method
  s.dispatch api application now transaction.method transaction.params

def successor (transactionId : Id) (now : ℕ) (transaction : TransactionEnvelope V)
    (s : HostState V O) : Result (HostState V O) := do
  let next ← s.execute api application now transaction
  let transitionCount ← okOr (checkedSucc next.transitionCount) "state transition counter overflow"
  let next : HostState V O := { next with
    appliedTransactions := insert transactionId next.appliedTransactions
    transitionCount }
  next.validate api
  next.validateHostState api application
  pure next

end

def applyWithApplication (api : MachineApi V O) (application : ApplicationRuntime V O)
    (bytes : Bytes) (now : ℕ) : InPlace (HostState V O) TransitionReceipt := do
  check fun s => require (s.deploymentCryptoPolicy = api.authorizer.deploymentCryptoPolicy)
    "state deployment crypto policy differs from governance authority"
  check (validateHostState api.toHostApi application)
  let transaction ← check fun _ => api.decode bytes
  let transactionId := api.transactionId bytes
  check fun s => require (transactionId ∉ s.appliedTransactions)
    ("transaction " ++ api.idText transactionId ++ " was already applied")
  let beforeRoot ← check fun s => .ok (api.stateRoot s)
  let next ← check (successor api.toHostApi application transactionId now transaction)
  modify fun _ => next
  pure ⟨transactionId, beforeRoot, api.stateRoot next⟩

def apply (api : MachineApi V O) (bytes : Bytes) (now : ℕ) :
    InPlace (HostState V O) TransitionReceipt :=
  applyWithApplication api noApplications bytes now

end HostState
end DeFMI
