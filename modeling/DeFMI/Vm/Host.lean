import DeFMI.Boj.Book
import DeFMI.Governance
import DeFMI.Participant.Registry
import DeFMI.Vm.Confidential
set_option autoImplicit false

/-!
The whole replicated state: the ledger together with the books that are hosted
next to it, and the operations on those books.
-/

namespace DeFMI
open Lib Participant

/-- `O` is the component that keeps optimistic claims. -/
structure HostState (V O : Type) extends VmState V (ParticipantRegistry V) where
  deploymentCryptoPolicy : Option DeploymentCryptoPolicy
  optimistic : O
  transitionCount : ℕ
  appliedTransactions : Finset Id
  applicationStates : Table String Bytes
  crossDomain : CrossDomainBook
  crossDomainLocalDomain : Option Domain
  crossDomainCommittees : Table (Id × ℕ) Committee
  bojLiquidity : Boj.BojLiquidityBook

structure OptimisticPolicy where
  verifier : Id
  bondAsset : Id
  raw : Bytes

structure RegisteredExecution where
  beforeState : Id
  raw : Bytes

structure BondTransfer where
  owner : Id
  asset : Id
  amount : ℕ
  beforeBalance : ℕ
  blinding : EncodedScalar
  withdraw : Bool

structure OptimisticAccountSettlement (V : Type) where
  order : SettlementOrder V
  reference : OptimisticSettlementReference

structure OptimisticApi (V O : Type) where
  quoteVerifier : Id
  policies : O → List OptimisticPolicy
  validate : O → Check
  enrollPolicy : O → OptimisticPolicy → Result O
  registerExecution : O → RegisteredExecution → Result O
  creditEscrow : O → Id → Id → ℕ → Result O
  withdrawEscrow : O → Id → Id → ℕ → Result O
  propose : O → Bytes → ℕ → Result O
  challenge : O → Bytes → ℕ → Result O
  claimVerifier : O → Id → Option Id
  answer : O → Id → Bytes → Id → ℕ → Result O
  advance : O → Id → ℕ → Result O
  requireFinalized : O → Id → Bytes → Id → Check
  requireFinalizedQuote : O → QuoteAuthorization V → Check
  enrollDigest : OptimisticPolicy → Result Id
  registerDigest : RegisteredExecution → Result Id
  bondDigest : BondTransfer → Result Id
  challengeDigest : Bytes → Result Id
  answerDigest : Id → Bytes → Result Id
  advanceDigest : Id → Result Id
  accountSettlementDigest : OptimisticAccountSettlement V → Result Id

structure ApplicationRuntime (V O : Type) where
  optimisticVerifier : Id → Result Id
  verifyOptimisticSettlement : OptimisticSettlementReference → Id → Check
  verifyOptimisticTransition : OptimisticSettlementReference → Check
  validateState : HostState V O → Check
  execute : HostState V O → Bytes → ℕ → Result (HostState V O)

def noApplications {V O : Type} : ApplicationRuntime V O where
  optimisticVerifier _ :=
    .error "this application has no installed optimistic challenge verifier"
  verifyOptimisticSettlement _ _ :=
    .error "this application has no optimistic settlement output verifier"
  verifyOptimisticTransition _ :=
    .error "this application has no optimistic account transition verifier"
  validateState s := require (s.applicationStates.entries = [])
    "this VM has no runtime for the stored application state"
  execute _ _ _ := .error "this VM has no application runtime"

structure HostApi (V O : Type) extends ConfidentialApi V (ParticipantRegistry V) where
  stateRoot : HostState V O → Id
  governance : Governance.GovernanceApi DeploymentCryptoPolicy
  authorizer : Governance.QuorumAuthorizer DeploymentCryptoPolicy
  decodeApproval : Bytes → Result QuorumApproval
  policyValid : DeploymentCryptoPolicy → Check
  participants : ParticipantApi V
  optimism : OptimisticApi V O
  cross : CrossCrypto
  domainId : Domain → Id
  domainStatement : Domain → Id
  committeeStatement : Committee → Id
  crossDomainStatement : String → Bytes → Bytes → Bytes → Id
  prepareDigest : PrepareLeg → Bytes
  handleCommitment : Id → Bytes
  assetIdCommitment : Id → Bytes
  bojOperationStatement : Boj.BojOp → Result Id

def crossDomainResult (x : CrossResult (CrossDomainBook × Bytes)) : Result CrossDomainBook :=
  (x.map Prod.fst).mapError CrossDomainError.text

namespace HostState

variable {V O : Type} [AddCommGroup V] [DecidableEq V]

/-- The interface of the ledger with everything it leaves open: the root covers
the other books too, signer epochs go by the time of the block, a quote is final in the
optimistic book, and the registry is the hosted one. -/
def ledgerApi (api : HostApi V O) (s : HostState V O) (now : ℕ) :
    ConfidentialApi V (ParticipantRegistry V) :=
  { api.toConfidentialApi with
    root t := api.stateRoot { s with toVmState := t }
    quorum statement root bytes := do
      let approval ← api.decodeApproval bytes
      require ((api.authorizer.atTime now).verify api.governance statement root approval = true)
        "k-of-n DeFMI approval is invalid"
    verifyQuote quote := do
      let digest ← api.verifyQuote quote
      api.optimism.requireFinalizedQuote s.optimistic quote
      pure digest
    automaticTransition registry evidence kind time :=
      (ParticipantRegistry.automaticTransition api.participants evidence kind time).onCopy
        registry }

def onLedger (s : HostState V O)
    (f : VmState V (ParticipantRegistry V) → Result (VmState V (ParticipantRegistry V))) :
    Result (HostState V O) := do
  let t ← f s.toVmState
  pure { s with toVmState := t }

def authorizeAt (api : HostApi V O) (s : HostState V O) (now : ℕ) (approval : Approval)
    (statement : Id) : Check :=
  s.toVmState.authorize (ledgerApi api s now).toVmApi approval statement

open Governance.QuorumAuthorizer in
/-- What is authorized was approved by enough enrolled nodes, with keys valid at the time of
the block. -/
theorem authorizeAt_approved {api : HostApi V O} {s : HostState V O} {now : ℕ} {approval : Approval}
    {statement : Id} {signed : Bytes → Bytes → Prop} (hideal : api.governance.Unforgeable signed)
    (h : s.authorizeAt api now approval statement = .ok ()) :
    ∃ quorum members, (api.authorizer.atTime now).Approved api.governance signed statement
      (api.stateRoot s) quorum now members := by
  simp only [authorizeAt, VmState.authorize, ledgerApi, ok_iff] at h
  obtain ⟨_, quorum, _, hverified⟩ := h
  obtain ⟨time, members, happroved⟩ := verify_approved hideal hverified
  obtain rfl : now = time := Option.some.inj happroved.time
  exact ⟨quorum, members, happroved⟩

variable [Module Scalar V]

section Optimistic

variable (api : HostApi V O) (application : ApplicationRuntime V O) (s : HostState V O) (now : ℕ)

/-- The quote verifier is built in, every other one has to be installed. -/
def VerifierInstalled (verifier : Id) : Result Bool :=
  if verifier = api.optimism.quoteVerifier then .ok true
  else (application.optimisticVerifier verifier).map (fun installed => installed = verifier)

def enroll (policy : OptimisticPolicy) (approval : Approval) : Result (HostState V O) := do
  let installed ← VerifierInstalled api application policy.verifier
  require (installed = true) "optimistic policy has no installed canonical challenge verifier"
  require (s.assetActive policy.bondAsset = true) "optimistic collateral asset is not active"
  let digest ← api.optimism.enrollDigest policy
  s.authorizeAt api now approval digest
  let optimistic ← api.optimism.enrollPolicy s.optimistic policy
  pure { s with optimistic }

def register (execution : RegisteredExecution) (approval : Approval) : Result (HostState V O) := do
  require (execution.beforeState = api.stateRoot s)
    "optimistic execution snapshot is not the canonical parent"
  let digest ← api.optimism.registerDigest execution
  s.authorizeAt api now approval digest
  let optimistic ← api.optimism.registerExecution s.optimistic execution
  pure { s with optimistic }

def bondAfter (transfer : BondTransfer) : Result ℕ :=
  if transfer.withdraw then do
    require (transfer.beforeBalance + transfer.amount ≤ u64Max) "bond withdrawal balance overflow"
    pure (transfer.beforeBalance + transfer.amount)
  else do
    require (transfer.amount ≤ transfer.beforeBalance) "insufficient collateral account balance"
    pure (transfer.beforeBalance - transfer.amount)

def bondEscrow (transfer : BondTransfer) : Result O :=
  if transfer.withdraw then
    api.optimism.withdrawEscrow s.optimistic transfer.asset transfer.owner transfer.amount
  else api.optimism.creditEscrow s.optimistic transfer.asset transfer.owner transfer.amount

def bondBlinding : EncodedScalar → Result Scalar
  | .canonical blind => .ok blind
  | .malformed _ => .error "bond blinding is not canonical"

/-- Moves a public amount between a collateral account and the escrow of its owner. -/
def bond (api : HostApi V O) (s : HostState V O) (now : ℕ) (transfer : BondTransfer)
    (approval : Approval) : Result (HostState V O) := do
  require (¬(transfer.amount = 0 ∨ transfer.owner = 0)) "optimistic bond transfer is empty"
  let digest ← api.optimism.bondDigest transfer
  s.authorizeAt api now approval digest
  let account ← okOr (s.accounts.lookup transfer.owner) "optimistic collateral account is absent"
  require (account.assetId = transfer.asset ∧ s.assetActive transfer.asset = true)
    "optimistic collateral account has another or inactive asset"
  let blind ← bondBlinding transfer.blinding
  require (.point ((transfer.beforeBalance : Scalar) • api.key.g + blind • api.key.h) =
      account.commitment) "optimistic bond funding does not open the current account balance"
  let after ← bondAfter transfer
  let sequence ← okOr (checkedSucc account.sequence) "collateral sequence overflow"
  let optimistic ← s.bondEscrow api transfer
  let commitment : CompressedPoint V :=
    .point ((after : Scalar) • api.key.g + blind • api.key.h)
  pure { s with
    optimistic
    accounts := s.accounts.insert transfer.owner { account with commitment, sequence } }

def propose (proposal : Bytes) : Result (HostState V O) := do
  let optimistic ← api.optimism.propose s.optimistic proposal now
  pure { s with optimistic }

def challenge (api : HostApi V O) (s : HostState V O) (now : ℕ) (challenge : Bytes) :
    Result (HostState V O) := do
  let _ ← api.optimism.challengeDigest challenge
  let optimistic ← api.optimism.challenge s.optimistic challenge now
  pure { s with optimistic }

def answerVerifier (verifier : Id) : Result Id :=
  if verifier = api.optimism.quoteVerifier then .ok verifier
  else application.optimisticVerifier verifier

def answer (api : HostApi V O) (application : ApplicationRuntime V O) (s : HostState V O) (now : ℕ)
    (claim : Id) (proof : Bytes) (attempt : Id) : Result (HostState V O) := do
  require (attempt ≠ 0) "optimistic answer attempt is empty"
  let _ ← api.optimism.answerDigest claim proof
  let verifier ← okOr (api.optimism.claimVerifier s.optimistic claim) "unknown optimistic claim"
  let installed ← answerVerifier api application verifier
  let optimistic ← api.optimism.answer s.optimistic claim proof installed now
  pure { s with optimistic }

def advance (api : HostApi V O) (s : HostState V O) (now : ℕ) (claim attempt : Id) :
    Result (HostState V O) := do
  require (attempt ≠ 0) "optimistic advance attempt is empty"
  let optimistic ← api.optimism.advance s.optimistic claim now
  let _ ← api.optimism.advanceDigest claim
  pure { s with optimistic }

def verifyOptimistic (fill : ApplicationNoteFill V) : Check :=
  match fill.optimistic with
  | none => .ok ()
  | some reference => do
    api.optimism.requireFinalized s.optimistic reference.claim reference.context
      reference.outputRoot
    application.verifyOptimisticSettlement reference fill.mpcResultDigest

def settlementDigest (settlement : OptimisticAccountSettlement V) : Result Id := do
  settlement.order.body
  let reference := settlement.reference
  require (¬(reference.claim = 0 ∨ reference.outputRoot = 0 ∨
      reference.outputRoot ≠ settlement.order.marketStatementDigest ∨
      reference.publicOutput = [] ∨ maxProofBytes < reference.publicOutput.length))
    "account settlement differs from its optimistic transition"
  api.optimism.accountSettlementDigest settlement

def settleOptimistic (settlement : OptimisticAccountSettlement V) (approval : Approval) :
    Result (HostState V O) := do
  let statement ← settlementDigest api settlement
  s.authorizeAt api now approval statement
  let reference := settlement.reference
  api.optimism.requireFinalized s.optimistic reference.claim reference.context reference.outputRoot
  application.verifyOptimisticTransition reference
  s.onLedger fun t => t.applySettlementOrder settlement.order now statement

end Optimistic

section CrossDomain

inductive LegAction where
  | prepare
  | claim
  | refund

def LegAction.name : LegAction → String
  | .prepare => "prepare"
  | .claim => "claim"
  | .refund => "refund"

section
variable (api : HostApi V O) (s : HostState V O) (now : ℕ) (p : PrepareLeg) (order : SettlementOrder V)

def LegAction.statement : LegAction → Bytes
  | .prepare => p.reserveTransferDigest
  | .claim => p.claimTransferDigest
  | .refund => p.refundTransferDigest

def LegAction.handles : LegAction → List Bytes
  | .prepare => [p.ownerCommitment, p.escrowCommitment]
  | .claim => [p.escrowCommitment, p.destinationCommitment]
  | .refund => [p.escrowCommitment, p.ownerCommitment]

/-- A reserve has to end with the arming window, the others may not end early. -/
def LegAction.checkDeadline (deadline : ℕ) : LegAction → Check
  | .prepare => require (deadline = p.armDeadline)
      "cross-domain transfer deadline differs from its prepared deadline"
  | .claim => require (p.claimDeadline ≤ deadline)
      "cross-domain claim order expires before its release target"
  | .refund => require (p.refundAfter ≤ deadline)
      "cross-domain refund order expires before refund becomes available"

def OnAssetRail : Prop :=
  ∀ first ∈ order.legs.head?, (∀ leg ∈ order.legs, leg.assetId = first.assetId) ∧
    api.assetIdCommitment first.assetId = p.assetCommitment

instance (api : HostApi V O) (p : PrepareLeg) (order : SettlementOrder V) :
    Decidable (OnAssetRail api p order) := inferInstanceAs (Decidable (∀ _ ∈ _, _ ∧ _))

def ensureCrossDomainOrder (action : LegAction) : Result Id := do
  let statement ← order.statement api.facility
  require (¬(statement.1 ≠ action.statement p ∨
      order.paymentInstructionDigest.1 ≠ p.localInstructionDigest ∨
      order.proofDigest.1 ≠ p.localRelationProofDigest ∨ order.legs.length ≠ 2))
    "cross-domain transfer differs from its private zkPI projection"
  action.checkDeadline p order.deadline
  require (OnAssetRail api p order) "cross-domain transfer is on the wrong asset rail"
  require ((order.legs.map (fun leg => api.handleCommitment leg.handle)).toFinset =
      (action.handles p).toFinset)
    "cross-domain transfer uses the wrong source, escrow, or destination"
  pure statement

def checkLocalLeg (leg : StateLeg V) : Check := do
  let account ← okOr (s.accounts.lookup leg.handle) "cross-domain settlement names an unknown account"
  require (¬(account.assetId ≠ leg.assetId ∨ account.commitment ≠ leg.beforeCommitment ∨
      account.sequence ≠ leg.beforeSequence))
    "cross-domain settlement was proved against stale account state"
  require (s.assetActive leg.assetId = true)
    "cross-domain settlement uses an inactive or unknown asset"
  require (account.sequence < u64Max) "account sequence overflow"

def validateLocalSettlement (now : ℕ) : Check := do
  require (now ≤ order.deadline) "cross-domain settlement order has expired"
  require (order.operationId ∉ s.operations) "cross-domain settlement operation was already used"
  require (order.nullifier ∉ s.nullifiers) "cross-domain settlement nullifier was already used"
  forEach s.checkLocalLeg order.legs

def applyLocalSettlement (statement : Id) : Result (HostState V O) :=
  s.onLedger fun t => do
    let t ← foldEach VmState.applyLeg
      { t with nullifiers := t.nullifiers.insert order.nullifier ⟨order.deadline, statement⟩ }
      order.legs
    pure { t with operations := t.operations.insert order.operationId statement }

def registerCrossDomainDomain (domain : Domain) (approval : Approval) : Result (HostState V O) := do
  require (s.crossDomainLocalDomain = none)
    "cross-domain local domain is immutable once configured"
  require (¬(domain.chainId = zeroWord ∨ domain.defmiId = zeroWord))
    "cross-domain local domain contains a zero identifier"
  s.authorizeAt api now approval (api.domainStatement domain)
  pure { s with crossDomainLocalDomain := some domain }

def registerCrossDomainCommittee (committee : Committee) (approval : Approval) :
    Result (HostState V O) := do
  (committee.validate api.cross).mapError CrossDomainError.text
  let home ← okOr s.crossDomainLocalDomain "cross-domain local domain is not configured"
  require (committee.domain ≠ home) "remote committee cannot be registered as the local domain"
  s.authorizeAt api now approval (api.committeeStatement committee)
  let key := (api.domainId committee.domain, committee.epoch)
  require (key ∉ s.crossDomainCommittees) "cross-domain committee epoch is already registered"
  pure { s with crossDomainCommittees := s.crossDomainCommittees.insert key committee }

def prepareCrossDomain (approval : Approval) : Result (HostState V O) := do
  p.validate.mapError CrossDomainError.text
  require (s.crossDomainLocalDomain = some p.localDomain)
    "cross-domain prepare names the wrong local DeFMI"
  require (∃ e ∈ s.crossDomainCommittees.entries, e.2.domain = p.remoteDomain)
    "cross-domain prepare has no registered remote finality committee"
  let transfer ← ensureCrossDomainOrder api p order .prepare
  s.validateLocalSettlement order now
  s.authorizeAt api now approval
    (api.crossDomainStatement LegAction.prepare.name p.localLegId (api.prepareDigest p) transfer.1)
  let crossDomain ← crossDomainResult (s.crossDomain.prepare api.cross p now)
  applyLocalSettlement { s with crossDomain } order transfer

def remoteCommittee (receipt : FinalityReceipt) : Result Committee :=
  okOr (s.crossDomainCommittees.lookup (api.domainId receipt.sourceDomain, receipt.validatorEpoch))
    "cross-domain receipt uses an unregistered committee epoch"

def armCrossDomain (localLegId : Bytes) (receipt : FinalityReceipt) : Result (HostState V O) := do
  let committee ← s.remoteCommittee api receipt
  let crossDomain ← crossDomainResult (s.crossDomain.arm api.cross localLegId receipt committee now)
  pure { s with crossDomain }

def preparedLeg (s : HostState V O) (localLegId : Bytes) : Result PrepareLeg := do
  let record ← okOr (s.crossDomain.legs.lookup localLegId) "unknown cross-domain leg"
  pure record.prepare

def claimCrossDomain (localLegId witness : Bytes) (order : SettlementOrder V)
    (approval : Approval) : Result (HostState V O) := do
  let p ← s.preparedLeg localLegId
  let transfer ← ensureCrossDomainOrder api p order .claim
  s.validateLocalSettlement order now
  s.authorizeAt api now approval
    (api.crossDomainStatement LegAction.claim.name localLegId transfer.1 p.localInstructionDigest)
  let crossDomain ← crossDomainResult (s.crossDomain.claim api.cross localLegId witness now)
  applyLocalSettlement { s with crossDomain } order transfer

def refundCrossDomain (localLegId : Bytes) (order : SettlementOrder V) (approval : Approval) :
    Result (HostState V O) := do
  let p ← s.preparedLeg localLegId
  let transfer ← ensureCrossDomainOrder api p order .refund
  s.validateLocalSettlement order now
  s.authorizeAt api now approval
    (api.crossDomainStatement LegAction.refund.name localLegId transfer.1 p.localInstructionDigest)
  let crossDomain ← crossDomainResult (s.crossDomain.refund api.cross localLegId now)
  applyLocalSettlement { s with crossDomain } order transfer

def observeCrossDomainClaim (localLegId : Bytes) (receipt : FinalityReceipt) :
    Result (HostState V O) := do
  let committee ← s.remoteCommittee api receipt
  let crossDomain ←
    crossDomainResult (s.crossDomain.observeRemoteClaim api.cross localLegId receipt committee now)
  pure { s with crossDomain }

end

end CrossDomain

def performBoj (api : HostApi V O) (s : HostState V O) (now : ℕ) (op : Boj.BojOp)
    (approval : Approval) : Result (HostState V O) := do
  let statement ← api.bojOperationStatement op
  s.authorizeAt api now approval statement
  let bojLiquidity ← (Boj.BojLiquidityBook.perform (now, op)).onCopy s.bojLiquidity
  pure { s with bojLiquidity }

section Participants

variable (api : HostApi V O) (s : HostState V O) (now : ℕ) (t : CreditFacilityTransition V)

def requestRegistry (request : RegistryRequest V) (approval : Approval) :
    Result (HostState V O) := do
  let statement ← request.statement api.participants
  s.authorizeAt api now approval statement
  let participantRegistry ← (request.run api.participants now).onCopy s.participantRegistry
  pure { s with participantRegistry }

/-- A lane that is opened together with its reserve covers exactly that reserve. -/
def LinksReserve (mandate : StandingMandate) (account : AccountBinding)
    (reservation : MandateReservation V) (t : CreditFacilityTransition V)
    (auth : ReservationAuthorization V) (underlying : Id) : Prop :=
  ¬(reservation.underlyingReservationDigest ≠ underlying ∨
    reservation.amountCommitment ≠ t.amountCommitment ∨ reservation.assetId ≠ auth.assetId ∨
    reservation.admissionReceiptDigest ≠
      (match auth.role with | .maker => 0 | .taker => auth.admissionReceiptDigest) ∨
    reservation.zkpiDigest ≠ auth.typedReserveDigest ∨
    reservation.limitProofDigest ≠ t.relationProofDigest ∨ mandate.role ≠ auth.role ∨
    mandate.participantId ≠ account.participantId ∨
    mandate.limitPolicyDigest ≠ auth.authorizationDigest ∨
    mandate.settlementPolicyDigest ≠ auth.mandateDigest ∨
    account.accountCommitment ≠ auth.entityCommitment ∨ account.assetId ≠ auth.assetId)

instance (mandate : StandingMandate) (account : AccountBinding)
    (reservation : MandateReservation V) (t : CreditFacilityTransition V)
    (auth : ReservationAuthorization V) (underlying : Id) :
    Decidable (LinksReserve mandate account reservation t auth underlying) :=
  inferInstanceAs (Decidable (¬_))

def validateUnderlyingMandateLink (reservation : MandateReservation V)
    (t : CreditFacilityTransition V) (auth : ReservationAuthorization V) (underlying : Id) :
    Check := do
  let mandate ← okOr (s.participantRegistry.mandates.lookup reservation.mandateId)
    "participant reservation names an unknown standing mandate"
  let account ← okOr (s.participantRegistry.accountBindings.lookup reservation.accountBindingId)
    "participant reservation names an unknown account binding"
  require (LinksReserve mandate account reservation t auth underlying)
    "participant mandate does not bind the exact underlying reserve, account, policy and zkPI"

inductive Custody (V : Type) where
  | account (escrow : ReservationEscrow V)
  | note (escrow : NoteReservationEscrow V)

def reserveUnderlying (auth : ReservationAuthorization V) (approval : Approval) :
    Custody V → Result (HostState V O)
  | .account escrow => s.onLedger fun ledger =>
      ledger.reserveProduct (ledgerApi api s now).toProductApi now t auth escrow approval
  | .note escrow => s.onLedger fun ledger =>
      ledger.reserveNoteProduct (ledgerApi api s now).toProductApi now t auth escrow approval

/-- The reserve and its lane in one transaction: the first approval is for the
initial root, the second for the root after the reserve. -/
def reserveProductWithMandate (auth : ReservationAuthorization V) (custody : Custody V)
    (reservation : MandateReservation V) (underlyingApproval mandateApproval : Bytes)
    (expectedBeforeRoot expectedAfterUnderlyingRoot : Id) : Result (HostState V O) := do
  t.body
  auth.body t
  let statement ← reservation.statement api.participants
  let s ← s.reserveUnderlying api now t auth ⟨expectedBeforeRoot, underlyingApproval⟩ custody
  let underlying ← auth.statement api.toCreditDigests t
  s.validateUnderlyingMandateLink reservation t auth underlying
  require (expectedAfterUnderlyingRoot = api.stateRoot s)
    "underlying reservation produced an unexpected intermediate root"
  s.authorizeAt api now ⟨expectedAfterUnderlyingRoot, mandateApproval⟩ statement
  let participantRegistry ← (ParticipantRegistry.reserveUnderMandate api.participants reservation
    now).onCopy s.participantRegistry
  pure { s with participantRegistry }

end Participants
end HostState
end DeFMI
