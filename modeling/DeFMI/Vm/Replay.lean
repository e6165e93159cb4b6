import DeFMI.Vm.FacilityConservation
import DeFMI.Vm.Steps
set_option autoImplicit false

/-!
A refused transaction leaves no trace, an accepted one only adds to the replay tables,
and no transaction is accepted twice.
-/

namespace DeFMI
open Lib Participant InPlace

namespace HostState

variable {V O : Type} [AddCommGroup V] [Module Scalar V] [DecidableEq V] {api : MachineApi V O}
  {application : ApplicationRuntime V O} {s t : HostState V O}

theorem Accepted.kept {bytes : Bytes} {now : ℕ} {envelope : TransactionEnvelope V}
    {next : HostState V O} (happ : application.AppendOnly)
    (h : Accepted api application bytes now s t envelope next) :
    s.ReplayKept t ∧ api.transactionId bytes ∈ t.appliedTransactions := by
  have hkept := dispatch_kept happ h.dispatched
  rw [h.result]
  refine ⟨{ hkept with applied := ?_ }, Finset.mem_insert_self _ _⟩
  exact hkept.applied.trans (Finset.subset_insert _ _)

theorem transact_kept (happ : application.AppendOnly) {bytes : Bytes} {now : ℕ}
    {receipt : TransitionReceipt}
    (h : applyWithApplication api application bytes now s = (.ok receipt, t)) : s.ReplayKept t := by
  obtain ⟨envelope, next, haccepted⟩ := applyWithApplication_ok h
  exact (haccepted.kept happ).1

/-- For every state, transaction and time: an error leaves the state as it was. A
success keeps every row of the replay tables, every note, and every claim up to its one
redemption. So no transaction identifier succeeds twice in a run. -/
theorem replay_append_only (api : MachineApi V O) (application : ApplicationRuntime V O)
    (happ : application.AppendOnly) :
    (∀ bytes now (s t : HostState V O) e,
      applyWithApplication api application bytes now s = (.error e, t) → t = s) ∧
    (∀ bytes now (s t : HostState V O) receipt,
      applyWithApplication api application bytes now s = (.ok receipt, t) → s.ReplayKept t) ∧
    ∀ (s : HostState V O) (calls : List (Bytes × ℕ)),
      ((history (transact api application) s calls).map
        (fun step => api.transactionId step.op.1)).Nodup := by
  refine ⟨fun bytes now s t e h => transact_restores (bytes, now) s e t h, ?_, ?_⟩
  · exact fun bytes now s t receipt h => transact_kept happ h
  · intro s calls
    rw [List.map_eq_flatMap]
    refine (nodup_history_keys (fun _ => True)
      (fun (s : HostState V O) id => id ∈ s.appliedTransactions)
      (fun step => [api.transactionId step.op.1]) ?_ ?_ calls trivial).1
    · intro s call receipt t _ h
      obtain ⟨envelope, next, haccepted⟩ := applyWithApplication_ok h
      obtain ⟨hkept, hmem⟩ := haccepted.kept happ
      refine ⟨trivial, fun id hid => hkept.applied hid, List.nodup_singleton _, ?_⟩
      intro id hid
      obtain rfl := List.mem_singleton.mp hid
      exact ⟨haccepted.fresh, hmem⟩
    · exact fun s call e t _ h => transact_restores call s e t h

end HostState

section Sample

/-- A ledger interface over the clear plane: hashes read a distinguishing field back and
verifiers accept. -/
def ledgerSample : ConfidentialApi Plane (ParticipantRegistry Plane) where
  toVmApi := vmVerifiers _
  committeePlan plan := plan.operationId
  batchPlan plan := plan.operationId
  slotAdvance advance := advance.operationId
  -- an attestation of `n` bytes is about the lane after the first `n`, two lanes to a slot
  admissionLane lane _ :=
    let n := (lane.headD []).length
    .ok ⟨1 + n / 2, 1 + n, 0, vmId 12, vmId 10, vmId 19, vmId 20⟩
  laneDigest lane _ _ := .ok (vmId (12 + lane.sequence.toUInt8))
  settlementVerifier config := config.venueId
  facility :=
    { transition := fun t => t.operationId
      reservation a _ := a.typedReserveDigest
      grant g := g.operationId
      control c := c.operationId
      relationContext t := t.operationId
      relationProof _ := vmId 53
      amendmentContext a := a.operationId
      amendment a := a.operationId
      amendmentProof _ := vmId 53
      escrow e := e.sourceHandle
      settlement o := o.operationId
      productRelease o := o.releaseNullifier
      productSettlement o := o.rfqNullifier
      productBatch b := b.batchId }
  noteReservationEscrow e _ _ := e.escrowNoteId
  csdIssuer d := d.issuerId
  csdControl c := c.operationId
  issuance i := i.operationId
  issuerSignatures _ _ := .ok ()
  standingNotePool r := r.operationId
  noteSettlement o := o.operationId
  materialization m := m.operationId
  redemption r := r.operationId
  domain := [1]
  claimKeyValidAt _ _ := .ok ()
  claimFingerprint _ := .ok (vmId 55)
  claimParticipantId _ := .ok []
  claimKeyId _ := .ok []
  authorizationSuite := 0
  settlementInstruction := 0
  claimAuthorization recipient _ := .ok ⟨recipient, recipient⟩
  recipientSignature _ _ _ := .ok true
  hybridSignature _ _ _ := true
  asset d := d.assetId
  account o := o.handle
  guarantor d := d.guarantorId
  ed25519Key _ := true
  weakKey _ := false
  guarantorSignature _ _ _ _ := .ok ()
  noteParams := ⟨(1, 0), (0, 1), fun _ => [], fun _ => 0⟩
  encodePoint _ := vmId 56
  decodeSpendProof _ := .error "no spend proof in this sample"
  spendDigest _ := vmId 57
  relationFromBytes _ := .error "no relation proof in this sample"
  scopeStatement scope := scope.applicationBinding
  applicationReservation r := r.transition.operationId
  fillMessage fill := fill.operationId
  fillSize _ := 1
  committeeKeys _ _ _ := .ok ()
  frostVerify _ _ _ := .ok ()
  pqVerify _ _ _ _ := .ok ()
  decodeInstruction _ := .error "no instruction in this sample"
  encodeInstruction _ := []
  verifyVenue _ _ _ _ _ := .ok ()
  applicationAssetLink _ _ _ _ := true
  decodeDvpProofs _ := .error "no proofs in this sample"
  openingContext context _ := .ok context
  claimRecipient _ context _ _ _ := .ok context
  fillGroup _ root _ := root
  fillBatch group _ := group
  batchSize _ := 1
  releaseMessage release := release.operationId
  identityStatement identity := identity.commitment
  issueRangeContext _ identity _ := identity.commitment
  issueProofDigest identity _ _ := identity.commitment
  confidentialIssue order := order.issuance.operationId
  decodeRange _ := .error "no range proof in this sample"
  transferContext context := context.operationId
  confidentialTransfer order := order.context.operationId
  reserveSpendContext _ transition _ := transition.operationId
  reserveValueContext order := order.reservation.transition.operationId
  confidentialReservation order := order.reservation.transition.operationId
  fillAssetContext fill := fill.operationId
  conversionContext fill _ := fill.operationId
  confidentialFill order := order.fill.operationId

open Governance.QuorumAuthorizer in
/-- A machine whose transaction `[n]` is the `n`-th of a list. -/
def machineSample (txs : List (Tx Plane)) : MachineApi Plane Unit where
  toConfidentialApi := ledgerSample
  stateRoot _ := vmId 90
  governance := signingApi
  authorizer := council
  decodeApproval bytes := .ok (councilApproval (bytes.headD 0) 90 ["a", "b"])
  policyValid _ := .ok ()
  participants := ⟨fun _ => vmId 58, fun r => r.operationId, fun c => c.operationId,
    fun r => r.operationId, fun b => b.operationId, fun s => s.operationId, fun b => b.operationId,
    fun m => m.operationId, fun c => c.operationId, fun r => r.operationId, fun t => t.operationId,
    fun lane _ _ _ => lane, fun _ => true, fun _ _ _ => true⟩
  optimism :=
    { quoteVerifier := vmId 59
      policies _ := []
      validate _ := .ok ()
      enrollPolicy o _ := .ok o
      registerExecution o _ := .ok o
      creditEscrow o _ _ _ := .ok o
      withdrawEscrow o _ _ _ := .ok o
      propose o _ _ := .ok o
      challenge o _ _ := .ok o
      claimVerifier _ _ := none
      answer o _ _ _ _ := .ok o
      advance o _ _ := .ok o
      requireFinalized _ _ _ _ := .ok ()
      requireFinalizedQuote _ _ := .ok ()
      enrollDigest policy := .ok policy.verifier
      registerDigest execution := .ok execution.beforeState
      bondDigest transfer := .ok transfer.owner
      challengeDigest _ := .ok (vmId 59)
      answerDigest claim _ := .ok claim
      advanceDigest claim := .ok claim
      accountSettlementDigest settlement := .ok settlement.order.operationId }
  cross := ⟨fun _ => true, fun _ _ => true, fun _ => true, fun _ _ _ => true, fun c => c.domain.chainId,
    fun _ => [], fun r => r.prepare.localLegId, fun w => w⟩
  domainId _ := vmId 59
  domainStatement _ := vmId 59
  committeeStatement _ := vmId 59
  crossDomainStatement _ _ _ _ := vmId 59
  prepareDigest p := p.localLegId
  handleCommitment id := id.1
  assetIdCommitment id := id.1
  bojOperationStatement _ := .ok (vmId 59)
  decode bytes := (okOr (txs[(bytes.headD 0).toNat]?) "unknown transaction").map
    (fun tx => ⟨"defmivm.issue", tx⟩)
  transactionId bytes := vmId (bytes.headD 0)
  idText _ := "id"

def emptyLedger : VmState Plane (ParticipantRegistry Plane) := vmEmpty ParticipantRegistry.empty

def hostSample (ledger : VmState Plane (ParticipantRegistry Plane)) : HostState Plane Unit where
  toVmState := ledger
  deploymentCryptoPolicy := none
  optimistic := ()
  transitionCount := 0
  appliedTransactions := ∅
  applicationStates := ∅
  crossDomain := CrossDomainBook.empty
  crossDomainLocalDomain := none
  crossDomainCommittees := ∅
  bojLiquidity := Boj.BojLiquidityBook.empty

def sampleStep (txs : List (Tx Plane)) :
    Bytes × ℕ → InPlace (HostState Plane Unit) TransitionReceipt :=
  HostState.transact (machineSample txs) noApplications

def replayTxs : List (Tx Plane) :=
  [.ledger (.asset ⟨vmId 1, "JPY", .cash, 0, vmId 2⟩ ⟨vmId 90, [1]⟩),
    .ledger (.asset ⟨vmId 3, "JGB", .security, 0, vmId 2⟩ ⟨vmId 90, [3]⟩)]

theorem replay_append_only_sample :
    (history (sampleStep replayTxs) (hostSample emptyLedger)
        [([0], 1), ([1], 2), ([0], 3)]).length = 2 ∧
      ((history (sampleStep replayTxs) (hostSample emptyLedger) [([0], 1), ([1], 2), ([0], 3)]).map
          (fun step => (machineSample replayTxs).transactionId step.op.1)).Nodup :=
  ⟨by decide +kernel,
    (HostState.replay_append_only (machineSample replayTxs) noApplications
      noApplications_staysOut.appendOnly).2.2 _ _⟩

end Sample
end DeFMI
