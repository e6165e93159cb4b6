import DeFMI.Vm.Replay
set_option autoImplicit false

/-!
Claims over whole runs: whichever of the two ways a holder takes, a claim becomes one
note, of its own asset and value, and never a second one.
-/

namespace DeFMI
open Lib Participant InPlace

section Listings

variable {V : Type}

def LedgerTx.redemptions : LedgerTx V → List (Id × NoteOutput V)
  | .noteClaimMaterialization m _ => [(m.claimId, m.output)]
  | .noteClaimRedemption r => [(r.claimId, r.output)]
  | _ => []

def Tx.redemptions : Tx V → List (Id × NoteOutput V)
  | .ledger tx => tx.redemptions
  | _ => []

end Listings

namespace VmState

variable {V R : Type} {s t u : VmState V R} {claimId : Id} {output : NoteOutput V}

def ClaimSpent (s : VmState V R) (claimId : Id) : Prop :=
  ∃ claim, s.noteClaims.lookup claimId = some claim ∧ claim.status = .materialized

theorem ClaimSpent.extends (h : s.ClaimSpent claimId) (hext : s.Extends t) : t.ClaimSpent claimId := by
  obtain ⟨claim, hclaim, hstatus⟩ := h
  obtain ⟨claim', hclaim', rfl | ⟨hactive, _⟩⟩ := hext.claims claimId claim hclaim
  · exact ⟨claim', hclaim', hstatus⟩
  · rw [hstatus] at hactive
    cases hactive

structure Stands (claimId : Id) (output : NoteOutput V) (t : VmState V R) : Prop where
  note : t.notes.lookup output.noteId = some output.toNoteRecord
  claim : ∃ claim, t.noteClaims.lookup claimId = some claim ∧ claim.status = .materialized ∧
    output.assetId = claim.assetId ∧ output.valueCommitment = claim.valueCommitment

theorem Stands.extends (h : Stands claimId output t) (hext : t.Extends u) :
    Stands claimId output u where
  note := hext.notes _ _ h.note
  claim := by
    obtain ⟨claim, hclaim, hstatus, hsame⟩ := h.claim
    obtain ⟨claim', hclaim', rfl | ⟨hactive, _⟩⟩ := hext.claims claimId claim hclaim
    · exact ⟨claim', hclaim', hstatus, hsame⟩
    · rw [hstatus] at hactive
      cases hactive

structure Redeemed (claimId : Id) (output : NoteOutput V) (s t : VmState V R) : Prop where
  stands : Stands claimId output t
  opened : ∃ claim, s.noteClaims.lookup claimId = some claim ∧ claim.status = .active
  fresh : output.noteId ∉ s.notes
  notes : t.notes = s.notes.insert output.noteId output.toNoteRecord

theorem Redeemed.unspent (h : Redeemed claimId output s t) : ¬s.ClaimSpent claimId := by
  grind [ClaimSpent, Redeemed]

theorem Redeemed.spent (h : Redeemed claimId output s t) : t.ClaimSpent claimId := by
  obtain ⟨claim, hclaim, hstatus, _⟩ := h.stands.claim
  exact ⟨claim, hclaim, hstatus⟩

variable {now : ℕ} {approval : Approval} {api : NotesApi V R} {operationId statement : Id}
  {claim : NoteClaimRecord V} {hidden : Bool}

theorem redeemed_resolve (hfresh : output.noteId ∉ s.notes)
    (hclaim : s.noteClaims.lookup claimId = some claim) (hactive : claim.status = .active)
    (hasset : output.assetId = claim.assetId)
    (hvalue : output.valueCommitment = claim.valueCommitment) :
    Redeemed claimId output s
      ((s.addNote output hidden).resolveClaim claimId claim operationId statement) where
  stands :=
    { note := AList.lookup_insert ..
      claim := ⟨_, AList.lookup_insert .., rfl, hasset, hvalue⟩ }
  opened := ⟨claim, hclaim, hactive⟩
  fresh := hfresh
  notes := rfl

variable [AddCommGroup V] [DecidableEq V]

theorem redemption_verify_ok {r : NoteClaimRedemption V} {claim : NoteClaim V} {u : Unit}
    (h : r.verify api claim now = .ok u) :
    r.output.assetId = claim.assetId ∧ r.output.valueCommitment = claim.valueCommitment := by
  simp only [NoteClaimRedemption.verify, ok_iff] at h
  obtain ⟨_, hguard, _⟩ := h
  simp only [not_or, not_not] at hguard
  exact ⟨hguard.2.2.1, hguard.2.2.2.1⟩

theorem materializeNoteClaim_redeemed {m : NoteClaimMaterialization V}
    (h : s.materializeNoteClaim api m approval = .ok t) : Redeemed m.claimId m.output s t := by
  simp only [materializeNoteClaim, ok_iff] at h
  obtain ⟨_, _, _, _, _, claim, hclaim, _, hguard, u, hu, rfl⟩ := h
  obtain ⟨hfresh, rfl⟩ := insertNoteWithConfidentiality_ok hu
  simp only [not_or, not_not] at hguard
  obtain ⟨hactive, _, hasset, hvalue⟩ := hguard
  exact redeemed_resolve hfresh hclaim hactive hasset.symm hvalue.symm

theorem redeemNoteClaim_redeemed {r : NoteClaimRedemption V}
    (h : s.redeemNoteClaim api now r = .ok t) : Redeemed r.claimId r.output s t := by
  simp only [redeemNoteClaim, ok_iff] at h
  obtain ⟨_, claim, hclaim, hguard, hverify, _, _, u, hu, rfl⟩ := h
  obtain ⟨hfresh, rfl⟩ := insertNoteWithConfidentiality_ok hu
  simp only [not_or, not_not] at hguard
  obtain ⟨hasset, hvalue⟩ := redemption_verify_ok hverify
  exact redeemed_resolve hfresh hclaim hguard.1 hasset hvalue

end VmState

namespace HostState

variable {V O : Type} [AddCommGroup V] [Module Scalar V] [DecidableEq V]

theorem dispatch_redeemed {api : HostApi V O} {application : ApplicationRuntime V O}
    {s t : HostState V O} {now : ℕ} {method : String} {tx : Tx V}
    (h : s.dispatch api application now method tx = .ok t) :
    (tx.redemptions.map Prod.fst).Nodup ∧ ∀ r ∈ tx.redemptions,
      VmState.Redeemed r.1 r.2 s.toVmState t.toVmState := by
  cases tx with
  | ledger tx =>
    simp only [dispatch] at h
    obtain ⟨ledger, hledger, rfl⟩ := onLedger_ok h
    cases tx with
    | noteClaimMaterialization =>
      simpa [Tx.redemptions, LedgerTx.redemptions] using
        VmState.materializeNoteClaim_redeemed hledger
    | noteClaimRedemption =>
      simpa [Tx.redemptions, LedgerTx.redemptions] using VmState.redeemNoteClaim_redeemed hledger
    | _ => simp [Tx.redemptions, LedgerTx.redemptions]
  | _ => simp [Tx.redemptions]

variable {api : MachineApi V O} {application : ApplicationRuntime V O} {s t : HostState V O}

def redemptionsOf (api : MachineApi V O) : Bytes → List (Id × NoteOutput V) :=
  listed api Tx.redemptions

theorem transact_redeemed {bytes : Bytes} {now : ℕ} {receipt : TransitionReceipt}
    (h : applyWithApplication api application bytes now s = (.ok receipt, t)) :
    ((redemptionsOf api bytes).map Prod.fst).Nodup ∧ ∀ r ∈ redemptionsOf api bytes,
      VmState.Redeemed r.1 r.2 s.toVmState t.toVmState := by
  obtain ⟨envelope, next, haccepted⟩ := applyWithApplication_ok h
  have hledger : t.toVmState = next.toVmState := by rw [haccepted.result]
  rw [hledger]
  simpa only [redemptionsOf, listed, haccepted.decoded] using dispatch_redeemed haccepted.dispatched

def ClaimStands (r : Id × NoteOutput V) (t : HostState V O) : Prop :=
  VmState.Stands r.1 r.2 t.toVmState

theorem run_claim_stands (happ : application.AppendOnly) {r : Id × NoteOutput V}
    (h : ClaimStands r s) (calls : List (Bytes × ℕ)) :
    ClaimStands r (run (transact api application) s calls) := by
  refine run_invariant ?_ ?_ calls h
  · intro u call receipt t hu h
    exact VmState.Stands.extends hu (transact_kept happ h).toExtends
  · intro u call e t hu h
    exact transact_restores call u e t h ▸ hu

theorem nodup_redemptions (happ : application.AppendOnly) (s : HostState V O)
    (calls : List (Bytes × ℕ)) :
    (((history (transact api application) s calls).flatMap
      (fun step => redemptionsOf api step.op.1)).map Prod.fst).Nodup := by
  rw [List.map_flatMap]
  refine (nodup_history_keys (fun _ => True)
    (fun (s : HostState V O) id => s.ClaimSpent id)
    (fun step => (redemptionsOf api step.op.1).map Prod.fst) ?_ ?_ calls trivial).1
  · intro s call receipt t _ h
    obtain ⟨hnodup, hredeemed⟩ := transact_redeemed h
    refine ⟨trivial, fun id hid => hid.extends (transact_kept happ h).toExtends, hnodup, ?_⟩
    intro id hid
    obtain ⟨r, hr, rfl⟩ := List.mem_map.mp hid
    exact ⟨(hredeemed r hr).unspent, (hredeemed r hr).spent⟩
  · exact fun s call e t _ h => transact_restores call s e t h

/-- Over every run and in whichever order the two kinds of transaction come: no claim is
redeemed twice; each redemption closes an open claim and adds exactly one note; and to
the end of the run that note stands in the pool with the claim's asset and value. -/
theorem claims_redeemed_once (api : MachineApi V O) (application : ApplicationRuntime V O)
    (happ : application.AppendOnly) (s : HostState V O) (calls : List (Bytes × ℕ)) :
    (((history (transact api application) s calls).flatMap
      (fun step => redemptionsOf api step.op.1)).map Prod.fst).Nodup ∧
    ∀ step ∈ history (transact api application) s calls,
      ∀ r ∈ redemptionsOf api step.op.1,
        VmState.Redeemed r.1 r.2 step.before.toVmState step.after.toVmState ∧
        ClaimStands r (run (transact api application) s calls) := by
  refine ⟨nodup_redemptions happ s calls, fun step hmem r hr => ?_⟩
  obtain ⟨_, receipt, _, _, hstep⟩ := exists_prefix_of_mem_history hmem
  have hredeemed := (transact_redeemed hstep).2 r hr
  obtain ⟨rest, hrest⟩ := exists_rest_of_mem_history hmem
  refine ⟨hredeemed, ?_⟩
  rw [hrest]
  exact run_claim_stands happ hredeemed.stands rest

end HostState

section Sample

/-- A delivery of three securities that its holder has not taken up yet. -/
def claimedHost : HostState Plane Unit :=
  hostSample { vmReserved with
    participantRegistry := ParticipantRegistry.empty
    noteClaims := (∅ : Table Id (NoteClaimRecord Plane)).insert (vmId 60)
      ⟨vmId 2, clear 3, vmId 60, ⟨vmId 60, vmId 60⟩, vmId 7, .delivery, [], .active, vmId 21, 0⟩ }

def claimOutput (note : Id) : NoteOutput Plane := ⟨⟨vmId 2, note, clear 3, vmId 1, [], 0⟩, note⟩

def claimTxs : List (Tx Plane) :=
  [.ledger (.noteClaimMaterialization ⟨vmId 72, vmId 60, claimOutput (vmId 64), vmId 73⟩
      ⟨vmId 90, [72]⟩),
    .ledger (.noteClaimRedemption ⟨2, [1], vmId 90, vmId 74, vmId 60, claimOutput (vmId 65),
      ⟨[], [], 0, 1, 0, [], none, none, []⟩, List.replicate 64 0, List.replicate 3373 0⟩)]

theorem claims_redeemed_once_sample :
    (history (sampleStep claimTxs) claimedHost [([0], 30), ([1], 31)]).map
        (fun step => step.op.1) = [[0]] ∧
      (history (sampleStep claimTxs) claimedHost [([1], 30), ([0], 31)]).map
        (fun step => step.op.1) = [[1]] ∧
      (((history (sampleStep claimTxs) claimedHost [([1], 30), ([0], 31)]).flatMap (fun step =>
          HostState.redemptionsOf (machineSample claimTxs) step.op.1)).map Prod.fst).Nodup :=
  ⟨by decide +kernel, by decide +kernel,
    (HostState.claims_redeemed_once (machineSample claimTxs) noApplications
      noApplications_staysOut.appendOnly claimedHost [([1], 30), ([0], 31)]).1⟩

end Sample
end DeFMI
