import DeFMI.CrossDomain
import DeFMI.Lib.Reader
import Mathlib.Data.Finset.Card
set_option autoImplicit false

/-!
Quorum approvals. An authorizer holds the enrolled nodes of a governance committee and
counts signatures over one body, which names the committee, the node, the root before the
operation and its statement.
-/

namespace DeFMI
open Lib List

inductive PqcMode where
  | on
  | off
  deriving DecidableEq

structure DeploymentCryptoPolicy where
  mode : PqcMode
  raw : Bytes
  deriving DecidableEq

structure NodeApproval where
  nodeId : String
  signature : Bytes

structure QuorumApproval where
  statement : Id
  signerEpoch : ℕ
  suite : Suite
  committeeDigest : Id
  domain : String
  beforeRoot : Id
  approvals : List NodeApproval

namespace Governance

/-- `P` is the deployment's policy on signature suites. -/
structure QuorumAuthorizer (P : Type) where
  nodes : Table String KeyRecord
  threshold : ℕ
  epoch : ℕ
  domain : String
  committeeDigest : Id
  deploymentCryptoPolicy : Option P
  executionTime : Option ℕ

structure GovernanceApi (P : Type) where
  governance : KeyPurpose
  keyValid : KeyRecord → Check
  keyValidAt : KeyRecord → ℕ → Bool
  pointDecodes : Bytes → Bool
  signingSuite : P → Suite
  hybridVerify : KeyPurpose → Bytes → Bytes → Bytes → Bool
  policyVerify : P → KeyPurpose → Bytes → Bytes → Bytes → Bool
  committeeDigest : Table String KeyRecord → ℕ → ℕ → String → Option P → Result Id

/-- A signature that verifies was given under the key, for the body. -/
structure GovernanceApi.Unforgeable {P : Type} (api : GovernanceApi P)
    (signed : Bytes → Bytes → Prop) : Prop where
  hybrid : ∀ key body signature,
    api.hybridVerify api.governance key body signature = true → signed key body
  policy : ∀ policy key body signature,
    api.policyVerify policy api.governance key body signature = true → signed key body

def facilityDomain : Bytes := utf8 "QOMM:DEFMI:FACILITY:v3"

def allowedCharacter (c : Char) : Bool :=
  c.isAlphanum || ['.', '_', ':', '/', '+', '-'].contains c

namespace QuorumAuthorizer

variable {P : Type}

structure SeenKeys where
  classical : List Bytes
  pq : List Bytes
  keyIds : List Bytes

section
variable (api : GovernanceApi P) (a : QuorumAuthorizer P)

def expectedSuite (policy : Option P) : Suite :=
  (policy.map api.signingSuite).getD .ed25519MlDsa65

def enrollKey (policy : Option P) (seen : SeenKeys) (e : Sigma fun _ : String => KeyRecord) :
    Except Stop SeenKeys := do
  let key := e.2
  let pq := key.publicKey.drop 32
  Stop.lift (api.keyValid key)
  Stop.lift <| require (key.suite = expectedSuite api policy ∧ key.purpose = api.governance ∧
      key.participantId = utf8 e.1 ∧ key.keyId ∉ seen.keyIds) "invalid governance key metadata"
  let ed ← Stop.slice key.publicKey 0 32
  if expectedSuite api policy = .ed25519MlDsa65 then
    Stop.lift <| require (ed ≠ zeroWord ∧ api.pointDecodes ed = true ∧ ed ∉ seen.classical ∧
        ¬(∀ byte ∈ pq, byte = 0) ∧ pq ∉ seen.pq)
      (if policy.isNone then "governance identities must use distinct valid key components"
      else "hybrid governance identities must use distinct valid Ed25519 and ML-DSA-65 keys")
    pure ⟨ed :: seen.classical, pq :: seen.pq, key.keyId :: seen.keyIds⟩
  else
    Stop.lift <| require (ed ≠ zeroWord ∧ api.pointDecodes ed = true ∧ ed ∉ seen.classical)
      "governance identities must use distinct valid Ed25519 keys"
    pure ⟨ed :: seen.classical, seen.pq, key.keyId :: seen.keyIds⟩

def newInner (nodes : Table String KeyRecord) (threshold epoch : ℕ) (domain : String)
    (policy : Option P) : Except Stop (QuorumAuthorizer P) := do
  Stop.lift <| require (¬(nodes.entries = [] ∨ 64 < nodes.entries.length ∨
      ¬(1 ≤ threshold ∧ threshold ≤ nodes.entries.length) ∨ epoch = 0))
    "invalid k-of-n signer configuration"
  Stop.lift <| require ((∀ e ∈ nodes.entries, e.1 ≠ "" ∧ (utf8 e.1).length ≤ 128 ∧
        e.1.toList.all allowedCharacter = true) ∧
      domain.toList.all (fun c => c.toNat < 128) = true ∧ domain ≠ "" ∧ (utf8 domain).length ≤ 128)
    "invalid governance node identity or domain"
  let _ ← foldEach (enrollKey api policy) ⟨[], [], []⟩ nodes.entries
  let committeeDigest ← Stop.lift <| api.committeeDigest nodes threshold epoch domain policy
  pure ⟨nodes, threshold, epoch, domain, committeeDigest, policy, none⟩

def atTime (now : ℕ) : QuorumAuthorizer P := { a with executionTime := some now }

def signingBody (statement beforeRoot : Id) (node : String) : Bytes :=
  facilityDomain ++ (beBytes 8 a.epoch ++ (a.committeeDigest.1 ++ (counted 2 (utf8 a.domain) ++
    (counted 2 (utf8 node) ++ (beforeRoot.1 ++ statement.1)))))

def verifySignature (key : KeyRecord) (body signature : Bytes) : Bool :=
  match a.deploymentCryptoPolicy with
  | some policy => api.policyVerify policy api.governance key.publicKey body signature
  | none => api.hybridVerify api.governance key.publicKey body signature

def verifyNode (now : ℕ) (expected beforeRoot : Id) (signed : NodeApproval) : Bool :=
  (a.nodes.lookup signed.nodeId).any fun key => api.keyValidAt key now &&
    a.verifySignature api key (a.signingBody expected beforeRoot signed.nodeId) signed.signature

def verifyAll (api : GovernanceApi P) (a : QuorumAuthorizer P) (now : ℕ) (expected beforeRoot : Id) :
    List String → List NodeApproval → Bool
  | _, [] => true
  | seen, signed :: rest => signed.nodeId ∉ seen && verifyNode api a now expected beforeRoot signed &&
      verifyAll api a now expected beforeRoot (signed.nodeId :: seen) rest

def verify (expected beforeRoot : Id) (approval : QuorumApproval) : Bool :=
  match a.executionTime with
  | none => false
  | some now =>
    if approval.statement ≠ expected ∨ approval.beforeRoot ≠ beforeRoot ∨
        approval.domain ≠ a.domain ∨ approval.signerEpoch ≠ a.epoch ∨
        approval.suite ≠ expectedSuite api a.deploymentCryptoPolicy ∨
        approval.committeeDigest ≠ a.committeeDigest ∨
        a.nodes.entries.length < approval.approvals.length ∨
        approval.approvals.length < a.threshold then false
    else a.verifyAll api now expected beforeRoot [] approval.approvals

end

section Sound

variable {api : GovernanceApi P} {a : QuorumAuthorizer P} {now : ℕ} {expected beforeRoot : Id}

theorem verifyAll_nodes {seen : List String} {approvals : List NodeApproval}
    (h : a.verifyAll api now expected beforeRoot seen approvals = true) :
    (approvals.map NodeApproval.nodeId).Nodup ∧
      (∀ signed ∈ approvals, signed.nodeId ∉ seen) ∧
      ∀ signed ∈ approvals, a.verifyNode api now expected beforeRoot signed = true := by
  induction approvals generalizing seen with
  | nil => simp
  | cons signed rest ih =>
    simp only [verifyAll, Bool.and_eq_true, decide_eq_true_eq] at h
    obtain ⟨⟨hfresh, hnode⟩, hrest⟩ := h
    obtain ⟨hnodup, hunseen, hnodes⟩ := ih hrest
    refine ⟨?_, ?_, ?_⟩
    · grind
    · grind
    · grind

structure Approves (api : GovernanceApi P) (signed : Bytes → Bytes → Prop) (a : QuorumAuthorizer P)
    (now : ℕ) (expected beforeRoot : Id) (node : String) (key : KeyRecord) : Prop where
  enrolled : a.nodes.lookup node = some key
  validAt : api.keyValidAt key now = true
  signed : signed key.publicKey (a.signingBody expected beforeRoot node)

theorem verifyNode_approves {signed : Bytes → Bytes → Prop} (hideal : api.Unforgeable signed)
    {approval : NodeApproval} (h : a.verifyNode api now expected beforeRoot approval = true) :
    ∃ key, a.Approves api signed now expected beforeRoot approval.nodeId key := by
  simp only [verifyNode, Option.any_eq_true, Bool.and_eq_true] at h
  obtain ⟨key, hkey, hvalid, hsignature⟩ := h
  refine ⟨key, hkey, hvalid, ?_⟩
  unfold verifySignature at hsignature
  split at hsignature
  · exact hideal.policy _ _ _ _ hsignature
  · exact hideal.hybrid _ _ _ hsignature

structure Approved (api : GovernanceApi P) (signed : Bytes → Bytes → Prop) (a : QuorumAuthorizer P)
    (expected beforeRoot : Id) (approval : QuorumApproval) (now : ℕ) (members : List String) :
    Prop where
  time : a.executionTime = some now
  statement : approval.statement = expected
  root : approval.beforeRoot = beforeRoot
  domain : approval.domain = a.domain
  epoch : approval.signerEpoch = a.epoch
  committee : approval.committeeDigest = a.committeeDigest
  distinct : members.Nodup
  enough : a.threshold ≤ members.length
  each : ∀ node ∈ members, ∃ key, a.Approves api signed now expected beforeRoot node key

theorem verify_approved {signed : Bytes → Bytes → Prop} (hideal : api.Unforgeable signed)
    {approval : QuorumApproval} (h : a.verify api expected beforeRoot approval = true) :
    ∃ now members, a.Approved api signed expected beforeRoot approval now members := by
  unfold verify at h
  split at h
  · cases h
  · next now hnow =>
    split at h
    · cases h
    · next hfields =>
      simp only [not_or, not_not, not_lt] at hfields
      obtain ⟨hstatement, hroot, hdomain, hepoch, _, hcommittee, _, henough⟩ := hfields
      obtain ⟨hnodup, _, hnodes⟩ := verifyAll_nodes h
      refine ⟨now, approval.approvals.map NodeApproval.nodeId, hnow, hstatement, hroot, hdomain,
        hepoch, hcommittee, hnodup, by simpa using henough, ?_⟩
      intro node hnode
      obtain ⟨signed, hsigned, rfl⟩ := mem_map.mp hnode
      exact verifyNode_approves hideal (hnodes signed hsigned)

theorem signingBody_inj {b : QuorumAuthorizer P} {statement statement' root root' : Id}
    {node node' : String} (hepoch : a.epoch < 2 ^ 64) (hepoch' : b.epoch < 2 ^ 64)
    (hdomain : (utf8 a.domain).length < 2 ^ 16) (hdomain' : (utf8 b.domain).length < 2 ^ 16)
    (hnode : (utf8 node).length < 2 ^ 16) (hnode' : (utf8 node').length < 2 ^ 16)
    (h : a.signingBody statement root node = b.signingBody statement' root' node') :
    a.epoch = b.epoch ∧ a.committeeDigest = b.committeeDigest ∧ a.domain = b.domain ∧
      node = node' ∧ root = root' ∧ statement = statement' := by
  have hbody := append_cancel_left h
  obtain ⟨hbytes, hbody⟩ := append_inj hbody (by simp)
  obtain ⟨hdigest, hbody⟩ := append_inj hbody (by rw [a.committeeDigest.2, b.committeeDigest.2])
  obtain ⟨hname, hbody⟩ := counted_append_inj hdomain hdomain' hbody
  obtain ⟨hid, hbody⟩ := counted_append_inj hnode hnode' hbody
  obtain ⟨hroot, hstatement⟩ := append_inj hbody (by rw [root.2, root'.2])
  exact ⟨beBytes_inj hepoch hepoch' hbytes, Subtype.ext hdigest, toUTF8_toList_inj hname,
    toUTF8_toList_inj hid, Subtype.ext hroot, Subtype.ext hstatement⟩

end Sound

section Enrolled

variable {api : GovernanceApi P} {a : QuorumAuthorizer P} {nodes : Table String KeyRecord}
  {threshold epoch : ℕ} {domain : String} {policy : Option P}

theorem enrollKey_ok {seen seen' : SeenKeys} {e : Sigma fun _ : String => KeyRecord}
    (h : enrollKey api policy seen e = .ok seen') :
    e.2.publicKey.take 32 ∉ seen.classical ∧
      seen'.classical = e.2.publicKey.take 32 :: seen.classical := by
  simp only [enrollKey, ok_iff, Stop.lift_eq_ok, Stop.slice_eq_ok] at h
  obtain ⟨_, _, ed, ⟨_, _, rfl⟩, h⟩ := h
  split at h
  · simp only [ok_iff, Stop.lift_eq_ok] at h
    obtain ⟨⟨_, _, hfresh, _⟩, rfl⟩ := h
    exact ⟨hfresh, rfl⟩
  · simp only [ok_iff, Stop.lift_eq_ok] at h
    obtain ⟨⟨_, _, hfresh⟩, rfl⟩ := h
    exact ⟨hfresh, rfl⟩

theorem newInner_distinct (h : newInner api nodes threshold epoch domain policy = .ok a) :
    ∀ node node' key key', a.nodes.lookup node = some key → a.nodes.lookup node' = some key' →
      key.publicKey = key'.publicKey → node = node' := by
  simp only [newInner, ok_iff, Stop.lift_eq_ok] at h
  obtain ⟨_, _, seen, hloop, _, _, rfl⟩ := h
  have hkeys := (foldEach_fresh_map SeenKeys.classical
    (fun e : Sigma fun _ : String => KeyRecord => e.2.publicKey.take 32)
    (fun _ _ _ hstep => enrollKey_ok hstep) hloop nodup_nil)
  have hnodup : (nodes.entries.map
      (fun e : Sigma fun _ : String => KeyRecord => e.2.publicKey.take 32)).Nodup := by
    have hperm := hkeys.2.nodup_iff.mpr hkeys.1
    simpa using hperm
  intro node node' key key' hnode hnode' hsame
  have hmem := AList.mem_lookup_iff.mp hnode
  have hmem' := AList.mem_lookup_iff.mp hnode'
  have hentry := inj_on_of_nodup_map hnodup hmem hmem' (by simp [hsame])
  exact congrArg Sigma.fst hentry

end Enrolled

/-- An accepted approval has behind it at least as many different nodes as the threshold,
each enrolled, with a valid key, and with a signature for exactly this statement, root,
domain, epoch and committee in its own name. A body is signed for no other values. -/
theorem quorum_sound (api : GovernanceApi P) (signed : Bytes → Bytes → Prop)
    (hideal : api.Unforgeable signed) :
    (∀ (a : QuorumAuthorizer P) expected beforeRoot approval,
      a.verify api expected beforeRoot approval = true →
        ∃ now members, a.Approved api signed expected beforeRoot approval now members) ∧
    (∀ (a b : QuorumAuthorizer P) statement statement' root root' node node',
      a.epoch < 2 ^ 64 → b.epoch < 2 ^ 64 → (utf8 a.domain).length < 2 ^ 16 →
      (utf8 b.domain).length < 2 ^ 16 → (utf8 node).length < 2 ^ 16 →
      (utf8 node').length < 2 ^ 16 →
      a.signingBody statement root node = b.signingBody statement' root' node' →
        a.epoch = b.epoch ∧ a.committeeDigest = b.committeeDigest ∧ a.domain = b.domain ∧
          node = node' ∧ root = root' ∧ statement = statement') ∧
    ∀ nodes threshold epoch domain policy a,
      newInner api nodes threshold epoch domain policy = .ok a →
        1 ≤ a.threshold ∧ ∀ node node' key key', a.nodes.lookup node = some key →
          a.nodes.lookup node' = some key' → key.publicKey = key'.publicKey → node = node' := by
  refine ⟨fun a expected beforeRoot approval h => verify_approved hideal h, ?_, ?_⟩
  · intro a b statement statement' root root' node node' hepoch hepoch' hdomain hdomain' hnode hnode'
    exact signingBody_inj hepoch hepoch' hdomain hdomain' hnode hnode'
  · intro nodes threshold epoch domain policy a h
    refine ⟨?_, newInner_distinct h⟩
    simp only [newInner, ok_iff, Stop.lift_eq_ok, not_or, not_not] at h
    obtain ⟨⟨_, _, hthreshold, _⟩, _, _, _, _, _, rfl⟩ := h
    exact hthreshold.1

section Overlap

variable {api : GovernanceApi P} {signed : Bytes → Bytes → Prop} {a : QuorumAuthorizer P}
  {now later : ℕ} {statement statement' root root' : Id} {approval approval' : QuorumApproval}

theorem Approved.members_enrolled {members : List String}
    (h : a.Approved api signed statement root approval now members) :
    members.toFinset ⊆ a.nodes.keys.toFinset := by
  intro node hnode
  obtain ⟨key, hkey⟩ := h.each node (mem_toFinset.mp hnode)
  exact mem_toFinset.mpr (Table.mem_of_lookup hkey.enrolled)

/-- Two approvals of one committee, at any two times, have common signers: at least twice the
threshold less the number of nodes. -/
theorem quorums_overlap (hideal : api.Unforgeable signed)
    (h : (a.atTime now).verify api statement root approval = true)
    (h' : (a.atTime later).verify api statement' root' approval' = true) :
    ∃ both : Finset String, 2 * a.threshold ≤ both.card + a.nodes.entries.length ∧
      ∀ node ∈ both, ∃ key, a.nodes.lookup node = some key ∧
        signed key.publicKey (a.signingBody statement root node) ∧
        signed key.publicKey (a.signingBody statement' root' node) := by
  obtain ⟨_, members, hmembers⟩ := verify_approved hideal h
  obtain ⟨_, members', hmembers'⟩ := verify_approved hideal h'
  refine ⟨members.toFinset ∩ members'.toFinset, ?_, fun node hnode => ?_⟩
  · have hnodes : (members.toFinset ∪ members'.toFinset).card ≤ a.nodes.keys.length :=
      (Finset.card_le_card (Finset.union_subset hmembers.members_enrolled
        hmembers'.members_enrolled)).trans (toFinset_card_le _)
    have hcount := Finset.card_union_add_card_inter members.toFinset members'.toFinset
    rw [toFinset_card_of_nodup hmembers.distinct,
      toFinset_card_of_nodup hmembers'.distinct] at hcount
    have hkeys : a.nodes.keys.length = a.nodes.entries.length := length_map _
    have henough : a.threshold ≤ members.length := hmembers.enough
    have henough' : a.threshold ≤ members'.length := hmembers'.enough
    omega
  · simp only [Finset.mem_inter, mem_toFinset] at hnode
    obtain ⟨key, hkey⟩ := hmembers.each node hnode.1
    obtain ⟨key', hkey'⟩ := hmembers'.each node hnode.2
    obtain rfl : key = key' := Option.some.inj (hkey.enrolled.symm.trans hkey'.enrolled)
    exact ⟨key, hkey.enrolled, hkey.signed, hkey'.signed⟩

end Overlap

section Sample

def councilKey (n : UInt8) : KeyRecord := ⟨[n], [n], .ed25519MlDsa65, .other 2, [n], []⟩

def council : QuorumAuthorizer DeploymentCryptoPolicy where
  nodes := (((∅ : Table String KeyRecord).insert "a" (councilKey 1)).insert "b"
    (councilKey 2)).insert "c" (councilKey 3)
  threshold := 2
  epoch := 1
  domain := "chain"
  committeeDigest := Id.fill 9
  deploymentCryptoPolicy := none
  executionTime := some 100

def councilBody (statement root : UInt8) (node : String) : Bytes :=
  council.signingBody (Id.fill statement) (Id.fill root) node

/-- Under which key which body was signed: "a" and "b" for one statement, "b" and "c" for another. -/
def councilSigned : List (Bytes × Bytes) :=
  [([1], councilBody 3 4 "a"), ([2], councilBody 3 4 "b"), ([2], councilBody 5 4 "b"),
    ([3], councilBody 5 4 "c")]

def councilApi : GovernanceApi DeploymentCryptoPolicy where
  governance := .other 2
  keyValid _ := .ok ()
  keyValidAt _ _ := true
  pointDecodes _ := true
  signingSuite _ := .ed25519MlDsa65
  hybridVerify _ key body signature := signature = body && (key, body) ∈ councilSigned
  policyVerify _ _ _ _ _ := false
  committeeDigest _ _ _ _ _ := .ok (Id.fill 9)

theorem councilApi_unforgeable :
    councilApi.Unforgeable (fun key body => (key, body) ∈ councilSigned) where
  hybrid key body signature h := by
    simp only [councilApi, Bool.and_eq_true, decide_eq_true_eq] at h
    exact h.2
  policy := by simp [councilApi]

def councilApproval (statement root : UInt8) (nodes : List String) : QuorumApproval :=
  ⟨Id.fill statement, 1, .ed25519MlDsa65, Id.fill 9, "chain", Id.fill root,
    nodes.map fun node => ⟨node, councilBody statement root node⟩⟩

theorem quorum_sound_sample :
    ∃ now members, council.Approved councilApi (fun key body => (key, body) ∈ councilSigned)
      (Id.fill 3) (Id.fill 4) (councilApproval 3 4 ["b", "a"]) now members :=
  (quorum_sound councilApi _ councilApi_unforgeable).1 council _ _ _ (by decide +kernel)

theorem quorums_overlap_sample : ∃ both : Finset String, 4 ≤ both.card + 3 ∧
    ∀ node ∈ both, ∃ key, council.nodes.lookup node = some key ∧
      (key.publicKey, councilBody 3 4 node) ∈ councilSigned ∧
      (key.publicKey, councilBody 5 4 node) ∈ councilSigned := by
  have hfirst : (council.atTime 7).verify councilApi (Id.fill 3) (Id.fill 4)
      (councilApproval 3 4 ["b", "a"]) = true := by decide +kernel
  have hsecond : (council.atTime 8).verify councilApi (Id.fill 5) (Id.fill 4)
      (councilApproval 5 4 ["b", "c"]) = true := by decide +kernel
  exact quorums_overlap councilApi_unforgeable hfirst hsecond

/-- Signatures of the council on whatever it is asked to sign. -/
def signingApi : GovernanceApi DeploymentCryptoPolicy :=
  { councilApi with hybridVerify := fun _ _ body signature => signature = body }

end Sample

end QuorumAuthorizer

end Governance
end DeFMI
