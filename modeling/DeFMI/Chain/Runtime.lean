import DeFMI.Block
import DeFMI.Lib.Transaction
set_option autoImplicit false

/-!
The block lifecycle of the VM. Every entry point is cut where the source gives up
its lock or waits for the database: a step of the machine is one critical section,
and what a call has read so far waits in `calls` until a later step resumes it, so
that a run is any interleaving of calls.
-/

namespace DeFMI.Chain
open Lib

structure TransactionEnvelope (Json : Type) where
  method : String
  params : Json

/-- The consensus state; `ledger` is what block processing itself never looks into. -/
structure ChainState (L : Type) where
  deploymentCryptoPolicy : Option Bytes
  appliedTransactions : Finset Id
  transitionCount : ℕ
  ledger : L

structure TransitionReceipt where
  transactionId : Id
  statement : Id
  beforeRoot : Id
  afterRoot : Id

/-- What block processing calls. `executeMethod` stands for the handlers of the VM, none
of which reads or writes the set of applied transactions or its counter;
`applicationExecute` is the hook of the host and gets the whole state. -/
structure ChainApi (Json L : Type) where
  digest : Bytes → Id
  idText : Id → String
  fromSlice : Bytes → Result (TransactionEnvelope Json)
  toVec : TransactionEnvelope Json → Result Bytes
  issueMethods : List String
  validateParams : Json → Check
  policy : Option Bytes
  supportedPath : ChainState L → String → Check
  executeMethod : ChainState L → TransactionEnvelope Json → UInt64 → Result (L × Id)
  applicationExecute : ChainState L → Json → UInt64 → Result (ChainState L × Id)
  validateHostState : ChainState L → Check
  validateState : ChainState L → Check
  root : ChainState L → Id

/-- The one thing asked of the hook: it does not forget what was applied. -/
def ChainApi.HookKeepsApplied {Json L : Type} (api : ChainApi Json L) : Prop :=
  ∀ s params timestamp t statement,
    api.applicationExecute s params timestamp = .ok (t, statement) →
      s.appliedTransactions ⊆ t.appliedTransactions

structure VerifiedBlock (L : Type) where
  block : Block
  bytes : Bytes
  id : Id
  state : ChainState L
  receipts : List TransitionReceipt

structure AcceptedReceipt where
  transactionId : Id
  blockId : Id
  height : UInt64
  statement : Id
  beforeRoot : Id
  afterRoot : Id

/-- The rows of the database, one table for each key prefix. A stored state is kept as
the state its staged head loads to. -/
structure ChainDb (L : Type) where
  lastAccepted : Id
  blocks : Table Id Bytes
  states : Table Id (ChainState L)
  heights : Table UInt64 Id
  transactions : Table Id AcceptedReceipt

inductive EngineState where
  | unspecified
  | stateSyncing
  | bootstrapping
  | normalOp
  deriving DecidableEq

inductive Purpose (L : Type) where
  | build
  | verify (candidate : VerifiedBlock L)
  | prefer

/-- A call between two of its critical sections. -/
inductive Call (L : Type) where
  | admitting (id : Id) (bytes : Bytes)
  | inserting (id : Id) (bytes : Bytes)
  | choosing
  | finding (id : Id) (purpose : Purpose L)
  | loading (id : Id) (purpose : Purpose L)
  | loaded (id : Id) (parent : VerifiedBlock L) (purpose : Purpose L)

structure Runtime (L : Type) where
  db : ChainDb L
  engineState : EngineState
  lastAccepted : VerifiedBlock L
  preferred : Id
  verified : Table Id (VerifiedBlock L)
  mempool : List Bytes
  pending : Finset Id
  processing : Table Id Bytes
  calls : List (Call L)

inductive Reply (L : Type) where
  | pending
  | enqueued (id : Id)
  | built (block : VerifiedBlock L)
  | verified (block : VerifiedBlock L)
  | done

/-- `fault` is an error of the database or of the state store, if there is one;
`clock` is the system clock in seconds, none before the epoch. -/
inductive ChainOp where
  | enqueue (bytes : Bytes) (gossip : Bool) (fault : Option String)
  | buildBlock
  | verifyCandidate (bytes : Bytes)
  | setPreference (id : Id)
  | resume (call : ℕ) (clock : Option ℕ) (fault : Option String)
  | blockAccept (id : Id) (fault : Option String)
  | blockReject (id : Id)
  | setState (state : EngineState)

def maxMempoolTransactions : ℕ := 4096
def maxFutureSkewSeconds : Int64 := 10

def noFault (fault : Option String) : Check :=
  match fault with
  | none => .ok ()
  | some error => .error error

def nowSeconds (clock : Option ℕ) : Result Int64 := do
  let seconds ← okOr clock "system clock precedes the Unix epoch"
  require (seconds < 2 ^ 63) "system clock exceeds the supported range"
  pure (Int64.ofNat seconds)

def saturatingSucc (height : UInt64) : UInt64 := UInt64.ofNat (min (height.toNat + 1) (2 ^ 64 - 1))

@[simp] theorem toNat_saturatingSucc (height : UInt64) :
    (saturatingSucc height).toNat = min (height.toNat + 1) (2 ^ 64 - 1) := by
  refine UInt64.toNat_ofNat_of_lt' ?_
  rw [UInt64.size]
  omega

section Definitions
variable {Json L : Type} (api : ChainApi Json L)

namespace ChainApi

def validate (transaction : TransactionEnvelope Json) : Check := do
  require (transaction.method ∈ api.issueMethods)
    "transaction method is not an allowed DeFMI issue method"
  api.validateParams transaction.params

def encode (transaction : TransactionEnvelope Json) : Result Bytes := do
  api.validate transaction
  api.toVec transaction

def decode (bytes : Bytes) : Result (TransactionEnvelope Json) := do
  let transaction ← api.fromSlice bytes
  api.validate transaction
  let encoded ← api.encode transaction
  require (encoded = bytes) "transaction JSON is not in canonical encoding"
  pure transaction

/-- `TransactionEnvelope::decode(bytes).and_then(|transaction| transaction.id())`. -/
def transactionId (bytes : Bytes) : Result Id := do
  let transaction ← api.decode bytes
  let encoded ← api.encode transaction
  pure (api.digest encoded)

def execute (state : ChainState L) (transaction : TransactionEnvelope Json) (timestamp : UInt64) :
    Result (ChainState L × Id) := do
  api.supportedPath state transaction.method
  if transaction.method = "defmivm.issueApplication" then
    api.applicationExecute state transaction.params timestamp
  else
    let result ← api.executeMethod state transaction timestamp
    pure ({ state with ledger := result.1 }, result.2)

/-- `apply_with_application`: works on a copy, so that an error changes nothing. -/
def apply (state : ChainState L) (bytes : Bytes) (timestamp : UInt64) :
    Result (ChainState L × TransitionReceipt) := do
  require (state.deploymentCryptoPolicy = api.policy)
    "state deployment crypto policy differs from governance authority"
  api.validateHostState state
  let transaction ← api.decode bytes
  let transactionId ← api.transactionId bytes
  require (transactionId ∉ state.appliedTransactions)
    ("transaction " ++ api.idText transactionId ++ " was already applied")
  let next ← api.execute state transaction timestamp
  require (next.1.transitionCount + 1 < 2 ^ 64) "state transition counter overflow"
  let after := { next.1 with
    appliedTransactions := insert transactionId next.1.appliedTransactions
    transitionCount := next.1.transitionCount + 1 }
  api.validateState after
  api.validateHostState after
  pure (after, ⟨transactionId, next.2, api.root state, api.root after⟩)

/-- The loop of `verify_candidate`: every transaction has to apply. -/
def applyAll (timestamp : UInt64) (state : ChainState L) :
    List Bytes → Result (ChainState L × List TransitionReceipt)
  | [] => pure (state, [])
  | transaction :: transactions => do
    let next ← api.apply state transaction timestamp
    let rest ← applyAll timestamp next.1 transactions
    pure (rest.1, next.2 :: rest.2)

/-- `parse_block_bytes`; state and receipts are placeholders until they are computed. -/
def parseBlockBytes (placeholder : ChainState L) (bytes : Bytes) : Result (VerifiedBlock L) := do
  let block ← Block.decode bytes
  let id ← block.id api.digest
  pure ⟨block, bytes, id, placeholder, []⟩

end ChainApi

def AcceptedReceipt.of (id : Id) (block : VerifiedBlock L) (receipt : TransitionReceipt) :
    AcceptedReceipt :=
  { transactionId := receipt.transactionId, blockId := id, height := block.block.height
    statement := receipt.statement, beforeRoot := receipt.beforeRoot
    afterRoot := receipt.afterRoot }

/-- What the loop of `build_block` has taken from the pool so far. The source keeps the
text of a refusal for status queries; here every refusal is kept, with its reason. -/
structure Drained (L : Type) where
  mempool : List Bytes
  pending : Finset Id
  processing : Table Id Bytes
  state : ChainState L
  transactions : List Bytes
  receipts : List TransitionReceipt
  refused : List (Id × String)

namespace Drained

def take (drained : Drained L) (rest : List Bytes) (id : Id) : Drained L :=
  { drained with mempool := rest, pending := drained.pending.erase id }

def append (drained : Drained L) (id : Id) (bytes : Bytes)
    (next : ChainState L × TransitionReceipt) : Drained L :=
  { drained with
    processing := drained.processing.insert id bytes
    state := next.1
    transactions := drained.transactions ++ [bytes]
    receipts := drained.receipts ++ [next.2] }

def refuse (drained : Drained L) (id : Id) (reason : String) : Drained L :=
  { drained with refused := drained.refused ++ [(id, reason)] }

end Drained

/-- The loop of `build_block` over the pool, front first, until the block is full. -/
def drain (timestamp : UInt64) : List Bytes → Drained L → Check × Drained L
  | [], drained => (.ok (), drained)
  | bytes :: rest, drained =>
    if drained.transactions.length < Block.maxTransactions then
      match api.transactionId bytes with
      | .error error => (.error error, { drained with mempool := rest })
      | .ok id =>
        match api.apply drained.state bytes timestamp with
        | .ok next => drain timestamp rest ((drained.take rest id).append id bytes next)
        | .error reason => drain timestamp rest ((drained.take rest id).refuse id reason)
    else (.ok (), drained)

namespace Runtime

def drained (s : Runtime L) (state : ChainState L) (timestamp : UInt64) :
    Check × Drained L :=
  drain api timestamp s.mempool ⟨s.mempool, s.pending, s.processing, state, [], [], []⟩

def setPools (s : Runtime L) (drained : Drained L) : Runtime L :=
  { s with
    mempool := drained.mempool
    pending := drained.pending
    processing := drained.processing }

def addCall (call : Call L) (s : Runtime L) : Runtime L := { s with calls := s.calls ++ [call] }

def addVerified (block : VerifiedBlock L) (s : Runtime L) : Runtime L :=
  { s with verified := s.verified.insert block.id block }

/-- The batch of `block_accept` and the in-memory changes after it. -/
def accepted (id : Id) (block : VerifiedBlock L) (s : Runtime L) : Runtime L :=
  let ids := (block.receipts.map TransitionReceipt.transactionId).toFinset
  { s with
    db := {
      lastAccepted := id
      blocks := s.db.blocks.insert id block.bytes
      states := s.db.states.insert id block.state
      heights := s.db.heights.insert block.block.height id
      transactions := block.receipts.foldl (fun rows receipt =>
        rows.insert receipt.transactionId (AcceptedReceipt.of id block receipt)) s.db.transactions }
    verified := s.verified.erase id
    mempool := s.mempool.filter fun bytes =>
      match api.transactionId bytes with
      | .ok transactionId => decide (transactionId ∉ ids)
      | .error _ => false
    pending := s.pending \ ids
    processing := block.receipts.foldl (fun rows receipt => rows.erase receipt.transactionId)
      s.processing
    lastAccepted := block
    preferred := id }

end Runtime

namespace Entry
open InPlace

def wait (call : Call L) : InPlace (Runtime L) (Reply L) := do
  modify (Runtime.addCall call)
  pure .pending

/-- The requests that are tried on the accepted state before they are spread. -/
def triedFirst (transaction : TransactionEnvelope Json) : Bool :=
  transaction.method = "defmivm.issueOptimisticAdvance" ||
    transaction.method = "defmivm.issueOptimisticAnswer" ||
    transaction.method = "defmivm.issueOptimisticAccountSettlement"

def enqueue (bytes : Bytes) (gossip : Bool) (fault : Option String) : InPlace (Runtime L) (Reply L) := do
  check fun _ => require (Block.Sized bytes.length) "transaction size is outside the allowed range"
  let transaction ← check fun _ => api.decode bytes
  let id ← check fun _ => api.transactionId bytes
  check fun _ => noFault fault
  let known ← check fun s => pure (decide (id ∈ s.db.transactions))
  if known then pure (.enqueued id)
  else if gossip && triedFirst transaction then wait (.admitting id bytes)
  else wait (.inserting id bytes)

def admitting (id : Id) (bytes : Bytes) (clock : Option ℕ) : InPlace (Runtime L) (Reply L) := do
  let now ← check fun _ => nowSeconds clock
  let _ ← check fun s => api.apply s.lastAccepted.state bytes
    (max now s.lastAccepted.block.timestamp).toUInt64
  wait (.inserting id bytes)

def inserting (id : Id) (bytes : Bytes) : InPlace (Runtime L) (Reply L) := do
  let known ← check fun s => pure (decide (id ∈ s.pending ∨ id ∈ s.processing))
  if known then pure (.enqueued id)
  else do
    check fun s => require (s.mempool.length < maxMempoolTransactions)
      "DeFMI pending transaction pool is full"
    modify fun s => { s with pending := insert id s.pending, mempool := s.mempool ++ [bytes] }
    pure (.enqueued id)

def choosing : InPlace (Runtime L) (Reply L) := do
  let preferred ← check fun s => pure s.preferred
  wait (.finding preferred .build)

def inMemory (s : Runtime L) (id : Id) : Option (VerifiedBlock L) :=
  if s.lastAccepted.id = id then some s.lastAccepted else s.verified.lookup id

def finding (id : Id) (purpose : Purpose L) : InPlace (Runtime L) (Reply L) := do
  let found ← check fun s => pure (inMemory s id)
  match found with
  | some block => wait (.loaded id block purpose)
  | none => wait (.loading id purpose)

def storedBlock (s : Runtime L) (id : Id) : Result (VerifiedBlock L) := do
  let bytes ← okOr (s.db.blocks.lookup id) "not found"
  let parsed ← api.parseBlockBytes s.lastAccepted.state bytes
  require (parsed.id = id) "stored block ID does not match its key"
  let state ← okOr (s.db.states.lookup id) "not found"
  require (state.deploymentCryptoPolicy = api.policy)
    "stored block deployment crypto policy differs from genesis"
  api.validateHostState state
  pure { parsed with state }

def loading (id : Id) (purpose : Purpose L) (fault : Option String) : InPlace (Runtime L) (Reply L) := do
  check fun _ => noFault fault
  let block ← check fun s => storedBlock api s id
  wait (.loaded id block purpose)

def drainPool (state : ChainState L) (timestamp : UInt64) :
    InPlace (Runtime L) (Drained L) := fun s =>
  ((s.drained api state timestamp).1.map fun _ => (s.drained api state timestamp).2,
    s.setPools (s.drained api state timestamp).2)

/-- The write section of `build_block`. An error after the loop leaves the pools drained. -/
def build (parent : VerifiedBlock L) (clock : Option ℕ) : InPlace (Runtime L) (Reply L) := do
  check fun s => require (s.engineState = .normalOp) "VM is not in normal operation"
  let now ← check fun _ => nowSeconds clock
  let timestamp := max now parent.block.timestamp
  let drained ← drainPool api parent.state timestamp.toUInt64
  check fun _ => require (drained.transactions ≠ []) "no valid pending transactions"
  let block : Block :=
    ⟨parent.id, timestamp, saturatingSucc parent.block.height, drained.transactions⟩
  let bytes ← check fun _ => block.encode
  let id ← check fun _ => block.id api.digest
  let verified : VerifiedBlock L := ⟨block, bytes, id, drained.state, drained.receipts⟩
  modify (Runtime.addVerified verified)
  pure (.built verified)

def verifyCandidate (bytes : Bytes) : InPlace (Runtime L) (Reply L) := do
  let candidate ← check fun s => api.parseBlockBytes s.lastAccepted.state bytes
  let existing ← check fun s => pure (s.verified.lookup candidate.id)
  match existing with
  | some block => pure (.verified block)
  | none => wait (.finding candidate.block.parentId (.verify candidate))

/-- What `verify_candidate` computes from the parent it loaded. -/
def checked (candidate parent : VerifiedBlock L) (clock : Option ℕ) : Result (VerifiedBlock L) := do
  require (candidate.block.height = saturatingSucc parent.block.height)
    "block height does not follow its parent"
  require (parent.block.timestamp ≤ candidate.block.timestamp)
    "block timestamp precedes its parent"
  let now ← nowSeconds clock
  require (candidate.block.timestamp ≤ now + maxFutureSkewSeconds)
    "block timestamp is too far in the future"
  let result ← api.applyAll candidate.block.timestamp.toUInt64 parent.state
    candidate.block.transactions
  pure { candidate with state := result.1, receipts := result.2 }

def verify (candidate parent : VerifiedBlock L) (clock : Option ℕ) : InPlace (Runtime L) (Reply L) := do
  let block ← check fun _ => checked api candidate parent clock
  modify (Runtime.addVerified block)
  pure (.verified block)

def loaded (id : Id) (parent : VerifiedBlock L) (purpose : Purpose L) (clock : Option ℕ) :
    InPlace (Runtime L) (Reply L) :=
  match purpose with
  | .build => do
    let preferred ← check fun s => pure s.preferred
    if preferred = id then build api parent clock else wait .choosing
  | .verify candidate => verify api candidate parent clock
  | .prefer => do
    modify fun s => { s with preferred := id }
    pure .done

def proceed (clock : Option ℕ) (fault : Option String) : Call L → InPlace (Runtime L) (Reply L)
  | .admitting id bytes => admitting api id bytes clock
  | .inserting id bytes => inserting id bytes
  | .choosing => choosing
  | .finding id purpose => finding id purpose
  | .loading id purpose => loading api id purpose fault
  | .loaded id parent purpose => loaded api id parent purpose clock

def resume (index : ℕ) (clock : Option ℕ) (fault : Option String) : InPlace (Runtime L) (Reply L) := do
  let call ← check fun s => okOr s.calls[index]? "no such call"
  modify fun s => { s with calls := s.calls.eraseIdx index }
  proceed api clock fault call

/-- One critical section, its database calls included. -/
def blockAccept (id : Id) (fault : Option String) : InPlace (Runtime L) (Reply L) := do
  let block ← check fun s => okOr (s.verified.lookup id) "accepted block was not verified"
  check fun s => require (block.block.parentId = s.lastAccepted.id ∧
      block.block.height = saturatingSucc s.lastAccepted.block.height)
    "accepted block does not extend the last accepted block"
  let _ ← check fun s => okOr (s.db.states.lookup s.lastAccepted.id) "not found"
  check fun _ => noFault fault
  modify (Runtime.accepted api id block)
  pure .done

def requeue (transaction : Bytes) : InPlace (Runtime L) Unit := do
  let id ← check fun _ => api.transactionId transaction
  modify fun s =>
    let s := { s with processing := s.processing.erase id }
    if id ∉ s.lastAccepted.state.appliedTransactions ∧ id ∉ s.pending then
      { s with pending := insert id s.pending, mempool := transaction :: s.mempool }
    else s

def blockReject (id : Id) : InPlace (Runtime L) (Reply L) := do
  let block ← check fun s => okOr (s.verified.lookup id) "rejected block was not verified"
  modify fun s => { s with verified := s.verified.erase id }
  each (requeue api) block.block.transactions.reverse
  pure .done

def setState (state : EngineState) : InPlace (Runtime L) (Reply L) := do
  check fun _ => require (state ≠ .unspecified) "QOMM VM does not support an unspecified state"
  modify fun s => { s with engineState := state }
  pure .done

end Entry

/-- One step of the machine: a call arrives and runs to its first pause, or a paused
call is resumed. -/
def perform : ChainOp → InPlace (Runtime L) (Reply L)
  | .enqueue bytes gossip fault => Entry.enqueue api bytes gossip fault
  | .buildBlock => Entry.wait .choosing
  | .verifyCandidate bytes => Entry.verifyCandidate api bytes
  | .setPreference id => Entry.wait (.finding id .prefer)
  | .resume call clock fault => Entry.resume api call clock fault
  | .blockAccept id fault => Entry.blockAccept api id fault
  | .blockReject id => Entry.blockReject api id
  | .setState state => Entry.setState state

/-- The first start of a node, from the digest and the timestamp of its genesis. -/
def firstStart (genesisHash : Id) (timestamp : Int64) (emptyLedger : L) : Result (Runtime L) := do
  let block : Block := ⟨genesisHash, timestamp, 0, []⟩
  let bytes ← block.encode
  let id ← block.id api.digest
  let state : ChainState L := ⟨api.policy, ∅, 0, emptyLedger⟩
  pure
    { db := ⟨id, AList.singleton id bytes, AList.singleton id state, AList.singleton 0 id, ∅⟩
      engineState := .bootstrapping
      lastAccepted := ⟨block, bytes, id, state, []⟩
      preferred := id
      verified := ∅
      mempool := []
      pending := ∅
      processing := ∅
      calls := [] }

end Definitions

end DeFMI.Chain
