import DeFMI.Ledger
import DeFMI.Lib.Reader
set_option autoImplicit false

/-!
Blocks and their canonical bytes.
-/

namespace DeFMI
open Lib Stop Reader

structure Block where
  parentId : Id
  timestamp : Int64
  height : UInt64
  transactions : List Bytes
  deriving DecidableEq

namespace Block

def magic : Bytes := utf8 "QOMMBLK1"
def maxTransactions : ℕ := 32
def maxTransactionBytes : ℕ := 2 ^ 20
def maxBlockBytes : ℕ := 3 * 2 ^ 19

/-- One definition for the size test of `validate` and of `decode`. -/
def Sized (length : ℕ) : Prop := ¬(length = 0 ∨ maxTransactionBytes < length)

instance (length : ℕ) : Decidable (Sized length) := inferInstanceAs (Decidable (¬_))

def validate (block : Block) : Check := do
  require (0 ≤ block.timestamp) "block timestamp cannot be negative"
  require (block.transactions.length ≤ maxTransactions)
    ("block has " ++ toString block.transactions.length ++ " transactions; maximum is "
      ++ toString maxTransactions)
  require (∀ transaction ∈ block.transactions, Sized transaction.length)
    "block contains an empty or oversized transaction"

def encodeTransactions (transactions : List Bytes) : Bytes :=
  transactions.flatMap fun transaction => beBytes 4 transaction.length ++ transaction

def encode (block : Block) : Result Bytes := do
  block.validate
  let encoded := magic ++ (block.parentId.val ++ (beBytes 8 block.timestamp.toUInt64.toNat ++
    (beBytes 8 block.height.toNat ++ (beBytes 2 block.transactions.length ++
      encodeTransactions block.transactions))))
  require (encoded.length ≤ maxBlockBytes)
    ("block has " ++ toString encoded.length ++ " bytes; maximum is " ++ toString maxBlockBytes)
  pure encoded

def readTransaction : Reader Bytes := do
  let length ← Reader.number "block is truncated" 4
  Reader.lift (require (Sized length) "block transaction size is outside the allowed range")
  Reader.take "block is truncated" length

def read : Reader Block := do
  let start ← Reader.take "block is truncated" 8
  Reader.lift (require (start = magic) "block magic or version is unsupported")
  let parentId ← Reader.array "block is truncated" 32
  let timestamp ← Reader.i64 "block is truncated"
  let height ← Reader.u64 "block is truncated"
  let count ← Reader.number "block is truncated" 2
  Reader.lift (require (count ≤ maxTransactions) "block transaction count exceeds the limit")
  let transactions ← Reader.many readTransaction count
  pure ⟨parentId, timestamp, height, transactions⟩

/-- The code with its slices, which could panic. -/
def decodeBytes (encoded : Bytes) : Except Stop Block := do
  lift (require (encoded ≠ [] ∧ encoded.length ≤ maxBlockBytes)
    "block size is outside the allowed range")
  let block ← read.run "block contains trailing bytes" encoded
  lift block.validate
  pure block

/-- What a caller gets, once `decodeBytes_ne_panic` is known. -/
def decode (encoded : Bytes) : Result Block :=
  (decodeBytes encoded).mapError text

def id {H : Type} (digest : Bytes → H) (block : Block) : Result H := do
  let bytes ← block.encode
  pure (digest bytes)

theorem length_magic : magic.length = 8 := by decide +kernel

theorem validate_ok {block : Block} :
    block.validate = .ok () ↔ 0 ≤ block.timestamp ∧ block.transactions.length ≤ maxTransactions ∧
      ∀ transaction ∈ block.transactions, Sized transaction.length := by
  simp only [validate, bind_eq_ok, require_eq_ok, exists_const]

theorem readTransaction_inverts : Inverts readTransaction fun transaction bytes =>
    Sized transaction.length ∧ bytes = beBytes 4 transaction.length ++ transaction := by
  refine ((Inverts.number _ 4).bind fun n _ _ => (Inverts.lift _).bind fun _ _ _ =>
    Inverts.take _ n).congr fun transaction bytes => ?_
  simp only [require_eq_ok]
  constructor
  · grind
  · rintro ⟨hsized, rfl⟩
    have hwidth : transaction.length < 256 ^ 4 := by
      simp only [Sized, maxTransactionBytes] at hsized
      omega
    exact ⟨_, _, _, ⟨hwidth, rfl⟩, ⟨(), [], _, ⟨hsized, rfl⟩, ⟨rfl, rfl⟩, rfl⟩, by simp⟩

/-- What `encode` writes. -/
def wire (block : Block) : Bytes :=
  magic ++ (block.parentId.val ++ (beBytes 8 block.timestamp.toUInt64.toNat ++
    (beBytes 8 block.height.toNat ++ (beBytes 2 block.transactions.length ++
      encodeTransactions block.transactions))))

theorem read_inverts : Inverts read fun block bytes =>
    block.transactions.length ≤ maxTransactions ∧
      (∀ transaction ∈ block.transactions, Sized transaction.length) ∧ bytes = block.wire := by
  refine ((Inverts.take _ 8).bind fun start _ _ => (Inverts.lift _).bind fun _ _ _ =>
    (Inverts.array _ 32).bind fun parentId _ _ => (Inverts.i64 _).bind
    fun timestamp _ _ => (Inverts.u64 _).bind fun height _ _ =>
    (Inverts.number _ 2).bind fun count _ _ => (Inverts.lift _).bind fun _ _ _ =>
    (readTransaction_inverts.many_of _ count).bind fun transactions _ _ =>
    Inverts.pure _).congr fun block bytes => ?_
  obtain ⟨parentId, timestamp, height, transactions⟩ := block
  have hcount : transactions.length ≤ maxTransactions → transactions.length < 65536 := by
    unfold maxTransactions
    omega
  simp [wire, encodeTransactions, length_magic]
  tauto

theorem encode_eq_ok {block : Block} {bytes : Bytes} :
    block.encode = .ok bytes ↔
      block.validate = .ok () ∧ bytes.length ≤ maxBlockBytes ∧ bytes = block.wire := by
  simp only [encode, ok_iff, wire]
  grind

theorem decodeBytes_eq_ok {block : Block} {bytes : Bytes} :
    decodeBytes bytes = .ok block ↔ block.encode = .ok bytes := by
  have hwire : block.wire ≠ [] := by simp [wire, ← List.length_eq_zero_iff, length_magic]
  simp only [decodeBytes, ok_iff, lift_eq_ok, read_inverts.run_ok, encode_eq_ok, validate_ok]
  grind

theorem decodeBytes_ne_panic (bytes : Bytes) : decodeBytes bytes ≠ .error .panic :=
  lift_bind_ne_panic fun _ _ =>
    bind_ne_panic (read_inverts.run_ne_panic _ _) fun _ _ =>
      lift_bind_ne_panic fun _ _ => nofun

theorem decode_encode {block : Block} {bytes : Bytes} (h : block.encode = .ok bytes) :
    decode bytes = .ok block :=
  mapError_eq_ok.mpr (decodeBytes_eq_ok.mpr h)

/-- The codec is a bijection between the valid blocks and the bytes it accepts, it answers every
byte string without leaving it, and blocks that differ have other bytes and another id. -/
theorem codec {H : Type} {digest : Bytes → H} (hdigest : Function.Injective digest) :
    (∀ block bytes, block.encode = .ok bytes → decodeBytes bytes = .ok block) ∧
    (∀ bytes block, decodeBytes bytes = .ok block → block.encode = .ok bytes) ∧
    (∀ bytes, decodeBytes bytes ≠ .error .panic) ∧
    (∀ bytes block, decodeBytes bytes = .ok block →
      block.transactions.length ≤ maxTransactions ∧
      (∀ transaction ∈ block.transactions,
        0 < transaction.length ∧ transaction.length ≤ maxTransactionBytes) ∧
      bytes.length ≤ maxBlockBytes) ∧
    ∀ (block block' : Block) bytes bytes' id id',
      block.encode = .ok bytes → block'.encode = .ok bytes' →
      block.id digest = .ok id → block'.id digest = .ok id' → block ≠ block' →
      bytes ≠ bytes' ∧ id ≠ id' := by
  refine ⟨fun _ _ => decodeBytes_eq_ok.mpr, fun _ _ => decodeBytes_eq_ok.mp, decodeBytes_ne_panic,
    fun bytes block h => ?_, fun block block' bytes bytes' i i' hb hb' hid hid' hne => ?_⟩
  · obtain ⟨hvalid, hsize, -⟩ := encode_eq_ok.mp (decodeBytes_eq_ok.mp h)
    obtain ⟨-, hcount, hsized⟩ := validate_ok.mp hvalid
    refine ⟨hcount, fun transaction htransaction => ?_, hsize⟩
    have := hsized transaction htransaction
    simp only [Sized] at this
    omega
  · have hbytes : bytes ≠ bytes' := by
      rintro rfl
      have hsame := (decodeBytes_eq_ok.mpr hb).symm.trans (decodeBytes_eq_ok.mpr hb')
      exact hne (Except.ok.inj hsame)
    simp only [id, hb, hb', ok_iff, Except.ok.injEq, exists_eq_left'] at hid hid'
    subst hid hid'
    exact ⟨hbytes, hdigest.ne hbytes⟩

def pairBlock (height : UInt64) : Block := ⟨Id.fill 7, 60, height, [[1, 2], [3]]⟩

theorem codec_pairBlock :
    decodeBytes (pairBlock 1).wire = .ok (pairBlock 1) ∧
      (pairBlock 1).wire ≠ (pairBlock 2).wire := by
  have hdigest : Function.Injective fun bytes : Bytes => bytes := fun _ _ h => h
  have hcodec := codec hdigest
  exact ⟨hcodec.1 _ _ (by decide +kernel), (hcodec.2.2.2.2 (pairBlock 1) (pairBlock 2)
    (pairBlock 1).wire (pairBlock 2).wire (pairBlock 1).wire (pairBlock 2).wire
    (by decide +kernel) (by decide +kernel) (by decide +kernel) (by decide +kernel) (by decide)).1⟩

end Block

end DeFMI
