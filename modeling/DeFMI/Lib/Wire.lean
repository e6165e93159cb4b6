import DeFMI.Lib.Machine
import Mathlib.Algebra.GroupWithZero.Nat
import Mathlib.Data.List.Basic
import Mathlib.Data.List.Induction
import Mathlib.Tactic.Common
set_option autoImplicit false

/-!
Byte strings: big-endian numbers, a reader that takes a prefix of the bytes
left, and the cutting of a list into pieces of one size.
-/

namespace DeFMI.Lib
open List

def beBytes : ℕ → ℕ → List UInt8
  | 0, _ => []
  | k + 1, n => beBytes k (n / 256) ++ [UInt8.ofNat n]

def beValue (bytes : List UInt8) : ℕ :=
  bytes.foldl (fun value byte => value * 256 + byte.toNat) 0

@[simp] theorem length_beBytes (k n : ℕ) : (beBytes k n).length = k := by
  induction k generalizing n with
  | zero => rfl
  | succ k ih => simp [beBytes, ih]

theorem beValue_beBytes {k n : ℕ} (h : n < 256 ^ k) : beValue (beBytes k n) = n := by
  induction k generalizing n with
  | zero => simp at h; simp [beBytes, beValue, h]
  | succ k ih =>
    have hhigh : n / 256 < 256 ^ k := by
      rw [Nat.pow_succ] at h
      omega
    have hrec := ih hhigh
    simp only [beValue] at hrec
    simp only [beValue, beBytes, foldl_append, hrec, foldl_cons, foldl_nil,
      UInt8.toNat_ofNat']
    omega

theorem beBytes_beValue (bytes : List UInt8) : beBytes bytes.length (beValue bytes) = bytes := by
  induction bytes using reverseRecOn with
  | nil => rfl
  | append_singleton bytes b ih =>
    have hb := b.toNat_lt
    have hvalue : beValue (bytes ++ [b]) = beValue bytes * 256 + b.toNat := by simp [beValue]
    have hhigh : (beValue bytes * 256 + b.toNat) / 256 = beValue bytes := by omega
    have hlow : UInt8.ofNat (beValue bytes * 256 + b.toNat) = b := by
      apply UInt8.toNat_inj.mp
      simp
    rw [length_append, hvalue, length_singleton, beBytes, hhigh, hlow, ih]

theorem beValue_lt (bytes : List UInt8) : beValue bytes < 256 ^ bytes.length := by
  induction bytes using reverseRecOn with
  | nil => simp [beValue]
  | append_singleton bytes b ih =>
    have hb := b.toNat_lt
    have hvalue : beValue (bytes ++ [b]) = beValue bytes * 256 + b.toNat := by simp [beValue]
    rw [hvalue, length_append, length_singleton, pow_succ]
    omega

theorem beBytes_inj {k m n : ℕ} (hm : m < 256 ^ k) (hn : n < 256 ^ k)
    (h : beBytes k m = beBytes k n) : m = n := by
  rw [← beValue_beBytes hm, ← beValue_beBytes hn, h]

/-- Bytes behind a big-endian count of them. -/
def counted (k : ℕ) (bytes : List UInt8) : List UInt8 := beBytes k bytes.length ++ bytes

theorem counted_append_inj {k : ℕ} {a b r s : List UInt8} (ha : a.length < 256 ^ k)
    (hb : b.length < 256 ^ k) (h : counted k a ++ r = counted k b ++ s) : a = b ∧ r = s := by
  simp only [counted, append_assoc] at h
  obtain ⟨hcount, hrest⟩ := append_inj h (by simp)
  exact append_inj hrest (beBytes_inj ha hb hcount)

section Framed

variable {α β : Type} {p : α → Prop} {q : β → Prop} {f : α → List UInt8} {g : β → List UInt8}

/-- The bytes of a value can be told apart from whatever follows them. -/
def Framed (p : α → Prop) (f : α → List UInt8) : Prop :=
  ∀ ⦃a b r s⦄, p a → p b → f a ++ r = f b ++ s → a = b ∧ r = s

theorem framed_fixed (hlength : ∀ a b, (f a).length = (f b).length) (hf : Function.Injective f) :
    Framed (fun _ => True) f := by
  intro a b r s _ _ h
  obtain ⟨hvalue, hrest⟩ := append_inj h (hlength a b)
  exact ⟨hf hvalue, hrest⟩

theorem framed_beBytes (k : ℕ) : Framed (· < 256 ^ k) (beBytes k) := by
  intro a b r s ha hb h
  obtain ⟨hvalue, hrest⟩ := append_inj h (by simp)
  exact ⟨beBytes_inj ha hb hvalue, hrest⟩

theorem framed_counted (k : ℕ) : Framed (·.length < 256 ^ k) (counted k) :=
  fun _ _ _ _ ha hb h => counted_append_inj ha hb h

theorem Framed.many (hf : Framed p f) {as bs : List α} {r s : List UInt8}
    (hlength : as.length = bs.length) (ha : ∀ a ∈ as, p a) (hb : ∀ b ∈ bs, p b)
    (h : as.flatMap f ++ r = bs.flatMap f ++ s) : as = bs ∧ r = s := by
  induction as generalizing bs with
  | nil => simpa [length_eq_zero_iff.mp hlength.symm] using h
  | cons a as ih =>
    cases bs with
    | nil => simp at hlength
    | cons =>
      simp only [flatMap_cons, append_assoc, forall_mem_cons] at h ha hb
      obtain ⟨rfl, hrest⟩ := hf ha.1 hb.1 h
      obtain ⟨rfl, hend⟩ := ih (by simpa using hlength) ha.2 hb.2 hrest
      exact ⟨rfl, hend⟩

/-- A list behind its count. -/
theorem Framed.list (hf : Framed p f) (k : ℕ) :
    Framed (fun as : List α => as.length < 256 ^ k ∧ ∀ a ∈ as, p a)
      (fun as => beBytes k as.length ++ as.flatMap f) := by
  intro as bs r s ha hb h
  rw [append_assoc, append_assoc] at h
  obtain ⟨hlength, hrest⟩ := framed_beBytes k ha.1 hb.1 h
  exact hf.many hlength ha.2 hb.2 hrest

/-- A list without a count, up to the end of the bytes. -/
theorem Framed.stream (hf : Framed p f) (hne : ∀ a, f a ≠ []) {as bs : List α}
    (ha : ∀ a ∈ as, p a) (hb : ∀ b ∈ bs, p b) (h : as.flatMap f = bs.flatMap f) : as = bs := by
  induction as generalizing bs with
  | nil =>
    cases bs with
    | nil => rfl
    | cons => simp [hne] at h
  | cons a as ih =>
    cases bs with
    | nil => simp [hne] at h
    | cons =>
      simp only [flatMap_cons, forall_mem_cons] at h ha hb
      obtain ⟨rfl, hrest⟩ := hf ha.1 hb.1 h
      rw [ih ha.2 hb.2 hrest]

end Framed

section Text

theorem toList_loop (bytes : ByteArray) (i : ℕ) (read : List UInt8) :
    ByteArray.toList.loop bytes i read = read.reverse ++ bytes.data.toList.drop i := by
  rw [ByteArray.toList.loop]
  split
  · next hi =>
    have hlength : i < bytes.data.toList.length := by simpa using hi
    have hsize : i < bytes.data.size := by simpa using hi
    have hget : bytes.get! i = bytes.data.toList[i] := by
      simpa [ByteArray.get!] using getElem!_pos bytes.data i hsize
    rw [toList_loop bytes (i + 1), drop_eq_getElem_cons hlength, hget]
    simp
  · next hi =>
    rw [drop_eq_nil_of_le (by simpa using Nat.le_of_not_lt hi), append_nil]
termination_by bytes.size - i

theorem toList_eq_data (bytes : ByteArray) : bytes.toList = bytes.data.toList := by
  rw [ByteArray.toList, toList_loop, reverse_nil, nil_append, drop_zero]

/-- A text is known from its bytes. -/
theorem toUTF8_toList_inj {s t : String} (h : s.toUTF8.toList = t.toUTF8.toList) : s = t := by
  rw [toList_eq_data, toList_eq_data] at h
  exact String.toByteArray_inj.mp (ByteArray.ext (Array.toList_inj.mp h))

end Text

section Reader
variable {ε : Type}

/-- The next `length` bytes and what is left; `truncated` when there are fewer. -/
def take (truncated : ε) (length : ℕ) (bytes : List UInt8) :
    Except ε (List UInt8 × List UInt8) := do
  require (length ≤ bytes.length) truncated
  pure (bytes.take length, bytes.drop length)

def takeNumber (truncated : ε) (width : ℕ) (bytes : List UInt8) : Except ε (ℕ × List UInt8) := do
  let (number, rest) ← take truncated width bytes
  pure (beValue number, rest)

theorem take_append {truncated : ε} {length : ℕ} {bytes : List UInt8} (h : bytes.length = length)
    (rest : List UInt8) : take truncated length (bytes ++ rest) = .ok (bytes, rest) := by
  subst h
  refine bind_eq_ok.mpr ⟨(), require_eq_ok.mpr (by simp), ?_⟩
  simp

theorem takeNumber_append {truncated : ε} {width n : ℕ} (h : n < 256 ^ width)
    (rest : List UInt8) :
    takeNumber truncated width (beBytes width n ++ rest) = .ok (n, rest) := by
  simp [takeNumber, take_append (length_beBytes width n), beValue_beBytes h]

end Reader

section Chunks
variable {α : Type}

/-- Pieces of `n` elements in order; the last one may be shorter. -/
def chunks (n : ℕ) (l : List α) : List (List α) :=
  (List.range ((l.length + n - 1) / n)).map fun i => (l.drop (i * n)).take n

@[simp] theorem length_chunks (n : ℕ) (l : List α) :
    (chunks n l).length = (l.length + n - 1) / n := by
  simp [chunks]

theorem getElem?_chunks {n : ℕ} {l : List α} {i : ℕ} (h : i < (chunks n l).length) :
    (chunks n l)[i]? = some ((l.drop (i * n)).take n) := by
  rw [length_chunks] at h
  simp [chunks, h]

theorem flatten_pieces (n k : ℕ) (l : List α) :
    ((range k).map fun i => (l.drop (i * n)).take n).flatten = l.take (k * n) := by
  induction k with
  | zero => simp
  | succ k ih =>
    rw [range_succ, map_append, flatten_append, ih, Nat.succ_mul, take_add]
    simp

theorem le_chunks_mul {n m : ℕ} (hn : 0 < n) : m ≤ (m + n - 1) / n * n := by
  have hmod := Nat.mod_lt (m + n - 1) hn
  have hdiv := Nat.div_add_mod' (m + n - 1) n
  omega

theorem chunks_mul_lt {n m i : ℕ} (hi : i < (m + n - 1) / n) : i * n < m := by
  have hn : 0 < n := by
    cases n with
    | zero => simp at hi
    | succ => omega
  have hdiv := Nat.div_mul_le_self (m + n - 1) n
  have hnext : (i + 1) * n ≤ (m + n - 1) / n * n := Nat.mul_le_mul_right n hi
  rw [Nat.succ_mul] at hnext
  omega

theorem flatten_chunks {n : ℕ} (hn : 0 < n) (l : List α) : (chunks n l).flatten = l := by
  rw [chunks, flatten_pieces]
  exact take_of_length_le (le_chunks_mul hn)

theorem length_chunk {n : ℕ} {l c : List α} {i : ℕ} (hc : (chunks n l)[i]? = some c) :
    c.length = if i + 1 = (chunks n l).length then l.length - i * n else n := by
  obtain ⟨hi, -⟩ := List.getElem?_eq_some_iff.mp hc
  rw [getElem?_chunks hi] at hc
  cases hc
  rw [length_chunks] at hi
  have hn : 0 < n := by
    cases n with
    | zero => simp at hi
    | succ => omega
  have hhere := chunks_mul_lt hi
  have hall := le_chunks_mul (m := l.length) hn
  rw [length_take, length_drop, length_chunks]
  by_cases hlast : i + 1 = (l.length + n - 1) / n
  · rw [if_pos hlast]
    rw [← hlast, Nat.succ_mul] at hall
    omega
  · rw [if_neg hlast]
    have hnext := chunks_mul_lt (m := l.length) (n := n) (i := i + 1) (by omega)
    rw [Nat.succ_mul] at hnext
    omega

end Chunks

end DeFMI.Lib
