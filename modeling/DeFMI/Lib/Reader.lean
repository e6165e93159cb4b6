import DeFMI.Lib.Wire
set_option autoImplicit false

/-!
Readers that walk through a byte string by position, and what it means that a
reader inverts a format: it reads what the format writes, nothing else, and
never leaves the byte string.
-/

namespace DeFMI.Lib
open List

/-- Code returns an error, or it panics. -/
inductive Stop where
  | error (message : String)
  | panic

def Reader (α : Type) : Type := List UInt8 → ℕ → Except Stop (α × ℕ)

namespace Reader

variable {α β : Type}

instance : Monad Reader where
  pure a := fun _ i => .ok (a, i)
  bind r f := fun raw i =>
    match r raw i with
    | .ok (a, j) => f a raw j
    | .error e => .error e

def lift (x : Result α) : Reader α := fun _ i =>
  match x with
  | .ok a => .ok (a, i)
  | .error message => .error (.error message)

/-- An `expect` or `unwrap`. -/
def expect (x : Option α) : Reader α := fun _ i =>
  match x with
  | some a => .ok (a, i)
  | none => .error .panic

/-- The slice is taken after a check of what is left, and panics outside the bytes. -/
def take (truncated : String) (n : ℕ) : Reader (List UInt8) := fun raw i =>
  if raw.length - i < n then .error (.error truncated)
  else if i + n ≤ raw.length then .ok ((raw.drop i).take n, i + n)
  else .error .panic

/-- A slice as an array of a fixed length. -/
def toArray (n : ℕ) (bytes : List UInt8) : Option {bytes : List UInt8 // bytes.length = n} :=
  if h : bytes.length = n then some ⟨bytes, h⟩ else none

@[simp] theorem toArray_eq_some {n : ℕ} {bytes : List UInt8}
    {a : {bytes : List UInt8 // bytes.length = n}} : toArray n bytes = some a ↔ bytes = a.val := by
  obtain ⟨val, hval⟩ := a
  simp only [toArray]
  split
  · simp
  · simp
    grind

/-- Another length of the slice is an error here, not a panic. -/
def array (truncated : String) (n : ℕ) : Reader {bytes : List UInt8 // bytes.length = n} := do
  let bytes ← take truncated n
  lift (okOr (toArray n bytes) truncated)

def number (truncated : String) (width : ℕ) : Reader ℕ := do
  let bytes ← array truncated width
  pure (beValue bytes.val)

def u64 (truncated : String) : Reader UInt64 := do
  let n ← number truncated 8
  pure (UInt64.ofNat n)

def i64 (truncated : String) : Reader Int64 := do
  let n ← u64 truncated
  pure n.toInt64

def many (r : Reader α) : ℕ → Reader (List α)
  | 0 => pure []
  | n + 1 => do
    let a ← r
    let as ← many r n
    pure (a :: as)

/-- Nothing may be left behind the value. -/
def run (trailing : String) (r : Reader α) (raw : List UInt8) : Except Stop α :=
  match r raw 0 with
  | .error e => .error e
  | .ok (a, i) => if i ≠ raw.length then .error (.error trailing) else .ok a

/-- `w a bytes` says that `bytes` are a form of `a`. -/
structure Inverts (r : Reader α) (w : α → List UInt8 → Prop) : Prop where
  noPanic : ∀ raw i, i ≤ raw.length → r raw i ≠ .error .panic
  sound : ∀ raw i a j, i ≤ raw.length → r raw i = .ok (a, j) →
    j ≤ raw.length ∧ ∃ bytes, w a bytes ∧ raw.drop i = bytes ++ raw.drop j
  complete : ∀ raw i a bytes rest, w a bytes → i ≤ raw.length → raw.drop i = bytes ++ rest →
    r raw i = .ok (a, i + bytes.length)

variable {r : Reader α} {w w' : α → List UInt8 → Prop}

theorem bind_ok {f : α → Reader β} {raw : List UInt8} {i j : ℕ} {a : α} (h : r raw i = .ok (a, j)) :
    (r >>= f) raw i = f a raw j := by
  change (match r raw i with
    | .ok (a, j) => f a raw j
    | .error e => .error e) = _
  rw [h]

theorem bind_error {f : α → Reader β} {raw : List UInt8} {i : ℕ} {e : Stop}
    (h : r raw i = .error e) : (r >>= f) raw i = .error e := by
  change (match r raw i with
    | .ok (a, j) => f a raw j
    | .error e => .error e) = _
  rw [h]

namespace Inverts

theorem congr (h : Inverts r w) (hw : ∀ a bytes, w a bytes ↔ w' a bytes) : Inverts r w' := by
  have heq : w = w' := funext fun a => funext fun bytes => propext (hw a bytes)
  exact heq ▸ h

theorem bind {f : α → Reader β} {v : α → β → List UInt8 → Prop} (hr : Inverts r w)
    (hf : ∀ a x, w a x → Inverts (f a) (v a)) :
    Inverts (r >>= f) fun b bytes => ∃ a x y, w a x ∧ v a b y ∧ bytes = x ++ y where
  noPanic raw i hi := by
    cases h : r raw i with
    | error =>
      have hstop := hr.noPanic raw i hi
      simpa [bind_error h, h] using hstop
    | ok out =>
      obtain ⟨a, j⟩ := out
      obtain ⟨hj, x, hwx, -⟩ := hr.sound raw i a j hi h
      rw [bind_ok h]
      exact (hf a x hwx).noPanic raw j hj
  sound raw i b k hi h := by
    cases hx : r raw i with
    | error => simp [bind_error hx] at h
    | ok out =>
      obtain ⟨a, j⟩ := out
      rw [bind_ok hx] at h
      obtain ⟨hj, x, hwx, hdrop⟩ := hr.sound raw i a j hi hx
      obtain ⟨hk, y, hvy, hdrop'⟩ := (hf a x hwx).sound raw j b k hj h
      exact ⟨hk, x ++ y, ⟨a, x, y, hwx, hvy, rfl⟩, by rw [hdrop, hdrop', append_assoc]⟩
  complete raw i b bytes rest hw hi hdrop := by
    obtain ⟨a, x, y, hwx, hvy, rfl⟩ := hw
    rw [append_assoc] at hdrop
    have hlength := congrArg length hdrop
    have hnext : raw.drop (i + x.length) = y ++ rest := by
      rw [← drop_drop, hdrop, drop_left]
    simp only [length_drop, length_append] at hlength
    rw [bind_ok (hr.complete raw i a x _ hwx hi hdrop),
      (hf a x hwx).complete raw _ b y rest hvy (by omega) hnext, length_append, Nat.add_assoc]

theorem pure (a : α) : Inverts (Pure.pure a) fun b bytes => b = a ∧ bytes = [] where
  noPanic raw i hi h := by cases h
  sound raw i b j hi h := by
    cases h
    exact ⟨hi, [], ⟨rfl, rfl⟩, rfl⟩
  complete raw i b bytes rest hw hi hdrop := by
    obtain ⟨rfl, rfl⟩ := hw
    rfl

theorem lift (x : Result α) :
    Inverts (lift x) fun a bytes => x = .ok a ∧ bytes = [] := by
  cases x with
  | ok a => exact (pure a).congr fun b bytes => by simp [eq_comm]
  | error =>
    refine ⟨fun _ _ _ h => ?_, fun _ _ _ _ _ h => ?_, fun _ _ _ _ _ hw => ?_⟩
    · simp [Reader.lift] at h
    · simp [Reader.lift] at h
    · simp at hw

theorem expect {x : Option α} (h : x.isSome) :
    Inverts (expect x) fun a bytes => x = some a ∧ bytes = [] := by
  obtain ⟨a, rfl⟩ := Option.isSome_iff_exists.mp h
  exact (pure a).congr fun b bytes => by simp [eq_comm]

theorem take (truncated : String) (n : ℕ) :
    Inverts (take truncated n) fun a bytes => a = bytes ∧ bytes.length = n where
  noPanic raw i hi := by
    unfold Reader.take
    split
    · simp
    · rw [if_pos (by omega)]
      simp
  sound raw i a j hi h := by
    unfold Reader.take at h
    split at h
    · simp at h
    · rw [if_pos (by omega)] at h
      cases h
      refine ⟨by omega, _, ⟨rfl, by simp; omega⟩, ?_⟩
      rw [← drop_drop, take_append_drop]
  complete raw i a bytes rest hw hi hdrop := by
    obtain ⟨rfl, hlength⟩ := hw
    have htotal := congrArg length hdrop
    simp only [length_drop, length_append] at htotal
    simp only [Reader.take]
    rw [if_neg (by omega), if_pos (by omega), hdrop, ← hlength, take_left]

theorem many_of {p : α → Prop} (encode : α → List UInt8)
    (hr : Inverts r fun a bytes => p a ∧ bytes = encode a) (n : ℕ) :
    Inverts (many r n) fun as bytes =>
      as.length = n ∧ (∀ a ∈ as, p a) ∧ bytes = as.flatMap encode := by
  induction n with
  | zero =>
    refine (pure []).congr fun as bytes => ?_
    cases as <;> simp
  | succ n ih =>
    refine (hr.bind fun a _ _ => ih.bind fun as _ _ => pure (a :: as)).congr fun as bytes => ?_
    cases as with
    | nil => simp
    | cons => simp; grind

theorem many {encode : α → List UInt8} (hr : Inverts r fun a bytes => bytes = encode a) (n : ℕ) :
    Inverts (many r n) fun as bytes => as.length = n ∧ bytes = as.flatMap encode :=
  (many_of (p := fun _ => True) encode (hr.congr fun _ _ => by simp) n).congr fun _ _ => by simp

theorem ofArray {n : ℕ} {f : List UInt8 → Reader {bytes : List UInt8 // bytes.length = n}}
    (hf : ∀ a, a.length = n → Inverts (f a) fun b bytes => toArray n a = some b ∧ bytes = [])
    (truncated : String) :
    Inverts (Reader.take truncated n >>= f) fun a bytes => bytes = a.val := by
  refine ((take truncated n).bind fun a x hx => hf a (hx.1 ▸ hx.2)).congr fun a bytes => ?_
  simp only [toArray_eq_some]
  constructor
  · grind
  · rintro rfl
    exact ⟨_, _, [], ⟨rfl, a.property⟩, ⟨rfl, rfl⟩, by simp⟩

theorem array (truncated : String) (n : ℕ) :
    Inverts (array truncated n) fun a bytes => bytes = a.val :=
  ofArray (fun _ _ => (lift _).congr fun _ _ => by simp) truncated

theorem value {width : ℕ} {r : Reader {bytes : List UInt8 // bytes.length = width}}
    (hr : Inverts r fun a bytes => bytes = a.val) :
    Inverts (r >>= fun bytes => Pure.pure (beValue bytes.val)) fun n bytes =>
      n < 256 ^ width ∧ bytes = beBytes width n := by
  refine (hr.bind fun a _ _ => pure (beValue a.val)).congr fun n bytes => ?_
  constructor
  · rintro ⟨⟨_, rfl⟩, a, y, rfl, ⟨rfl, rfl⟩, rfl⟩
    exact ⟨beValue_lt a, by simp [beBytes_beValue]⟩
  · rintro ⟨hn, rfl⟩
    exact ⟨⟨beBytes width n, length_beBytes width n⟩, _, [], rfl,
      ⟨(beValue_beBytes hn).symm, rfl⟩, by simp⟩

theorem number (truncated : String) (width : ℕ) : Inverts (number truncated width) fun n bytes =>
    n < 256 ^ width ∧ bytes = beBytes width n :=
  (array truncated width).value

theorem u64 (truncated : String) :
    Inverts (u64 truncated) fun n bytes => bytes = beBytes 8 n.toNat := by
  refine ((number truncated 8).bind fun n _ _ => pure (UInt64.ofNat n)).congr fun n bytes => ?_
  constructor
  · rintro ⟨m, _, _, ⟨hm, rfl⟩, ⟨rfl, rfl⟩, rfl⟩
    simp [UInt64.toNat_ofNat_of_lt' hm]
  · rintro rfl
    exact ⟨n.toNat, _, [], ⟨n.toNat_lt, rfl⟩, ⟨by simp, rfl⟩, by simp⟩

theorem i64 (truncated : String) :
    Inverts (i64 truncated) fun n bytes => bytes = beBytes 8 n.toUInt64.toNat := by
  refine ((u64 truncated).bind fun n _ _ => pure n.toInt64).congr fun n bytes => ?_
  constructor
  · rintro ⟨m, _, _, rfl, ⟨rfl, rfl⟩, rfl⟩
    simp
  · rintro rfl
    exact ⟨n.toUInt64, _, [], rfl, ⟨by simp, rfl⟩, by simp⟩

theorem run_ok (h : Inverts r w) {trailing : String} {raw : List UInt8} {a : α} :
    run trailing r raw = .ok a ↔ w a raw := by
  unfold run
  constructor
  · intro hrun
    split at hrun
    · simp at hrun
    · next b i hread =>
      obtain ⟨-, bytes, hb, hraw⟩ := h.sound raw 0 b i (Nat.zero_le _) hread
      split at hrun
      · simp at hrun
      · next hend =>
        obtain rfl := Except.ok.inj hrun
        obtain rfl : i = raw.length := not_not.mp hend
        simp only [drop_zero, drop_length, append_nil] at hraw
        exact hraw ▸ hb
  · intro ha
    simp [h.complete raw 0 a raw [] ha (Nat.zero_le _) (by simp)]

theorem run_ne_panic (h : Inverts r w) (trailing : String) (raw : List UInt8) :
    run trailing r raw ≠ .error .panic := by
  have hstop := h.noPanic raw 0 (Nat.zero_le _)
  unfold run
  split
  · next hread => simpa [hread] using hstop
  · split <;> simp

end Inverts
end Reader

namespace Stop
variable {α β : Type}

def text : Stop → String
  | .error message => message
  | .panic => "panic"

/-- An error of code that cannot panic. -/
def lift (x : Result α) : Except Stop α := x.mapError .error

@[simp] theorem lift_eq_ok {x : Result α} {a : α} : lift x = .ok a ↔ x = .ok a :=
  mapError_eq_ok

theorem lift_ne_panic (x : Result α) : lift x ≠ .error .panic := by
  cases x <;> simp [lift, Except.mapError]

/-- `&bytes[i..j]`. -/
def slice (bytes : List UInt8) (i j : ℕ) : Except Stop (List UInt8) :=
  if i ≤ j ∧ j ≤ bytes.length then .ok ((bytes.drop i).take (j - i)) else .error .panic

@[simp] theorem slice_eq_ok {bytes x : List UInt8} {i j : ℕ} : slice bytes i j = .ok x ↔
    i ≤ j ∧ j ≤ bytes.length ∧ (bytes.drop i).take (j - i) = x := by
  unfold slice
  split
  · next h => simp [h]
  · next h => simp; tauto

/-- A slice is followed by what the next slice reads. -/
theorem drop_of_slice {bytes x : List UInt8} {i j : ℕ} (h : slice bytes i j = .ok x) :
    bytes.drop i = x ++ bytes.drop j ∧ x.length = j - i := by
  obtain ⟨hij, hj, rfl⟩ := slice_eq_ok.mp h
  have hdrop : bytes.drop j = (bytes.drop i).drop (j - i) := by
    rw [drop_drop, Nat.add_sub_cancel' hij]
  rw [hdrop, take_append_drop]
  simp
  omega

theorem slice_of_drop {bytes x rest : List UInt8} {i j : ℕ} (h : bytes.drop i = x ++ rest)
    (hj : i + x.length = j) (hbound : j ≤ bytes.length) :
    slice bytes i j = .ok x ∧ bytes.drop j = rest := by
  subst hj
  rw [slice_eq_ok, ← drop_drop, h]
  simp [hbound]

theorem slice_ne_panic {bytes : List UInt8} {i j : ℕ} (hi : i ≤ j) (hj : j ≤ bytes.length) :
    slice bytes i j ≠ .error .panic := by
  simp [slice, hi, hj]

theorem bind_ne_panic {x : Except Stop α} {f : α → Except Stop β} (hx : x ≠ .error .panic)
    (hf : ∀ a, x = .ok a → f a ≠ .error .panic) : (x >>= f) ≠ .error .panic := by
  cases x with
  | error => exact fun h => hx (congrArg _ (Except.error.inj h))
  | ok a => exact hf a rfl

theorem lift_bind_ne_panic {x : Result α} {f : α → Except Stop β}
    (hf : ∀ a, lift x = .ok a → f a ≠ .error .panic) : (lift x >>= f) ≠ .error .panic :=
  bind_ne_panic (lift_ne_panic x) hf

/-- Writer and reader are inverse to each other on the values of the machine types. -/
structure Codec (typed : α → Prop) (encode : α → Result (List UInt8))
    (decode : List UInt8 → Except Stop α) : Prop where
  decode_encode : ∀ a bytes, typed a → encode a = .ok bytes → decode bytes = .ok a
  encode_decode : ∀ bytes a, decode bytes = .ok a → encode a = .ok bytes
  noPanic : ∀ bytes, decode bytes ≠ .error .panic

theorem Codec.of_iff {typed : α → Prop} {encode : α → Result (List UInt8)}
    {decode : List UInt8 → Except Stop α}
    (h : ∀ {a bytes}, decode bytes = .ok a ↔ encode a = .ok bytes ∧ typed a)
    (hstop : ∀ bytes, decode bytes ≠ .error .panic) : Codec typed encode decode :=
  ⟨fun _ _ htyped hencode => h.mpr ⟨hencode, htyped⟩, fun _ _ hdecode => (h.mp hdecode).1, hstop⟩

end Stop
end DeFMI.Lib
