import DeFMI.NettingRuns
set_option autoImplicit false

/-!
Whether a cycle that closed is covered. Beside the commitments runs an account in whole
numbers: what each handle opened with, what it received and paid, and the cap in force.
-/

namespace DeFMI.Netting
open Lib Function PositionBook Netting.Cycle

structure Accounts where
  value : Rail → Bytes → ℤ
  limit : Rail → Bytes → ℤ

namespace Accounts

def empty : Accounts := ⟨fun _ _ => 0, fun _ _ => 0⟩

def opened (a : Accounts) (rail : Rail) (handle : Bytes) (n : ℤ) : Accounts :=
  { a with value := Function.update a.value rail (Function.update (a.value rail) handle n) }

def granted (a : Accounts) (rail : Rail) (handle : Bytes) (n : ℤ) : Accounts :=
  { a with limit := Function.update a.limit rail (Function.update (a.limit rail) handle n) }

def moved (a : Accounts) (move : Rail → Move Bytes ℤ) : Accounts :=
  { a with value := fun rail handle => a.value rail handle + (move rail).effect handle }

end Accounts

def Order.leg {V : Type} (order : Order V) : Rail → Leg V
  | .securities => order.securities
  | .cash => order.cash

def railAmount (q p : ℕ) : Rail → ℕ
  | .securities => q
  | .cash => q * p

namespace PositionBook

variable {V : Type} [AddCommGroup V]

theorem cap_insert (book : PositionBook V) (line : CreditLine V) (handle : Bytes) :
    ({ book with credit := book.credit.insert line.handle line } : PositionBook V).cap handle =
      if handle = line.handle then line.capCommitment else book.cap handle := by
  simp only [cap, Table.lookup_insert_eq_ite]
  split <;> rfl

variable [Module Scalar V] {book after : PositionBook V} {value limit : Bytes → ℤ} {orders : ℕ}
  {leg : Leg V}

/-- The whole numbers a book's commitments stand for after some orders; on a gross rail
no position is below what its cap allows. -/
structure Reads (book : PositionBook V) (value limit : Bytes → ℤ) (orders : ℕ) : Prop where
  independent : Independent book.tag.point book.key.h
  position : ∀ handle position, book.positions.lookup handle = some position →
    Opens book.tag.point book.key.h position (value handle : Scalar)
  cap : ∀ handle, Opens book.tag.point book.key.h (book.cap handle) (limit handle : Scalar)
  capFloor : ∀ handle, -(groupOrder : ℤ) < limit handle * 2
  unopened : ∀ handle, handle ∉ book.positions → limit handle = 0
  floor : ∀ handle, -(orders * 2 ^ 128 : ℤ) ≤ value handle
  covered : book.net = false → ∀ handle, 0 ≤ value handle + limit handle

theorem reads_new {key : Pedersen V} {tag : BlindedTag V} {net : Bool} {rail : String} {bits : ℕ}
    (h : new key tag net rail bits = some book)
    (hi : Independent book.tag.point book.key.h) (orders : ℕ) :
    book.Reads (fun _ => 0) (fun _ => 0) orders := by
  unfold new at h
  split at h
  · cases h
    refine ⟨hi, ?_, ?_, ?_, fun _ _ => rfl, ?_, fun _ _ => le_rfl⟩
    · intro handle position hposition
      cases hposition
    · intro handle
      simpa [cap] using (Opens.zero : Opens tag.point key.h (0 : V) 0)
    · intro handle
      rw [groupOrder_eq]
      norm_num
    · intro handle
      omega
  · cases h

theorem opens_effect {B h : V} {n : ℕ} (hdelta : Opens B h leg.delta (n : Scalar))
    (handle : Bytes) :
    Opens B h (leg.move.effect handle)
      (((Move.mk leg.payer leg.payee (n : ℤ)).effect handle : ℤ) : Scalar) := by
  have hpart : ∀ (cond : Prop) [Decidable cond],
      Opens B h (if cond then leg.delta else 0) (((if cond then (n : ℤ) else 0) : ℤ) : Scalar) := by
    intro cond _
    by_cases hcond : cond
    · simpa [hcond] using hdelta
    · simpa [hcond] using (Opens.zero : Opens B h (0 : V) 0)
  simp only [Move.effect, Leg.move, Int.cast_sub]
  exact (hpart _).sub (hpart _)

section
variable (h : book.Reads value limit orders)
include h

theorem Reads.open {handle : Bytes} {commitment : V} {n : ℤ}
    (hopen : book.open handle commitment = .ok after) (hb : book.Balanced)
    (hvalue : Signed book.tag.point book.key.h commitment n) (hn : 0 ≤ n) :
    after.Reads (update value handle n) limit orders := by
  simp only [PositionBook.open, ok_iff] at hopen
  obtain ⟨hfresh, rfl⟩ := hopen
  have hlimit := h.unopened handle fun hmem => hfresh ((hb.handles handle).mp hmem)
  refine ⟨h.independent, ?_, h.cap, h.capFloor, ?_, ?_, ?_⟩
  · grind [Reads, Signed]
  · grind [Reads]
  · grind [Reads]
  · grind [Reads]

variable [DecidableEq V]

theorem Reads.grant {ctx : CreditCtx V} {line : CreditLine V} {n : ℤ}
    (hgrant : book.grant ctx line = .ok after)
    (hcap : Signed book.tag.point book.key.h line.capCommitment n)
    (hcovers : book.net = false → 0 ≤ value line.handle + n) :
    after.Reads value (update limit line.handle n) orders := by
  obtain ⟨hmem, _, _, rfl⟩ := grant_ok hgrant
  refine ⟨h.independent, h.position, ?_, ?_, ?_, h.floor, ?_⟩
  · intro handle
    rw [cap_insert]
    by_cases heq : handle = line.handle
    · rw [if_pos heq, heq, update_self]
      exact hcap.1
    · rw [if_neg heq, update_of_ne heq]
      exact h.cap handle
  · grind [Reads, Signed]
  · grind [Reads, Signed]
  · grind [Reads, Signed]

omit h in
theorem check_cover {u : Unit} {position : V} (hnet : book.net = false)
    (h : book.check leg = .ok u) (hp : book.positions.lookup leg.payer = some position) :
    book.bits ≤ 64 ∧ ∃ n, n < 2 ^ book.bits ∧
      Holds book.tag.point book.key.h (position - leg.delta + book.cap leg.payer) n := by
  simp only [check, ok_iff] at h
  obtain ⟨_, hcover⟩ := h
  cases hc : leg.cover with
  | none => simp [checkCover, hc, hnet] at hcover
  | some cover =>
    obtain ⟨proof, commitment⟩ := cover
    simp only [checkCover, hc, hnet, hp, ok_iff, Option.some.injEq] at hcover
    obtain ⟨_, rfl, hcommitment, hproof⟩ := hcover
    rw [hcommitment] at hproof
    exact RangeProof.verifyMultiple_single hproof

theorem Reads.apply {u : Unit} {n : ℕ}
    (hcheck : book.check leg = .ok u) (happly : book.apply leg = some after)
    (hdelta : Opens book.tag.point book.key.h leg.delta (n : Scalar)) (hn : n < 2 ^ 128) :
    after.Reads (fun handle => value handle + (Move.mk leg.payer leg.payee (n : ℤ)).effect handle)
      limit (orders + 1) := by
  obtain ⟨hpayer, _, hne⟩ := check_parties hcheck
  have hshift := Shifted.of_apply hne happly
  have hrest := hshift.rest
  have htag : after.tag = book.tag := by rw [hrest]
  have hkey : after.key = book.key := by rw [hrest]
  have hcap : ∀ handle, after.cap handle = book.cap handle := by intro handle; rw [hrest]; rfl
  have hnet : after.net = book.net := by rw [hrest]
  have heffect : ∀ handle, -(n : ℤ) ≤ (Move.mk leg.payer leg.payee (n : ℤ)).effect handle := by
    intro handle
    simp only [Move.effect]
    split <;> split <;> omega
  refine ⟨?_, ?_, ?_, h.capFloor, ?_, ?_, ?_⟩
  · rw [htag, hkey]
    exact h.independent
  · intro handle position hposition
    rw [hshift.lookup, Option.map_eq_some_iff] at hposition
    obtain ⟨before, hbefore, rfl⟩ := hposition
    rw [htag, hkey, Move.effects_singleton, Int.cast_add]
    exact (h.position handle before hbefore).add (opens_effect hdelta handle)
  · intro handle
    rw [htag, hkey, hcap]
    exact h.cap handle
  · intro handle hout
    exact h.unopened handle fun hmem => hout ((hshift.mem_iff handle).mpr hmem)
  · grind [Reads]
  · intro hgross handle
    rw [hnet] at hgross
    have hcovered := h.covered hgross handle
    by_cases hhandle : handle = leg.payer
    · -- the payer is covered by the proof that came with the order
      obtain ⟨position, hposition⟩ := Option.isSome_iff_exists.mp (AList.lookup_isSome.mpr hpayer)
      obtain ⟨hbits, k, hk, hholds⟩ := check_cover hgross hcheck hposition
      have hopens := ((h.position _ _ hposition).sub hdelta).add (h.cap leg.payer)
      have hcast : ((value handle + (Move.mk leg.payer leg.payee (n : ℤ)).effect handle +
          limit handle : ℤ) : Scalar) = (k : Scalar) := by
        rw [hhandle, Move.effect_payer (m := ⟨leg.payer, leg.payee, (n : ℤ)⟩) hne]
        push_cast
        rw [← h.independent.opens_unique hopens hholds, sub_eq_add_neg]
      have hpow : 2 ^ book.bits ≤ 2 ^ 64 := Nat.pow_le_pow_right (by omega) hbits
      have heffect := heffect handle
      exact nonneg_of_cast_eq hcast (by omega) (by omega)
    · -- any other handle can only have received
      have hgain : 0 ≤ (Move.mk leg.payer leg.payee (n : ℤ)).effect handle := by
        simp only [Move.effect, if_neg hhandle]
        split <;> omega
      omega

theorem Reads.close {u : Unit} {coverage : List (Coverage V)} {handle : Bytes}
    (horders : orders < 2 ^ 64) (hnet : book.net = true)
    (hclose : book.checkClose coverage = .ok u) (hmem : handle ∈ book.positions) :
    0 ≤ value handle + limit handle := by
  obtain ⟨position, hposition⟩ := Option.isSome_iff_exists.mp (AList.lookup_isSome.mpr hmem)
  obtain ⟨hbits, k, hk, hholds⟩ := checkClose_covers hnet hclose hposition
  have hopens := (h.position _ _ hposition).add (h.cap handle)
  have hcast : ((value handle + limit handle : ℤ) : Scalar) = (k : Scalar) := by
    push_cast
    exact h.independent.opens_unique hopens hholds
  have hpow : 2 ^ book.bits ≤ 2 ^ 64 := Nat.pow_le_pow_right (by omega) hbits
  have hfloor := h.floor handle
  have hcapFloor := h.capFloor handle
  rw [groupOrder_eq] at hcapFloor
  push_cast at hcapFloor
  exact nonneg_of_cast_eq hcast (by omega) (by omega)

end

end PositionBook

namespace Cycle

variable {V Ven : Type} {c t : Cycle V Ven}

theorem book_setBook (c : Cycle V Ven) (rail : Rail) (book : PositionBook V) (rail' : Rail) :
    (c.setBook rail book).book rail' = if rail' = rail then book else c.book rail' := by
  cases rail <;> cases rail' <;> rfl

theorem setBook_rest (c : Cycle V Ven) (rail : Rail) (book : PositionBook V) :
    (c.setBook rail book).attestBatch = c.attestBatch ∧ (c.setBook rail book).key = c.key ∧
      (c.setBook rail book).admitted = c.admitted := by
  cases rail <;> exact ⟨rfl, rfl, rfl⟩

variable [AddCommGroup V] [Module Scalar V] {api : VenueApi V Ven}
  {attests : Bytes → BatchDigest V → Bytes → Bool} {settled : Ven → Bytes → Prop} {a : Accounts}

structure Keyed (c : Cycle V Ven) : Prop where
  key : ∀ rail, (c.book rail).key = c.key
  independent : Independent c.key.g c.key.h
  tag : ∀ rail, Independent (c.book rail).tag.point c.key.h

structure Tracked (c : Cycle V Ven) (a : Accounts) : Prop where
  attest : c.attestBatch = false
  keyed : c.Keyed
  sound : c.Sound
  reads : ∀ rail, (c.book rail).Reads (a.value rail) (a.limit rail) c.admitted

theorem Tracked.setBook {rail : Rail} {book : PositionBook V} {a' : Accounts}
    (h : c.Tracked a) (hbalanced : book.Balanced) (hnet : book.net = (c.book rail).net)
    (hkey : book.key = (c.book rail).key) (htag : book.tag = (c.book rail).tag)
    (hreads : book.Reads (a'.value rail) (a'.limit rail) c.admitted)
    (hother : ∀ rail', rail' ≠ rail →
      a'.value rail' = a.value rail' ∧ a'.limit rail' = a.limit rail') :
    (c.setBook rail book).Tracked a' := by
  obtain ⟨hattest', hkey', hadmitted'⟩ := setBook_rest c rail book
  refine ⟨hattest'.trans h.attest, ⟨?_, ?_, ?_⟩, h.sound.setBook hbalanced hnet, ?_⟩
  · intro rail'
    rw [book_setBook, hkey']
    split
    · rw [hkey, h.keyed.key]
    · exact h.keyed.key rail'
  · rw [hkey']
    exact h.keyed.independent
  · intro rail'
    rw [book_setBook, hkey']
    split
    · rw [htag]
      exact h.keyed.tag rail
    · exact h.keyed.tag rail'
  · intro rail'
    rw [book_setBook, hadmitted']
    by_cases heq : rail' = rail
    · rw [if_pos heq, heq]
      exact hreads
    · rw [if_neg heq, (hother rail' heq).1, (hother rail' heq).2]
      exact h.reads rail'

theorem Tracked.refused (h : c.Tracked a) (ht : SameButRefused c t) : t.Tracked a := by
  rw [ht]
  exact ⟨h.attest, ⟨h.keyed.key, h.keyed.independent, h.keyed.tag⟩, h.sound.refused rfl, h.reads⟩

theorem Started.reads (h : Started c) (hkeyed : c.Keyed) (rail : Rail) :
    (c.book rail).Reads (Accounts.empty.value rail) (Accounts.empty.limit rail) c.admitted := by
  obtain ⟨key, id, mode, securities, cash, venue, attestBatch, quorum, ⟨_, _, _, _, _, hs⟩,
    ⟨_, _, _, _, _, hc⟩, hnew⟩ := h
  simp only [new, ok_iff] at hnew
  obtain ⟨_, _, _, _, rfl⟩ := hnew
  have hi := hkeyed.tag rail
  rw [← hkeyed.key rail] at hi
  cases rail with
  | securities => exact reads_new hs hi _
  | cash => exact reads_new hc hi _

variable [DecidableEq V]

/-- Runs of an unattested cycle with the whole numbers behind them: openings that are not
negative, caps granted where `allowed`, and orders with instructed amounts. -/
inductive Valued (api : VenueApi V Ven)
    (allowed : Cycle V Ven → Accounts → Rail → Bytes → ℤ → Prop) :
    Cycle V Ven → Accounts → Prop where
  | start {c : Cycle V Ven} (hstart : Started c) (hattest : c.attestBatch = false)
      (hkeyed : c.Keyed) : Valued api allowed c Accounts.empty
  | open {c : Cycle V Ven} {a : Accounts} {rail : Rail} {handle : Bytes} {commitment : V}
      {book : PositionBook V} {n : ℤ} (hrun : Valued api allowed c a)
      (hopen : (c.book rail).open handle commitment = .ok book)
      (hvalue : Signed (c.book rail).tag.point (c.book rail).key.h commitment n) (hn : 0 ≤ n) :
      Valued api allowed (c.setBook rail book) (a.opened rail handle n)
  | grant {c : Cycle V Ven} {a : Accounts} {rail : Rail} {ctx : CreditCtx V} {line : CreditLine V}
      {book : PositionBook V} {n : ℤ} (hrun : Valued api allowed c a)
      (hgrant : (c.book rail).grant ctx line = .ok book)
      (hcap : Signed (c.book rail).tag.point (c.book rail).key.h line.capCommitment n)
      (hallowed : allowed c a rail line.handle n) :
      Valued api allowed (c.setBook rail book) (a.granted rail line.handle n)
  | admitted {c t : Cycle V Ven} {a : Accounts} {order : Order V} {now q p : ℕ}
      (hrun : Valued api allowed c a) (htaken : Cycle.admitOrder api order now c = (.ok (), t))
      (hamounts : Instructed c.key order.instruction q p) :
      Valued api allowed t (a.moved fun rail =>
        ⟨(order.leg rail).payer, (order.leg rail).payee, (railAmount q p rail : ℤ)⟩)
  | refused {c t : Cycle V Ven} {a : Accounts} {order : Order V} {now : ℕ} {e : String}
      (hrun : Valued api allowed c a)
      (htaken : Cycle.admitOrder api order now c = (.error e, t)) : Valued api allowed t a

/-- No cap granted on a gross rail is short of the position it is granted for. -/
def CoversPosition (c : Cycle V Ven) (a : Accounts) (rail : Rail) (handle : Bytes) (n : ℤ) : Prop :=
  (c.book rail).net = false → 0 ≤ a.value rail handle + n

theorem linksHold_opens {order : Order V} {q p : ℕ} (hkeyed : c.Keyed)
    (h : c.linksHold order = true) (hamounts : Instructed c.key order.instruction q p)
    (rail : Rail) :
    Opens (c.book rail).tag.point (c.book rail).key.h (order.leg rail).delta
        (railAmount q p rail : Scalar) ∧ railAmount q p rail < 2 ^ 128 := by
  simp only [linksHold, Bool.and_eq_true, linkHolds] at h
  obtain ⟨⟨hvalue, hsecurities⟩, hcash⟩ := h
  obtain ⟨hdelta, hamount⟩ := CrossGeneratorProof.verify_sound hsecurities
  obtain ⟨hcashDelta, hreference⟩ := CrossGeneratorProof.verify_sound hcash
  have hskey : c.securities.key = c.key := hkeyed.key .securities
  have hckey : c.cash.key = c.key := hkeyed.key .cash
  rw [hskey] at hamount
  rw [hckey] at hreference
  obtain ⟨hx, hy⟩ := hamounts.link_values hkeyed.independent hamount hreference hvalue
  obtain ⟨hqlt, hqplt⟩ := hamounts.value_lt
  cases rail with
  | securities => exact ⟨hx ▸ hdelta, hqlt⟩
  | cash => exact ⟨hy ▸ hcashDelta, hqplt⟩

theorem Tracked.admitted {order : Order V} {now q p : ℕ} (h : c.Tracked a)
    (htaken : admitOrder api order now c = (.ok (), t))
    (hamounts : Instructed c.key order.instruction q p) :
    t.Tracked (a.moved fun rail =>
      ⟨(order.leg rail).payer, (order.leg rail).payee, (railAmount q p rail : ℤ)⟩) := by
  obtain ⟨_, hmoved, hrest, hjudged⟩ := admitOrder_ok htaken
  have hjudge : judge api order now c = .ok () := by
    rcases hjudged with ⟨hattest, _⟩ | ⟨_, hj, _⟩
    · simp [h.attest] at hattest
    · exact hj
  obtain ⟨_, hs, hc, hlinks⟩ := judge_eq_ok.mp hjudge
  obtain ⟨hshift, hshiftCash⟩ := hmoved.shifted
  have hkey : t.key = c.key := by rw [hrest]
  have hcount : t.admitted = c.admitted + 1 := by rw [hrest]
  have hbooks : ∀ rail, (t.book rail).key = (c.book rail).key ∧
      (t.book rail).tag = (c.book rail).tag := by
    intro rail
    cases rail with
    | securities => exact hshift.generators_eq
    | cash => exact hshiftCash.generators_eq
  refine ⟨?_, ⟨?_, ?_, ?_⟩, h.sound.admitOrder htaken, ?_⟩
  · rw [hrest]
    exact h.attest
  · intro rail
    rw [(hbooks rail).1, hkey]
    exact h.keyed.key rail
  · rw [hkey]
    exact h.keyed.independent
  · intro rail
    rw [(hbooks rail).2, hkey]
    exact h.keyed.tag rail
  · intro rail
    rw [hcount]
    obtain ⟨hdelta, hlt⟩ := linksHold_opens h.keyed hlinks hamounts rail
    cases rail with
    | securities => exact (h.reads .securities).apply hs hmoved.securities hdelta hlt
    | cash => exact (h.reads .cash).apply hc hmoved.cash hdelta hlt

theorem Valued.tracked (laws : VenueJudges api settled) (h : Valued api CoversPosition c a) :
    c.Tracked a := by
  induction h with
  | start hstart hattest hkeyed => exact ⟨hattest, hkeyed, hstart.sound, hstart.reads hkeyed⟩
  | @«open» c a rail handle commitment book n _ hopen hvalue hn ih =>
    have hbalanced := ih.sound.balanced rail
    have hreads := (ih.reads rail).open hopen hbalanced hvalue hn
    have hbook := hopen
    simp only [PositionBook.open, ok_iff] at hbook
    obtain ⟨_, rfl⟩ := hbook
    refine ih.setBook (hbalanced.open hopen) rfl rfl rfl ?_ ?_
    · simpa only [Accounts.opened, update_self] using hreads
    · intro rail' hne
      exact ⟨update_of_ne hne _ _, rfl⟩
  | @grant c a rail ctx line book n _ hgrant hcap hallowed ih =>
    have hreads := (ih.reads rail).grant hgrant hcap hallowed
    have hbalanced := (ih.sound.balanced rail).grant hgrant
    obtain ⟨_, _, _, rfl⟩ := grant_ok hgrant
    refine ih.setBook hbalanced rfl rfl rfl ?_ ?_
    · simpa only [Accounts.granted, update_self] using hreads
    · intro rail' hne
      exact ⟨rfl, update_of_ne hne _ _⟩
  | admitted _ htaken hamounts ih => exact ih.admitted htaken hamounts
  | refused _ htaken ih => exact ih.refused (admitOrder_error laws.settles htaken)

/-- Where no cap granted on a gross rail is short of its position, a cycle that closes is
covered on both rails. The count of orders is a machine word. -/
theorem covered_at_close (laws : VenueJudges api settled) (hrun : Valued api CoversPosition c a)
    (hcount : c.admitted < 2 ^ 64) {securities cash : List (Coverage V)}
    {attestation : Option (BatchAttestation V)}
    (hclose : close attests securities cash attestation c = (.ok (), t)) :
    ∀ rail handle position, (t.book rail).positions.lookup handle = some position →
      Opens (t.book rail).tag.point (t.book rail).key.h position (a.value rail handle : Scalar) ∧
        Opens (t.book rail).tag.point (t.book rail).key.h ((t.book rail).cap handle)
          (a.limit rail handle : Scalar) ∧
        0 ≤ a.value rail handle + a.limit rail handle := by
  have htracked := hrun.tracked laws
  obtain ⟨hsecurities, hcash, rfl⟩ := close_ok hclose
  intro rail handle position hposition
  have hposition : (c.book rail).positions.lookup handle = some position := by
    cases rail <;> exact hposition
  have hreads := htracked.reads rail
  have hcovered : 0 ≤ a.value rail handle + a.limit rail handle := by
    rcases Bool.eq_false_or_eq_true (c.book rail).net with hnet | hnet
    · have hmem := Table.mem_of_lookup hposition
      cases rail with
      | securities => exact hreads.close hcount hnet hsecurities hmem
      | cash => exact hreads.close hcount hnet hcash hmem
    · exact hreads.covered hnet handle
  have hopens := hreads.position handle position hposition
  have hcap := hreads.cap handle
  cases rail <;> exact ⟨hopens, hcap, hcovered⟩

end Cycle

section Sample

theorem signed_plane {n : ℕ} (hn : n < 2 ^ 64) :
    Signed planeKey.g planeKey.h ((n : Scalar), 0) (n : ℤ) := by
  have hopens : Holds planeKey.g planeKey.h ((n : Scalar), 0) n := holds_plane.mpr rfl
  refine ⟨by simpa [Holds] using hopens, ?_, ?_⟩
  · rw [groupOrder_eq]
    push_cast
    omega
  · rw [groupOrder_eq]
    push_cast
    omega

theorem keyed_freshCycle (mode : Mode) : (freshCycle mode).Keyed where
  key rail := by cases rail <;> rfl
  independent := planeKey_independent
  tag rail := by cases rail <;> exact planeKey_independent

def opened (c : Cycle Plane (List Bytes)) (rail : Rail) (handle : Bytes) (n : ℕ) :
    Cycle Plane (List Bytes) :=
  c.setBook rail { c.book rail with
    positions := (c.book rail).positions.insert handle ((n : Scalar), 0)
    opening := (c.book rail).opening.insert handle ((n : Scalar), 0) }

def shortCycle : Cycle Plane (List Bytes) :=
  opened (opened (opened (opened (freshCycle .grossGross) .securities [1] 0) .securities [2] 0)
    .cash [3] 10) .cash [4] 0

def sampleLine (cap : ℕ) : CreditLine Plane :=
  ⟨[2], securitiesRail, ((cap : Scalar), 0), (((10 : ℕ) : Scalar), 0), 0,
    ⟨"qomm:credit:backing", [(100000 - 10000 * cap, 0)]⟩,
    (((100000 - 10000 * cap : ℕ) : Scalar), 0)⟩

def capped (c : Cycle Plane (List Bytes)) (cap : ℕ) : Cycle Plane (List Bytes) :=
  c.setBook .securities { c.securities with
    credit := c.securities.credit.insert [2] (sampleLine cap) }

def coveredLeg (rail : String) (payer payee : Bytes) (left : ℕ) : Leg Plane :=
  { netLeg rail payer payee with
    cover := some (⟨⟨"qomm:cycle:cover", rail, some payer⟩, [(left, 0)]⟩, ((left : Scalar), 0)) }

def coveredOrder : Order Plane :=
  sampleOrder (coveredLeg securitiesRail [2] [1] 2) (coveredLeg cashRail [3] [4] 7) [1]

def deliveredCycle : Cycle Plane (List Bytes) :=
  (Cycle.admitOrder listVenue coveredOrder 0 (capped shortCycle 5)).2

def shortAccounts : Accounts :=
  (((Accounts.empty.opened .securities [1] (0 : ℕ)).opened .securities [2] (0 : ℕ)).opened .cash [3]
    (10 : ℕ)).opened .cash [4] (0 : ℕ)

def deliveredAccounts : Accounts :=
  (shortAccounts.granted .securities [2] 5).moved fun rail =>
    ⟨(coveredOrder.leg rail).payer, (coveredOrder.leg rail).payee, (railAmount 3 1 rail : ℤ)⟩

variable {allowed : Cycle Plane (List Bytes) → Accounts → Rail → Bytes → ℤ → Prop}

theorem Cycle.Valued.opened {c : Cycle Plane (List Bytes)} {a : Accounts}
    (hrun : Valued listVenue allowed c a) (rail : Rail) (handle : Bytes) (n : ℕ)
    (hgenerators : (c.book rail).tag = ⟨planeKey.g⟩ ∧ (c.book rail).key = planeKey)
    (hfresh : handle ∉ (c.book rail).opening) (hn : n < 2 ^ 64) :
    Valued listVenue allowed (opened c rail handle n) (a.opened rail handle n) := by
  have hvalue : Signed (c.book rail).tag.point (c.book rail).key.h ((n : Scalar), 0) n := by
    rw [hgenerators.1, hgenerators.2]
    exact signed_plane hn
  refine hrun.open ?_ hvalue (Int.natCast_nonneg n)
  simp only [PositionBook.open, ok_iff]
  exact ⟨hfresh, trivial⟩

theorem shortCycle_valued : Valued listVenue allowed shortCycle shortAccounts := by
  have hstart : Valued listVenue allowed (freshCycle .grossGross) Accounts.empty :=
    .start (freshCycle_started .grossGross) rfl (keyed_freshCycle .grossGross)
  have hsecurities := (hstart.opened .securities [1] 0 ⟨rfl, rfl⟩ (by decide +kernel)
    (by norm_num)).opened .securities [2] 0 ⟨rfl, rfl⟩ (by decide +kernel) (by norm_num)
  exact (hsecurities.opened .cash [3] 10 ⟨rfl, rfl⟩ (by decide +kernel) (by norm_num)).opened
    .cash [4] 0 ⟨rfl, rfl⟩ (by decide +kernel) (by norm_num)

theorem Cycle.Valued.capped {c : Cycle Plane (List Bytes)} {a : Accounts}
    (hrun : Valued listVenue allowed c a) (cap : ℕ)
    (hgenerators : c.securities.tag = ⟨planeKey.g⟩ ∧ c.securities.key = planeKey)
    (hrail : c.securities.rail = securitiesRail) (hmem : [2] ∈ c.securities.positions)
    (hcheck : CreditCtx.check ⟨planeKey, 64⟩ (sampleLine cap) = .ok ()) (hcap : cap < 2 ^ 64)
    (hallowed : allowed c a .securities [2] cap) :
    Valued listVenue allowed (capped c cap) (a.granted .securities [2] cap) := by
  have hgrant : (c.book .securities).grant ⟨planeKey, 64⟩ (sampleLine cap) = .ok
      { c.securities with credit := c.securities.credit.insert [2] (sampleLine cap) } := by
    simp only [PositionBook.grant, ok_iff]
    exact ⟨hmem, hrail.symm, hcheck, rfl⟩
  refine hrun.grant hgrant ?_ hallowed
  rw [book, hgenerators.1, hgenerators.2]
  exact signed_plane hcap

theorem deliveredCycle_valued
    (hallowed : allowed shortCycle shortAccounts .securities [2] 5) :
    Valued listVenue allowed deliveredCycle deliveredAccounts := by
  have hcapped := shortCycle_valued.capped 5 ⟨rfl, rfl⟩ rfl (by decide +kernel)
    (by decide +kernel) (by norm_num) hallowed
  have htaken : (admitOrder listVenue coveredOrder 0 (capped shortCycle 5)).1 = .ok () := by
    decide +kernel
  exact hcapped.admitted (q := 3) (p := 1) (Prod.ext htaken rfl)
    ⟨holds_plane.mpr rfl, holds_plane.mpr (by decide +kernel), by norm_num, by norm_num⟩

theorem covered_at_close_sample :
    ∃ t, Cycle.close noQuorum [] [] none deliveredCycle = (.ok (), t) ∧
      0 ≤ deliveredAccounts.value .securities [2] + deliveredAccounts.limit .securities [2] ∧
      deliveredAccounts.value .securities [2] = -3 := by
  have hok : (Cycle.close noQuorum [] [] none deliveredCycle).1 = .ok () := by decide +kernel
  have hposition : ((Cycle.close noQuorum [] [] none deliveredCycle).2.book
      .securities).positions.lookup [2] = some (-3, 0) := by decide +kernel
  have hrun : Cycle.Valued listVenue Cycle.CoversPosition deliveredCycle deliveredAccounts :=
    deliveredCycle_valued fun _ => by decide +kernel
  obtain ⟨_, _, hcovered⟩ := Cycle.covered_at_close listVenue_judges hrun (by decide +kernel)
    (Prod.ext hok rfl) .securities [2] _ hposition
  exact ⟨_, Prod.ext hok rfl, hcovered, by decide +kernel⟩

/-- A second grant lowers the cap under the delivery, and the gross rails close unchecked. -/
theorem cap_lowered_before_close :
    ∃ (c t : Cycle Plane (List Bytes)) (a : Accounts),
      Cycle.Valued listVenue (fun _ _ _ _ _ => True) c a ∧ c.admitted = 1 ∧
        Cycle.close noQuorum [] [] none c = (.ok (), t) ∧
        t.securities.positions.lookup [2] = some (-3, 0) ∧ t.securities.cap [2] = (1, 0) ∧
        a.value .securities [2] + a.limit .securities [2] = -2 := by
  have hdelivered : Cycle.Valued listVenue (fun _ _ _ _ _ => True) deliveredCycle
      deliveredAccounts := deliveredCycle_valued trivial
  have hrun := hdelivered.capped 1 ⟨by decide +kernel, by decide +kernel⟩ (by decide +kernel)
    (by decide +kernel) (by decide +kernel) (by norm_num) trivial
  have hok : (Cycle.close noQuorum [] [] none (capped deliveredCycle 1)).1 = .ok () := by
    decide +kernel
  exact ⟨_, _, _, hrun, by decide +kernel, Prod.ext hok rfl, by decide +kernel, by decide +kernel,
    by decide +kernel⟩

end Sample
end DeFMI.Netting
