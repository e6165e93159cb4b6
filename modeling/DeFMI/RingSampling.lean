import DeFMI.Lib.Affine
import Mathlib.Data.Finset.Card
import Mathlib.Data.List.Range
import Mathlib.Data.List.Perm.Basic
import Mathlib.Data.Nat.Log
set_option autoImplicit false

/-!
Decoy rings: positions of the pool drawn by a 64-bit generator until enough
different ones are found, then shuffled.
-/

namespace DeFMI
open Lib List Function

inductive RingError
  | notAPowerOfTwo
  | poolTooSmall
  | notInThePool
  deriving DecidableEq, Repr

def nextState (state : UInt64) : UInt64 := state * 6364136223846793005 + 1442695040888963407

/-- The top 31 bits of the state, below `n`. -/
def draw (state : UInt64) (n : ℕ) : ℕ := (state >>> 33).toNat % n

def drawn (floor span : ℕ) (state : UInt64) : ℕ := floor + draw state span

/-- The rejection loop; `none` when the fuel ends before the ring is full. -/
def fillRing (floor span size : ℕ) : ℕ → UInt64 → List ℕ → Option (UInt64 × List ℕ)
  | 0, state, ring => if ring.length < size then none else some (state, ring)
  | fuel + 1, state, ring =>
    if ring.length < size then
      let state := nextState state
      let candidate := drawn floor span state
      fillRing floor span size fuel state
        (if candidate ∈ ring then ring else ring ++ [candidate])
    else some (state, ring)

def swap (ring : List ℕ) (i j : ℕ) : List ℕ :=
  if h : i < ring.length ∧ j < ring.length then
    (ring.set i (ring.get ⟨j, h.2⟩)).set j (ring.get ⟨i, h.1⟩)
  else ring

/-- The loop over `i` downwards to one. -/
def shuffle : ℕ → UInt64 → List ℕ → List ℕ
  | 0, _, ring => ring
  | i + 1, state, ring =>
    let state := nextState state
    shuffle i state (swap ring (i + 1) (draw state (i + 2)))

def sampleRing (fuel floor span index size : ℕ) (seed : UInt64) : Option (List ℕ) :=
  (fillRing floor span size fuel (seed ||| 1) [index]).map
    fun (state, ring) => shuffle (ring.length - 1) state ring

def isPowerOfTwo (n : ℕ) : Bool := 2 ^ n.log2 = n

/-- How far back the window reaches: it holds the ring and covers the real note. -/
def ringSpan (pool index size window : ℕ) : ℕ := min (max (max window size) (pool - index)) pool

def ringRecent (fuel pool index size window : ℕ) (seed : UInt64) :
    Option (Except RingError (List ℕ)) :=
  if size < 2 ∨ isPowerOfTwo size = false then some (.error .notAPowerOfTwo)
  else if pool < size then some (.error .poolTooSmall)
  else if pool ≤ index then some (.error .notInThePool)
  else
    let span := ringSpan pool index size window
    (sampleRing fuel (pool - span) span index size seed).map .ok

def ringFor (fuel pool index size : ℕ) (seed : UInt64) : Option (Except RingError (List ℕ)) :=
  if size < 2 ∨ isPowerOfTwo size = false then some (.error .notAPowerOfTwo)
  else if pool < size then some (.error .poolTooSmall)
  else (sampleRing fuel 0 pool index size seed).map .ok

example : ringRecent 8 10 9 4 5 7 = some (.ok [6, 9, 8, 5]) := by decide +kernel

theorem nextState_iterate_toNat (state : UInt64) (n : ℕ) :
    (nextState^[n] state).toNat ≡
      (affine (4 * 1591034055961698251 + 1) (2 * 721347520444481703 + 1))^[n] state.toNat
        [MOD 2 ^ 64] := by
  induction n with
  | zero => rfl
  | succ n ih =>
    rw [iterate_succ_apply', iterate_succ_apply']
    have hstep : (nextState (nextState^[n] state)).toNat ≡
        6364136223846793005 * (nextState^[n] state).toNat + 1442695040888963407 [MOD 2 ^ 64] := by
      simp [nextState, Nat.ModEq, Nat.mul_comm]
    exact hstep.trans ((ih.mul_left _).add_right _)

theorem exists_nextState_iterate (state target : UInt64) : ∃ n, nextState^[n] state = target := by
  obtain ⟨n, hn⟩ := exists_affine_iterate_modEq (u := 1591034055961698251)
    (v := 721347520444481703) 64 state.toNat target.toNat
  refine ⟨n, UInt64.toNat_inj.mp ?_⟩
  exact ((nextState_iterate_toNat state n).trans hn).eq_of_lt_of_lt (UInt64.toNat_lt _)
    (UInt64.toNat_lt _)

theorem exists_draw {span : ℕ} (hspan : span ≤ 2 ^ 31) {k : ℕ} (hk : k < span) (state : UInt64) :
    ∃ n, draw (nextState^[n] (nextState state)) span = k := by
  obtain ⟨n, hn⟩ := exists_nextState_iterate (nextState state) (UInt64.ofNat (k * 2 ^ 33))
  refine ⟨n, ?_⟩
  have htop : (UInt64.ofNat (k * 2 ^ 33) >>> 33).toNat = k := by
    simp [UInt64.toNat_shiftRight, Nat.shiftRight_eq_div_pow]
    omega
  rw [hn, draw, htop, Nat.mod_eq_of_lt hk]

section Fill

variable {floor span size : ℕ}

structure PartialRing (floor span size : ℕ) (ring : List ℕ) : Prop where
  nodup : ring.Nodup
  short : ring.length ≤ size
  window : ∀ i ∈ ring, floor ≤ i ∧ i < floor + span

variable {ring : List ℕ} {fuel : ℕ}

theorem PartialRing.grow {k : ℕ} (h : PartialRing floor span size ring)
    (hroom : ring.length < size) (hnew : k ∉ ring) (hk : floor ≤ k ∧ k < floor + span) :
    PartialRing floor span size (ring ++ [k]) where
  nodup := by
    rw [nodup_append_comm]
    exact nodup_cons.mpr ⟨hnew, h.nodup⟩
  short := by simp; omega
  window := by
    intro i hi
    rcases mem_append.mp hi with hold | hlast
    · exact h.window i hold
    · rwa [mem_singleton.mp hlast]

theorem drawn_window (hspan : 0 < span) (state : UInt64) :
    floor ≤ drawn floor span state ∧ drawn floor span state < floor + span := by
  have hlt := Nat.mod_lt (state >>> 33).toNat hspan
  simp only [drawn, draw]
  omega

theorem fillRing_full (h : ¬ ring.length < size) (fuel : ℕ) (state : UInt64) :
    fillRing floor span size fuel state ring = some (state, ring) := by
  cases fuel <;> simp [fillRing, h]

theorem fillRing_succ (h : ring.length < size) {state : UInt64} :
    fillRing floor span size (fuel + 1) state ring =
      fillRing floor span size fuel (nextState state)
        (if drawn floor span (nextState state) ∈ ring then ring
        else ring ++ [drawn floor span (nextState state)]) := by
  simp [fillRing, h]

theorem fillRing_mono {state : UInt64} {out : UInt64 × List ℕ}
    (h : fillRing floor span size fuel state ring = some out) (more : ℕ) :
    fillRing floor span size (fuel + more) state ring = some out := by
  induction fuel generalizing state ring with
  | zero =>
    by_cases hroom : ring.length < size
    · simp [fillRing, hroom] at h
    · rw [fillRing_full hroom] at h ⊢
      exact h
  | succ fuel ih =>
    by_cases hroom : ring.length < size
    · rw [Nat.add_right_comm, fillRing_succ hroom]
      rw [fillRing_succ hroom] at h
      exact ih h
    · rw [fillRing_full hroom] at h ⊢
      exact h

/-- Partial correctness: a ring that is returned is full, and keeps what it started with. -/
theorem fillRing_ok {state state' : UInt64} {ring out : List ℕ} (hspan : 0 < span)
    (hring : PartialRing floor span size ring)
    (h : fillRing floor span size fuel state ring = some (state', out)) :
    PartialRing floor span size out ∧ out.length = size ∧ ring ⊆ out := by
  induction fuel generalizing state ring with
  | zero =>
    by_cases hroom : ring.length < size
    · simp [fillRing, hroom] at h
    · rw [fillRing_full hroom, Option.some.injEq, Prod.mk.injEq] at h
      obtain ⟨_, rfl⟩ := h
      have hshort := hring.short
      exact ⟨hring, by omega, Subset.refl _⟩
  | succ fuel ih =>
    by_cases hroom : ring.length < size
    · rw [fillRing_succ hroom] at h
      by_cases hold : drawn floor span (nextState state) ∈ ring
      · rw [if_pos hold] at h
        exact ih hring h
      · rw [if_neg hold] at h
        obtain ⟨hout, hlength, hkept⟩ := ih (hring.grow hroom hold (drawn_window hspan _)) h
        exact ⟨hout, hlength, fun i hi => hkept (mem_append_left _ hi)⟩
    · rw [fillRing_full hroom, Option.some.injEq, Prod.mk.injEq] at h
      obtain ⟨_, rfl⟩ := h
      have hshort := hring.short
      exact ⟨hring, by omega, Subset.refl _⟩

theorem exists_not_mem (floor : ℕ) (h : ring.length < span) :
    ∃ k < span, floor + k ∉ ring := by
  by_contra! hall
  have hsub : (range span).map (floor + ·) ⊆ ring := by
    intro i hi
    obtain ⟨k, hk, rfl⟩ := mem_map.mp hi
    exact hall k (mem_range.mp hk)
  have hnodup : ((range span).map (floor + ·)).Nodup :=
    nodup_range.map (add_right_injective floor)
  have hle := (hnodup.subperm hsub).length_le
  simp at hle
  omega

/-- The rejected draws before a fresh one: the state moves on, the ring does not. -/
theorem fillRing_of_fresh (hroom : ring.length < size)
    (hgrow : ∀ state k, k ∉ ring → ∃ fuel, (fillRing floor span size fuel state (ring ++ [k])).isSome)
    (n : ℕ) (state : UInt64) (hfresh : drawn floor span (nextState^[n] (nextState state)) ∉ ring) :
    ∃ fuel, (fillRing floor span size fuel state ring).isSome := by
  induction n generalizing state with
  | zero =>
    rw [iterate_zero_apply] at hfresh
    obtain ⟨fuel, hfuel⟩ := hgrow (nextState state) _ hfresh
    exact ⟨fuel + 1, by rwa [fillRing_succ hroom, if_neg hfresh]⟩
  | succ n ih =>
    rw [iterate_succ_apply] at hfresh
    by_cases hold : drawn floor span (nextState state) ∈ ring
    · obtain ⟨fuel, hfuel⟩ := ih (nextState state) hfresh
      exact ⟨fuel + 1, by rwa [fillRing_succ hroom, if_pos hold]⟩
    · obtain ⟨fuel, hfuel⟩ := hgrow (nextState state) _ hold
      exact ⟨fuel + 1, by rwa [fillRing_succ hroom, if_neg hold]⟩

theorem fillRing_terminates (floor : ℕ) (hspan : span ≤ 2 ^ 31) (hsize : size ≤ span) (ring : List ℕ)
    (state : UInt64) : ∃ fuel, (fillRing floor span size fuel state ring).isSome := by
  -- On the number of positions still missing.
  induction hmissing : size - ring.length generalizing ring state with
  | zero => exact ⟨0, by simp [fillRing_full (show ¬ ring.length < size by omega)]⟩
  | succ missing ih =>
    obtain ⟨k, hk, hnew⟩ := exists_not_mem floor (show ring.length < span by omega)
    obtain ⟨n, hn⟩ := exists_draw hspan hk state
    refine fillRing_of_fresh (by omega) (fun state k _ => ih (ring ++ [k]) state ?_) n state ?_
    · simp
      omega
    · simpa [drawn, hn] using hnew

end Fill

theorem swap_perm (ring : List ℕ) (i j : ℕ) : (swap ring i j).Perm ring := by
  unfold swap
  split
  · next h => exact set_set_perm h.1 h.2
  · exact Perm.refl _

theorem shuffle_perm (i : ℕ) (state : UInt64) (ring : List ℕ) :
    (shuffle i state ring).Perm ring := by
  induction i generalizing state ring with
  | zero => exact Perm.refl _
  | succ i ih => exact (ih _ _).trans (swap_perm _ _ _)

structure IsRing (floor span index size : ℕ) (ring : List ℕ) : Prop where
  nodup : ring.Nodup
  length : ring.length = size
  real : index ∈ ring
  window : ∀ i ∈ ring, floor ≤ i ∧ i < floor + span

theorem sampleRing_terminates (floor : ℕ) {span index size : ℕ} (hspan : span ≤ 2 ^ 31)
    (hsize : size ≤ span) (hpos : 0 < size) (hindex : floor ≤ index ∧ index < floor + span)
    (seed : UInt64) :
    ∃ fuel ring, (∀ more, sampleRing (fuel + more) floor span index size seed = some ring) ∧
      IsRing floor span index size ring := by
  obtain ⟨fuel, hfuel⟩ := fillRing_terminates floor hspan hsize [index] (seed ||| 1)
  obtain ⟨⟨state, filled⟩, hfilled⟩ := Option.isSome_iff_exists.mp hfuel
  have hstart : PartialRing floor span size [index] :=
    ⟨nodup_singleton _, hpos, by simpa using hindex⟩
  obtain ⟨hring, hlength, hkept⟩ := fillRing_ok (by omega) hstart hfilled
  have hperm := shuffle_perm (filled.length - 1) state filled
  refine ⟨fuel, shuffle (filled.length - 1) state filled, fun more => ?_, ?_⟩
  · simp [sampleRing, fillRing_mono hfilled more]
  · exact ⟨hperm.nodup_iff.mpr hring.nodup, hperm.length_eq.trans hlength,
      hperm.mem_iff.mpr (hkept (by simp)), fun i hi => hring.window i (hperm.mem_iff.mp hi)⟩

theorem ring_sampling_terminates (pool index size window : ℕ) (seed : UInt64)
    (hpool : pool ≤ 2 ^ 31) (hindex : index < pool) (htwo : 2 ≤ size)
    (hpower : ∃ k, size = 2 ^ k) (hsize : size ≤ pool) :
    (∃ fuel ring, (∀ more, ringRecent (fuel + more) pool index size window seed = some (.ok ring)) ∧
      ring.Nodup ∧ ring.length = size ∧ index ∈ ring ∧
      ∀ i ∈ ring, pool - min (max (max window size) (pool - index)) pool ≤ i ∧ i < pool) ∧
    ∃ fuel ring, (∀ more, ringFor (fuel + more) pool index size seed = some (.ok ring)) ∧
      ring.Nodup ∧ ring.length = size ∧ index ∈ ring ∧ ∀ i ∈ ring, i < pool := by
  have hpow : isPowerOfTwo size = true := by
    obtain ⟨k, rfl⟩ := hpower
    simp [isPowerOfTwo, Nat.log2_two_pow]
  have hspan : ringSpan pool index size window ≤ pool := by simp [ringSpan]
  constructor
  · obtain ⟨fuel, ring, hrun, hring⟩ := sampleRing_terminates
      (pool - ringSpan pool index size window) (hspan.trans hpool)
      (show size ≤ ringSpan pool index size window by simp [ringSpan]; omega) (by omega)
      (show _ ∧ index < _ by simp [ringSpan]; omega) seed
    refine ⟨fuel, ring, fun more => ?_, hring.nodup, hring.length, hring.real, fun i hi => ?_⟩
    · simp [ringRecent, hpow, htwo.not_gt, hsize.not_gt, hindex.not_ge, hrun more]
    · have hwindow := hring.window i hi
      simp only [ringSpan] at hwindow
      omega
  · obtain ⟨fuel, ring, hrun, hring⟩ := sampleRing_terminates 0 hpool hsize (by omega)
      (show 0 ≤ index ∧ index < 0 + pool by omega) seed
    refine ⟨fuel, ring, fun more => ?_, hring.nodup, hring.length, hring.real, fun i hi => ?_⟩
    · simp [ringFor, hpow, htwo.not_gt, hsize.not_gt, hrun more]
    · have hwindow := hring.window i hi
      omega

theorem ring_sampling_terminates_ten :
    (∃ fuel ring, (∀ more, ringRecent (fuel + more) 10 9 4 5 7 = some (.ok ring)) ∧
        ring.Nodup ∧ ring.length = 4 ∧ 9 ∈ ring ∧ ∀ i ∈ ring, 5 ≤ i ∧ i < 10) ∧
      ∃ fuel ring, (∀ more, ringFor (fuel + more) 10 9 4 7 = some (.ok ring)) ∧
        ring.Nodup ∧ ring.length = 4 ∧ 9 ∈ ring ∧ ∀ i ∈ ring, i < 10 :=
  ring_sampling_terminates 10 9 4 5 7 (by decide) (by decide) (by decide) ⟨2, rfl⟩ (by decide)

end DeFMI
