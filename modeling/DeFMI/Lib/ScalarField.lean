import Mathlib.NumberTheory.LucasPrimality
import Mathlib.Tactic.ReduceModChar
import Mathlib.Tactic.NormNum.Prime
import Mathlib.Tactic.NormNum.Eq
import Mathlib.Data.List.Prime
set_option autoImplicit false

/-!
The scalar field of the Ristretto group: integers modulo its prime order.
Primality is proved by Lucas certificates along the factors of the order
minus one, so every quotient used later really is a field inverse.
-/

namespace DeFMI.Lib

/-- Lucas's test with the prime factors of `p - 1` listed with repetition. -/
theorem prime_of_factors {p : ℕ} (a : ZMod p) (fs : List ℕ)
    (hprod : fs.prod = p - 1) (hfs : fs.Forall Nat.Prime)
    (hone : a ^ (p - 1) = 1) (hne : ∀ q ∈ fs, a ^ ((p - 1) / q) ≠ 1) :
    p.Prime := by
  refine lucas_primality p a hone (fun q hq hdvd => ?_)
  rw [← hprod] at hdvd
  obtain ⟨r, hr, hqr⟩ := (Nat.Prime.prime hq).dvd_prod_iff.mp hdvd
  obtain rfl : q = r := (Nat.prime_dvd_prime_iff_eq hq (List.forall_iff_forall_mem.mp hfs r hr)).mp hqr
  exact hne q hr

theorem prime_292386187 : Nat.Prime 292386187 := by
  refine prime_of_factors 2 [2, 3, 3, 3, 3, 307, 5879] ?_ ?_ ?_ ?_
  · norm_num
  · norm_num [List.Forall]
  · norm_num
    reduce_mod_char
  · norm_num
    reduce_mod_char
    decide

theorem prime_213441916511 : Nat.Prime 213441916511 := by
  refine prime_of_factors 13 [2, 5, 73, 292386187] ?_ ?_ ?_ ?_
  · norm_num
  · exact ⟨by norm_num, by norm_num, by norm_num, prime_292386187⟩
  · norm_num
    reduce_mod_char
  · norm_num
    reduce_mod_char
    decide

theorem prime_1257559732178653 : Nat.Prime 1257559732178653 := by
  refine prime_of_factors 2 [2, 2, 3, 7, 23, 1224481, 531581] ?_ ?_ ?_ ?_
  · norm_num
  · norm_num [List.Forall]
  · norm_num
    reduce_mod_char
  · norm_num
    reduce_mod_char
    decide

theorem prime_4434155615661930479 : Nat.Prime 4434155615661930479 := by
  refine prime_of_factors 17 [2, 41, 43, 1257559732178653] ?_ ?_ ?_ ?_
  · norm_num
  · exact ⟨by norm_num, by norm_num, by norm_num, prime_1257559732178653⟩
  · norm_num
    reduce_mod_char
  · norm_num
    reduce_mod_char
    decide

theorem prime_3044861653679985063343 : Nat.Prime 3044861653679985063343 := by
  refine prime_of_factors 5 [2, 3, 11, 30703, 82163, 137849, 132667] ?_ ?_ ?_ ?_
  · norm_num
  · norm_num [List.Forall]
  · norm_num
    reduce_mod_char
  · norm_num
    reduce_mod_char
    decide

theorem prime_172054593956031949258510691 :
    Nat.Prime 172054593956031949258510691 := by
  refine prime_of_factors 2 [2, 5, 1361, 2851, 4434155615661930479] ?_ ?_ ?_ ?_
  · norm_num
  · exact ⟨by norm_num, by norm_num, by norm_num, by norm_num, prime_4434155615661930479⟩
  · norm_num
    reduce_mod_char
  · norm_num
    reduce_mod_char
    decide

theorem prime_198211423230930754013084525763697 :
    Nat.Prime 198211423230930754013084525763697 := by
  refine prime_of_factors 5 [2, 2, 2, 2, 3, 23, 58964693, 3044861653679985063343] ?_ ?_ ?_ ?_
  · norm_num
  · exact ⟨by norm_num, by norm_num, by norm_num, by norm_num, by norm_num, by norm_num, by norm_num,
      prime_3044861653679985063343⟩
  · norm_num
    reduce_mod_char
  · norm_num
    reduce_mod_char
    decide

theorem prime_19757330305831588566944191468367130476339 :
    Nat.Prime 19757330305831588566944191468367130476339 := by
  refine prime_of_factors 2 [2, 269, 213441916511, 172054593956031949258510691] ?_ ?_ ?_ ?_
  · norm_num
  · exact ⟨by norm_num, by norm_num, prime_213441916511, prime_172054593956031949258510691⟩
  · norm_num
    reduce_mod_char
  · norm_num
    reduce_mod_char
    decide

theorem prime_276602624281642239937218680557139826668747 :
    Nat.Prime 276602624281642239937218680557139826668747 := by
  refine prime_of_factors 2 [2, 7, 19757330305831588566944191468367130476339] ?_ ?_ ?_ ?_
  · norm_num
  · exact ⟨by norm_num, by norm_num, prime_19757330305831588566944191468367130476339⟩
  · norm_num
    reduce_mod_char
  · norm_num
    reduce_mod_char
    decide

/-- The order of the Ristretto group. -/
def groupOrder : ℕ :=
  7237005577332262213973186563042994240857116359379907606001950938285454250989

theorem groupOrder_eq : groupOrder = 2 ^ 252 + 27742317777372353535851937790883648493 := by
  norm_num [groupOrder]

theorem groupOrder_prime : groupOrder.Prime := by
  unfold groupOrder
  refine prime_of_factors 2 [2, 2, 3, 11, 198211423230930754013084525763697,
    276602624281642239937218680557139826668747] ?_ ?_ ?_ ?_
  · norm_num
  · exact ⟨by norm_num, by norm_num, by norm_num, by norm_num,
      prime_198211423230930754013084525763697, prime_276602624281642239937218680557139826668747⟩
  · norm_num
    reduce_mod_char
  · norm_num
    reduce_mod_char
    decide

instance : Fact groupOrder.Prime := ⟨groupOrder_prime⟩

abbrev Scalar := ZMod groupOrder

/-- Sums and products of a few ranged values never reach the group order. -/
theorem lt_groupOrder {n : ℕ} (h : n < 2 ^ 252) : n < groupOrder := by
  rw [groupOrder_eq]; omega

theorem natCast_scalar_inj {m n : ℕ} (hm : m < 2 ^ 252) (hn : n < 2 ^ 252)
    (h : (m : Scalar) = n) : m = n := by
  have hmod := (ZMod.natCast_eq_natCast_iff' m n groupOrder).mp h
  rwa [Nat.mod_eq_of_lt (lt_groupOrder hm), Nat.mod_eq_of_lt (lt_groupOrder hn)] at hmod

theorem natCast_scalar_eq_zero {n : ℕ} (hn : n < 2 ^ 252) (h : (n : Scalar) = 0) : n = 0 :=
  natCast_scalar_inj hn (by norm_num) (by simpa using h)

end DeFMI.Lib
