import Mathlib.Data.Nat.Basic
import Mathlib.Tactic.Ring

/-!
# Quotients of products that may wrap

A number is scaled by a product and a division. On a machine the product is taken modulo `2 ^ 64`
before it is divided. The quotient is exact only if nothing is lost: what is lost is a multiple of
`2 ^ 64`, which is at least the divisor, so that the quotient becomes smaller
(`Nat.mod_div_eq_div_iff`). To keep the product small, the multiples of the divisor may be scaled
apart from the rest (`Nat.div_mul_add_mod_mul_div`).

## Main results

* `Nat.mod_div_eq_div_iff`, `UInt64.toNat_mul_div_eq_iff`: when a quotient is exact.
* `Nat.div_mul_add_mod_mul_div`: a quotient in two parts.
* `UInt64.toInt_add_toInt64`: the sum of two parts as a signed number.
-/

namespace Nat

/-- A remainder has the quotient of the number only if it is the number. -/
theorem mod_div_eq_div_iff {x m d : ℕ} (hd : 0 < d) (hdm : d ≤ m) :
    x % m / d = x / d ↔ x < m := by
  constructor
  · intro h
    by_contra hx
    have hlost : x % m + m ≤ x := by
      have hquotient : 1 ≤ x / m := (Nat.le_div_iff_mul_le (by omega)).mpr (by omega)
      calc x % m + m = x % m + m * 1 := by rw [Nat.mul_one]
        _ ≤ x % m + m * (x / m) := Nat.add_le_add_left (Nat.mul_le_mul_left m hquotient) _
        _ = x := Nat.mod_add_div x m
    have hless : x % m / d + 1 ≤ x / d := by
      rw [← Nat.add_div_right _ hd]
      exact Nat.div_le_div_right (by omega)
    omega
  · intro h
    rw [Nat.mod_eq_of_lt h]

/-- A number is scaled by its quotient and its remainder. -/
theorem div_mul_add_mod_mul_div {d : ℕ} (hd : 0 < d) (x k : ℕ) :
    x / d * k + x % d * k / d = x * k / d := by
  have hsplit : x * k = x % d * k + d * (x / d * k) := by
    calc x * k = (x % d + d * (x / d)) * k := by rw [Nat.mod_add_div]
      _ = x % d * k + d * (x / d * k) := by ring
  rw [hsplit, Nat.add_mul_div_left _ _ hd, Nat.add_comm]

end Nat

namespace UInt64

theorem toNat_mul_div (a b d : UInt64) :
    (a * b / d).toNat = a.toNat * b.toNat % 2 ^ 64 / d.toNat := by
  rw [UInt64.toNat_div, UInt64.toNat_mul]

/-- A product is divided exactly if it is one of a machine. -/
theorem toNat_mul_div_eq_iff {a b d : UInt64} (hd : 0 < d.toNat) :
    (a * b / d).toNat = a.toNat * b.toNat / d.toNat ↔ a.toNat * b.toNat < 2 ^ 64 := by
  rw [toNat_mul_div]
  exact Nat.mod_div_eq_div_iff hd d.toNat_lt.le

/-- What is divided is never more than the product. -/
theorem toNat_mul_div_le (a b d : UInt64) :
    (a * b / d).toNat ≤ a.toNat * b.toNat / d.toNat := by
  rw [toNat_mul_div]
  exact Nat.div_le_div_right (Nat.mod_le _ _)

/-- The sum of two numbers as a signed number. -/
theorem toInt_add_toInt64 {a b : UInt64} (h : a.toNat + b.toNat < 2 ^ 63) :
    (a.toInt64 + b.toInt64).toInt = a.toNat + b.toNat := by
  rw [← toInt64_add, Int64.toInt, toBitVec_toInt64, BitVec.toInt_eq_toNat_of_lt]
  · rw [toNat_toBitVec, UInt64.toNat_add, Nat.mod_eq_of_lt (by omega)]
    push_cast
    rfl
  · rw [toNat_toBitVec, UInt64.toNat_add, Nat.mod_eq_of_lt (by omega)]
    omega

end UInt64
