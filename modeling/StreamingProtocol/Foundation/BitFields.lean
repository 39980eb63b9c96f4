import Mathlib.Data.Nat.Bitwise
import Mathlib.Tactic.NormNum

/-!
# Bit fields of a machine word

A machine word may hold several numbers in disjoint ranges of its bits. The field of `m` bits above
the `k` lowest ones is cut out by a mask and a shift (`UInt32.toNat_field`); the fields are put
together by shifting them to their place and joining them with a bitwise or, which adds them when
each lies below the next (`Nat.or_shiftLeft_eq_add`).

## Main results

* `Nat.or_shiftLeft_eq_add`: joining a field above the bits that are in use.
* `UInt32.toNat_field`: cutting a field out of a word.
-/

theorem Nat.or_shiftLeft_eq_add {a k : ℕ} (h : a < 2 ^ k) (b : ℕ) :
    a ||| b <<< k = a + b * 2 ^ k := by
  rw [Nat.or_comm, ← Nat.shiftLeft_add_eq_or_of_lt h, Nat.shiftLeft_eq, Nat.add_comm]

/-- The field of `m` bits above the `k` lowest ones of a number. -/
theorem Nat.field_eq (a k m : ℕ) : (a &&& (2 ^ m - 1) <<< k) >>> k = a / 2 ^ k % 2 ^ m := by
  rw [Nat.shiftRight_and_distrib, Nat.shiftLeft_shiftRight, Nat.and_two_pow_sub_one_eq_mod,
    Nat.shiftRight_eq_div_pow]

/-- The field of `m` bits above the `k` lowest ones of a word, cut out by a mask and a shift. -/
theorem UInt32.toNat_field (w : UInt32) {mask shift : UInt32} {k m : ℕ}
    (hmask : mask.toNat = (2 ^ m - 1) <<< k) (hshift : shift.toNat = k) (hk : k < 32) :
    ((w &&& mask) >>> shift).toNat = w.toNat / 2 ^ k % 2 ^ m := by
  rw [UInt32.toNat_shiftRight, UInt32.toNat_and, hmask, hshift, Nat.mod_eq_of_lt hk, Nat.field_eq]
