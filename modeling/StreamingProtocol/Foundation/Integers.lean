import StreamingProtocol.Foundation.Bytes
import Mathlib.Tactic.Linarith
import Mathlib.Tactic.Positivity
import Mathlib.Tactic.Zify

/-!
# Integers as octets

An integer is stored in a word of `k` octets by its remainder modulo `256 ^ k`. A number that is not
negative is read back as it is, and a number of either sign by its balanced remainder.

## Main definitions

* `ByteString.intBytes`.

## Main results

* `ByteString.leValue_intBytes_of_range`, `ByteString.bmod_leValue_intBytes`.
-/

namespace ByteString

/-- The `k` octets of an integer. -/
def intBytes (k : ℕ) (z : ℤ) : Bytes := leBytes k (z % 256 ^ k).toNat

@[simp] theorem length_intBytes (k : ℕ) (z : ℤ) : (intBytes k z).length = k := length_leBytes ..

theorem leValue_intBytes (k : ℕ) (z : ℤ) : (leValue (intBytes k z) : ℤ) = z % 256 ^ k := by
  have hpos : (0 : ℤ) < 256 ^ k := by positivity
  have hnonneg : 0 ≤ z % 256 ^ k := Int.emod_nonneg z hpos.ne'
  have hlt : (z % 256 ^ k).toNat < 256 ^ k := by
    zify
    rw [Int.toNat_of_nonneg hnonneg]
    exact Int.emod_lt_of_pos z hpos
  rw [intBytes, leValue_leBytes_of_lt hlt, Int.toNat_of_nonneg hnonneg]

/-- An integer that is not negative is read back. -/
theorem leValue_intBytes_of_range {k : ℕ} {z : ℤ} (hnonneg : 0 ≤ z) (hlt : z < 256 ^ k) :
    (leValue (intBytes k z) : ℤ) = z := by
  rw [leValue_intBytes, Int.emod_eq_of_lt hnonneg hlt]

/-- An integer of either sign is read back by its balanced remainder. -/
theorem bmod_leValue_intBytes {k : ℕ} {z : ℤ} (hlow : -256 ^ k ≤ 2 * z) (hhigh : 2 * z < 256 ^ k) :
    (leValue (intBytes k z) : ℤ).bmod (256 ^ k) = z := by
  rw [leValue_intBytes]
  have hmod : (z % 256 ^ k).bmod (256 ^ k) = z.bmod (256 ^ k) := by
    have hcast : (256 : ℤ) ^ k = ((256 ^ k : ℕ) : ℤ) := by push_cast; rfl
    rw [hcast, Int.emod_bmod]
  rw [hmod]
  refine Int.bmod_eq_of_le_mul_two ?_ ?_
  · push_cast
    linarith
  · push_cast
    linarith

end ByteString
