import StreamingProtocol.Producer.Signals
import Mathlib.Data.Int.ModEq

/-!
# Signal numbers

Each signal of a process gets the next number of a counter of 32 bits, whose 20 lowest bits are the
number. The number 0 stands for the stream and is left out, wherever the lowest bits wrap; this
includes the wrap of the whole counter, because `2 ^ 20` divides `2 ^ 32`. So the numbers from 1 to
`2 ^ 20 - 1` are given in turn, and each of them again as late as possible.

## Main definitions

* `turnNumber`: numbers that are given in turn.
* `counterAfter`, `signalNumberAt`: calls of `BaseSignal::nextSignalNumber`.

## Main results

* `toNat_signalNumberAt`: the numbers are given in turn.
* `signalNumberAt_valid_and_periodic`.
* `signalNumberAt_injOn`: signals whose numbers are given soon after each other have distinct ones.
-/

namespace StreamingProtocol

/-! ### Numbers in turn -/

/-- The numbers from 1 to `size` in turn, again and again. -/
def turnNumber (size k : ℕ) : ℕ := k % size + 1

section TurnNumber

variable {size : ℕ}

theorem turnNumber_le (h : 0 < size) (k : ℕ) : turnNumber size k ≤ size := Nat.mod_lt k h

theorem turnNumber_succ (h : 0 < size) (k : ℕ) :
    turnNumber size (k + 1) = if turnNumber size k = size then 1 else turnNumber size k + 1 := by
  have hle := turnNumber_le h k
  unfold turnNumber at hle ⊢
  rw [← Nat.mod_add_mod]
  split_ifs with hlast
  · rw [hlast, Nat.mod_self]
  · rw [Nat.mod_eq_of_lt (by omega)]

/-- A number comes again after a multiple of their count. -/
theorem turnNumber_eq_iff (i j : ℕ) :
    turnNumber size i = turnNumber size j ↔ (size : ℤ) ∣ (i : ℤ) - j := by
  rw [← Nat.modEq_iff_dvd, turnNumber, turnNumber, Nat.add_right_cancel_iff]
  exact eq_comm

end TurnNumber

/-! ### The counter -/

/-- The numbers that a signal may have. -/
def lastSignalNumber : ℕ := 2 ^ 20 - 1

/-- The counter after some calls of `BaseSignal::nextSignalNumber`. -/
def counterAfter : ℕ → UInt32
  | 0 => 0
  | k + 1 => (nextSignalNumber (counterAfter k)).1

/-- The number that a call returns. -/
def signalNumberAt (k : ℕ) : UInt32 := (nextSignalNumber (counterAfter k)).2

theorem toNat_succ_mod (x : UInt32) : (x + 1).toNat % 2 ^ 20 = (x.toNat + 1) % 2 ^ 20 := by
  have hone : (1 : UInt32).toNat = 1 := rfl
  rw [UInt32.toNat_add, hone]
  omega

/-- The number is the lowest bits of the counter. -/
theorem toNat_nextSignalNumber_snd (counter : UInt32) :
    (nextSignalNumber counter).2.toNat = (nextSignalNumber counter).1.toNat % 2 ^ 20 :=
  headerSignalNumber_toNat _

/-- One call: the lowest bits are increased, and 0 is left out. -/
theorem toNat_nextSignalNumber_fst (counter : UInt32) :
    (nextSignalNumber counter).1.toNat % 2 ^ 20 =
      if counter.toNat % 2 ^ 20 = lastSignalNumber then 1 else counter.toNat % 2 ^ 20 + 1 := by
  have hfirst := toNat_succ_mod counter
  have hsecond := toNat_succ_mod (counter + 1)
  have hzero := and_signalNumberMask_eq_zero_iff (counter + 1)
  unfold nextSignalNumber lastSignalNumber
  dsimp only
  by_cases hskip : counter + 1 &&& 0xfffff = 0
  · rw [if_pos hskip, hsecond]
    rw [hzero] at hskip
    split_ifs <;> omega
  · rw [if_neg hskip, hfirst]
    rw [hzero] at hskip
    split_ifs <;> omega

/-- The numbers are given in turn. -/
theorem toNat_signalNumberAt (k : ℕ) :
    (signalNumberAt k).toNat = turnNumber lastSignalNumber k := by
  induction k with
  | zero => decide
  | succ k ih =>
    have hcounter : (counterAfter (k + 1)).toNat % 2 ^ 20 = turnNumber lastSignalNumber k := by
      rw [← ih]
      exact (toNat_nextSignalNumber_snd (counterAfter k)).symm
    rw [signalNumberAt, toNat_nextSignalNumber_snd, toNat_nextSignalNumber_fst, hcounter,
      turnNumber_succ (by decide)]

theorem signalNumberAt_eq_iff (i j : ℕ) :
    signalNumberAt i = signalNumberAt j ↔ (lastSignalNumber : ℤ) ∣ (i : ℤ) - j := by
  rw [← UInt32.toNat_inj, toNat_signalNumberAt, toNat_signalNumberAt, turnNumber_eq_iff]

/-- As many numbers in a row as there are numbers are distinct. -/
theorem signalNumberAt_injOn (start : ℕ) :
    Set.InjOn signalNumberAt (Set.Ico start (start + lastSignalNumber)) := by
  intro i hi j hj hij
  rw [signalNumberAt_eq_iff] at hij
  unfold lastSignalNumber at hi hj hij
  rw [Set.mem_Ico] at hi hj
  omega

/-- **Signal numbers.** Each number has at most 20 bits and is not 0, and two calls return the same
number if and only if the difference of their positions is a multiple of `2 ^ 20 - 1`. -/
theorem signalNumberAt_valid_and_periodic :
    (∀ k, 1 ≤ (signalNumberAt k).toNat ∧ (signalNumberAt k).toNat ≤ 2 ^ 20 - 1) ∧
      ∀ i j : ℕ, signalNumberAt i = signalNumberAt j ↔ (2 ^ 20 - 1 : ℤ) ∣ (i : ℤ) - j := by
  refine ⟨fun k => ?_, fun i j => ?_⟩
  · rw [toNat_signalNumberAt]
    exact ⟨Nat.le_add_left 1 _, turnNumber_le (by decide) k⟩
  · exact signalNumberAt_eq_iff i j

end StreamingProtocol
