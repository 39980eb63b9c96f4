import Mathlib.Data.List.Basic
import Mathlib.Tactic.Ring

/-!
# Byte strings and little-endian words

A byte string is a list of octets. This file provides the words of a fixed number of octets that
machines of little-endian byte order store, and guarded reads and writes of a buffer.

* `leBytes k n` lists the `k` octets of `n`, the least significant first, and `leValue bs` is the
  number a list of octets stands for; they are inverse to each other below `256 ^ k`
  (`leValue_leBytes`, `leBytes_leValue`).
* `read? data offset count` is the range of `count` octets of a buffer that starts at `offset`,
  or nothing when the range leaves the buffer, and `write? buffer offset octets` the buffer with
  other octets in such a range.
* `takeExact n data` splits `n` octets off the front of a stream, or nothing while they have not
  arrived.

## Main definitions

* `ByteString.Bytes`, `ByteString.leBytes`, `ByteString.leValue`.
* `ByteString.read?`, `ByteString.write?`, `ByteString.takeExact`.

## Main results

* `ByteString.leValue_leBytes`, `ByteString.leBytes_leValue`.
* `ByteString.read?_eq_none`, `ByteString.write?_append`, `ByteString.takeExact_append`.
-/

namespace ByteString

/-- A string of octets. -/
abbrev Bytes : Type := List UInt8

/-! ### Little-endian words -/

/-- The `k` least significant octets of `n`, the least significant first. -/
def leBytes : ℕ → ℕ → Bytes
  | 0, _ => []
  | k + 1, n => UInt8.ofNat n :: leBytes k (n / 256)

/-- The number a string of octets stands for, the least significant octet first. -/
def leValue : Bytes → ℕ
  | [] => 0
  | b :: bs => b.toNat + 256 * leValue bs

@[simp] theorem length_leBytes : (k n : ℕ) → (leBytes k n).length = k
  | 0, _ => rfl
  | k + 1, n => by rw [leBytes, List.length_cons, length_leBytes k]

theorem leValue_leBytes : (k n : ℕ) → leValue (leBytes k n) = n % 256 ^ k
  | 0, n => by rw [leBytes, leValue, pow_zero, Nat.mod_one]
  | k + 1, n => by
      have hdigit : (UInt8.ofNat n).toNat = n % 256 := by simp
      rw [leBytes, leValue, leValue_leBytes k, hdigit, pow_succ', Nat.mod_mul]

/-- A number below `256 ^ k` is recovered from its `k` octets. -/
theorem leValue_leBytes_of_lt {k n : ℕ} (h : n < 256 ^ k) : leValue (leBytes k n) = n := by
  rw [leValue_leBytes, Nat.mod_eq_of_lt h]

theorem leValue_lt : (bs : Bytes) → leValue bs < 256 ^ bs.length
  | [] => by simp [leValue]
  | b :: bs => by
      have hb := b.toNat_lt
      have hbs := leValue_lt bs
      rw [leValue, List.length_cons, pow_succ']
      omega

theorem leBytes_leValue : (bs : Bytes) → leBytes bs.length (leValue bs) = bs
  | [] => rfl
  | b :: bs => by
      have hb := b.toNat_lt
      have hdigit : UInt8.ofNat (b.toNat + 256 * leValue bs) = b := by
        apply UInt8.toNat_inj.mp
        simp
      have hrest : (b.toNat + 256 * leValue bs) / 256 = leValue bs := by omega
      rw [leValue, List.length_cons, leBytes, hdigit, hrest, leBytes_leValue bs]

/-! ### Guarded reads -/

/-- The octets of `data` at the offsets from `offset` to `offset + count - 1`, if all of them lie
inside the buffer. -/
def read? (data : Bytes) (offset count : ℕ) : Option Bytes :=
  if offset + count ≤ data.length then some ((data.drop offset).take count) else none

theorem read?_eq_none {data : Bytes} {offset count : ℕ} :
    read? data offset count = none ↔ data.length < offset + count := by
  unfold read?
  split_ifs with h <;> simp <;> omega

theorem read?_of_le {data : Bytes} {offset count : ℕ} (h : offset + count ≤ data.length) :
    read? data offset count = some ((data.drop offset).take count) := by
  rw [read?, if_pos h]

/-- Reading the whole of the second part of a buffer. -/
theorem read?_append_right (pre data post : Bytes) :
    read? (pre ++ (data ++ post)) pre.length data.length = some data := by
  rw [read?_of_le (by simp), List.drop_left, List.take_left]

/-! ### Guarded writes -/

/-- The buffer with `octets` at the offsets from `offset` on, if all of them lie inside the
buffer. -/
def write? (buffer : Bytes) (offset : ℕ) (octets : Bytes) : Option Bytes :=
  if offset + octets.length ≤ buffer.length then
    some (buffer.take offset ++ (octets ++ buffer.drop (offset + octets.length)))
  else none

/-- Writing the whole of the second part of a buffer. -/
theorem write?_append (pre post : Bytes) {old octets : Bytes} (h : octets.length = old.length) :
    write? (pre ++ (old ++ post)) pre.length octets = some (pre ++ (octets ++ post)) := by
  have hdrop : (pre ++ (old ++ post)).drop (pre.length + old.length) = post := by
    rw [← List.append_assoc, ← List.length_append, List.drop_left]
  rw [write?, h, List.take_left, hdrop, if_pos (by simp)]

/-! ### Streams -/

/-- The first `n` octets of a stream and what follows them, once `n` octets have arrived. -/
def takeExact (n : ℕ) (data : Bytes) : Option (Bytes × Bytes) :=
  if n ≤ data.length then some (data.take n, data.drop n) else none

theorem takeExact_append {n : ℕ} {bs : Bytes} (h : bs.length = n) (rest : Bytes) :
    takeExact n (bs ++ rest) = some (bs, rest) := by
  subst h
  simp [takeExact]

theorem takeExact_eq_some {n : ℕ} {data bs rest : Bytes} (h : takeExact n data = some (bs, rest)) :
    bs.length = n ∧ data = bs ++ rest := by
  unfold takeExact at h
  split_ifs at h with hn
  obtain ⟨rfl, rfl⟩ : data.take n = bs ∧ data.drop n = rest := by simpa using h
  exact ⟨List.length_take_of_le hn, (List.take_append_drop n data).symm⟩

end ByteString
