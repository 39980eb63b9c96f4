import StreamingProtocol.Foundation.Bytes
import Mathlib.Algebra.Order.Group.Nat

/-!
# Values in a row

Values of a fixed size that are written one after the other, also to a buffer, and how they are
numbered by an arithmetic progression, modulo `2 ^ 64`.

## Main definitions

* `splitValues`: the values in a row of octets.
* `numbered`: values with their numbers.

## Main results

* `splitValues_flatten`.
* `foldlM_records`, `foldlM_overwrite`: a buffer that is filled with records, or from its beginning.
* `numbered_append`, `map_numbered`: numbers of numbers.
-/

open ByteString

/-- The first values in a row of octets. -/
def splitValues (size : ℕ) : (count : ℕ) → Bytes → List Bytes
  | 0, _ => []
  | count + 1, data => data.take size :: splitValues size count (data.drop size)

/-- Values of one size are found again in the row of their octets. -/
theorem splitValues_flatten {size : ℕ} {values : List Bytes}
    (h : ∀ value ∈ values, value.length = size) :
    splitValues size values.length values.flatten = values := by
  induction values with
  | nil => rfl
  | cons value values ih =>
    have hvalue := h value List.mem_cons_self
    rw [List.flatten_cons, List.length_cons, splitValues, List.take_left' hvalue,
      List.drop_left' hvalue, ih fun v hv => h v (List.mem_cons_of_mem value hv)]

theorem length_flatten_of_forall {size : ℕ} {values : List Bytes}
    (h : ∀ value ∈ values, value.length = size) :
    values.flatten.length = size * values.length := by
  induction values with
  | nil => rfl
  | cons value values ih =>
    rw [List.flatten_cons, List.length_append, h value List.mem_cons_self,
      ih fun v hv => h v (List.mem_cons_of_mem value hv), List.length_cons, Nat.mul_succ,
      Nat.add_comm]

/-- A loop that writes one record after the other to a buffer of their size leaves their row. -/
theorem foldlM_records {size : ℕ} {records : List Bytes} {write : Bytes → ℕ → Option Bytes}
    (hwrite : ∀ i record, records[i]? = some record → ∀ pre old post : Bytes,
      pre.length = i * size → old.length = size →
      write (pre ++ (old ++ post)) i = some (pre ++ (record ++ post)))
    (hrecords : ∀ record ∈ records, record.length = size) {buffer : Bytes}
    (hbuffer : buffer.length = records.length * size) :
    (List.range records.length).foldlM write buffer = some records.flatten := by
  -- the records that are written are in front of what the buffer had before
  have hloop (k : ℕ) (hk : k ≤ records.length) : (List.range k).foldlM write buffer =
      some ((records.take k).flatten ++ buffer.drop (k * size)) := by
    induction k with
    | zero => simp
    | succ k ih =>
      have hpre : ((records.take k).flatten).length = k * size := by
        have htake (record : Bytes) (h : record ∈ records.take k) : record.length = size :=
          hrecords record (List.mem_of_mem_take h)
        rw [length_flatten_of_forall htake, List.length_take_of_le (by omega), Nat.mul_comm]
      have hold : ((buffer.drop (k * size)).take size).length = size := by
        have hfits : (k + 1) * size ≤ records.length * size := Nat.mul_le_mul_right size hk
        rw [Nat.succ_mul] at hfits
        rw [List.length_take_of_le]
        rw [List.length_drop]
        omega
      have hrecord : records[k]? = some records[k] := List.getElem?_eq_getElem hk
      have hsplit : buffer.drop (k * size) =
          (buffer.drop (k * size)).take size ++ buffer.drop ((k + 1) * size) := by
        rw [Nat.succ_mul, ← List.drop_drop, List.take_append_drop]
      have htaken : (records.take (k + 1)).flatten = (records.take k).flatten ++ records[k] := by
        rw [List.take_add_one, hrecord, List.flatten_append, Option.toList_some,
          List.flatten_singleton]
      rw [List.range_succ, List.foldlM_append, ih (by omega), hsplit, Option.bind_eq_bind,
        Option.bind_some, List.foldlM_cons, hwrite k _ hrecord _ _ _ hpre hold,
        Option.bind_eq_bind, Option.bind_some, List.foldlM_nil, htaken, List.append_assoc]
      rfl
  rw [hloop _ le_rfl, List.take_length, ← hbuffer, List.drop_length, List.append_nil]

/-- A loop that overwrites the beginning of a buffer leaves what is behind. -/
theorem foldlM_overwrite {α : Type} {entries : List α} {write : List α → ℕ → Option (List α)}
    (hwrite : ∀ i entry, entries[i]? = some entry → ∀ buffer : List α, i < buffer.length →
      write buffer i = some (buffer.set i entry))
    {buffer : List α} (hbuffer : entries.length ≤ buffer.length) :
    (List.range entries.length).foldlM write buffer =
      some (entries ++ buffer.drop entries.length) := by
  have hloop (k : ℕ) (hk : k ≤ entries.length) :
      (List.range k).foldlM write buffer = some (entries.take k ++ buffer.drop k) := by
    induction k with
    | zero => simp
    | succ k ih =>
      have hentry : entries[k]? = some entries[k] := List.getElem?_eq_getElem hk
      have htake : (entries.take k).length = k := List.length_take_of_le (by omega)
      have hinside : k < (entries.take k ++ buffer.drop k).length := by
        rw [List.length_append, htake, List.length_drop]
        omega
      have hset : (entries.take k ++ buffer.drop k).set k entries[k] =
          entries.take (k + 1) ++ buffer.drop (k + 1) := by
        rw [List.set_append_right _ _ (by omega), htake, Nat.sub_self,
          List.drop_eq_getElem_cons (by omega), List.set_cons_zero, List.take_add_one, hentry,
          Option.toList_some, List.append_assoc, List.singleton_append]
      rw [List.range_succ, List.foldlM_append, ih (by omega), Option.bind_eq_bind,
        Option.bind_some, List.foldlM_cons, hwrite k _ hentry _ hinside, hset]
      rfl
  rw [hloop _ le_rfl, List.take_length]

section Numbered

variable {α : Type}

/-- Values with numbers that grow by a step. -/
def numbered (step : UInt64) : List α → UInt64 → List (α × UInt64)
  | [], _ => []
  | value :: values, x => (value, x) :: numbered step values (x + step)

theorem numbered_append (step : UInt64) (values values' : List α) (x : UInt64) :
    numbered step (values ++ values') x = numbered step values x ++
      numbered step values' (x + UInt64.ofNat values.length * step) := by
  induction values generalizing x with
  | nil => simp [numbered]
  | cons value values ih =>
    have hnext : x + step + UInt64.ofNat values.length * step =
        x + UInt64.ofNat (value :: values).length * step := by
      rw [List.length_cons, UInt64.ofNat_add]
      grind
    rw [List.cons_append, numbered, ih, hnext]
    rfl

/-- Numbers that depend on others linearly. -/
theorem map_numbered (start delta : UInt64) (values : List α) (x : UInt64) :
    ((numbered 1 values x).map fun entry => (entry.1, start + entry.2 * delta)) =
      numbered delta values (start + x * delta) := by
  induction values generalizing x with
  | nil => rfl
  | cons value values ih =>
    have hnext : start + (x + 1) * delta = start + x * delta + delta := by grind
    rw [numbered, List.map_cons, ih, hnext]
    rfl

end Numbered
