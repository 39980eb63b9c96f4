import StreamingProtocol.Foundation.Completion
import Mathlib.Algebra.Order.Ring.Int
import Mathlib.Data.List.TakeWhile

/-!
# Numbers in texts

The conversions of the standard library from the beginning of a text to a number: blanks are
skipped, a sign may follow, and then come the digits, up to the first character that is none. A
text without digits is an invalid argument, and so is a number that is too large out of range. What
follows the digits is ignored.

## Main definitions

* `NumberText.stoul`, `NumberText.stoi`.
* `NumberText.leadingNumber`, `NumberText.IsDecimal`.

## Main results

* `NumberText.stoul_isOk_iff`, `NumberText.stoi_isOk_iff`: the texts that are converted.
* `NumberText.toNat_toUInt32_stoul`: the value modulo `2 ^ 32`.
* `List.splitOn_eq_iff`: texts that a character separates.
-/

namespace NumberText

/-- The characters of `isspace`. -/
def isSpace (c : Char) : Bool := c = ' ' || (9 ≤ c.toNat && c.toNat ≤ 13)

/-- The value of a string of decimal digits. -/
def decimalValue (digits : List Char) : ℕ :=
  digits.foldl (fun value digit => 10 * value + (digit.toNat - '0'.toNat)) 0

/-- Whether the number at the beginning of a text has a minus sign, and its digits. -/
def signAndDigits (text : List Char) : Bool × List Char :=
  match text.dropWhile isSpace with
  | '-' :: rest => (true, rest.takeWhile Char.isDigit)
  | '+' :: rest => (false, rest.takeWhile Char.isDigit)
  | rest => (false, rest.takeWhile Char.isDigit)

/-- `std::stoul`: a negative number is taken modulo `2 ^ 64`. -/
def stoul (text : List Char) : Except Thrown UInt64 :=
  let (negative, digits) := signAndDigits text
  if digits = [] then .error .invalidArgument
  else if 2 ^ 64 ≤ decimalValue digits then .error .outOfRange
  else .ok (if negative then -.ofNat (decimalValue digits) else .ofNat (decimalValue digits))

/-- The number at the beginning of a text. -/
def signedValue (negative : Bool) (digits : List Char) : ℤ :=
  if negative then -decimalValue digits else decimalValue digits

/-- `std::stoi`. -/
def stoi (text : List Char) : Except Thrown Int32 :=
  let (negative, digits) := signAndDigits text
  if digits = [] then .error .invalidArgument
  else if signedValue negative digits < -2 ^ 31 ∨ 2 ^ 31 ≤ signedValue negative digits then
    .error .outOfRange
  else .ok (.ofInt (signedValue negative digits))

theorem stoul_isOk_iff (text : List Char) : (∃ n, stoul text = .ok n) ↔
    (signAndDigits text).2 ≠ [] ∧ decimalValue (signAndDigits text).2 < 2 ^ 64 := by
  unfold stoul
  obtain ⟨negative, digits⟩ := signAndDigits text
  dsimp only
  by_cases hempty : digits = []
  · simp [hempty]
  · rw [if_neg hempty]
    by_cases hlarge : 2 ^ 64 ≤ decimalValue digits
    · rw [if_pos hlarge]
      exact iff_of_false (by simp) fun h => Nat.not_lt.mpr hlarge h.2
    · rw [if_neg hlarge]
      exact iff_of_true ⟨_, rfl⟩ ⟨hempty, Nat.not_le.mp hlarge⟩

theorem stoi_isOk_iff (text : List Char) : (∃ n, stoi text = .ok n) ↔
    (signAndDigits text).2 ≠ [] ∧
      -2 ^ 31 ≤ signedValue (signAndDigits text).1 (signAndDigits text).2 ∧
      signedValue (signAndDigits text).1 (signAndDigits text).2 < 2 ^ 31 := by
  unfold stoi
  obtain ⟨negative, digits⟩ := signAndDigits text
  dsimp only
  split_ifs with hempty hlarge
  · simp [hempty]
  · refine iff_of_false (by simp) fun h => ?_
    omega
  · refine iff_of_true ⟨_, rfl⟩ ⟨hempty, ?_⟩
    omega

/-! ### The number at the beginning of a text -/

/-- The number, with its sign, at the beginning of a text. -/
def leadingNumber (text : List Char) : ℤ :=
  signedValue (signAndDigits text).1 (signAndDigits text).2

/-- A negative number wraps around, so that the value is a number modulo `2 ^ 32` also then. -/
theorem toNat_toUInt32_stoul {text : List Char} {n : UInt64} (h : stoul text = .ok n) :
    (n.toUInt32.toNat : ℤ) = leadingNumber text % 2 ^ 32 := by
  unfold stoul at h
  dsimp only at h
  split_ifs at h with hempty hlarge hnegative
  · cases h
    rw [leadingNumber, signedValue, if_pos hnegative, UInt64.toUInt32_neg,
      UInt64.toUInt32_ofNat', UInt32.toNat_neg, UInt32.toNat_ofNat', UInt32.size]
    omega
  · cases h
    rw [leadingNumber, signedValue, if_neg hnegative, UInt64.toUInt32_ofNat', UInt32.toNat_ofNat']
    push_cast
    rfl

/-! ### Decimal numbers -/

/-- Decimal digits, at least one. -/
def IsDecimal (text : List Char) : Prop := text ≠ [] ∧ ∀ c ∈ text, c.isDigit = true

-- the elements of the text are tried, not all characters
instance : DecidablePred IsDecimal := fun text =>
  have : Decidable (∀ c ∈ text, c.isDigit = true) := List.decidableBAll _ text
  inferInstanceAs (Decidable (text ≠ [] ∧ ∀ c ∈ text, c.isDigit = true))

theorem isSpace_of_isDigit {c : Char} (h : c.isDigit = true) : isSpace c = false := by
  have hlow : 48 ≤ c.toNat := (Char.isDigit_iff_toNat.mp h).1
  have hblank : c ≠ ' ' := by
    rintro rfl
    cases h
  have hcontrol : ¬ c.toNat ≤ 13 := by omega
  simp [isSpace, hblank, hcontrol]

/-- Decimal digits are read as they are. -/
theorem signAndDigits_of_isDecimal {text : List Char} (h : IsDecimal text) :
    signAndDigits text = (false, text) := by
  obtain ⟨hne, hdigits⟩ := h
  cases text with
  | nil => exact absurd rfl hne
  | cons c rest =>
    have hc : c.isDigit = true := hdigits c List.mem_cons_self
    have hminus : c ≠ '-' := by
      rintro rfl
      cases hc
    have hplus : c ≠ '+' := by
      rintro rfl
      cases hc
    rw [signAndDigits, List.dropWhile_cons_of_neg (by simp [isSpace_of_isDigit hc])]
    split
    · rename_i heq
      exact absurd (List.cons_eq_cons.mp heq).1 hminus
    · rename_i heq
      exact absurd (List.cons_eq_cons.mp heq).1 hplus
    · rw [List.takeWhile_eq_self_iff.mpr hdigits]

theorem leadingNumber_of_isDecimal {text : List Char} (h : IsDecimal text) :
    leadingNumber text = decimalValue text := by
  rw [leadingNumber, signAndDigits_of_isDecimal h]
  rfl

/-- What is no digit does not occur in a decimal number. -/
theorem IsDecimal.notMem {text : List Char} (h : IsDecimal text) {c : Char}
    (hc : c.isDigit = false) : c ∉ text := by
  intro hmem
  cases hc.symm.trans (h.2 c hmem)

end NumberText

/-- The parts of a text that a character separates, if it does not occur in them. -/
theorem List.splitOn_eq_iff {α : Type} [DecidableEq α] {x : α} {text : List α}
    {parts : List (List α)} (hne : parts ≠ []) (hx : ∀ part ∈ parts, x ∉ part) :
    text.splitOn x = parts ↔ text = [x].intercalate parts := by
  constructor
  · rintro rfl
    exact (List.intercalate_splitOn x).symm
  · rintro rfl
    exact List.splitOn_intercalate x hx hne
