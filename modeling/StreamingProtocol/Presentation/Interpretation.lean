import StreamingProtocol.Foundation.Integers
import StreamingProtocol.Presentation.MeasuredData

/-!
# Interpretation of values

A consumer may have the samples of a payload as floating point numbers. How a number is converted is
up to the machine, which number is converted is not: it is the one that the producer has stored. The
interpretation takes unsigned samples of 64 bits for signed ones, so it does not convert the numbers
from `2 ^ 63` on.

## Main definitions

* `SampleValue`, `Sample`: the numbers of a sample type, `Sample.octets`: their octets.
* `SubscribedSignal.layout`: a payload of samples, with their indices where the signal has some.
* `JsonRuntime.converting`: conversions of numbers.

## Main results

* `Sample.sampleAsDouble_octets`: the number that is converted.
* `SubscribedSignal.interprets_iff`.
-/

/-- A runtime with other conversions of integers and of single precision numbers. -/
@[reducible] def JsonRuntime.converting (runtime : JsonRuntime) (ofInteger : ℤ → Double)
    (ofSingle : UInt32 → Double) : JsonRuntime :=
  { runtime with
    doubleOfUInt64 := fun n => ofInteger n.toNat
    doubleOfInt64 := fun n => ofInteger n.toInt
    doubleOfSingle := ofSingle }

namespace StreamingProtocol

open ByteString

/-! ### Samples -/

/-- The number of a sample. Floating point numbers are given by their bits. -/
inductive SampleValue where
  | integer (z : ℤ)
  | single (bits : UInt32)
  | double (bits : UInt64)

/-- The number is one of a sample type. -/
def SampleValue.IsOf (type : SampleType) (value : SampleValue) : Prop :=
  match type, value with
  | .u8, .integer z | .u16, .integer z | .u32, .integer z | .u64, .integer z
  | .bitfield32, .integer z | .bitfield64, .integer z =>
      0 ≤ z ∧ z < 256 ^ SubscribedSignal.interpretedSize type
  | .s8, .integer z | .s16, .integer z | .s32, .integer z | .s64, .integer z =>
      -256 ^ SubscribedSignal.interpretedSize type ≤ 2 * z ∧
        2 * z < 256 ^ SubscribedSignal.interpretedSize type
  | .real32, .single _ => True
  | .real64, .double _ => True
  | _, _ => False

/-- A sample of a type. -/
structure Sample (type : SampleType) where
  value : SampleValue
  isOf : value.IsOf type

/-- A number converted to double precision. -/
def SampleValue.asDouble (ofInteger : ℤ → Double) (ofSingle : UInt32 → Double) :
    SampleValue → Double
  | integer z => ofInteger z
  | single bits => ofSingle bits
  | double bits => ⟨bits⟩

/-- A number is below `2 ^ 63`, if it is an integer. -/
def SampleValue.FitsSigned : SampleValue → Prop
  | integer z => z < 2 ^ 63
  | single _ => True
  | double _ => True

/-- A type of unsigned samples of 64 bits. -/
def isUnsigned64 (type : SampleType) : Bool := type = .u64 ∨ type = .bitfield64

namespace Sample

variable {type : SampleType}

/-- The octets of a sample. -/
def octets (sample : Sample type) : Bytes :=
  match sample.value with
  | .integer z => intBytes (SubscribedSignal.interpretedSize type) z
  | .single bits => leBytes 4 bits.toNat
  | .double bits => leBytes 8 bits.toNat

/-- The number that is taken from the octets of a sample. -/
def taken (sample : Sample type) : SampleValue :=
  match sample.value with
  | .integer z => if isUnsigned64 type then .integer (z.bmod (2 ^ 64)) else .integer z
  | value => value

/-- An unsigned number is taken from its octets as it is. -/
theorem toNat_leValue {k : ℕ} (hk : k ≤ 8) {z : ℤ} (hnonneg : 0 ≤ z) (hlt : z < 256 ^ k) :
    ((UInt64.ofNat (leValue (intBytes k z))).toNat : ℤ) = z := by
  have hbound : leValue (intBytes k z) < 2 ^ 64 := by
    have hvalue := leValue_lt (intBytes k z)
    rw [length_intBytes] at hvalue
    exact lt_of_lt_of_le hvalue ((Nat.pow_le_pow_right (by decide) hk).trans (by decide))
  rw [UInt64.toNat_ofNat_of_lt' hbound, leValue_intBytes_of_range hnonneg hlt]

/-- An unsigned number of 64 bits is taken for a signed one. -/
theorem toInt_leValue {z : ℤ} (hnonneg : 0 ≤ z) (hlt : z < 256 ^ 8) :
    (UInt64.ofNat (leValue (intBytes 8 z))).toInt64.toInt = z.bmod (2 ^ 64) := by
  rw [UInt64.toInt64_ofNat', Int64.toInt_ofNat', leValue_intBytes_of_range hnonneg hlt]
  rfl

variable {runtime : JsonRuntime} {ofInteger : ℤ → Double} {ofSingle : UInt32 → Double}

/-- An integer. -/
theorem sampleAsDouble_integer {z : ℤ} (h : (SampleValue.integer z).IsOf type) :
    @SubscribedSignal.sampleAsDouble (runtime.converting ofInteger ofSingle) type
        (intBytes (SubscribedSignal.interpretedSize type) z) =
      ofInteger (if isUnsigned64 type then z.bmod (2 ^ 64) else z) := by
  cases type with
  | u8 => exact congrArg ofInteger (toNat_leValue (by decide) h.1 h.2)
  | u16 => exact congrArg ofInteger (toNat_leValue (by decide) h.1 h.2)
  | u32 => exact congrArg ofInteger (toNat_leValue (by decide) h.1 h.2)
  | bitfield32 => exact congrArg ofInteger (toNat_leValue (by decide) h.1 h.2)
  | u64 => exact congrArg ofInteger (toInt_leValue h.1 h.2)
  | bitfield64 => exact congrArg ofInteger (toInt_leValue h.1 h.2)
  | s8 =>
    refine congrArg ofInteger ?_
    rw [Int8.toInt_toInt64, UInt8.toInt8_ofNat', Int8.toInt_ofNat']
    exact bmod_leValue_intBytes h.1 h.2
  | s16 =>
    refine congrArg ofInteger ?_
    rw [Int16.toInt_toInt64, UInt16.toInt16_ofNat', Int16.toInt_ofNat']
    exact bmod_leValue_intBytes h.1 h.2
  | s32 =>
    refine congrArg ofInteger ?_
    rw [Int32.toInt_toInt64, UInt32.toInt32_ofNat', Int32.toInt_ofNat']
    exact bmod_leValue_intBytes h.1 h.2
  | s64 =>
    refine congrArg ofInteger ?_
    rw [UInt64.toInt64_ofNat', Int64.toInt_ofNat']
    exact bmod_leValue_intBytes h.1 h.2
  | _ => cases h

/-- What is converted is the number taken from the octets. -/
theorem sampleAsDouble_octets (sample : Sample type) :
    @SubscribedSignal.sampleAsDouble (runtime.converting ofInteger ofSingle) type sample.octets =
      sample.taken.asDouble ofInteger ofSingle := by
  obtain ⟨value, h⟩ := sample
  cases value with
  | integer z =>
    refine (sampleAsDouble_integer h).trans ?_
    show _ = SampleValue.asDouble _ _ (if _ then _ else _)
    split_ifs <;> rfl
  | single bits =>
    cases type with
    | real32 =>
      refine congrArg ofSingle ?_
      show UInt32.ofNat (leValue (leBytes 4 bits.toNat)) = bits
      rw [leValue_leBytes_of_lt bits.toNat_lt, UInt32.ofNat_toNat]
    | _ => cases h
  | double bits =>
    cases type with
    | real64 =>
      refine congrArg Double.mk ?_
      show UInt64.ofNat (leValue (leBytes 8 bits.toNat)) = bits
      rw [leValue_leBytes_of_lt bits.toNat_lt, UInt64.ofNat_toNat]
    | _ => cases h

theorem length_octets (sample : Sample type) :
    sample.octets.length = SubscribedSignal.interpretedSize type := by
  obtain ⟨value, h⟩ := sample
  cases value with
  | integer z => exact length_intBytes ..
  | single bits =>
    cases type with
    | real32 => exact length_leBytes ..
    | _ => cases h
  | double bits =>
    cases type with
    | real64 => exact length_leBytes ..
    | _ => cases h

/-- A type with samples is supported. -/
theorem interpretedSize_ne_zero (sample : Sample type) :
    SubscribedSignal.interpretedSize type ≠ 0 := by
  intro hzero
  obtain ⟨value, h⟩ := sample
  cases type with
  | unknown => cases value <;> cases h
  | complex32 => cases value <;> cases h
  | complex64 => cases value <;> cases h
  | array => cases value <;> cases h
  | struct => cases value <;> cases h
  | _ => cases hzero

/-- A number is taken as it is, unless it is an unsigned one of 64 bits and at least `2 ^ 63`. -/
theorem taken_eq_iff (sample : Sample type) :
    sample.taken = sample.value ↔ (isUnsigned64 type → sample.value.FitsSigned) := by
  obtain ⟨value, h⟩ := sample
  cases value with
  | integer z =>
    show (if isUnsigned64 type then SampleValue.integer (z.bmod (2 ^ 64)) else _) = _ ↔ _
    split_ifs with hunsigned
    · have hrange : 0 ≤ z ∧ z < 2 ^ 64 := by
        cases type with
        | u64 => exact h
        | bitfield64 => exact h
        | _ => cases hunsigned
      rw [SampleValue.integer.injEq, SampleValue.FitsSigned, Int.bmod_def]
      simp only [hunsigned, true_imp_iff]
      push_cast
      split_ifs with hhalf <;> omega
    · exact iff_of_true rfl fun hunsigned' => absurd hunsigned' hunsigned
  | single bits => exact iff_of_true rfl fun _ => trivial
  | double bits => exact iff_of_true rfl fun _ => trivial

/-- Some conversion tells a number from another one that is taken for it. -/
theorem forall_asDouble_iff (sample : Sample type) :
    (∀ ofInteger ofSingle, sample.taken.asDouble ofInteger ofSingle =
      sample.value.asDouble ofInteger ofSingle) ↔ sample.taken = sample.value := by
  refine ⟨fun hall => ?_, fun heq _ _ => by rw [heq]⟩
  obtain ⟨value, h⟩ := sample
  cases value with
  | integer z =>
    -- A conversion that only tells the number from all others.
    have hconverted := hall (fun x => if x = z then ⟨0⟩ else ⟨1⟩) fun _ => ⟨0⟩
    have htaken : (⟨.integer z, h⟩ : Sample type).taken =
        .integer (if isUnsigned64 type then z.bmod (2 ^ 64) else z) := by
      show (if _ then _ else _) = _
      split_ifs <;> rfl
    rw [htaken] at hconverted ⊢
    refine congrArg SampleValue.integer (by_contra fun hne => ?_)
    have hbits : (⟨1⟩ : Double) = ⟨0⟩ :=
      (if_neg hne).symm.trans (hconverted.trans (if_pos rfl))
    cases hbits
  | single bits => rfl
  | double bits => rfl

end Sample

/-! ### Payloads -/

namespace SubscribedSignal

variable {s : SubscribedSignal} {runtime : JsonRuntime} {ofInteger : ℤ → Double}
  {ofSingle : UInt32 → Double}

/-- The octets of samples, with an index of 8 octets before each of them unless the rule is
explicit. -/
def layout (s : SubscribedSignal) (samples : List (UInt64 × Sample s.dataValueType)) : Bytes :=
  samples.flatMap fun entry =>
    (if s.ruleType = .explicit then [] else leBytes 8 entry.1.toNat) ++ entry.2.octets

/-- The samples of a payload are converted one after the other. -/
theorem convert_layout (pre : Bytes) (samples : List (UInt64 × Sample s.dataValueType)) :
    @convert (runtime.converting ofInteger ofSingle) s (pre ++ s.layout samples) pre.length
        samples.length =
      .ok (samples.map fun entry => entry.2.taken.asDouble ofInteger ofSingle) := by
  induction samples generalizing pre with
  | nil => rfl
  | cons entry samples ih =>
    let index : Bytes := if s.ruleType = .explicit then [] else leBytes 8 entry.1.toNat
    have hindex : index.length = s.indexSize := by
      unfold index indexSize
      split_ifs
      · rfl
      · exact length_leBytes ..
    have hlayout : pre ++ s.layout (entry :: samples) =
        pre ++ (index ++ (entry.2.octets ++ s.layout samples)) := by
      rw [layout, List.flatMap_cons, List.append_assoc]
      rfl
    have hreadIndex : read? (pre ++ s.layout (entry :: samples)) pre.length s.indexSize =
        some index := by
      rw [hlayout, ← hindex, read?_append_right]
    have hreadSample : read? (pre ++ s.layout (entry :: samples)) (pre.length + s.indexSize)
        (interpretedSize s.dataValueType) = some entry.2.octets := by
      rw [hlayout, ← hindex, ← List.length_append, ← List.append_assoc,
        ← Sample.length_octets entry.2, read?_append_right]
    have hrest := ih (pre ++ (index ++ entry.2.octets))
    have hlength : (pre ++ (index ++ entry.2.octets)).length = pre.length + s.valueStride := by
      rw [List.length_append, List.length_append, hindex, Sample.length_octets, valueStride]
    have hpre : pre ++ (index ++ entry.2.octets) ++ s.layout samples =
        pre ++ s.layout (entry :: samples) := by
      rw [hlayout, List.append_assoc, List.append_assoc]
    rw [hlength, hpre] at hrest
    simp only [List.length_cons, convert, hreadIndex, hreadSample, hrest,
      Sample.sampleAsDouble_octets]
    rfl

/-- The numbers of all samples are taken and converted. -/
theorem interpretValuesAsDouble_layout (samples : List (UInt64 × Sample s.dataValueType)) :
    @interpretValuesAsDouble (runtime.converting ofInteger ofSingle) (s.layout samples)
        samples.length s =
      .ok (samples.map fun entry => entry.2.taken.asDouble ofInteger ofSingle) := by
  unfold interpretValuesAsDouble
  split_ifs with hsupported
  · cases samples with
    | nil => rfl
    | cons entry samples => exact absurd hsupported entry.2.interpretedSize_ne_zero
  · exact convert_layout [] samples

/-- **Interpretation.** The numbers of all samples are converted, however the machine converts
numbers, if and only if the samples are not unsigned ones of 64 bits or all of them are below
`2 ^ 63`. -/
theorem interprets_iff (s : SubscribedSignal) (samples : List (UInt64 × Sample s.dataValueType)) :
    (∀ (runtime : JsonRuntime) (ofInteger : ℤ → Double) (ofSingle : UInt32 → Double),
      @interpretValuesAsDouble (runtime.converting ofInteger ofSingle) (s.layout samples)
          samples.length s =
        .ok (samples.map fun entry => entry.2.value.asDouble ofInteger ofSingle)) ↔
      (isUnsigned64 s.dataValueType → ∀ entry ∈ samples, entry.2.value.FitsSigned) := by
  have hiff : (∀ ofInteger ofSingle,
      (samples.map fun entry => entry.2.taken.asDouble ofInteger ofSingle) =
        samples.map fun entry => entry.2.value.asDouble ofInteger ofSingle) ↔
      ∀ entry ∈ samples, entry.2.taken = entry.2.value := by
    simp only [List.map_inj_left]
    constructor
    · exact fun hall entry hentry => (Sample.forall_asDouble_iff entry.2).mp
        fun ofInteger ofSingle => hall ofInteger ofSingle entry hentry
    · exact fun hall ofInteger ofSingle entry hentry => by rw [hall entry hentry]
  simp only [interpretValuesAsDouble_layout, Except.ok.injEq, hiff, Sample.taken_eq_iff]
  constructor
  · exact fun hall hunsigned entry hentry => hall decimalRuntime entry hentry hunsigned
  · exact fun hall _ entry hentry hunsigned => hall hunsigned entry hentry

theorem isOf_unsigned : (SampleValue.integer (2 ^ 63)).IsOf .u64 := by
  show (0 : ℤ) ≤ 2 ^ 63 ∧ (2 : ℤ) ^ 63 < 256 ^ 8
  decide

/-- A signal with unsigned samples of 64 bits. -/
def unsignedSignal : SubscribedSignal := { signalNumber := 1, dataValueType := .u64 }

/-- The number `2 ^ 63` is taken for `-2 ^ 63`. -/
theorem not_interprets_unsigned :
    ¬ ∀ (runtime : JsonRuntime) (ofInteger : ℤ → Double) (ofSingle : UInt32 → Double),
      @interpretValuesAsDouble (runtime.converting ofInteger ofSingle)
          (unsignedSignal.layout [(0, ⟨.integer (2 ^ 63), isOf_unsigned⟩)]) 1 unsignedSignal =
        .ok [ofInteger (2 ^ 63)] := by
  intro h
  have hconverted := h decimalRuntime (fun z => ⟨if z < 0 then 1 else 0⟩) fun _ => ⟨0⟩
  revert hconverted
  decide +kernel

end SubscribedSignal

end StreamingProtocol
