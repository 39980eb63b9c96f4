import StreamingProtocol.Presentation.SubscribedSignal

/-!
# Measured data of a signal

What a consumer does with the payload of a data signal. The rule of the time signal decides how the
values get their time stamps: under a linear rule the signal counts its values itself, from the
value index announced in its description, under an explicit rule each payload carries the last
time stamp of the time signal. The number of values in a payload is its length divided by the size
of a value; under a linear time rule, a signal with a constant rule has an 8 octet index with each
value. The divisions are those of the source: a divisor of 0 has no defined result.

A payload is a list of octets, and its length a natural number.

## Main definitions

* `Callback`, `Call`.
* `SubscribedSignal.processMeasuredData`.
* `SubscribedSignal.interpretValuesAsDouble`.

## Main results

* `SubscribedSignal.convert_isOk_iff`: what an interpretation of values reads.
-/

namespace StreamingProtocol

open ByteString

/-- The callbacks of a signal container, with the signal as it is when the callback runs. -/
inductive Callback where
  | signalMeta (signal : SubscribedSignal) (method : String) (params : Json)
  | dataAsRaw (signal : SubscribedSignal) (timeStamp : UInt64) (data : Bytes)
  | dataAsValue (signal : SubscribedSignal) (timeStamp : UInt64) (data : Bytes) (valueCount : ℕ)

/-- The time stamp that raw data is delivered with. -/
def Callback.rawTimeStamp? : Callback → Option UInt64
  | .dataAsRaw _ timeStamp _ => some timeStamp
  | .signalMeta .. | .dataAsValue .. => none

/-- Raw data of a signal with its time stamp. -/
def Callback.raw? (n : SignalNumber) : Callback → Option (UInt64 × Bytes)
  | .dataAsRaw s timeStamp data => if s.signalNumber = n then some (timeStamp, data) else none
  | .signalMeta .. | .dataAsValue .. => none

theorem Callback.filterMap_raw? (n : SignalNumber) (s : SubscribedSignal) (timeStamp : UInt64)
    (data : Bytes) (valueCount : ℕ) :
    [dataAsRaw s timeStamp data, dataAsValue s timeStamp data valueCount].filterMap (raw? n) =
      if s.signalNumber = n then [(timeStamp, data)] else [] := by
  split_ifs with h
  · exact List.filterMap_cons_some (if_pos h)
  · exact List.filterMap_cons_none (if_neg h)

/-- A completed call: how it ended, the object it leaves behind and the callbacks it made. -/
structure Call (σ : Type) where
  outcome : Abrupt
  state : σ
  callbacks : List Callback := []

namespace SubscribedSignal

/-! ### Time stamps -/

/-- The branch for a linear time rule. -/
def processLinearTime (data : Bytes) (timeSignal s : SubscribedSignal) : Call SubscribedSignal :=
  let s := { s with linearDelta := timeSignal.linearDelta }
  match s.ruleType with
  | .explicit =>
      let timeStamp :=
        timeSignal.time + (s.linearValueIndex - timeSignal.linearValueIndex) * s.linearDelta
      let bytesPerValue := s.dataValueSize
      if bytesPerValue = 0 then
        ⟨.undefined .divisionByZero, s, [.dataAsRaw s timeStamp data]⟩
      else
        let valueCount := data.length / bytesPerValue.toNat
        ⟨.ret data.length,
          { s with linearValueIndex := s.linearValueIndex + UInt64.ofNat valueCount },
          [.dataAsRaw s timeStamp data, .dataAsValue s timeStamp data valueCount]⟩
  | .constant =>
      let bytesPerValue := 8 + s.dataValueSize
      if bytesPerValue = 0 then
        ⟨.undefined .divisionByZero, s, [.dataAsRaw s timeSignal.time data]⟩
      else
        ⟨.ret data.length, s, [.dataAsRaw s timeSignal.time data,
          .dataAsValue s timeSignal.time data (data.length / bytesPerValue.toNat)]⟩
  | _ => ⟨.ret data.length, s, []⟩ -- a linear data signal is not supported

/-- The branch for an explicit time rule, and for a signal without time signal. -/
def processExplicitTime (data : Bytes) (time : UInt64) (s : SubscribedSignal) :
    Call SubscribedSignal :=
  if s.dataValueSize = 0 then ⟨.undefined .divisionByZero, s, []⟩
  else if data.length % s.dataValueSize.toNat ≠ 0 then ⟨.ret data.length, s, []⟩
  else ⟨.ret data.length, s, [.dataAsRaw s time data,
    .dataAsValue s time data (data.length / s.dataValueSize.toNat)]⟩

/-- `SubscribedSignal::processMeasuredData`. -/
def processMeasuredData (data : Bytes) (timeSignal : Option SubscribedSignal)
    (s : SubscribedSignal) : Call SubscribedSignal :=
  match timeSignal with
  | none => processExplicitTime data 0 s
  | some t =>
      match t.ruleType with
      | .linear => processLinearTime data t s
      | .explicit => processExplicitTime data t.time s
      | .constant => ⟨.ret (-1), s, []⟩
      | .unknown => ⟨.ret (-1), s, []⟩

/-- Under an explicit time rule a signal does not count. -/
theorem state_processExplicitTime (data : Bytes) (time : UInt64) (s : SubscribedSignal) :
    (s.processExplicitTime data time).state = s := by
  unfold processExplicitTime
  split_ifs <;> rfl

/-- A payload without a callback is not counted. -/
theorem linearValueIndex_of_callbacks_eq_nil {data : Bytes} {timeSignal : Option SubscribedSignal}
    {s : SubscribedSignal} (h : (s.processMeasuredData data timeSignal).callbacks = []) :
    (s.processMeasuredData data timeSignal).state.linearValueIndex = s.linearValueIndex := by
  cases timeSignal with
  | none => exact congrArg linearValueIndex (state_processExplicitTime data 0 s)
  | some t =>
    unfold processMeasuredData at h ⊢
    cases hrule : t.ruleType with
    | linear =>
      simp only [hrule, processLinearTime] at h ⊢
      cases hs : s.ruleType with
      | explicit =>
        simp only [hs] at h
        split_ifs at h
      | constant =>
        simp only [hs] at h
        split_ifs at h
      | linear => simp only
      | unknown => simp only
    | explicit =>
      simp only [hrule]
      exact congrArg linearValueIndex (state_processExplicitTime data t.time s)
    | constant => simp only [hrule]
    | unknown => simp only [hrule]

/-! ### Interpretation of values -/

/-- The number of octets that are interpreted as one value; 0 for a type that is not supported. -/
def interpretedSize : SampleType → ℕ
  | .u8 | .s8 => 1
  | .u16 | .s16 => 2
  | .u32 | .s32 | .real32 | .bitfield32 => 4
  | .u64 | .s64 | .real64 | .bitfield64 => 8
  | .unknown | .complex32 | .complex64 | .array | .struct => 0

/-- The value of the octets of a sample. Unsigned 64 bit samples are taken for signed ones. -/
def sampleAsDouble [JsonRuntime] (type : SampleType) (octets : Bytes) : Double :=
  let x := leValue octets
  match type with
  | .u8 | .u16 | .u32 | .bitfield32 => JsonRuntime.doubleOfUInt64 (.ofNat x)
  | .s8 => JsonRuntime.doubleOfInt64 (UInt8.ofNat x).toInt8.toInt64
  | .s16 => JsonRuntime.doubleOfInt64 (UInt16.ofNat x).toInt16.toInt64
  | .s32 => JsonRuntime.doubleOfInt64 (UInt32.ofNat x).toInt32.toInt64
  | .u64 | .s64 | .bitfield64 => JsonRuntime.doubleOfInt64 (UInt64.ofNat x).toInt64
  | .real32 => JsonRuntime.doubleOfSingle (.ofNat x)
  | .real64 => ⟨.ofNat x⟩
  | .unknown | .complex32 | .complex64 | .array | .struct => ⟨0⟩

/-- The number of octets of the index before each value, which signals with an implicit rule
have. -/
def indexSize (s : SubscribedSignal) : ℕ := if s.ruleType = .explicit then 0 else 8

/-- The number of octets from one value to the next. -/
def valueStride (s : SubscribedSignal) : ℕ := s.indexSize + interpretedSize s.dataValueType

/-- `SubscribedSignal::convert`, from an offset of the payload. -/
def convert [JsonRuntime] (s : SubscribedSignal) (data : Bytes) :
    (offset count : ℕ) → Except Fault (List Double)
  | _, 0 => .ok []
  | offset, count + 1 =>
      match read? data offset s.indexSize,
        read? data (offset + s.indexSize) (interpretedSize s.dataValueType) with
      | some _, some octets => do
          let values ← convert s data (offset + s.valueStride) count
          return sampleAsDouble s.dataValueType octets :: values
      | _, _ => .error .outOfBounds

/-- `SubscribedSignal::interpretValuesAsDouble`: the values stored in the buffer; their number is
the result. -/
def interpretValuesAsDouble [JsonRuntime] (data : Bytes) (count : ℕ) (s : SubscribedSignal) :
    Except Fault (List Double) :=
  if interpretedSize s.dataValueType = 0 then .ok [] else s.convert data 0 count

/-! ### What is read -/

/-- Values are read inside a buffer if and only if the buffer holds as many strides. -/
theorem convert_isOk_iff [JsonRuntime] (s : SubscribedSignal) (data : Bytes) :
    (count offset : ℕ) → offset ≤ data.length →
    ((∃ values, s.convert data offset count = .ok values) ↔
      offset + s.valueStride * count ≤ data.length)
  | 0, offset, hoffset => by simpa [convert] using hoffset
  | count + 1, offset, hoffset => by
      have hstride : offset + s.valueStride * (count + 1) =
          offset + s.valueStride + s.valueStride * count := by ring
      rw [convert, hstride]
      by_cases hfits : offset + s.valueStride ≤ data.length
      · have hindex : offset + s.indexSize ≤ data.length := by
          unfold valueStride at hfits
          omega
        have hvalue : offset + s.indexSize + interpretedSize s.dataValueType ≤ data.length := by
          unfold valueStride at hfits
          omega
        rw [read?_of_le hindex, read?_of_le hvalue, ← convert_isOk_iff s data count _ hfits]
        constructor
        · rintro ⟨values, h⟩
          cases hrest : s.convert data (offset + s.valueStride) count with
          | ok rest => exact ⟨rest, rfl⟩
          | error f => simp [hrest, bind, Except.bind] at h
        · rintro ⟨rest, hrest⟩
          exact ⟨_, by rw [hrest]; rfl⟩
      · have hnone :
            read? data (offset + s.indexSize) (interpretedSize s.dataValueType) = none := by
          rw [read?_eq_none]
          unfold valueStride at hfits
          omega
        rw [hnone]
        refine iff_of_false ?_ (by omega)
        rintro ⟨values, h⟩
        cases hindex : read? data offset s.indexSize <;> simp [hindex] at h

/-- An interpretation of values reads inside the payload if and only if the payload holds as many
strides, or the type is not supported. -/
theorem interpretValuesAsDouble_isOk_iff [JsonRuntime] (s : SubscribedSignal) (data : Bytes)
    (count : ℕ) :
    (∃ values, s.interpretValuesAsDouble data count = .ok values) ↔
      interpretedSize s.dataValueType = 0 ∨ s.valueStride * count ≤ data.length := by
  unfold interpretValuesAsDouble
  split_ifs with h
  · simp [h]
  · simpa [h] using s.convert_isOk_iff data count 0 (Nat.zero_le _)

end SubscribedSignal

end StreamingProtocol
