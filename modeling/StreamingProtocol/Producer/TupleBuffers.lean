import StreamingProtocol.Foundation.Samples
import StreamingProtocol.Producer.Signals
import Mathlib.Data.List.Chain

/-!
# Reused buffers of tuples

The values of an asynchronous signal are put into a buffer together with their time stamps, and the
buffer is sent value by value. The caller may keep the buffer for the next values. It grows if it is
too small for them, but it does not shrink, and all of it is sent. So values that are left in it
from before are sent again behind fewer new ones, and what is sent is right as long as the numbers
of the values do not decrease.

## Main definitions

* `TupleBatch`: values and time stamps that are sent together.
* `AsynchronousSignal.fillTuples`: `AsynchronousSignal::createTuples` into a buffer that may not be
  empty.
* `AsynchronousSignal.sendBatches`: batches that share a buffer.

## Main results

* `AsynchronousSignal.fillTuples_eq`: what is in the buffer.
* `AsynchronousSignal.sendBatches_eq_iff`: when each batch is sent and nothing else.
-/

namespace StreamingProtocol

open ByteString

/-- Values with their time stamps. There may be more of both than there are samples. -/
structure TupleBatch where
  data : List Bytes
  timestamps : List UInt64
  sampleCount : ℕ
  sampleCount_le_data : sampleCount ≤ data.length
  sampleCount_le_timestamps : sampleCount ≤ timestamps.length

namespace TupleBatch

/-- The values that are to be sent. -/
def samples (b : TupleBatch) : List Bytes := b.data.take b.sampleCount

/-- The samples with their time stamps. -/
def tuples (b : TupleBatch) : List (UInt64 × Bytes) :=
  (b.timestamps.take b.sampleCount).zip b.samples

theorem length_samples (b : TupleBatch) : b.samples.length = b.sampleCount :=
  List.length_take_of_le b.sampleCount_le_data

theorem length_tuples (b : TupleBatch) : b.tuples.length = b.sampleCount := by
  rw [tuples, List.length_zip, b.length_samples,
    List.length_take_of_le b.sampleCount_le_timestamps, min_self]

theorem map_snd_tuples (b : TupleBatch) : b.tuples.map Prod.snd = b.samples := by
  refine List.map_snd_zip ?_
  rw [b.length_samples, List.length_take_of_le b.sampleCount_le_timestamps]

theorem getElem?_tuples (b : TupleBatch) {i : ℕ} {tuple : UInt64 × Bytes}
    (h : b.tuples[i]? = some tuple) :
    b.timestamps[i]? = some tuple.1 ∧ b.data[i]? = some tuple.2 := by
  have hi : i < b.sampleCount := by
    rw [← b.length_tuples]
    exact (List.getElem?_eq_some_iff.mp h).1
  obtain ⟨htimestamp, hvalue⟩ := List.getElem?_zip_eq_some.mp h
  rw [List.getElem?_take_of_lt hi] at htimestamp
  rw [samples, List.getElem?_take_of_lt hi] at hvalue
  exact ⟨htimestamp, hvalue⟩

end TupleBatch

namespace AsynchronousSignal

variable (s : AsynchronousSignal)

/-! ### Filling a buffer -/

/-- `std::vector::resize` of a buffer that is too small. -/
def growTuples (sampleCount : ℕ) (tuplesOut : List (UInt64 × Bytes)) : List (UInt64 × Bytes) :=
  if tuplesOut.length < sampleCount then
    tuplesOut ++ List.replicate (sampleCount - tuplesOut.length) (0, .replicate s.dataType.size 0)
  else tuplesOut

/-- One round of the loop of `AsynchronousSignal::createTuples`. -/
def setTuple (data : List Bytes) (timestamps : List UInt64) (tuplesOut : List (UInt64 × Bytes))
    (i : ℕ) : Option (List (UInt64 × Bytes)) := do
  let value ← data[i]?
  let timeStamp ← timestamps[i]?
  if i < tuplesOut.length then some (tuplesOut.set i (timeStamp, value)) else none

/-- `AsynchronousSignal::createTuples`. -/
def fillTuples (data : List Bytes) (timestamps : List UInt64) (sampleCount : ℕ)
    (tuplesOut : List (UInt64 × Bytes)) : Option (List (UInt64 × Bytes)) :=
  (List.range sampleCount).foldlM (setTuple data timestamps) (s.growTuples sampleCount tuplesOut)

theorem length_growTuples (sampleCount : ℕ) (tuplesOut : List (UInt64 × Bytes)) :
    (s.growTuples sampleCount tuplesOut).length = max tuplesOut.length sampleCount := by
  unfold growTuples
  split_ifs with h
  · rw [List.length_append, List.length_replicate]
    omega
  · omega

/-- What is behind the samples is what was there before. -/
theorem drop_growTuples (sampleCount : ℕ) (tuplesOut : List (UInt64 × Bytes)) :
    (s.growTuples sampleCount tuplesOut).drop sampleCount = tuplesOut.drop sampleCount := by
  unfold growTuples
  split_ifs with h
  · rw [List.drop_of_length_le (by simp; omega), List.drop_of_length_le (by omega)]
  · rfl

/-- The buffer begins with the samples, and has what was there before behind them. -/
theorem fillTuples_eq (b : TupleBatch) (tuplesOut : List (UInt64 × Bytes)) :
    s.fillTuples b.data b.timestamps b.sampleCount tuplesOut =
      some (b.tuples ++ tuplesOut.drop b.sampleCount) := by
  have hfits : b.tuples.length ≤ (s.growTuples b.sampleCount tuplesOut).length := by
    rw [s.length_growTuples, b.length_tuples]
    exact le_max_right ..
  have hset (i : ℕ) (tuple : UInt64 × Bytes) (htuple : b.tuples[i]? = some tuple)
      (tuplesOut : List (UInt64 × Bytes)) (hi : i < tuplesOut.length) :
      setTuple b.data b.timestamps tuplesOut i = some (tuplesOut.set i tuple) := by
    obtain ⟨htimestamp, hvalue⟩ := b.getElem?_tuples htuple
    simp only [setTuple, hvalue, htimestamp, Option.bind_eq_bind, Option.bind_some, if_pos hi]
  have hloop := foldlM_overwrite hset hfits
  rwa [b.length_tuples, s.drop_growTuples] at hloop

/-- A new buffer holds the samples. -/
theorem fillTuples_nil (b : TupleBatch) :
    s.fillTuples b.data b.timestamps b.sampleCount [] =
      some (createTuples b.samples (b.timestamps.take b.sampleCount)) := by
  rw [s.fillTuples_eq, List.drop_nil, List.append_nil]
  rfl

/-! ### Batches that share a buffer -/

/-- What is sent for batches, one after the other, with the buffer that they share. -/
def sendBatches : List TupleBatch → List (UInt64 × Bytes) → Option (List (List WriterCall))
  | [], _ => some []
  | b :: batches, tuplesOut => do
      let tuplesOut ← s.fillTuples b.data b.timestamps b.sampleCount tuplesOut
      let written ← sendBatches batches tuplesOut
      return s.addData tuplesOut :: written

/-- The packets with the samples of a batch. -/
def packets (b : TupleBatch) : List WriterCall :=
  b.samples.map (.writeSignalData s.signalNumber)

theorem length_packets (b : TupleBatch) : (s.packets b).length = b.sampleCount := by
  rw [packets, List.length_map, b.length_samples]

/-- The samples are sent, and then what is behind them in the buffer. -/
theorem addData_tuples (b : TupleBatch) (rest : List (UInt64 × Bytes)) :
    s.addData (b.tuples ++ rest) = s.packets b ++ s.addData rest := by
  have hsamples : s.addData b.tuples = s.packets b := by
    rw [packets, ← b.map_snd_tuples, List.map_map]
    rfl
  rw [addData, List.map_append, ← addData, ← addData, hsamples]

/-- Batches are sent, whatever the buffer holds. -/
theorem exists_sendBatches (batches : List TupleBatch) (tuplesOut : List (UInt64 × Bytes)) :
    ∃ written, s.sendBatches batches tuplesOut = some written := by
  induction batches generalizing tuplesOut with
  | nil => exact ⟨[], rfl⟩
  | cons b batches ih =>
    obtain ⟨written, hwritten⟩ := ih (b.tuples ++ tuplesOut.drop b.sampleCount)
    refine ⟨s.addData (b.tuples ++ tuplesOut.drop b.sampleCount) :: written, ?_⟩
    rw [sendBatches, s.fillTuples_eq, Option.bind_eq_bind, Option.bind_some, hwritten]
    rfl

/-- **Reused buffers.** For each batch its samples are sent and nothing else, if and only if the
numbers of samples do not decrease, from the number of tuples that are in the buffer at first. -/
theorem sendBatches_eq_iff (batches : List TupleBatch) (tuplesOut : List (UInt64 × Bytes)) :
    s.sendBatches batches tuplesOut = some (batches.map s.packets) ↔
      List.IsChain (· ≤ ·) (tuplesOut.length :: batches.map TupleBatch.sampleCount) := by
  induction batches generalizing tuplesOut with
  | nil => exact iff_of_true rfl (List.isChain_singleton _)
  | cons b batches ih =>
    let next := b.tuples ++ tuplesOut.drop b.sampleCount
    obtain ⟨written, hwritten⟩ := s.exists_sendBatches batches next
    have hsent : s.sendBatches (b :: batches) tuplesOut =
        some ((s.packets b ++ s.addData (tuplesOut.drop b.sampleCount)) :: written) := by
      rw [sendBatches, s.fillTuples_eq, Option.bind_eq_bind, Option.bind_some, hwritten,
        ← s.addData_tuples]
      rfl
    have hfirst : s.packets b ++ s.addData (tuplesOut.drop b.sampleCount) = s.packets b ↔
        tuplesOut.length ≤ b.sampleCount := by
      rw [List.append_right_eq_self, addData, List.map_eq_nil_iff, List.drop_eq_nil_iff]
    rw [hsent, List.map_cons, List.map_cons, List.isChain_cons_cons, Option.some.injEq,
      List.cons.injEq, hfirst]
    refine and_congr_right fun hle => ?_
    have hnext : next.length = b.sampleCount := by
      rw [List.length_append, b.length_tuples, List.length_drop]
      omega
    rw [← hnext, ← ih next, hwritten, Option.some.injEq]

/-- A signal of octets. -/
def octets : AsynchronousSignal where
  signalNumber := 1
  signalNumber_ne_zero := firstNumber_ne_zero
  signalId := "octets"
  tableId := "table"
  dataType := .uint8

/-- Two samples, and then one. -/
def twoThenOne : List TupleBatch :=
  [⟨[[1], [2]], [10, 20], 2, le_rfl, le_rfl⟩, ⟨[[3]], [30], 1, le_rfl, le_rfl⟩]

/-- The second one of two samples is sent again behind the sample that comes next. -/
theorem sendBatches_twoThenOne :
    octets.sendBatches twoThenOne [] = some [[.writeSignalData 1 [1], .writeSignalData 1 [2]],
        [.writeSignalData 1 [3], .writeSignalData 1 [2]]] ∧
      octets.sendBatches twoThenOne [] ≠ some (twoThenOne.map octets.packets) := by
  have hsent : octets.sendBatches twoThenOne [] =
      some [[.writeSignalData 1 [1], .writeSignalData 1 [2]],
        [.writeSignalData 1 [3], .writeSignalData 1 [2]]] := rfl
  refine ⟨hsent, fun h => ?_⟩
  rw [hsent] at h
  cases h

end AsynchronousSignal

end StreamingProtocol
