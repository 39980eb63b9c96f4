import StreamingProtocol.Foundation.Samples
import StreamingProtocol.Session.ContainerRuns
import StreamingProtocol.Session.TimePackets

/-!
# Values in payloads

A producer sends the values of a signal in payloads of any number of values. A callback has the time
stamp of the first value, and those of the others follow from it by the delta of the time signal. A
signal that counts its values goes on in the next payload where it has ended in the one before. So
for the values and their time stamps it makes no difference how they are distributed to payloads.

## Main definitions

* `SubscribedSignal.stampedValues`: the values of a payload with their time stamps.
* `Callback.rawValues`, `Callback.countedValues`: values that are delivered, with time stamps.
* `SignalContainer.Synchronous`: an explicit data signal with a linear time signal.

## Main results

* `SignalContainer.Synchronous.process_payload`: one payload.
* `SignalContainer.delivered_payloads`: the same values in any number of payloads.
-/

namespace StreamingProtocol

open ByteString

/-! ### Delivered values -/

/-- The first values of a payload with their time stamps. The payload has the time stamp of its
first value. -/
def SubscribedSignal.stampedValues (s : SubscribedSignal) (timeStamp : UInt64) (count : ℕ)
    (data : Bytes) : List (Bytes × UInt64) :=
  numbered s.linearDelta (splitValues s.dataValueSize.toNat count data) timeStamp

/-- The values of a signal that are delivered as raw data. -/
def Callback.rawValues (n : SignalNumber) : Callback → List (Bytes × UInt64)
  | .dataAsRaw s timeStamp data =>
      if s.signalNumber = n then
        s.stampedValues timeStamp (data.length / s.dataValueSize.toNat) data
      else []
  | .signalMeta .. | .dataAsValue .. => []

/-- The values of a signal that are delivered with their number. -/
def Callback.countedValues (n : SignalNumber) : Callback → List (Bytes × UInt64)
  | .dataAsValue s timeStamp data valueCount =>
      if s.signalNumber = n then s.stampedValues timeStamp valueCount data else []
  | .signalMeta .. | .dataAsRaw .. => []

namespace SignalContainer

/-! ### One payload -/

/-- An explicit data signal, in a table that has a linear time signal. -/
structure Synchronous (c : SignalContainer) (n : SignalNumber) (s t : SubscribedSignal)
    (table : Table) : Prop where
  slot : c.subscribedSignals n = some (some s)
  isData : s.isTimeSignal = false
  explicit : s.ruleType = .explicit
  tables : c.tables s.tableId = some table
  timeSignalNumber_ne_zero : table.timeSignalNumber ≠ 0
  timeSlot : c.subscribedSignals table.timeSignalNumber = some (some t)
  linear : t.ruleType = .linear

end SignalContainer

namespace SubscribedSignal

/-- A data signal that has got its time from a time signal. -/
def joining (s t : SubscribedSignal) : SubscribedSignal :=
  { s with timeSignal := some t.signalNumber, linearDelta := t.linearDelta }

/-- A data signal that has counted values. -/
def counting (s t : SubscribedSignal) (count : ℕ) : SubscribedSignal :=
  { s.joining t with linearValueIndex := s.linearValueIndex + UInt64.ofNat count }

theorem counting_counting (s t : SubscribedSignal) (count count' : ℕ) :
    (s.counting t count).counting t count' = s.counting t (count + count') := by
  have hindex : s.linearValueIndex + UInt64.ofNat count + UInt64.ofNat count' =
      s.linearValueIndex + UInt64.ofNat (count + count') := by
    rw [UInt64.ofNat_add, UInt64.add_assoc]
  simp only [counting, joining, hindex]

/-- The time of the next value goes on with the values that are counted. -/
theorem nextTime_counting (s t : SubscribedSignal) (count : ℕ) :
    t.nextTime (s.counting t count) = t.nextTime s + UInt64.ofNat count * t.linearDelta := by
  unfold nextTime counting joining
  grind

end SubscribedSignal

namespace SignalContainer

variable {c : SignalContainer} {n : SignalNumber} {s t : SubscribedSignal} {table : Table}

/-- The signals are found in a container by what they are. -/
theorem exists_synchronous {id : String}
    (hdata : (c.signal? n).map (fun s => (s.isTimeSignal, s.ruleType, s.tableId)) =
      some (false, .explicit, id))
    (htable : c.tables id = some table) (hzero : table.timeSignalNumber ≠ 0)
    (htime : (c.signal? table.timeSignalNumber).map SubscribedSignal.ruleType = some .linear) :
    ∃ s t, c.Synchronous n s t table := by
  obtain ⟨s, hs, hdata⟩ := Option.map_eq_some_iff.mp hdata
  obtain ⟨t, ht, hlinear⟩ := Option.map_eq_some_iff.mp htime
  simp only [Prod.mk.injEq] at hdata
  obtain ⟨hisData, hexplicit, rfl⟩ := hdata
  exact ⟨s, t, signal?_eq_some.mp hs, hisData, hexplicit, htable, hzero, signal?_eq_some.mp ht,
    hlinear⟩

/-- The number of values in a payload of whole values. -/
theorem valueCount_flatten (hsize : s.dataValueSize ≠ 0) {values : List Bytes}
    (hvalues : ∀ value ∈ values, value.length = s.dataValueSize.toNat) :
    values.flatten.length / s.dataValueSize.toNat = values.length := by
  have hpos : 0 < s.dataValueSize.toNat :=
    Nat.pos_of_ne_zero fun h => hsize (UInt64.toNat_inj.mp h)
  rw [length_flatten_of_forall hvalues, Nat.mul_div_cancel_left _ hpos]

/-- A payload of whole values. -/
theorem Synchronous.process_payload (h : c.Synchronous n s t table) (hsize : s.dataValueSize ≠ 0)
    {values : List Bytes} (hvalues : ∀ value ∈ values, value.length = s.dataValueSize.toNat) :
    c.processMeasuredData n values.flatten =
      ⟨.ret values.flatten.length, c.setSignal n (s.counting t values.length),
        [.dataAsRaw (s.joining t) (t.nextTime s) values.flatten,
          .dataAsValue (s.joining t) (t.nextTime s) values.flatten values.length]⟩ := by
  have hcall := processMeasuredData_data h.slot h.isData h.explicit h.tables
    h.timeSignalNumber_ne_zero h.timeSlot h.linear values.flatten
  dsimp only at hcall
  rw [if_neg hsize, valueCount_flatten hsize hvalues] at hcall
  exact hcall

/-- The signal stays what it is. -/
theorem Synchronous.counting (h : c.Synchronous n s t table) (count : ℕ) :
    (c.setSignal n (s.counting t count)).Synchronous n (s.counting t count) t table where
  slot := subscribedSignals_setSignal_self ..
  isData := h.isData
  explicit := h.explicit
  tables := h.tables
  timeSignalNumber_ne_zero := h.timeSignalNumber_ne_zero
  timeSlot := by
    rw [subscribedSignals_setSignal, if_neg, h.timeSlot]
    intro hn
    have hst : s = t := Option.some.inj (Option.some.inj
      (h.slot.symm.trans (hn ▸ h.timeSlot)))
    cases h.explicit.symm.trans (hst ▸ h.linear)
  linear := h.linear

/-- The values of a payload are delivered once as raw data and once as values, with their time
stamps. -/
theorem Synchronous.delivered_payload (h : c.Synchronous n s t table) (hsize : s.dataValueSize ≠ 0)
    {values : List Bytes} (hvalues : ∀ value ∈ values, value.length = s.dataValueSize.toNat)
    (m : SignalNumber) :
    let callbacks := (c.processMeasuredData n values.flatten).callbacks
    let stamped := if s.signalNumber = m then numbered t.linearDelta values (t.nextTime s) else []
    callbacks.flatMap (Callback.rawValues m) = stamped ∧
      callbacks.flatMap (Callback.countedValues m) = stamped := by
  have hstamped : (s.joining t).stampedValues (t.nextTime s) values.length values.flatten =
      numbered t.linearDelta values (t.nextTime s) := by
    rw [SubscribedSignal.stampedValues]
    exact congrArg (numbered _ · _) (splitValues_flatten hvalues)
  have hcount : values.flatten.length / (s.joining t).dataValueSize.toNat = values.length :=
    valueCount_flatten hsize hvalues
  have hnumber : (s.joining t).signalNumber = s.signalNumber := rfl
  rw [h.process_payload hsize hvalues]
  constructor
  · simp only [List.flatMap_cons, List.flatMap_nil, Callback.rawValues, hnumber, hcount, hstamped,
      List.append_nil]
  · simp only [List.flatMap_cons, List.flatMap_nil, Callback.countedValues, hnumber, hstamped,
      List.append_nil, List.nil_append]

/-! ### Payloads in a row -/

variable [JsonRuntime]

/-- The payloads of a signal. -/
def payloadInputs (n : SignalNumber) (payloads : List (List Bytes)) : List Input :=
  payloads.map fun values => .measuredData n values.flatten

/-- The signal counts the values of all payloads. -/
theorem Synchronous.foldl_next (h : c.Synchronous n s t table) (hsize : s.dataValueSize ≠ 0)
    {payloads : List (List Bytes)} (hvalues : ∀ values ∈ payloads, ∀ value ∈ values,
      value.length = s.dataValueSize.toNat) (hne : payloads ≠ []) :
    (payloadInputs n payloads).foldl next c =
      c.setSignal n (s.counting t payloads.flatten.length) := by
  induction payloads generalizing c s with
  | nil => exact absurd rfl hne
  | cons values payloads ih =>
    obtain ⟨hfirst, hrest⟩ := List.forall_mem_cons.mp hvalues
    have hcall : next c (.measuredData n values.flatten) =
        c.setSignal n (s.counting t values.length) :=
      congrArg Call.state (h.process_payload hsize hfirst)
    rw [payloadInputs, List.map_cons, List.foldl_cons, hcall, List.flatten_cons, List.length_append]
    cases payloads with
    | nil => rfl
    | cons values' payloads =>
      have hnext := ih (h.counting values.length) hsize hrest (List.cons_ne_nil _ _)
      rw [payloadInputs] at hnext
      rw [hnext, setSignal_setSignal, SubscribedSignal.counting_counting]

/-- The values of all payloads are delivered with the time stamps that they have in one payload. -/
theorem Synchronous.delivered (h : c.Synchronous n s t table) (hsize : s.dataValueSize ≠ 0)
    (hnumber : s.signalNumber = n) {payloads : List (List Bytes)}
    (hvalues : ∀ values ∈ payloads, ∀ value ∈ values, value.length = s.dataValueSize.toNat) :
    let callbacks := c.callbacks (payloadInputs n payloads)
    callbacks.flatMap (Callback.rawValues n) =
        numbered t.linearDelta payloads.flatten (t.nextTime s) ∧
      callbacks.flatMap (Callback.countedValues n) =
        numbered t.linearDelta payloads.flatten (t.nextTime s) := by
  induction payloads generalizing c s with
  | nil => exact ⟨rfl, rfl⟩
  | cons values payloads ih =>
    obtain ⟨hfirst, hrest⟩ := List.forall_mem_cons.mp hvalues
    have hcall : (c.process (.measuredData n values.flatten)).state =
        c.setSignal n (s.counting t values.length) :=
      congrArg Call.state (h.process_payload hsize hfirst)
    obtain ⟨hraw, hcounted⟩ := h.delivered_payload hsize hfirst n
    rw [if_pos hnumber] at hraw hcounted
    obtain ⟨hraws, hcounteds⟩ := ih (h.counting values.length) hsize hnumber hrest
    rw [SubscribedSignal.nextTime_counting] at hraws hcounteds
    rw [payloadInputs, List.map_cons, callbacks, hcall]
    dsimp only
    rw [List.flatMap_append, List.flatMap_append, List.flatten_cons, numbered_append]
    exact ⟨congrArg₂ _ hraw hraws, congrArg₂ _ hcounted hcounteds⟩

/-! ### Containers that are reached -/

/-- Every signal is stored under its own number, and the size of its values is not 0. -/
theorem storedAt_of_reached {allowed : SignalContainer → Input → Prop} (h : Reached allowed c) :
    StoredAt (fun n s => s.signalNumber = n ∧ s.dataValueSize ≠ 0) c := by
  refine ReachedBy.invariant storedAt_initial (fun c i hc _ => ?_) h
  refine storedAt_process (fun n _ _ id => ⟨rfl, (by decide : (4 : UInt64) ≠ 0)⟩) ?_ ?_ hc
  · rintro n m - - s - ⟨hnumber, hsize⟩
    have hidentity := SubscribedSignal.view_processSignal_identity m.params s
    refine ⟨(congrArg Prod.fst hidentity).trans hnumber, ?_⟩
    rcases s.dataValueSize_processSignal m.params with hkept | ⟨-, -, -, hne, -⟩
    · rw [hkept]
      exact hsize
    · exact hne
  · rintro n s _ ⟨_, _, _, _, rfl⟩ h
    exact h

/-- **Payloads.** However the values of a signal are distributed to payloads, the state afterwards
is the one after a single payload, and the values are delivered with the same time stamps: those
that count on by the delta of the time signal from the time of its next value. -/
theorem delivered_payloads (hreached : Reached (fun _ _ => True) c) (h : c.Synchronous n s t table)
    {payloads : List (List Bytes)} (hne : payloads ≠ [])
    (hvalues : ∀ values ∈ payloads, ∀ value ∈ values, value.length = s.dataValueSize.toNat) :
    let whole := c.process (.measuredData n payloads.flatten.flatten)
    (payloadInputs n payloads).foldl next c = whole.state ∧
      (c.callbacks (payloadInputs n payloads)).flatMap (Callback.rawValues n) =
        whole.callbacks.flatMap (Callback.rawValues n) ∧
      (c.callbacks (payloadInputs n payloads)).flatMap (Callback.countedValues n) =
        whole.callbacks.flatMap (Callback.countedValues n) ∧
      whole.callbacks.flatMap (Callback.rawValues n) =
        numbered t.linearDelta payloads.flatten (t.nextTime s) := by
  obtain ⟨hnumber, hsize⟩ := storedAt_of_reached hreached n s h.slot
  have hwhole : ∀ value ∈ payloads.flatten, value.length = s.dataValueSize.toNat := by
    intro value hvalue
    obtain ⟨values, hmem, hvalue⟩ := List.mem_flatten.mp hvalue
    exact hvalues values hmem value hvalue
  obtain ⟨hraw, hcounted⟩ := h.delivered_payload hsize hwhole n
  rw [if_pos hnumber] at hraw hcounted
  obtain ⟨hraws, hcounteds⟩ := h.delivered hsize hnumber hvalues
  refine ⟨?_, hraws.trans hraw.symm, hcounteds.trans hcounted.symm, hraw⟩
  rw [h.foldl_next hsize hvalues hne]
  exact (congrArg Call.state (h.process_payload hsize hwhole)).symm

omit [JsonRuntime] in
/-- Three octets in two payloads. -/
theorem delivered_payloads_three :
    let c := @run decimalRuntime (dataSession (.object [(metaDatatype, .string dataTypeUint8)]))
    (payloadInputs 2 [[[1]], [[2], [3]]]).foldl (@next decimalRuntime) c =
      (@process decimalRuntime c (.measuredData 2 [1, 2, 3])).state := by
  let _ : JsonRuntime := decimalRuntime
  intro c
  have hoctet : (c.signal? 2).map SubscribedSignal.dataValueSize = some 1 := by decide +kernel
  have htable : c.tables "t" = some ⟨1, {2}⟩ := by decide +kernel
  obtain ⟨s, t, h⟩ := exists_synchronous (n := 2) (by decide +kernel) htable
    (by decide : (1 : SignalNumber) ≠ 0) (by decide +kernel)
  have hsize : s.dataValueSize = 1 := by
    rw [signal?_eq_some.mpr h.slot] at hoctet
    exact Option.some.inj hoctet
  have hvalues : ∀ values ∈ [[[(1 : UInt8)]], [[2], [3]]], ∀ value ∈ values,
      value.length = s.dataValueSize.toNat := by
    rw [hsize]
    decide
  exact (delivered_payloads (reached_run _) h (List.cons_ne_nil _ _) hvalues).1

end SignalContainer

end StreamingProtocol
