import StreamingProtocol.Producer.FreshDescription
import StreamingProtocol.Session.Batching

/-!
# Payloads of constant signals

A constant signal sends each value after its index. The producer allocates a buffer for all of them
and copies indices and values to offsets that it computes from the size of an entry. The consumer
computes the size of an entry from the description of the signal, to count the values. Both sizes
are the same, so that each index and each value are found in their entry.

## Main definitions

* `ConstantSignal.entrySize`: the size of an index and a value.
* `ConstantSignal.fillSignalData`: the loop that fills the buffer.

## Main results

* `ConstantSignal.fillSignalData_eq`: what the buffer is filled with.
* `SubscribedSignal.processMeasuredData_constant`.
* `ConstantSignal.delivered_addData`.
-/

namespace StreamingProtocol

open ByteString SignalContainer

/-! ### The buffer of the producer -/

namespace ConstantSignal

/-- `sizeof(IndexedValue<DataType>)`: the index and the value are packed. -/
def entrySize (s : ConstantSignal) : ℕ := 8 + s.dataType.size

/-- The loop of `ConstantSignal::addData`, which copies indices and values to the buffer. -/
def fillSignalData (s : ConstantSignal) (values : List Bytes) (indices : List UInt64)
    (valuesCount : ℕ) (signalData : Bytes) : Option Bytes :=
  (List.range valuesCount).foldlM (fun signalData i => do
    let index ← indices[i]?
    let value ← values[i]?
    let signalData ← write? signalData (i * s.entrySize) (leBytes 8 index.toNat)
    write? signalData (i * s.entrySize + 8) value) signalData

/-- An index and a value. -/
def entry (index : UInt64) (value : Bytes) : Bytes := leBytes 8 index.toNat ++ value

variable {p : ConstantSignal} {values : List Bytes} {indices : List UInt64} {n : ℕ}

theorem length_entry (index : UInt64) {value : Bytes} (hvalue : value.length = p.dataType.size) :
    (entry index value).length = p.entrySize := by
  rw [entry, List.length_append, length_leBytes, hvalue, entrySize]

/-- The payload of the values. -/
def payload (values : List Bytes) (indices : List UInt64) : Bytes :=
  (List.zipWith entry indices values).flatten

theorem addData_eq (p : ConstantSignal) (values : List Bytes) (indices : List UInt64) :
    p.addData values indices = .writeSignalData p.signalNumber (payload values indices) := by
  rw [addData, payload, List.flatMap_def, ← List.map_uncurry_zip_eq_zipWith]
  rfl

theorem length_of_mem_entries (hvalues : ∀ value ∈ values, value.length = p.dataType.size) :
    ∀ record ∈ List.zipWith entry indices values, record.length = p.entrySize := by
  intro record hrecord
  obtain ⟨i, hi, rfl⟩ := List.getElem_of_mem hrecord
  rw [List.getElem_zipWith]
  exact length_entry _ (hvalues _ (List.getElem_mem _))

theorem length_entries (hlength : values.length = n) (hindices : indices.length = n) :
    (List.zipWith entry indices values).length = n := by
  rw [List.length_zipWith, hlength, hindices, min_self]

theorem length_payload (hlength : values.length = n) (hindices : indices.length = n)
    (hvalues : ∀ value ∈ values, value.length = p.dataType.size) :
    (payload values indices).length = n * p.entrySize := by
  rw [payload, length_flatten_of_forall (length_of_mem_entries hvalues),
    length_entries hlength hindices, Nat.mul_comm]

/-- The records of the payload are the entries. -/
theorem splitValues_payload (hlength : values.length = n) (hindices : indices.length = n)
    (hvalues : ∀ value ∈ values, value.length = p.dataType.size) :
    splitValues p.entrySize n (payload values indices) = List.zipWith entry indices values := by
  have hsplit := splitValues_flatten (@length_of_mem_entries p values indices hvalues)
  rw [length_entries hlength hindices] at hsplit
  exact hsplit

/-- The loop stays inside the buffer, and overwrites all of it. -/
theorem fillSignalData_eq (hlength : values.length = n) (hindices : indices.length = n)
    (hvalues : ∀ value ∈ values, value.length = p.dataType.size) {signalData : Bytes}
    (hallocated : signalData.length = n * p.entrySize) :
    p.fillSignalData values indices n signalData = some (payload values indices) := by
  have hcount := length_entries hlength hindices
  unfold fillSignalData payload
  conv_lhs => rw [← hcount]
  refine foldlM_records ?_ (length_of_mem_entries hvalues) (hcount.symm ▸ hallocated)
  intro i record hrecord pre old post hpre hold
  obtain ⟨index, value, hindex, hvalue, rfl⟩ := List.getElem?_zipWith_eq_some.mp hrecord
  have hsize : value.length = p.dataType.size := hvalues value (List.mem_of_getElem? hvalue)
  -- the entry that was there before, in the parts of the two writes
  have hparts : old = old.take 8 ++ old.drop 8 := (List.take_append_drop 8 old).symm
  have htake : (leBytes 8 index.toNat).length = (old.take 8).length := by
    rw [length_leBytes, List.length_take_of_le]
    rw [hold, entrySize]
    omega
  have hdrop : value.length = (old.drop 8).length := by
    rw [List.length_drop, hold, entrySize, hsize]
    omega
  have hfirst := write?_append pre (old.drop 8 ++ post) htake
  have hsecond := write?_append (pre ++ leBytes 8 index.toNat) post hdrop
  rw [hpre, ← List.append_assoc (old.take 8), ← hparts] at hfirst
  rw [List.length_append, hpre, length_leBytes, List.append_assoc, List.append_assoc] at hsecond
  simp only [hindex, hvalue, hfirst, hsecond, Option.bind_eq_bind, Option.bind_some, entry,
    List.append_assoc]

end ConstantSignal

/-! ### The consumer -/

/-- A payload of a constant signal, under a linear rule of the time signal. -/
theorem SubscribedSignal.processMeasuredData_constant {s t : SubscribedSignal}
    (hrule : s.ruleType = .constant) (hlinear : t.ruleType = .linear)
    (hsize : 8 + s.dataValueSize ≠ 0) (data : Bytes) :
    s.processMeasuredData data (some t) =
      let s' := { s with linearDelta := t.linearDelta }
      ⟨.ret data.length, s', [.dataAsRaw s' t.time data,
        .dataAsValue s' t.time data (data.length / (8 + s.dataValueSize).toNat)]⟩ := by
  unfold processMeasuredData processLinearTime
  simp only [hlinear, hrule, if_neg hsize]

namespace ConstantSignal

variable [JsonRuntime] {p : ConstantSignal} {values : List Bytes} {indices : List UInt64} {n : ℕ}

/-- From an accepted description to the next meta information for the signal, the consumer has its
rule and takes an index and a value for one entry. -/
theorem stride_of_accepted {c : SignalContainer}
    (haccepted : c.Succeeds (ProducerSignal.constant p).writeSignalMetaInformation.input)
    {inputs : List Input}
    (hinputs : ∀ input ∈ inputs, ∀ m, input ≠ .metaInformation p.signalNumber.toNat m)
    {s : SubscribedSignal}
    (hs : (inputs.foldl next (c.next
      (ProducerSignal.constant p).writeSignalMetaInformation.input)).subscribedSignals
        p.signalNumber.toNat = some (some s)) :
    s.ruleType = .constant ∧ (8 + s.dataValueSize).toNat = p.entrySize := by
  let P := ProducerSignal.constant p
  obtain ⟨s₀, s₁, hdescribed, hs₁⟩ := haccepted.described P.method_description
  have hparams : P.announcement.description.params = P.parameters := P.params_description
  have hsaid : s₀.processSignal P.parameters = .normal s₁ := hparams ▸ hdescribed
  obtain ⟨-, rfl⟩ := P.said.processSignal_eq_normal_iff.mp hsaid
  have hbytes : (8 + UInt64.ofNat p.dataType.size).toNat = p.entrySize := by
    rw [entrySize]
    cases p.dataType <;> rfl
  refine subscribedSignals_foldl
    (P := fun s => s.ruleType = .constant ∧ (8 + s.dataValueSize).toNat = p.entrySize) ?_ hs₁
    ⟨rfl, hbytes⟩ hinputs hs
  rintro s _ ⟨_, _, _, _, rfl⟩ hs
  exact hs

omit [JsonRuntime] in
/-- A signal with the size of an entry counts the values of a payload. -/
theorem process_payload {s t : SubscribedSignal} (hrule : s.ruleType = .constant)
    (hbytes : (8 + s.dataValueSize).toNat = p.entrySize) (ht : t.ruleType = .linear)
    (hlength : values.length = n) (hindices : indices.length = n)
    (hvalues : ∀ value ∈ values, value.length = p.dataType.size) :
    let data := payload values indices
    let s' := { s with linearDelta := t.linearDelta }
    s.processMeasuredData data (some t) = ⟨.ret data.length, s',
      [.dataAsRaw s' t.time data, .dataAsValue s' t.time data n]⟩ := by
  have hpos : 0 < p.entrySize := Nat.add_pos_left (by decide) _
  have hne : 8 + s.dataValueSize ≠ 0 := by
    intro hzero
    rw [hzero] at hbytes
    exact absurd hbytes hpos.ne
  have hcount : (payload values indices).length / p.entrySize = n := by
    rw [length_payload hlength hindices hvalues, Nat.mul_div_cancel _ hpos]
  have hcall := SubscribedSignal.processMeasuredData_constant hrule ht hne (payload values indices)
  rw [hbytes, hcount] at hcall
  exact hcall

/-- **Constant values.** After the description of a constant signal has been accepted, and without
further meta information for the signal, a payload of `n` values and indices is delivered with all
of its octets, as `n` values. Each record has the index and the value of its entry. The signal does
not count these values. -/
theorem delivered_addData {c : SignalContainer}
    (haccepted : c.Succeeds (ProducerSignal.constant p).writeSignalMetaInformation.input)
    {inputs : List Input}
    (hinputs : ∀ input ∈ inputs, ∀ m, input ≠ .metaInformation p.signalNumber.toNat m)
    {s t : SubscribedSignal}
    (hs : (inputs.foldl next (c.next
      (ProducerSignal.constant p).writeSignalMetaInformation.input)).subscribedSignals
        p.signalNumber.toNat = some (some s))
    (ht : t.ruleType = .linear) (hlength : values.length = n) (hindices : indices.length = n)
    (hvalues : ∀ value ∈ values, value.length = p.dataType.size) {signalData : Bytes}
    (hallocated : signalData.length = n * p.entrySize) :
    ∃ data, p.fillSignalData values indices n signalData = some data ∧
      p.addData values indices = .writeSignalData p.signalNumber data ∧
      data.length = n * (8 + p.dataType.size) ∧
      (∀ (i : ℕ) (index : UInt64) (value : Bytes),
        indices[i]? = some index → values[i]? = some value →
        (splitValues (8 + p.dataType.size) n data)[i]? = some (leBytes 8 index.toNat ++ value)) ∧
      (let s' := { s with linearDelta := t.linearDelta }
      s.processMeasuredData data (some t) = ⟨.ret data.length, s',
        [.dataAsRaw s' t.time data, .dataAsValue s' t.time data n]⟩) ∧
      (let c' := inputs.foldl next (c.next
        (ProducerSignal.constant p).writeSignalMetaInformation.input)
      c'.TimedBy s t → c'.process (p.addData values indices).input =
        ⟨.ret data.length, c'.setSignal p.signalNumber.toNat (s.joining t),
          [.dataAsRaw (s.joining t) t.time data, .dataAsValue (s.joining t) t.time data n]⟩) ∧
      (s.joining t).linearValueIndex = s.linearValueIndex := by
  obtain ⟨hrule, hbytes⟩ := stride_of_accepted haccepted hinputs hs
  refine ⟨payload values indices, fillSignalData_eq hlength hindices hvalues hallocated,
    p.addData_eq values indices, length_payload hlength hindices hvalues,
    fun i index value hindex hvalue => ?_,
    process_payload hrule hbytes ht hlength hindices hvalues, fun htimed => ?_, rfl⟩
  · have hsplit := splitValues_payload hlength hindices hvalues
    rw [entrySize] at hsplit
    rw [hsplit]
    exact List.getElem?_zipWith_eq_some.mpr ⟨index, value, hindex, hvalue, rfl⟩
  · have hcall := process_payload (s := { s with timeSignal := some t.signalNumber }) hrule hbytes
      ht hlength hindices hvalues
    rw [p.addData_eq values indices]
    refine (htimed.processMeasuredData hs _).trans ?_
    rw [hcall]
    rfl

omit [JsonRuntime] in
/-- A signal of single octets. -/
def status : ConstantSignal where
  signalNumber := 2
  signalId := "status"
  tableId := "t"
  dataType := .uint8
  isComplex_dataType := rfl
  defaultStartValue := .null

omit [JsonRuntime] in
/-- Two values in a table with a linear time signal. -/
theorem delivered_addData_two :
    let c := @run decimalRuntime (subscription 1 linearTime ++
      (ProducerSignal.constant status).subscribe.map WriterCall.input)
    ∃ s timeStamp, .dataAsValue s timeStamp
        [0, 0, 0, 0, 0, 0, 0, 0, 7, 3, 0, 0, 0, 0, 0, 0, 0, 9] 2 ∈
      (@process decimalRuntime c (status.addData [[7], [9]] [0, 3]).input).callbacks := by
  let _ : JsonRuntime := decimalRuntime
  intro c
  let c₀ := run (subscription 1 linearTime ++
    [.metaInformation 2 (ProducerSignal.constant status).announcement.acknowledgement])
  have haccepted : c₀.Succeeds (ProducerSignal.constant status).writeSignalMetaInformation.input :=
    ⟨0, le_rfl, by decide +kernel⟩
  have hdata : (c.signal? 2).map (fun s => (s.isTimeSignal, s.tableId)) = some (false, "t") := by
    decide +kernel
  have htable : c.tables "t" = some ⟨1, {2}⟩ := by decide +kernel
  have htime : (c.signal? 1).map SubscribedSignal.ruleType = some .linear := by decide +kernel
  obtain ⟨s, hs, hdata⟩ := Option.map_eq_some_iff.mp hdata
  obtain ⟨t, ht, hlinear⟩ := Option.map_eq_some_iff.mp htime
  simp only [Prod.mk.injEq] at hdata
  obtain ⟨hisData, hid⟩ := hdata
  have htimed : c.TimedBy s t :=
    ⟨hisData, ⟨1, {2}⟩, hid ▸ htable, (by decide : (1 : SignalNumber) ≠ 0), signal?_eq_some.mp ht⟩
  obtain ⟨data, -, hwritten, -, -, -, hdelivered, -⟩ :=
    @delivered_addData _ status [[7], [9]] [0, 3] 2 c₀ haccepted [] (List.forall_mem_nil _) s t
      (signal?_eq_some.mp hs) hlinear rfl rfl (by decide) (List.replicate 18 0) rfl
  have hdata : [0, 0, 0, 0, 0, 0, 0, 0, 7, 3, 0, 0, 0, 0, 0, 0, 0, 9] = data :=
    (WriterCall.writeSignalData.inj hwritten).2
  have hcallbacks : (c.process (status.addData [[7], [9]] [0, 3]).input).callbacks =
      [.dataAsRaw (s.joining t) t.time data, .dataAsValue (s.joining t) t.time data 2] :=
    congrArg Call.callbacks (hdelivered htimed)
  refine ⟨s.joining t, t.time, ?_⟩
  rw [hcallbacks, hdata]
  exact List.mem_cons_of_mem _ List.mem_cons_self

end ConstantSignal

end StreamingProtocol
