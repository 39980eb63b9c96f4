import StreamingProtocol.Session.ContainerSteps

/-!
# Packets of a table

Measured data of a linear time signal is an index and a time. They are stored in the time signal in
each round of the loop over the data signals of the table, and the rounds do nothing else. So they
are stored if the table names a data signal. Measured data of an explicit data signal of the table
gets its time stamp from the time signal as it is then.

Measured data of an explicit time signal begins with a time, which is stored in the same way. It is
handed to the time signal itself as well, as values without a time.

## Main definitions

* `SubscribedSignal.atTime`, `SubscribedSignal.setTime`: a time signal after a packet.
* `SignalContainer.dataOf`: the data signals of a table, `SignalContainer.tableAt`: the table.
* `SignalContainer.TimedBy`: a data signal in a table with a time signal.

## Main results

* `SignalContainer.processMeasuredData_time`, `SignalContainer.outcome_processMeasuredData_time`.
* `SignalContainer.TimedBy.processMeasuredData`, `SignalContainer.processMeasuredData_data`.
* `SignalContainer.processMeasuredData_explicitTime`, `SignalContainer.processMeasuredData_stamped`.
-/

namespace StreamingProtocol

open ByteString

/-- A time signal after a packet with an index and a time. -/
def SubscribedSignal.atTime (value index : UInt64) (s : SubscribedSignal) : SubscribedSignal :=
  { s with time := value, linearValueIndex := index }

/-- A time signal after a packet with a time: `SubscribedSignal::setTime`. -/
def SubscribedSignal.setTime (value : UInt64) (s : SubscribedSignal) : SubscribedSignal :=
  { s with time := value }

/-- The time of the value that a data signal `s` of a linear time signal has next. -/
def SubscribedSignal.nextTime (timeSignal s : SubscribedSignal) : UInt64 :=
  timeSignal.time + (s.linearValueIndex - timeSignal.linearValueIndex) * timeSignal.linearDelta

namespace SignalContainer

/-- The data signals of a table; a table that does not exist has none. -/
def dataOf (c : SignalContainer) (id : String) : Finset SignalNumber :=
  ((c.tables id).getD {}).dataSignalNumbers

/-! ### Tables -/

section Tables

variable {c : SignalContainer} {n : SignalNumber} {s : SubscribedSignal} {id : String}

/-- The table with an id; a table that does not exist names no signals. -/
def tableAt (c : SignalContainer) (id : String) : Table := (c.tables id).getD {}

theorem dataOf_eq (c : SignalContainer) (id : String) :
    c.dataOf id = (c.tableAt id).dataSignalNumbers := rfl

/-- A table with a time signal exists. -/
theorem tables_eq_some_of_timeSignalNumber (h : (c.tableAt id).timeSignalNumber ≠ 0) :
    c.tables id = some (c.tableAt id) := by
  unfold tableAt at h ⊢
  cases htable : c.tables id with
  | none =>
    rw [htable] at h
    exact absurd rfl h
  | some table => rfl

/-- A described signal joins its table. -/
theorem tableAt_register (hid : s.tableId = id) :
    (c.register n s).tableAt id = (c.tableAt id).with n s.isTimeSignal := by
  unfold tableAt register
  rw [tables_setTable, if_pos hid.symm, hid]
  rfl

/-- A signal that is not subscribed any more leaves its table. -/
theorem tableAt_unregister (hid : s.tableId = id) :
    (c.unregister n s).tableAt id = (c.tableAt id).without n s.isTimeSignal := by
  unfold tableAt unregister
  rw [hid]
  cases htable : c.tables id with
  | none =>
    dsimp only
    rw [htable]
    cases s.isTimeSignal <;> rfl
  | some table =>
    dsimp only
    rw [Option.getD_some]
    split_ifs with hempty
    · rw [tables_eraseTable, if_pos rfl, Option.getD_none]
      obtain ⟨htime, hdata⟩ := hempty
      generalize table.without n s.isTimeSignal = left at htime hdata
      cases left
      simp_all
    · rw [tables_setTable, if_pos rfl, Option.getD_some]

end Tables

/-! ### The loop over the data signals -/

section Loop

variable {c : SignalContainer} {n : SignalNumber}
  {change : SubscribedSignal → SubscribedSignal}

theorem signal?_modifySignal (c : SignalContainer) (n k : SignalNumber)
    (change : SubscribedSignal → SubscribedSignal) :
    (c.modifySignal n change).signal? k =
      if k = n then (c.signal? n).map change else c.signal? k := by
  unfold modifySignal
  cases hs : c.signal? n with
  | none =>
    dsimp only
    split_ifs with hk
    · rw [hk, hs]
      rfl
    · rfl
  | some s => exact signal?_setSignal c n k (change s)

/-- A change that makes no difference the second time. -/
theorem modifySignal_modifySignal (hchange : ∀ s, change (change s) = change s) :
    (c.modifySignal n change).modifySignal n change = c.modifySignal n change := by
  cases hs : c.signal? n with
  | none =>
    have hself : c.modifySignal n change = c := by
      unfold modifySignal
      rw [hs]
    rw [hself, hself]
  | some s =>
    have hset : c.modifySignal n change = c.setSignal n (change s) := by
      unfold modifySignal
      rw [hs]
    have hs' : (c.setSignal n (change s)).signal? n = some (change s) := by
      rw [signal?_setSignal, if_pos rfl]
    rw [hset]
    unfold modifySignal
    rw [hs']
    dsimp only
    rw [setSignal_setSignal, hchange]

/-- A round for a data signal that is there. -/
theorem visitDataSignal_of_some {m : SignalNumber} (hm : c.signal? m ≠ none) :
    visitDataSignal n change m c = .normal (c.modifySignal n change) := by
  have haccess : c.access m = c := by
    refine access_eq_self fun hnone => hm ?_
    rw [signal?, hnone]
    rfl
  have hm' : (c.modifySignal n change).signal? m ≠ none := by
    rw [signal?_modifySignal]
    split_ifs with h
    · rw [h] at hm
      simpa using hm
    · exact hm
  obtain ⟨t, ht⟩ := Option.ne_none_iff_exists'.mp hm'
  unfold visitDataSignal
  rw [haccess]
  simp only [ht]

/-- A round for a data signal that is missing looks up a null pointer. -/
theorem visitDataSignal_of_none {m : SignalNumber} (hm : c.signal? m = none) :
    (visitDataSignal n change m c).why? = some (.undefined .nullPointer) := by
  have hm' : ((c.access m).modifySignal n change).signal? m = none := by
    rw [signal?_modifySignal, signal?_access, signal?_access]
    split_ifs with h
    · rw [← h, hm]
      rfl
    · exact hm
  unfold visitDataSignal
  dsimp only
  rw [hm']
  rfl

/-- The rounds for data signals that are there change the time signal, if there are any. -/
theorem sequence_visitDataSignal (hchange : ∀ s, change (change s) = change s)
    (ms : List SignalNumber) (hms : ∀ m ∈ ms, c.signal? m ≠ none) :
    Completion.sequence (ms.map (visitDataSignal n change)) c =
      .normal (if ms = [] then c else c.modifySignal n change) := by
  induction ms generalizing c with
  | nil => rfl
  | cons m ms ih =>
    have hrest (k : SignalNumber) (hk : k ∈ ms) : (c.modifySignal n change).signal? k ≠ none := by
      rw [signal?_modifySignal]
      have hk := hms k (List.mem_cons_of_mem m hk)
      split_ifs with h
      · rw [h] at hk
        simpa using hk
      · exact hk
    rw [List.map_cons, Completion.sequence_cons,
      visitDataSignal_of_some (hms m List.mem_cons_self), Completion.normal_andThen, ih hrest,
      modifySignal_modifySignal hchange, ite_self, if_neg (List.cons_ne_nil m ms)]

/-- The rounds get to a data signal that is missing. -/
theorem why?_sequence_visitDataSignal (ms : List SignalNumber)
    (hms : ∃ m ∈ ms, c.signal? m = none) :
    (Completion.sequence (ms.map (visitDataSignal n change)) c).why? =
      some (.undefined .nullPointer) := by
  induction ms generalizing c with
  | nil =>
    obtain ⟨m, hm, -⟩ := hms
    cases hm
  | cons m ms ih =>
    rw [List.map_cons, Completion.why?_sequence_cons]
    by_cases hm : c.signal? m = none
    · rw [visitDataSignal_of_none hm]
    · rw [visitDataSignal_of_some hm]
      refine ih ?_
      obtain ⟨k, hk, hnone⟩ := hms
      rcases List.mem_cons.mp hk with rfl | hk
      · exact absurd hnone hm
      · refine ⟨k, hk, ?_⟩
        rw [Completion.state_normal, signal?_modifySignal]
        split_ifs with h
        · rw [← h, hnone]
          rfl
        · exact hnone

end Loop

/-! ### Calls -/

/-- The index and the time in a packet. -/
theorem word?_timePacket (index time : UInt64) :
    word? (leBytes 8 index.toNat ++ leBytes 8 time.toNat) 0 = some index ∧
      word? (leBytes 8 index.toNat ++ leBytes 8 time.toNat) 8 = some time := by
  have hword (x : UInt64) : UInt64.ofNat (leValue (leBytes 8 x.toNat)) = x := by
    rw [leValue_leBytes_of_lt x.toNat_lt, UInt64.ofNat_toNat]
  have hindex := read?_append_right [] (leBytes 8 index.toNat) (leBytes 8 time.toNat)
  have htime := read?_append_right (leBytes 8 index.toNat) (leBytes 8 time.toNat) []
  rw [List.nil_append, length_leBytes] at hindex
  rw [List.append_nil, length_leBytes, length_leBytes] at htime
  constructor
  · rw [word?, ← List.length_nil, hindex, Option.map_some, hword]
  · rw [word?, htime, Option.map_some, hword]

variable {c : SignalContainer} {n : SignalNumber} {s : SubscribedSignal} {table : Table}
  {data : Bytes}

theorem processMeasuredData_eq_indexed (hs : c.subscribedSignals n = some (some s))
    (htime : s.isTimeSignal = true) (hrule : s.ruleType ≠ .explicit)
    (htable : c.tables s.tableId = some table) {value index : UInt64}
    (hindex : word? data 0 = some index) (hvalue : word? data 8 = some value) :
    c.processMeasuredData n data =
      match Completion.sequence (table.dataSignals.map
        (visitDataSignal n (SubscribedSignal.atTime value index))) c with
      | .abrupt why c => ⟨why, c, []⟩
      | .normal c => ⟨.ret data.length, c, []⟩ := by
  unfold processMeasuredData processTime processIndexedTimeStamp
  simp only [hs, htime, hrule, htable, hindex, hvalue, if_true, if_false]
  rfl

/-- A packet for a table whose data signals are there is stored if there are any. -/
theorem processMeasuredData_time (hs : c.subscribedSignals n = some (some s))
    (htime : s.isTimeSignal = true) (hrule : s.ruleType ≠ .explicit)
    (htable : c.tables s.tableId = some table) {value index : UInt64}
    (hindex : word? data 0 = some index) (hvalue : word? data 8 = some value)
    (hdata : ∀ m ∈ c.dataOf s.tableId, c.signal? m ≠ none) :
    c.processMeasuredData n data =
      ⟨.ret data.length, if c.dataOf s.tableId = ∅ then c else c.setSignal n (s.atTime value index),
        []⟩ := by
  have hof : c.dataOf s.tableId = table.dataSignalNumbers := by rw [dataOf, htable]; rfl
  rw [hof] at hdata ⊢
  have hms (m : SignalNumber) (hm : m ∈ table.dataSignals) : c.signal? m ≠ none :=
    hdata m ((Finset.mem_sort _).mp hm)
  have hempty : table.dataSignals = [] ↔ table.dataSignalNumbers = ∅ := by
    rw [Table.dataSignals, ← List.toFinset_eq_empty_iff, Finset.sort_toFinset]
  have hmodify : c.modifySignal n (SubscribedSignal.atTime value index) =
      c.setSignal n (s.atTime value index) := by
    unfold modifySignal
    rw [signal?_eq_some.mpr hs]
  have hagain (s : SubscribedSignal) : (s.atTime value index).atTime value index =
      s.atTime value index := rfl
  rw [processMeasuredData_eq_indexed hs htime hrule htable hindex hvalue,
    sequence_visitDataSignal hagain _ hms]
  simp only [hempty, hmodify]

/-- A packet for a table with a data signal that is missing has no defined behaviour. -/
theorem outcome_processMeasuredData_time (hs : c.subscribedSignals n = some (some s))
    (htime : s.isTimeSignal = true) (hrule : s.ruleType ≠ .explicit)
    (htable : c.tables s.tableId = some table) {value index : UInt64}
    (hindex : word? data 0 = some index) (hvalue : word? data 8 = some value)
    (hdata : ∃ m ∈ c.dataOf s.tableId, c.signal? m = none) :
    (c.processMeasuredData n data).outcome = .undefined .nullPointer := by
  have hof : c.dataOf s.tableId = table.dataSignalNumbers := by rw [dataOf, htable]; rfl
  obtain ⟨m, hm, hnone⟩ := hdata
  rw [hof] at hm
  have hwhy := @why?_sequence_visitDataSignal c n (SubscribedSignal.atTime value index)
    table.dataSignals ⟨m, (Finset.mem_sort _).mpr hm, hnone⟩
  rw [processMeasuredData_eq_indexed hs htime hrule htable hindex hvalue,
    Completion.eq_abrupt_of_why? hwhy]

/-- A data signal in a table with a time signal. -/
structure TimedBy (c : SignalContainer) (s t : SubscribedSignal) : Prop where
  isData : s.isTimeSignal = false
  table : ∃ table, c.tables s.tableId = some table ∧ table.timeSignalNumber ≠ 0 ∧
    c.subscribedSignals table.timeSignalNumber = some (some t)

/-- The signal of a container gets a payload together with the time signal of its table. -/
theorem TimedBy.processMeasuredData {t : SubscribedSignal} (h : c.TimedBy s t)
    (hs : c.subscribedSignals n = some (some s)) (data : Bytes) :
    c.processMeasuredData n data =
      let call := SubscribedSignal.processMeasuredData data (some t)
        { s with timeSignal := some t.signalNumber }
      ⟨call.outcome, c.setSignal n call.state, call.callbacks⟩ := by
  obtain ⟨table, htable, hzero, ht⟩ := h.table
  have haccess : c.access table.timeSignalNumber = c :=
    access_eq_self (by rw [ht]; exact Option.some_ne_none _)
  unfold SignalContainer.processMeasuredData processValues
  simp only [hs, h.isData, htable, hzero, haccess, signal?_eq_some.mpr ht, Bool.false_eq_true,
    if_false, Option.map_some]

/-- A payload of an explicit data signal of a table with a linear time signal. -/
theorem processMeasuredData_data (hs : c.subscribedSignals n = some (some s))
    (hdata : s.isTimeSignal = false) (hrule : s.ruleType = .explicit)
    (htable : c.tables s.tableId = some table) (hzero : table.timeSignalNumber ≠ 0)
    {t : SubscribedSignal} (ht : c.subscribedSignals table.timeSignalNumber = some (some t))
    (hlinear : t.ruleType = .linear) (data : Bytes) :
    c.processMeasuredData n data =
      let s' := { s with timeSignal := some t.signalNumber, linearDelta := t.linearDelta }
      let count := data.length / s.dataValueSize.toNat
      if s.dataValueSize = 0 then
        ⟨.undefined .divisionByZero, c.setSignal n s', [.dataAsRaw s' (t.nextTime s) data]⟩
      else
        ⟨.ret data.length,
          c.setSignal n { s' with linearValueIndex := s.linearValueIndex + UInt64.ofNat count },
          [.dataAsRaw s' (t.nextTime s) data, .dataAsValue s' (t.nextTime s) data count]⟩ := by
  have htimed : c.TimedBy s t := ⟨hdata, table, htable, hzero, ht⟩
  rw [htimed.processMeasuredData hs]
  unfold SubscribedSignal.processMeasuredData SubscribedSignal.processLinearTime
  simp only [hlinear, hrule]
  split_ifs <;> rfl

/-! ### Explicit times -/

/-- What a signal does with values that have a time. -/
theorem SubscribedSignal.processExplicitTime_eq (hsize : s.dataValueSize ≠ 0)
    (hdivides : data.length % s.dataValueSize.toNat = 0) (time : UInt64) :
    s.processExplicitTime data time = ⟨.ret data.length, s, [.dataAsRaw s time data,
      .dataAsValue s time data (data.length / s.dataValueSize.toNat)]⟩ := by
  unfold SubscribedSignal.processExplicitTime
  rw [if_neg hsize, if_neg (not_not.mpr hdivides)]

/-- A packet of an explicit time signal, in a table whose data signals are there. -/
theorem processMeasuredData_explicitTime (hs : c.subscribedSignals n = some (some s))
    (htime : s.isTimeSignal = true) (hrule : s.ruleType = .explicit)
    (htable : c.tables s.tableId = some table) {value : UInt64} (hvalue : word? data 0 = some value)
    (hdata : ∀ m ∈ table.dataSignalNumbers, c.signal? m ≠ none) (hsize : s.dataValueSize ≠ 0)
    (hdivides : data.length % s.dataValueSize.toNat = 0) :
    c.processMeasuredData n data =
      let s' := if table.dataSignalNumbers = ∅ then s else s.setTime value
      ⟨.ret data.length, c.setSignal n s', [.dataAsRaw s' 0 data,
        .dataAsValue s' 0 data (data.length / s.dataValueSize.toNat)]⟩ := by
  have hms (m : SignalNumber) (hm : m ∈ table.dataSignals) : c.signal? m ≠ none :=
    hdata m ((Finset.mem_sort _).mp hm)
  have hempty : table.dataSignals = [] ↔ table.dataSignalNumbers = ∅ := by
    rw [Table.dataSignals, ← List.toFinset_eq_empty_iff, Finset.sort_toFinset]
  have hagain (s : SubscribedSignal) : (s.setTime value).setTime value = s.setTime value := rfl
  have hrounds : c.processTimeStamp n s data = .normal
      (if table.dataSignalNumbers = ∅ then c else c.setSignal n (s.setTime value)) := by
    have hmodify : c.modifySignal n (SubscribedSignal.setTime value) =
        c.setSignal n (s.setTime value) := by
      unfold modifySignal
      rw [signal?_eq_some.mpr hs]
    have hloop := @sequence_visitDataSignal c n _ hagain table.dataSignals hms
    rw [hmodify] at hloop
    unfold processTimeStamp
    simp only [htable, hvalue]
    exact hloop.trans (by simp only [hempty])
  unfold processMeasuredData processTime
  simp only [hs, htime, hrule, hrounds, if_true]
  split_ifs with h
  · simp only [signal?_eq_some.mpr hs, SubscribedSignal.processMeasuredData,
      SubscribedSignal.processExplicitTime_eq hsize hdivides]
  · have hslot : (c.setSignal n (s.setTime value)).signal? n = some (s.setTime value) := by
      rw [signal?_setSignal, if_pos rfl]
    have hcall := @SubscribedSignal.processExplicitTime_eq (s.setTime value) data hsize hdivides 0
    simp only [hslot, SubscribedSignal.processMeasuredData, hcall, setSignal_setSignal]
    rfl

/-- A packet of an explicit time signal that has no time. -/
theorem processMeasuredData_shortTime (hs : c.subscribedSignals n = some (some s))
    (htime : s.isTimeSignal = true) (hrule : s.ruleType = .explicit)
    (htable : c.tables s.tableId = some table) (hdata : word? data 0 = none) :
    c.processMeasuredData n data = ⟨.undefined .outOfBounds, c, []⟩ := by
  unfold processMeasuredData processTime processTimeStamp
  simp only [hs, htime, hrule, htable, hdata, if_true]

/-- A payload of a data signal of a table with an explicit time signal. -/
theorem processMeasuredData_stamped (hs : c.subscribedSignals n = some (some s))
    (hdata : s.isTimeSignal = false) (htable : c.tables s.tableId = some table)
    (hzero : table.timeSignalNumber ≠ 0) {t : SubscribedSignal}
    (ht : c.subscribedSignals table.timeSignalNumber = some (some t))
    (hexplicit : t.ruleType = .explicit) (hsize : s.dataValueSize ≠ 0)
    (hdivides : data.length % s.dataValueSize.toNat = 0) :
    c.processMeasuredData n data =
      let s' := { s with timeSignal := some t.signalNumber }
      ⟨.ret data.length, c.setSignal n s', [.dataAsRaw s' t.time data,
        .dataAsValue s' t.time data (data.length / s.dataValueSize.toNat)]⟩ := by
  have htimed : c.TimedBy s t := ⟨hdata, table, htable, hzero, ht⟩
  have hcall := @SubscribedSignal.processExplicitTime_eq
    { s with timeSignal := some t.signalNumber } data hsize hdivides t.time
  rw [htimed.processMeasuredData hs]
  unfold SubscribedSignal.processMeasuredData
  simp only [hexplicit, hcall]

end SignalContainer

end StreamingProtocol
