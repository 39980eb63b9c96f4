import StreamingProtocol.Session.ContainerSteps

/-!
# How a call with measured data ends

A call with measured data returns, with three exceptions: a payload of a time signal that is too
short for its time stamp is read outside, a data signal that is looked up for it may be a null
pointer, and a signal may divide by 0. The time stamps are read before the data signals are looked
at.

## Main definitions

* `SignalContainer.LongEnough`, `SignalContainer.DataOutcome`.

## Main results

* `SignalContainer.dataOutcome_processMeasuredData`.
* `SignalContainer.outcome_outOfBounds_iff`: the payloads that are read outside.
-/

namespace StreamingProtocol

open ByteString

/-- A data signal returns or divides by 0. -/
theorem SubscribedSignal.processMeasuredData_outcome (s : SubscribedSignal) (data : Bytes)
    (timeSignal : Option SubscribedSignal) :
    (∃ code, (s.processMeasuredData data timeSignal).outcome = .ret code) ∨
      (s.processMeasuredData data timeSignal).outcome = .undefined .divisionByZero ∧
        (s.dataValueSize = 0 ∨ 8 + s.dataValueSize = 0) := by
  have hexplicit (time : UInt64) :
      (∃ code, (s.processExplicitTime data time).outcome = .ret code) ∨
        (s.processExplicitTime data time).outcome = .undefined .divisionByZero ∧
          (s.dataValueSize = 0 ∨ 8 + s.dataValueSize = 0) := by
    unfold processExplicitTime
    split_ifs with hzero
    · exact .inr ⟨rfl, .inl hzero⟩
    · exact .inl ⟨_, rfl⟩
    · exact .inl ⟨_, rfl⟩
  unfold SubscribedSignal.processMeasuredData
  cases timeSignal with
  | none => exact hexplicit 0
  | some t =>
    dsimp only
    cases t.ruleType with
    | linear =>
      dsimp only [processLinearTime]
      split
      · split_ifs with hzero
        · exact .inr ⟨rfl, .inl hzero⟩
        · exact .inl ⟨_, rfl⟩
      · split_ifs with hzero
        · exact .inr ⟨rfl, .inr hzero⟩
        · exact .inl ⟨_, rfl⟩
      · exact .inl ⟨_, rfl⟩
    | explicit => exact hexplicit t.time
    | constant => exact .inl ⟨_, rfl⟩
    | unknown => exact .inl ⟨_, rfl⟩

namespace SignalContainer

/-! ### Time stamps -/

theorem word?_eq_none {data : Bytes} {offset : ℕ} :
    word? data offset = none ↔ data.length < offset + 8 := by
  rw [word?, Option.map_eq_none_iff, read?_eq_none]

theorem why?_visitDataSignal {n m : SignalNumber} {change : SubscribedSignal → SubscribedSignal}
    {c : SignalContainer} {why : Abrupt} (h : (visitDataSignal n change m c).why? = some why) :
    why = .undefined .nullPointer := by
  unfold visitDataSignal at h
  dsimp only at h
  split at h <;> cases h
  rfl

/-- A time stamp is not taken from a payload that is too short, or a data signal is missing. -/
theorem processTimeStamp_outcome {c : SignalContainer} {n : SignalNumber} {s : SubscribedSignal}
    {data : Bytes} {why : Abrupt} (h : (c.processTimeStamp n s data).why? = some why) :
    why = .undefined .nullPointer ∨
      why = .undefined .outOfBounds ∧ (∃ table, c.tables s.tableId = some table) ∧
        data.length < 8 := by
  unfold processTimeStamp at h
  cases htable : c.tables s.tableId with
  | none =>
    rw [htable] at h
    cases h
  | some table =>
    simp only [htable] at h
    cases hword : word? data 0 with
    | none =>
      rw [hword] at h
      cases h
      exact .inr ⟨rfl, ⟨table, rfl⟩, by simpa using word?_eq_none.mp hword⟩
    | some timeStamp =>
      rw [hword] at h
      obtain ⟨p, hp, c', hc'⟩ := Completion.exists_of_why?_sequence _ h
      obtain ⟨m, -, rfl⟩ := List.mem_map.mp hp
      exact .inl (why?_visitDataSignal hc')

theorem processTimeStamp_outOfBounds {c : SignalContainer} (n : SignalNumber)
    {s : SubscribedSignal} {data : Bytes} {table : Table} (htable : c.tables s.tableId = some table)
    (hshort : data.length < 8) :
    (c.processTimeStamp n s data).why? = some (.undefined .outOfBounds) := by
  unfold processTimeStamp
  have hword : word? data 0 = none := word?_eq_none.mpr (by omega)
  simp only [htable, hword, Completion.why?_abrupt]

/-- An indexed time stamp is taken for the data signals of the table only. -/
theorem processIndexedTimeStamp_outcome {c : SignalContainer} {n : SignalNumber}
    {s : SubscribedSignal} {data : Bytes} {why : Abrupt}
    (h : (c.processIndexedTimeStamp n s data).why? = some why) :
    why = .undefined .nullPointer ∨
      why = .undefined .outOfBounds ∧ (∃ table, c.tables s.tableId = some table ∧
        table.dataSignalNumbers.Nonempty) ∧ data.length < 16 := by
  unfold processIndexedTimeStamp at h
  cases htable : c.tables s.tableId with
  | none =>
    rw [htable] at h
    cases h
  | some table =>
    simp only [htable] at h
    obtain ⟨p, hp, c', hc'⟩ := Completion.exists_of_why?_sequence _ h
    obtain ⟨m, hm, rfl⟩ := List.mem_map.mp hp
    dsimp only at hc'
    split at hc'
    · exact .inl (why?_visitDataSignal hc')
    · rename_i hwords
      cases hc'
      refine .inr ⟨rfl, ⟨table, rfl, m, (Finset.mem_sort _).mp hm⟩, ?_⟩
      by_contra hlong
      have hvalue : word? data 8 ≠ none := fun hn => by
        have := word?_eq_none.mp hn
        omega
      have hindex : word? data 0 ≠ none := fun hn => by
        have := word?_eq_none.mp hn
        omega
      obtain ⟨value, hvalue⟩ := Option.ne_none_iff_exists'.mp hvalue
      obtain ⟨index, hindex⟩ := Option.ne_none_iff_exists'.mp hindex
      exact hwords value index hvalue hindex

theorem processIndexedTimeStamp_outOfBounds {c : SignalContainer} (n : SignalNumber)
    {s : SubscribedSignal} {data : Bytes} {table : Table} (htable : c.tables s.tableId = some table)
    (hdata : table.dataSignalNumbers.Nonempty) (hshort : data.length < 16) :
    (c.processIndexedTimeStamp n s data).why? = some (.undefined .outOfBounds) := by
  have hword : word? data 8 = none := word?_eq_none.mpr (by omega)
  have hne : table.dataSignals ≠ [] := by
    obtain ⟨m, hm⟩ := hdata
    exact List.ne_nil_of_mem ((Finset.mem_sort _).mpr hm)
  obtain ⟨m, ms, hms⟩ := List.exists_cons_of_ne_nil hne
  unfold processIndexedTimeStamp
  simp only [htable, hms, List.map_cons, Completion.sequence_cons, hword, Completion.abrupt_andThen,
    Completion.why?_abrupt]

/-! ### Calls -/

/-- The payload of a signal is long enough for the time stamp that is taken from it. -/
def LongEnough (c : SignalContainer) (n : SignalNumber) (data : Bytes) : Prop :=
  ∀ s, c.subscribedSignals n = some (some s) → s.isTimeSignal = true →
    ∀ table, c.tables s.tableId = some table →
      (s.ruleType = .explicit → 8 ≤ data.length) ∧
      (s.ruleType ≠ .explicit → table.dataSignalNumbers.Nonempty → 16 ≤ data.length)

/-- How a call with measured data ends. -/
inductive DataOutcome (c : SignalContainer) (n : SignalNumber) (data : Bytes) : Abrupt → Prop
  | ret (code : Int) : DataOutcome c n data (.ret code)
  | nullPointer : DataOutcome c n data (.undefined .nullPointer)
  | outOfBounds (h : ¬ c.LongEnough n data) : DataOutcome c n data (.undefined .outOfBounds)
  | divisionByZero {c' : SignalContainer} {s : SubscribedSignal} (hstep : DataStep c c')
      (hs : c'.signal? n = some s) (hzero : s.dataValueSize = 0 ∨ 8 + s.dataValueSize = 0) :
      DataOutcome c n data (.undefined .divisionByZero)

variable {c : SignalContainer} {n : SignalNumber} {s : SubscribedSignal} {data : Bytes}

theorem not_longEnough_explicit (hs : c.subscribedSignals n = some (some s))
    (htime : s.isTimeSignal = true) (hrule : s.ruleType = .explicit) {table : Table}
    (htable : c.tables s.tableId = some table) (hshort : data.length < 8) :
    ¬ c.LongEnough n data := by
  intro h
  have := (h s hs htime table htable).1 hrule
  omega

theorem not_longEnough_indexed (hs : c.subscribedSignals n = some (some s))
    (htime : s.isTimeSignal = true) (hrule : s.ruleType ≠ .explicit) {table : Table}
    (htable : c.tables s.tableId = some table) (hdata : table.dataSignalNumbers.Nonempty)
    (hshort : data.length < 16) : ¬ c.LongEnough n data := by
  intro h
  have := (h s hs htime table htable).2 hrule hdata
  omega

theorem dataOutcome_processTime (hs : c.subscribedSignals n = some (some s))
    (htime : s.isTimeSignal = true) :
    DataOutcome c n data (c.processTime n s data).outcome := by
  unfold processTime
  split_ifs with hrule
  · have hstep := (dataRelation_dataStep n).processTimeStamp c s data
    cases hstamp : c.processTimeStamp n s data with
    | abrupt why c' =>
      have hwhy : (c.processTimeStamp n s data).why? = some why := by rw [hstamp]; rfl
      rcases processTimeStamp_outcome hwhy with rfl | ⟨rfl, ⟨table, htable⟩, hshort⟩
      · exact .nullPointer
      · exact .outOfBounds (not_longEnough_explicit hs htime hrule htable hshort)
    | normal c' =>
      rw [hstamp] at hstep
      dsimp only
      cases hs' : c'.signal? n with
      | none => exact .nullPointer
      | some s' =>
        dsimp only
        rcases s'.processMeasuredData_outcome data none with ⟨code, hcode⟩ | ⟨hdivision, hzero⟩
        · rw [hcode]
          exact .ret _
        · rw [hdivision]
          exact .divisionByZero hstep hs' hzero
  · cases hstamp : c.processIndexedTimeStamp n s data with
    | abrupt why c' =>
      have hwhy : (c.processIndexedTimeStamp n s data).why? = some why := by rw [hstamp]; rfl
      rcases processIndexedTimeStamp_outcome hwhy with rfl | ⟨rfl, ⟨table, htable, hdata⟩, hshort⟩
      · exact .nullPointer
      · exact .outOfBounds (not_longEnough_indexed hs htime hrule htable hdata hshort)
    | normal c' => exact .ret _

theorem dataOutcome_processValues (hs : c.subscribedSignals n = some (some s)) :
    DataOutcome c n data (c.processValues n s data).outcome := by
  unfold processValues
  split
  · exact .ret _
  · rename_i table htable
    split_ifs with hzero
    · exact .ret _
    · dsimp only
      generalize (c.access table.timeSignalNumber).signal? table.timeSignalNumber = timeSignal
      let s' := { s with timeSignal := timeSignal.map SubscribedSignal.signalNumber }
      rcases s'.processMeasuredData_outcome data timeSignal with ⟨code, hcode⟩ | ⟨hdivision, hzero⟩
      · rw [hcode]
        exact .ret code
      · rw [hdivision]
        exact .divisionByZero (.refl c) (signal?_eq_some.mpr hs) hzero

/-- A call with measured data ends in one of these ways. -/
theorem dataOutcome_processMeasuredData (c : SignalContainer) (n : SignalNumber) (data : Bytes) :
    DataOutcome c n data (c.processMeasuredData n data).outcome := by
  unfold processMeasuredData
  rcases hs : c.subscribedSignals n with _ | _ | s
  · exact .ret _
  · exact .nullPointer
  · dsimp only
    split_ifs with htime
    · exact dataOutcome_processTime hs htime
    · exact dataOutcome_processValues hs

/-- A payload is read outside if and only if it is too short for its time stamp. -/
theorem outcome_outOfBounds_iff (c : SignalContainer) (n : SignalNumber) (data : Bytes) :
    (c.processMeasuredData n data).outcome = .undefined .outOfBounds ↔ ¬ c.LongEnough n data := by
  constructor
  · intro h
    have houtcome := dataOutcome_processMeasuredData c n data
    rw [h] at houtcome
    cases houtcome with
    | outOfBounds hshort => exact hshort
  · intro h
    simp only [LongEnough, not_forall, not_and_or, exists_prop] at h
    obtain ⟨s, hs, htime, table, htable, h⟩ := h
    unfold processMeasuredData processTime
    simp only [hs, htime, if_true]
    rcases h with ⟨hrule, hshort⟩ | ⟨hrule, hdata, hshort⟩
    · have hwhy := processTimeStamp_outOfBounds n htable (Nat.not_le.mp hshort)
      rw [if_pos hrule, Completion.eq_abrupt_of_why? hwhy]
    · have hwhy := processIndexedTimeStamp_outOfBounds n htable hdata (Nat.not_le.mp hshort)
      rw [if_neg hrule, Completion.eq_abrupt_of_why? hwhy]

end SignalContainer

end StreamingProtocol
