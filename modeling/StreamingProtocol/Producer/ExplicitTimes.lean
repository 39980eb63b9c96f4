import Mathlib.Data.List.Permutation
import StreamingProtocol.Producer.SynchronousDelivery

/-!
# Tables with an explicit time

A producer has an explicit time signal and an asynchronous signal of the same table. For each value
it sends the time stamp as the time of the time signal, and then the value. The packet with the time
stamp begins with an index, which is 0, and the consumer takes the beginning of the packet for the
time stamp. So all values are delivered with the time stamp 0.

A signal whose unit is one of a time is another time signal for the consumer. Its values are
delivered without a time stamp, if they are long enough for one to be read from them.

## Main definitions

* `ExplicitTable`, `ExplicitTable.stampedCalls`: the calls for one value.
* `ExplicitTable.Delivers`: all values are delivered with their time stamps.

## Main results

* `ExplicitTable.delivers_stamped_iff`.
-/

namespace StreamingProtocol

open ByteString SignalContainer

/-- An explicit time signal and an asynchronous signal of its table. -/
structure ExplicitTable where
  time : ExplicitTimeSignal
  signal : AsynchronousSignal
  tableId_eq : signal.tableId = time.tableId
  signalNumber_ne : signal.signalNumber ≠ time.signalNumber

namespace ExplicitTable

section Producer

variable (P : ExplicitTable)

/-- The number of the asynchronous signal for the consumer. -/
def number : SignalNumber := P.signal.signalNumber.toNat

/-- The number of the time signal for the consumer. -/
def timeNumber : SignalNumber := P.time.signalNumber.toNat

/-- The signals, which are subscribed in any order. -/
def producerSignals : List ProducerSignal := [.explicitTime P.time, .asynchronous P.signal]

/-- The calls for one value with its time stamp. -/
def stampedCalls (entry : UInt64 × Bytes) : List WriterCall :=
  P.time.setTimeStart entry.1 ::
    P.signal.addData (AsynchronousSignal.createTuples [entry.2] [entry.1])

/-- The consumer takes the unit of the asynchronous signal for one of a time. -/
def TakenForTime : Prop :=
  P.signal.unit.id ≠ SignalUnit.unitIdNone ∧ P.signal.unit.quantity = metaTime

instance : Decidable P.TakenForTime :=
  inferInstanceAs (Decidable (_ ≠ _ ∧ _ = _))

/-- After the subscription of the signals, the consumer gets each value with its time stamp. -/
def Delivers [JsonRuntime] (subscriptions : List ProducerSignal) (entries : List (UInt64 × Bytes)) :
    Prop :=
  (initial.callbacks ((subscriptions.flatMap ProducerSignal.subscribe ++
    entries.flatMap P.stampedCalls).map WriterCall.input)).filterMap (Callback.raw? P.number) =
      entries

end Producer

variable [JsonRuntime] {P : ExplicitTable} {c : SignalContainer}

/-! ### Callbacks -/

/-- Subscriptions deliver no data. -/
theorem filterMap_callbacks_subscribe (n : SignalNumber) (signals : List ProducerSignal)
    (c : SignalContainer) :
    (c.callbacks ((signals.flatMap ProducerSignal.subscribe).map WriterCall.input)).filterMap
      (Callback.raw? n) = [] := by
  have hinputs : ∀ input ∈ (signals.flatMap ProducerSignal.subscribe).map WriterCall.input,
      ∃ n m, input = .metaInformation n m := by
    intro input hinput
    obtain ⟨call, hcall, rfl⟩ := List.mem_map.mp hinput
    obtain ⟨p, -, hcall⟩ := List.mem_flatMap.mp hcall
    rcases List.mem_pair.mp hcall with rfl | rfl
    · exact ⟨_, _, rfl⟩
    · exact ⟨_, _, rfl⟩
  rw [List.filterMap_eq_nil_iff]
  intro callback hcallback
  obtain ⟨s, method, params, rfl⟩ :=
    callbacks_metaInformation hinputs c callback hcallback
  rfl

/-! ### What the container holds -/

section Held

omit [JsonRuntime]

/-- A signal of the consumer is explicit and belongs to the table. -/
structure Explicit (P : ExplicitTable) (n : SignalNumber) (isTime : Bool) (dataType : DataType)
    (s : SubscribedSignal) : Prop where
  signalNumber : s.signalNumber = n
  isTimeSignal : s.isTimeSignal = isTime
  explicit : s.ruleType = .explicit
  tableId : s.tableId = P.time.tableId
  dataValueSize : s.dataValueSize = UInt64.ofNat dataType.size

/-- The container has both signals and their table, and no time stamp. -/
structure Holds (P : ExplicitTable) (c : SignalContainer) : Prop where
  time : ∃ τ, c.subscribedSignals P.timeNumber = some (some τ) ∧
    P.Explicit P.timeNumber true .uint64 τ ∧ τ.time = 0
  data : ∃ s, c.subscribedSignals P.number = some (some s) ∧
    P.Explicit P.number (decide P.TakenForTime) P.signal.dataType s
  table : ∃ table, c.tables P.time.tableId = some table ∧
    (P.TakenForTime → table.dataSignalNumbers = ∅) ∧
    (¬ P.TakenForTime → table = ⟨P.timeNumber, {P.number}⟩)

theorem number_ne (P : ExplicitTable) : P.number ≠ P.timeNumber := fun h =>
  P.signalNumber_ne (UInt32.toNat_inj.mp h)

theorem timeNumber_ne_zero (P : ExplicitTable) : P.timeNumber ≠ 0 := fun h =>
  P.time.signalNumber_ne_zero (UInt32.toNat_inj.mp h)

theorem Explicit.toNat_dataValueSize {n : SignalNumber} {isTime : Bool} {dataType : DataType}
    {s : SubscribedSignal} (hs : P.Explicit n isTime dataType s) :
    s.dataValueSize.toNat = dataType.size := by
  rw [hs.dataValueSize, dataType.toNat_size]

theorem Explicit.dataValueSize_ne_zero {n : SignalNumber} {isTime : Bool} {dataType : DataType}
    {s : SubscribedSignal} (hs : P.Explicit n isTime dataType s) : s.dataValueSize ≠ 0 := by
  rw [hs.dataValueSize]
  cases dataType <;> decide

/-- A unit makes a new signal one of a time if it has an id and is one of a time. -/
theorem quantity_laidOver_default_eq_iff {u : SignalUnit} :
    (u.laidOver {}).quantity = metaTime ↔ u.id ≠ SignalUnit.unitIdNone ∧ u.quantity = metaTime := by
  have hempty : "" ≠ metaTime := by decide
  unfold SignalUnit.laidOver
  split_ifs with hid hquantity
  · exact iff_of_false hempty fun h => h.1 hid
  · exact iff_of_false hempty fun h => hempty (hquantity.symm.trans h.2)
  · exact (and_iff_right hid).symm

end Held

/-! ### Subscriptions -/

section Subscriptions

variable {p q : ProducerSignal}

/-- Two signals of a table are subscribed. -/
theorem foldl_subscribe_pair (hp : p.Understandable) (hq : q.Understandable)
    (hne : p.number.toNat ≠ q.number.toNat) (htable : q.content.tableId = p.content.tableId) :
    let c := (([p, q].flatMap ProducerSignal.subscribe).map WriterCall.input).foldl next initial
    c.subscribedSignals p.number.toNat = some (some (p.content.laidOver p.fresh)) ∧
      c.subscribedSignals q.number.toNat = some (some (q.content.laidOver q.fresh)) ∧
      c.tableAt p.content.tableId =
        (({} : Table).with p.number.toNat (p.content.laidOver p.fresh).isTimeSignal).with
          q.number.toNat (q.content.laidOver q.fresh).isTimeSignal := by
  let c₁ := (initial.setSignal p.number.toNat (p.content.laidOver p.fresh)).register p.number.toNat
    (p.content.laidOver p.fresh)
  have hfresh : c₁.subscribedSignals q.number.toNat = none := by
    rw [subscribedSignals_register, subscribedSignals_setSignal, if_neg hne.symm]
    rfl
  have hboth : (([p, q].flatMap ProducerSignal.subscribe).map WriterCall.input).foldl next initial =
      (c₁.setSignal q.number.toNat (q.content.laidOver q.fresh)).register q.number.toNat
        (q.content.laidOver q.fresh) := by
    rw [List.flatMap_cons, List.flatMap_singleton, List.map_append, List.foldl_append,
      ProducerSignal.foldl_subscribe hp rfl]
    exact ProducerSignal.foldl_subscribe hq hfresh
  rw [hboth]
  refine ⟨?_, ?_, ?_⟩
  · rw [subscribedSignals_register, subscribedSignals_setSignal, if_neg hne,
      subscribedSignals_register]
    exact subscribedSignals_setSignal_self _ _ _
  · rw [subscribedSignals_register]
    exact subscribedSignals_setSignal_self _ _ _
  · have hfirst : c₁.tableAt p.content.tableId =
        ({} : Table).with p.number.toNat (p.content.laidOver p.fresh).isTimeSignal :=
      tableAt_register rfl
    rw [tableAt_register htable, ← hfirst]
    rfl

omit [JsonRuntime] in
/-- A new signal with the content of the time signal. -/
theorem explicit_time (P : ExplicitTable) :
    P.Explicit P.timeNumber true .uint64
      ((ProducerSignal.explicitTime P.time).content.laidOver
        (ProducerSignal.explicitTime P.time).fresh) :=
  ⟨rfl, rfl, rfl, rfl, rfl⟩

omit [JsonRuntime] in
/-- A new signal with the content of the asynchronous signal. -/
theorem explicit_signal (P : ExplicitTable) :
    P.Explicit P.number (decide P.TakenForTime) P.signal.dataType
      ((ProducerSignal.asynchronous P.signal).content.laidOver
        (ProducerSignal.asynchronous P.signal).fresh) := by
  refine ⟨rfl, ?_, rfl, P.tableId_eq, rfl⟩
  show (false || decide ((P.signal.unit.laidOver {}).quantity = metaTime)) = _
  rw [Bool.false_or]
  exact decide_eq_decide.mpr quantity_laidOver_default_eq_iff

omit [JsonRuntime] in
/-- A table that both signals have joined. -/
theorem exists_table {table : Table} {isTime : Bool}
    (h : table = (({} : Table).with P.timeNumber true).with P.number isTime ∨
      table = (({} : Table).with P.number isTime).with P.timeNumber true) :
    table.timeSignalNumber ≠ 0 ∧ (isTime = true → table.dataSignalNumbers = ∅) ∧
      (isTime = false → table = ⟨P.timeNumber, {P.number}⟩) := by
  have htime := P.timeNumber_ne_zero
  have hnumber : P.number ≠ 0 := fun h =>
    P.signal.signalNumber_ne_zero (UInt32.toNat_inj.mp h)
  cases isTime with
  | true =>
    rcases h with rfl | rfl
    · exact ⟨hnumber, fun _ => rfl, nofun⟩
    · exact ⟨htime, fun _ => rfl, nofun⟩
  | false =>
    rcases h with rfl | rfl
    · exact ⟨htime, nofun, fun _ => rfl⟩
    · exact ⟨htime, nofun, fun _ => rfl⟩

/-- Both signals are subscribed in any order. -/
theorem holds_subscribed {subscriptions : List ProducerSignal}
    (h : subscriptions.Perm P.producerSignals) :
    P.Holds (((subscriptions.flatMap ProducerSignal.subscribe).map WriterCall.input).foldl next
      initial) := by
  have hnumber := P.number_ne
  have hholds {c : SignalContainer}
      (htime : c.subscribedSignals P.timeNumber =
        some (some ((ProducerSignal.explicitTime P.time).content.laidOver
          (ProducerSignal.explicitTime P.time).fresh)))
      (hdata : c.subscribedSignals P.number =
        some (some ((ProducerSignal.asynchronous P.signal).content.laidOver
          (ProducerSignal.asynchronous P.signal).fresh)))
      (htable : c.tableAt P.time.tableId =
          (({} : Table).with P.timeNumber true).with P.number (decide P.TakenForTime) ∨
        c.tableAt P.time.tableId =
          (({} : Table).with P.number (decide P.TakenForTime)).with P.timeNumber true) :
      P.Holds c := by
    obtain ⟨hzero, htaken, hother⟩ := exists_table htable
    exact ⟨⟨_, htime, P.explicit_time, rfl⟩, ⟨_, hdata, P.explicit_signal⟩, _,
      tables_eq_some_of_timeSignalNumber hzero, fun h => htaken (decide_eq_true h),
      fun h => hother (decide_eq_false h)⟩
  have htaken := P.explicit_signal.isTimeSignal
  rcases List.perm_pair.mp h with rfl | rfl
  · obtain ⟨hfirst, hsecond, htable⟩ := @foldl_subscribe_pair _ (.explicitTime P.time)
      (.asynchronous P.signal) trivial trivial hnumber.symm P.tableId_eq
    rw [htaken] at htable
    exact hholds hfirst hsecond (.inl htable)
  · obtain ⟨hfirst, hsecond, htable⟩ := @foldl_subscribe_pair _ (.asynchronous P.signal)
      (.explicitTime P.time) trivial trivial hnumber P.tableId_eq.symm
    rw [htaken] at htable
    exact hholds hsecond hfirst (.inr (P.tableId_eq ▸ htable))

end Subscriptions

/-! ### Calls -/

omit [JsonRuntime] in
/-- The data signals of the table are there. -/
theorem Holds.signal?_ne_none (h : P.Holds c) {table : Table}
    (htable : c.tables P.time.tableId = some table) :
    ∀ m ∈ table.dataSignalNumbers, c.signal? m ≠ none := by
  obtain ⟨table', htable', htaken, hother⟩ := h.table
  obtain rfl : table = table' := Option.some.inj (htable.symm.trans htable')
  intro m hm
  by_cases htime : P.TakenForTime
  · rw [htaken htime] at hm
    cases hm
  · rw [hother htime] at hm
    obtain rfl := Finset.mem_singleton.mp hm
    obtain ⟨s, hs, -⟩ := h.data
    rw [signal?_eq_some.mpr hs]
    exact Option.some_ne_none s

/-- The packet with a time stamp has the time stamp 0 for the consumer. -/
theorem Holds.setTimeStart (h : P.Holds c) (t : UInt64) :
    P.Holds (c.next (P.time.setTimeStart t).input) ∧
      (c.process (P.time.setTimeStart t).input).callbacks.filterMap (Callback.raw? P.number) =
        [] := by
  obtain ⟨τ, hslot, hτ, hzero⟩ := h.time
  obtain ⟨table, htable, hdata⟩ := h.table
  have hdivides : (leBytes 8 0 ++ leBytes 8 t.toNat).length % τ.dataValueSize.toNat = 0 := by
    rw [hτ.toNat_dataValueSize, List.length_append, length_leBytes, length_leBytes]
    rfl
  have hcall := processMeasuredData_explicitTime hslot hτ.isTimeSignal hτ.explicit
    (hτ.tableId ▸ htable) (word?_timePacket 0 t).1 (h.signal?_ne_none htable)
    hτ.dataValueSize_ne_zero hdivides
  dsimp only at hcall
  have hτ' : P.Explicit P.timeNumber true .uint64
      (if table.dataSignalNumbers = ∅ then τ else τ.setTime 0) ∧
        (if table.dataSignalNumbers = ∅ then τ else τ.setTime 0).time = 0 := by
    split_ifs
    · exact ⟨hτ, hzero⟩
    · exact ⟨⟨hτ.signalNumber, hτ.isTimeSignal, hτ.explicit, hτ.tableId, hτ.dataValueSize⟩, rfl⟩
  generalize (if table.dataSignalNumbers = ∅ then τ else τ.setTime 0) = τ' at hcall hτ'
  have hprocess : c.process (P.time.setTimeStart t).input = _ := hcall
  rw [next, hprocess]
  refine ⟨⟨⟨τ', subscribedSignals_setSignal_self _ _ _, hτ'⟩, ?_, table, htable, hdata⟩, ?_⟩
  · obtain ⟨s, hs⟩ := h.data
    refine ⟨s, ?_, hs.2⟩
    rw [subscribedSignals_setSignal]
    exact (if_neg P.number_ne).trans hs.1
  · exact (Callback.filterMap_raw? _ _ _ _ _).trans
      (if_neg fun hn => P.number_ne (hn.symm.trans hτ'.1.signalNumber))

/-- A value is delivered with the time stamp 0, unless it is too short for a time stamp. -/
theorem Holds.addData (h : P.Holds c) {value : Bytes}
    (hsize : value.length = P.signal.dataType.size) :
    P.Holds (c.next (.measuredData P.number value)) ∧
      (c.process (.measuredData P.number value)).callbacks.filterMap (Callback.raw? P.number) =
        if P.TakenForTime ∧ P.signal.dataType.size < 8 then [] else [(0, value)] := by
  obtain ⟨s, hslot, hs⟩ := h.data
  obtain ⟨table, htable, htaken, hother⟩ := h.table
  have hdivides : value.length % s.dataValueSize.toNat = 0 := by
    rw [hs.toNat_dataValueSize, hsize, Nat.mod_self]
  have hstable : c.tables s.tableId = some table := hs.tableId ▸ htable
  have hraw (s' : SubscribedSignal) (hs' : s'.signalNumber = P.number) :
      ([.dataAsRaw s' 0 value, .dataAsValue s' 0 value (value.length / s.dataValueSize.toNat)] :
        List Callback).filterMap (Callback.raw? P.number) = [(0, value)] := by
    rw [Callback.filterMap_raw?, if_pos hs']
  have hkept (s' : SubscribedSignal)
      (hs' : P.Explicit P.number (decide P.TakenForTime) P.signal.dataType s') :
      P.Holds (c.setSignal P.number s') := by
    obtain ⟨τ, hτ⟩ := h.time
    refine ⟨⟨τ, ?_, hτ.2⟩, ⟨s', subscribedSignals_setSignal_self _ _ _, hs'⟩,
      table, htable, htaken, hother⟩
    rw [subscribedSignals_setSignal]
    exact (if_neg P.number_ne.symm).trans hτ.1
  show P.Holds (c.processMeasuredData P.number value).state ∧
    (c.processMeasuredData P.number value).callbacks.filterMap _ = _
  by_cases htime : P.TakenForTime
  · have hisTime : s.isTimeSignal = true := hs.isTimeSignal.trans (decide_eq_true htime)
    by_cases hshort : P.signal.dataType.size < 8
    · have hword : word? value 0 = none := by
        rw [word?, read?_eq_none.mpr (by omega)]
        rfl
      rw [processMeasuredData_shortTime hslot hisTime hs.explicit hstable hword,
        if_pos ⟨htime, hshort⟩]
      exact ⟨h, rfl⟩
    · have hword : word? value 0 ≠ none := by
        rw [word?, read?_of_le (by omega)]
        exact Option.some_ne_none _
      obtain ⟨stamp, hstamp⟩ := Option.ne_none_iff_exists'.mp hword
      have hcall := processMeasuredData_explicitTime hslot hisTime hs.explicit hstable hstamp
        (h.signal?_ne_none htable) hs.dataValueSize_ne_zero hdivides
      dsimp only at hcall
      rw [if_pos (htaken htime)] at hcall
      rw [hcall, if_neg fun hboth => hshort hboth.2]
      exact ⟨hkept s hs, hraw s hs.signalNumber⟩
  · have hisTime : s.isTimeSignal = false := hs.isTimeSignal.trans (decide_eq_false htime)
    obtain ⟨τ, hτslot, hτ, hzero⟩ := h.time
    have hnumber : table.timeSignalNumber = P.timeNumber := by rw [hother htime]
    have hcall := processMeasuredData_stamped hslot hisTime hstable
      (hnumber ▸ P.timeNumber_ne_zero) (hnumber ▸ hτslot) hτ.explicit hs.dataValueSize_ne_zero
      hdivides
    dsimp only at hcall
    rw [hcall, hzero, if_neg fun hboth => htime hboth.1]
    exact ⟨hkept _ ⟨hs.signalNumber, hs.isTimeSignal, hs.explicit, hs.tableId, hs.dataValueSize⟩,
      hraw _ hs.signalNumber⟩

/-- What is delivered of values and their time stamps. -/
theorem Holds.callbacks_stampedCalls (h : P.Holds c) {entries : List (UInt64 × Bytes)}
    (hsize : ∀ entry ∈ entries, entry.2.length = P.signal.dataType.size) :
    (c.callbacks ((entries.flatMap P.stampedCalls).map WriterCall.input)).filterMap
        (Callback.raw? P.number) =
      if P.TakenForTime ∧ P.signal.dataType.size < 8 then []
      else entries.map fun entry => (0, entry.2) := by
  induction entries generalizing c with
  | nil => exact (ite_self []).symm
  | cons entry entries ih =>
    obtain ⟨hset, hnone⟩ := h.setTimeStart entry.1
    obtain ⟨hadded, hvalue⟩ := hset.addData (hsize entry List.mem_cons_self)
    have hrest := ih hadded fun entry hentry => hsize entry (List.mem_cons_of_mem _ hentry)
    show ((c.process (P.time.setTimeStart entry.1).input).callbacks ++
      (((next c _).process (.measuredData P.number entry.2)).callbacks ++ _)).filterMap _ = _
    rw [List.filterMap_append, List.filterMap_append, hnone, hvalue, List.nil_append]
    refine (congrArg _ hrest).trans ?_
    split_ifs
    · rfl
    · rfl

/-- What is delivered after the subscription of both signals. -/
theorem filterMap_callbacks {subscriptions : List ProducerSignal}
    (hsubscriptions : subscriptions.Perm P.producerSignals) {entries : List (UInt64 × Bytes)}
    (hsize : ∀ entry ∈ entries, entry.2.length = P.signal.dataType.size) :
    (initial.callbacks ((subscriptions.flatMap ProducerSignal.subscribe ++
        entries.flatMap P.stampedCalls).map WriterCall.input)).filterMap (Callback.raw? P.number) =
      if P.TakenForTime ∧ P.signal.dataType.size < 8 then []
      else entries.map fun entry => (0, entry.2) := by
  rw [List.map_append, callbacks_append, List.filterMap_append, filterMap_callbacks_subscribe,
    List.nil_append, (holds_subscribed hsubscriptions).callbacks_stampedCalls hsize]

/-- **Time stamps of explicit times.** The values are delivered with their time stamps if and only
if there are none, or all time stamps are 0 and the signal is not taken for one of a time whose
values are too short. -/
theorem delivers_stamped_iff {subscriptions : List ProducerSignal}
    (hsubscriptions : subscriptions.Perm P.producerSignals) {entries : List (UInt64 × Bytes)}
    (hsize : ∀ entry ∈ entries, entry.2.length = P.signal.dataType.size) :
    P.Delivers subscriptions entries ↔
      entries = [] ∨ (∀ entry ∈ entries, entry.1 = 0) ∧
        ¬ (P.TakenForTime ∧ P.signal.dataType.size < 8) := by
  unfold Delivers
  rw [filterMap_callbacks hsubscriptions hsize]
  have hsame : entries.map (fun entry => ((0 : UInt64), entry.2)) = entries ↔
      ∀ entry ∈ entries, entry.1 = 0 := by
    have hid : entries.map (fun entry => ((0 : UInt64), entry.2)) = entries.map id ↔
        ∀ entry ∈ entries, (0, entry.2) = entry := List.map_inj_left
    rw [List.map_id] at hid
    rw [hid]
    refine forall₂_congr fun entry _ => ?_
    rw [Prod.ext_iff, and_iff_left rfl]
    exact eq_comm
  split_ifs with hshort
  · constructor
    · intro h
      exact .inl h.symm
    · rintro (h | ⟨-, h⟩)
      · exact h.symm
      · exact absurd hshort h
  · rw [hsame]
    constructor
    · intro h
      exact .inr ⟨h, hshort⟩
    · rintro (rfl | ⟨h, -⟩)
      · exact List.forall_mem_nil _
      · exact h

omit [JsonRuntime]

/-- Events are octets with a time stamp. -/
def events : ExplicitTable where
  time := { signalNumber := 1, signalNumber_ne_zero := firstNumber_ne_zero, signalId := "time"
            tableId := "table", timeTicksPerSecond := 1000000000 }
  signal := { signalNumber := 2, signalNumber_ne_zero := secondNumber_ne_zero, signalId := "event"
              tableId := "table", dataType := .uint8 }
  tableId_eq := rfl
  signalNumber_ne := by decide

theorem delivers_events :
    @Delivers events decimalRuntime events.producerSignals [(0, [1]), (0, [2])] ↔
      [((0 : UInt64), ([1] : Bytes)), (0, [2])] = [] ∨
        (∀ entry ∈ [((0 : UInt64), ([1] : Bytes)), (0, [2])], entry.1 = 0) ∧
          ¬ (events.TakenForTime ∧ events.signal.dataType.size < 8) :=
  @delivers_stamped_iff decimalRuntime events _ (List.Perm.refl _) _ (by decide)

/-- An event with the time stamp 5 is delivered with the time stamp 0. -/
theorem not_delivers_laterEvent :
    ¬ @Delivers events decimalRuntime events.producerSignals [(5, [1])] := by
  let _ : JsonRuntime := decimalRuntime
  have hdelivered := @filterMap_callbacks _ events _ (List.Perm.refl _) [(5, [1])] (by decide)
  intro h
  have hzero : [((0 : UInt64), ([1] : Bytes))] = [(5, [1])] := hdelivered.symm.trans h
  exact absurd hzero (by decide)

end ExplicitTable

end StreamingProtocol
