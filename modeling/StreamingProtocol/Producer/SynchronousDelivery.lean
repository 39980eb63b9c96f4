import StreamingProtocol.Foundation.Runs
import StreamingProtocol.Producer.SynchronousTable

/-!
# Delivery of synchronous values

The consumer of a table of synchronous signals counts as the producer does, whatever the order of
the calls. The time it delivers a value with is that of the value index, counted from the time that
was set last.

## Main definitions

* `SynchronousTable.Follows`: a signal of the consumer is as its signal of the producer.
* `SynchronousTable.Slots`, `SynchronousTable.Tables`: what the container of the consumer holds.
* `SynchronousTable.Agrees`: the invariant of both sides.

## Main results

* `SynchronousTable.agrees_step`.
* `SynchronousTable.delivered_of_reached`.
-/

namespace StreamingProtocol

namespace SynchronousTable

open ByteString SignalContainer

variable {ι : Type} [DecidableEq ι] [JsonRuntime]

/-! ### What the container holds -/

section Held

omit [DecidableEq ι] [JsonRuntime]

variable (P : SynchronousTable ι)

/-- The number of a signal for the consumer. -/
def number (i : ι) : SignalNumber := (P.signals i).signalNumber.toNat

/-- The number of the time signal for the consumer. -/
def timeNumber : SignalNumber := P.time.signalNumber.toNat

theorem number_injective : Function.Injective P.number := fun _ _ h =>
  P.signalNumber_injective (UInt32.toNat_inj.mp h)

theorem number_ne (i : ι) : P.number i ≠ P.timeNumber := fun h =>
  P.signalNumber_ne i (UInt32.toNat_inj.mp h)

theorem timeNumber_ne_zero : P.timeNumber ≠ 0 := fun h =>
  P.time.signalNumber_ne_zero (UInt32.toNat_inj.mp h)

/-- A signal of the consumer is the one of the producer, with a value index. -/
structure Follows (x : UInt64) (i : ι) (s : SubscribedSignal) : Prop where
  signalNumber : s.signalNumber = P.number i
  isData : s.isTimeSignal = false
  explicit : s.ruleType = .explicit
  tableId : s.tableId = P.time.tableId
  dataValueSize : s.dataValueSize = UInt64.ofNat (P.signals i).dataType.size
  valueIndex : s.linearValueIndex = x
  quantity : s.unit.quantity ≠ metaTime

/-- A signal of the consumer is the time signal, with the time that was set. -/
structure Clock (started : Option UInt64) (τ : SubscribedSignal) : Prop where
  isTime : τ.isTimeSignal = true
  linear : τ.ruleType = .linear
  tableId : τ.tableId = P.time.tableId
  delta : τ.linearDelta = P.time.outputRateInTicks
  started : ∀ t, started = some t → τ.time = t ∧ τ.linearValueIndex = 0

/-- The signals that the container holds. -/
structure Slots (st : State ι) (c : SignalContainer) : Prop where
  time : st.timeSubscribed = true →
    ∃ τ, c.subscribedSignals P.timeNumber = some (some τ) ∧ P.Clock st.started τ
  noTime : st.timeSubscribed = false → c.subscribedSignals P.timeNumber = none
  data : ∀ i ∈ st.subscribed,
    ∃ s, c.subscribedSignals (P.number i) = some (some s) ∧ P.Follows (st.valueIndex i) i s
  others : ∀ i ∉ st.subscribed, c.subscribedSignals (P.number i) = none

/-- The table of the signals in the container. -/
structure Tables (st : State ι) (c : SignalContainer) : Prop where
  time : (c.tableAt P.time.tableId).timeSignalNumber =
    if st.timeSubscribed then P.timeNumber else 0
  data : ∀ m, m ∈ c.dataOf P.time.tableId ↔ ∃ i ∈ st.subscribed, P.number i = m

/-- What was added to a signal since the time was set is delivered with the time of its index. -/
structure Delivered (st : State ι) : Prop where
  raw : ∀ t, st.started = some t → ∀ i, st.callbacks.flatMap (Callback.rawValues (P.number i)) =
    (st.added i).map fun entry => (entry.1, t + entry.2 * P.time.outputRateInTicks)
  counted : ∀ t, st.started = some t → ∀ i,
    st.callbacks.flatMap (Callback.countedValues (P.number i)) =
      (st.added i).map fun entry => (entry.1, t + entry.2 * P.time.outputRateInTicks)

/-- The consumer agrees with the producer. -/
structure Agrees (st : State ι) : Prop where
  notStarted : st.timeSubscribed = false → st.started = none
  slots : P.Slots st st.container
  tables : P.Tables st st.container
  delivered : P.Delivered st

end Held

variable {P : SynchronousTable ι} {st st' : State ι} {c : SignalContainer}

/-! ### Changes of the container -/

omit [JsonRuntime] in
theorem Slots.setData (h : P.Slots st c) {i : ι} {s : SubscribedSignal}
    (hs : P.Follows (st'.valueIndex i) i s)
    (hindex : ∀ j ≠ i, st'.valueIndex j = st.valueIndex j)
    (hsubscribed : st'.subscribed = insert i st.subscribed)
    (htime : st'.timeSubscribed = st.timeSubscribed) (hstarted : st'.started = st.started) :
    P.Slots st' (c.setSignal (P.number i) s) := by
  have hother {j : ι} (hj : j ≠ i) : (c.setSignal (P.number i) s).subscribedSignals (P.number j) =
      c.subscribedSignals (P.number j) := by
    rw [subscribedSignals_setSignal, if_neg fun h => hj (P.number_injective h)]
  have hclock : (c.setSignal (P.number i) s).subscribedSignals P.timeNumber =
      c.subscribedSignals P.timeNumber := by
    rw [subscribedSignals_setSignal, if_neg (P.number_ne i).symm]
  refine ⟨?_, ?_, fun j hj => ?_, fun j hj => ?_⟩
  · rw [htime, hstarted, hclock]
    exact h.time
  · rw [htime, hclock]
    exact h.noTime
  · by_cases hji : j = i
    · subst hji
      exact ⟨s, subscribedSignals_setSignal_self _ _ _, hs⟩
    · rw [hsubscribed] at hj
      rw [hother hji, hindex j hji]
      exact h.data j (Finset.mem_of_mem_insert_of_ne hj hji)
  · rw [hsubscribed, Finset.mem_insert, not_or] at hj
    rw [hother hj.1]
    exact h.others j hj.2

omit [JsonRuntime] in
theorem Slots.eraseData (h : P.Slots st c) {i : ι} (hindex : st'.valueIndex = st.valueIndex)
    (hsubscribed : st'.subscribed = st.subscribed.erase i)
    (htime : st'.timeSubscribed = st.timeSubscribed) (hstarted : st'.started = st.started) :
    P.Slots st' (c.eraseSignal (P.number i)) := by
  have hclock : (c.eraseSignal (P.number i)).subscribedSignals P.timeNumber =
      c.subscribedSignals P.timeNumber := by
    rw [subscribedSignals_eraseSignal, if_neg (P.number_ne i).symm]
  refine ⟨?_, ?_, fun j hj => ?_, fun j hj => ?_⟩
  · rw [htime, hstarted, hclock]
    exact h.time
  · rw [htime, hclock]
    exact h.noTime
  · rw [hsubscribed, Finset.mem_erase] at hj
    rw [subscribedSignals_eraseSignal, if_neg fun hn => hj.1 (P.number_injective hn), hindex]
    exact h.data j hj.2
  · rw [subscribedSignals_eraseSignal]
    split_ifs with hn
    · rfl
    · refine h.others j fun hmem => hj ?_
      rw [hsubscribed]
      exact Finset.mem_erase.mpr ⟨fun hji => hn (congrArg P.number hji), hmem⟩

omit [DecidableEq ι] [JsonRuntime] in
theorem Slots.setTime (h : P.Slots st c) {τ : SubscribedSignal} (hτ : P.Clock st'.started τ)
    (hindex : st'.valueIndex = st.valueIndex) (hsubscribed : st'.subscribed = st.subscribed)
    (htime : st'.timeSubscribed = true) : P.Slots st' (c.setSignal P.timeNumber τ) := by
  have hother (j : ι) : (c.setSignal P.timeNumber τ).subscribedSignals (P.number j) =
      c.subscribedSignals (P.number j) := by
    rw [subscribedSignals_setSignal, if_neg (P.number_ne j)]
  refine ⟨fun _ => ⟨τ, subscribedSignals_setSignal_self _ _ _, hτ⟩, fun hfalse => ?_,
    fun j hj => ?_, fun j hj => ?_⟩
  · rw [htime] at hfalse
    cases hfalse
  · rw [hsubscribed] at hj
    rw [hother, hindex]
    exact h.data j hj
  · rw [hsubscribed] at hj
    rw [hother]
    exact h.others j hj

omit [DecidableEq ι] [JsonRuntime] in
theorem Slots.congr {c' : SignalContainer} (h : P.Slots st c)
    (hc : c'.subscribedSignals = c.subscribedSignals) : P.Slots st c' := by
  refine ⟨?_, ?_, ?_, ?_⟩
  · rw [hc]
    exact h.time
  · rw [hc]
    exact h.noTime
  · rw [hc]
    exact h.data
  · rw [hc]
    exact h.others

omit [JsonRuntime] in
/-- A data signal joins the table. -/
theorem Tables.registerData (h : P.Tables st c) {i : ι} {s : SubscribedSignal} {x : UInt64}
    (hs : P.Follows x i s) (hsubscribed : st'.subscribed = insert i st.subscribed)
    (htime : st'.timeSubscribed = st.timeSubscribed) :
    P.Tables st' (c.register (P.number i) s) := by
  have htable : (c.register (P.number i) s).tableAt P.time.tableId =
      (c.tableAt P.time.tableId).with (P.number i) false := by
    rw [tableAt_register hs.tableId, hs.isData]
  refine ⟨?_, fun m => ?_⟩
  · rw [htable, htime]
    exact h.time
  · have hmem : m ∈ (c.register (P.number i) s).dataOf P.time.tableId ↔
        m = P.number i ∨ m ∈ c.dataOf P.time.tableId := by
      rw [dataOf_eq, htable]
      exact Finset.mem_insert
    rw [hmem, h.data, hsubscribed]
    simp only [Finset.exists_mem_insert]
    exact or_congr_left eq_comm

omit [JsonRuntime] in
/-- A data signal leaves the table. -/
theorem Tables.unregisterData (h : P.Tables st c) {i : ι} {s : SubscribedSignal} {x : UInt64}
    (hs : P.Follows x i s) (hsubscribed : st'.subscribed = st.subscribed.erase i)
    (htime : st'.timeSubscribed = st.timeSubscribed) :
    P.Tables st' (c.unregister (P.number i) s) := by
  have htable : (c.unregister (P.number i) s).tableAt P.time.tableId =
      (c.tableAt P.time.tableId).without (P.number i) false := by
    rw [tableAt_unregister hs.tableId, hs.isData]
  refine ⟨?_, fun m => ?_⟩
  · rw [htable, htime]
    exact h.time
  · have hmem : m ∈ (c.unregister (P.number i) s).dataOf P.time.tableId ↔
        m ≠ P.number i ∧ m ∈ c.dataOf P.time.tableId := by
      rw [dataOf_eq, htable]
      exact Finset.mem_erase
    rw [hmem, h.data, hsubscribed]
    constructor
    · rintro ⟨hne, j, hj, rfl⟩
      exact ⟨j, Finset.mem_erase.mpr ⟨fun hji => hne (congrArg P.number hji), hj⟩, rfl⟩
    · rintro ⟨j, hj, rfl⟩
      obtain ⟨hji, hj⟩ := Finset.mem_erase.mp hj
      exact ⟨fun hn => hji (P.number_injective hn), j, hj, rfl⟩

omit [DecidableEq ι] [JsonRuntime] in
/-- The time signal becomes the one of the table. -/
theorem Tables.registerTime (h : P.Tables st c) {τ : SubscribedSignal} {t : Option UInt64}
    (hτ : P.Clock t τ) (hsubscribed : st'.subscribed = st.subscribed)
    (htime : st'.timeSubscribed = true) : P.Tables st' (c.register P.timeNumber τ) := by
  have htable : (c.register P.timeNumber τ).tableAt P.time.tableId =
      (c.tableAt P.time.tableId).with P.timeNumber true := by
    rw [tableAt_register hτ.tableId, hτ.isTime]
  refine ⟨?_, fun m => ?_⟩
  · rw [htable, htime]
    rfl
  · rw [hsubscribed, dataOf_eq, htable]
    exact h.data m

omit [DecidableEq ι] [JsonRuntime] in
theorem Tables.congr {c' : SignalContainer} (h : P.Tables st c) (hc : c'.tables = c.tables)
    (hsubscribed : st'.subscribed = st.subscribed)
    (htime : st'.timeSubscribed = st.timeSubscribed) : P.Tables st' c' := by
  have htable : c'.tableAt P.time.tableId = c.tableAt P.time.tableId := by
    rw [tableAt, tableAt, hc]
  refine ⟨?_, fun m => ?_⟩
  · rw [htable, htime]
    exact h.time
  · rw [dataOf_eq, htable, hsubscribed]
    exact h.data m

/-! ### Calls of data signals -/

omit [DecidableEq ι] [JsonRuntime] in
/-- A signal of the producer. -/
def source (P : SynchronousTable ι) (st : State ι) (i : ι) : ProducerSignal :=
  .synchronous (P.signal st i)

omit [DecidableEq ι] [JsonRuntime] in
/-- A description makes a signal of the consumer follow its signal of the producer. -/
theorem follows_laidOver (st : State ι) (i : ι) {s : SubscribedSignal}
    (hnumber : s.signalNumber = P.number i) (hdata : s.isTimeSignal = false)
    (hquantity : s.unit.quantity ≠ metaTime) :
    P.Follows (st.valueIndex i) i ((P.source st i).content.laidOver s) := by
  have hunit : ((P.signals i).unit.laidOver s.unit).quantity ≠ metaTime :=
    SignalUnit.quantity_laidOver_ne (P.quantity_ne i) hquantity
  refine ⟨hnumber, ?_, rfl, P.tableId_eq i, rfl, rfl, hunit⟩
  show (s.isTimeSignal || decide (((P.signals i).unit.laidOver s.unit).quantity = metaTime)) = false
  rw [hdata, decide_eq_false hunit]
  rfl

omit [DecidableEq ι] [JsonRuntime] in
/-- Callbacks that deliver no data keep what is delivered. -/
theorem Delivered.congr (h : P.Delivered st) (hstarted : st'.started = st.started)
    (hadded : st'.added = st.added) {callbacks : List Callback}
    (hcallbacks : st'.callbacks = st.callbacks ++ callbacks)
    (hmeta : ∀ callback ∈ callbacks, ∃ s method params, callback = .signalMeta s method params) :
    P.Delivered st' := by
  have hraw (n : SignalNumber) : callbacks.flatMap (Callback.rawValues n) = [] := by
    rw [List.flatMap_eq_nil_iff]
    intro callback hcallback
    obtain ⟨s, method, params, rfl⟩ := hmeta callback hcallback
    rfl
  have hcounted (n : SignalNumber) : callbacks.flatMap (Callback.countedValues n) = [] := by
    rw [List.flatMap_eq_nil_iff]
    intro callback hcallback
    obtain ⟨s, method, params, rfl⟩ := hmeta callback hcallback
    rfl
  refine ⟨fun t ht i => ?_, fun t ht i => ?_⟩
  · rw [hcallbacks, hadded, List.flatMap_append, hraw, List.append_nil]
    exact h.raw t (hstarted ▸ ht) i
  · rw [hcallbacks, hadded, List.flatMap_append, hcounted, List.append_nil]
    exact h.counted t (hstarted ▸ ht) i

omit [DecidableEq ι] in
/-- Calls that write meta information only. -/
theorem Delivered.send (h : P.Delivered st) {calls : List WriterCall}
    (hcalls : ∀ call ∈ calls, ∃ n doc, call = .writeMetaInformation n doc)
    (hstarted : st'.started = st.started) (hadded : st'.added = st.added)
    (hcallbacks : st'.callbacks = (st.send calls).callbacks) : P.Delivered st' := by
  refine h.congr hstarted hadded hcallbacks (callbacks_metaInformation ?_ _)
  intro input hinput
  obtain ⟨call, hcall, rfl⟩ := List.mem_map.mp hinput
  obtain ⟨n, doc, rfl⟩ := hcalls call hcall
  exact ⟨_, _, rfl⟩

/-- A signal is subscribed. -/
theorem agrees_subscribe (h : P.Agrees st) {i : ι} (hi : i ∉ st.subscribed) :
    P.Agrees (P.step st (.subscribe i)) := by
  let s := (P.source st i).content.laidOver (P.source st i).fresh
  have hempty : "" ≠ metaTime := by decide
  have hs : P.Follows (st.valueIndex i) i s := follows_laidOver st i rfl rfl hempty
  have hcontainer : (P.step st (.subscribe i)).container =
      (st.container.setSignal (P.number i) s).register (P.number i) s :=
    ProducerSignal.foldl_subscribe trivial (h.slots.others i hi)
  refine ⟨h.notStarted, ?_, ?_, ?_⟩
  · rw [hcontainer]
    have hslots : P.Slots (P.step st (.subscribe i)) (st.container.setSignal (P.number i) s) :=
      h.slots.setData hs (fun _ _ => rfl) rfl rfl rfl
    exact hslots.congr rfl
  · rw [hcontainer]
    have htables : P.Tables st (st.container.setSignal (P.number i) s) :=
      h.tables.congr rfl rfl rfl
    exact htables.registerData hs rfl rfl
  · refine @Delivered.send _ _ _ _ _ h.delivered (P.source st i).subscribe ?_ rfl rfl rfl
    intro call hcall
    rcases List.mem_pair.mp hcall with rfl | rfl
    · exact ⟨_, _, rfl⟩
    · exact ⟨_, _, rfl⟩

/-- A description is sent again. -/
theorem agrees_writeSignalMetaInformation (h : P.Agrees st) (i : ι) :
    P.Agrees (P.step st (.writeSignalMetaInformation i)) := by
  have hdelivered : P.Delivered (P.step st (.writeSignalMetaInformation i)) := by
    refine @Delivered.send _ _ _ _ _ h.delivered
      [(P.source st i).writeSignalMetaInformation] ?_ rfl rfl rfl
    intro call hcall
    obtain rfl := List.mem_singleton.mp hcall
    exact ⟨_, _, rfl⟩
  by_cases hi : i ∈ st.subscribed
  · obtain ⟨s, hslot, hs⟩ := h.slots.data i hi
    let s' := (P.source st i).content.laidOver s
    have hs' : P.Follows (st.valueIndex i) i s' :=
      follows_laidOver st i hs.signalNumber hs.isData hs.quantity
    have hcontainer : (P.step st (.writeSignalMetaInformation i)).container =
        (st.container.setSignal (P.number i) s').register (P.number i) s' := by
      have hunderstandable : (P.source st i).Understandable := trivial
      exact congrArg StreamingProtocol.Call.state
        (ProducerSignal.process_description hunderstandable hslot)
    have hsame : st.subscribed = insert i st.subscribed := (Finset.insert_eq_of_mem hi).symm
    refine ⟨h.notStarted, ?_, ?_, hdelivered⟩
    · rw [hcontainer]
      have hslots : P.Slots (P.step st (.writeSignalMetaInformation i))
          (st.container.setSignal (P.number i) s') :=
        h.slots.setData hs' (fun _ _ => rfl) hsame rfl rfl
      exact hslots.congr rfl
    · rw [hcontainer]
      have htables : P.Tables st (st.container.setSignal (P.number i) s') :=
        h.tables.congr rfl rfl rfl
      exact htables.registerData hs' hsame rfl
  · have hcontainer : (P.step st (.writeSignalMetaInformation i)).container = st.container :=
      congrArg StreamingProtocol.Call.state (processMetaInformation_of_unknown
        (P.source st i).method_description (by decide) (h.slots.others i hi))
    refine ⟨h.notStarted, ?_, ?_, hdelivered⟩
    · rw [hcontainer]
      exact ⟨h.slots.time, h.slots.noTime, h.slots.data, h.slots.others⟩
    · rw [hcontainer]
      exact h.tables.congr rfl rfl rfl

/-- A signal is unsubscribed. -/
theorem agrees_unsubscribe (h : P.Agrees st) (i : ι) : P.Agrees (P.step st (.unsubscribe i)) := by
  have hdelivered : P.Delivered (P.step st (.unsubscribe i)) := by
    refine @Delivered.send _ _ _ _ _ h.delivered [(P.source st i).unsubscribe] ?_ rfl rfl rfl
    intro call hcall
    obtain rfl := List.mem_singleton.mp hcall
    exact ⟨_, _, rfl⟩
  have hmethod : MetaInformation.method ⟨metainformationMsgpack, BaseSignal.unsubscribeDocument⟩ =
      .ok metaMethodUnsubscribe := rfl
  by_cases hi : i ∈ st.subscribed
  · obtain ⟨s, hslot, hs⟩ := h.slots.data i hi
    have hcontainer : (P.step st (.unsubscribe i)).container =
        (st.container.unregister (P.number i) s).eraseSignal (P.number i) :=
      congrArg StreamingProtocol.Call.state (processMetaInformation_unsubscribe hmethod hslot)
    refine ⟨h.notStarted, ?_, ?_, hdelivered⟩
    · rw [hcontainer]
      have hslots : P.Slots st (st.container.unregister (P.number i) s) :=
        h.slots.congr (subscribedSignals_unregister _ _ _)
      exact hslots.eraseData rfl rfl rfl rfl
    · rw [hcontainer]
      have htables : P.Tables (P.step st (.unsubscribe i))
          (st.container.unregister (P.number i) s) := h.tables.unregisterData hs rfl rfl
      exact htables.congr rfl rfl rfl
  · have hcontainer : (P.step st (.unsubscribe i)).container = st.container :=
      congrArg StreamingProtocol.Call.state (processMetaInformation_of_unknown
        hmethod (by decide) (h.slots.others i hi))
    have hsame : st.subscribed.erase i = st.subscribed := Finset.erase_eq_of_notMem hi
    refine ⟨h.notStarted, ?_, ?_, hdelivered⟩
    · rw [hcontainer]
      refine ⟨h.slots.time, h.slots.noTime, ?_, ?_⟩
      · show ∀ j ∈ st.subscribed.erase i, _
        rw [hsame]
        exact h.slots.data
      · show ∀ j ∉ st.subscribed.erase i, _
        rw [hsame]
        exact h.slots.others
    · rw [hcontainer]
      exact h.tables.congr rfl hsame rfl

/-! ### Values -/

omit [DecidableEq ι] [JsonRuntime] in
theorem Follows.toNat_dataValueSize {x : UInt64} {i : ι} {s : SubscribedSignal}
    (hs : P.Follows x i s) : s.dataValueSize.toNat = (P.signals i).dataType.size := by
  rw [hs.dataValueSize, DataType.toNat_size]

omit [DecidableEq ι] [JsonRuntime] in
theorem Follows.dataValueSize_ne_zero {x : UInt64} {i : ι} {s : SubscribedSignal}
    (hs : P.Follows x i s) : s.dataValueSize ≠ 0 := by
  intro hzero
  have hpos := (P.signals i).dataType.size_pos
  rw [← hs.toNat_dataValueSize, hzero] at hpos
  exact absurd hpos (lt_irrefl 0)

omit [DecidableEq ι] [JsonRuntime] in
/-- A signal follows the signal of the producer when it has counted what has been added. -/
theorem Follows.counting {x : UInt64} {i : ι} {s : SubscribedSignal} (hs : P.Follows x i s)
    (τ : SubscribedSignal) (count : ℕ) :
    P.Follows (x + UInt64.ofNat count) i (s.counting τ count) :=
  ⟨hs.signalNumber, hs.isData, hs.explicit, hs.tableId, hs.dataValueSize,
    congrArg (· + UInt64.ofNat count) hs.valueIndex, hs.quantity⟩

omit [DecidableEq ι] [JsonRuntime] in
/-- A signal that is subscribed has the time signal of the table, while it is subscribed too. -/
theorem exists_synchronous (hslots : P.Slots st c) (htables : P.Tables st c) {i : ι}
    (hi : i ∈ st.subscribed) (htime : st.timeSubscribed = true) :
    ∃ s τ table, c.Synchronous (P.number i) s τ table ∧ P.Follows (st.valueIndex i) i s ∧
      P.Clock st.started τ := by
  obtain ⟨τ, hτslot, hτ⟩ := hslots.time htime
  obtain ⟨s, hslot, hs⟩ := hslots.data i hi
  have hnumber : (c.tableAt P.time.tableId).timeSignalNumber = P.timeNumber := by
    rw [htables.time, if_pos htime]
  have hnonzero : (c.tableAt P.time.tableId).timeSignalNumber ≠ 0 := by
    rw [hnumber]
    exact P.timeNumber_ne_zero
  have htable : c.tables s.tableId = some (c.tableAt P.time.tableId) := by
    rw [hs.tableId]
    exact tables_eq_some_of_timeSignalNumber hnonzero
  exact ⟨s, τ, _, ⟨hslot, hs.isData, hs.explicit, htable, hnonzero, hnumber ▸ hτslot, hτ.linear⟩,
    hs, hτ⟩

omit [DecidableEq ι] [JsonRuntime] in
/-- The times of the values of a payload are those of their indices. -/
theorem numbered_nextTime {i : ι} {s : SubscribedSignal} {x : UInt64} (hs : P.Follows x i s)
    {τ : SubscribedSignal} {t : UInt64} (hτ : P.Clock (some t) τ) (values : List Bytes) :
    numbered τ.linearDelta values (τ.nextTime s) =
      (numbered 1 values x).map fun entry => (entry.1, t + entry.2 * P.time.outputRateInTicks) := by
  obtain ⟨htime, hindex⟩ := hτ.started t rfl
  have hnext : τ.nextTime s = t + x * P.time.outputRateInTicks := by
    rw [SubscribedSignal.nextTime, htime, hindex, hs.valueIndex, hτ.delta]
    grind
  rw [map_numbered, hnext, hτ.delta]

/-- Values are added to a signal that is not subscribed. -/
theorem agrees_addData_of_notMem (h : P.Agrees st) {i : ι} (hi : i ∉ st.subscribed)
    (values : List Bytes) : P.Agrees (P.step st (.addData i values)) := by
  have hcall : st.container.process (.measuredData (P.number i) values.flatten) =
      ⟨.ret (-1), st.container, []⟩ := by
    unfold SignalContainer.process SignalContainer.processMeasuredData
    simp only [h.slots.others i hi]
  have hcontainer : (P.step st (.addData i values)).container = st.container :=
    congrArg StreamingProtocol.Call.state hcall
  have hindex (j : ι) (hj : j ∈ st.subscribed) :
      (P.step st (.addData i values)).valueIndex j = st.valueIndex j :=
    Function.update_of_ne (fun hji : j = i => hi (hji ▸ hj)) _ _
  have hadded : (P.step st (.addData i values)).added = st.added := if_neg hi
  have hcallbacks : (P.step st (.addData i values)).callbacks = st.callbacks ++ [] :=
    congrArg (fun call => st.callbacks ++ (StreamingProtocol.Call.callbacks call ++ [])) hcall
  refine ⟨h.notStarted, ?_, ?_, ?_⟩
  · rw [hcontainer]
    refine ⟨h.slots.time, h.slots.noTime, fun j hj => ?_, h.slots.others⟩
    rw [hindex j hj]
    exact h.slots.data j hj
  · rw [hcontainer]
    exact h.tables.congr rfl rfl rfl
  · exact h.delivered.congr rfl hadded hcallbacks (List.forall_mem_nil _)

/-- Values are added to a signal that is subscribed. -/
theorem agrees_addData_of_mem (h : P.Agrees st) {i : ι} (hi : i ∈ st.subscribed)
    (htime : st.timeSubscribed = true) {values : List Bytes}
    (hvalues : ∀ value ∈ values, value.length = (P.signals i).dataType.size) :
    P.Agrees (P.step st (.addData i values)) := by
  obtain ⟨s, τ, table, hsync, hs, hτ⟩ := exists_synchronous h.slots h.tables hi htime
  rw [← hs.toNat_dataValueSize] at hvalues
  have hcall := hsync.process_payload hs.dataValueSize_ne_zero hvalues
  have hcontainer : (P.step st (.addData i values)).container =
      st.container.setSignal (P.number i) (s.counting τ values.length) :=
    congrArg StreamingProtocol.Call.state hcall
  have hself : (P.step st (.addData i values)).valueIndex i =
      st.valueIndex i + UInt64.ofNat values.length := Function.update_self _ _ _
  have hsame : st.subscribed = insert i st.subscribed := (Finset.insert_eq_of_mem hi).symm
  refine ⟨h.notStarted, ?_, ?_, ?_⟩
  · rw [hcontainer]
    exact h.slots.setData (hself.symm ▸ hs.counting τ values.length)
      (fun j hj => Function.update_of_ne hj _ _) hsame rfl rfl
  · rw [hcontainer]
    exact h.tables.congr rfl rfl rfl
  · have hadded (j : ι) : (P.step st (.addData i values)).added j =
        st.added j ++
          if P.number i = P.number j then numbered 1 values (st.valueIndex i) else [] := by
      have hupdate : (P.step st (.addData i values)).added =
          Function.update st.added i (st.added i ++ numbered 1 values (st.valueIndex i)) :=
        if_pos hi
      rw [hupdate]
      by_cases hj : j = i
      · subst hj
        rw [Function.update_self, if_pos rfl]
      · rw [Function.update_of_ne hj, if_neg fun hn => hj (P.number_injective hn).symm,
          List.append_nil]
    have hcallbacks : (P.step st (.addData i values)).callbacks = st.callbacks ++
        (st.container.processMeasuredData (P.number i) values.flatten).callbacks :=
      congrArg (st.callbacks ++ ·) (List.append_nil _)
    have hstamped (t : UInt64) (ht : st.started = some t) (j : ι) :
        (if s.signalNumber = P.number j then numbered τ.linearDelta values (τ.nextTime s) else []) =
          (if P.number i = P.number j then numbered 1 values (st.valueIndex i) else []).map
            fun entry => (entry.1, t + entry.2 * P.time.outputRateInTicks) := by
      rw [ht] at hτ
      rw [numbered_nextTime hs hτ, hs.signalNumber]
      split_ifs <;> rfl
    refine ⟨fun t ht j => ?_, fun t ht j => ?_⟩
    · have hraw := (hsync.delivered_payload hs.dataValueSize_ne_zero hvalues (P.number j)).1
      rw [hcallbacks, hadded, List.flatMap_append, List.map_append, h.delivered.raw t ht j, hraw,
        hstamped t ht]
    · have hcounted := (hsync.delivered_payload hs.dataValueSize_ne_zero hvalues (P.number j)).2
      rw [hcallbacks, hadded, List.flatMap_append, List.map_append, h.delivered.counted t ht j,
        hcounted, hstamped t ht]

/-- The time is set. -/
theorem agrees_setTimeStart (h : P.Agrees st) (htime : st.timeSubscribed = true)
    (hsubscribed : st.subscribed.Nonempty) (t : UInt64) :
    P.Agrees (P.step st (.setTimeStart t)) := by
  obtain ⟨τ, hslot, hτ⟩ := h.slots.time htime
  have hexplicit : τ.ruleType ≠ .explicit := by
    rw [hτ.linear]
    exact nofun
  have hnonzero : (st.container.tableAt P.time.tableId).timeSignalNumber ≠ 0 := by
    rw [h.tables.time, if_pos htime]
    exact P.timeNumber_ne_zero
  have htable : st.container.tables τ.tableId = some (st.container.tableAt P.time.tableId) := by
    rw [hτ.tableId]
    exact tables_eq_some_of_timeSignalNumber hnonzero
  have hdata : ∀ m ∈ st.container.dataOf τ.tableId, st.container.signal? m ≠ none := by
    intro m hm
    rw [hτ.tableId, h.tables.data] at hm
    obtain ⟨i, hi, rfl⟩ := hm
    obtain ⟨s, hs, -⟩ := h.slots.data i hi
    rw [signal?_eq_some.mpr hs]
    exact Option.some_ne_none s
  have hnonempty : st.container.dataOf τ.tableId ≠ ∅ := by
    obtain ⟨i, hi⟩ := hsubscribed
    rw [hτ.tableId]
    exact Finset.ne_empty_of_mem ((h.tables.data _).mpr ⟨i, hi, rfl⟩)
  have hcall := processMeasuredData_time hslot hτ.isTime hexplicit htable
    (word?_timePacket 0 t).1 (word?_timePacket 0 t).2 hdata
  rw [if_neg hnonempty] at hcall
  have hcontainer : (P.step st (.setTimeStart t)).container =
      st.container.setSignal P.timeNumber (τ.atTime t 0) :=
    congrArg StreamingProtocol.Call.state hcall
  have hcallbacks : (P.step st (.setTimeStart t)).callbacks = [] :=
    congrArg (fun call => [] ++ (StreamingProtocol.Call.callbacks call ++ [])) hcall
  have hclock : P.Clock (some t) (τ.atTime t 0) := by
    refine ⟨hτ.isTime, hτ.linear, hτ.tableId, hτ.delta, fun t' ht' => ?_⟩
    cases ht'
    exact ⟨rfl, rfl⟩
  refine ⟨fun hfalse => ?_, ?_, ?_, ?_⟩
  · cases htime.symm.trans hfalse
  · rw [hcontainer]
    exact h.slots.setTime hclock rfl rfl htime
  · rw [hcontainer]
    exact h.tables.congr rfl rfl rfl
  · refine ⟨fun t' _ i => ?_, fun t' _ i => ?_⟩
    · rw [hcallbacks]
      rfl
    · rw [hcallbacks]
      rfl

/-- The time signal is subscribed. -/
theorem agrees_subscribeTime (h : P.Agrees st) (htime : st.timeSubscribed = false) :
    P.Agrees (P.step st .subscribeTime) := by
  let p := ProducerSignal.linearTime P.time
  let τ := p.content.laidOver p.fresh
  have hτ : P.Clock st.started τ := by
    refine ⟨rfl, rfl, rfl, rfl, fun t ht => ?_⟩
    cases (h.notStarted htime).symm.trans ht
  have hcontainer : (P.step st .subscribeTime).container =
      (st.container.setSignal P.timeNumber τ).register P.timeNumber τ :=
    ProducerSignal.foldl_subscribe P.outputRateInTicks_ne_zero (h.slots.noTime htime)
  refine ⟨nofun, ?_, ?_, ?_⟩
  · rw [hcontainer]
    have hslots : P.Slots (P.step st .subscribeTime) (st.container.setSignal P.timeNumber τ) :=
      h.slots.setTime hτ rfl rfl rfl
    exact hslots.congr rfl
  · rw [hcontainer]
    have htables : P.Tables st (st.container.setSignal P.timeNumber τ) :=
      h.tables.congr rfl rfl rfl
    exact htables.registerTime hτ rfl rfl
  · refine @Delivered.send _ _ _ _ _ h.delivered p.subscribe ?_ rfl rfl rfl
    intro call hcall
    rcases List.mem_pair.mp hcall with rfl | rfl
    · exact ⟨_, _, rfl⟩
    · exact ⟨_, _, rfl⟩

/-! ### All calls -/

omit [DecidableEq ι] [JsonRuntime] in
theorem agrees_initial (P : SynchronousTable ι) : P.Agrees P.initial := by
  refine ⟨fun _ => rfl, ⟨nofun, fun _ => rfl, nofun, fun _ _ => rfl⟩, ⟨rfl, fun m => ?_⟩,
    ⟨nofun, nofun⟩⟩
  exact iff_of_false nofun nofun

/-- Every call keeps the agreement. -/
theorem agrees_step (h : P.Agrees st) {call : Action ι} (hallowed : P.Allowed st call) :
    P.Agrees (P.step st call) := by
  cases call with
  | subscribeTime => exact agrees_subscribeTime h hallowed
  | setTimeStart t => exact agrees_setTimeStart h hallowed.1 hallowed.2 t
  | subscribe i => exact agrees_subscribe h hallowed
  | addData i values =>
    by_cases hi : i ∈ st.subscribed
    · exact agrees_addData_of_mem h hi (hallowed.2 hi) hallowed.1
    · exact agrees_addData_of_notMem h hi values
  | writeSignalMetaInformation i => exact agrees_writeSignalMetaInformation h i
  | unsubscribe i => exact agrees_unsubscribe h i

/-- **Exact delivery.** In every state that is reached after the time was set, the consumer has the
value index of each data signal that is subscribed, and has got exactly the values that were added
to the signals while they were subscribed, in order and with the times of their indices. -/
theorem delivered_of_reached (h : ReachedBy P.step P.Allowed P.initial st) {t : UInt64}
    (ht : st.started = some t) :
    (∀ i ∈ st.subscribed, ∃ s, st.container.subscribedSignals (P.number i) = some (some s) ∧
        s.linearValueIndex = st.valueIndex i) ∧
      ∀ i, st.callbacks.flatMap (Callback.rawValues (P.number i)) =
          (st.added i).map (fun entry => (entry.1, t + entry.2 * P.time.outputRateInTicks)) ∧
        st.callbacks.flatMap (Callback.countedValues (P.number i)) =
          (st.added i).map fun entry => (entry.1, t + entry.2 * P.time.outputRateInTicks) := by
  have hagrees : P.Agrees st :=
    h.invariant P.agrees_initial fun _ _ hst hallowed => agrees_step hst hallowed
  refine ⟨fun i hi => ?_, fun i => ⟨hagrees.delivered.raw t ht i, hagrees.delivered.counted t ht i⟩⟩
  obtain ⟨s, hslot, hs⟩ := hagrees.slots.data i hi
  exact ⟨s, hslot, hs.valueIndex⟩

omit [DecidableEq ι] [JsonRuntime]

/-- Two signals of a table with 1000 ticks between values. -/
def voltages : SynchronousTable Bool where
  time := kilohertz
  signals
    | true => { signalNumber := 2, signalNumber_ne_zero := secondNumber_ne_zero, signalId := "u1"
                tableId := "table", dataType := .int16 }
    | false => { signalNumber := 3, signalNumber_ne_zero := thirdNumber_ne_zero, signalId := "u2"
                 tableId := "table", dataType := .uint8, valueIndex := 7 }
  outputRateInTicks_ne_zero := kilohertz_ne_zero
  tableId_eq i := by cases i <;> rfl
  signalNumber_injective i j h := by cases i <;> cases j <;> first | rfl | cases h
  signalNumber_ne i := by cases i <;> decide
  quantity_ne i := by cases i <;> decide

/-- A signal joins after the time was set, and another one leaves and comes back. -/
def voltageCalls : List (Action Bool) :=
  [.subscribeTime, .subscribe true, .setTimeStart 5, .addData true [[1, 0], [2, 0]],
    .addData false [[9]], .subscribe false, .unsubscribe true, .addData true [[3, 0]],
    .addData false [[8], [7]], .subscribe true, .addData true [[4, 0]]]

theorem delivered_voltages :
    let st := voltageCalls.foldl (@step _ _ decimalRuntime voltages) voltages.initial
    (∀ i ∈ st.subscribed, ∃ s, st.container.subscribedSignals (voltages.number i) = some (some s) ∧
        s.linearValueIndex = st.valueIndex i) ∧
      ∀ i, st.callbacks.flatMap (Callback.rawValues (voltages.number i)) = (st.added i).map
            (fun entry => (entry.1, 5 + entry.2 * voltages.time.outputRateInTicks)) ∧
        st.callbacks.flatMap (Callback.countedValues (voltages.number i)) = (st.added i).map
          fun entry => (entry.1, 5 + entry.2 * voltages.time.outputRateInTicks) := by
  let _ : JsonRuntime := decimalRuntime
  exact delivered_of_reached (ReachedBy.foldl .init voltageCalls (by decide)) rfl

end SynchronousTable

end StreamingProtocol
