import StreamingProtocol.Foundation.Interleaving
import StreamingProtocol.Session.Announcements
import StreamingProtocol.Session.TimePackets

/-!
# When a data signal becomes known

A linear time signal is announced and then sends a packet with the time of an index. A data signal
of the same table is announced in between or later. The packet is stored through a loop over the
data signals that the table has when the packet arrives. So a packet that comes first is lost,
unless the table has other data signals, and the time stamps are then computed from the time 0 and
the index that the time signal was announced with.

## Main definitions

* `Related`: the announcements of a time signal and of a data signal of its table.
* `SignalContainer.Delivers`: messages are processed and then data is delivered with a time stamp.
* `SignalContainer.Keeps`: a packet is stored, or need not be.

## Main results

* `Related.delivers_iff`.
-/

namespace StreamingProtocol

open ByteString SignalContainer ReachedBy

variable [JsonRuntime]

/-- The announcements of a linear time signal and of an explicit data signal of the same table. -/
structure Related (T D : Announcement) (freshT t freshD s : SubscribedSignal) : Prop where
  time : T.Accepted freshT t
  data : D.Accepted freshD s
  isTime : t.isTimeSignal = true
  linear : t.ruleType = .linear
  isData : s.isTimeSignal = false
  explicit : s.ruleType = .explicit
  table : s.tableId = t.tableId
  numbers : D.signalNumber ≠ T.signalNumber
  nonzero : T.signalNumber ≠ 0

namespace SignalContainer

/-- The messages are processed without a fault, and then data of a signal is delivered with a time
stamp. -/
def Delivers (c : SignalContainer) (ms : List Input) (n : SignalNumber) (data : Bytes)
    (timeStamp : UInt64) : Prop :=
  AllowedAlong next (fun c i => ∃ code, (c.process i).outcome = .ret code) c ms ∧
    ∃ s rest, ((ms.foldl next c).processMeasuredData n data).callbacks =
      .dataAsRaw s timeStamp data :: rest

/-- When a packet arrives, the data signals of the table are there, and there is one or the packet
is what would be computed without it. -/
def Keeps (packet : Input) (id : String) (unneeded : Prop) (c : SignalContainer) (i : Input) :
    Prop :=
  i = packet → (∀ m ∈ c.dataOf id, c.signal? m ≠ none) ∧ (c.dataOf id ≠ ∅ ∨ unneeded)

end SignalContainer

namespace Related

variable {T D : Announcement} {freshT t freshD s : SubscribedSignal}

/-! ### The stages of both announcements -/

/-- What a container holds at stages of the announcements, with the time signal as it is. -/
structure At (T D : Announcement) (freshT t freshD s : SubscribedSignal) (p q : Announcement.Stage)
    (c : SignalContainer) : Prop where
  time : c.subscribedSignals T.signalNumber = Announcement.slot freshT t p
  data : c.subscribedSignals D.signalNumber = Announcement.slot freshD s q
  table : p = .described →
    ∃ table, c.tables t.tableId = some table ∧ table.timeSignalNumber = T.signalNumber

variable {p q : Announcement.Stage} {c : SignalContainer}

omit [JsonRuntime] in
/-- A container with another data signal. -/
theorem At.data_setSignal (h : At T D freshT t freshD s p q c)
    (hnumbers : D.signalNumber ≠ T.signalNumber) {u : SubscribedSignal} {q' : Announcement.Stage}
    (hu : Announcement.slot freshD s q' = some (some u)) :
    At T D freshT t freshD s p q' (c.setSignal D.signalNumber u) where
  time := by
    rw [subscribedSignals_setSignal, if_neg hnumbers.symm]
    exact h.time
  data := by rw [subscribedSignals_setSignal_self, hu]
  table := h.table

omit [JsonRuntime] in
/-- A container with another time signal. -/
theorem At.time_setSignal (h : At T D freshT t freshD s p q c)
    (hnumbers : D.signalNumber ≠ T.signalNumber) {u t' : SubscribedSignal}
    {p' : Announcement.Stage} (hu : Announcement.slot freshT t' p' = some (some u))
    (htable : p' = .described → p = .described ∧ t'.tableId = t.tableId) :
    At T D freshT t' freshD s p' q (c.setSignal T.signalNumber u) where
  time := by rw [subscribedSignals_setSignal_self, hu]
  data := by
    rw [subscribedSignals_setSignal, if_neg hnumbers]
    exact h.data
  table hp := by
    obtain ⟨hp, hid⟩ := htable hp
    rw [tables_setSignal, hid]
    exact h.table hp

omit [JsonRuntime] in
/-- The time signal is described and becomes the one of its table. -/
theorem At.describe_time (h : At T D freshT t freshD s .subscribed q c)
    (hnumbers : D.signalNumber ≠ T.signalNumber) (htime : t.isTimeSignal = true) :
    At T D freshT t freshD s .described q
      ((c.setSignal T.signalNumber t).register T.signalNumber t) where
  time := by rw [subscribedSignals_register, subscribedSignals_setSignal_self]; rfl
  data := by
    rw [subscribedSignals_register, subscribedSignals_setSignal, if_neg hnumbers]
    exact h.data
  table _ := by
    unfold SignalContainer.register
    rw [tables_setTable, if_pos rfl, htime]
    exact ⟨_, rfl, rfl⟩

omit [JsonRuntime] in
/-- A data signal that joins its table does not change the time signal. -/
theorem At.register_data (h : At T D freshT t freshD s p q c) (hdata : s.isTimeSignal = false) :
    At T D freshT t freshD s p q (c.register D.signalNumber s) where
  time := h.time
  data := h.data
  table hp := by
    obtain ⟨table, htable, hnumber⟩ := h.table hp
    unfold SignalContainer.register
    rw [tables_setTable]
    split_ifs with hid
    · refine ⟨_, rfl, ?_⟩
      rw [hdata, ← hid, htable]
      exact hnumber
    · exact ⟨table, htable, hnumber⟩

/-! ### The messages of both -/

variable {packet data : Bytes} {index value timeStamp : UInt64} {ms : List Input}

omit [JsonRuntime] in
/-- When both signals are described, data is delivered with the time that comes next. -/
theorem At.delivers_nil [JsonRuntime] (h : At T D freshT t freshD s .described .described c)
    (hlinear : t.ruleType = .linear) (hdata : s.isTimeSignal = false)
    (hexplicit : s.ruleType = .explicit) (htable : s.tableId = t.tableId)
    (hnonzero : T.signalNumber ≠ 0) :
    c.Delivers [] D.signalNumber data timeStamp ↔ t.nextTime s = timeStamp := by
  obtain ⟨table, hid, hnumber⟩ := h.table rfl
  have hcall := processMeasuredData_data h.data hdata hexplicit (htable ▸ hid) (hnumber ▸ hnonzero)
    (hnumber ▸ h.time) hlinear data
  unfold Delivers
  rw [List.foldl_nil, hcall]
  constructor
  · rintro ⟨-, s', rest, h⟩
    dsimp only at h
    split_ifs at h <;> exact (Callback.dataAsRaw.inj (List.cons.inj h).1).2.1
  · rintro rfl
    refine ⟨trivial, { s with timeSignal := some t.signalNumber, linearDelta := t.linearDelta }, ?_⟩
    dsimp only
    split_ifs
    · exact ⟨_, rfl⟩
    · exact ⟨_, rfl⟩

/-- A message that is accepted comes before the others. -/
theorem delivers_cons {i : Input} {callbacks : List Callback} {c' : SignalContainer} {code : Int}
    (hi : c.process i = ⟨.ret code, c', callbacks⟩) {n : SignalNumber} :
    c.Delivers (i :: ms) n data timeStamp ↔ c'.Delivers ms n data timeStamp := by
  have hnext : c.next i = c' := by rw [SignalContainer.next, hi]
  unfold Delivers
  rw [List.foldl_cons, hnext]
  refine and_congr_left fun _ =>
    ⟨fun h => hnext ▸ h.2, fun h => ⟨⟨code, by rw [hi]⟩, hnext.symm ▸ h⟩⟩

/-- After the packet, the messages of the data signal do not change the time signal. -/
theorem At.delivers_data (hr : Related T D freshT t freshD s) {t' : SubscribedSignal}
    (hlinear : t'.ruleType = .linear) (htable : t'.tableId = t.tableId)
    (h : At T D freshT t' freshD s .described q c) :
    c.Delivers (D.rest q) D.signalNumber data timeStamp ↔ t'.nextTime s = timeStamp := by
  have hdescribed {c : SignalContainer} (h : At T D freshT t' freshD s .described .described c) :
      c.Delivers (D.rest .described) D.signalNumber data timeStamp ↔ t'.nextTime s = timeStamp :=
    h.delivers_nil hlinear hr.isData hr.explicit (hr.table.trans htable.symm) hr.nonzero
  have hsubscribed {c : SignalContainer} (h : At T D freshT t' freshD s .described .subscribed c) :
      c.Delivers (D.rest .subscribed) D.signalNumber data timeStamp ↔
        t'.nextTime s = timeStamp := by
    have hslot : Announcement.slot freshD s .described = some (some s) := rfl
    rw [Announcement.rest, delivers_cons (hr.data.process_description h.data)]
    exact hdescribed ((h.data_setSignal hr.numbers hslot).register_data hr.isData)
  cases q with
  | described => exact hdescribed h
  | subscribed => exact hsubscribed h
  | unknown =>
    have hslot : Announcement.slot freshD s .subscribed = some (some freshD) := rfl
    rw [Announcement.rest, delivers_cons (hr.data.process_acknowledgement h.data)]
    exact hsubscribed (h.data_setSignal hr.numbers hslot)

omit [JsonRuntime] in
/-- An announced packet is what is computed without it. -/
theorem nextTime_unneeded (t s : SubscribedSignal) (htime : t.time = 0) (index value : UInt64) :
    t.nextTime s = value + (s.linearValueIndex - index) * t.linearDelta ↔
      value = (index - t.linearValueIndex) * t.linearDelta := by
  unfold SubscribedSignal.nextTime
  rw [htime]
  constructor <;> intro h <;> grind

/-- The packet is stored or need not be, and then the messages of the data signal follow. -/
theorem At.delivers_packet (hr : Related T D freshT t freshD s)
    (hindex : word? packet 0 = some index) (hvalue : word? packet 8 = some value)
    (h : At T D freshT t freshD s .described q c) :
    c.Delivers (.measuredData T.signalNumber packet :: D.rest q) D.signalNumber data
        (value + (s.linearValueIndex - index) * t.linearDelta) ↔
      c.Keeps (.measuredData T.signalNumber packet) t.tableId
        (value = (index - t.linearValueIndex) * t.linearDelta)
        (.measuredData T.signalNumber packet) := by
  have hexplicit : t.ruleType ≠ .explicit := by
    rw [hr.linear]
    exact nofun
  obtain ⟨table, htable, -⟩ := h.table rfl
  unfold Keeps
  rw [forall_prop_of_true rfl]
  by_cases hthere : ∀ m ∈ c.dataOf t.tableId, c.signal? m ≠ none
  · have hcall : c.process (.measuredData T.signalNumber packet) = _ :=
      processMeasuredData_time h.time hr.isTime hexplicit htable hindex hvalue hthere
    rw [delivers_cons hcall]
    split_ifs with hempty
    · rw [h.delivers_data hr hr.linear rfl, nextTime_unneeded t s hr.time.time]
      exact ⟨fun hvalue => ⟨hthere, .inr hvalue⟩,
        fun hkeeps => hkeeps.2.resolve_left fun hne => hne hempty⟩
    · have hslot : Announcement.slot freshT (t.atTime value index) .described =
        some (some (t.atTime value index)) := rfl
      have hstored := h.time_setSignal hr.numbers hslot fun _ => ⟨rfl, rfl⟩
      have hlinear : (t.atTime value index).ruleType = .linear := hr.linear
      exact iff_of_true ((hstored.delivers_data hr hlinear rfl).mpr rfl) ⟨hthere, .inl hempty⟩
  · refine iff_of_false (fun hdelivers => ?_) fun hkeeps => hthere hkeeps.1
    obtain ⟨code, hcode⟩ := hdelivers.1.1
    have hnull := outcome_processMeasuredData_time h.time hr.isTime hexplicit htable hindex hvalue
      (by simpa using hthere)
    cases hcode.symm.trans hnull

/-- A message that is accepted is not the packet. -/
theorem keeps_cons {n k : SignalNumber} {m : MetaInformation} {callbacks : List Callback}
    {c' : SignalContainer} {code : Int} {id : String} {unneeded : Prop}
    (hi : c.process (.metaInformation n m) = ⟨.ret code, c', callbacks⟩) :
    AllowedAlong next (Keeps (.measuredData k packet) id unneeded) c (.metaInformation n m :: ms) ↔
      AllowedAlong next (Keeps (.measuredData k packet) id unneeded) c' ms := by
  have hnext : c.next (.metaInformation n m) = c' := by rw [SignalContainer.next, hi]
  have hkeeps : c.Keeps (.measuredData k packet) id unneeded (.metaInformation n m) := nofun
  rw [AllowedAlong, hnext]
  exact and_iff_right hkeeps

/-- There is no packet among the messages of the data signal. -/
theorem keeps_rest {k : SignalNumber} {id : String} {unneeded : Prop} (q : Announcement.Stage)
    (c : SignalContainer) :
    AllowedAlong next (Keeps (.measuredData k packet) id unneeded) c (D.rest q) := by
  cases q with
  | unknown => exact ⟨nofun, nofun, trivial⟩
  | subscribed => exact ⟨nofun, trivial⟩
  | described => trivial

/-- The stages before the packet. -/
theorem At.delivers_rest_iff (hr : Related T D freshT t freshD s)
    (hindex : word? packet 0 = some index) (hvalue : word? packet 8 = some value)
    (ms : List Input) {p q : Announcement.Stage} {c : SignalContainer}
    (h : At T D freshT t freshD s p q c)
    (hms : Interleaving (T.rest p ++ [.measuredData T.signalNumber packet]) (D.rest q) ms) :
    c.Delivers ms D.signalNumber data
        (value + (s.linearValueIndex - index) * t.linearDelta) ↔
      AllowedAlong next (Keeps (.measuredData T.signalNumber packet) t.tableId
        (value = (index - t.linearValueIndex) * t.linearDelta)) c ms := by
  induction ms generalizing p q c with
  | nil =>
    generalize has : T.rest p ++ [.measuredData T.signalNumber packet] = as at hms
    generalize D.rest q = bs at hms
    cases hms
    cases p <;> cases has
  | cons i ms ih =>
    generalize has : T.rest p ++ [.measuredData T.signalNumber packet] = as at hms
    generalize hbs : D.rest q = bs at hms
    cases hms with
    | left a hms =>
      cases p with
      | unknown =>
        obtain ⟨rfl, rfl⟩ := List.cons.inj has
        have hcall := hr.time.process_acknowledgement h.time
        rw [delivers_cons hcall, keeps_cons hcall]
        have hslot : Announcement.slot freshT t .subscribed = some (some freshT) := rfl
        refine ih (h.time_setSignal hr.numbers hslot nofun) ?_
        rw [hbs]
        exact hms
      | subscribed =>
        obtain ⟨rfl, rfl⟩ := List.cons.inj has
        have hcall := hr.time.process_description h.time
        rw [delivers_cons hcall, keeps_cons hcall]
        refine ih (h.describe_time hr.numbers hr.isTime) ?_
        rw [hbs]
        exact hms
      | described =>
        obtain ⟨rfl, rfl⟩ := List.cons.inj has
        obtain rfl : bs = ms := hms.eq_of_nil
        subst hbs
        rw [h.delivers_packet hr hindex hvalue, AllowedAlong]
        exact (and_iff_left (keeps_rest q _)).symm
    | right b hms =>
      cases q with
      | unknown =>
        obtain ⟨rfl, rfl⟩ := List.cons.inj hbs
        have hcall := hr.data.process_acknowledgement h.data
        rw [delivers_cons hcall, keeps_cons hcall]
        have hslot : Announcement.slot freshD s .subscribed = some (some freshD) := rfl
        refine ih (h.data_setSignal hr.numbers hslot) ?_
        rw [has]
        exact hms
      | subscribed =>
        obtain ⟨rfl, rfl⟩ := List.cons.inj hbs
        have hcall := hr.data.process_description h.data
        rw [delivers_cons hcall, keeps_cons hcall]
        have hslot : Announcement.slot freshD s .described = some (some s) := rfl
        refine ih ((h.data_setSignal hr.numbers hslot).register_data hr.isData) ?_
        rw [has]
        exact hms
      | described => cases hbs

/-! ### What is announced -/

/-- **Time information.** Whatever the order of the messages of a time signal and of a data signal
of its table, data is delivered with the time of its value index if and only if the packet is kept
when it arrives, or is what would be computed without it. -/
theorem delivers_iff (hr : Related T D freshT t freshD s) (hindex : word? packet 0 = some index)
    (hvalue : word? packet 8 = some value) (htime : c.subscribedSignals T.signalNumber = none)
    (hdata : c.subscribedSignals D.signalNumber = none)
    (hms : Interleaving (T.messages ++ [.measuredData T.signalNumber packet]) D.messages ms)
    (data : Bytes) :
    c.Delivers ms D.signalNumber data (value +
        (announcedIndex D.description.params - index) * announcedDelta T.description.params) ↔
      AllowedAlong next (Keeps (.measuredData T.signalNumber packet) t.tableId
        (value = (index - announcedIndex T.description.params) *
          announcedDelta T.description.params)) c ms := by
  obtain ⟨htimeIndex, hdelta⟩ := hr.time.announced
  obtain ⟨hdataIndex, -⟩ := hr.data.announced
  have hstart : At T D freshT t freshD s .unknown .unknown c := ⟨htime, hdata, nofun⟩
  rw [← htimeIndex, ← hdelta, ← hdataIndex]
  exact hstart.delivers_rest_iff hr hindex hvalue ms hms

/-! ### Two orders -/

/-- The announcement of a time signal of the table `t` with the delta 1, by the number 1. -/
def timeAnnouncement : Announcement where
  signalNumber := 1
  acknowledgement := .acknowledgement (.string "time")
  description := .description "t" linearTime

/-- The announcement of a data signal of the table `t` with the value index 5, by the number 2. -/
def dataAnnouncement : Announcement where
  signalNumber := 2
  acknowledgement := .acknowledgement (.string "data")
  description := .message metaMethodSignal (.object
    [(metaTableid, .string "t"), (metaValueindex, .numberUnsigned 5),
      (metaDefinition, .object [(metaDatatype, .string dataTypeUint64)])])

/-- A packet with the index 2 and the time 100. -/
def timePacket : Bytes := leBytes 8 2 ++ leBytes 8 100

omit [JsonRuntime] in
theorem related_announcements :
    @Related decimalRuntime timeAnnouncement dataAnnouncement
      { signalNumber := 1, signalId := "time" }
      (@SubscribedSignal.describedBy decimalRuntime timeAnnouncement.description.params
        { signalNumber := 1, signalId := "time" })
      { signalNumber := 2, signalId := "data" }
      (@SubscribedSignal.describedBy decimalRuntime dataAnnouncement.description.params
        { signalNumber := 2, signalId := "data" }) := by
  let _ : JsonRuntime := decimalRuntime
  refine ⟨Announcement.accepted_of_accepts rfl rfl rfl ?_,
    Announcement.accepted_of_accepts rfl rfl rfl ?_, ?_, ?_, ?_, ?_, ?_, ?_, ?_⟩
  · unfold SubscribedSignal.Accepts
    decide +kernel
  · unfold SubscribedSignal.Accepts
    decide +kernel
  all_goals decide +kernel

omit [JsonRuntime] in
/-- The data signal is described before the packet: data is delivered with `100 + (5 - 2) * 1`. -/
theorem delivers_described :
    @Delivers decimalRuntime initial
      (dataAnnouncement.messages ++ (timeAnnouncement.messages ++ [.measuredData 1 timePacket])) 2
      [0, 0, 0, 0, 0, 0, 0, 0] 103 := by
  let _ : JsonRuntime := decimalRuntime
  have hms : Interleaving (timeAnnouncement.messages ++ [.measuredData 1 timePacket])
      dataAnnouncement.messages
      (dataAnnouncement.messages ++ (timeAnnouncement.messages ++ [.measuredData 1 timePacket])) :=
    .right _ (.right _ (.left _ (.left _ (.left _ .nil))))
  refine (delivers_iff related_announcements (by decide : word? timePacket 0 = some 2)
    (by decide : word? timePacket 8 = some 100) rfl rfl hms _).mpr ?_
  refine ⟨nofun, nofun, nofun, nofun, fun _ => ⟨?_, .inl ?_⟩, trivial⟩
  · decide +kernel
  · decide +kernel

omit [JsonRuntime] in
/-- The packet comes first and is lost: data is not delivered with `100 + (5 - 2) * 1`. -/
theorem not_delivers_packetFirst :
    Interleaving (timeAnnouncement.messages ++ [.measuredData 1 timePacket])
        dataAnnouncement.messages
        (timeAnnouncement.messages ++ [.measuredData 1 timePacket] ++ dataAnnouncement.messages) ∧
      ¬ @Delivers decimalRuntime initial
        (timeAnnouncement.messages ++ [.measuredData 1 timePacket] ++ dataAnnouncement.messages) 2
        [0, 0, 0, 0, 0, 0, 0, 0] 103 := by
  refine ⟨.left _ (.left _ (.left _ (.right _ (.right _ .nil)))), ?_⟩
  rintro ⟨-, s, rest, h⟩
  have hstamp := congrArg (fun callbacks => callbacks.head?.bind Callback.rawTimeStamp?) h
  revert hstamp
  dsimp only [List.head?_cons, Option.bind_some, Callback.rawTimeStamp?]
  decide +kernel

end Related

end StreamingProtocol
