import StreamingProtocol.Producer.Descriptions
import StreamingProtocol.Session.Announcements

/-!
# Descriptions of new signals

A producer subscribes a signal by two messages, which are an announcement of the signal. A consumer
that does not know the signal has the defaults of all settings, so that what the producer leaves out
of the description is what the consumer has. It then reports all settings of the signal.

## Main definitions

* `ProducerSignal.Understandable`: the description of a signal is accepted.
* `ProducerSignal.Describable`: the settings of a signal that a description can say.
* `SubscribedSignal.Reports`: a signal of a consumer has the settings of a content.
* `ProducerSignal.announcement`: the messages of `ProducerSignal.subscribe`.

## Main results

* `ProducerSignal.acceptable_iff`, `ProducerSignal.process_description`.
* `ProducerSignal.reports_of_describable`.
-/

namespace StreamingProtocol

open SignalContainer ReachedBy

/-- Two post scalings are the same. Offsets that are both 0 may differ in the sign, as comparing
them does not tell them apart. -/
def PostScaling.Same (p q : PostScaling) : Prop :=
  (p.offset = q.offset ∨ p.offset.isZero ∧ q.offset.isZero) ∧ p.scale = q.scale

/-! ### What a description can say -/

/-- The unit of a value signal has an id, unless it is the default, and is not one of a time. -/
def BaseValueSignal.Describable (s : BaseValueSignal) : Prop :=
  (s.unit = {} ∨ s.unit.id ≠ SignalUnit.unitIdNone) ∧ s.unit.quantity ≠ metaTime

/-- The description of a signal is understood, if it is one of a linear time signal with a delta, of
a constant signal with a number as its start value, or of another signal. -/
def ProducerSignal.Understandable : ProducerSignal → Prop
  | linearTime s => s.outputRateInTicks ≠ 0
  | constant s => s.defaultStartValue.isNull ∨ s.defaultStartValue.isNumber
  | _ => True

/-- A description can say all settings of a signal. -/
def ProducerSignal.Describable : ProducerSignal → Prop
  | linearTime s => s.outputRateInTicks ≠ 0
  | explicitTime _ => True
  | synchronous s => s.toBaseValueSignal.Describable
  | asynchronous s => s.toBaseValueSignal.Describable
  | constant s => s.toBaseValueSignal.Describable ∧
      (s.defaultStartValue.isNull ∨ s.defaultStartValue.isNumber)

/-- A signal of a consumer has the settings that are said. -/
structure SubscribedSignal.Reports (s : SubscribedSignal) (d : Content) : Prop where
  tableId : s.tableId = d.tableId
  memberName : s.memberName = d.memberName
  ruleType : s.ruleType = d.ruleType
  dataValueType : s.dataValueType = d.dataType.sampleType
  dataValueSize : s.dataValueSize.toNat = d.dataType.size
  unit : s.unit = d.unit
  range : s.range = d.range
  postScaling : s.postScaling.Same d.postScaling
  relatedSignals : s.relatedSignals = d.relatedSignals
  interpretationObject : s.interpretationObject = d.interpretationObject
  constRuleStart : s.constRuleStartJson = d.start.getD .null
  valueIndex : ∀ x, d.valueIndex = some x → s.linearValueIndex = x
  delta : ∀ x, d.delta = some x → s.linearDelta = x
  timeBaseFrequency : ∀ ticks, d.timeTicksPerSecond = some ticks → s.timeBaseFrequency = ticks
  epoch : ∀ x, d.epoch = some x → s.timeBaseEpochAsString = x

/-! ### The announcement of a signal -/

namespace ProducerSignal

/-- The messages that a signal is subscribed by. -/
def announcement (p : ProducerSignal) : Announcement where
  signalNumber := p.number.toNat
  acknowledgement := ⟨metainformationMsgpack, p.base.subscribeDocument⟩
  description := ⟨metainformationMsgpack, p.description⟩

theorem messages_announcement (p : ProducerSignal) :
    p.announcement.messages = p.subscribe.map WriterCall.input := rfl

/-- The signal of a consumer when its subscription has been acknowledged. -/
def fresh (p : ProducerSignal) : SubscribedSignal where
  signalNumber := p.number.toNat
  signalId := p.id

theorem params_description (p : ProducerSignal) :
    p.announcement.description.params = p.parameters := by
  rw [announcement, description_eq]
  rfl

theorem startValue_isNumber_iff {start : Json} :
    (∀ node, (if start.isNull then none else some start) = some node → node.isNumber) ↔
      start.isNull ∨ start.isNumber := by
  by_cases hnull : start.isNull <;> simp [hnull]

theorem acceptable_iff {p : ProducerSignal} {s : SubscribedSignal} :
    p.content.Acceptable s ↔ p.Understandable := by
  have hseconds (s : SubscribedSignal) :
      (BaseDomainSignal.unitSecond.laidOver s.unit).isSeconds := rfl
  have hexplicit (delta : UInt64) : ruleNamed RuleType.explicit.name delta = some .explicit := rfl
  cases p with
  | linearTime t =>
    have hlinear (delta : UInt64) :
        ruleNamed RuleType.linear.name delta = some .linear ↔ delta ≠ 0 := by
      by_cases h : delta = 0 <;> simp [ruleNamed, RuleType.name, h]
    simp [Content.Acceptable, Understandable, content, BaseDomainSignal.content, hseconds, hlinear]
  | explicitTime t =>
    simp [Content.Acceptable, Understandable, content, BaseDomainSignal.content, hseconds,
      hexplicit]
  | synchronous t =>
    simp [Content.Acceptable, Understandable, content, BaseValueSignal.content, hexplicit]
  | asynchronous t =>
    simp [Content.Acceptable, Understandable, content, BaseValueSignal.content, hexplicit]
  | constant t =>
    have hconstant (delta : UInt64) : ruleNamed RuleType.constant.name delta = some .constant := rfl
    simp only [Content.Acceptable, content, BaseValueSignal.content, startValue_isNumber_iff]
    simp [Understandable, hconstant]

variable [JsonRuntime]

variable {c : SignalContainer} {p : ProducerSignal} {s : SubscribedSignal}

/-- The acknowledgement of a signal that is not subscribed. -/
theorem process_acknowledgement (hc : c.subscribedSignals p.number.toNat = none) :
    c.process (.metaInformation p.number.toNat p.announcement.acknowledgement) =
      ⟨.ret 0, c.setSignal p.number.toNat p.fresh,
        [.signalMeta p.fresh metaMethodSubscribe p.announcement.acknowledgement.params]⟩ := by
  have hmethod : p.announcement.acknowledgement.method = .ok metaMethodSubscribe := rfl
  have hfresh : SubscribedSignal.processSubscribe p.announcement.acknowledgement.params
      { signalNumber := p.number.toNat } = .normal p.fresh := rfl
  exact processMetaInformation_of_subscribe hmethod hfresh hc

omit [JsonRuntime] in
theorem method_description (p : ProducerSignal) :
    p.announcement.description.method = .ok metaMethodSignal := by
  rw [announcement, description_eq]
  rfl

/-- The description of a signal that is subscribed. -/
theorem process_description (h : p.Understandable)
    (hs : c.subscribedSignals p.number.toNat = some (some s)) :
    c.process (.metaInformation p.number.toNat p.announcement.description) =
      ⟨.ret 0, (c.setSignal p.number.toNat (p.content.laidOver s)).register p.number.toNat
          (p.content.laidOver s),
        [.signalMeta (p.content.laidOver s) metaMethodSignal
          p.announcement.description.params]⟩ := by
  have hacceptable : p.content.Acceptable s := acceptable_iff.mpr h
  have hprocess : s.processSignal p.announcement.description.params =
      .normal (p.content.laidOver s) := by
    rw [params_description]
    exact p.said.processSignal_eq_normal_iff.mpr ⟨hacceptable, rfl⟩
  exact processMetaInformation_of_describe p.method_description hs hprocess

/-- A signal that is not subscribed is subscribed and described. -/
theorem foldl_subscribe (h : p.Understandable)
    (hc : c.subscribedSignals p.number.toNat = none) :
    (p.subscribe.map WriterCall.input).foldl next c =
      (c.setSignal p.number.toNat (p.content.laidOver p.fresh)).register p.number.toNat
        (p.content.laidOver p.fresh) := by
  have hslot : (c.setSignal p.number.toNat p.fresh).subscribedSignals p.number.toNat =
      some (some p.fresh) := subscribedSignals_setSignal_self _ _ _
  rw [← messages_announcement]
  show next (next c (.metaInformation p.number.toNat p.announcement.acknowledgement)) _ = _
  rw [next, next, process_acknowledgement hc]
  exact (congrArg Call.state (process_description h hslot)).trans (by rw [setSignal_setSignal])

/-! ### What a new signal reports -/

omit [JsonRuntime] in
theorem unit_of_describable {p : ProducerSignal} (h : p.Describable) :
    p.content.unit = {} ∨ p.content.unit.id ≠ SignalUnit.unitIdNone := by
  have hseconds : BaseDomainSignal.unitSecond.id ≠ SignalUnit.unitIdNone := by decide
  cases p with
  | linearTime t => exact .inr hseconds
  | explicitTime t => exact .inr hseconds
  | synchronous t => exact h.1
  | asynchronous t => exact h.1
  | constant t => exact h.1.1

omit [JsonRuntime] in
/-- Domain signals are those with a unit of time. -/
theorem isTime_of_describable {p : ProducerSignal} (h : p.Describable) :
    p.content.unit.quantity = metaTime ↔ p.isDataSignal = false := by
  cases p with
  | linearTime t => exact iff_of_true rfl rfl
  | explicitTime t => exact iff_of_true rfl rfl
  | synchronous t => exact iff_of_false h.2 nofun
  | asynchronous t => exact iff_of_false h.2 nofun
  | constant t => exact iff_of_false h.1.2 nofun

omit [JsonRuntime] in
theorem understandable_of_describable {p : ProducerSignal} (h : p.Describable) :
    p.Understandable := by
  cases p with
  | linearTime t => exact h
  | constant t => exact h.2
  | _ => trivial

end ProducerSignal

section Defaults

theorem SignalUnit.laidOver_default {u : SignalUnit} (h : u = {} ∨ u.id ≠ unitIdNone) :
    u.laidOver {} = u := by
  rcases h with rfl | hid
  · rfl
  · unfold SignalUnit.laidOver
    rw [if_neg hid]
    by_cases hquantity : u.quantity = ""
    · rw [if_pos hquantity, ← hquantity]
    · rw [if_neg hquantity]

theorem Range.laidOver_default (r : Range) : r.laidOver {} = r := by
  have hkept (x limit : Double) : (if x = limit then limit else x) = x := by
    split_ifs with h
    · exact h.symm
    · rfl
  exact congrArg₂ Range.mk (hkept _ _) (hkept _ _)

theorem PostScaling.same_laidOver_default (p : PostScaling) : (p.laidOver {}).Same p := by
  unfold PostScaling.laidOver
  split_ifs with hone
  · exact ⟨.inr ⟨rfl, hone.1⟩, hone.2.symm⟩
  · exact ⟨.inl rfl, rfl⟩

end Defaults

namespace Content

/-- A signal whose settings are at the defaults has those of a content afterwards. -/
theorem reports_laidOver {d : Content} (hunit : d.unit = {} ∨ d.unit.id ≠ SignalUnit.unitIdNone)
    (n : SignalNumber) (id : String) :
    (d.laidOver { signalNumber := n, signalId := id }).Reports d where
  tableId := rfl
  memberName := rfl
  ruleType := rfl
  dataValueType := rfl
  dataValueSize := d.dataType.toNat_size
  unit := SignalUnit.laidOver_default hunit
  range := d.range.laidOver_default
  postScaling := d.postScaling.same_laidOver_default
  relatedSignals := by
    show (if d.relatedSignals = [] then [] else d.relatedSignals) = _
    split_ifs with h
    · exact h.symm
    · rfl
  interpretationObject := by
    show (if d.interpretationObject.isNull then .null else d.interpretationObject) = _
    split_ifs with h
    · exact (Json.isNull_iff.mp h).symm
    · rfl
  constRuleStart := rfl
  valueIndex x hx := by
    show d.valueIndex.getD 0 = x
    rw [hx, Option.getD_some]
  delta x hx := by
    show d.delta.getD 0 = x
    rw [hx, Option.getD_some]
  timeBaseFrequency ticks hticks := by
    show (d.resolutionOver _).2 = ticks
    rw [resolutionOver, hticks]
    by_cases hzero : ticks = 0 <;> simp [hzero]
  epoch x hx := by
    show d.epoch.getD "" = x
    rw [hx, Option.getD_some]

end Content

/-- **Descriptions.** The messages by which a signal is subscribed are accepted by a new container,
which then has a signal that reports all settings of the signal. -/
theorem ProducerSignal.reports_of_describable [JsonRuntime] {p : ProducerSignal}
    (h : p.Describable) :
    AllowedAlong next (fun c i => (c.process i).outcome = .ret 0) initial
        (p.subscribe.map WriterCall.input) ∧
      ∃ s, (run (p.subscribe.map WriterCall.input)).signal? p.number.toNat = some s ∧
        s.signalId = p.id ∧ s.Reports p.content ∧ s.isTimeSignal = !p.isDataSignal := by
  have hunderstandable := understandable_of_describable h
  have hacknowledged := process_acknowledgement
    (rfl : initial.subscribedSignals p.number.toNat = none)
  have hslot : (initial.setSignal p.number.toNat p.fresh).subscribedSignals p.number.toNat =
      some (some p.fresh) := subscribedSignals_setSignal_self _ _ _
  have hfirst : initial.next (.metaInformation p.number.toNat p.announcement.acknowledgement) =
      initial.setSignal p.number.toNat p.fresh := by rw [next, hacknowledged]
  refine ⟨⟨congrArg Call.outcome hacknowledged, ?_, trivial⟩, p.content.laidOver p.fresh, ?_, rfl,
    Content.reports_laidOver (unit_of_describable h) _ _, ?_⟩
  · show ((next _ (.metaInformation p.number.toNat p.announcement.acknowledgement)).process
      (.metaInformation p.number.toNat p.announcement.description)).outcome = _
    rw [hfirst, process_description hunderstandable hslot]
  · have hrun : run (p.subscribe.map WriterCall.input) = _ := foldl_subscribe hunderstandable rfl
    rw [hrun, signal?_eq_some, subscribedSignals_register]
    exact subscribedSignals_setSignal_self _ _ _
  · show (false || decide ((p.content.unit.laidOver {}).quantity = metaTime)) = _
    have htime := isTime_of_describable h
    rw [Bool.false_or, SignalUnit.laidOver_default (unit_of_describable h)]
    cases hdata : p.isDataSignal <;> simp [htime, hdata]

/-- A signal of complex numbers with a range and related signals. -/
def describedSignal : ProducerSignal := .synchronous
  { signalNumber := 7, signalId := "id", tableId := "table", unit := ⟨3, "V", "voltage"⟩
    range := ⟨⟨0⟩, ⟨0x4024000000000000⟩⟩, relatedSignals := [("domain", "time")]
    ordered_relatedSignals := List.pairwise_singleton _ _
    dataType := .complex64, valueIndex := 5 }

theorem reports_describedSignal :
    AllowedAlong (@next decimalRuntime)
        (fun c i => (@SignalContainer.process decimalRuntime c i).outcome = .ret 0) initial
        (describedSignal.subscribe.map WriterCall.input) ∧
      ∃ s, (@run decimalRuntime (describedSignal.subscribe.map WriterCall.input)).signal?
          describedSignal.number.toNat = some s ∧
        s.signalId = describedSignal.id ∧ s.Reports describedSignal.content ∧
        s.isTimeSignal = !describedSignal.isDataSignal :=
  @ProducerSignal.reports_of_describable decimalRuntime describedSignal
    ⟨.inr (by decide), by decide⟩

end StreamingProtocol
