import StreamingProtocol.Producer.FreshDescription

/-!
# Descriptions of a signal that are sent again

The settings of a value signal may be changed, and the description is sent again to tell. A setting
that is at its default is left out of the description, and a consumer keeps what is left out. So the
consumer has the settings of the last description, as a new signal would have them, if and only if
each setting that is left out is one that the consumer has at its default already.

## Main definitions

* `ValueKind`: the kinds of value signals, with what cannot be set later.
* `SettingCall`, `Described.step`: the calls that set something or send the description.
* `SubscribedSignal.settings`, `Content.Overwrites`.

## Main results

* `ValueKind.settings_receive_iff`: one description.
* `ValueKind.settings_along_iff`: any sequence of calls.
-/

namespace StreamingProtocol

open ReachedBy

/-! ### Value signals and their settings -/

/-- The kind of a value signal, with what it has besides the members of `BaseValueSignal`. -/
inductive ValueKind where
  | synchronous (dataType : DataType) (valueIndex : UInt64)
  | asynchronous (dataType : DataType)
  | constant (dataType : DataType) (isComplex_dataType : dataType.isComplex = false)
      (defaultStartValue : Json)

/-- The signal of a kind with certain settings. -/
def ValueKind.signal (s : BaseValueSignal) : ValueKind → ProducerSignal
  | synchronous dataType valueIndex =>
      .synchronous { s with dataType := dataType, valueIndex := valueIndex }
  | asynchronous dataType => .asynchronous { s with dataType := dataType }
  | constant dataType isComplex_dataType defaultStartValue =>
      .constant { s with
        dataType := dataType
        isComplex_dataType := isComplex_dataType
        defaultStartValue := defaultStartValue }

/-- Every data signal is of one of the kinds. -/
theorem ProducerSignal.exists_valueKind {p : ProducerSignal} (h : p.isDataSignal = true) :
    ∃ (k : ValueKind) (s : BaseValueSignal), p = k.signal s := by
  cases p with
  | linearTime s => cases h
  | explicitTime s => cases h
  | synchronous s => exact ⟨.synchronous s.dataType s.valueIndex, s.toBaseValueSignal, rfl⟩
  | asynchronous s => exact ⟨.asynchronous s.dataType, s.toBaseValueSignal, rfl⟩
  | constant s =>
    exact ⟨.constant s.dataType s.isComplex_dataType s.defaultStartValue, s.toBaseValueSignal, rfl⟩

/-- The calls of a value signal that set something, and the one that sends its description. -/
inductive SettingCall where
  | setMemberName (name : String)
  | setUnitId (unitId : Int32) (displayName : String)
  | setUnit (value : SignalUnit)
  | setPostScaling (postScaling : PostScaling)
  | clearPostScaling
  | setRange (range : Range)
  | clearRange
  | setRelatedSignals (relatedSignals : RelatedSignals) (ordered : relatedSignals.Ordered)
  | setInterpretationObject (object : Json)
  | writeSignalMetaInformation

/-- The settings of a signal after a call. -/
def BaseValueSignal.set (s : BaseValueSignal) : SettingCall → BaseValueSignal
  | .setMemberName name => { s with valueName := name }
  | .setUnitId unitId displayName =>
      { s with unit := { s.unit with id := unitId, displayName := displayName } }
  | .setUnit value => { s with unit := value }
  | .setPostScaling postScaling => { s with postScaling := postScaling }
  | .clearPostScaling => { s with postScaling := {} }
  | .setRange range => { s with range := range }
  | .clearRange => { s with range := {} }
  | .setRelatedSignals relatedSignals ordered =>
      { s with relatedSignals := relatedSignals, ordered_relatedSignals := ordered }
  | .setInterpretationObject object => { s with interpretationObject := object }
  | .writeSignalMetaInformation => s

/-! ### Settings of a consumer -/

/-- The settings that a consumer knows from descriptions. -/
structure Settings where
  unit : SignalUnit
  range : Range
  postScaling : PostScaling
  relatedSignals : RelatedSignals
  interpretationObject : Json
  memberName : String

/-- The settings of a signal. -/
def SubscribedSignal.settings (s : SubscribedSignal) : Settings :=
  ⟨s.unit, s.range, s.postScaling, s.relatedSignals, s.interpretationObject, s.memberName⟩

/-- A signal of a consumer after meta information. -/
def SubscribedSignal.receive [JsonRuntime] (m : MetaInformation) (s : SubscribedSignal) :
    SubscribedSignal :=
  match m.method with
  | .error _ => s
  | .ok method => (s.processSignalMetaInformation method m.params).state

/-- What a content leaves out a signal has at its default. -/
structure Content.Overwrites (d : Content) (s : SubscribedSignal) : Prop where
  unit : d.unit.id = SignalUnit.unitIdNone → s.unit = {}
  quantity : d.unit.quantity = "" → s.unit.quantity = ""
  low : d.range.low = ({} : Range).low → s.range.low = ({} : Range).low
  high : d.range.high = ({} : Range).high → s.range.high = ({} : Range).high
  postScaling : d.postScaling.isOneToOne → s.postScaling = {}
  relatedSignals : d.relatedSignals = [] → s.relatedSignals = []
  interpretationObject : d.interpretationObject.isNull → s.interpretationObject = .null

/-! ### Each setting -/

theorem SignalUnit.laidOver_eq_default_iff (u v : SignalUnit) :
    u.laidOver v = u.laidOver {} ↔
      (u.id = unitIdNone → v = {}) ∧ (u.quantity = "" → v.quantity = "") := by
  unfold SignalUnit.laidOver
  by_cases hid : u.id = unitIdNone
  · rw [if_pos hid, if_pos hid]
    refine ⟨fun h => ⟨fun _ => h, fun _ => by rw [h]⟩, fun h => h.1 hid⟩
  · rw [if_neg hid, if_neg hid]
    by_cases hquantity : u.quantity = "" <;> simp [hid, hquantity]

theorem ite_eq_ite_iff {α : Type} {c : Prop} [Decidable c] (x y z : α) :
    (if c then x else z) = (if c then y else z) ↔ (c → x = y) := by
  by_cases hc : c <;> simp [hc]

theorem Range.laidOver_eq_default_iff (r v : Range) :
    r.laidOver v = r.laidOver {} ↔
      (r.low = ({} : Range).low → v.low = ({} : Range).low) ∧
        (r.high = ({} : Range).high → v.high = ({} : Range).high) := by
  unfold Range.laidOver
  rw [Range.mk.injEq, ite_eq_ite_iff, ite_eq_ite_iff]

theorem PostScaling.laidOver_eq_default_iff (p v : PostScaling) :
    p.laidOver v = p.laidOver {} ↔ (p.isOneToOne → v = {}) :=
  ite_eq_ite_iff _ _ _

/-- The settings that a content makes of those of a signal are what it makes of the defaults if and
only if what it leaves out is at the default. -/
theorem Content.settings_laidOver_iff (d : Content) (s : SubscribedSignal) (n : SignalNumber)
    (id : String) :
    (d.laidOver s).settings = (d.laidOver { signalNumber := n, signalId := id }).settings ↔
      d.Overwrites s := by
  unfold SubscribedSignal.settings laidOver
  rw [Settings.mk.injEq, SignalUnit.laidOver_eq_default_iff, Range.laidOver_eq_default_iff,
    PostScaling.laidOver_eq_default_iff, ite_eq_ite_iff, ite_eq_ite_iff]
  constructor
  · rintro ⟨⟨hunit, hquantity⟩, ⟨hlow, hhigh⟩, hpostScaling, hrelated, hinterpretation, -⟩
    exact ⟨hunit, hquantity, hlow, hhigh, hpostScaling, hrelated, hinterpretation⟩
  · rintro ⟨hunit, hquantity, hlow, hhigh, hpostScaling, hrelated, hinterpretation⟩
    exact ⟨⟨hunit, hquantity⟩, ⟨hlow, hhigh⟩, hpostScaling, hrelated, hinterpretation, rfl⟩

/-! ### One description -/

variable [JsonRuntime]

namespace Content.SaidBy

variable {d : Content} {parameters : Json} {s : SubscribedSignal}

/-- A description whose rule is refused sets the interpretation object and none of the other
settings. -/
theorem settings_of_refused (h : d.SaidBy parameters)
    (hrule : Member.verdict parameters s .rule ≠ none) :
    (SubscribedSignal.processSignal parameters s).state.settings =
      { s.settings with interpretationObject :=
          if d.interpretationObject.isNull then s.interpretationObject
          else d.interpretationObject } := by
  have hkept {m : Member} (hm : m ∈ described) (hbefore : Member.rule ∈ SubscribedSignal.before m) :
      m.view (SubscribedSignal.processSignal parameters s).state = m.view s := by
    rw [SubscribedSignal.view_processSignal_eq parameters s hm,
      if_neg fun hreaches => hrule (hreaches _ hbefore)]
  have hreaches : SubscribedSignal.Reaches parameters s .interpretation := by
    intro m hm
    have hm : m ∈ [Member.tableId, Member.valueIndex] := hm
    rcases List.mem_pair.mp hm with rfl | rfl
    · exact h.verdict_tableId s
    · exact h.verdict_valueIndex s
  have hinterpretation :
      (SubscribedSignal.processSignal parameters s).state.interpretationObject =
        if d.interpretationObject.isNull then s.interpretationObject
        else d.interpretationObject := by
    have hview := SubscribedSignal.view_processSignal_eq parameters s
      (by decide : Member.interpretation ∈ described)
    rw [if_pos hreaches] at hview
    refine Eq.trans hview ?_
    show (SubscribedSignal.processInterpretation parameters s).state.interpretationObject = _
    unfold SubscribedSignal.processInterpretation Json.assign
    rw [h.interpretation]
    split_ifs <;> rfl
  have hunit := view_unit_eq_iff.mp (hkept (by decide : Member.unit ∈ described) (by decide))
  have hrange : (SubscribedSignal.processSignal parameters s).state.range = s.range :=
    hkept (by decide : Member.range ∈ described) (by decide)
  have hpostScaling : (SubscribedSignal.processSignal parameters s).state.postScaling =
      s.postScaling := hkept (by decide : Member.postScaling ∈ described) (by decide)
  have hrelated : (SubscribedSignal.processSignal parameters s).state.relatedSignals =
      s.relatedSignals := hkept (by decide : Member.relatedSignals ∈ described) (by decide)
  have hname : (SubscribedSignal.processSignal parameters s).state.memberName = s.memberName :=
    hkept (by decide : Member.memberName ∈ described) (by decide)
  unfold SubscribedSignal.settings
  rw [hunit.1, hrange, hpostScaling, hrelated, hname, hinterpretation]

end Content.SaidBy

/-- A signal that receives the description of a signal processes its parameters. -/
theorem ProducerSignal.receive_description (p : ProducerSignal) (s : SubscribedSignal) :
    s.receive p.announcement.description = (s.processSignal p.parameters).state := by
  have hmethod : p.announcement.description.method = .ok metaMethodSignal := by
    rw [announcement, description_eq]
    rfl
  unfold SubscribedSignal.receive SubscribedSignal.processSignalMetaInformation
  rw [hmethod, params_description]
  dsimp only
  rw [if_neg metaMethodSubscribe_ne_signal.symm, if_pos rfl]

omit [JsonRuntime] in
/-- The settings before any description, up to the interpretation object, which may be set by a
description that is refused. -/
def SubscribedSignal.Undescribed (s : SubscribedSignal) : Prop :=
  s.settings = ⟨{}, {}, {}, [], s.interpretationObject, ""⟩

namespace ValueKind

variable {k : ValueKind} {base : BaseValueSignal} {s : SubscribedSignal}

omit [JsonRuntime] in
/-- Whether a description is understood does not depend on the settings. -/
theorem understandable_iff (k : ValueKind) (base base' : BaseValueSignal) :
    (k.signal base).Understandable ↔ (k.signal base').Understandable := by
  cases k <;> exact Iff.rfl

/-- A description that is understood makes of a signal what it says. -/
theorem receive_of_understandable (h : (k.signal base).Understandable) (s : SubscribedSignal) :
    s.receive (k.signal base).announcement.description = (k.signal base).content.laidOver s := by
  have hacceptable : (k.signal base).content.Acceptable s := ProducerSignal.acceptable_iff.mpr h
  have hprocess := (k.signal base).said.processSignal_eq_normal_iff.mpr ⟨hacceptable, rfl⟩
  rw [ProducerSignal.receive_description, hprocess]
  rfl

/-- A description that is not understood is refused for its rule. -/
theorem settings_receive_of_not_understandable (h : ¬ (k.signal base).Understandable)
    (s : SubscribedSignal) :
    (s.receive (k.signal base).announcement.description).settings =
      { s.settings with interpretationObject :=
          if base.interpretationObject.isNull then s.interpretationObject
          else base.interpretationObject } := by
  have hticks : (k.signal base).content.timeTicksPerSecond = none := by cases k <;> rfl
  have hobject : (k.signal base).content.interpretationObject = base.interpretationObject := by
    cases k <;> rfl
  rw [ProducerSignal.receive_description, ← hobject]
  refine (k.signal base).said.settings_of_refused fun hrule => h ?_
  rw [(k.signal base).said.verdict_rule_iff] at hrule
  have hacceptable : (k.signal base).content.Acceptable s := by
    refine ⟨hrule, fun ticks hsome => ?_⟩
    rw [hticks] at hsome
    cases hsome
  exact ProducerSignal.acceptable_iff.mp hacceptable

/-- The settings of a signal after a description are those of a new signal if and only if what the
description leaves out is at the default. -/
theorem settings_receive_iff (hs : (k.signal base).Understandable ∨ s.Undescribed) :
    (s.receive (k.signal base).announcement.description).settings =
        ((k.signal base).fresh.receive (k.signal base).announcement.description).settings ↔
      (k.signal base).content.Overwrites s := by
  by_cases h : (k.signal base).Understandable
  · rw [receive_of_understandable h, receive_of_understandable h]
    exact (k.signal base).content.settings_laidOver_iff s _ _
  · have hs : s.settings = ⟨{}, {}, {}, [], s.interpretationObject, ""⟩ := hs.resolve_left h
    obtain ⟨hunit, hrange, hpostScaling, hrelated, -⟩ := Settings.mk.inj hs
    have hobject : (k.signal base).content.interpretationObject = base.interpretationObject := by
      cases k <;> rfl
    have hsame : (⟨{}, {}, {}, [], if base.interpretationObject.isNull then s.interpretationObject
          else base.interpretationObject, ""⟩ : Settings) =
        ⟨{}, {}, {}, [], if base.interpretationObject.isNull then .null
          else base.interpretationObject, ""⟩ ↔
        (base.interpretationObject.isNull → s.interpretationObject = .null) := by
      rw [Settings.mk.injEq, ite_eq_ite_iff]
      simp only [true_and, and_true]
    rw [settings_receive_of_not_understandable h, settings_receive_of_not_understandable h, hs]
    refine hsame.trans ⟨fun hnull => ?_, fun hoverwrites => ?_⟩
    · exact ⟨fun _ => hunit, fun _ => by rw [hunit], fun _ => by rw [hrange],
        fun _ => by rw [hrange], fun _ => hpostScaling, fun _ => hrelated, hobject ▸ hnull⟩
    · exact hobject ▸ hoverwrites.interpretationObject

end ValueKind

/-! ### Sequences of calls -/

/-- A value signal of a producer, and the signal of a consumer that gets its descriptions. -/
structure Described where
  signal : BaseValueSignal
  consumer : SubscribedSignal

/-- Both after a call. -/
def Described.step (k : ValueKind) (d : Described) (call : SettingCall) : Described where
  signal := d.signal.set call
  consumer := match call with
    | .writeSignalMetaInformation => d.consumer.receive (k.signal d.signal).announcement.description
    | _ => d.consumer

/-- What a description leaves out is at the default when it is sent. -/
def Described.Overwrites (k : ValueKind) (d : Described) (call : SettingCall) : Prop :=
  call = .writeSignalMetaInformation → (k.signal d.signal).content.Overwrites d.consumer

/-- When a description has been sent, the consumer has the settings of a new signal that has got
only this description. -/
def Described.UpToDate (k : ValueKind) (d : Described) (call : SettingCall) : Prop :=
  call = .writeSignalMetaInformation → (d.step k call).consumer.settings =
    ((k.signal d.signal).fresh.receive (k.signal d.signal).announcement.description).settings

namespace ValueKind

/-- A consumer that has not understood a description has the settings of a new signal. -/
theorem understandable_or_undescribed_step (k : ValueKind) {d : Described} (call : SettingCall)
    (h : (k.signal d.signal).Understandable ∨ d.consumer.Undescribed) :
    (k.signal (d.step k call).signal).Understandable ∨ (d.step k call).consumer.Undescribed := by
  by_cases hd : (k.signal d.signal).Understandable
  · exact .inl ((k.understandable_iff _ _).mp hd)
  · have hconsumer : d.consumer.settings =
        ⟨{}, {}, {}, [], d.consumer.interpretationObject, ""⟩ := h.resolve_left hd
    refine .inr ?_
    cases call with
    | writeSignalMetaInformation =>
      have hsettings := settings_receive_of_not_understandable hd d.consumer
      rw [hconsumer] at hsettings
      have hobject := congrArg Settings.interpretationObject hsettings
      exact hsettings.trans
        (congrArg (fun object => (⟨{}, {}, {}, [], object, ""⟩ : Settings)) hobject.symm)
    | _ => exact hconsumer

/-- **Changed settings.** In every sequence of calls, the consumer has after each description the
settings of a new signal that has got only this description, if and only if what each description
leaves out is at the default when it is sent. -/
theorem settings_along_iff (k : ValueKind) (base : BaseValueSignal) (calls : List SettingCall) :
    AllowedAlong (Described.step k) (Described.UpToDate k) ⟨base, (k.signal base).fresh⟩ calls ↔
      AllowedAlong (Described.step k) (Described.Overwrites k) ⟨base, (k.signal base).fresh⟩
        calls := by
  let Inv (d : Described) : Prop := (k.signal d.signal).Understandable ∨ d.consumer.Undescribed
  have hinit : Inv ⟨base, (k.signal base).fresh⟩ := .inr rfl
  refine allowedAlong_congr hinit (fun d call hd => understandable_or_undescribed_step k call hd)
    (fun d call hd => ?_) calls
  refine forall_congr' fun hcall => ?_
  subst hcall
  exact settings_receive_iff hd

end ValueKind

omit [JsonRuntime] in
/-- A unit that is set and taken back is not taken back by the consumer. -/
theorem not_upToDate_clearedUnit :
    ¬ AllowedAlong (@Described.step decimalRuntime (.asynchronous .real32))
      (@Described.UpToDate decimalRuntime (.asynchronous .real32))
      ⟨{ signalNumber := 1, signalId := "id", tableId := "table" },
        ((ValueKind.asynchronous .real32).signal
          { signalNumber := 1, signalId := "id", tableId := "table" }).fresh⟩
      [.setUnit ⟨3, "V", "voltage"⟩, .writeSignalMetaInformation, .setUnit {},
        .writeSignalMetaInformation] := by
  rintro ⟨-, -, -, hsettings, -⟩
  have hid := congrArg (fun settings => settings.unit.id) (hsettings rfl)
  revert hid
  decide +kernel

end StreamingProtocol
