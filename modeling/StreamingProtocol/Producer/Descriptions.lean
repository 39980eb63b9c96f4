import StreamingProtocol.Presentation.AcceptedDescription
import StreamingProtocol.Producer.Composition

/-!
# What the description of a signal says

The descriptions of all kinds of signals say the same things, some of which are optional. `Content`
lists them without the form of the document. A document says a content (`Content.SaidBy`) if its
members are as they have to be; each kind of signal composes a document that says the content of the
signal (`ProducerSignal.said`). What a consumer makes of a document depends on what it says only:
it accepts an acceptable content, and afterwards it has the content over what it had before.

## Main definitions

* `Content`, `Content.SaidBy`, `ProducerSignal.content`.
* `Content.Acceptable`, `Content.laidOver`.

## Main results

* `ProducerSignal.said`.
* `Content.SaidBy.processSignal_eq_normal_iff`.
-/

namespace StreamingProtocol

/-- The name of a rule in a description; there is none for a rule that is not known. -/
def RuleType.name : RuleType → String
  | unknown => ""
  | explicit => metaRuletypeExplicit
  | constant => metaRuletypeConstant
  | linear => metaRuletypeLinear

/-- What a description says. -/
structure Content where
  tableId : String
  interpretationObject : Json
  memberName : String
  dataType : DataType
  ruleType : RuleType
  unit : SignalUnit
  valueIndex : Option UInt64 := none
  delta : Option UInt64 := none
  start : Option Json := none
  timeTicksPerSecond : Option UInt64 := none
  epoch : Option String := none
  range : Range := {}
  postScaling : PostScaling := {}
  relatedSignals : RelatedSignals := []

namespace Content

/-- A definition says what belongs to the definition. -/
structure InDefinition (d : Content) (definition : Json) : Prop where
  isObject : definition.isObject
  delta : SubscribedSignal.deltaNode definition = d.delta.map .numberUnsigned
  start : SubscribedSignal.startNode definition = d.start
  rule : definition.find? metaRule = some (.string d.ruleType.name)
  name : definition.find? metaName = some (.string d.memberName)
  datatype : definition.find? metaDatatype = some (.string d.dataType.name)
  dimensions : definition.find? metaDimensions = none
  unit : definition.find? metaUnit = d.unit.composed
  resolution : definition.find? metaResolution =
    d.timeTicksPerSecond.map fun ticks => Resolution.node ⟨1, ticks⟩
  absoluteReference : definition.find? metaAbsoluteReference = d.epoch.map .string
  range : definition.find? metaRange = d.range.composed
  postScaling : definition.find? metaPostscaling = d.postScaling.composed

/-- The parameters of a description say a content. -/
structure SaidBy (d : Content) (parameters : Json) : Prop where
  definition : ∃ definition, parameters.find? metaDefinition = some definition ∧
    d.InDefinition definition
  tableId : parameters.find? metaTableid = some (.string d.tableId)
  valueIndex : parameters.find? metaValueindex = d.valueIndex.map .numberUnsigned
  interpretation : parameters.find? metaInterpretation =
    if d.interpretationObject.isNull then none else some d.interpretationObject
  relatedSignals : parameters.find? metaRelatedsignals =
    BaseValueSignal.composedRelatedSignals d.relatedSignals
  ordered : d.relatedSignals.Ordered

end Content

/-! ### What a signal says -/

/-- The content of a domain signal. -/
def BaseDomainSignal.content (s : BaseDomainSignal) (ruleType : RuleType) (delta : Option UInt64) :
    Content where
  tableId := s.tableId
  interpretationObject := s.interpretationObject
  memberName := metaTime
  dataType := .uint64
  ruleType := ruleType
  unit := unitSecond
  delta := delta
  timeTicksPerSecond := some s.timeTicksPerSecond
  epoch := some s.epoch

/-- The content of a value signal. -/
def BaseValueSignal.content (s : BaseValueSignal) (ruleType : RuleType) (dataType : DataType)
    (valueIndex : Option UInt64) (start : Option Json) : Content where
  tableId := s.tableId
  interpretationObject := s.interpretationObject
  memberName := s.valueName
  dataType := dataType
  ruleType := ruleType
  unit := s.unit
  valueIndex := valueIndex
  start := start
  range := s.range
  postScaling := s.postScaling
  relatedSignals := s.relatedSignals

namespace ProducerSignal

/-- The content of the description of a signal. -/
def content : ProducerSignal → Content
  | linearTime s => s.toBaseDomainSignal.content .linear (some s.outputRateInTicks)
  | explicitTime s => s.toBaseDomainSignal.content .explicit none
  | synchronous s => s.toBaseValueSignal.content .explicit s.dataType (some s.valueIndex) none
  | asynchronous s => s.toBaseValueSignal.content .explicit s.dataType none none
  | constant s => s.toBaseValueSignal.content .constant s.dataType none
      (if s.defaultStartValue.isNull then none else some s.defaultStartValue)

/-- The parameters of the description of a signal. -/
def parameters : ProducerSignal → Json
  | linearTime s => s.parameters s.memberInformation
  | explicitTime s => s.parameters s.memberInformation
  | synchronous s => s.parameters s.memberInformation fun parameters =>
      parameters.set metaValueindex (.numberUnsigned s.valueIndex)
  | asynchronous s => s.parameters s.memberInformation
  | constant s => s.parameters s.memberInformation

theorem description_eq (s : ProducerSignal) :
    s.description = methodDocument metaMethodSignal s.parameters := by
  cases s <;> rfl

end ProducerSignal

/-! ### Domain signals -/

namespace BaseDomainSignal

theorem find?_parameters (s : BaseDomainSignal) (definition : Json) (key : String) :
    (s.parameters definition).find? key =
      if metaInterpretation = key then
        if s.interpretationObject.isNull then none else some s.interpretationObject
      else if metaDefinition = key then some definition
      else if metaTableid = key then some (.string s.tableId) else none := by
  rw [parameters, BaseSignal.composeInterpretation,
    Json.find?_ite_set key _ (.inl (Json.isObject_set _ _ _)) rfl,
    Json.find?_set _ _ _ (.inl (Json.isObject_set _ _ _)), Json.find?_set _ _ _ (.inr rfl),
    Json.find?_null]

theorem saidBy {s : BaseDomainSignal} {ruleType : RuleType} {delta : Option UInt64}
    {definition : Json} (h : (s.content ruleType delta).InDefinition definition) :
    (s.content ruleType delta).SaidBy (s.parameters definition) where
  definition := ⟨definition, s.find?_parameters definition _, h⟩
  tableId := s.find?_parameters definition _
  valueIndex := s.find?_parameters definition _
  interpretation := s.find?_parameters definition _
  relatedSignals := s.find?_parameters definition _
  ordered := .nil

end BaseDomainSignal

theorem LinearTimeSignal.inDefinition (s : LinearTimeSignal) :
    (s.toBaseDomainSignal.content .linear (some s.outputRateInTicks)).InDefinition
      s.memberInformation := by
  let base := ((((Json.null.set metaName (.string metaTime)).set metaRule
    (.string metaRuletypeLinear)).setIn metaRuletypeLinear metaDelta
      (.numberUnsigned s.outputRateInTicks)).set metaDatatype (.string dataTypeUint64)).set
        metaAbsoluteReference (.string s.epoch)
  have hfind (key : String) : s.memberInformation.find? key =
      if metaResolution = key then some s.resolution.node
      else if metaUnit = key then BaseDomainSignal.unitSecond.composed else base.find? key := by
    rw [memberInformation, Resolution.find?_compose _ _ (SignalUnit.isObject_compose _ rfl),
      SignalUnit.find?_compose _ _ rfl rfl]
  have hlinear : SubscribedSignal.deltaNode s.memberInformation =
      some (.numberUnsigned s.outputRateInTicks) := by
    rw [SubscribedSignal.deltaNode, hfind]
    rfl
  have hconstant := SubscribedSignal.startNode_of_none (hfind metaRuletypeConstant)
  exact ⟨rfl, hlinear, hconstant, hfind _, hfind _, hfind _, hfind _, hfind _, hfind _, hfind _,
    hfind _, hfind _⟩

theorem ExplicitTimeSignal.inDefinition (s : ExplicitTimeSignal) :
    (s.toBaseDomainSignal.content .explicit none).InDefinition s.memberInformation := by
  let base := ((Json.null.set metaName (.string metaTime)).set metaRule
    (.string metaRuletypeExplicit)).set metaDatatype (.string dataTypeUint64)
  have hfind (key : String) : s.memberInformation.find? key =
      if metaResolution = key then some s.resolution.node
      else if metaAbsoluteReference = key then some (.string s.epoch)
      else if metaUnit = key then BaseDomainSignal.unitSecond.composed else base.find? key := by
    rw [memberInformation, Resolution.find?_compose _ _ (Json.isObject_set _ _ _),
      Json.find?_set _ _ _ (.inl (SignalUnit.isObject_compose _ rfl)),
      SignalUnit.find?_compose _ _ rfl rfl]
  have hlinear := SubscribedSignal.deltaNode_of_none (hfind metaRuletypeLinear)
  have hconstant := SubscribedSignal.startNode_of_none (hfind metaRuletypeConstant)
  exact ⟨rfl, hlinear, hconstant, hfind _, hfind _, hfind _, hfind _, hfind _, hfind _, hfind _,
    hfind _, hfind _⟩

/-! ### Value signals -/

namespace BaseValueSignal

theorem isObject_createMember (s : BaseValueSignal) (rule : String) (dataType : DataType) :
    (s.createMember rule dataType).isObject :=
  s.postScaling.isObject_compose (s.range.isObject_compose (s.unit.isObject_compose rfl))

theorem find?_createMember (s : BaseValueSignal) (rule : String) (dataType : DataType)
    (key : String) : (s.createMember rule dataType).find? key =
      if metaPostscaling = key then s.postScaling.composed
      else if metaRange = key then s.range.composed
      else if metaUnit = key then s.unit.composed
      else (((Json.null.set metaName (.string s.valueName)).set metaDatatype
        (.string dataType.name)).set metaRule (.string rule)).find? key := by
  let base := ((Json.null.set metaName (.string s.valueName)).set metaDatatype
    (.string dataType.name)).set metaRule (.string rule)
  have hunit (key : String) : (s.unit.compose base).find? key =
      if metaUnit = key then s.unit.composed else base.find? key :=
    SignalUnit.find?_compose _ _ rfl rfl
  have hrange (key : String) : (s.range.compose (s.unit.compose base)).find? key =
      if metaRange = key then s.range.composed
      else if metaUnit = key then s.unit.composed else base.find? key := by
    rw [Range.find?_compose _ _ (s.unit.isObject_compose rfl) (hunit _), hunit]
  rw [createMember, PostScaling.find?_compose _ _
    (s.range.isObject_compose (s.unit.isObject_compose rfl)) (hrange _), hrange]

/-- The definition of a value signal without a start value. -/
theorem inDefinition (s : BaseValueSignal) (ruleType : RuleType) (dataType : DataType)
    (valueIndex : Option UInt64) :
    (s.content ruleType dataType valueIndex none).InDefinition
      (s.createMember ruleType.name dataType) := by
  have hfind := s.find?_createMember ruleType.name dataType
  have hlinear := SubscribedSignal.deltaNode_of_none (hfind metaRuletypeLinear)
  have hconstant := SubscribedSignal.startNode_of_none (hfind metaRuletypeConstant)
  exact ⟨s.isObject_createMember _ _, hlinear, hconstant, hfind _, hfind _, hfind _, hfind _,
    hfind _, hfind _, hfind _, hfind _, hfind _⟩

/-- A start value may be added to the definition. -/
theorem inDefinition_start (s : BaseValueSignal) (ruleType : RuleType) (dataType : DataType)
    (start : Json) :
    (s.content ruleType dataType none (if start.isNull then none else some start)).InDefinition
      (if start.isNull then s.createMember ruleType.name dataType
        else
          (s.createMember ruleType.name dataType).setIn metaRuletypeConstant metaStart start) := by
  split_ifs with hnull
  · exact s.inDefinition ruleType dataType none
  · have h := s.inDefinition ruleType dataType none
    have hother (key : String) (hkey : metaRuletypeConstant ≠ key) := Json.find?_set_of_ne hkey
      (((s.createMember ruleType.name dataType).member metaRuletypeConstant).set metaStart start)
      (.inl h.isObject)
    have hnone : (s.createMember ruleType.name dataType).member metaRuletypeConstant = .null :=
      congrArg (fun x => x.getD Json.null) (s.find?_createMember ruleType.name dataType _)
    refine ⟨Json.isObject_set _ _ _, ?_, ?_, ?_, ?_, ?_, ?_, ?_, ?_, ?_, ?_, ?_⟩
    · rw [SubscribedSignal.deltaNode, Json.setIn, hother _ (by decide)]
      exact h.delta
    · rw [SubscribedSignal.startNode, Json.setIn, Json.find?_set_self, hnone]
      rfl
    all_goals rw [Json.setIn, hother _ (by decide)]
    · exact h.rule
    · exact h.name
    · exact h.datatype
    · exact h.dimensions
    · exact h.unit
    · exact h.resolution
    · exact h.absoluteReference
    · exact h.range
    · exact h.postScaling

/-- The value index is set if there is one. -/
def withIndex (valueIndex : Option UInt64) (parameters : Json) : Json :=
  valueIndex.elim parameters fun x => parameters.set metaValueindex (.numberUnsigned x)

theorem find?_parameters (s : BaseValueSignal) (definition : Json) (valueIndex : Option UInt64)
    (key : String) : (s.parameters definition (withIndex valueIndex)).find? key =
      if metaRelatedsignals = key then composedRelatedSignals s.relatedSignals
      else if metaValueindex = key then valueIndex.map .numberUnsigned
      else if metaDefinition = key then some definition
      else if metaInterpretation = key then
        if s.interpretationObject.isNull then none else some s.interpretationObject
      else if metaTableid = key then some (.string s.tableId) else none := by
  let base := (s.composeInterpretation (Json.null.set metaTableid (.string s.tableId))).set
    metaDefinition definition
  have hbase (key : String) : base.find? key = if metaDefinition = key then some definition
      else if metaInterpretation = key then
        if s.interpretationObject.isNull then none else some s.interpretationObject
      else if metaTableid = key then some (.string s.tableId) else none := by
    have hobject : (s.composeInterpretation
        (Json.null.set metaTableid (.string s.tableId))).isObject :=
      Json.isObject_ite_set _ _ rfl
    rw [Json.find?_set _ _ _ (.inl hobject), BaseSignal.composeInterpretation,
      Json.find?_ite_set key _ (.inl rfl) rfl, Json.find?_set _ _ _ (.inr rfl), Json.find?_null]
  have hindex (key : String) : (withIndex valueIndex base).find? key =
      if metaValueindex = key then valueIndex.map .numberUnsigned else base.find? key := by
    cases valueIndex with
    | none =>
      show base.find? key = _
      split_ifs with hkey
      · rw [← hkey, hbase]
        rfl
      · rfl
    | some x => exact Json.find?_set _ _ _ (.inl (Json.isObject_set _ _ _))
  have hobject : (withIndex valueIndex base).isObject := by
    cases valueIndex with
    | none => exact Json.isObject_set _ _ _
    | some x => exact Json.isObject_set _ _ _
  have hnone : (withIndex valueIndex base).find? metaRelatedsignals = none := by
    rw [hindex, hbase]
    rfl
  rw [parameters, find?_composeRelatedSignals s key hobject hnone, hindex, hbase]

theorem saidBy {s : BaseValueSignal} {ruleType : RuleType} {dataType : DataType}
    {valueIndex : Option UInt64} {start : Option Json} {definition : Json}
    (h : (s.content ruleType dataType valueIndex start).InDefinition definition) :
    (s.content ruleType dataType valueIndex start).SaidBy
      (s.parameters definition (withIndex valueIndex)) where
  definition := ⟨definition, s.find?_parameters definition _ _, h⟩
  tableId := s.find?_parameters definition _ _
  valueIndex := s.find?_parameters definition _ _
  interpretation := s.find?_parameters definition _ _
  relatedSignals := s.find?_parameters definition _ _
  ordered := s.ordered_relatedSignals

end BaseValueSignal

/-- The description of a signal says the content of the signal. -/
theorem ProducerSignal.said (s : ProducerSignal) : s.content.SaidBy s.parameters := by
  cases s with
  | linearTime s => exact BaseDomainSignal.saidBy s.inDefinition
  | explicitTime s => exact BaseDomainSignal.saidBy s.inDefinition
  | synchronous s => exact BaseValueSignal.saidBy (s.toBaseValueSignal.inDefinition .explicit _ _)
  | asynchronous s => exact BaseValueSignal.saidBy (s.toBaseValueSignal.inDefinition .explicit _ _)
  | constant s =>
    exact BaseValueSignal.saidBy (s.toBaseValueSignal.inDefinition_start .constant s.dataType _)

/-! ### What a consumer makes of a content -/

namespace Content

variable [JsonRuntime]

open SubscribedSignal

/-- A content is accepted by a signal: the start value is a number, a linear rule has a delta, and a
resolution is one in seconds. -/
def Acceptable (d : Content) (s : SubscribedSignal) : Prop :=
  ((∀ node, d.start = some node → node.isNumber) ∧
    ruleNamed d.ruleType.name (d.delta.getD s.linearDelta) = some d.ruleType) ∧
  ∀ ticks, d.timeTicksPerSecond = some ticks → ticks ≠ 0 → (d.unit.laidOver s.unit).isSeconds

/-- The resolution and the frequency of the time base of a signal; a resolution with the denominator
0 is not taken over. -/
def resolutionOver (d : Content) (s : SubscribedSignal) : Resolution × UInt64 :=
  match d.timeTicksPerSecond with
  | none => (s.resolution, s.timeBaseFrequency)
  | some ticks =>
      if ticks = 0 then (s.resolution, s.timeBaseFrequency) else (⟨1, ticks⟩, ticks)

/-- A signal with a content over what it had before. -/
def laidOver (d : Content) (s : SubscribedSignal) : SubscribedSignal :=
  { s with
    tableId := d.tableId
    linearValueIndex := d.valueIndex.getD s.linearValueIndex
    interpretationObject :=
      if d.interpretationObject.isNull then s.interpretationObject else d.interpretationObject
    linearDeltaJson := (d.delta.map .numberUnsigned).getD s.linearDeltaJson
    linearDelta := d.delta.getD s.linearDelta
    constRuleStartJson := d.start.getD s.constRuleStartJson
    ruleType := d.ruleType
    dataValueSize := UInt64.ofNat d.dataType.size
    memberName := d.memberName
    dataValueType := d.dataType.sampleType
    unit := d.unit.laidOver s.unit
    isTimeSignal := s.isTimeSignal || (d.unit.laidOver s.unit).quantity = metaTime
    resolution := (d.resolutionOver s).1
    timeBaseFrequency := (d.resolutionOver s).2
    timeBaseEpochAsString := d.epoch.getD s.timeBaseEpochAsString
    range := d.range.laidOver s.range
    postScaling := d.postScaling.laidOver s.postScaling
    relatedSignals := if d.relatedSignals = [] then s.relatedSignals else d.relatedSignals }

namespace InDefinition

variable {d : Content} {definition : Json}

theorem deltaInForce (h : d.InDefinition definition) (s : SubscribedSignal) :
    StreamingProtocol.deltaInForce definition s = d.delta.getD s.linearDelta := by
  unfold StreamingProtocol.deltaInForce
  rw [h.delta]
  cases d.delta <;> rfl

omit [JsonRuntime] in
theorem scalarSampleType_name (dataType : DataType) :
    scalarSampleType dataType.name = some dataType.sampleType := by
  cases dataType <;> rfl

theorem getDataTypeSize (h : d.InDefinition definition) :
    StreamingProtocol.getDataTypeSize definition = .ok (UInt64.ofNat d.dataType.size) := by
  have hname : definition.valueOr Json.getString metaName "" = .ok d.memberName :=
    Json.valueOr_of_find? h.isObject h.name
  have hcount : dimensionCount definition = .ok (some 1) := by
    rw [dimensionCount, h.dimensions]
    rfl
  have hsize : scalarSize d.dataType.name = some (UInt64.ofNat d.dataType.size) := by
    cases d.dataType <;> rfl
  rw [StreamingProtocol.getDataTypeSize]
  simp only [hname, hcount, h.datatype, Json.getString, hsize, bind, Except.bind, pure, Except.pure,
    UInt64.mul_one]

/-- The verdict on the resolution. -/
theorem resolution_parse (h : d.InDefinition definition) (s : SubscribedSignal) :
    ∃ result, s.resolution.parse definition = .ok ((d.resolutionOver s).1, result) ∧
      (result = 1 ↔ ∃ ticks, d.timeTicksPerSecond = some ticks ∧ ticks ≠ 0) ∧
      (d.resolutionOver s).2 =
        if result = 1 then (d.resolutionOver s).1.denominator / (d.resolutionOver s).1.numerator
        else s.timeBaseFrequency := by
  unfold resolutionOver
  cases hticks : d.timeTicksPerSecond with
  | none =>
    have hnone := h.resolution
    rw [hticks] at hnone
    refine ⟨0, ?_, by simp, by simp⟩
    rw [Resolution.parse, hnone]
    rfl
  | some ticks =>
    have hsome := h.resolution
    rw [hticks, Option.map_some] at hsome
    rw [Resolution.parse_of_composed hsome (by decide : (1 : UInt64) ≠ 0)]
    by_cases hzero : ticks = 0
    · exact ⟨-1, by simp [hzero], by simp [hzero], by simp [hzero]⟩
    · exact ⟨1, by simp [hzero], by simp [hzero], by simp [hzero]⟩

omit [JsonRuntime] in
theorem ruleNamed_name (ruleType : RuleType) (linearDelta : UInt64) :
    (ruleNamed ruleType.name linearDelta).isSome ↔
      ruleNamed ruleType.name linearDelta = some ruleType := by
  cases ruleType with
  | linear =>
    have hname : RuleType.linear.name = metaRuletypeLinear := rfl
    by_cases h : linearDelta = 0 <;> simp [ruleNamed, hname, h]
  | unknown => exact iff_of_false (fun h => by cases h) fun h => by cases h
  | explicit => exact iff_of_true rfl rfl
  | constant => exact iff_of_true rfl rfl

omit [JsonRuntime] in
/-- The data type is one that is not composed of others, so its details stay as they are. -/
theorem processDatatype_eq (h : d.InDefinition definition) (s : SubscribedSignal) :
    processDatatype definition s = .normal { s with dataValueType := d.dataType.sampleType } := by
  rw [processDatatype, h.datatype]
  simp only [Json.getString, Completion.eval_ok, scalarSampleType_name]

end InDefinition

namespace SaidBy

variable {d : Content} {parameters : Json}

omit [JsonRuntime] in
theorem definitionVerdict_eq_none (h : d.SaidBy parameters) (verdict : Json → Option Abrupt)
    {P : Prop}
    (hverdict : ∀ definition, d.InDefinition definition → (verdict definition = none ↔ P)) :
    definitionVerdict parameters verdict = none ↔ P := by
  obtain ⟨definition, hdefinition, hin⟩ := h.definition
  rw [definitionVerdict, hdefinition, Option.bind_some]
  exact hverdict definition hin

omit [JsonRuntime] in
/-- A part of the description that is never refused. -/
theorem definitionVerdict_of_forall (h : d.SaidBy parameters) (verdict : Json → Option Abrupt)
    (hverdict : ∀ definition, d.InDefinition definition → verdict definition = none) :
    definitionVerdict parameters verdict = none :=
  (h.definitionVerdict_eq_none verdict fun definition hin =>
    iff_of_true (hverdict definition hin) trivial).mpr trivial

omit [JsonRuntime] in
theorem relatedVerdict (h : d.SaidBy parameters) :
    StreamingProtocol.relatedVerdict parameters = none := by
  rw [StreamingProtocol.relatedVerdict, h.relatedSignals, BaseValueSignal.composedRelatedSignals]
  split_ifs
  · rfl
  · rw [List.findSome?_eq_none_iff]
    intro item hitem
    obtain ⟨relatedSignal, -, rfl⟩ := List.mem_map.mp hitem
    rfl

theorem verdict_tableId (h : d.SaidBy parameters) (s : SubscribedSignal) :
    Member.verdict parameters s .tableId = none := by
  rw [Member.verdict, h.tableId]
  rfl

theorem verdict_valueIndex (h : d.SaidBy parameters) (s : SubscribedSignal) :
    Member.verdict parameters s .valueIndex = none := by
  rw [Member.verdict, h.valueIndex]
  cases d.valueIndex <;> rfl

/-- The rule is accepted with a start value that is a number, and if it is linear with a delta. -/
theorem verdict_rule_iff (h : d.SaidBy parameters) (s : SubscribedSignal) :
    Member.verdict parameters s .rule = none ↔
      (∀ node, d.start = some node → node.isNumber) ∧
        ruleNamed d.ruleType.name (d.delta.getD s.linearDelta) = some d.ruleType := by
  refine h.definitionVerdict_eq_none _ fun definition hin => ?_
  have hdelta : (deltaNode definition).all Json.isNumber = true := by
    rw [hin.delta]
    cases d.delta <;> rfl
  have hstart : (startNode definition).all Json.isNumber = true ↔
      ∀ node, d.start = some node → node.isNumber := by
    rw [hin.start]
    cases d.start <;> simp
  have haccepted : ruleAccepted definition (deltaInForce definition s) = true ↔
      ruleNamed d.ruleType.name (d.delta.getD s.linearDelta) = some d.ruleType := by
    rw [ruleAccepted, hin.rule, hin.deltaInForce]
    exact InDefinition.ruleNamed_name _ _
  rw [refuseUnless, hdelta, Bool.true_and, ← hstart, ← haccepted, ← Bool.and_eq_true]
  split_ifs with hboth <;> simp [hboth]

/-- A consumer accepts a description if its content is acceptable. -/
theorem accepts_iff (h : d.SaidBy parameters) (s : SubscribedSignal) :
    s.Accepts parameters ↔ d.Acceptable s := by
  have hunit : Member.verdict parameters s .unit = none ↔
      ∀ ticks, d.timeTicksPerSecond = some ticks → ticks ≠ 0 →
        (d.unit.laidOver s.unit).isSeconds := by
    refine h.definitionVerdict_eq_none _ fun definition hin => ?_
    obtain ⟨result, hparse, hresult, -⟩ := hin.resolution_parse s
    simp only [unitVerdict, SignalUnit.parse_of_composed hin.unit, resolutionVerdict, hparse]
    by_cases hone : result = 1
    · obtain ⟨ticks, hticks, hzero⟩ := hresult.mp hone
      have hnumerator : (d.resolutionOver s).1.numerator = 1 := by
        rw [resolutionOver, hticks]
        simp [hzero]
      rw [if_pos hone, hticks, hnumerator]
      by_cases hseconds : (d.unit.laidOver s.unit).isSeconds <;> simp [hseconds, hzero]
    · rw [if_neg hone]
      refine iff_of_true rfl fun ticks hticks hzero => ?_
      exact absurd (hresult.mpr ⟨ticks, hticks, hzero⟩) hone
  have hsize : Member.verdict parameters s .dataValueSize = none :=
    h.definitionVerdict_of_forall _ fun definition hin => by rw [hin.getDataTypeSize]; rfl
  have hname : Member.verdict parameters s .memberName = none :=
    h.definitionVerdict_of_forall _ fun definition hin => by rw [readVerdict, hin.name]; rfl
  have hdatatype : Member.verdict parameters s .datatype = none :=
    h.definitionVerdict_of_forall _ fun definition hin => by
      rw [datatypeVerdict, hin.datatype]
      simp [InDefinition.scalarSampleType_name]
  have hreference : Member.verdict parameters s .absoluteReference = none :=
    h.definitionVerdict_of_forall _ fun definition hin => by
      rw [readVerdict, hin.absoluteReference]
      cases d.epoch <;> rfl
  have hrange : Member.verdict parameters s .range = none :=
    h.definitionVerdict_of_forall _ fun definition hin => by
      rw [Range.parse_of_composed hin.range]
      rfl
  have hpostScaling : Member.verdict parameters s .postScaling = none :=
    h.definitionVerdict_of_forall _ fun definition hin => by
      rw [PostScaling.parse_of_composed hin.postScaling]
      rfl
  have hrelated : Member.verdict parameters s .relatedSignals = none :=
    h.definitionVerdict_of_forall _ fun _ _ => h.relatedVerdict
  unfold SubscribedSignal.Accepts
  simp only [described, List.forall_mem_cons, h.verdict_tableId, h.verdict_valueIndex,
    h.verdict_rule_iff, hunit, hsize, hname, hdatatype, hreference, hrange, hpostScaling, hrelated]
  simp [Member.verdict, Acceptable]

omit [JsonRuntime] in
/-- The related signals are taken over if there are any. -/
theorem relatedGiven_eq (h : d.SaidBy parameters) (s : SubscribedSignal) :
    relatedGiven parameters s =
      if d.relatedSignals = [] then s.relatedSignals else d.relatedSignals := by
  rw [relatedGiven, h.relatedSignals, BaseValueSignal.composedRelatedSignals]
  split_ifs
  · rfl
  · exact BaseValueSignal.announcedRelatedSignals_of_composed h.ordered

/-- A definition with a rule that is accepted makes of a signal what its content says. -/
theorem definedBy_eq (h : d.SaidBy parameters) {definition : Json}
    (hin : d.InDefinition definition) {s : SubscribedSignal}
    (hrule : ruleNamed d.ruleType.name (d.delta.getD s.linearDelta) = some d.ruleType) :
    s.definedBy parameters definition =
      { d.laidOver s with
        tableId := s.tableId
        linearValueIndex := s.linearValueIndex
        interpretationObject := s.interpretationObject } := by
  have hruleGiven : ruleGiven definition s = d.ruleType := by
    simp only [ruleGiven, hin.rule, hin.deltaInForce, hrule, Option.getD_some]
  have hsize : sizeGiven definition s = UInt64.ofNat d.dataType.size := by
    have hpositive : UInt64.ofNat d.dataType.size ≠ 0 := by cases d.dataType <;> decide
    simp only [sizeGiven, hin.getDataTypeSize, if_neg hpositive]
  have htype : (announcedType definition).getD s.dataValueType = d.dataType.sampleType := by
    rw [← dataValueType_processDatatype, hin.processDatatype_eq]
    rfl
  have hname : definition.read Json.getString metaName s.memberName = d.memberName :=
    Json.read_of_find? hin.name (rfl : (Json.string d.memberName).getString = _) _
  have hepoch : definition.read Json.getString metaAbsoluteReference s.timeBaseEpochAsString =
      d.epoch.getD s.timeBaseEpochAsString := by
    rw [Json.read, hin.absoluteReference]
    cases d.epoch <;> rfl
  obtain ⟨result, hparse, -, hfrequency⟩ := hin.resolution_parse s
  have hresolution : resolutionGiven definition s = (d.resolutionOver s).1 := by
    rw [resolutionGiven, hparse]
  have hbase : frequencyGiven definition s = (d.resolutionOver s).2 := by
    rw [frequencyGiven, hparse, hfrequency]
  unfold definedBy laidOver
  simp only [hin.delta, hin.start, hin.deltaInForce, hruleGiven, hsize, htype, hname, hepoch,
    hresolution, hbase, h.relatedGiven_eq, hin.processDatatype_eq,
    SignalUnit.parse_of_composed hin.unit, Range.parse_of_composed hin.range,
    PostScaling.parse_of_composed hin.postScaling, Completion.state_normal]

/-- A consumer makes of a description that it accepts what its content says. -/
theorem processSignal_eq_normal_iff (h : d.SaidBy parameters) {s s' : SubscribedSignal} :
    processSignal parameters s = .normal s' ↔ d.Acceptable s ∧ s' = d.laidOver s := by
  rw [SubscribedSignal.processSignal_eq_normal_iff, h.accepts_iff]
  refine and_congr_right fun hacceptable => ?_
  obtain ⟨definition, hdefinition, hin⟩ := h.definition
  have htable : tableNamed parameters s = d.tableId := by
    rw [tableNamed, h.tableId]
    rfl
  have hindex : parameters.read Json.getUInt64 metaValueindex s.linearValueIndex =
      d.valueIndex.getD s.linearValueIndex := by
    rw [Json.read, h.valueIndex]
    cases d.valueIndex <;> rfl
  have hinterpretation : parameters.read .ok metaInterpretation s.interpretationObject =
      if d.interpretationObject.isNull then s.interpretationObject
      else d.interpretationObject := by
    rw [Json.read, h.interpretation]
    split_ifs <;> rfl
  have hdescribed : s.describedBy parameters = d.laidOver s := by
    rw [describedBy, hdefinition, Option.elim_some, h.definedBy_eq hin hacceptable.1.2, htable,
      hindex, hinterpretation]
    rfl
  rw [hdescribed]

end SaidBy

end Content

end StreamingProtocol
