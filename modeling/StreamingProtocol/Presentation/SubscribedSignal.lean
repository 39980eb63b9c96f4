import StreamingProtocol.Presentation.DataTypeSize

/-!
# A subscribed signal

The state that a consumer keeps for a signal, and how meta information about the signal changes it.
A description may be partial, it is applied member by member, and the state keeps what is not
given. A member that is refused ends the function; what was stored before it stays.

The statements of `SubscribedSignal::processSignalMetaInformation` are one definition each, in the
order of the source. Those that read the `definition` run under a `catch` clause for the exceptions
of the JSON library, the table id, the value index and the interpretation are outside of it.
Log messages are left out where they cannot fail.

## Main definitions

* `SubscribedSignal`.
* `SubscribedSignal.processSignalMetaInformation`.
-/

namespace StreamingProtocol

/-- `SubscribedSignal`, with the values set by its constructor. The related time signal is given by
its number. -/
structure SubscribedSignal where
  signalNumber : SignalNumber
  signalId : String := ""
  tableId : String := ""
  isTimeSignal : Bool := false
  datatypeDetails : Json := .null
  bitsInterpretationObject : Json := .null
  dataValueType : SampleType := .unknown
  dataValueSize : UInt64 := 4
  ruleType : RuleType := .explicit
  memberName : String := ""
  timeSignal : Option SignalNumber := none
  time : UInt64 := 0
  linearDelta : UInt64 := 0
  linearDeltaJson : Json := .null
  constRuleStartJson : Json := .null
  linearValueIndex : UInt64 := 0
  timeBaseEpochAsString : String := ""
  resolution : Resolution := {}
  timeBaseFrequency : UInt64 := 0
  unit : SignalUnit := {}
  range : Range := {}
  postScaling : PostScaling := {}
  interpretationObject : Json := .null
  relatedSignals : RelatedSignals := []

/-- The sample type of a data type that is not composed of others. -/
def scalarSampleType (dataType : String) : Option SampleType :=
  if dataType = dataTypeUint8 then some .u8
  else if dataType = dataTypeUint16 then some .u16
  else if dataType = dataTypeUint32 then some .u32
  else if dataType = dataTypeUint64 then some .u64
  else if dataType = dataTypeInt8 then some .s8
  else if dataType = dataTypeInt16 then some .s16
  else if dataType = dataTypeInt32 then some .s32
  else if dataType = dataTypeInt64 then some .s64
  else if dataType = dataTypeReal32 then some .real32
  else if dataType = dataTypeReal64 then some .real64
  else if dataType = dataTypeComplex32 then some .complex32
  else if dataType = dataTypeComplex64 then some .complex64
  else none

namespace SubscribedSignal

variable [JsonRuntime]

/-! ### Ids -/

/-- An id, which may be a string or a number. -/
def assignId (node : Json) (store : String → SubscribedSignal → SubscribedSignal)
    (s : SubscribedSignal) : Completion SubscribedSignal :=
  if node.isString then .eval node.getString s fun id => .normal (store id s)
  else if node.isNumber then .eval node.text s fun id => .normal (store id s)
  else .abrupt (.ret (-1)) s

/-- A node gives an id, or is refused. -/
theorem assignId_cases (node : Json) (store : String → SubscribedSignal → SubscribedSignal)
    (s : SubscribedSignal) :
    (∃ id, (node = .string id ∨ node.isNumber ∧ node.text = .ok id) ∧
        assignId node store s = .normal (store id s)) ∨
      (node.isString = false ∧ node.isNumber = false ∧
        assignId node store s = .abrupt (.ret (-1)) s) := by
  unfold assignId
  by_cases hnumber : node.isNumber
  · obtain ⟨id, hid⟩ := Json.exists_text_of_isNumber hnumber
    refine .inl ⟨id, .inr ⟨hnumber, hid⟩, ?_⟩
    rw [if_neg (by simp [Json.isString_of_isNumber hnumber]), if_pos hnumber, hid]
    rfl
  · cases node with
    | string id => exact .inl ⟨id, .inl rfl, rfl⟩
    | numberUnsigned _ | numberInteger _ | numberFloat _ => exact absurd rfl hnumber
    | _ => exact .inr ⟨rfl, rfl, rfl⟩

/-- The signal id of a subscribe acknowledgement. -/
def processSubscribe (params : Json) (s : SubscribedSignal) : Completion SubscribedSignal :=
  match params.find? metaSignalid with
  | none => .abrupt (.ret (-1)) s
  | some node => assignId node (fun id s => { s with signalId := id }) s

/-- A subscribe acknowledgement sets the signal id or leaves the signal alone. -/
theorem processSubscribe_cases (params : Json) (s : SubscribedSignal) :
    (∃ id, s.processSubscribe params = .normal { s with signalId := id }) ∨
      s.processSubscribe params = .abrupt (.ret (-1)) s := by
  unfold processSubscribe
  cases params.find? metaSignalid with
  | none => exact .inr rfl
  | some node =>
    obtain ⟨id, -, h⟩ | ⟨-, -, h⟩ := assignId_cases node (fun id s => { s with signalId := id }) s
    · exact .inl ⟨id, h⟩
    · exact .inr h

def processTableId (params : Json) (s : SubscribedSignal) : Completion SubscribedSignal :=
  match params.find? metaTableid with
  | none => .normal s
  | some node => assignId node (fun id s => { s with tableId := id }) s

/-! ### Members next to the definition -/

def processValueIndex (params : Json) : SubscribedSignal → Completion SubscribedSignal :=
  params.assign metaValueindex Json.getUInt64 fun x s => { s with linearValueIndex := x }

def processInterpretation (params : Json) : SubscribedSignal → Completion SubscribedSignal :=
  params.assign metaInterpretation .ok fun x s => { s with interpretationObject := x }

/-! ### The rule -/

/-- The delta of a linear rule and the start value of a constant rule in a definition. -/
def deltaNode (definition : Json) : Option Json :=
  (definition.find? metaRuletypeLinear).bind (Json.find? metaDelta)

def startNode (definition : Json) : Option Json :=
  (definition.find? metaRuletypeConstant).bind (Json.find? metaStart)

omit [JsonRuntime] in
theorem deltaNode_of_none {definition : Json} (h : definition.find? metaRuletypeLinear = none) :
    deltaNode definition = none := by
  rw [deltaNode, h, Option.bind_none]

omit [JsonRuntime] in
theorem startNode_of_none {definition : Json} (h : definition.find? metaRuletypeConstant = none) :
    startNode definition = none := by
  rw [startNode, h, Option.bind_none]

/-- The delta of a linear rule. A delta that is not a number is stored before it is refused. -/
def processLinear (definition : Json) (s : SubscribedSignal) : Completion SubscribedSignal :=
  match deltaNode definition with
  | none => .normal s
  | some node =>
      let s := { s with linearDeltaJson := node }
      if node.isNumber then .eval node.getUInt64 s fun x => .normal { s with linearDelta := x }
      else .abrupt (.ret (-1)) s

/-- The start value of a constant rule. One that is not a number is stored before it is refused. -/
def processConstant (definition : Json) (s : SubscribedSignal) : Completion SubscribedSignal :=
  match startNode definition with
  | none => .normal s
  | some node =>
      let s := { s with constRuleStartJson := node }
      if node.isNumber then .normal s else .abrupt (.ret (-1)) s

/-- The kind of the rule. A linear rule needs a delta, given before or in this description. -/
def processRule (definition : Json) (s : SubscribedSignal) : Completion SubscribedSignal :=
  match definition.find? metaRule with
  | none => .normal s
  | some node =>
      .eval node.getString s fun rule =>
        if rule = metaRuletypeLinear then
          if s.linearDelta = 0 then .abrupt (.ret (-1)) s
          else .normal { s with ruleType := .linear }
        else if rule = metaRuletypeExplicit then .normal { s with ruleType := .explicit }
        else if rule = metaRuletypeConstant then .normal { s with ruleType := .constant }
        else .abrupt (.ret (-1)) s

/-! ### The value -/

/-- The size of a value, which is kept if it is not known. -/
def processDataValueSize (definition : Json) (s : SubscribedSignal) :
    Completion SubscribedSignal :=
  .eval (getDataTypeSize definition) s fun dataValueSize =>
    .normal (if dataValueSize ≠ 0 then { s with dataValueSize := dataValueSize } else s)

def processMemberName (definition : Json) : SubscribedSignal → Completion SubscribedSignal :=
  definition.assign metaName Json.getString fun x s => { s with memberName := x }

/-- The type of a bit field, by its base type. -/
def processBitFieldType (node : Json) (s : SubscribedSignal) : Completion SubscribedSignal :=
  .eval node.getString s fun dataType =>
    if dataType = dataTypeUint32 then .normal { s with dataValueType := .bitfield32 }
    else if dataType = dataTypeUint64 then .normal { s with dataValueType := .bitfield64 }
    else .abrupt (.ret (-1)) s

/-- The base type of a bit field; reading a member of the details inserts it. -/
def processBitFieldBase (details : Json) (s : SubscribedSignal) : Completion SubscribedSignal :=
  .eval (details.index metaDatatype) s fun base =>
    processBitFieldType base.2 { s with datatypeDetails := base.1 }

/-- The bits of a bit field. -/
def processBitFieldBits (details : Json) (s : SubscribedSignal) : Completion SubscribedSignal :=
  .eval (details.index metaBits) s fun bits =>
    processBitFieldBase bits.1
      { s with datatypeDetails := bits.1, bitsInterpretationObject := bits.2 }

def processBitField (definition : Json) (s : SubscribedSignal) : Completion SubscribedSignal :=
  .eval (definition.at? dataTypeBitfield) s fun details =>
    processBitFieldBits details { s with datatypeDetails := details }

def processDatatype (definition : Json) (s : SubscribedSignal) : Completion SubscribedSignal :=
  match definition.find? metaDatatype with
  | none => .normal s
  | some node =>
      .eval node.getString s fun dataType =>
        match scalarSampleType dataType with
        | some type => .normal { s with dataValueType := type }
        | none =>
            if dataType = dataTypeBitfield then processBitField definition s
            else if dataType = dataTypeArray then
              .eval (definition.at? dataTypeArray) s fun details =>
                .normal { s with datatypeDetails := details, dataValueType := .array }
            else if dataType = dataTypeStruct then
              .eval (definition.at? dataTypeStruct) s fun details =>
                .normal { s with datatypeDetails := details, dataValueType := .struct }
            else .abrupt (.ret (-1)) s -- also `dynamicArray`

/-! ### Unit, resolution and the rest -/

/-- The unit. A signal with a unit of time becomes a time signal and stays one. -/
def processUnit (definition : Json) (s : SubscribedSignal) : Completion SubscribedSignal :=
  (Completion.focus unit (fun u s => { s with unit := u }) (SignalUnit.parse definition) s).andThen
    fun s => .normal (if s.unit.quantity = metaTime then { s with isTimeSignal := true } else s)

/-- The frequency of the time base, from a resolution in seconds. -/
def processTimeBaseFrequency (s : SubscribedSignal) : Completion SubscribedSignal :=
  if s.unit.isSeconds then
    if s.resolution.numerator = 0 then .abrupt (.undefined .divisionByZero) s
    else .normal { s with
      timeBaseFrequency := s.resolution.denominator / s.resolution.numerator }
  else .abrupt (.ret (-1)) s

def processResolution (definition : Json) (s : SubscribedSignal) : Completion SubscribedSignal :=
  .eval (s.resolution.parse definition) s fun parsed =>
    if parsed.2 = 1 then processTimeBaseFrequency { s with resolution := parsed.1 }
    else .normal { s with resolution := parsed.1 }

def processAbsoluteReference (definition : Json) :
    SubscribedSignal → Completion SubscribedSignal :=
  definition.assign metaAbsoluteReference Json.getString fun x s =>
    { s with timeBaseEpochAsString := x }

def processRange (definition : Json) : SubscribedSignal → Completion SubscribedSignal :=
  Completion.focus range (fun r s => { s with range := r }) (Range.parse definition)

def processPostScaling (definition : Json) : SubscribedSignal → Completion SubscribedSignal :=
  Completion.focus postScaling (fun p s => { s with postScaling := p })
    (PostScaling.parse definition)

/-- One entry of the list of related signals. -/
def processRelatedSignal (arrayItem : Json) (s : SubscribedSignal) :
    Completion SubscribedSignal :=
  .eval (arrayItem.at? metaType) s fun typeNode => .eval typeNode.getString s fun type =>
    .eval (arrayItem.at? metaSignalid) s fun idNode => .eval idNode.getString s fun signalId =>
      .normal { s with relatedSignals := s.relatedSignals.set type signalId }

/-- The related signals, which replace those given before. -/
def processRelatedSignals (params : Json) (s : SubscribedSignal) : Completion SubscribedSignal :=
  match params.find? metaRelatedsignals with
  | none => .normal s
  | some (.array relatedSignals) =>
      .sequence (relatedSignals.map processRelatedSignal) { s with relatedSignals := [] }
  | some _ => .normal { s with relatedSignals := [] }

/-! ### The description -/

/-- The statements about a definition, in order. -/
def definitionStatements (params definition : Json) :
    List (SubscribedSignal → Completion SubscribedSignal) :=
  [processLinear definition, processConstant definition, processRule definition,
    processDataValueSize definition, processMemberName definition, processDatatype definition,
    processUnit definition, processResolution definition, processAbsoluteReference definition,
    processRange definition, processPostScaling definition, processRelatedSignals params]

/-- The `catch` clause for the exceptions of the JSON library. -/
def catchJson : Completion SubscribedSignal → Completion SubscribedSignal :=
  Completion.catching (fun e => e = .jsonTypeError) (-1)

/-- How a statement ends under the `catch` clause. -/
def caughtAs : Abrupt → Abrupt
  | .throw .jsonTypeError => .ret (-1)
  | why => why

omit [JsonRuntime] in
theorem why?_catchJson (c : Completion SubscribedSignal) :
    (catchJson c).why? = c.why?.map caughtAs := by
  rw [catchJson, Completion.why?_catching]
  congr 1
  funext why
  rcases why with _ | e | _
  · rfl
  · cases e <;> rfl
  · rfl

omit [JsonRuntime] in
@[simp] theorem state_catchJson (c : Completion SubscribedSignal) :
    (catchJson c).state = c.state :=
  Completion.state_catching _ _ c

def processDefinition (params : Json) (s : SubscribedSignal) : Completion SubscribedSignal :=
  match params.find? metaDefinition with
  | none => .normal s
  | some definition =>
      catchJson (.sequence (definitionStatements params definition) s)

/-- The branch of `processSignalMetaInformation` for the method `signal`. -/
def processSignal (params : Json) : SubscribedSignal → Completion SubscribedSignal :=
  .sequence [processTableId params, processValueIndex params, processInterpretation params,
    processDefinition params]

/-- `SubscribedSignal::processSignalMetaInformation`; falling through is the return of 0. -/
def processSignalMetaInformation (method : String) (params : Json) (s : SubscribedSignal) :
    Completion SubscribedSignal :=
  if method = metaMethodSubscribe then processSubscribe params s
  else if method = metaMethodSignal then processSignal params s
  else .normal s

end SubscribedSignal

end StreamingProtocol
