import StreamingProtocol.Presentation.DescriptionParts

/-!
# Verdicts on descriptions

Which members of a description are refused, and which leave the signal as it is, told from the
document and the state of the signal before the description.

## Main definitions

* `Member.verdict`: why the description of a part is refused.
* `Member.Restates`: the description of a part says what the signal already has.
-/

namespace StreamingProtocol

open SubscribedSignal

variable [JsonRuntime]

/-! ### Verdicts -/

/-- The failure of an expression under the `catch` clause of a definition. -/
def failure {α : Type} : Except Abrupt α → Option Abrupt
  | .ok _ => none
  | .error why => some (caughtAs why)

/-- The refusal of a value that is not allowed. -/
def refuseUnless (accepted : Bool) : Option Abrupt := if accepted then none else some (.ret (-1))

def isStringOrNumber (node : Json) : Bool := node.isString || node.isNumber

omit [JsonRuntime] in
theorem isStringOrNumber_of_not {node : Json} (hstring : node.isString = false)
    (hnumber : node.isNumber = false) : isStringOrNumber node = false := by
  rw [isStringOrNumber, hstring, hnumber, Bool.or_false]

theorem isStringOrNumber_of_id {node : Json} {id : String}
    (h : node = .string id ∨ node.isNumber ∧ node.text = .ok id) :
    isStringOrNumber node = true := by
  obtain rfl | ⟨hnumber, -⟩ := h
  · rfl
  · rw [isStringOrNumber, hnumber, Bool.or_true]

/-- The delta of a signal with a definition taken over. -/
def deltaInForce (definition : Json) (s : SubscribedSignal) : UInt64 :=
  match deltaNode definition with
  | none => s.linearDelta
  | some node =>
      match node.getUInt64 with
      | .ok x => x
      | .error _ => s.linearDelta

/-- The kind of a rule by its name, if it may be set with the delta in force. -/
def ruleNamed (rule : String) (linearDelta : UInt64) : Option RuleType :=
  if rule = metaRuletypeLinear then if linearDelta = 0 then none else some .linear
  else if rule = metaRuletypeExplicit then some .explicit
  else if rule = metaRuletypeConstant then some .constant
  else none

/-- Whether the kind of the rule in a definition is accepted. -/
def ruleAccepted (definition : Json) (linearDelta : UInt64) : Bool :=
  match definition.find? metaRule with
  | none => true
  | some (.string rule) => (ruleNamed rule linearDelta).isSome
  | some _ => false

/-- The verdict on the data type of a definition. -/
def datatypeVerdict (definition : Json) : Option Abrupt :=
  match definition.find? metaDatatype with
  | none => none
  | some (.string dataType) =>
      if (scalarSampleType dataType).isSome then none
      else if dataType = dataTypeBitfield then
        match definition.find? dataTypeBitfield with
        | none => some (.undefined .missingMember)
        | some details =>
            match details.index metaBits with
            | .error _ => some (.ret (-1))
            | .ok bits =>
                match bits.1.find? metaDatatype with
                | some (.string base) =>
                    refuseUnless (base = dataTypeUint32 ∨ base = dataTypeUint64)
                | _ => some (.ret (-1))
      else if dataType = dataTypeArray ∨ dataType = dataTypeStruct then
        match definition.find? dataType with
        | none => some (.undefined .missingMember)
        | some _ => none
      else some (.ret (-1))
  | some _ => some (.ret (-1))

/-- The verdict on the resolution of a definition, with the unit in force. -/
def resolutionVerdict (definition : Json) (s : SubscribedSignal) (u : SignalUnit) :
    Option Abrupt :=
  match s.resolution.parse definition with
  | .error why => some (caughtAs why)
  | .ok (r, result) =>
      if result = 1 then
        if u.isSeconds then if r.numerator = 0 then some (.undefined .divisionByZero) else none
        else some (.ret (-1))
      else none

/-- The verdict on the unit and the resolution of a definition. -/
def unitVerdict (definition : Json) (s : SubscribedSignal) : Option Abrupt :=
  match SignalUnit.parse definition s.unit with
  | .abrupt why _ => some (caughtAs why)
  | .normal u => resolutionVerdict definition s u

/-- The type and the id of an entry of the related signals. -/
def relatedSignal (arrayItem : Json) : Except Abrupt (String × String) := do
  let type ← (← arrayItem.at? metaType).getString
  let signalId ← (← arrayItem.at? metaSignalid).getString
  return (type, signalId)

/-- The verdict on the related signals. -/
def relatedVerdict (params : Json) : Option Abrupt :=
  match params.find? metaRelatedsignals with
  | some (.array relatedSignals) =>
      relatedSignals.findSome? fun item => failure (relatedSignal item)
  | _ => none

/-- A verdict on the definition, if one is given. -/
def definitionVerdict (params : Json) (verdict : Json → Option Abrupt) : Option Abrupt :=
  (params.find? metaDefinition).bind verdict

/-- The verdict on a member that is read at a type. -/
def readVerdict {α : Type} (key : String) (get : Json → Except Abrupt α) (definition : Json) :
    Option Abrupt :=
  (definition.find? key).bind fun node => failure (get node)

/-- Why the description of a part is refused. -/
def Member.verdict (params : Json) (s : SubscribedSignal) : Member → Option Abrupt
  | .tableId => (params.find? metaTableid).bind fun node => refuseUnless (isStringOrNumber node)
  | .valueIndex => (params.find? metaValueindex).bind fun node =>
      if node.isNumber then none else some (.throw .jsonTypeError)
  | .interpretation => none
  | .rule => definitionVerdict params fun definition =>
      refuseUnless (((deltaNode definition).all Json.isNumber) &&
        ((startNode definition).all Json.isNumber) &&
        ruleAccepted definition (deltaInForce definition s))
  | .dataValueSize =>
      definitionVerdict params fun definition => failure (getDataTypeSize definition)
  | .memberName => definitionVerdict params (readVerdict metaName Json.getString)
  | .datatype => definitionVerdict params datatypeVerdict
  | .unit => definitionVerdict params fun definition => unitVerdict definition s
  | .absoluteReference =>
      definitionVerdict params (readVerdict metaAbsoluteReference Json.getString)
  | .range => definitionVerdict params fun definition =>
      (Range.parse definition s.range).why?.map caughtAs
  | .postScaling => definitionVerdict params fun definition =>
      (PostScaling.parse definition s.postScaling).why?.map caughtAs
  | .relatedSignals => definitionVerdict params fun _ => relatedVerdict params
  | .identity => none

/-! ### Restatements -/

/-- A member that is read at a type says what is there. -/
def ReadRestates {α : Type} (key : String) (get : Json → Except Abrupt α) (current : α)
    (definition : Json) : Prop :=
  ∀ node, definition.find? key = some node → ∀ x, get node = .ok x → x = current

/-- The parts of a rule up to the one that is refused say what is there. -/
def RuleRestates (s : SubscribedSignal) (definition : Json) : Prop :=
  (∀ node, deltaNode definition = some node →
    node = s.linearDeltaJson ∧ ∀ x, node.getUInt64 = .ok x → x = s.linearDelta) ∧
  ((deltaNode definition).all Json.isNumber →
    (∀ node, startNode definition = some node → node = s.constRuleStartJson) ∧
    ((startNode definition).all Json.isNumber →
      ∀ rule, definition.find? metaRule = some (.string rule) →
      ∀ r, ruleNamed rule (deltaInForce definition s) = some r → r = s.ruleType))

/-- The details of a bit field say what is there, with the members that reading them inserts. -/
def BitFieldRestates (s : SubscribedSignal) (details : Json) : Prop :=
  match details.index metaBits with
  | .error _ => details = s.datatypeDetails
  | .ok bits =>
      match bits.1.index metaDatatype with
      | .error _ => bits.1 = s.datatypeDetails ∧ bits.2 = s.bitsInterpretationObject
      | .ok base =>
          base.1 = s.datatypeDetails ∧ bits.2 = s.bitsInterpretationObject ∧
            (base.2 = .string dataTypeUint32 → s.dataValueType = .bitfield32) ∧
            (base.2 = .string dataTypeUint64 → s.dataValueType = .bitfield64)

/-- The data type and its details say what is there. -/
def DatatypeRestates (s : SubscribedSignal) (definition : Json) : Prop :=
  ∀ dataType, definition.find? metaDatatype = some (.string dataType) →
    (∀ type, scalarSampleType dataType = some type → type = s.dataValueType) ∧
    ∀ details, definition.find? dataType = some details →
      (dataType = dataTypeBitfield → BitFieldRestates s details) ∧
      (dataType = dataTypeArray → details = s.datatypeDetails ∧ s.dataValueType = .array) ∧
      (dataType = dataTypeStruct → details = s.datatypeDetails ∧ s.dataValueType = .struct)

/-- The unit, up to the part that is refused, and then the resolution say what is there. -/
def UnitRestates (s : SubscribedSignal) (definition : Json) : Prop :=
  (SignalUnit.parse definition s.unit).state = s.unit ∧
  ((SignalUnit.parse definition s.unit).why? = none →
    (s.unit.quantity = metaTime → s.isTimeSignal) ∧
    ∀ r result, s.resolution.parse definition = .ok (r, result) →
      r = s.resolution ∧ (result = 1 → s.unit.isSeconds → r.numerator ≠ 0 →
        r.denominator / r.numerator = s.timeBaseFrequency))

/-- The related signals up to the entry that cannot be read. -/
def readRelatedSignals : List Json → RelatedSignals → RelatedSignals
  | [], related => related
  | item :: items, related =>
      match relatedSignal item with
      | .error _ => related
      | .ok (type, signalId) => readRelatedSignals items (related.set type signalId)

def announcedRelatedSignals : Json → RelatedSignals
  | .array items => readRelatedSignals items []
  | _ => []

/-- A definition that is given has a property. -/
def InDefinition (params : Json) (P : Json → Prop) : Prop :=
  ∀ definition, params.find? metaDefinition = some definition → P definition

/-- The description of a part, as far as it is not refused, says what the signal already has. -/
def Member.Restates (params : Json) (s : SubscribedSignal) : Member → Prop
  | .tableId => ∀ node, params.find? metaTableid = some node →
      (node.isString → node = .string s.tableId) ∧ (node.isNumber → node.text = .ok s.tableId)
  | .valueIndex => ReadRestates metaValueindex Json.getUInt64 s.linearValueIndex params
  | .interpretation => ReadRestates metaInterpretation .ok s.interpretationObject params
  | .rule => InDefinition params (RuleRestates s)
  | .dataValueSize => InDefinition params fun definition =>
      ∀ size, getDataTypeSize definition = .ok size → size ≠ 0 → size = s.dataValueSize
  | .memberName => InDefinition params (ReadRestates metaName Json.getString s.memberName)
  | .datatype => InDefinition params (DatatypeRestates s)
  | .unit => InDefinition params (UnitRestates s)
  | .absoluteReference => InDefinition params
      (ReadRestates metaAbsoluteReference Json.getString s.timeBaseEpochAsString)
  | .range => InDefinition params fun definition =>
      (Range.parse definition s.range).state = s.range
  | .postScaling => InDefinition params fun definition =>
      (PostScaling.parse definition s.postScaling).state = s.postScaling
  | .relatedSignals => InDefinition params fun _ => ∀ node,
      params.find? metaRelatedsignals = some node → announcedRelatedSignals node = s.relatedSignals
  | .identity => True

end StreamingProtocol
