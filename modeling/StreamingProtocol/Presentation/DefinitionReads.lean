import StreamingProtocol.Foundation.Overlay
import StreamingProtocol.Presentation.AcceptedDescription

/-!
# What an accepted definition says

A definition that is accepted is an object whose members, as far as they are read, can be read at
their types. What it says is then a number of reads, each of a member or of a member of a member.
The resolution is taken over as a whole or, if it contains a 0, not at all. The size of a value
depends on five members.

## Main definitions

* `Readable`: a value that is there can be read and is no object.
* `SubscribedSignal.AcceptedDefinition`: what acceptance says about a definition.
* `SubscribedSignal.sampleTypeNamed`, `SubscribedSignal.resolutionOf`,
  `SubscribedSignal.frequencyOf`.

## Main results

* `SubscribedSignal.acceptedDefinition`.
* `SignalUnit.parse_eq_of_normal`, `Range.parse_eq_of_normal`, `PostScaling.parse_eq_of_normal`.
* `SubscribedSignal.AcceptedDefinition.ruleGiven_eq`, `SubscribedSignal.frequencyGiven_eq`.
* `SubscribedSignal.exists_of_datatypeVerdict`, `SubscribedSignal.getDataTypeSize_congr`.
-/

namespace StreamingProtocol

/-! ### Values that can be read -/

/-- A value that is there can be read, and is no object. -/
def Readable {α : Type} (get : Json → Except Abrupt α) (value : Option Json) : Prop :=
  ∀ node, value = some node → node.isObject = false ∧ ∃ a, get node = .ok a

section Readable

variable {α : Type} {get : Json → Except Abrupt α} {value : Option Json}

/-- Objects are not read at a scalar type. -/
theorem readable_of_ok (hget : ∀ members, ∃ why, get (.object members) = .error why)
    (h : ∀ node, value = some node → ∃ a, get node = .ok a) : Readable get value := by
  intro node hnode
  obtain ⟨a, ha⟩ := h node hnode
  refine ⟨?_, a, ha⟩
  cases node with
  | object members =>
    obtain ⟨why, hwhy⟩ := hget members
    cases ha.symm.trans hwhy
  | _ => rfl

end Readable

variable [JsonRuntime]

open Completion SubscribedSignal

section Scalars

variable {value : Option Json}

omit [JsonRuntime] in
theorem readable_string (h : ∀ node, value = some node → ∃ a, node.getString = .ok a) :
    Readable Json.getString value :=
  readable_of_ok (fun _ => ⟨_, rfl⟩) h

theorem readable_uInt64 (h : ∀ node, value = some node → ∃ a, node.getUInt64 = .ok a) :
    Readable Json.getUInt64 value :=
  readable_of_ok (fun _ => ⟨_, rfl⟩) h

theorem readable_int32 (h : ∀ node, value = some node → ∃ a, node.getInt32 = .ok a) :
    Readable Json.getInt32 value :=
  readable_of_ok (fun _ => ⟨_, rfl⟩) h

theorem readable_double (h : ∀ node, value = some node → ∃ a, node.getDouble = .ok a) :
    Readable Json.getDouble value :=
  readable_of_ok (fun _ => ⟨_, rfl⟩) h

end Scalars

/-! ### The parts of a definition -/

section Parts

variable {definition : Json}

omit [JsonRuntime] in
/-- An assignment that completes has read its member. -/
theorem exists_of_assign_normal {σ α : Type} {node : Json} {key : String}
    {get : Json → Except Abrupt α} {store : α → σ → σ} {s t : σ}
    (h : node.assign key get store s = .normal t) :
    ∀ value, node.find? key = some value → ∃ a, get value = .ok a := by
  intro value hvalue
  unfold Json.assign at h
  simp only [hvalue] at h
  obtain ⟨a, ha, -⟩ := eval_eq_normal.mp h
  exact ⟨a, ha⟩

/-- A unit that is accepted is read member by member. -/
theorem SignalUnit.parse_eq_of_normal {u u' : SignalUnit}
    (h : SignalUnit.parse definition u = .normal u') :
    u' = ⟨definition.readIn Json.getInt32 metaUnit metaUnitId u.id,
        definition.readIn Json.getString metaUnit metaDisplayName u.displayName,
        definition.readIn Json.getString metaUnit metaQuantity u.quantity⟩ ∧
      Readable Json.getInt32 (definition.nested metaUnit metaUnitId) ∧
      Readable Json.getString (definition.nested metaUnit metaDisplayName) ∧
      Readable Json.getString (definition.nested metaUnit metaQuantity) := by
  unfold parse at h
  unfold Json.nested
  cases hnode : definition.find? metaUnit with
  | none =>
    rw [hnode] at h
    cases h
    simp only [Json.readIn_of_none hnode, Option.bind_none]
    exact ⟨trivial, nofun, nofun, nofun⟩
  | some node =>
    simp only [hnode] at h
    obtain ⟨u₁, h₁, h⟩ := andThen_eq_normal.mp h
    obtain ⟨u₂, h₂, h⟩ := andThen_eq_normal.mp h
    rw [sequence_singleton] at h
    simp only [Json.readIn_of_find? hnode, Option.bind_some]
    refine ⟨?_, readable_int32 (exists_of_assign_normal h₁),
      readable_string (exists_of_assign_normal h₂), readable_string (exists_of_assign_normal h)⟩
    rw [assign_eq_normal h rfl, assign_eq_normal h₂ rfl, assign_eq_normal h₁ rfl]

/-- A member with two numbers that is accepted is read number by number. -/
theorem nested_eq_of_normal {σ : Type} {key first second : String}
    {storeFirst storeSecond : Double → σ → σ} {s s' : σ} {x y : Double}
    (h : (match definition.find? key with
      | none => Completion.normal s
      | some node => Completion.sequence [node.assign first Json.getDouble storeFirst,
          node.assign second Json.getDouble storeSecond] s) = .normal s')
    (hfirst : storeFirst x s = s)
    (hsecond : ∀ x, storeSecond y (storeFirst x s) = storeFirst x s) :
    s' = storeSecond (definition.readIn Json.getDouble key second y)
        (storeFirst (definition.readIn Json.getDouble key first x) s) ∧
      Readable Json.getDouble (definition.nested key first) ∧
      Readable Json.getDouble (definition.nested key second) := by
  unfold Json.nested
  cases hnode : definition.find? key with
  | none =>
    rw [hnode] at h
    cases h
    rw [Json.readIn_of_none hnode, Json.readIn_of_none hnode, hsecond, hfirst]
    exact ⟨rfl, nofun, nofun⟩
  | some node =>
    simp only [hnode] at h
    obtain ⟨s₁, h₁, h⟩ := andThen_eq_normal.mp h
    rw [sequence_singleton] at h
    simp only [Json.readIn_of_find? hnode, Option.bind_some]
    refine ⟨?_, readable_double (exists_of_assign_normal h₁),
      readable_double (exists_of_assign_normal h)⟩
    rw [assign_eq_normal h₁ hfirst] at h
    exact assign_eq_normal h (hsecond _)

/-- A range that is accepted is read member by member. -/
theorem Range.parse_eq_of_normal {r r' : Range} (h : Range.parse definition r = .normal r') :
    r' = ⟨definition.readIn Json.getDouble metaRange metaLow r.low,
        definition.readIn Json.getDouble metaRange metaHigh r.high⟩ ∧
      Readable Json.getDouble (definition.nested metaRange metaLow) ∧
      Readable Json.getDouble (definition.nested metaRange metaHigh) := by
  exact nested_eq_of_normal h rfl fun _ => rfl

/-- A post scaling that is accepted is read member by member. -/
theorem PostScaling.parse_eq_of_normal {p p' : PostScaling}
    (h : PostScaling.parse definition p = .normal p') :
    p' = ⟨definition.readIn Json.getDouble metaPostscaling metaPoffset p.offset,
        definition.readIn Json.getDouble metaPostscaling metaScale p.scale⟩ ∧
      Readable Json.getDouble (definition.nested metaPostscaling metaPoffset) ∧
      Readable Json.getDouble (definition.nested metaPostscaling metaScale) := by
  exact nested_eq_of_normal h rfl fun _ => rfl

/-- The delta is a member of a member. -/
theorem deltaInForce_eq (definition : Json) (s : SubscribedSignal) :
    deltaInForce definition s =
      definition.readIn Json.getUInt64 metaRuletypeLinear metaDelta s.linearDelta := by
  unfold deltaInForce Json.readIn
  have hdelta : deltaNode definition = definition.nested metaRuletypeLinear metaDelta := rfl
  rw [hdelta]
  cases definition.nested metaRuletypeLinear metaDelta with
  | none => rfl
  | some node => cases hnode : node.getUInt64 <;> simp [hnode]

omit [JsonRuntime] in
/-- The start value is a member of a member. -/
theorem startNode_getD (definition : Json) (start : Json) :
    (startNode definition).getD start =
      definition.readIn .ok metaRuletypeConstant metaStart start := by
  unfold Json.readIn
  change (definition.nested metaRuletypeConstant metaStart).getD start = _
  cases definition.nested metaRuletypeConstant metaStart with
  | none => rfl
  | some node => rfl

end Parts

/-! ### Accepted definitions -/

namespace SubscribedSignal

/-- What is known of a definition that is accepted. -/
structure AcceptedDefinition (s : SubscribedSignal) (definition : Json) : Prop where
  isObject : definition.isObject
  delta : Readable Json.getUInt64 (definition.nested metaRuletypeLinear metaDelta)
  start : Readable .ok (definition.nested metaRuletypeConstant metaStart)
  rule : ∀ node, definition.find? metaRule = some node → ∃ rule ruleType,
    node = .string rule ∧ ruleNamed rule (deltaInForce definition s) = some ruleType
  size : ∃ size, getDataTypeSize definition = .ok size
  name : Readable Json.getString (definition.find? metaName)
  datatype : datatypeVerdict definition = none
  unit : ∃ u, SignalUnit.parse definition s.unit = .normal u
  resolution : ∃ parsed, s.resolution.parse definition = .ok parsed
  epoch : Readable Json.getString (definition.find? metaAbsoluteReference)
  range : ∃ r, Range.parse definition s.range = .normal r
  postScaling : ∃ p, PostScaling.parse definition s.postScaling = .normal p

section Accepted

variable {s : SubscribedSignal} {params definition : Json}

omit [JsonRuntime] in
theorem readable_of_all_isNumber {α : Type} {get : Json → Except Abrupt α} {value : Option Json}
    (h : value.all Json.isNumber) (hget : ∀ node : Json, node.isNumber → ∃ a, get node = .ok a) :
    Readable get value := by
  intro node hnode
  rw [hnode] at h
  have hnumber : node.isNumber := h
  refine ⟨?_, hget node hnumber⟩
  cases node with
  | object members => cases hnumber
  | _ => rfl

omit [JsonRuntime] in
theorem readable_of_readVerdict {α : Type} {get : Json → Except Abrupt α} {key : String}
    (hget : ∀ members, ∃ why, get (.object members) = .error why)
    (h : readVerdict key get definition = none) : Readable get (definition.find? key) := by
  refine readable_of_ok hget fun node hnode => ?_
  rw [readVerdict, hnode, Option.bind_some] at h
  exact failure_eq_none.mp h

theorem acceptedDefinition (h : s.Accepts params)
    (hdefinition : params.find? metaDefinition = some definition) :
    s.AcceptedDefinition definition := by
  have hverdict {verdict : Json → Option Abrupt} (h : definitionVerdict params verdict = none) :
      verdict definition = none := by
    rwa [definitionVerdict, hdefinition, Option.bind_some] at h
  have hnormal {σ : Type} {c : Completion σ} (h : c.why?.map caughtAs = none) :
      ∃ t, c = .normal t :=
    ⟨_, eq_normal_of_why? (Option.map_eq_none_iff.mp h)⟩
  have hrule := hverdict (h .rule (by decide))
  have hunit := hverdict (h .unit (by decide))
  have hsize := failure_eq_none.mp (hverdict (h .dataValueSize (by decide)))
  have haccepted : ((deltaNode definition).all Json.isNumber &&
      (startNode definition).all Json.isNumber &&
      ruleAccepted definition (deltaInForce definition s)) = true := by
    unfold refuseUnless at hrule
    split_ifs at hrule with haccepted
    exact haccepted
  rw [Bool.and_eq_true, Bool.and_eq_true] at haccepted
  obtain ⟨⟨hdelta, hstart⟩, haccepted⟩ := haccepted
  constructor
  case isObject =>
    obtain ⟨size, hsize⟩ := hsize
    exact isObject_of_getDataTypeSize hsize
  case delta =>
    refine readable_of_all_isNumber hdelta fun node hnumber => ?_
    cases node <;> first | exact ⟨_, rfl⟩ | cases hnumber
  case start => exact readable_of_all_isNumber hstart fun node _ => ⟨node, rfl⟩
  case rule =>
    intro node hnode
    unfold ruleAccepted at haccepted
    rw [hnode] at haccepted
    cases node with
    | string rule =>
      obtain ⟨ruleType, hrule⟩ := Option.isSome_iff_exists.mp haccepted
      exact ⟨rule, ruleType, rfl, hrule⟩
    | _ => cases haccepted
  case size => exact hsize
  case name =>
    exact readable_of_readVerdict (fun _ => ⟨_, rfl⟩) (hverdict (h .memberName (by decide)))
  case datatype => exact hverdict (h .datatype (by decide))
  case unit =>
    cases hparse : SignalUnit.parse definition s.unit with
    | normal u => exact ⟨u, rfl⟩
    | abrupt why u =>
      rw [unitVerdict, hparse] at hunit
      cases hunit
  case resolution =>
    cases hparse : SignalUnit.parse definition s.unit with
    | abrupt why u =>
      rw [unitVerdict, hparse] at hunit
      cases hunit
    | normal u =>
      rw [unitVerdict, hparse] at hunit
      cases hresolution : s.resolution.parse definition with
      | ok parsed => exact ⟨parsed, rfl⟩
      | error why =>
        dsimp only at hunit
        rw [resolutionVerdict, hresolution] at hunit
        cases hunit
  case epoch =>
    exact readable_of_readVerdict (fun _ => ⟨_, rfl⟩)
      (hverdict (h .absoluteReference (by decide)))
  case range => exact hnormal (hverdict (h .range (by decide)))
  case postScaling => exact hnormal (hverdict (h .postScaling (by decide)))


/-! ### The rule -/

omit [JsonRuntime] in
/-- The kind of a rule, read from its name. -/
def getRule : Json → Except Abrupt RuleType
  | .string rule => (ruleNamed rule 1).elim (.error (.ret (-1))) .ok
  | _ => .error (.ret (-1))

omit [JsonRuntime] in
/-- A kind that may be set with some delta may be set with any other one that is not 0. -/
theorem getRule_of_ruleNamed {rule : String} {delta : UInt64} {ruleType : RuleType}
    (h : ruleNamed rule delta = some ruleType) : getRule (.string rule) = .ok ruleType := by
  have hone : ruleNamed rule 1 = some ruleType := by
    unfold ruleNamed at h ⊢
    split_ifs at h ⊢ <;> first | exact h | contradiction
  rw [getRule, hone, Option.elim_some]

theorem AcceptedDefinition.readable_rule (h : s.AcceptedDefinition definition) :
    Readable getRule (definition.find? metaRule) := by
  intro node hnode
  obtain ⟨rule, ruleType, rfl, hrule⟩ := h.rule node hnode
  exact ⟨rfl, ruleType, getRule_of_ruleNamed hrule⟩

theorem AcceptedDefinition.ruleGiven_eq (h : s.AcceptedDefinition definition) :
    ruleGiven definition s = definition.read getRule metaRule s.ruleType := by
  unfold ruleGiven
  cases hnode : definition.find? metaRule with
  | none => rw [Json.read_of_none hnode]
  | some node =>
    obtain ⟨rule, ruleType, rfl, hrule⟩ := h.rule node hnode
    rw [Json.read_of_find? hnode (getRule_of_ruleNamed hrule)]
    dsimp only
    rw [hrule, Option.getD_some]

/-! ### The size of a value -/

omit [JsonRuntime] in
/-- The members of a definition that its size depends on. -/
def sizeMembers : List String :=
  [metaDimensions, metaDatatype, dataTypeBitfield, dataTypeArray, dataTypeStruct]

/-- The size that a definition announces; 0 if it is not known. -/
def announcedSize (definition : Json) : UInt64 :=
  match getDataTypeSize definition with
  | .ok size => size
  | .error _ => 0

theorem sizeGiven_eq (definition : Json) (s : SubscribedSignal) :
    sizeGiven definition s =
      if announcedSize definition = 0 then s.dataValueSize else announcedSize definition := by
  unfold sizeGiven announcedSize
  cases getDataTypeSize definition with
  | ok size => rfl
  | error why => rfl

/-- No other member of a definition has an influence on its size. -/
theorem getDataTypeSize_congr {definition' : Json} {size size' : UInt64}
    (hmembers : ∀ key ∈ sizeMembers, definition.find? key = definition'.find? key)
    (h : getDataTypeSize definition = .ok size) (h' : getDataTypeSize definition' = .ok size') :
    size = size' := by
  have hcount : dimensionCount definition = dimensionCount definition' := by
    unfold dimensionCount
    rw [hmembers metaDimensions (by decide)]
  have helement : elementSize definition = elementSize definition' :=
    elementSize_congr (isObject_of_getDataTypeSize h) (isObject_of_getDataTypeSize h')
      fun key hkey => hmembers key (List.mem_cons_of_mem _ hkey)
  rcases getDataTypeSize_cases h with ⟨hnone, rfl⟩ | ⟨count, element, hsome, hsize, rfl⟩
  · rcases getDataTypeSize_cases h' with ⟨-, rfl⟩ | ⟨count', element', hsome', -, -⟩
    · rfl
    · cases hnone.symm.trans (hcount.trans hsome')
  · rcases getDataTypeSize_cases h' with ⟨hnone', -⟩ | ⟨count', element', hsome', hsize', rfl⟩
    · cases hnone'.symm.trans (hcount.symm.trans hsome)
    · cases hsome'.symm.trans (hcount.symm.trans hsome)
      cases hsize'.symm.trans (helement.symm.trans hsize)
      rfl

theorem announcedSize_congr {definition' : Json}
    (hmembers : ∀ key ∈ sizeMembers, definition.find? key = definition'.find? key)
    (h : ∃ size, getDataTypeSize definition = .ok size)
    (h' : ∃ size, getDataTypeSize definition' = .ok size) :
    announcedSize definition = announcedSize definition' := by
  obtain ⟨size, hsize⟩ := h
  obtain ⟨size', hsize'⟩ := h'
  rw [announcedSize, announcedSize, hsize, hsize']
  exact getDataTypeSize_congr hmembers hsize hsize'

/-- A size that is known is the one of a data type. -/
theorem isSome_of_announcedSize (h : announcedSize definition ≠ 0) :
    (definition.find? metaDatatype).isSome := by
  unfold announcedSize at h
  cases hsize : getDataTypeSize definition with
  | error why =>
    rw [hsize] at h
    exact absurd rfl h
  | ok size =>
    rw [hsize] at h
    obtain ⟨dataType, hdatatype⟩ := find?_of_getDataTypeSize hsize h
    rw [hdatatype]
    rfl

/-! ### The data type -/

omit [JsonRuntime] in
/-- The sample type of a data type; one of a bit field is known from its base type. -/
def sampleTypeNamed (dataType : String) (base : Option Json) : Option SampleType :=
  match scalarSampleType dataType with
  | some type => some type
  | none =>
      if dataType = dataTypeBitfield then
        match base with
        | some (.string base) =>
            if base = dataTypeUint32 then some .bitfield32
            else if base = dataTypeUint64 then some .bitfield64
            else none
        | _ => none
      else if dataType = dataTypeArray then some .array
      else if dataType = dataTypeStruct then some .struct
      else none

omit [JsonRuntime] in
theorem sampleTypeNamed_of_ne {dataType : String} (h : dataType ≠ dataTypeBitfield)
    (base base' : Option Json) :
    sampleTypeNamed dataType base = sampleTypeNamed dataType base' := by
  unfold sampleTypeNamed
  cases scalarSampleType dataType with
  | some type => rfl
  | none => simp only [if_neg h]

omit [JsonRuntime] in
theorem sampleTypeNamed_bitfield_iff {base : Option Json} {type : SampleType} :
    sampleTypeNamed dataTypeBitfield base = some type ↔
      base = some (.string dataTypeUint32) ∧ type = .bitfield32 ∨
        base = some (.string dataTypeUint64) ∧ type = .bitfield64 := by
  have hscalar : scalarSampleType dataTypeBitfield = none := by decide
  constructor
  · intro h
    unfold sampleTypeNamed at h
    rw [hscalar] at h
    dsimp only at h
    rw [if_pos rfl] at h
    split at h
    · split_ifs at h with h32 h64
      · cases h
        exact .inl ⟨by rw [h32], rfl⟩
      · cases h
        exact .inr ⟨by rw [h64], rfl⟩
    · cases h
  · rintro (⟨rfl, rfl⟩ | ⟨rfl, rfl⟩)
    · decide
    · decide

omit [JsonRuntime] in
/-- Bit fields of the same sample type have the same base type. -/
theorem sampleTypeNamed_bitfield_inj {base base' : Option Json} {type type' : SampleType}
    (h : sampleTypeNamed dataTypeBitfield base = some type)
    (h' : sampleTypeNamed dataTypeBitfield base' = some type') :
    type = type' ↔ base = base' := by
  obtain ⟨rfl, rfl⟩ | ⟨rfl, rfl⟩ := sampleTypeNamed_bitfield_iff.mp h <;>
    obtain ⟨rfl, rfl⟩ | ⟨rfl, rfl⟩ := sampleTypeNamed_bitfield_iff.mp h' <;> simp
  · decide
  · decide

omit [JsonRuntime] in
/-- The data type of an accepted definition. -/
theorem exists_of_datatypeVerdict (h : datatypeVerdict definition = none) {node : Json}
    (hnode : definition.find? metaDatatype = some node) :
    ∃ dataType type, node = .string dataType ∧ announcedType definition = some type ∧
      sampleTypeNamed dataType (definition.nested dataTypeBitfield metaDatatype) = some type := by
  unfold datatypeVerdict at h
  unfold announcedType
  rw [hnode] at h ⊢
  cases node with
  | string dataType =>
    dsimp only at h ⊢
    unfold sampleTypeNamed
    cases hscalar : scalarSampleType dataType with
    | some type => exact ⟨dataType, type, rfl, rfl, by rw [hscalar]⟩
    | none =>
      rw [hscalar, Option.isSome_none, if_neg Bool.false_ne_true] at h
      by_cases hbit : dataType = dataTypeBitfield
      · rw [if_pos hbit] at h
        cases hdetails : definition.find? dataTypeBitfield with
        | none =>
          rw [hdetails] at h
          cases h
        | some details =>
          rw [hdetails] at h
          dsimp only at h
          split at h
          · cases h
          · next bits hbits =>
            rw [Json.find?_of_index hbits (by decide : metaDatatype ≠ metaBits)] at h
            cases hbase : details.find? metaDatatype with
            | none =>
              rw [hbase] at h
              cases h
            | some base =>
              rw [hbase] at h
              cases base with
              | string base =>
                have hname : base = dataTypeUint32 ∨ base = dataTypeUint64 := by
                  unfold refuseUnless at h
                  dsimp only at h
                  split_ifs at h with hname
                  exact of_decide_eq_true hname
                rw [Json.nested, hdetails, Option.bind_some, hbase, hbit]
                obtain rfl | rfl := hname
                · exact ⟨_, .bitfield32, rfl, rfl, by decide⟩
                · exact ⟨_, .bitfield64, rfl, rfl, by decide⟩
              | _ => cases h
      · rw [if_neg hbit] at h
        by_cases harray : dataType = dataTypeArray
        · rw [if_pos (.inl harray), harray] at h
          split at h
          · cases h
          · next details hdetails =>
            rw [harray, hdetails]
            exact ⟨_, .array, rfl, rfl, rfl⟩
        · by_cases hstruct : dataType = dataTypeStruct
          · rw [if_pos (.inr hstruct), hstruct] at h
            split at h
            · cases h
            · next details hdetails =>
              rw [hstruct, hdetails]
              exact ⟨_, .struct, rfl, rfl, rfl⟩
          · rw [if_neg (not_or.mpr ⟨harray, hstruct⟩)] at h
            cases h
  | _ => cases h

/-! ### The resolution -/

/-- A number in the resolution of a definition. -/
def resolutionNumber (key : String) (definition : Json) : Option UInt64 :=
  (definition.nested metaResolution key).bind fun node => node.getUInt64.toOption

omit [JsonRuntime] in
/-- A resolution after two numbers, which are taken over if none of them is 0. -/
def resolutionOf (numerator denominator : Option UInt64) (r : Resolution) : Resolution :=
  if numerator = some 0 ∨ denominator = some 0 then r
  else ⟨numerator.getD r.numerator, denominator.getD r.denominator⟩

omit [JsonRuntime] in
/-- The frequency of a time base after two numbers of its resolution. -/
def frequencyOf (numerator denominator : Option UInt64) (r : Resolution) (frequency : UInt64) :
    UInt64 :=
  if numerator = some 0 ∨ denominator = some 0 then frequency
  else if numerator.isSome ∨ denominator.isSome then
    denominator.getD r.denominator / numerator.getD r.numerator
  else frequency

/-- A resolution that can be parsed is read number by number. The denominator is not looked at if
the numerator is 0. -/
theorem resolution_parse_eq {r : Resolution} {parsed : Resolution × Int}
    (h : r.parse definition = .ok parsed) :
    Readable Json.getUInt64 (definition.nested metaResolution metaNumerator) ∧
      (resolutionNumber metaNumerator definition ≠ some 0 →
        Readable Json.getUInt64 (definition.nested metaResolution metaDenominator)) ∧
      parsed.1 = resolutionOf (resolutionNumber metaNumerator definition)
        (resolutionNumber metaDenominator definition) r ∧
      ∀ frequency : UInt64,
        (if parsed.2 = 1 then parsed.1.denominator / parsed.1.numerator else frequency) =
          frequencyOf (resolutionNumber metaNumerator definition)
            (resolutionNumber metaDenominator definition) r frequency := by
  have hmember {key : String} {node : Json} {old : UInt64} {read : UInt64 × Bool}
      (h : Resolution.member key node old = .ok read) :
      Readable Json.getUInt64 (node.find? key) ∧
        ∃ number : Option UInt64, (node.find? key).bind (fun node => node.getUInt64.toOption) =
          number ∧ read = (number.getD old, number.isSome) := by
    unfold Resolution.member at h
    cases hvalue : node.find? key with
    | none =>
      rw [hvalue] at h
      cases h
      exact ⟨nofun, none, rfl, rfl⟩
    | some value =>
      rw [hvalue] at h
      obtain ⟨x, hx, h⟩ := Json.bind_eq_ok.mp h
      cases h
      refine ⟨readable_uInt64 fun node hnode => ⟨x, Option.some.inj hnode ▸ hx⟩, some x, ?_, rfl⟩
      rw [Option.bind_some, hx]
      rfl
  unfold Resolution.parse at h
  unfold resolutionNumber Json.nested
  cases hnode : definition.find? metaResolution with
  | none =>
    rw [hnode] at h
    cases h
    exact ⟨nofun, fun _ => nofun, rfl, fun frequency => rfl⟩
  | some node =>
    rw [hnode] at h
    obtain ⟨⟨numerator, numeratorGiven⟩, hread, h⟩ := Json.bind_eq_ok.mp h
    obtain ⟨hnumerator, n, hn, hpair⟩ := hmember hread
    cases hpair
    rw [Option.bind_some, Option.bind_some, hn]
    refine ⟨hnumerator, ?_⟩
    dsimp only at h
    by_cases hzero : n = some 0
    · subst hzero
      cases h
      exact ⟨fun hne => absurd rfl hne, rfl, fun frequency => rfl⟩
    · have hgiven {number : Option UInt64} (old : UInt64) :
          number.isSome ∧ number.getD old = 0 ↔ number = some 0 := by
        cases number <;> simp
      rw [if_neg (mt (hgiven _).mp hzero)] at h
      obtain ⟨⟨denominator, denominatorGiven⟩, hread, h⟩ := Json.bind_eq_ok.mp h
      obtain ⟨hdenominator, m, hm, hpair⟩ := hmember hread
      cases hpair
      rw [hm]
      refine ⟨fun _ => hdenominator, ?_⟩
      dsimp only at h
      unfold resolutionOf frequencyOf
      by_cases hzero' : m = some 0
      · subst hzero'
        cases h
        exact ⟨(if_pos (.inr rfl)).symm, fun frequency => (if_pos (.inr rfl)).symm⟩
      · have hnone : ¬(n = some 0 ∨ m = some 0) := not_or.mpr ⟨hzero, hzero'⟩
        rw [if_neg (mt (hgiven _).mp hzero')] at h
        cases h
        rw [if_neg hnone]
        refine ⟨rfl, fun frequency => ?_⟩
        rw [if_neg hnone]
        dsimp only
        by_cases hgivens : n.isSome ∨ m.isSome
        · simp only [if_pos hgivens, if_true]
        · simp only [if_neg hgivens, zero_ne_one, if_false]

theorem resolutionGiven_eq (h : ∃ parsed, s.resolution.parse definition = .ok parsed) :
    resolutionGiven definition s = resolutionOf (resolutionNumber metaNumerator definition)
      (resolutionNumber metaDenominator definition) s.resolution := by
  obtain ⟨parsed, hparsed⟩ := h
  obtain ⟨-, -, hresolution, -⟩ := resolution_parse_eq hparsed
  rw [resolutionGiven, hparsed]
  exact hresolution

theorem frequencyGiven_eq (h : ∃ parsed, s.resolution.parse definition = .ok parsed) :
    frequencyGiven definition s = frequencyOf (resolutionNumber metaNumerator definition)
      (resolutionNumber metaDenominator definition) s.resolution s.timeBaseFrequency := by
  obtain ⟨parsed, hparsed⟩ := h
  obtain ⟨-, -, -, hfrequency⟩ := resolution_parse_eq hparsed
  rw [frequencyGiven, hparsed]
  exact hfrequency s.timeBaseFrequency

end Accepted

end SubscribedSignal

end StreamingProtocol
