import StreamingProtocol.Foundation.Footprint
import StreamingProtocol.Presentation.SubscribedSignal

/-!
# The parts of a signal that a description sets

A description of a signal sets twelve parts of its state, one after the other. No two of them share
a variable: the delta, the start value and the kind of the rule are one part, because the kind is
checked against the delta, and so are the unit and the resolution. Each part is set from the
description and its own old value, so the description can be judged on the state before it.

## Main definitions

* `Member`, `signalParts`: the parts.
* `SubscribedSignal.statement`: what a description does about a part.

## Main results

* `SubscribedSignal.processSignal_eq_sequence`, `SubscribedSignal.local_statement`.
* `SubscribedSignal.why?_processSignal`, `SubscribedSignal.view_processSignal`.
-/

namespace StreamingProtocol

open SubscribedSignal

/-- The parts of the state of a signal. A description does not set the last one. -/
inductive Member where
  | tableId
  | valueIndex
  | interpretation
  | rule
  | dataValueSize
  | memberName
  | datatype
  | unit
  | absoluteReference
  | range
  | postScaling
  | relatedSignals
  | identity
deriving DecidableEq, Repr

/-- The values of each part. -/
def Member.Value : Member → Type
  | .tableId => String
  | .valueIndex => UInt64
  | .interpretation => Json
  | .rule => RuleType × UInt64 × Json × Json
  | .dataValueSize => UInt64
  | .memberName => String
  | .datatype => SampleType × Json × Json
  | .unit => SignalUnit × Bool × Resolution × UInt64
  | .absoluteReference => String
  | .range => Range
  | .postScaling => PostScaling
  | .relatedSignals => RelatedSignals
  | .identity => SignalNumber × String × Option SignalNumber × UInt64

/-- The value of a part. -/
def Member.view : (m : Member) → SubscribedSignal → m.Value
  | .tableId, s => s.tableId
  | .valueIndex, s => s.linearValueIndex
  | .interpretation, s => s.interpretationObject
  | .rule, s => (s.ruleType, s.linearDelta, s.linearDeltaJson, s.constRuleStartJson)
  | .dataValueSize, s => s.dataValueSize
  | .memberName, s => s.memberName
  | .datatype, s => (s.dataValueType, s.datatypeDetails, s.bitsInterpretationObject)
  | .unit, s => (s.unit, s.isTimeSignal, s.resolution, s.timeBaseFrequency)
  | .absoluteReference, s => s.timeBaseEpochAsString
  | .range, s => s.range
  | .postScaling, s => s.postScaling
  | .relatedSignals, s => s.relatedSignals
  | .identity, s => (s.signalNumber, s.signalId, s.timeSignal, s.time)

/-- The parts determine the state of a signal. -/
def signalParts : Parts Member SubscribedSignal where
  carrier := Member.Value
  view := Member.view
  ext {s t} h := by
    have hrule := h .rule
    have hdatatype := h .datatype
    have hunit := h .unit
    have hidentity := h .identity
    simp only [Member.view, Member.Value, Prod.mk.injEq] at hrule hdatatype hunit hidentity
    obtain ⟨hrule, hdelta, hdeltaJson, hstart⟩ := hrule
    obtain ⟨htype, hdetails, hbits⟩ := hdatatype
    obtain ⟨hunit, htime, hresolution, hfrequency⟩ := hunit
    obtain ⟨hnumber, hid, htimeSignal, htimeStamp⟩ := hidentity
    have htable : s.tableId = t.tableId := h .tableId
    have hindex : s.linearValueIndex = t.linearValueIndex := h .valueIndex
    have hinterpretation : s.interpretationObject = t.interpretationObject := h .interpretation
    have hsize : s.dataValueSize = t.dataValueSize := h .dataValueSize
    have hname : s.memberName = t.memberName := h .memberName
    have hepoch : s.timeBaseEpochAsString = t.timeBaseEpochAsString := h .absoluteReference
    have hrange : s.range = t.range := h .range
    have hscaling : s.postScaling = t.postScaling := h .postScaling
    have hrelated : s.relatedSignals = t.relatedSignals := h .relatedSignals
    cases s
    cases t
    simp_all

section Views

variable {s t : SubscribedSignal}

theorem view_rule_eq_iff : signalParts.view .rule s = signalParts.view .rule t ↔
    s.ruleType = t.ruleType ∧ s.linearDelta = t.linearDelta ∧
      s.linearDeltaJson = t.linearDeltaJson ∧ s.constRuleStartJson = t.constRuleStartJson := by
  change (_, _, _, _) = (_, _, _, _) ↔ _
  rw [Prod.mk.injEq, Prod.mk.injEq, Prod.mk.injEq]

theorem view_datatype_eq_iff : signalParts.view .datatype s = signalParts.view .datatype t ↔
    s.dataValueType = t.dataValueType ∧ s.datatypeDetails = t.datatypeDetails ∧
      s.bitsInterpretationObject = t.bitsInterpretationObject := by
  change (_, _, _) = (_, _, _) ↔ _
  rw [Prod.mk.injEq, Prod.mk.injEq]

theorem view_unit_eq_iff : signalParts.view .unit s = signalParts.view .unit t ↔
    s.unit = t.unit ∧ s.isTimeSignal = t.isTimeSignal ∧ s.resolution = t.resolution ∧
      s.timeBaseFrequency = t.timeBaseFrequency := by
  change (_, _, _, _) = (_, _, _, _) ↔ _
  rw [Prod.mk.injEq, Prod.mk.injEq, Prod.mk.injEq]

end Views

/-- The parts that a description sets, in order. -/
def described : List Member :=
  [.tableId, .valueIndex, .interpretation, .rule, .dataValueSize, .memberName, .datatype, .unit,
    .absoluteReference, .range, .postScaling, .relatedSignals]

theorem nodup_described : described.Nodup := by decide

namespace SubscribedSignal

variable [JsonRuntime]

/-- A statement about the definition, if one is given. -/
def inDefinition (params : Json) (p : Json → SubscribedSignal → Completion SubscribedSignal)
    (s : SubscribedSignal) : Completion SubscribedSignal :=
  match params.find? metaDefinition with
  | none => .normal s
  | some definition => catchJson (p definition s)

/-- What a description does about a part. -/
def statement (params : Json) : Member → SubscribedSignal → Completion SubscribedSignal
  | .tableId => processTableId params
  | .valueIndex => processValueIndex params
  | .interpretation => processInterpretation params
  | .rule => inDefinition params fun definition =>
      .sequence [processLinear definition, processConstant definition, processRule definition]
  | .dataValueSize => inDefinition params processDataValueSize
  | .memberName => inDefinition params processMemberName
  | .datatype => inDefinition params processDatatype
  | .unit => inDefinition params fun definition =>
      .sequence [processUnit definition, processResolution definition]
  | .absoluteReference => inDefinition params processAbsoluteReference
  | .range => inDefinition params processRange
  | .postScaling => inDefinition params processPostScaling
  | .relatedSignals => inDefinition params fun _ => processRelatedSignals params
  | .identity => .normal

/-- A description is the sequence of what it does about each part. -/
theorem processSignal_eq_sequence (params : Json) (s : SubscribedSignal) :
    processSignal params s = .sequence (described.map (statement params)) s := by
  have hdefinition : processDefinition params = .sequence ([.rule, .dataValueSize, .memberName,
      .datatype, .unit, .absoluteReference, .range, .postScaling, .relatedSignals].map
        (statement params)) := by
    funext s
    cases h : params.find? metaDefinition with
    | none => simp [processDefinition, statement, inDefinition, h]
    | some definition =>
      have hgroups : definitionStatements params definition =
          List.flatten [[processLinear definition, processConstant definition,
            processRule definition], [processDataValueSize definition],
            [processMemberName definition], [processDatatype definition],
            [processUnit definition, processResolution definition],
            [processAbsoluteReference definition], [processRange definition],
            [processPostScaling definition], [processRelatedSignals params]] := rfl
      simp only [processDefinition, h, hgroups, Completion.sequence_flatten, catchJson,
        Completion.catching_sequence]
      simp only [List.map_cons, List.map_nil, Completion.sequence_singleton, statement]
      unfold inDefinition
      simp only [h, catchJson]
  have hflatten := Completion.sequence_flatten [[processTableId params],
    [processValueIndex params], [processInterpretation params], [.rule, .dataValueSize,
      .memberName, .datatype, .unit, .absoluteReference, .range, .postScaling,
      .relatedSignals].map (statement params)] s
  simp only [List.map_cons, List.map_nil, Completion.sequence_singleton] at hflatten
  rw [processSignal, hdefinition]
  exact hflatten.symm

/-! ### Each statement keeps to its part -/

omit [JsonRuntime] in
theorem local_assign {i : Member} {α : Type} (j : Json) (key : String)
    (get : Json → Except Abrupt α) {store : α → SubscribedSignal → SubscribedSignal}
    (h : ∀ a, signalParts.LocalMap i (store a)) : signalParts.Local i (j.assign key get store) := by
  unfold Json.assign
  cases j.find? key with
  | none => exact Parts.local_normal
  | some node => exact Parts.local_eval _ fun a => (h a).normal

omit [JsonRuntime] in
theorem local_focus {i : Member} {τ : Type} {get : SubscribedSignal → τ}
    {put : τ → SubscribedSignal → SubscribedSignal} (p : τ → Completion τ)
    (hget : ∀ {s t}, signalParts.view i s = signalParts.view i t → get s = get t)
    (hput : ∀ x, signalParts.LocalMap i (put x)) :
    signalParts.Local i (Completion.focus get put p) := by
  refine ⟨⟨fun s j hj => ?_⟩, fun {s t} hst => ?_, fun {s t} hst => ?_⟩
  · rw [Completion.state_focus, (hput _).writes s j hj]
  · rw [Completion.state_focus, Completion.state_focus, hget hst, (hput _).view_eq hst]
  · rw [Completion.why?_focus, Completion.why?_focus, hget hst]

omit [JsonRuntime] in
theorem local_inDefinition {i : Member} {params : Json}
    {p : Json → SubscribedSignal → Completion SubscribedSignal}
    (h : ∀ definition, signalParts.Local i (p definition)) :
    signalParts.Local i (inDefinition params p) := by
  unfold inDefinition
  cases params.find? metaDefinition with
  | none => exact Parts.local_normal
  | some definition => exact (h definition).catching _ _

theorem local_processTableId (params : Json) :
    signalParts.Local .tableId (processTableId params) := by
  have hstore (id : String) :
      signalParts.LocalMap .tableId fun s => { s with tableId := id } :=
    ⟨fun s j hj => by cases j <;> first | rfl | exact absurd rfl hj, fun _ => rfl⟩
  unfold processTableId
  cases params.find? metaTableid with
  | none => exact Parts.local_normal
  | some node =>
    exact Parts.local_ite
      (Parts.local_eval _ fun id => (hstore id).normal)
      (Parts.local_ite
        (Parts.local_eval _ fun id => (hstore id).normal) (Parts.local_abrupt _))

theorem local_processValueIndex (params : Json) :
    signalParts.Local .valueIndex (processValueIndex params) :=
  local_assign _ _ _ fun x =>
    ⟨fun s j hj => by cases j <;> first | rfl | exact absurd rfl hj, fun _ => rfl⟩

omit [JsonRuntime] in
theorem local_processInterpretation (params : Json) :
    signalParts.Local .interpretation (processInterpretation params) :=
  local_assign _ _ _ fun x =>
    ⟨fun s j hj => by cases j <;> first | rfl | exact absurd rfl hj, fun _ => rfl⟩

theorem local_processLinear (definition : Json) :
    signalParts.Local .rule (processLinear definition) := by
  have hjson (node : Json) :
      signalParts.LocalMap .rule fun s => { s with linearDeltaJson := node } :=
    ⟨fun s j hj => by cases j <;> first | rfl | exact absurd rfl hj, fun h => by
      rw [view_rule_eq_iff] at h ⊢
      simp [h]⟩
  have hdelta (x : UInt64) : signalParts.LocalMap .rule fun s => { s with linearDelta := x } :=
    ⟨fun s j hj => by cases j <;> first | rfl | exact absurd rfl hj, fun h => by
      rw [view_rule_eq_iff] at h ⊢
      simp [h]⟩
  unfold processLinear
  cases deltaNode definition with
  | none => exact Parts.local_normal
  | some node =>
    exact (hjson node).then (Parts.local_ite
      (Parts.local_eval _ fun x => (hdelta x).normal) (Parts.local_abrupt _))

omit [JsonRuntime] in
theorem local_processConstant (definition : Json) :
    signalParts.Local .rule (processConstant definition) := by
  have hjson (node : Json) :
      signalParts.LocalMap .rule fun s => { s with constRuleStartJson := node } :=
    ⟨fun s j hj => by cases j <;> first | rfl | exact absurd rfl hj, fun h => by
      rw [view_rule_eq_iff] at h ⊢
      simp [h]⟩
  unfold processConstant
  cases startNode definition with
  | none => exact Parts.local_normal
  | some node =>
    exact (hjson node).then (Parts.local_ite Parts.local_normal
      (Parts.local_abrupt _))

omit [JsonRuntime] in
theorem local_processRule (definition : Json) :
    signalParts.Local .rule (processRule definition) := by
  have htype (r : RuleType) : signalParts.LocalMap .rule fun s => { s with ruleType := r } :=
    ⟨fun s j hj => by cases j <;> first | rfl | exact absurd rfl hj, fun h => by
      rw [view_rule_eq_iff] at h ⊢
      simp [h]⟩
  have hdelta {s t : SubscribedSignal} (h : signalParts.view .rule s = signalParts.view .rule t) :
      s.linearDelta = 0 ↔ t.linearDelta = 0 := by
    rw [(view_rule_eq_iff.mp h).2.1]
  unfold processRule
  cases definition.find? metaRule with
  | none => exact Parts.local_normal
  | some node =>
    refine Parts.local_eval _ fun rule => Parts.local_ite
      (Parts.local_iteOf hdelta (Parts.local_abrupt _) (htype .linear).normal) ?_
    exact Parts.local_ite (htype .explicit).normal
      (Parts.local_ite (htype .constant).normal (Parts.local_abrupt _))

theorem local_processDataValueSize (definition : Json) :
    signalParts.Local .dataValueSize (processDataValueSize definition) := by
  refine Parts.local_eval _ fun size => Parts.LocalMap.normal ⟨fun s j hj => ?_,
    fun {s t} h => ?_⟩
  · split_ifs
    · cases j <;> first | rfl | exact absurd rfl hj
    · rfl
  · split_ifs
    · rfl
    · exact h

omit [JsonRuntime] in
theorem local_processMemberName (definition : Json) :
    signalParts.Local .memberName (processMemberName definition) :=
  local_assign _ _ _ fun x =>
    ⟨fun s j hj => by cases j <;> first | rfl | exact absurd rfl hj, fun _ => rfl⟩

omit [JsonRuntime] in
theorem local_processDatatype (definition : Json) :
    signalParts.Local .datatype (processDatatype definition) := by
  have htype (type : SampleType) :
      signalParts.LocalMap .datatype fun s => { s with dataValueType := type } :=
    ⟨fun s j hj => by cases j <;> first | rfl | exact absurd rfl hj, fun h => by
      rw [view_datatype_eq_iff] at h ⊢
      simp [h]⟩
  have hdetails (details : Json) :
      signalParts.LocalMap .datatype fun s => { s with datatypeDetails := details } :=
    ⟨fun s j hj => by cases j <;> first | rfl | exact absurd rfl hj, fun h => by
      rw [view_datatype_eq_iff] at h ⊢
      simp [h]⟩
  have hbits (details bits : Json) : signalParts.LocalMap .datatype fun s =>
      { s with datatypeDetails := details, bitsInterpretationObject := bits } :=
    ⟨fun s j hj => by cases j <;> first | rfl | exact absurd rfl hj, fun h => by
      rw [view_datatype_eq_iff] at h ⊢
      simp [h]⟩
  have htyped (details : Json) (type : SampleType) : signalParts.LocalMap .datatype fun s =>
      { s with datatypeDetails := details, dataValueType := type } :=
    ⟨fun s j hj => by cases j <;> first | rfl | exact absurd rfl hj, fun h => by
      rw [view_datatype_eq_iff] at h ⊢
      simp [h]⟩
  have hbase (node : Json) : signalParts.Local .datatype (processBitFieldType node) :=
    Parts.local_eval _ fun dataType => Parts.local_ite (htype _).normal
      (Parts.local_ite (htype _).normal (Parts.local_abrupt _))
  have hbitField : signalParts.Local .datatype (processBitField definition) :=
    Parts.local_eval _ fun details => (hdetails details).then <|
      Parts.local_eval _ fun bits => (hbits bits.1 bits.2).then <|
        Parts.local_eval _ fun base => (hdetails base.1).then (hbase base.2)
  unfold processDatatype
  cases definition.find? metaDatatype with
  | none => exact Parts.local_normal
  | some node =>
    refine Parts.local_eval _ fun dataType => ?_
    cases scalarSampleType dataType with
    | some type => exact (htype type).normal
    | none =>
      refine Parts.local_ite hbitField (Parts.local_ite ?_ (Parts.local_ite ?_ ?_))
      · exact Parts.local_eval _ fun details => (htyped details _).normal
      · exact Parts.local_eval _ fun details => (htyped details _).normal
      · exact Parts.local_abrupt _

theorem local_processUnit (definition : Json) :
    signalParts.Local .unit (processUnit definition) := by
  have hunit : signalParts.Local .unit (Completion.focus SubscribedSignal.unit
      (fun u s => { s with unit := u }) (SignalUnit.parse definition)) :=
    local_focus _ (fun h => (view_unit_eq_iff.mp h).1) fun u =>
      ⟨fun s j hj => by cases j <;> first | rfl | exact absurd rfl hj, fun h => by
        rw [view_unit_eq_iff] at h ⊢
        simp [h]⟩
  have htime : signalParts.LocalMap .unit fun s =>
      if s.unit.quantity = metaTime then { s with isTimeSignal := true } else s := by
    refine ⟨fun s j hj => ?_, fun {s t} h => ?_⟩
    · split_ifs
      · cases j <;> first | rfl | exact absurd rfl hj
      · rfl
    · have hparts := view_unit_eq_iff.mp h
      have hquantity : s.unit.quantity = metaTime ↔ t.unit.quantity = metaTime := by
        rw [hparts.1]
      by_cases ht : t.unit.quantity = metaTime
      · rw [if_pos (hquantity.mpr ht), if_pos ht]
        exact view_unit_eq_iff.mpr ⟨hparts.1, rfl, hparts.2.2⟩
      · rw [if_neg (mt hquantity.mp ht), if_neg ht]
        exact h
  exact hunit.andThen htime.normal

theorem local_processResolution (definition : Json) :
    signalParts.Local .unit (processResolution definition) := by
  have hresolution (r : Resolution) :
      signalParts.LocalMap .unit fun s => { s with resolution := r } :=
    ⟨fun s j hj => by cases j <;> first | rfl | exact absurd rfl hj, fun h => by
      rw [view_unit_eq_iff] at h ⊢
      simp [h]⟩
  have hfrequency : signalParts.LocalMap .unit fun s =>
      { s with timeBaseFrequency := s.resolution.denominator / s.resolution.numerator } :=
    ⟨fun s j hj => by cases j <;> first | rfl | exact absurd rfl hj, fun h => by
      rw [view_unit_eq_iff] at h ⊢
      simp [h]⟩
  have hbase : signalParts.Local .unit processTimeBaseFrequency :=
    Parts.local_iteOf (fun h => by rw [(view_unit_eq_iff.mp h).1])
      (Parts.local_iteOf (fun h => by rw [(view_unit_eq_iff.mp h).2.2.1]) (Parts.local_abrupt _)
        hfrequency.normal)
      (Parts.local_abrupt _)
  exact Parts.local_evalOf (fun h => by rw [(view_unit_eq_iff.mp h).2.2.1]) fun parsed =>
    Parts.local_ite ((hresolution parsed.1).then hbase) (hresolution parsed.1).normal

omit [JsonRuntime] in
theorem local_processAbsoluteReference (definition : Json) :
    signalParts.Local .absoluteReference (processAbsoluteReference definition) :=
  local_assign _ _ _ fun x =>
    ⟨fun s j hj => by cases j <;> first | rfl | exact absurd rfl hj, fun _ => rfl⟩

theorem local_processRange (definition : Json) :
    signalParts.Local .range (processRange definition) :=
  local_focus _ (fun h => h) fun r =>
    ⟨fun s j hj => by cases j <;> first | rfl | exact absurd rfl hj, fun _ => rfl⟩

theorem local_processPostScaling (definition : Json) :
    signalParts.Local .postScaling (processPostScaling definition) :=
  local_focus _ (fun h => h) fun p =>
    ⟨fun s j hj => by cases j <;> first | rfl | exact absurd rfl hj, fun _ => rfl⟩

omit [JsonRuntime] in
theorem local_processRelatedSignals (params : Json) :
    signalParts.Local .relatedSignals (processRelatedSignals params) := by
  have hclear : signalParts.LocalMap .relatedSignals fun s => { s with relatedSignals := [] } :=
    ⟨fun s j hj => by cases j <;> first | rfl | exact absurd rfl hj, fun _ => rfl⟩
  have hset (type signalId : String) : signalParts.LocalMap .relatedSignals fun s =>
      { s with relatedSignals := s.relatedSignals.set type signalId } :=
    ⟨fun s j hj => by cases j <;> first | rfl | exact absurd rfl hj,
      fun h => congrArg (Members.set type signalId) h⟩
  have hitem (item : Json) : signalParts.Local .relatedSignals (processRelatedSignal item) :=
    Parts.local_eval _ fun _ => Parts.local_eval _ fun type => Parts.local_eval _ fun _ =>
      Parts.local_eval _ fun signalId => (hset type signalId).normal
  unfold processRelatedSignals
  cases params.find? metaRelatedsignals with
  | none => exact Parts.local_normal
  | some node =>
    cases node with
    | array items =>
      refine hclear.then (Parts.local_sequence _ fun p hp => ?_)
      obtain ⟨item, -, rfl⟩ := List.mem_map.mp hp
      exact hitem item
    | _ => exact hclear.normal

/-- What a description does about a part reads and writes this part only. -/
theorem local_statement (params : Json) :
    (m : Member) → signalParts.Local m (statement params m)
  | .tableId => local_processTableId params
  | .valueIndex => local_processValueIndex params
  | .interpretation => local_processInterpretation params
  | .rule => local_inDefinition fun definition => Parts.local_sequence _ <| by
      simp [local_processLinear, local_processConstant, local_processRule]
  | .dataValueSize => local_inDefinition local_processDataValueSize
  | .memberName => local_inDefinition local_processMemberName
  | .datatype => local_inDefinition local_processDatatype
  | .unit => local_inDefinition fun definition => Parts.local_sequence _ <| by
      simp [local_processUnit, local_processResolution]
  | .absoluteReference => local_inDefinition local_processAbsoluteReference
  | .range => local_inDefinition local_processRange
  | .postScaling => local_inDefinition local_processPostScaling
  | .relatedSignals => local_inDefinition fun _ => local_processRelatedSignals params
  | .identity => Parts.local_normal

/-! ### Descriptions -/

/-- A description ends with the first of its parts that stops, judged on the state before it. -/
theorem why?_processSignal (params : Json) (s : SubscribedSignal) :
    (processSignal params s).why? =
      described.findSome? fun m => (statement params m s).why? := by
  rw [processSignal_eq_sequence]
  exact Parts.why?_sequence _ nodup_described (fun m _ => local_statement params m) fun _ _ => rfl

/-- The parts that a description sets before a part. -/
def before (m : Member) : List Member := described.takeWhile (· ≠ m)

/-- What a description makes of each part, judged on the state before it. -/
theorem view_processSignal (params : Json) (s : SubscribedSignal) {m : Member}
    (hm : m ∈ described) :
    m.view (processSignal params s).state =
      if ∀ i ∈ before m, (statement params i s).why? = none then
        m.view (statement params m s).state
      else m.view s := by
  have hsplit : ∀ i ∈ described,
      described = before i ++ i :: (described.dropWhile (· ≠ i)).tail := by decide
  obtain ⟨post, hpost⟩ : ∃ post, described = before m ++ m :: post := ⟨_, hsplit m hm⟩
  rw [processSignal_eq_sequence, hpost]
  exact Parts.view_sequence _ (hpost ▸ nodup_described) (fun i _ => local_statement params i)
    fun _ _ => rfl

/-- A description does not change what it does not describe. -/
theorem view_processSignal_identity (params : Json) (s : SubscribedSignal) :
    Member.identity.view (processSignal params s).state = Member.identity.view s := by
  rw [processSignal_eq_sequence]
  have hidentity : Member.identity ∉ described := by decide
  exact Parts.view_sequence_of_notMem _ (fun m _ => (local_statement params m).toWrites) hidentity s

/-- A description leaves a signal alone if and only if each of its parts does up to the first that
stops. -/
theorem state_processSignal_eq_iff (params : Json) (s : SubscribedSignal) :
    (processSignal params s).state = s ↔
      UpToStop (fun m => (statement params m s).why? ≠ none)
        (fun m => (statement params m s).state = s) described := by
  rw [processSignal_eq_sequence]
  exact Parts.state_sequence_eq_iff _ nodup_described
    (fun m _ => (local_statement params m).toWrites) s

end SubscribedSignal

end StreamingProtocol
