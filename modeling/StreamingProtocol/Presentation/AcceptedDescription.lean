import StreamingProtocol.Presentation.AnnouncedSize
import StreamingProtocol.Presentation.AnnouncedTable

/-!
# What an accepted description makes of a signal

A description of which no part is refused sets each variable of the signal to what the description
says about it, and keeps a variable of which it says nothing.

## Main definitions

* `SubscribedSignal.describedBy`: the signal after a description that is accepted.

## Main results

* `SubscribedSignal.processSignal_eq_normal_iff`.
-/

namespace StreamingProtocol

namespace SubscribedSignal

variable [JsonRuntime]

/-! ### The state after a description -/

/-- The rule in a definition. -/
def ruleGiven (definition : Json) (s : SubscribedSignal) : RuleType :=
  match definition.find? metaRule with
  | some (.string rule) => (ruleNamed rule (deltaInForce definition s)).getD s.ruleType
  | _ => s.ruleType

/-- The size of the values in a definition, if it is known. -/
def sizeGiven (definition : Json) (s : SubscribedSignal) : UInt64 :=
  match getDataTypeSize definition with
  | .ok size => if size = 0 then s.dataValueSize else size
  | .error _ => s.dataValueSize

/-- The resolution in a definition. -/
def resolutionGiven (definition : Json) (s : SubscribedSignal) : Resolution :=
  match s.resolution.parse definition with
  | .ok (r, _) => r
  | .error _ => s.resolution

/-- The frequency of the time base, which is computed if a resolution is given. -/
def frequencyGiven (definition : Json) (s : SubscribedSignal) : UInt64 :=
  match s.resolution.parse definition with
  | .ok (r, result) => if result = 1 then r.denominator / r.numerator else s.timeBaseFrequency
  | .error _ => s.timeBaseFrequency

omit [JsonRuntime] in
/-- The related signals, which are replaced if any are given. -/
def relatedGiven (params : Json) (s : SubscribedSignal) : RelatedSignals :=
  match params.find? metaRelatedsignals with
  | none => s.relatedSignals
  | some node => announcedRelatedSignals node

/-- A signal after an accepted definition. -/
def definedBy (params definition : Json) (s : SubscribedSignal) : SubscribedSignal :=
  let unit := (SignalUnit.parse definition s.unit).state
  let datatype := (processDatatype definition s).state
  { s with
    linearDeltaJson := (deltaNode definition).getD s.linearDeltaJson
    linearDelta := deltaInForce definition s
    constRuleStartJson := (startNode definition).getD s.constRuleStartJson
    ruleType := ruleGiven definition s
    dataValueSize := sizeGiven definition s
    memberName := definition.read Json.getString metaName s.memberName
    dataValueType := (announcedType definition).getD s.dataValueType
    datatypeDetails := datatype.datatypeDetails
    bitsInterpretationObject := datatype.bitsInterpretationObject
    unit := unit
    isTimeSignal := s.isTimeSignal || unit.quantity = metaTime
    resolution := resolutionGiven definition s
    timeBaseFrequency := frequencyGiven definition s
    timeBaseEpochAsString :=
      definition.read Json.getString metaAbsoluteReference s.timeBaseEpochAsString
    range := (Range.parse definition s.range).state
    postScaling := (PostScaling.parse definition s.postScaling).state
    relatedSignals := relatedGiven params s }

/-- A signal after an accepted description. -/
def describedBy (params : Json) (s : SubscribedSignal) : SubscribedSignal :=
  { (params.find? metaDefinition).elim s (s.definedBy params) with
    tableId := tableNamed params s
    linearValueIndex := params.read Json.getUInt64 metaValueindex s.linearValueIndex
    interpretationObject := params.read .ok metaInterpretation s.interpretationObject }

/-! ### Each statement -/

section Statements

variable {params definition : Json} {s s' : SubscribedSignal}

open Completion

omit [JsonRuntime] in
theorem assign_eq_normal {α σ : Type} {j : Json} {key : String} {get : Json → Except Abrupt α}
    {store : α → σ → σ} {s s' : σ} (h : j.assign key get store s = .normal s') {current : α}
    (hcurrent : store current s = s) : s' = store (j.read get key current) s := by
  unfold Json.assign at h
  unfold Json.read
  cases hnode : j.find? key with
  | none =>
    rw [hnode] at h
    cases h
    exact hcurrent.symm
  | some node =>
    simp only [hnode] at h ⊢
    obtain ⟨a, ha, h⟩ := eval_eq_normal.mp h
    cases h
    rw [ha]

theorem processTableId_eq_normal (h : processTableId params s = .normal s') :
    s' = { s with tableId := tableNamed params s } := by
  obtain hnormal | ⟨-, habrupt⟩ := processTableId_cases params s
  · cases h.symm.trans hnormal
    rfl
  · cases h.symm.trans habrupt

theorem processLinear_eq_normal (h : processLinear definition s = .normal s') :
    s' = { s with
      linearDeltaJson := (deltaNode definition).getD s.linearDeltaJson
      linearDelta := deltaInForce definition s } := by
  unfold processLinear at h
  unfold deltaInForce
  cases hnode : deltaNode definition with
  | none =>
    rw [hnode] at h
    cases h
    rfl
  | some node =>
    simp only [hnode] at h ⊢
    split_ifs at h
    obtain ⟨x, hx, h⟩ := eval_eq_normal.mp h
    cases h
    rw [hx]
    rfl

omit [JsonRuntime] in
theorem processConstant_eq_normal (h : processConstant definition s = .normal s') :
    s' = { s with
      constRuleStartJson := (startNode definition).getD s.constRuleStartJson } := by
  unfold processConstant at h
  cases hnode : startNode definition with
  | none =>
    rw [hnode] at h
    cases h
    rfl
  | some node =>
    simp only [hnode] at h
    split_ifs at h
    cases h
    rfl

omit [JsonRuntime] in
theorem processRule_eq_normal (h : processRule definition s = .normal s') :
    s' = { s with ruleType := match definition.find? metaRule with
      | some (.string rule) => (ruleNamed rule s.linearDelta).getD s.ruleType
      | _ => s.ruleType } := by
  rw [processRule_eq] at h
  cases hnode : definition.find? metaRule with
  | none =>
    rw [hnode] at h
    cases h
    rfl
  | some node =>
    cases node with
    | string rule =>
      simp only [hnode] at h
      cases hrule : ruleNamed rule s.linearDelta with
      | none =>
        rw [hrule] at h
        cases h
      | some r =>
        rw [hrule] at h
        cases h
        simp only [hrule]
        rfl
    | _ =>
      rw [hnode] at h
      cases h

theorem processDataValueSize_eq_normal (h : processDataValueSize definition s = .normal s') :
    s' = { s with dataValueSize := sizeGiven definition s } := by
  obtain ⟨size, hsize, h⟩ := eval_eq_normal.mp h
  cases h
  unfold sizeGiven
  rw [hsize]
  by_cases hzero : size = 0 <;> simp [hzero]

theorem processUnit_eq_normal (h : processUnit definition s = .normal s') :
    s' = { s with
      unit := (SignalUnit.parse definition s.unit).state
      isTimeSignal := s.isTimeSignal ||
        (SignalUnit.parse definition s.unit).state.quantity = metaTime } := by
  obtain ⟨t, ht, h⟩ := andThen_eq_normal.mp h
  cases h
  unfold Completion.focus at ht
  cases hparse : SignalUnit.parse definition s.unit with
  | abrupt why u =>
    rw [hparse] at ht
    cases ht
  | normal u =>
    rw [hparse] at ht
    cases ht
    by_cases htime : u.quantity = metaTime <;> simp [htime]

theorem processResolution_eq_normal (h : processResolution definition s = .normal s') :
    s' = { s with
      resolution := resolutionGiven definition s
      timeBaseFrequency := frequencyGiven definition s } := by
  obtain ⟨⟨r, result⟩, hparse, h⟩ := eval_eq_normal.mp h
  unfold resolutionGiven frequencyGiven
  rw [hparse]
  dsimp only at h ⊢
  split_ifs at h ⊢ with hresult
  · unfold processTimeBaseFrequency at h
    split_ifs at h
    cases h
    rfl
  · cases h
    rfl

omit [JsonRuntime] in
theorem focus_eq_normal {τ : Type} {get : SubscribedSignal → τ}
    {put : τ → SubscribedSignal → SubscribedSignal} {p : τ → Completion τ}
    (h : Completion.focus get put p s = .normal s') : s' = put (p (get s)).state s := by
  rw [← Completion.state_focus get put p s, h]
  rfl

omit [JsonRuntime] in
theorem processDatatype_eq_normal (h : processDatatype definition s = .normal s') :
    s' = { s with
      dataValueType := (announcedType definition).getD s.dataValueType
      datatypeDetails := (processDatatype definition s).state.datatypeDetails
      bitsInterpretationObject :=
        (processDatatype definition s).state.bitsInterpretationObject } := by
  have hwrites := (local_processDatatype definition).writes s
  have htype := dataValueType_processDatatype definition s
  rw [h, Completion.state_normal] at hwrites htype
  rw [h, Completion.state_normal]
  refine signalParts.ext fun m => ?_
  by_cases hm : m = .datatype
  · subst hm
    exact view_datatype_eq_iff.mpr ⟨htype, rfl, rfl⟩
  · rw [hwrites m hm]
    cases m <;> first | rfl | exact absurd rfl hm

omit [JsonRuntime] in
theorem processRelatedSignals_eq_normal (h : processRelatedSignals params s = .normal s') :
    s' = { s with relatedSignals := relatedGiven params s } := by
  unfold processRelatedSignals at h
  unfold relatedGiven
  cases hnode : params.find? metaRelatedsignals with
  | none =>
    rw [hnode] at h
    cases h
    rfl
  | some node =>
    rw [hnode] at h
    cases node with
    | array items =>
      have hstate := (sequence_processRelatedSignal items { s with relatedSignals := [] }).1
      dsimp only at h
      rw [h] at hstate
      exact hstate
    | _ =>
      cases h
      rfl

end Statements

/-! ### Descriptions -/

variable {params definition : Json} {s s' : SubscribedSignal}

open Completion

omit [JsonRuntime] in
theorem eq_normal_of_catchJson {c : Completion SubscribedSignal}
    (h : catchJson c = .normal s') : c = .normal s' := by
  have hstate := state_catchJson c
  have hwhy := why?_catchJson c
  rw [h] at hstate hwhy
  cases c with
  | normal s => exact congrArg Completion.normal hstate.symm
  | abrupt why s => cases hwhy

/-- The statement about a part of an accepted description completes, and decides the part. -/
theorem exists_statement_of_normal (h : processSignal params s = .normal s') {m : Member}
    (hm : m ∈ described) :
    ∃ t, statement params m s = .normal t ∧ signalParts.view m s' = signalParts.view m t := by
  have haccepts := accepts_of_normal h
  have hwhy : (statement params m s).why? = none := by
    rw [why?_statement]
    exact haccepts m hm
  have hreaches : Reaches params s m := fun i hi => haccepts i (List.takeWhile_subset _ hi)
  have hview := view_processSignal_eq params s hm
  rw [h, if_pos hreaches] at hview
  exact ⟨_, eq_normal_of_why? hwhy, hview⟩

omit [JsonRuntime] in
/-- A statement about a definition that is given. -/
theorem eq_normal_of_inDefinition {p : Json → SubscribedSignal → Completion SubscribedSignal}
    (hdefinition : params.find? metaDefinition = some definition)
    (h : inDefinition params p s = .normal s') : p definition s = .normal s' := by
  unfold inDefinition at h
  rw [hdefinition] at h
  exact eq_normal_of_catchJson h

/-- The parts of an accepted description that are in the definition. -/
theorem view_definedBy (h : processSignal params s = .normal s')
    (hdefinition : params.find? metaDefinition = some definition) {m : Member} (hm : m ∈ described)
    (hparams : m ≠ .tableId ∧ m ≠ .valueIndex ∧ m ≠ .interpretation) :
    signalParts.view m s' = signalParts.view m (s.definedBy params definition) := by
  obtain ⟨t, ht, hview⟩ := exists_statement_of_normal h hm
  rw [hview]
  cases m with
  | tableId => exact absurd rfl hparams.1
  | valueIndex => exact absurd rfl hparams.2.1
  | interpretation => exact absurd rfl hparams.2.2
  | rule =>
    obtain ⟨t₁, h₁, h⟩ := andThen_eq_normal.mp (eq_normal_of_inDefinition hdefinition ht)
    obtain ⟨t₂, h₂, h⟩ := andThen_eq_normal.mp h
    rw [sequence_singleton] at h
    rw [processRule_eq_normal h, processConstant_eq_normal h₂, processLinear_eq_normal h₁]
    rfl
  | dataValueSize =>
    rw [processDataValueSize_eq_normal (eq_normal_of_inDefinition hdefinition ht)]
    rfl
  | memberName =>
    rw [assign_eq_normal (eq_normal_of_inDefinition hdefinition ht) rfl]
    rfl
  | datatype =>
    rw [processDatatype_eq_normal (eq_normal_of_inDefinition hdefinition ht)]
    rfl
  | unit =>
    obtain ⟨t₁, h₁, h⟩ := andThen_eq_normal.mp (eq_normal_of_inDefinition hdefinition ht)
    rw [sequence_singleton] at h
    rw [processResolution_eq_normal h, processUnit_eq_normal h₁]
    rfl
  | absoluteReference =>
    rw [assign_eq_normal (eq_normal_of_inDefinition hdefinition ht) rfl]
    rfl
  | range =>
    rw [focus_eq_normal (eq_normal_of_inDefinition hdefinition ht)]
    rfl
  | postScaling =>
    rw [focus_eq_normal (eq_normal_of_inDefinition hdefinition ht)]
    rfl
  | relatedSignals =>
    rw [processRelatedSignals_eq_normal
      (eq_normal_of_inDefinition (p := fun _ => processRelatedSignals params) hdefinition ht)]
    rfl
  | identity => exact absurd hm (by decide)

/-- **Accepted descriptions.** A description that is accepted leaves the signal behind that it
describes. -/
theorem processSignal_eq_normal (h : processSignal params s = .normal s') :
    s' = s.describedBy params := by
  have hview {m : Member} (hm : m ∈ described)
      (hparams : m ≠ .tableId ∧ m ≠ .valueIndex ∧ m ≠ .interpretation) : signalParts.view m s' =
        signalParts.view m ((params.find? metaDefinition).elim s (s.definedBy params)) := by
    cases hdefinition : params.find? metaDefinition with
    | none =>
      obtain ⟨t, ht, hview⟩ := exists_statement_of_normal h hm
      have hkept : statement params m s = .normal s := by
        cases m <;> first
          | exact absurd rfl hparams.1
          | exact absurd rfl hparams.2.1
          | exact absurd rfl hparams.2.2
          | rfl
          | simp only [statement, inDefinition, hdefinition]
      rw [hview, Completion.normal.inj (ht.symm.trans hkept)]
      rfl
    | some definition => exact view_definedBy h hdefinition hm hparams
  unfold describedBy
  refine signalParts.ext fun m => ?_
  cases m with
  | tableId =>
    obtain ⟨t, ht, hview⟩ := exists_statement_of_normal h (by decide : Member.tableId ∈ described)
    rw [hview, processTableId_eq_normal ht]
    rfl
  | valueIndex =>
    obtain ⟨t, ht, hview⟩ :=
      exists_statement_of_normal h (by decide : Member.valueIndex ∈ described)
    have ht : processValueIndex params s = .normal t := ht
    rw [hview, assign_eq_normal ht rfl]
    rfl
  | interpretation =>
    obtain ⟨t, ht, hview⟩ :=
      exists_statement_of_normal h (by decide : Member.interpretation ∈ described)
    have ht : processInterpretation params s = .normal t := ht
    rw [hview, assign_eq_normal ht rfl]
    rfl
  | identity =>
    have hidentity := view_processSignal_identity params s
    rw [h] at hidentity
    refine Eq.trans hidentity ?_
    cases params.find? metaDefinition <;> rfl
  | _ => exact hview (by decide) (by decide)

theorem dataValueSize_describedBy {definition : Json}
    (hdefinition : params.find? metaDefinition = some definition) :
    (s.describedBy params).dataValueSize = sizeGiven definition s := by
  rw [describedBy, hdefinition]
  rfl

/-- A description is accepted if no part of it is refused. -/
theorem processSignal_eq_normal_iff :
    processSignal params s = .normal s' ↔ s.Accepts params ∧ s' = s.describedBy params := by
  constructor
  · exact fun h => ⟨accepts_of_normal h, processSignal_eq_normal h⟩
  · rintro ⟨haccepts, rfl⟩
    have hwhy := why?_processSignal_eq_verdict params s
    rw [List.findSome?_eq_none_iff.mpr haccepts] at hwhy
    have hnormal := Completion.eq_normal_of_why? hwhy
    rw [hnormal, processSignal_eq_normal hnormal]

end SubscribedSignal

end StreamingProtocol
