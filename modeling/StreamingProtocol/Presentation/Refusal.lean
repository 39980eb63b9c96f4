import StreamingProtocol.Presentation.Verdicts

/-!
# Refused descriptions

A member of the definition that has not the expected type, or a value that is not allowed, makes
the function return -1. A value index that is not a number throws. A member that is taken for
granted and missing has no defined behaviour. A description gets as far as the first part that is
refused, so what becomes of a part is told by the verdicts on the parts before it.

A member that is refused may have been stored before: the delta and the start value of a rule, the
details of a bit field, the parts of a unit before the one that is refused, the resolution, and the
related signals before the entry that is refused.

## Main results

* `SubscribedSignal.why?_statement`, `SubscribedSignal.state_statement_eq_iff`.
* `SubscribedSignal.why?_processSignal_eq_verdict`,
  `SubscribedSignal.state_processSignal_eq_iff_restates`.
* `SubscribedSignal.view_processSignal_eq`.
-/

namespace StreamingProtocol

open SubscribedSignal

variable [JsonRuntime]

namespace SubscribedSignal

/-! ### Statements about a definition -/

omit [JsonRuntime] in
theorem why?_eval {σ α : Type} (x : Except Abrupt α) (s : σ) (next : α → Completion σ) :
    (Completion.eval x s next).why? = match x with
      | .ok a => (next a).why?
      | .error why => some why := by
  cases x <;> rfl

omit [JsonRuntime] in
theorem failure_eq_none {α : Type} {x : Except Abrupt α} : failure x = none ↔ ∃ a, x = .ok a := by
  cases x <;> simp [failure]

omit [JsonRuntime] in
theorem why?_inDefinition (params : Json)
    (p : Json → SubscribedSignal → Completion SubscribedSignal) (s : SubscribedSignal) :
    (inDefinition params p s).why? =
      definitionVerdict params fun definition => (p definition s).why?.map caughtAs := by
  unfold inDefinition definitionVerdict
  cases params.find? metaDefinition with
  | none => rfl
  | some definition => exact why?_catchJson _

omit [JsonRuntime] in
theorem state_inDefinition_eq_iff (params : Json)
    (p : Json → SubscribedSignal → Completion SubscribedSignal) (s : SubscribedSignal) :
    (inDefinition params p s).state = s ↔
      InDefinition params fun definition => (p definition s).state = s := by
  unfold inDefinition InDefinition
  cases params.find? metaDefinition with
  | none => simp
  | some definition => simp

omit [JsonRuntime] in
theorem why?_assign {α : Type} (j : Json) (key : String) (get : Json → Except Abrupt α)
    (store : α → SubscribedSignal → SubscribedSignal) (s : SubscribedSignal) :
    (j.assign key get store s).why?.map caughtAs = readVerdict key get j := by
  unfold Json.assign readVerdict
  cases j.find? key with
  | none => rfl
  | some node => cases h : get node <;> simp [failure, h]

omit [JsonRuntime] in
theorem state_assign_eq_iff {α : Type} (j : Json) (key : String) (get : Json → Except Abrupt α)
    {store : α → SubscribedSignal → SubscribedSignal} {s : SubscribedSignal} {current : α}
    (hstore : ∀ x, store x s = s ↔ x = current) :
    (j.assign key get store s).state = s ↔ ReadRestates key get current j := by
  unfold Json.assign ReadRestates
  cases j.find? key with
  | none => simp
  | some node => cases h : get node <;> simp [h, hstore]

/-! ### The members next to the definition -/

omit [JsonRuntime] in
theorem tableId_eq_self {s : SubscribedSignal} {id : String} :
    { s with tableId := id } = s ↔ id = s.tableId := by
  cases s
  simp

theorem why?_processTableId (params : Json) (s : SubscribedSignal) :
    (processTableId params s).why? = Member.tableId.verdict params s := by
  unfold processTableId Member.verdict refuseUnless
  cases params.find? metaTableid with
  | none => rfl
  | some node =>
    dsimp only [Option.bind_some]
    obtain ⟨id, hid, h⟩ | ⟨hstring, hnumber, h⟩ :=
      assignId_cases node (fun id s => { s with tableId := id }) s
    · rw [h, isStringOrNumber_of_id hid]
      rfl
    · rw [h, isStringOrNumber_of_not hstring hnumber]
      rfl

theorem state_processTableId_eq_iff (params : Json) (s : SubscribedSignal) :
    (processTableId params s).state = s ↔ Member.tableId.Restates params s := by
  unfold processTableId Member.Restates
  cases params.find? metaTableid with
  | none => simp
  | some node =>
    dsimp only
    obtain ⟨id, hid, h⟩ | ⟨hstring, hnumber, h⟩ :=
      assignId_cases node (fun id s => { s with tableId := id }) s
    · rw [h, Completion.state_normal, tableId_eq_self]
      obtain rfl | ⟨hnumber, htext⟩ := hid
      · simp [Json.isNumber, Json.isString]
      · simp [hnumber, htext, Json.isString_of_isNumber hnumber]
    · simp [h, hstring, hnumber]

theorem why?_processValueIndex (params : Json) (s : SubscribedSignal) :
    (processValueIndex params s).why? = Member.valueIndex.verdict params s := by
  unfold processValueIndex Member.verdict Json.assign
  cases params.find? metaValueindex with
  | none => rfl
  | some node => cases node <;> rfl

omit [JsonRuntime] in
theorem why?_processInterpretation (params : Json) (s : SubscribedSignal) :
    (processInterpretation params s).why? = none := by
  unfold processInterpretation Json.assign
  cases params.find? metaInterpretation <;> rfl

/-! ### The rule -/

theorem why?_processLinear (definition : Json) (s : SubscribedSignal) :
    (processLinear definition s).why? =
      refuseUnless ((deltaNode definition).all Json.isNumber) := by
  unfold processLinear
  cases deltaNode definition with
  | none => rfl
  | some node => cases node <;> rfl

theorem linearDelta_processLinear (definition : Json) (s : SubscribedSignal) :
    (processLinear definition s).state.linearDelta = deltaInForce definition s ∧
      (processLinear definition s).state.ruleType = s.ruleType ∧
      (processLinear definition s).state.constRuleStartJson = s.constRuleStartJson := by
  unfold processLinear deltaInForce
  cases deltaNode definition with
  | none => exact ⟨rfl, rfl, rfl⟩
  | some node => cases node <;> exact ⟨rfl, rfl, rfl⟩

omit [JsonRuntime] in
theorem why?_processConstant (definition : Json) (s : SubscribedSignal) :
    (processConstant definition s).why? =
      refuseUnless ((startNode definition).all Json.isNumber) := by
  unfold processConstant
  cases startNode definition with
  | none => rfl
  | some node => cases node <;> rfl

omit [JsonRuntime] in
theorem linearDelta_processConstant (definition : Json) (s : SubscribedSignal) :
    (processConstant definition s).state.linearDelta = s.linearDelta ∧
      (processConstant definition s).state.ruleType = s.ruleType := by
  unfold processConstant
  cases startNode definition with
  | none => exact ⟨rfl, rfl⟩
  | some node => cases node <;> exact ⟨rfl, rfl⟩

omit [JsonRuntime] in
/-- The kind of a rule is set by its name. -/
theorem processRule_eq (definition : Json) (s : SubscribedSignal) :
    processRule definition s = match definition.find? metaRule with
      | none => .normal s
      | some (.string rule) =>
          match ruleNamed rule s.linearDelta with
          | some r => .normal { s with ruleType := r }
          | none => .abrupt (.ret (-1)) s
      | some _ => .abrupt (.throw .jsonTypeError) s := by
  unfold processRule
  cases definition.find? metaRule with
  | none => rfl
  | some node =>
    cases node with
    | string rule =>
      simp only [Json.getString, Completion.eval_ok, ruleNamed]
      split_ifs <;> rfl
    | _ => rfl

omit [JsonRuntime] in
theorem why?_processRule (definition : Json) (s : SubscribedSignal) :
    (processRule definition s).why?.map caughtAs =
      refuseUnless (ruleAccepted definition s.linearDelta) := by
  rw [processRule_eq]
  unfold ruleAccepted refuseUnless
  cases definition.find? metaRule with
  | none => rfl
  | some node =>
    cases node with
    | string rule => cases h : ruleNamed rule s.linearDelta <;> simp [caughtAs, h]
    | _ => rfl

theorem why?_rule (params : Json) (s : SubscribedSignal) :
    (statement params .rule s).why? = Member.rule.verdict params s := by
  rw [statement, why?_inDefinition, Member.verdict]
  congr 1
  funext definition
  obtain ⟨hdelta, -, -⟩ := linearDelta_processLinear definition s
  obtain ⟨hdelta', -⟩ := linearDelta_processConstant definition (processLinear definition s).state
  have hlinear := why?_processLinear definition s
  have hconstant := why?_processConstant definition (processLinear definition s).state
  have hrule := why?_processRule definition
    (processConstant definition (processLinear definition s).state).state
  rw [hdelta', hdelta] at hrule
  rw [Completion.why?_sequence_cons, Completion.why?_sequence_cons,
    Completion.sequence_singleton, hlinear, hconstant]
  unfold refuseUnless at hrule ⊢
  by_cases h₁ : (deltaNode definition).all Json.isNumber
  · by_cases h₂ : (startNode definition).all Json.isNumber
    · simpa [h₁, h₂] using hrule
    · simp [h₁, h₂, caughtAs]
  · simp [h₁, caughtAs]

theorem state_processLinear_eq_iff (definition : Json) (s : SubscribedSignal) :
    (processLinear definition s).state = s ↔ ∀ node, deltaNode definition = some node →
      node = s.linearDeltaJson ∧ ∀ x, node.getUInt64 = .ok x → x = s.linearDelta := by
  unfold processLinear
  cases deltaNode definition with
  | none => simp
  | some node =>
    cases s
    cases node <;> simp [Json.isNumber, Json.getUInt64, and_comm]

omit [JsonRuntime] in
theorem state_processConstant_eq_iff (definition : Json) (s : SubscribedSignal) :
    (processConstant definition s).state = s ↔
      ∀ node, startNode definition = some node → node = s.constRuleStartJson := by
  unfold processConstant
  cases startNode definition with
  | none => simp
  | some node =>
    cases s
    cases node <;> simp [Json.isNumber]

omit [JsonRuntime] in
theorem state_processRule_eq_iff (definition : Json) (s : SubscribedSignal) :
    (processRule definition s).state = s ↔
      ∀ rule, definition.find? metaRule = some (.string rule) →
      ∀ r, ruleNamed rule s.linearDelta = some r → r = s.ruleType := by
  rw [processRule_eq]
  cases definition.find? metaRule with
  | none => simp
  | some node =>
    cases node with
    | string rule =>
      cases h : ruleNamed rule s.linearDelta with
      | none => simp [h]
      | some r =>
        cases s
        simp_all
    | _ => simp

/-! ### The parts inside of the rule and of the unit -/

/-- The parts of the rule and of the unit, and what is left. -/
inductive FinePart where
  | delta
  | start
  | kind
  | unit
  | timeSignal
  | resolution
  | rest
deriving DecidableEq

/-- The values of these parts. -/
def FinePart.Value : FinePart → Type
  | .delta => Json × UInt64
  | .start => Json
  | .kind => RuleType
  | .unit => SignalUnit
  | .timeSignal => Bool
  | .resolution => Resolution × UInt64
  | .rest => SubscribedSignal

def FinePart.view : (i : FinePart) → SubscribedSignal → i.Value
  | .delta, s => (s.linearDeltaJson, s.linearDelta)
  | .start, s => s.constRuleStartJson
  | .kind, s => s.ruleType
  | .unit, s => s.unit
  | .timeSignal, s => s.isTimeSignal
  | .resolution, s => (s.resolution, s.timeBaseFrequency)
  | .rest, s => { s with
      linearDeltaJson := .null, linearDelta := 0, constRuleStartJson := .null, ruleType := .unknown
      unit := {}, isTimeSignal := false, resolution := {}, timeBaseFrequency := 0 }

def fineParts : Parts FinePart SubscribedSignal where
  carrier := FinePart.Value
  view := FinePart.view
  ext {s t} h := by
    have hdelta : (s.linearDeltaJson, s.linearDelta) = (t.linearDeltaJson, t.linearDelta) :=
      h .delta
    have hstart : s.constRuleStartJson = t.constRuleStartJson := h .start
    have hkind : s.ruleType = t.ruleType := h .kind
    have hunit : s.unit = t.unit := h .unit
    have htime : s.isTimeSignal = t.isTimeSignal := h .timeSignal
    have hresolution : (s.resolution, s.timeBaseFrequency) = (t.resolution, t.timeBaseFrequency) :=
      h .resolution
    have hrest : FinePart.view .rest s = FinePart.view .rest t := h .rest
    clear h
    cases s
    cases t
    change @Eq SubscribedSignal _ _ at hrest
    simp only [FinePart.view, SubscribedSignal.mk.injEq] at hrest
    simp_all

theorem writes_processLinear (definition : Json) :
    fineParts.Writes .delta (processLinear definition) := by
  refine ⟨fun s j hj => ?_⟩
  unfold processLinear
  cases deltaNode definition with
  | none => rfl
  | some node => cases node <;> cases j <;> first | rfl | exact absurd rfl hj

omit [JsonRuntime] in
theorem writes_processConstant (definition : Json) :
    fineParts.Writes .start (processConstant definition) := by
  refine ⟨fun s j hj => ?_⟩
  unfold processConstant
  cases startNode definition with
  | none => rfl
  | some node => cases node <;> cases j <;> first | rfl | exact absurd rfl hj

omit [JsonRuntime] in
theorem writes_processRule (definition : Json) :
    fineParts.Writes .kind (processRule definition) := by
  refine ⟨fun s j hj => ?_⟩
  rw [processRule_eq]
  cases definition.find? metaRule with
  | none => rfl
  | some node =>
    cases node with
    | string rule =>
      cases h : ruleNamed rule s.linearDelta with
      | none => simp only [h, Completion.state_abrupt]
      | some r =>
        simp only [h, Completion.state_normal]
        cases j <;> first | rfl | exact absurd rfl hj
    | _ => rfl

/-- The three statements about a rule, by the part they write. -/
def ruleStatement (definition : Json) : FinePart → SubscribedSignal → Completion SubscribedSignal
  | .delta => processLinear definition
  | .start => processConstant definition
  | .kind => processRule definition
  | _ => .normal

theorem state_rule_eq_iff (params : Json) (s : SubscribedSignal) :
    (statement params .rule s).state = s ↔ Member.rule.Restates params s := by
  rw [statement, state_inDefinition_eq_iff, Member.Restates]
  refine forall₂_congr fun definition _ => ?_
  have hwrites : ∀ i ∈ [FinePart.delta, .start, .kind],
      fineParts.Writes i (ruleStatement definition i) := by
    simp [ruleStatement, writes_processLinear, writes_processConstant, writes_processRule]
  have hsequence := Parts.state_sequence_eq_iff _ (by decide) hwrites s
  simp only [List.map_cons, List.map_nil, ruleStatement, UpToStop, why?_processLinear,
    why?_processConstant, state_processLinear_eq_iff, state_processConstant_eq_iff,
    state_processRule_eq_iff] at hsequence
  have hnumber (node : Option Json) :
      ¬ refuseUnless (node.all Json.isNumber) ≠ none ↔ node.all Json.isNumber := by
    rw [refuseUnless]
    split_ifs with h <;> simp [h]
  have hdelta : (∀ node, deltaNode definition = some node →
      node = s.linearDeltaJson ∧ ∀ x, node.getUInt64 = .ok x → x = s.linearDelta) →
      deltaInForce definition s = s.linearDelta := by
    intro h
    unfold deltaInForce
    cases hnode : deltaNode definition with
    | none => rfl
    | some node =>
      cases hx : node.getUInt64 with
      | ok x => simpa only [hx] using (h node hnode).2 x hx
      | error why => simp only [hx]
  refine hsequence.trans ⟨fun h => ?_, fun h => ?_⟩
  · obtain ⟨h₁, h₂⟩ := h
    refine ⟨h₁, fun hnum => ?_⟩
    obtain ⟨h₂, h₃⟩ := h₂ ((hnumber _).mpr hnum)
    refine ⟨h₂, fun hnum' => ?_⟩
    rw [hdelta h₁]
    exact (h₃ ((hnumber _).mpr hnum')).1
  · obtain ⟨h₁, h₂⟩ := h
    refine ⟨h₁, fun hnum => ?_⟩
    obtain ⟨h₂, h₃⟩ := h₂ ((hnumber _).mp hnum)
    refine ⟨h₂, fun hnum' => ?_⟩
    rw [hdelta h₁] at h₃
    exact ⟨h₃ ((hnumber _).mp hnum'), fun _ => trivial⟩

/-! ### The value -/

theorem why?_dataValueSize (params : Json) (s : SubscribedSignal) :
    (statement params .dataValueSize s).why? = Member.dataValueSize.verdict params s := by
  rw [statement, why?_inDefinition, Member.verdict]
  congr 1
  funext definition
  rw [processDataValueSize, why?_eval]
  cases getDataTypeSize definition <;> rfl

theorem state_dataValueSize_eq_iff (params : Json) (s : SubscribedSignal) :
    (statement params .dataValueSize s).state = s ↔ Member.dataValueSize.Restates params s := by
  rw [statement, state_inDefinition_eq_iff, Member.Restates]
  refine forall₂_congr fun definition _ => ?_
  simp only [processDataValueSize]
  cases getDataTypeSize definition with
  | error why => simp
  | ok size =>
    cases s
    by_cases hsize : size = 0 <;> simp [hsize]

omit [JsonRuntime] in
theorem why?_processBitFieldBits (details : Json) (s : SubscribedSignal) :
    (processBitFieldBits details s).why?.map caughtAs =
      match details.index metaBits with
      | .error why => some (caughtAs why)
      | .ok bits => match bits.1.find? metaDatatype with
        | some (.string base) => refuseUnless (base = dataTypeUint32 ∨ base = dataTypeUint64)
        | _ => some (.ret (-1)) := by
  rw [processBitFieldBits, why?_eval]
  cases hbits : details.index metaBits with
  | error why => rfl
  | ok bits =>
    obtain ⟨j, hj⟩ := Json.index_of_isObject metaDatatype (Json.isObject_of_index hbits)
    simp only [processBitFieldBase, hj, Completion.eval_ok, processBitFieldType, refuseUnless]
    cases bits.1.find? metaDatatype with
    | none => rfl
    | some node =>
      cases node with
      | string base =>
        simp only [Option.getD_some, Json.getString, Completion.eval_ok]
        split_ifs <;> simp_all [caughtAs]
      | _ => rfl

omit [JsonRuntime] in
theorem caughtAs_of_index {key : String} {j : Json} {why : Abrupt} (h : j.index key = .error why) :
    caughtAs why = .ret (-1) := by
  cases j with
  | object members =>
    simp only [Json.index] at h
    split at h <;> cases h
  | null => cases h
  | _ =>
    cases h
    rfl

theorem why?_datatype (params : Json) (s : SubscribedSignal) :
    (statement params .datatype s).why? = Member.datatype.verdict params s := by
  rw [statement, why?_inDefinition, Member.verdict]
  congr 1
  funext definition
  unfold processDatatype datatypeVerdict
  cases htype : definition.find? metaDatatype with
  | none => rfl
  | some node =>
    have hobject := Json.isObject_of_find? htype
    cases node with
    | string dataType =>
      simp only [Json.getString, Completion.eval_ok]
      cases hscalar : scalarSampleType dataType with
      | some type => simp
      | none =>
        by_cases hbitField : dataType = dataTypeBitfield
        · simp only [hbitField, if_true, processBitField, Json.at?_of_isObject hobject]
          cases definition.find? dataTypeBitfield with
          | none => rfl
          | some details =>
            simp only [Completion.eval_ok, why?_processBitFieldBits]
            cases hbits : details.index metaBits with
            | error why => simp [caughtAs_of_index hbits]
            | ok bits => rfl
        · by_cases harray : dataType = dataTypeArray
          · simp only [harray, Json.at?_of_isObject hobject]
            cases definition.find? dataTypeArray <;> rfl
          · by_cases hstruct : dataType = dataTypeStruct
            · simp only [hstruct, Json.at?_of_isObject hobject]
              cases definition.find? dataTypeStruct <;> rfl
            · simp [hbitField, harray, hstruct, caughtAs]
    | _ => rfl

omit [JsonRuntime] in
theorem state_processBitFieldBits_eq_iff (details : Json) (s : SubscribedSignal) :
    (processBitFieldBits details { s with datatypeDetails := details }).state = s ↔
      BitFieldRestates s details := by
  unfold processBitFieldBits BitFieldRestates
  cases hbits : details.index metaBits with
  | error why =>
    cases s
    simp
  | ok bits =>
    obtain ⟨j, hj⟩ := Json.index_of_isObject metaDatatype (Json.isObject_of_index hbits)
    simp only [processBitFieldBase, hj, Completion.eval_ok, processBitFieldType]
    have hne : dataTypeUint32 ≠ dataTypeUint64 := by decide
    cases (bits.1.find? metaDatatype).getD .null with
    | string base =>
      simp only [Json.getString, Completion.eval_ok]
      cases s
      by_cases h₃₂ : base = dataTypeUint32
      · simp [h₃₂, hne, eq_comm]
      · by_cases h₆₄ : base = dataTypeUint64 <;> simp [h₃₂, h₆₄, hne, hne.symm, eq_comm]
    | _ =>
      cases s
      simp [Json.getString]

theorem state_datatype_eq_iff (params : Json) (s : SubscribedSignal) :
    (statement params .datatype s).state = s ↔ Member.datatype.Restates params s := by
  rw [statement, state_inDefinition_eq_iff, Member.Restates]
  refine forall₂_congr fun definition _ => ?_
  show (processDatatype definition s).state = s ↔ DatatypeRestates s definition
  unfold processDatatype DatatypeRestates
  cases htype : definition.find? metaDatatype with
  | none => simp
  | some node =>
    have hobject := Json.isObject_of_find? htype
    have hba : dataTypeBitfield ≠ dataTypeArray := by decide
    have hbs : dataTypeBitfield ≠ dataTypeStruct := by decide
    have has : dataTypeArray ≠ dataTypeStruct := by decide
    cases node with
    | string dataType =>
      simp only [Json.getString, Completion.eval_ok, Option.some.injEq, Json.string.injEq,
        forall_eq']
      cases hscalar : scalarSampleType dataType with
      | some type =>
        have hscalars : dataType ≠ dataTypeBitfield ∧ dataType ≠ dataTypeArray ∧
            dataType ≠ dataTypeStruct := by
          refine ⟨?_, ?_, ?_⟩ <;> rintro rfl <;> cases hscalar
        cases s
        simp [hscalars]
      | none =>
        by_cases hbitField : dataType = dataTypeBitfield
        · subst hbitField
          simp only [if_true, processBitField, Json.at?_of_isObject hobject]
          cases definition.find? dataTypeBitfield with
          | none => simp
          | some details =>
            simp [state_processBitFieldBits_eq_iff, hba, hbs]
        · by_cases harray : dataType = dataTypeArray
          · subst harray
            simp only [Json.at?_of_isObject hobject]
            cases definition.find? dataTypeArray with
            | none => simp [hba.symm]
            | some details =>
              cases s
              simp [hba.symm, has, eq_comm]
          · by_cases hstruct : dataType = dataTypeStruct
            · subst hstruct
              simp only [Json.at?_of_isObject hobject]
              cases definition.find? dataTypeStruct with
              | none => simp [hbs.symm, has.symm]
              | some details =>
                cases s
                simp [hbs.symm, has.symm, eq_comm]
            · simp [hbitField, harray, hstruct]
    | _ => simp [Json.getString]

/-! ### Unit and resolution -/

/-- The statement that makes a signal with a unit of time a time signal. -/
def markTimeSignal (s : SubscribedSignal) : Completion SubscribedSignal :=
  .normal (if s.unit.quantity = metaTime then { s with isTimeSignal := true } else s)

theorem why?_processUnit (definition : Json) (s : SubscribedSignal) :
    (processUnit definition s).why? = (SignalUnit.parse definition s.unit).why? := by
  unfold processUnit Completion.focus
  cases SignalUnit.parse definition s.unit <;> rfl

theorem processUnit_of_normal {definition : Json} {s : SubscribedSignal} {u : SignalUnit}
    (h : SignalUnit.parse definition s.unit = .normal u) :
    processUnit definition s = markTimeSignal { s with unit := u } := by
  unfold processUnit Completion.focus
  rw [h]
  rfl

theorem why?_processResolution (definition : Json) (s : SubscribedSignal) :
    (processResolution definition s).why?.map caughtAs = resolutionVerdict definition s s.unit := by
  unfold processResolution resolutionVerdict
  cases s.resolution.parse definition with
  | error why => rfl
  | ok parsed =>
    simp only [Completion.eval_ok, processTimeBaseFrequency]
    by_cases hresult : parsed.2 = 1
    · simp only [hresult, if_true]
      by_cases hseconds : s.unit.isSeconds
      · by_cases hzero : parsed.1.numerator = 0 <;> simp [hseconds, hzero, caughtAs]
      · simp [hseconds, caughtAs]
    · simp [hresult]

theorem why?_unit (params : Json) (s : SubscribedSignal) :
    (statement params .unit s).why? = Member.unit.verdict params s := by
  rw [statement, why?_inDefinition, Member.verdict]
  congr 1
  funext definition
  rw [Completion.why?_sequence_cons, Completion.sequence_singleton, why?_processUnit, unitVerdict]
  cases h : SignalUnit.parse definition s.unit with
  | abrupt why u => rfl
  | normal u =>
    simp only [Completion.why?_normal, why?_processResolution, processUnit_of_normal h]
    unfold markTimeSignal
    split_ifs <;> rfl

/-- The three statements about a unit and a resolution, by the part they write. -/
def unitStatement (definition : Json) : FinePart → SubscribedSignal → Completion SubscribedSignal
  | .unit => Completion.focus unit (fun u s => { s with unit := u }) (SignalUnit.parse definition)
  | .timeSignal => markTimeSignal
  | .resolution => processResolution definition
  | _ => .normal

theorem writes_unitStatement (definition : Json) :
    ∀ i ∈ [FinePart.unit, .timeSignal, .resolution],
      fineParts.Writes i (unitStatement definition i) := by
  have hunit : fineParts.Writes .unit (unitStatement definition .unit) := by
    refine ⟨fun s j hj => ?_⟩
    rw [unitStatement, Completion.state_focus]
    cases j <;> first | rfl | exact absurd rfl hj
  have htime : fineParts.Writes .timeSignal markTimeSignal := by
    refine ⟨fun s j hj => ?_⟩
    unfold markTimeSignal
    split_ifs
    · cases j <;> first | rfl | exact absurd rfl hj
    · rfl
  have hresolution : fineParts.Writes .resolution (processResolution definition) := by
    refine ⟨fun s j hj => ?_⟩
    unfold processResolution processTimeBaseFrequency
    cases s.resolution.parse definition with
    | error why => rfl
    | ok parsed =>
      rw [Completion.eval_ok]
      split_ifs <;> cases j <;> first | rfl | exact absurd rfl hj
  intro i hi
  rcases List.mem_cons.mp hi with rfl | hi
  · exact hunit
  rcases List.mem_cons.mp hi with rfl | hi
  · exact htime
  rw [List.mem_singleton.mp hi]
  exact hresolution

theorem state_processResolution_eq_iff (definition : Json) (s : SubscribedSignal) :
    (processResolution definition s).state = s ↔
      ∀ r result, s.resolution.parse definition = .ok (r, result) →
        r = s.resolution ∧ (result = 1 → s.unit.isSeconds → r.numerator ≠ 0 →
          r.denominator / r.numerator = s.timeBaseFrequency) := by
  unfold processResolution processTimeBaseFrequency
  cases s.resolution.parse definition with
  | error why => simp
  | ok parsed =>
    obtain ⟨r, result⟩ := parsed
    simp only [Completion.eval_ok, Except.ok.injEq, Prod.mk.injEq, and_imp,
      forall_apply_eq_imp_iff, forall_eq']
    by_cases hresult : result = 1
    · by_cases hseconds : s.unit.isSeconds
      · by_cases hzero : r.numerator = 0 <;> cases s <;> simp_all
      · cases s
        simp_all
    · cases s
      simp_all

theorem state_unit_eq_iff (params : Json) (s : SubscribedSignal) :
    (statement params .unit s).state = s ↔ Member.unit.Restates params s := by
  rw [statement, state_inDefinition_eq_iff, Member.Restates]
  refine forall₂_congr fun definition _ => ?_
  have hsequence := Parts.state_sequence_eq_iff _ (by decide) (writes_unitStatement definition) s
  have hflatten : Completion.sequence [processUnit definition, processResolution definition] s =
      .sequence ([FinePart.unit, .timeSignal, .resolution].map (unitStatement definition)) s := by
    simp only [List.map_cons, List.map_nil, Completion.sequence_cons, processUnit,
      Completion.andThen_assoc]
    rfl
  rw [← hflatten] at hsequence
  have hparse : (unitStatement definition .unit s).state = s ↔
      (SignalUnit.parse definition s.unit).state = s.unit := by
    rw [unitStatement, Completion.state_focus]
    cases s
    simp
  have hwhy : (unitStatement definition .unit s).why? =
      (SignalUnit.parse definition s.unit).why? := by
    rw [unitStatement, Completion.why?_focus]
  have hmark : (unitStatement definition .timeSignal s).why? = none := rfl
  have htime : (unitStatement definition .timeSignal s).state = s ↔
      (s.unit.quantity = metaTime → s.isTimeSignal) := by
    rw [unitStatement, markTimeSignal]
    by_cases hquantity : s.unit.quantity = metaTime
    · cases s
      simp_all [eq_comm]
    · simp [hquantity]
  have hresolution : (unitStatement definition .resolution s).state = s ↔ _ :=
    state_processResolution_eq_iff definition s
  refine hsequence.trans ?_
  simp only [UpToStop, hparse, hwhy, hmark, htime, hresolution, not_not, true_imp_iff,
    imp_true_iff, and_true, UnitRestates]

/-! ### Related signals -/

omit [JsonRuntime] in
theorem processRelatedSignal_eq (item : Json) (s : SubscribedSignal) :
    processRelatedSignal item s = .eval (relatedSignal item) s fun related =>
      .normal { s with relatedSignals := s.relatedSignals.set related.1 related.2 } := by
  unfold processRelatedSignal relatedSignal
  cases item.at? metaType with
  | error why => rfl
  | ok typeNode =>
    cases htype : typeNode.getString with
    | error why => simp [htype, bind, Except.bind]
    | ok type =>
      cases item.at? metaSignalid with
      | error why => simp [htype, bind, Except.bind]
      | ok idNode => cases hid : idNode.getString <;> simp [htype, hid, bind, Except.bind, pure,
          Except.pure]

omit [JsonRuntime] in
theorem sequence_processRelatedSignal : (items : List Json) → (s : SubscribedSignal) →
    (Completion.sequence (items.map processRelatedSignal) s).state =
        { s with relatedSignals := readRelatedSignals items s.relatedSignals } ∧
      (Completion.sequence (items.map processRelatedSignal) s).why?.map caughtAs =
        items.findSome? fun item => failure (relatedSignal item)
  | [], s => ⟨rfl, rfl⟩
  | item :: items, s => by
      rw [List.map_cons, Completion.sequence_cons, processRelatedSignal_eq, readRelatedSignals,
        List.findSome?_cons]
      cases relatedSignal item with
      | error why => exact ⟨rfl, rfl⟩
      | ok related => exact sequence_processRelatedSignal items _

theorem why?_relatedSignals (params : Json) (s : SubscribedSignal) :
    (statement params .relatedSignals s).why? = Member.relatedSignals.verdict params s := by
  rw [statement, why?_inDefinition, Member.verdict]
  congr 1
  funext definition
  unfold processRelatedSignals relatedVerdict
  cases params.find? metaRelatedsignals with
  | none => rfl
  | some node =>
    cases node with
    | array items => exact (sequence_processRelatedSignal items _).2
    | _ => rfl

theorem state_relatedSignals_eq_iff (params : Json) (s : SubscribedSignal) :
    (statement params .relatedSignals s).state = s ↔
      Member.relatedSignals.Restates params s := by
  rw [statement, state_inDefinition_eq_iff, Member.Restates]
  refine forall₂_congr fun definition _ => ?_
  have hself (related : RelatedSignals) :
      { s with relatedSignals := related } = s ↔ related = s.relatedSignals := by
    cases s
    simp
  unfold processRelatedSignals announcedRelatedSignals
  cases params.find? metaRelatedsignals with
  | none => simp
  | some node =>
    cases node with
    | array items =>
      have hstate := (sequence_processRelatedSignal items { s with relatedSignals := [] }).1
      simp only [hstate, hself, Option.some.injEq, forall_eq']
    | _ => simp [hself]

/-! ### All parts -/

/-- What a description does about a part ends as the verdict says. -/
theorem why?_statement (params : Json) (s : SubscribedSignal) :
    (m : Member) → (statement params m s).why? = m.verdict params s
  | .tableId => why?_processTableId params s
  | .valueIndex => why?_processValueIndex params s
  | .interpretation => why?_processInterpretation params s
  | .rule => why?_rule params s
  | .dataValueSize => why?_dataValueSize params s
  | .memberName => by
      rw [statement, why?_inDefinition, Member.verdict]
      simp only [processMemberName, why?_assign]
  | .datatype => why?_datatype params s
  | .unit => why?_unit params s
  | .absoluteReference => by
      rw [statement, why?_inDefinition, Member.verdict]
      simp only [processAbsoluteReference, why?_assign]
  | .range => by
      rw [statement, why?_inDefinition, Member.verdict]
      simp only [processRange, Completion.why?_focus]
  | .postScaling => by
      rw [statement, why?_inDefinition, Member.verdict]
      simp only [processPostScaling, Completion.why?_focus]
  | .relatedSignals => why?_relatedSignals params s
  | .identity => rfl

/-- What a description does about a part leaves the signal alone if and only if it restates. -/
theorem state_statement_eq_iff (params : Json) (s : SubscribedSignal) :
    (m : Member) → ((statement params m s).state = s ↔ m.Restates params s)
  | .tableId => state_processTableId_eq_iff params s
  | .valueIndex => by
      rw [statement, Member.Restates]
      refine state_assign_eq_iff _ _ _ fun x => ?_
      cases s
      simp
  | .interpretation => by
      rw [statement, Member.Restates]
      refine state_assign_eq_iff _ _ _ fun x => ?_
      cases s
      simp
  | .rule => state_rule_eq_iff params s
  | .dataValueSize => state_dataValueSize_eq_iff params s
  | .memberName => by
      rw [statement, state_inDefinition_eq_iff, Member.Restates]
      refine forall₂_congr fun definition _ => state_assign_eq_iff _ _ _ fun x => ?_
      cases s
      simp
  | .datatype => state_datatype_eq_iff params s
  | .unit => state_unit_eq_iff params s
  | .absoluteReference => by
      rw [statement, state_inDefinition_eq_iff, Member.Restates]
      refine forall₂_congr fun definition _ => state_assign_eq_iff _ _ _ fun x => ?_
      cases s
      simp
  | .range => by
      rw [statement, state_inDefinition_eq_iff, Member.Restates]
      refine forall₂_congr fun definition _ => ?_
      simp only [processRange, Completion.state_focus]
      cases s
      simp
  | .postScaling => by
      rw [statement, state_inDefinition_eq_iff, Member.Restates]
      refine forall₂_congr fun definition _ => ?_
      simp only [processPostScaling, Completion.state_focus]
      cases s
      simp
  | .relatedSignals => state_relatedSignals_eq_iff params s
  | .identity => iff_of_true rfl trivial

/-! ### Descriptions -/

/-- A description ends with the first part that is refused. -/
theorem why?_processSignal_eq_verdict (params : Json) (s : SubscribedSignal) :
    (processSignal params s).why? = described.findSome? (Member.verdict params s) := by
  simp only [why?_processSignal, why?_statement]

/-- **What a description leaves alone.** It leaves the signal alone if and only if each part up to
the first that is refused restates what the signal has. -/
theorem state_processSignal_eq_iff_restates (params : Json) (s : SubscribedSignal) :
    (processSignal params s).state = s ↔
      UpToStop (fun m => Member.verdict params s m ≠ none) (Member.Restates params s)
        described := by
  rw [state_processSignal_eq_iff]
  exact upToStop_congr _ (fun m _ => by rw [why?_statement])
    (fun m _ => state_statement_eq_iff params s m)

/-! ### What becomes of the parts -/

/-- A description gets as far as a part. -/
def Reaches (params : Json) (s : SubscribedSignal) (m : Member) : Prop :=
  ∀ i ∈ before m, i.verdict params s = none

instance (params : Json) (s : SubscribedSignal) (m : Member) : Decidable (Reaches params s m) :=
  inferInstanceAs (Decidable (∀ i ∈ before m, i.verdict params s = none))

/-- A part that a description gets to is what its statement makes of it, and another one is kept. -/
theorem view_processSignal_eq (params : Json) (s : SubscribedSignal) {m : Member}
    (hm : m ∈ described) :
    m.view (processSignal params s).state =
      if Reaches params s m then m.view (statement params m s).state else m.view s := by
  have hiff : (∀ i ∈ before m, (statement params i s).why? = none) ↔ Reaches params s m := by
    simp only [why?_statement, Reaches]
  rw [view_processSignal params s hm, if_congr hiff rfl rfl]

/-- The size of a value is taken over if it is known and the description gets to it. -/
theorem dataValueSize_processSignal (params : Json) (s : SubscribedSignal) :
    (processSignal params s).state.dataValueSize = s.dataValueSize ∨
      ∃ definition, params.find? metaDefinition = some definition ∧
        Reaches params s .dataValueSize ∧ (processSignal params s).state.dataValueSize ≠ 0 ∧
        getDataTypeSize definition = .ok (processSignal params s).state.dataValueSize := by
  have hview := view_processSignal_eq params s (by decide : Member.dataValueSize ∈ described)
  change (processSignal params s).state.dataValueSize = _ at hview
  split_ifs at hview with hreaches
  · change _ = (statement params .dataValueSize s).state.dataValueSize at hview
    rw [hview, statement, inDefinition]
    cases params.find? metaDefinition with
    | none => exact .inl rfl
    | some definition =>
      simp only [state_catchJson, processDataValueSize]
      cases hsize : getDataTypeSize definition with
      | error why => exact .inl rfl
      | ok size =>
        by_cases hzero : size = 0
        · exact .inl (by simp [hzero])
        · exact .inr ⟨definition, rfl, hreaches, by simp [hzero], by simp [hzero, hsize]⟩
  · exact .inl hview

end SubscribedSignal

end StreamingProtocol
