import StreamingProtocol.Foundation.TransportedDocuments
import StreamingProtocol.Presentation.SubscribedSignal

/-!
# Descriptions that are transported

A description reaches a consumer through a binary encoding, which does not keep whether an integer
was unsigned or signed. It makes no difference: each statement of
`SubscribedSignal::processSignalMetaInformation` does the same with the document that is read back
as with the document that was written, up to the documents that it stores.

## Main definitions

* `SubscribedSignal.transported`: the signal with the documents that are read back.

## Main results

* `getDataTypeSize_transported`.
* `SubscribedSignal.processSignalMetaInformation_transported`.
-/

namespace StreamingProtocol

open Json Completion

/-! ### The size of a value -/

section Size

variable [JsonRuntime]

theorem linearCount_transported (linear : Json) :
    linearCount linear.transported = linearCount linear := by
  simp only [linearCount, valueOr_transported getInt32_transported]

/-- The factor of one dimension. -/
theorem dimensionCount_transported (definition : Json) :
    dimensionCount definition.transported = dimensionCount definition := by
  unfold dimensionCount
  rw [find?_transported]
  cases definition.find? metaDimensions with
  | none => rfl
  | some node =>
    cases node with
    | array elements =>
      match elements with
      | [] => rfl
      | _ :: _ :: _ => rfl
      | [dimension] =>
        show (if dimension.transported.isObject then _ else _) = _
        rw [isObject_transported]
        simp only [valueOr_transported getString_transported, find?_transported]
        cases dimension.find? metaRuletypeLinear with
        | none => rfl
        | some linear =>
          cases linear with
          | object members =>
            have hcount := linearCount_transported (object members)
            simp only [Option.map_some, transported] at hcount ⊢
            rw [hcount]
          | numberInteger n =>
            rw [Option.map_some, transported]
            split_ifs <;> rfl
          | _ => rfl
    | numberInteger n =>
      rw [Option.map_some, transported]
      split_ifs <;> rfl
    | _ => rfl

/-- The sum of the sizes of the members of a struct. -/
theorem foldlM_transported (elements : List Json)
    (h : ∀ j ∈ elements, getDataTypeSize j.transported = getDataTypeSize j) (total : UInt64) :
    (elements.map transported).foldlM (fun dataTypeSize sub => do
        let size ← getDataTypeSize sub
        pure (dataTypeSize + size)) total =
      elements.foldlM (fun dataTypeSize sub => do
        let size ← getDataTypeSize sub
        pure (dataTypeSize + size)) total := by
  induction elements generalizing total with
  | nil => rfl
  | cons j elements ih =>
    obtain ⟨hj, helements⟩ := List.forall_mem_cons.mp h
    rw [List.map_cons, List.foldlM_cons, List.foldlM_cons, hj]
    cases getDataTypeSize j with
    | error why => rfl
    | ok size => exact ih helements (total + size)

/-- The size of a value without its dimensions, if the sizes of its parts are the same. -/
theorem elementSize_transported (definition : Json)
    (h : ∀ sub, sizeOf sub < sizeOf definition →
      getDataTypeSize sub.transported = getDataTypeSize sub) :
    elementSize definition.transported = elementSize definition := by
  unfold elementSize
  rw [find?_transported]
  cases definition.find? metaDatatype with
  | none => rfl
  | some node =>
    simp only [Option.map_some, getString_transported]
    cases node.getString with
    | error why => rfl
    | ok dataType =>
      simp only [bind, Except.bind]
      cases scalarSize dataType with
      | some size => rfl
      | none =>
        dsimp only
        split_ifs
        · rw [at?_transported]
          cases hsub : definition.at? dataTypeBitfield with
          | error why => rfl
          | ok sub => exact h sub (sizeOf_lt_of_at? hsub)
        · rw [at?_transported]
          cases hsub : definition.at? dataTypeArray with
          | error why => rfl
          | ok sub =>
            simp only [Except.map, index_transported]
            cases sub.index metaCount with
            | error why => rfl
            | ok countNode =>
              simp only [getUInt64_transported, h sub (sizeOf_lt_of_at? hsub)]
        · rw [at?_transported]
          cases hsub : definition.at? dataTypeStruct with
          | error why => rfl
          | ok sub =>
            simp only [Except.map, elements_transported]
            refine foldlM_transported _ (fun j hj => h j ?_) 0
            exact lt_of_le_of_lt (Json.sizeOf_le_of_mem_elements hj) (sizeOf_lt_of_at? hsub)
        · rfl

/-- The size of a value is that of the value that was described. -/
theorem getDataTypeSize_transported (definition : Json) :
    getDataTypeSize definition.transported = getDataTypeSize definition := by
  induction hn : sizeOf definition using Nat.strong_induction_on generalizing definition with
  | _ n ih =>
    subst hn
    have hname := valueOr_transported getString_transported metaName "" definition
    have hcount := dimensionCount_transported definition
    cases hname' : definition.valueOr Json.getString metaName "" with
    | error why =>
      rw [hname'] at hname
      rw [getDataTypeSize, getDataTypeSize, hname, hname']
      rfl
    | ok name =>
      rw [hname'] at hname
      cases hcount' : dimensionCount definition with
      | error why =>
        rw [hcount'] at hcount
        rw [getDataTypeSize, getDataTypeSize, hname, hname', hcount, hcount']
        rfl
      | ok count =>
        rw [hcount'] at hcount
        cases count with
        | none =>
          rw [getDataTypeSize, getDataTypeSize, hname, hname', hcount, hcount']
          rfl
        | some count =>
          rw [getDataTypeSize_eq hname hcount, getDataTypeSize_eq hname' hcount',
            elementSize_transported definition fun sub hsub => ih _ hsub sub rfl]

end Size

/-! ### Parts of a definition -/

section Parts

variable [JsonRuntime]

theorem SignalUnit.parse_transported (definition : Json) :
    SignalUnit.parse definition.transported = SignalUnit.parse definition := by
  funext u
  unfold SignalUnit.parse
  rw [find?_transported]
  cases definition.find? metaUnit with
  | none => rfl
  | some node =>
    simp only [Option.map_some, assign_transported getInt32_transported,
      assign_transported getString_transported]

theorem Resolution.member_transported (key : String) (node : Json) (old : UInt64) :
    Resolution.member key node.transported old = Resolution.member key node old := by
  unfold Resolution.member
  rw [find?_transported]
  cases node.find? key with
  | none => rfl
  | some v => simp only [Option.map_some, getUInt64_transported]

theorem Resolution.parse_transported (definition : Json) (r : Resolution) :
    r.parse definition.transported = r.parse definition := by
  unfold Resolution.parse
  rw [find?_transported]
  cases definition.find? metaResolution with
  | none => rfl
  | some node => simp only [Option.map_some, Resolution.member_transported]

variable [LawfulJsonRuntime]

theorem Range.parse_transported (definition : Json) :
    Range.parse definition.transported = Range.parse definition := by
  funext r
  unfold Range.parse
  rw [find?_transported]
  cases definition.find? metaRange with
  | none => rfl
  | some node => simp only [Option.map_some, assign_transported getDouble_transported]

theorem PostScaling.parse_transported (definition : Json) :
    PostScaling.parse definition.transported = PostScaling.parse definition := by
  funext p
  unfold PostScaling.parse
  rw [find?_transported]
  cases definition.find? metaPostscaling with
  | none => rfl
  | some node => simp only [Option.map_some, assign_transported getDouble_transported]

end Parts

/-! ### Statements -/

namespace SubscribedSignal

/-- A signal with the documents that are read back. -/
def transported (s : SubscribedSignal) : SubscribedSignal :=
  { s with
    datatypeDetails := s.datatypeDetails.transported
    bitsInterpretationObject := s.bitsInterpretationObject.transported
    linearDeltaJson := s.linearDeltaJson.transported
    constRuleStartJson := s.constRuleStartJson.transported
    interpretationObject := s.interpretationObject.transported }

/-- A statement does with a document that is read back what it does with the document that was
written. -/
def Transports (p : Json → SubscribedSignal → Completion SubscribedSignal) : Prop :=
  ∀ j s, p j.transported s.transported = (p j s).map transported

theorem map_eval {α : Type} (x : Except Abrupt α) (s : SubscribedSignal)
    {next next' : α → Completion SubscribedSignal}
    (h : ∀ a, next' a = (next a).map transported) :
    eval x s.transported next' = (eval x s next).map transported := by
  cases x with
  | ok a => exact h a
  | error why => rfl

/-- A member that is read at a type and stored. -/
theorem transports_assign {α : Type} {get : Json → Except Abrupt α} (key : String)
    (hget : ∀ j : Json, get j.transported = get j) (store : α → SubscribedSignal → SubscribedSignal)
    (hstore : ∀ a s, store a (transported s) = transported (store a s)) :
    Transports fun j => j.assign key get store := by
  intro j s
  show j.transported.assign key get store s.transported = (j.assign key get store s).map transported
  rw [assign_transported hget]
  unfold assign
  cases j.find? key with
  | none => rfl
  | some node => exact map_eval _ s fun a => congrArg normal (hstore a s)

/-- A part of a signal that is parsed. -/
theorem transports_focus {τ : Type} (get : SubscribedSignal → τ)
    (put : τ → SubscribedSignal → SubscribedSignal) {parse : Json → τ → Completion τ}
    (hparse : ∀ j : Json, parse j.transported = parse j) (hget : ∀ s, get (transported s) = get s)
    (hput : ∀ t s, put t (transported s) = transported (put t s)) :
    Transports fun j => Completion.focus get put (parse j) := by
  intro j s
  show Completion.focus get put (parse j.transported) s.transported =
    (Completion.focus get put (parse j) s).map transported
  unfold Completion.focus
  rw [hparse, hget]
  cases parse j (get s) with
  | normal t => exact congrArg normal (hput t s)
  | abrupt why t => exact congrArg (abrupt why) (hput t s)

theorem transports_processInterpretation : Transports processInterpretation := by
  intro params s
  unfold processInterpretation assign
  rw [find?_transported]
  cases params.find? metaInterpretation with
  | none => rfl
  | some node => rfl

/-! #### The rule -/

theorem deltaNode_transported (definition : Json) :
    deltaNode definition.transported = (deltaNode definition).map Json.transported := by
  unfold deltaNode
  rw [find?_transported]
  cases definition.find? metaRuletypeLinear with
  | none => rfl
  | some node => exact find?_transported metaDelta node

theorem startNode_transported (definition : Json) :
    startNode definition.transported = (startNode definition).map Json.transported := by
  unfold startNode
  rw [find?_transported]
  cases definition.find? metaRuletypeConstant with
  | none => rfl
  | some node => exact find?_transported metaStart node

theorem transports_processConstant : Transports processConstant := by
  intro definition s
  unfold processConstant
  rw [startNode_transported]
  cases startNode definition with
  | none => rfl
  | some node =>
    simp only [Option.map_some, isNumber_transported]
    split_ifs <;> rfl

theorem transports_processMemberName : Transports processMemberName :=
  transports_assign _ getString_transported _ fun _ _ => rfl

theorem transports_processAbsoluteReference : Transports processAbsoluteReference :=
  transports_assign _ getString_transported _ fun _ _ => rfl

theorem transports_processRule : Transports processRule := by
  intro definition s
  unfold processRule
  rw [find?_transported]
  cases definition.find? metaRule with
  | none => rfl
  | some node =>
    simp only [Option.map_some, getString_transported]
    refine map_eval _ s fun rule => ?_
    show (if _ then if s.linearDelta = 0 then _ else _ else _) = _
    split_ifs <;> rfl

/-! #### The data type -/

theorem transports_processBitFieldType : Transports processBitFieldType := by
  intro node s
  unfold processBitFieldType
  rw [getString_transported]
  refine map_eval _ s fun dataType => ?_
  split_ifs <;> rfl

theorem transports_processBitFieldBase : Transports processBitFieldBase := by
  intro details s
  unfold processBitFieldBase
  rw [index_transported]
  cases details.index metaDatatype with
  | error why => rfl
  | ok base => exact transports_processBitFieldType base.2 { s with datatypeDetails := base.1 }

theorem transports_processBitFieldBits : Transports processBitFieldBits := by
  intro details s
  unfold processBitFieldBits
  rw [index_transported]
  cases details.index metaBits with
  | error why => rfl
  | ok bits =>
    exact transports_processBitFieldBase bits.1
      { s with datatypeDetails := bits.1, bitsInterpretationObject := bits.2 }

theorem transports_processDatatype : Transports processDatatype := by
  intro definition s
  unfold processDatatype
  rw [find?_transported]
  cases definition.find? metaDatatype with
  | none => rfl
  | some node =>
    simp only [Option.map_some, getString_transported]
    refine map_eval _ s fun dataType => ?_
    cases scalarSampleType dataType with
    | some type => rfl
    | none =>
      dsimp only
      split_ifs
      · unfold processBitField
        rw [at?_transported]
        cases definition.at? dataTypeBitfield with
        | error why => rfl
        | ok details =>
          exact transports_processBitFieldBits details { s with datatypeDetails := details }
      · rw [at?_transported]
        cases definition.at? dataTypeArray <;> rfl
      · rw [at?_transported]
        cases definition.at? dataTypeStruct <;> rfl
      · rfl

/-! #### Related signals -/

theorem transports_processRelatedSignal : Transports processRelatedSignal := by
  intro arrayItem s
  unfold processRelatedSignal
  rw [at?_transported, at?_transported]
  cases arrayItem.at? metaType with
  | error why => rfl
  | ok typeNode =>
    simp only [Except.map, eval_ok, getString_transported]
    refine map_eval _ s fun type => ?_
    cases arrayItem.at? metaSignalid with
    | error why => rfl
    | ok idNode =>
      simp only [eval_ok, getString_transported]
      exact map_eval _ s fun signalId => rfl

theorem transports_processRelatedSignals : Transports processRelatedSignals := by
  intro params s
  unfold processRelatedSignals
  rw [find?_transported]
  cases params.find? metaRelatedsignals with
  | none => rfl
  | some node =>
    cases node with
    | array items =>
      show sequence ((transportedElements items).map processRelatedSignal)
        (transported { s with relatedSignals := [] }) = _
      rw [transportedElements_eq_map, List.map_map]
      refine sequence_map_of_forall₂ ?_ _
      rw [List.forall₂_map_left_iff, List.forall₂_map_right_iff]
      exact List.forall₂_same.mpr fun item _ => transports_processRelatedSignal item
    | numberInteger n =>
      rw [Option.map_some, Json.transported]
      split_ifs <;> rfl
    | _ => rfl

variable [JsonRuntime]

theorem transports_processValueIndex : Transports processValueIndex :=
  transports_assign _ getUInt64_transported _ fun _ _ => rfl

theorem transports_processLinear : Transports processLinear := by
  intro definition s
  unfold processLinear
  rw [deltaNode_transported]
  cases deltaNode definition with
  | none => rfl
  | some node =>
    simp only [Option.map_some, isNumber_transported, getUInt64_transported]
    split_ifs
    · exact map_eval node.getUInt64 { s with linearDeltaJson := node } fun x => rfl
    · rfl

theorem transports_processDataValueSize : Transports processDataValueSize := by
  intro definition s
  unfold processDataValueSize
  rw [getDataTypeSize_transported]
  refine map_eval _ s fun size => ?_
  split_ifs <;> rfl

theorem transports_processUnit : Transports processUnit := by
  intro definition s
  have hunit := transports_focus unit (fun u s => { s with unit := u })
    SignalUnit.parse_transported (fun _ => rfl) (fun _ _ => rfl) definition s
  unfold processUnit
  refine (congrArg (Completion.andThen · _) hunit).trans ?_
  dsimp only
  cases Completion.focus unit (fun u s => { s with unit := u }) (SignalUnit.parse definition) s with
  | abrupt why s' => rfl
  | normal s' =>
    show normal (if s'.unit.quantity = metaTime then _ else _) = Completion.map _ (normal _)
    split_ifs <;> rfl

theorem transports_processResolution : Transports processResolution := by
  intro definition s
  unfold processResolution
  rw [Resolution.parse_transported]
  refine map_eval _ s fun parsed => ?_
  split_ifs
  · unfold processTimeBaseFrequency
    show (if s.unit.isSeconds then if parsed.1.numerator = 0 then _ else _ else _) =
      Completion.map _ (if s.unit.isSeconds then if parsed.1.numerator = 0 then _ else _ else _)
    split_ifs <;> rfl
  · rfl

/-! #### Ids and floating point numbers -/

variable [LawfulJsonRuntime]

theorem transports_assignId (store : String → SubscribedSignal → SubscribedSignal)
    (hstore : ∀ a s, store a (transported s) = transported (store a s)) :
    Transports fun node => assignId node store := by
  intro node s
  unfold assignId
  simp only [isString_transported, isNumber_transported, getString_transported, text_transported]
  split_ifs
  · exact map_eval _ s fun id => congrArg normal (hstore id s)
  · exact map_eval _ s fun id => congrArg normal (hstore id s)
  · rfl

theorem transports_processSubscribe : Transports processSubscribe := by
  intro params s
  unfold processSubscribe
  rw [find?_transported]
  cases params.find? metaSignalid with
  | none => rfl
  | some node =>
    exact transports_assignId (fun id s => { s with signalId := id }) (fun _ _ => rfl) node s

theorem transports_processTableId : Transports processTableId := by
  intro params s
  unfold processTableId
  rw [find?_transported]
  cases params.find? metaTableid with
  | none => rfl
  | some node =>
    exact transports_assignId (fun id s => { s with tableId := id }) (fun _ _ => rfl) node s

theorem transports_processRange : Transports processRange :=
  transports_focus _ _ Range.parse_transported (fun _ => rfl) fun _ _ => rfl

theorem transports_processPostScaling : Transports processPostScaling :=
  transports_focus _ _ PostScaling.parse_transported (fun _ => rfl) fun _ _ => rfl

/-! ### Descriptions -/

/-- The statements about a definition. -/
theorem forall₂_definitionStatements (params definition : Json) :
    List.Forall₂ (fun p' p => ∀ s : SubscribedSignal, p' s.transported = (p s).map transported)
      (definitionStatements params.transported definition.transported)
      (definitionStatements params definition) :=
  .cons (transports_processLinear definition) <|
  .cons (transports_processConstant definition) <|
  .cons (transports_processRule definition) <|
  .cons (transports_processDataValueSize definition) <|
  .cons (transports_processMemberName definition) <|
  .cons (transports_processDatatype definition) <|
  .cons (transports_processUnit definition) <|
  .cons (transports_processResolution definition) <|
  .cons (transports_processAbsoluteReference definition) <|
  .cons (transports_processRange definition) <|
  .cons (transports_processPostScaling definition) <|
  .cons (transports_processRelatedSignals params) .nil

omit [JsonRuntime] [LawfulJsonRuntime] in
theorem catchJson_map (c : Completion SubscribedSignal) :
    catchJson (c.map transported) = (catchJson c).map transported := by
  cases c with
  | normal s => rfl
  | abrupt why s => cases why <;> rfl

theorem transports_processDefinition : Transports processDefinition := by
  intro params s
  unfold processDefinition
  rw [find?_transported]
  cases params.find? metaDefinition with
  | none => rfl
  | some definition =>
    simp only [Option.map_some]
    rw [sequence_map_of_forall₂ (forall₂_definitionStatements params definition), catchJson_map]

theorem transports_processSignal : Transports processSignal := by
  intro params s
  refine sequence_map_of_forall₂ ?_ s
  exact .cons (transports_processTableId params) <|
    .cons (transports_processValueIndex params) <|
    .cons (transports_processInterpretation params) <|
    .cons (transports_processDefinition params) .nil

/-- **Transported documents.** Meta information for a signal does the same when its document is read
back as when it was written, up to the documents that are stored. -/
theorem processSignalMetaInformation_transported (method : String) (params : Json)
    (s : SubscribedSignal) :
    s.transported.processSignalMetaInformation method params.transported =
      (s.processSignalMetaInformation method params).map transported := by
  unfold processSignalMetaInformation
  split_ifs
  · exact transports_processSubscribe params s
  · exact transports_processSignal params s
  · rfl

end SubscribedSignal

end StreamingProtocol
