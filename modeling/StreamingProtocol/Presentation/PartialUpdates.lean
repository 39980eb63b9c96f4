import StreamingProtocol.Presentation.UpdatedDefinitions

/-!
# Partial updates of a description

A producer that changes a signal sends the members that changed. A consumer takes them over into
the state that it has, so its state should be that of the complete description, the first one with
the update laid over it. A description and an update agree with their overlay but for members that
are understood together with others:

* the size of a value, which is computed from one definition alone, and kept if it is not known;
* the related signals, which are read only next to a definition;
* the interpretation, which is replaced as a whole;
* the base type of a bit field, which is looked at with the data type only;
* a resolution that contains a 0, which is not taken over at all;
* a member that has members in the description and is no object in the update.

## Main definitions

* `SubscribedSignal.SameDescriptiveState`: two signals are described alike.
* `SubscribedSignal.UpdateMerges`: when the update agrees with the overlay.

## Main results

* `SubscribedSignal.sameDescriptiveState_iff`.
* `SubscribedSignal.updateMerges_rateChange`: a change of the output rate merges.
-/

namespace StreamingProtocol

namespace SubscribedSignal

variable [JsonRuntime]

/-! ### When an update merges -/

omit [JsonRuntime] in
/-- Two signals agree in what is next to a definition. -/
structure SameParameters (s t : SubscribedSignal) : Prop where
  tableId : s.tableId = t.tableId
  linearValueIndex : s.linearValueIndex = t.linearValueIndex
  interpretationObject : s.interpretationObject = t.interpretationObject

omit [JsonRuntime] in
/-- Two signals agree in what is set when a definition is given. -/
structure SameDefinition (s t : SubscribedSignal) : Prop where
  ruleType : s.ruleType = t.ruleType
  linearDelta : s.linearDelta = t.linearDelta
  constRuleStart : s.constRuleStartJson = t.constRuleStartJson
  dataValueType : s.dataValueType = t.dataValueType
  dataValueSize : s.dataValueSize = t.dataValueSize
  memberName : s.memberName = t.memberName
  unit : s.unit = t.unit
  timeBaseFrequency : s.timeBaseFrequency = t.timeBaseFrequency
  timeBaseEpoch : s.timeBaseEpochAsString = t.timeBaseEpochAsString
  range : s.range = t.range
  postScaling : s.postScaling = t.postScaling
  relatedSignals : s.relatedSignals = t.relatedSignals

omit [JsonRuntime] in
/-- Two signals are described alike. -/
structure SameDescriptiveState (s t : SubscribedSignal) : Prop extends
  SameParameters s t, SameDefinition s t

/-- No member of an update is understood together with one that only the description before it
has. -/
structure UpdateMerges (s : SubscribedSignal) (description update : Json) : Prop where
  interpretation : ∀ lower upper, description.find? metaInterpretation = some lower →
    update.find? metaInterpretation = some upper → lower.merge upper = upper
  definitions : ∀ lower upper, description.find? metaDefinition = some lower →
    update.find? metaDefinition = some upper → s.DefinitionsMerge lower upper
  relatedBefore : description.find? metaDefinition = none →
    (update.find? metaDefinition).isSome → update.find? metaRelatedsignals = none →
    relatedGiven description s = s.relatedSignals
  relatedAfter : (description.find? metaDefinition).isSome →
    update.find? metaDefinition = none →
    ∀ node, update.find? metaRelatedsignals = some node →
      announcedRelatedSignals node = relatedGiven description s

/-! ### Descriptions -/

section Descriptions

variable {s t : SubscribedSignal} {description update definition : Json}

theorem describedBy_of_none (h : description.find? metaDefinition = none) :
    s.describedBy description = { s with
      tableId := tableNamed description s
      linearValueIndex := description.read Json.getUInt64 metaValueindex s.linearValueIndex
      interpretationObject := description.read .ok metaInterpretation s.interpretationObject } := by
  rw [describedBy, h]
  rfl

theorem describedBy_of_some (h : description.find? metaDefinition = some definition) :
    s.describedBy description = { s.definedBy description definition with
      tableId := tableNamed description s
      linearValueIndex := description.read Json.getUInt64 metaValueindex s.linearValueIndex
      interpretationObject := description.read .ok metaInterpretation s.interpretationObject } := by
  rw [describedBy, h]
  rfl

/-- A table id is always that of the update, if it has one. -/
theorem tableNamed_merge (hupdate : update.isObject) (h : t.Accepts update)
    (ht : t.tableId = tableNamed description s) :
    tableNamed update t = tableNamed (description.merge update) s := by
  have hverdict : Member.tableId.verdict update t = none := h .tableId (by decide)
  unfold Member.verdict at hverdict
  cases hnode : update.find? metaTableid with
  | none =>
    have hmerge : tableNamed (description.merge update) s = tableNamed description s := by
      unfold tableNamed
      rw [Json.find?_merge_of_none hupdate hnode]
    rw [hmerge, ← ht, tableNamed, hnode]
  | some node =>
    rw [hnode, Option.bind_some] at hverdict
    have hid : isStringOrNumber node := by
      unfold refuseUnless at hverdict
      split_ifs at hverdict with hid
      exact hid
    have hscalar : node.isObject = false := by
      cases node with
      | object members => cases hid
      | _ => rfl
    unfold tableNamed
    rw [Json.find?_merge_of_some hnode hscalar, hnode]
    dsimp only
    rw [if_pos hid, if_pos hid]
    have htext : node.isString ∨ ∃ text, node.text = .ok text := by
      rw [isStringOrNumber, Bool.or_eq_true] at hid
      exact hid.imp_right Json.exists_text_of_isNumber
    cases node with
    | string id => rfl
    | _ =>
      obtain hstring | ⟨text, htext⟩ := htext
      · cases hstring
      · simp only [htext]

theorem valueIndex_merge (hupdate : update.isObject) (h : t.Accepts update)
    (ht : t.linearValueIndex =
      description.read Json.getUInt64 metaValueindex s.linearValueIndex) :
    update.read Json.getUInt64 metaValueindex t.linearValueIndex =
      (description.merge update).read Json.getUInt64 metaValueindex s.linearValueIndex := by
  have hverdict : Member.valueIndex.verdict update t = none := h .valueIndex (by decide)
  rw [ht, Json.read_merge description hupdate]
  intro node hnode
  rw [Member.verdict, hnode, Option.bind_some] at hverdict
  split_ifs at hverdict with hnumber
  cases node <;> first | exact ⟨rfl, _, rfl⟩ | cases hnumber

omit [JsonRuntime] in
/-- An interpretation is replaced, so it should not be an overlay. -/
theorem interpretation_merge_iff (hupdate : update.isObject)
    (ht : t.interpretationObject =
      description.read .ok metaInterpretation s.interpretationObject) :
    update.read .ok metaInterpretation t.interpretationObject =
        (description.merge update).read .ok metaInterpretation s.interpretationObject ↔
      ∀ lower upper, description.find? metaInterpretation = some lower →
        update.find? metaInterpretation = some upper → lower.merge upper = upper := by
  have hmerge := Json.find?_merge description update metaInterpretation
  rw [ht]
  cases hupper : update.find? metaInterpretation with
  | none =>
    rw [hupper] at hmerge
    refine iff_of_true ?_ fun _ _ _ h => by cases h
    rw [Json.read_of_none hupper, Json.read, Json.read, hmerge]
    dsimp only
    rw [if_pos hupdate]
  | some upper =>
    rw [hupper] at hmerge
    rw [Json.read_of_find? hupper rfl, Json.read_of_find? hmerge rfl, Json.member]
    cases description.find? metaInterpretation with
    | none =>
      refine iff_of_true ?_ fun _ _ h => by cases h
      exact (Json.merge_of_not_isObject_left rfl upper).symm
    | some lower =>
      constructor
      · rintro h _ _ ⟨⟩ ⟨⟩
        exact h.symm
      · intro h
        exact (h lower upper rfl rfl).symm

omit [JsonRuntime] in
/-- The related signals are listed in an array, which is replaced. -/
theorem announcedRelatedSignals_merge (lower upper : Json) :
    announcedRelatedSignals (lower.merge upper) = announcedRelatedSignals upper := by
  cases hupper : upper.isObject with
  | false => rw [Json.merge_of_not_isObject lower hupper]
  | true =>
    cases upper <;> cases hupper
    cases lower with
    | object members =>
      rw [Json.merge]
      rfl
    | _ => rw [Json.merge_of_not_isObject_left rfl]

omit [JsonRuntime] in
theorem relatedGiven_merge (hupdate : update.isObject)
    (ht : t.relatedSignals = relatedGiven description s) :
    relatedGiven update t = relatedGiven (description.merge update) s := by
  have hmerge := Json.find?_merge description update metaRelatedsignals
  unfold relatedGiven at ht ⊢
  rw [hmerge]
  cases update.find? metaRelatedsignals with
  | none =>
    dsimp only
    rw [if_pos hupdate, ht]
  | some node =>
    exact (announcedRelatedSignals_merge _ node).symm

/-- What is next to a definition. -/
theorem sameParameters_merge_iff (hu : (s.describedBy description).Accepts update)
    (hupdate : update.isObject) :
    ((s.describedBy description).describedBy update).SameParameters
        (s.describedBy (description.merge update)) ↔
      ∀ lower upper, description.find? metaInterpretation = some lower →
        update.find? metaInterpretation = some upper → lower.merge upper = upper := by
  have hinterpretation := @interpretation_merge_iff s (s.describedBy description) description update
    hupdate rfl
  constructor
  · exact fun h => hinterpretation.mp h.interpretationObject
  · exact fun h => ⟨tableNamed_merge hupdate hu rfl, valueIndex_merge hupdate hu rfl,
      hinterpretation.mpr h⟩

/-- Two definitions, one after the other. -/
theorem sameDefinition_definitions {lower upper : Json}
    (hlower : description.find? metaDefinition = some lower)
    (hupper : update.find? metaDefinition = some upper)
    (hd : s.Accepts description) (hu : (s.describedBy description).Accepts update)
    (hm : s.Accepts (description.merge update)) (hupdate : update.isObject) :
    ((s.describedBy description).describedBy update).SameDefinition
        (s.describedBy (description.merge update)) ↔ s.DefinitionsMerge lower upper := by
  have hmerge : (description.merge update).find? metaDefinition = some (lower.merge upper) := by
    rw [Json.find?_merge, hupper, Json.member, hlower]
    rfl
  have hlowerAccepted := acceptedDefinition hd hlower
  have hupperAccepted := acceptedDefinition hu hupper
  have hmergeAccepted := acceptedDefinition hm hmerge
  have hsd := @describedBy_of_some _ s _ _ hlower
  have hdelta := @deltaInForce_merge_iff _ s _ lower _ hupperAccepted (by rw [hsd]; rfl)
  have hstart := @startNode_merge_iff _ s _ lower _ hupperAccepted (by rw [hsd]; rfl)
  have htype := announcedType_merge_iff hlowerAccepted hupperAccepted hmergeAccepted
    (by rw [hsd]; rfl)
  have hsize := sizeGiven_merge_iff hlowerAccepted hupperAccepted hmergeAccepted (by rw [hsd]; rfl)
  have hunit := unit_merge_iff hlowerAccepted hupperAccepted hmergeAccepted (by rw [hsd]; rfl)
  have hfrequency := frequencyGiven_merge_iff hlowerAccepted hupperAccepted hmergeAccepted
    (by rw [hsd]; rfl) (by rw [hsd]; rfl)
  have hrange := range_merge_iff hlowerAccepted hupperAccepted hmergeAccepted (by rw [hsd]; rfl)
  have hscaling := postScaling_merge_iff hlowerAccepted hupperAccepted hmergeAccepted
    (by rw [hsd]; rfl)
  rw [describedBy_of_some hupper, describedBy_of_some hmerge]
  constructor
  · intro h
    have hnumbers := hfrequency.mp h.timeBaseFrequency
    exact {
      delta := hdelta.mp h.linearDelta
      start := hstart.mp h.constRuleStart
      size := hsize.mp h.dataValueSize
      base := htype.mp h.dataValueType
      unit := hunit.mp h.unit
      frequency := hnumbers.1
      resolution := hnumbers.2
      range := hrange.mp h.range
      postScaling := hscaling.mp h.postScaling }
  · intro h
    exact {
      ruleType := ruleGiven_merge hlowerAccepted hupperAccepted hmergeAccepted (by rw [hsd]; rfl)
      linearDelta := hdelta.mpr h.delta
      constRuleStart := hstart.mpr h.start
      dataValueType := htype.mpr h.base
      dataValueSize := hsize.mpr h.size
      memberName := by
        refine Eq.trans ?_
          (Json.read_merge lower hupperAccepted.isObject hupperAccepted.name s.memberName).symm
        rw [hsd]
        rfl
      unit := hunit.mpr h.unit
      timeBaseFrequency := hfrequency.mpr ⟨h.frequency, h.resolution⟩
      timeBaseEpoch := by
        refine Eq.trans ?_ (Json.read_merge lower hupperAccepted.isObject hupperAccepted.epoch
          s.timeBaseEpochAsString).symm
        rw [hsd]
        rfl
      range := hrange.mpr h.range
      postScaling := hscaling.mpr h.postScaling
      relatedSignals := relatedGiven_merge hupdate (by rw [hsd]; rfl) }

/-- A definition that only the description before has. -/
theorem sameDefinition_lower {lower : Json}
    (hlower : description.find? metaDefinition = some lower)
    (hupper : update.find? metaDefinition = none) (hupdate : update.isObject) :
    ((s.describedBy description).describedBy update).SameDefinition
        (s.describedBy (description.merge update)) ↔
      ∀ node, update.find? metaRelatedsignals = some node →
        announcedRelatedSignals node = relatedGiven description s := by
  have hmerge : (description.merge update).find? metaDefinition = some lower :=
    (Json.find?_merge_of_none hupdate hupper).trans hlower
  have hmerged := @relatedGiven_merge s (s.describedBy description) description update hupdate
    (by rw [describedBy_of_some hlower]; rfl)
  have hrelated : relatedGiven description s = relatedGiven (description.merge update) s ↔
      ∀ node, update.find? metaRelatedsignals = some node →
        announcedRelatedSignals node = relatedGiven description s := by
    rw [← hmerged]
    cases hnode : update.find? metaRelatedsignals with
    | none =>
      refine iff_of_true ?_ fun node h => by cases h
      rw [relatedGiven, relatedGiven, hnode, describedBy_of_some hlower]
      rfl
    | some node =>
      rw [relatedGiven, relatedGiven, hnode]
      constructor
      · rintro h _ ⟨⟩
        exact h.symm
      · exact fun h => (h node rfl).symm
  rw [describedBy_of_none hupper, describedBy_of_some hmerge, describedBy_of_some hlower]
  constructor
  · exact fun h => hrelated.mp h.relatedSignals
  · exact fun h => ⟨rfl, rfl, rfl, rfl, rfl, rfl, rfl, rfl, rfl, rfl, rfl, hrelated.mpr h⟩

/-- A definition that only the update has. -/
theorem sameDefinition_upper {upper : Json}
    (hlower : description.find? metaDefinition = none)
    (hupper : update.find? metaDefinition = some upper) (hupdate : update.isObject) :
    ((s.describedBy description).describedBy update).SameDefinition
        (s.describedBy (description.merge update)) ↔
      (update.find? metaRelatedsignals = none →
        relatedGiven description s = s.relatedSignals) := by
  have hmerge : (description.merge update).find? metaDefinition = some upper := by
    rw [Json.find?_merge, hupper, Json.member, hlower]
    exact congrArg some (Json.merge_of_not_isObject_left rfl upper)
  have hrelated : relatedGiven update s = relatedGiven (description.merge update) s ↔
      (update.find? metaRelatedsignals = none →
        relatedGiven description s = s.relatedSignals) := by
    unfold relatedGiven
    rw [Json.find?_merge]
    cases update.find? metaRelatedsignals with
    | none =>
      dsimp only
      rw [if_pos hupdate]
      exact ⟨fun h _ => h.symm, fun h => (h rfl).symm⟩
    | some node =>
      exact iff_of_true (announcedRelatedSignals_merge _ node).symm fun h => by cases h
  rw [describedBy_of_some hupper, describedBy_of_some hmerge, describedBy_of_none hlower]
  constructor
  · exact fun h => hrelated.mp h.relatedSignals
  · exact fun h => ⟨rfl, rfl, rfl, rfl, rfl, rfl, rfl, rfl, rfl, rfl, rfl, hrelated.mpr h⟩

/-- Without definitions. -/
theorem sameDefinition_none (hlower : description.find? metaDefinition = none)
    (hupper : update.find? metaDefinition = none) (hupdate : update.isObject) :
    ((s.describedBy description).describedBy update).SameDefinition
      (s.describedBy (description.merge update)) := by
  have hmerge : (description.merge update).find? metaDefinition = none :=
    (Json.find?_merge_of_none hupdate hupper).trans hlower
  rw [describedBy_of_none hupper, describedBy_of_none hmerge, describedBy_of_none hlower]
  constructor <;> rfl

/-- A description and an update leave the state behind that their overlay leaves behind if and only
if the update merges. -/
theorem sameDescriptiveState_describedBy_iff (hd : s.Accepts description)
    (hu : (s.describedBy description).Accepts update) (hm : s.Accepts (description.merge update))
    (hupdate : update.isObject) :
    ((s.describedBy description).describedBy update).SameDescriptiveState
        (s.describedBy (description.merge update)) ↔ s.UpdateMerges description update := by
  have hsplit {t t' : SubscribedSignal} :
      t.SameDescriptiveState t' ↔ t.SameParameters t' ∧ t.SameDefinition t' :=
    ⟨fun h => ⟨h.toSameParameters, h.toSameDefinition⟩, fun h => ⟨h.1, h.2⟩⟩
  rw [hsplit, sameParameters_merge_iff hu hupdate]
  cases hlower : description.find? metaDefinition with
  | none =>
    cases hupper : update.find? metaDefinition with
    | none =>
      exact ⟨fun h => ⟨h.1, by simp [hlower], by simp [hupper], by simp [hlower]⟩,
        fun h => ⟨h.interpretation, sameDefinition_none hlower hupper hupdate⟩⟩
    | some upper =>
      rw [sameDefinition_upper hlower hupper hupdate]
      exact ⟨fun h => ⟨h.1, by simp [hlower], fun _ _ => h.2, by simp [hlower]⟩,
        fun h => ⟨h.interpretation, h.relatedBefore hlower (by rw [hupper]; rfl)⟩⟩
  | some lower =>
    cases hupper : update.find? metaDefinition with
    | none =>
      rw [sameDefinition_lower hlower hupper hupdate]
      exact ⟨fun h => ⟨h.1, by simp [hupper], by simp [hupper], fun _ _ => h.2⟩,
        fun h => ⟨h.interpretation, h.relatedAfter (by rw [hlower]; rfl) hupper⟩⟩
    | some upper =>
      rw [sameDefinition_definitions hlower hupper hd hu hm hupdate]
      constructor
      · rintro ⟨hinterpretation, h⟩
        refine ⟨hinterpretation, fun i j hi hj => ?_, by simp [hlower], by simp [hupper]⟩
        cases hlower.symm.trans hi
        cases hupper.symm.trans hj
        exact h
      · exact fun h => ⟨h.interpretation, h.definitions lower upper hlower hupper⟩

end Descriptions

/-! ### New signals -/

section New

variable {s₁ s₂ s₃ : SubscribedSignal} {description update : Members Json}

omit [JsonRuntime] in
theorem SameDescriptiveState.trans (h : s₁.SameDescriptiveState s₂)
    (h' : s₂.SameDescriptiveState s₃) : s₁.SameDescriptiveState s₃ where
  tableId := h.tableId.trans h'.tableId
  linearValueIndex := h.linearValueIndex.trans h'.linearValueIndex
  interpretationObject := h.interpretationObject.trans h'.interpretationObject
  ruleType := h.ruleType.trans h'.ruleType
  linearDelta := h.linearDelta.trans h'.linearDelta
  constRuleStart := h.constRuleStart.trans h'.constRuleStart
  dataValueType := h.dataValueType.trans h'.dataValueType
  dataValueSize := h.dataValueSize.trans h'.dataValueSize
  memberName := h.memberName.trans h'.memberName
  unit := h.unit.trans h'.unit
  timeBaseFrequency := h.timeBaseFrequency.trans h'.timeBaseFrequency
  timeBaseEpoch := h.timeBaseEpoch.trans h'.timeBaseEpoch
  range := h.range.trans h'.range
  postScaling := h.postScaling.trans h'.postScaling
  relatedSignals := h.relatedSignals.trans h'.relatedSignals

/-- What a description makes of a new signal does not depend on its number and its id. -/
theorem sameDescriptiveState_new (params : Json) (n n' : SignalNumber) (id id' : String) :
    (describedBy params { signalNumber := n, signalId := id }).SameDescriptiveState
      (describedBy params { signalNumber := n', signalId := id' }) := by
  unfold describedBy
  cases params.find? metaDefinition with
  | none => exact ⟨⟨rfl, rfl, rfl⟩, by constructor <;> rfl⟩
  | some definition => exact ⟨⟨rfl, rfl, rfl⟩, by constructor <;> rfl⟩

end New

/-! ### Two updates -/

section Updates

/-- A linear rule. -/
def linearRule (delta : UInt64) : Json :=
  .object [(metaRuletypeLinear, .object [(metaDelta, .numberUnsigned delta)]),
    (metaRule, .string metaRuletypeLinear)]

/-- A change of the output rate of a signal. -/
def rateChange (delta : UInt64) : Json :=
  .object [(metaRuletypeLinear, .object [(metaDelta, .numberUnsigned delta)])]

/-- A change of the output rate merges with every description that has a definition. -/
theorem updateMerges_rateChange (s : SubscribedSignal) {description : Json}
    (hdefinition : (description.find? metaDefinition).isSome) (delta : UInt64) :
    s.UpdateMerges description (.object [(metaDefinition, rateChange delta)]) where
  interpretation _ _ _ := nofun
  definitions lower upper _ := by
    rintro ⟨⟩
    have hfind {key : String} (hkey : key ≠ metaRuletypeLinear) :
        (rateChange delta).find? key = none := by
      rw [rateChange, Json.find?_object, Members.find?_cons, if_neg hkey.symm, Members.find?_nil]
    have hnested {key : String} (key' : String) (hkey : key ≠ metaRuletypeLinear) :
        (rateChange delta).nested key key' = none := by
      rw [Json.nested, hfind hkey, Option.bind_none]
    have hshown (key : String) : ¬(rateChange delta).hides key := by
      rw [Json.hides, rateChange, Json.find?_object, Members.find?_cons, Members.find?_nil]
      split_ifs
      · exact Bool.false_ne_true
      · exact Bool.false_ne_true
    have hnumber (key' : String) : resolutionNumber key' (rateChange delta) = none := by
      rw [resolutionNumber, hnested key' (by decide), Option.bind_none]
    have hmixes : ¬MixesSize lower (rateChange delta) := by
      rintro ⟨key, hkey, hne⟩
      have hother : ∀ key ∈ sizeMembers, key ≠ metaRuletypeLinear := by decide
      rw [Json.find?_merge_of_none rfl (hfind (hother key hkey)),
        hfind (by decide : metaDatatype ≠ metaRuletypeLinear)] at hne
      exact hne rfl
    exact {
      delta := fun h => absurd h (hshown _)
      start := fun h => absurd h (hshown _)
      size := by
        rintro (h | ⟨h, -⟩)
        · exact absurd h hmixes
        · rw [hfind (by decide)] at h
          cases h
      base := fun _ _ base h => by
        rw [hnested metaDatatype (by decide)] at h
        cases h
      unit := fun h => absurd h (hshown _)
      frequency := by
        rintro (h | h)
        · exact absurd h (hshown _)
        · rw [zeroResolution, hnumber, hnumber] at h
          exact absurd h (by decide)
      resolution := by
        intro hzero
        rw [hnumber, hnumber, Option.none_or, Option.none_or]
        exact (if_pos hzero).symm
      range := fun h => absurd h (hshown _)
      postScaling := fun h => absurd h (hshown _) }
  relatedBefore h := by
    rw [h] at hdefinition
    cases hdefinition
  relatedAfter _ := nofun

/-- The signal with the time stamps of the values. -/
def relatedTime : Json :=
  .array [.object [(metaSignalid, .string "time"), (metaType, .string metaTime)]]

theorem processSignalMetaInformation_of_accepts {params : Json} {s : SubscribedSignal}
    (h : s.Accepts params) :
    processSignalMetaInformation metaMethodSignal params s = .normal (s.describedBy params) :=
  processSignal_eq_normal_iff.mpr ⟨h, rfl⟩

end Updates

end SubscribedSignal

end StreamingProtocol
