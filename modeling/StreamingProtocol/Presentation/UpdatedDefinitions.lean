import StreamingProtocol.Presentation.DefinitionReads

/-!
# A definition and its update

A definition with another one laid over it, compared with the two of them read one after the other.
Reading a member of a member twice is reading the overlay, unless the update has a value that is no
object in place of the member. The size of a value, the base type of a bit field and the resolution
are read as a whole.

## Main definitions

* `SubscribedSignal.DefinitionsMerge`: when the two agree.

## Main results

* `SubscribedSignal.sizeGiven_merge_iff`, `SubscribedSignal.announcedType_merge_iff`,
  `SubscribedSignal.frequencyGiven_merge_iff`.
* `SubscribedSignal.unit_merge_iff`, `SubscribedSignal.range_merge_iff`,
  `SubscribedSignal.postScaling_merge_iff`.
-/

namespace StreamingProtocol

namespace SubscribedSignal

variable [JsonRuntime]

open Completion

/-! ### When definitions merge -/

omit [JsonRuntime] in
/-- The members that the size of a value depends on come from both definitions: they are not all
those of the one that has the data type, the update if it has one. -/
def MixesSize (lower upper : Json) : Prop :=
  ∃ key ∈ sizeMembers, (lower.merge upper).find? key ≠
    if (upper.find? metaDatatype).isSome then upper.find? key else lower.find? key

/-- A size with the one that a definition announces, if it is known. -/
def sizeWith (definition : Json) (size : UInt64) : UInt64 :=
  if announcedSize definition = 0 then size else announcedSize definition

/-- A resolution that contains a 0. -/
def zeroResolution (definition : Json) : Prop :=
  resolutionNumber metaNumerator definition = some 0 ∨
    resolutionNumber metaDenominator definition = some 0

/-- No member of an updated definition is understood together with one that only the definition
before it has. -/
structure DefinitionsMerge (s : SubscribedSignal) (lower upper : Json) : Prop where
  delta : upper.hides metaRuletypeLinear → deltaInForce lower s = s.linearDelta
  start : upper.hides metaRuletypeConstant →
    (startNode lower).getD s.constRuleStartJson = s.constRuleStartJson
  size : MixesSize lower upper ∨ (upper.find? metaDatatype).isSome ∧ announcedSize upper = 0 →
    sizeWith upper (sizeWith lower s.dataValueSize) =
      sizeWith (lower.merge upper) s.dataValueSize
  base : upper.find? metaDatatype = none →
    lower.find? metaDatatype = some (.string dataTypeBitfield) →
    ∀ base, upper.nested dataTypeBitfield metaDatatype = some base →
      lower.nested dataTypeBitfield metaDatatype = some base
  unit : upper.hides metaUnit → (SignalUnit.parse lower s.unit).state = s.unit
  frequency : (upper.hides metaResolution ∨ zeroResolution upper) →
    frequencyGiven lower s = s.timeBaseFrequency
  resolution : zeroResolution lower →
    frequencyOf (resolutionNumber metaNumerator upper) (resolutionNumber metaDenominator upper)
        s.resolution s.timeBaseFrequency =
      frequencyOf
        ((resolutionNumber metaNumerator upper).or (resolutionNumber metaNumerator lower))
        ((resolutionNumber metaDenominator upper).or (resolutionNumber metaDenominator lower))
        s.resolution s.timeBaseFrequency
  range : upper.hides metaRange → (Range.parse lower s.range).state = s.range
  postScaling : upper.hides metaPostscaling →
    (PostScaling.parse lower s.postScaling).state = s.postScaling

/-! ### Numbers of a resolution -/

section Frequency

variable {n d n' d' : Option UInt64} (r : Resolution) (frequency : UInt64)

omit [JsonRuntime] in
/-- Two resolutions one after the other are their overlay if none contains a 0. -/
theorem frequencyOf_or_iff :
    frequencyOf n' d' (resolutionOf n d r) (frequencyOf n d r frequency) =
        frequencyOf (n'.or n) (d'.or d) r frequency ↔
      (n' = some 0 ∨ d' = some 0 → frequencyOf n d r frequency = frequency) ∧
      (n = some 0 ∨ d = some 0 →
        frequencyOf n' d' r frequency = frequencyOf (n'.or n) (d'.or d) r frequency) := by
  by_cases hupper : n' = some 0 ∨ d' = some 0
  · have hmerged : n'.or n = some 0 ∨ d'.or d = some 0 := by
      obtain rfl | rfl := hupper
      · exact .inl rfl
      · exact .inr rfl
    have hkept (r : Resolution) (frequency : UInt64) :
        frequencyOf n' d' r frequency = frequency := if_pos hupper
    have hkept' : frequencyOf (n'.or n) (d'.or d) r frequency = frequency := if_pos hmerged
    rw [hkept, hkept, hkept']
    exact ⟨fun h => ⟨fun _ => h, fun _ => rfl⟩, fun h => h.1 hupper⟩
  · by_cases hlower : n = some 0 ∨ d = some 0
    · have hresolution : resolutionOf n d r = r := if_pos hlower
      have hkept : frequencyOf n d r frequency = frequency := if_pos hlower
      rw [hresolution, hkept]
      exact ⟨fun h => ⟨fun _ => rfl, fun _ => h⟩, fun h => h.2 hlower⟩
    · refine iff_of_true ?_ ⟨fun h => absurd h hupper, fun h => absurd h hlower⟩
      have hmerged : ¬(n'.or n = some 0 ∨ d'.or d = some 0) := by
        rw [not_or] at hupper hlower ⊢
        constructor
        · cases n' with
          | none => exact hlower.1
          | some x => exact hupper.1
        · cases d' with
          | none => exact hlower.2
          | some x => exact hupper.2
      unfold frequencyOf resolutionOf
      rw [if_neg hupper, if_neg hlower, if_neg hlower, if_neg hmerged]
      cases n' <;> cases d' <;> simp
      exact if_congr Iff.rfl rfl rfl

end Frequency

/-! ### The parts of two definitions -/

section Definitions

variable {s t : SubscribedSignal} {lower upper : Json}

theorem ruleGiven_merge (hlower : s.AcceptedDefinition lower) (hupper : t.AcceptedDefinition upper)
    (hmerge : s.AcceptedDefinition (lower.merge upper)) (ht : t.ruleType = ruleGiven lower s) :
    ruleGiven upper t = ruleGiven (lower.merge upper) s := by
  rw [hupper.ruleGiven_eq, hmerge.ruleGiven_eq, ht, hlower.ruleGiven_eq,
    Json.read_merge lower hupper.isObject hupper.readable_rule]

theorem deltaInForce_merge_iff (hupper : t.AcceptedDefinition upper)
    (ht : t.linearDelta = deltaInForce lower s) :
    deltaInForce upper t = deltaInForce (lower.merge upper) s ↔
      (upper.hides metaRuletypeLinear → deltaInForce lower s = s.linearDelta) := by
  simp only [deltaInForce_eq] at ht ⊢
  rw [ht]
  exact Json.readIn_eq_readIn_merge_iff lower hupper.isObject hupper.delta s.linearDelta

theorem startNode_merge_iff (hupper : t.AcceptedDefinition upper)
    (ht : t.constRuleStartJson = (startNode lower).getD s.constRuleStartJson) :
    (startNode upper).getD t.constRuleStartJson =
        (startNode (lower.merge upper)).getD s.constRuleStartJson ↔
      (upper.hides metaRuletypeConstant →
        (startNode lower).getD s.constRuleStartJson = s.constRuleStartJson) := by
  simp only [startNode_getD] at ht ⊢
  rw [ht]
  exact Json.readIn_eq_readIn_merge_iff lower hupper.isObject hupper.start s.constRuleStartJson

/-- The size of a value is that of the overlay if it is known and depends on one definition. -/
theorem sizeGiven_merge_iff (hlower : s.AcceptedDefinition lower)
    (hupper : t.AcceptedDefinition upper) (hmerge : s.AcceptedDefinition (lower.merge upper))
    (ht : t.dataValueSize = sizeGiven lower s) :
    sizeGiven upper t = sizeGiven (lower.merge upper) s ↔
      (MixesSize lower upper ∨ (upper.find? metaDatatype).isSome ∧ announcedSize upper = 0 →
        sizeWith upper (sizeWith lower s.dataValueSize) =
          sizeWith (lower.merge upper) s.dataValueSize) := by
  rw [sizeGiven_eq upper, sizeGiven_eq (lower.merge upper), ht, sizeGiven_eq lower]
  change sizeWith upper (sizeWith lower s.dataValueSize) = sizeWith (lower.merge upper) _ ↔ _
  by_cases hfails : MixesSize lower upper ∨
      (upper.find? metaDatatype).isSome ∧ announcedSize upper = 0
  · exact ⟨fun h _ => h, fun h => h hfails⟩
  · refine iff_of_true ?_ fun h => absurd h hfails
    obtain ⟨hmixes, hknown⟩ := not_or.mp hfails
    have hmembers : ∀ key ∈ sizeMembers, (lower.merge upper).find? key =
        if (upper.find? metaDatatype).isSome then upper.find? key else lower.find? key :=
      fun key hkey => not_not.mp fun hne => hmixes ⟨key, hkey, hne⟩
    unfold sizeWith
    by_cases htyped : (upper.find? metaDatatype).isSome
    · simp only [if_pos htyped] at hmembers
      have hnonzero : announcedSize upper ≠ 0 := fun hzero => hknown ⟨htyped, hzero⟩
      rw [announcedSize_congr hmembers hmerge.size hupper.size, if_neg hnonzero, if_neg hnonzero]
    · simp only [if_neg htyped] at hmembers
      have hzero : announcedSize upper = 0 := by
        by_contra hne
        exact htyped (isSome_of_announcedSize hne)
      rw [announcedSize_congr hmembers hmerge.size hlower.size, if_pos hzero]

/-- The members of a unit are updated one by one. -/
theorem unit_merge_iff (hlower : s.AcceptedDefinition lower) (hupper : t.AcceptedDefinition upper)
    (hmerge : s.AcceptedDefinition (lower.merge upper))
    (ht : t.unit = (SignalUnit.parse lower s.unit).state) :
    (SignalUnit.parse upper t.unit).state = (SignalUnit.parse (lower.merge upper) s.unit).state ↔
      (upper.hides metaUnit → (SignalUnit.parse lower s.unit).state = s.unit) := by
  obtain ⟨u, hu⟩ := hlower.unit
  obtain ⟨u', hu'⟩ := hupper.unit
  obtain ⟨u'', hu''⟩ := hmerge.unit
  obtain ⟨hlowerUnit, -⟩ := SignalUnit.parse_eq_of_normal hu
  obtain ⟨hupperUnit, hid, hname, hquantity⟩ := SignalUnit.parse_eq_of_normal hu'
  obtain ⟨hmergeUnit, -⟩ := SignalUnit.parse_eq_of_normal hu''
  have hread := Json.readIn_eq_readIn_merge_iff lower hupper.isObject hid s.unit.id
  have hread' := Json.readIn_eq_readIn_merge_iff lower hupper.isObject hname s.unit.displayName
  have hread'' := Json.readIn_eq_readIn_merge_iff lower hupper.isObject hquantity s.unit.quantity
  rw [hu, Completion.state_normal] at ht ⊢
  rw [hu', hu'', Completion.state_normal, Completion.state_normal, hupperUnit, hmergeUnit, ht,
    hlowerUnit, SignalUnit.mk.injEq, hread, hread', hread'', ← forall_and, ← forall_and]
  exact forall_congr' fun _ => (Iff.of_eq (SignalUnit.mk.injEq ..)).symm

theorem range_merge_iff (hlower : s.AcceptedDefinition lower) (hupper : t.AcceptedDefinition upper)
    (hmerge : s.AcceptedDefinition (lower.merge upper))
    (ht : t.range = (Range.parse lower s.range).state) :
    (Range.parse upper t.range).state = (Range.parse (lower.merge upper) s.range).state ↔
      (upper.hides metaRange → (Range.parse lower s.range).state = s.range) := by
  obtain ⟨r, hr⟩ := hlower.range
  obtain ⟨r', hr'⟩ := hupper.range
  obtain ⟨r'', hr''⟩ := hmerge.range
  obtain ⟨hlowerRange, -⟩ := Range.parse_eq_of_normal hr
  obtain ⟨hupperRange, hlow, hhigh⟩ := Range.parse_eq_of_normal hr'
  obtain ⟨hmergeRange, -⟩ := Range.parse_eq_of_normal hr''
  have hread := Json.readIn_eq_readIn_merge_iff lower hupper.isObject hlow s.range.low
  have hread' := Json.readIn_eq_readIn_merge_iff lower hupper.isObject hhigh s.range.high
  rw [hr, Completion.state_normal] at ht ⊢
  rw [hr', hr'', Completion.state_normal, Completion.state_normal, hupperRange, hmergeRange, ht,
    hlowerRange, Range.mk.injEq, hread, hread', ← forall_and]
  exact forall_congr' fun _ => (Iff.of_eq (Range.mk.injEq ..)).symm

theorem postScaling_merge_iff (hlower : s.AcceptedDefinition lower)
    (hupper : t.AcceptedDefinition upper) (hmerge : s.AcceptedDefinition (lower.merge upper))
    (ht : t.postScaling = (PostScaling.parse lower s.postScaling).state) :
    (PostScaling.parse upper t.postScaling).state =
        (PostScaling.parse (lower.merge upper) s.postScaling).state ↔
      (upper.hides metaPostscaling →
        (PostScaling.parse lower s.postScaling).state = s.postScaling) := by
  obtain ⟨p, hp⟩ := hlower.postScaling
  obtain ⟨p', hp'⟩ := hupper.postScaling
  obtain ⟨p'', hp''⟩ := hmerge.postScaling
  obtain ⟨hlowerScaling, -⟩ := PostScaling.parse_eq_of_normal hp
  obtain ⟨hupperScaling, hoffset, hscale⟩ := PostScaling.parse_eq_of_normal hp'
  obtain ⟨hmergeScaling, -⟩ := PostScaling.parse_eq_of_normal hp''
  have hread := Json.readIn_eq_readIn_merge_iff lower hupper.isObject hoffset s.postScaling.offset
  have hread' := Json.readIn_eq_readIn_merge_iff lower hupper.isObject hscale s.postScaling.scale
  rw [hp, Completion.state_normal] at ht ⊢
  rw [hp', hp'', Completion.state_normal, Completion.state_normal, hupperScaling, hmergeScaling,
    ht, hlowerScaling, PostScaling.mk.injEq, hread, hread', ← forall_and]
  exact forall_congr' fun _ => (Iff.of_eq (PostScaling.mk.injEq ..)).symm

/-- A data type is updated but for the base type of a bit field, which has to be given with it. -/
theorem announcedType_merge_iff (hlower : s.AcceptedDefinition lower)
    (hupper : t.AcceptedDefinition upper) (hmerge : s.AcceptedDefinition (lower.merge upper))
    (ht : t.dataValueType = (announcedType lower).getD s.dataValueType) :
    (announcedType upper).getD t.dataValueType =
        (announcedType (lower.merge upper)).getD s.dataValueType ↔
      (upper.find? metaDatatype = none →
        lower.find? metaDatatype = some (.string dataTypeBitfield) →
        ∀ base, upper.nested dataTypeBitfield metaDatatype = some base →
          lower.nested dataTypeBitfield metaDatatype = some base) := by
  have hnested := Json.nested_merge lower hupper.isObject dataTypeBitfield metaDatatype
  have hnone {definition : Json} (h : definition.find? metaDatatype = none) :
      announcedType definition = none := by
    unfold announcedType
    rw [h]
  rw [ht]
  cases hnode : upper.find? metaDatatype with
  | some node =>
    refine iff_of_true ?_ nofun
    obtain ⟨dataType, type, rfl, htype, hnamed⟩ := exists_of_datatypeVerdict hupper.datatype hnode
    obtain ⟨dataType', type', hsame, htype', hnamed'⟩ :=
      exists_of_datatypeVerdict hmerge.datatype (Json.find?_merge_of_some hnode rfl)
    cases hsame
    rw [htype, htype', Option.getD_some, Option.getD_some]
    by_cases hbit : dataType = dataTypeBitfield
    · subst hbit
      refine (sampleTypeNamed_bitfield_inj hnamed hnamed').mpr ?_
      obtain ⟨hbase, -⟩ | ⟨hbase, -⟩ := sampleTypeNamed_bitfield_iff.mp hnamed
      · rw [hnested, hbase]
        exact congrArg some (Json.merge_of_not_isObject _ rfl).symm
      · rw [hnested, hbase]
        exact congrArg some (Json.merge_of_not_isObject _ rfl).symm
    · rw [sampleTypeNamed_of_ne hbit _ (Json.nested dataTypeBitfield metaDatatype upper)] at hnamed'
      exact Option.some.inj (hnamed.symm.trans hnamed')
  | none =>
    rw [hnone hnode, Option.getD_none]
    have hkept : (lower.merge upper).find? metaDatatype = lower.find? metaDatatype :=
      Json.find?_merge_of_none hupper.isObject hnode
    cases hbelow : lower.find? metaDatatype with
    | none =>
      rw [hnone hbelow, hnone (hkept.trans hbelow)]
      exact iff_of_true rfl fun _ => nofun
    | some node =>
      obtain ⟨dataType, type, rfl, htype, hnamed⟩ :=
        exists_of_datatypeVerdict hlower.datatype hbelow
      obtain ⟨dataType', type', hsame, htype', hnamed'⟩ :=
        exists_of_datatypeVerdict hmerge.datatype (hkept.trans hbelow)
      cases hsame
      rw [htype, htype', Option.getD_some, Option.getD_some]
      by_cases hbit : dataType = dataTypeBitfield
      · subst hbit
        rw [sampleTypeNamed_bitfield_inj hnamed hnamed', hnested]
        rw [hnested] at hnamed'
        cases hbase : Json.nested dataTypeBitfield metaDatatype upper with
        | none =>
          rw [hbase] at hnamed'
          refine iff_of_true ?_ fun _ _ _ => nofun
          dsimp only at hnamed' ⊢
          split_ifs at hnamed' ⊢ with hhides
          · obtain ⟨hbase, -⟩ | ⟨hbase, -⟩ := sampleTypeNamed_bitfield_iff.mp hnamed' <;>
              cases hbase
          · rfl
        | some upperBase =>
          obtain ⟨base, hstring⟩ : ∃ base,
              Json.nested dataTypeBitfield metaDatatype lower = some (.string base) := by
            obtain ⟨hbase, -⟩ | ⟨hbase, -⟩ := sampleTypeNamed_bitfield_iff.mp hnamed
            · exact ⟨_, hbase⟩
            · exact ⟨_, hbase⟩
          rw [hstring]
          dsimp only
          rw [Option.getD_some, Json.merge_of_not_isObject_left rfl]
          constructor
          · rintro h - - base' hbase'
            exact h.trans hbase'
          · exact fun h => h rfl rfl upperBase rfl
      · rw [sampleTypeNamed_of_ne hbit _ (Json.nested dataTypeBitfield metaDatatype lower)]
          at hnamed'
        refine iff_of_true (Option.some.inj (hnamed.symm.trans hnamed')) fun _ h => ?_
        exact absurd (Json.string.inj (Option.some.inj h)) hbit

/-- A number of a resolution in an overlay. -/
theorem resolutionNumber_merge (hobject : upper.isObject) {key : String}
    (h : Readable Json.getUInt64 (upper.nested metaResolution key)) :
    resolutionNumber key (lower.merge upper) =
      if upper.hides metaResolution then none
      else (resolutionNumber key upper).or (resolutionNumber key lower) := by
  have hnested := Json.nested_merge lower hobject metaResolution key
  unfold resolutionNumber
  rw [hnested]
  cases hvalue : Json.nested metaResolution key upper with
  | none =>
    dsimp only
    split_ifs <;> rfl
  | some value =>
    obtain ⟨hscalar, x, hx⟩ := h value hvalue
    dsimp only
    rw [Json.merge_of_not_isObject _ hscalar, Json.hides_of_nested hvalue,
      if_neg Bool.false_ne_true, Option.bind_some, hx]
    rfl

/-- A resolution is updated number by number, unless it contains a 0. -/
theorem frequencyGiven_merge_iff (hlower : s.AcceptedDefinition lower)
    (hupper : t.AcceptedDefinition upper) (hmerge : s.AcceptedDefinition (lower.merge upper))
    (hresolution : t.resolution = resolutionGiven lower s)
    (hfrequency : t.timeBaseFrequency = frequencyGiven lower s) :
    frequencyGiven upper t = frequencyGiven (lower.merge upper) s ↔
      ((upper.hides metaResolution ∨ zeroResolution upper) →
        frequencyGiven lower s = s.timeBaseFrequency) ∧
      (zeroResolution lower →
        frequencyOf (resolutionNumber metaNumerator upper) (resolutionNumber metaDenominator upper)
            s.resolution s.timeBaseFrequency =
          frequencyOf
            ((resolutionNumber metaNumerator upper).or (resolutionNumber metaNumerator lower))
            ((resolutionNumber metaDenominator upper).or (resolutionNumber metaDenominator lower))
            s.resolution s.timeBaseFrequency) := by
  obtain ⟨parsed, hparsed⟩ := hupper.resolution
  obtain ⟨hnumerator, hdenominator, -⟩ := resolution_parse_eq hparsed
  rw [frequencyGiven_eq hupper.resolution, frequencyGiven_eq hmerge.resolution, hresolution,
    hfrequency, resolutionGiven_eq hlower.resolution, frequencyGiven_eq hlower.resolution,
    resolutionNumber_merge hupper.isObject hnumerator]
  by_cases hhides : upper.hides metaResolution
  · have hnone (key : String) : resolutionNumber key upper = none := by
      rw [resolutionNumber, Json.nested_of_hides hhides, Option.bind_none]
    have hdenominator : Readable Json.getUInt64 (upper.nested metaResolution metaDenominator) := by
      rw [Json.nested_of_hides hhides]
      exact nofun
    rw [resolutionNumber_merge hupper.isObject hdenominator, if_pos hhides, if_pos hhides, hnone,
      hnone, Option.none_or, Option.none_or]
    change frequencyOf _ _ _ _ = s.timeBaseFrequency ↔ _
    refine ⟨fun h => ⟨fun _ => h, fun hzero => (if_pos hzero).symm⟩, fun h => h.1 (.inl hhides)⟩
  · have hmerged : frequencyOf ((resolutionNumber metaNumerator upper).or
          (resolutionNumber metaNumerator lower))
        (resolutionNumber metaDenominator (lower.merge upper)) s.resolution s.timeBaseFrequency =
      frequencyOf ((resolutionNumber metaNumerator upper).or
          (resolutionNumber metaNumerator lower))
        ((resolutionNumber metaDenominator upper).or (resolutionNumber metaDenominator lower))
        s.resolution s.timeBaseFrequency := by
      by_cases hzero : resolutionNumber metaNumerator upper = some 0
      · rw [hzero]
        rfl
      · rw [resolutionNumber_merge hupper.isObject (hdenominator hzero), if_neg hhides]
    rw [if_neg hhides, hmerged, frequencyOf_or_iff]
    exact and_congr_left' (imp_congr_left (or_iff_right hhides).symm)

end Definitions

end SubscribedSignal

end StreamingProtocol
