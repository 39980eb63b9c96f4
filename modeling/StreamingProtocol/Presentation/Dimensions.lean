import StreamingProtocol.Presentation.AcceptedDescription
import StreamingProtocol.Presentation.NestedTypes

/-!
# Dimensions

A definition may have a dimension with a linear rule, which says at which points a value is given.
The size of a value is multiplied by the number of points. It is known only if the dimension starts
with 1 and has a delta of 0; otherwise the definition is accepted nevertheless, and the signal keeps
the size that it has.

## Main definitions

* `Json.withDimension`: a definition with a dimension.
* `LinearDimension`: a dimension with a linear rule.

## Main results

* `LinearDimension.getDataTypeSize_withDimension`: the size of a value with a dimension.
* `SubscribedSignal.accepts_withDimension_iff`: a dimension is no reason for a refusal.
* `LinearDimension.multiplies_iff`.
-/

/-- A definition to which a dimension is added. -/
def Json.withDimension (definition dimension : Json) : Json :=
  definition.set StreamingProtocol.metaDimensions (.array [dimension])

namespace StreamingProtocol

variable [JsonRuntime]

/-- A dimension with a linear rule, whose start and delta are numbers, and its number of points. -/
structure LinearDimension (dimension start delta : Json) (points : ℕ) : Prop where
  rule : dimension.find? metaRule = some (.string metaRuletypeLinear)
  linear : ∃ linear, dimension.find? metaRuletypeLinear = some linear ∧
    linear.find? metaStart = some start ∧ linear.find? metaDelta = some delta ∧
      ∃ node size, linear.find? metaSize = some node ∧ node.getInt32 = .ok size ∧
        size.toInt = points
  start : start.isNumber
  delta : delta.isNumber
  pos : 1 ≤ points

/-! ### The size of a value -/

section Size

variable {definition dimension start delta : Json} {points : ℕ}

omit [JsonRuntime] in
/-- A number that is not negative is extended to 64 bits. -/
theorem toUInt64_of_toInt {size : Int32} {n : ℕ} (h : size.toInt = n) :
    size.toInt64.toUInt64 = .ofNat n := by
  have hnonneg : 0 ≤ size.toInt64 := by
    rw [Int64.le_iff_toInt_le, Int32.toInt_toInt64, h]
    exact Int.natCast_nonneg n
  have hnat : size.toInt64.toUInt64.toNat = n := by
    rw [Int64.toNat_toUInt64_of_le hnonneg, Int32.toNatClampNeg_toInt64]
    show size.toInt.toNat = n
    rw [h, Int.toNat_natCast]
  rw [← hnat, UInt64.ofNat_toNat]

theorem exists_getInt32 {node : Json} (h : node.isNumber) : ∃ x, node.getInt32 = .ok x := by
  cases node <;> first | exact ⟨_, rfl⟩ | cases h

/-- The points of a dimension are counted if it starts with 1 and has a delta of 0. -/
theorem LinearDimension.dimensionCount_eq (h : LinearDimension dimension start delta points)
    (hdimensions : definition.find? metaDimensions = some (.array [dimension])) :
    dimensionCount definition = .ok (if start.getInt32 = .ok 1 ∧ delta.getInt32 = .ok 0 then
      some (.ofNat points) else none) := by
  obtain ⟨linear, hlinear, hstart, hdelta, node, size, hnode, hsize, hpoints⟩ := h.linear
  have hobject : dimension.isObject := Json.isObject_of_find? hlinear
  have hlinearObject : linear.isObject := Json.isObject_of_find? hstart
  obtain ⟨first, hfirst⟩ := exists_getInt32 h.start
  obtain ⟨step, hstep⟩ := exists_getInt32 h.delta
  have hcount : linearCount linear = .ok (if first = 1 ∧ step = 0 then
      some (.ofNat points) else none) := by
    rw [← toUInt64_of_toInt hpoints, linearCount, Json.valueOr_of_find? hlinearObject hstart,
      Json.valueOr_of_find? hlinearObject hdelta, Json.valueOr_of_find? hlinearObject hnode, hsize,
      hfirst, hstep]
    simp only [bind, Except.bind, pure, Except.pure]
    by_cases h₁ : first = 1
    · by_cases h₂ : step = 0 <;> simp [h₁, h₂]
    · simp [h₁]
  simp only [hfirst, hstep, Except.ok.injEq]
  rw [dimensionCount, hdimensions]
  dsimp only
  rw [if_pos hobject, Json.valueOr_of_find? hobject h.rule]
  cases linear with
  | object members =>
    rw [hlinear]
    exact hcount
  | _ => cases hlinearObject

omit [JsonRuntime] in
/-- A dimension leaves the other members of a definition alone. -/
theorem find?_withDimension (hobject : definition.isObject) {key : String}
    (hkey : metaDimensions ≠ key) :
    (definition.withDimension dimension).find? key = definition.find? key :=
  Json.find?_set_of_ne hkey _ (.inl hobject)

/-- What the size of a value without dimensions is read from. -/
theorem elementSize_withDimension (hobject : definition.isObject) :
    elementSize (definition.withDimension dimension) = elementSize definition := by
  have hne : ∀ key ∈ elementMembers, metaDimensions ≠ key := by decide
  exact elementSize_congr (Json.isObject_set ..) hobject fun key hkey =>
    find?_withDimension hobject (hne key hkey)

/-- A dimension multiplies the size of a value if its points are counted. -/
theorem LinearDimension.getDataTypeSize_withDimension
    (h : LinearDimension dimension start delta points)
    (hnone : definition.find? metaDimensions = none) {octets : UInt64}
    (hoctets : getDataTypeSize definition = .ok octets) :
    getDataTypeSize (definition.withDimension dimension) =
      .ok (if start.getInt32 = .ok 1 ∧ delta.getInt32 = .ok 0 then
        octets * .ofNat points else 0) := by
  have hcount := h.dimensionCount_eq (Json.find?_set_self metaDimensions _ definition)
  have hobject := isObject_of_getDataTypeSize hoctets
  have hread := hoctets
  rw [getDataTypeSize] at hread
  obtain ⟨name, hname, -⟩ := Json.bind_eq_ok.mp hread
  have hname' : (definition.withDimension dimension).valueOr Json.getString metaName "" =
      .ok name := by
    rw [← hname]
    exact Json.valueOr_congr (Json.isObject_set ..) hobject
      (find?_withDimension hobject (by decide))
  have hone : dimensionCount definition = .ok (some 1) := by
    rw [dimensionCount, hnone]
    rfl
  have helement : elementSize definition = .ok octets := by
    rcases getDataTypeSize_cases hoctets with ⟨hunknown, -⟩ | ⟨count, element, hcount, hsize, rfl⟩
    · cases hunknown.symm.trans hone
    · cases hcount.symm.trans hone
      rw [hsize, UInt64.mul_one]
  split_ifs at hcount with hcounted
  · rw [if_pos hcounted, getDataTypeSize_eq hname' hcount, elementSize_withDimension hobject,
      helement]
    rfl
  · have hcount : dimensionCount (definition.withDimension dimension) = .ok none := hcount
    rw [if_neg hcounted, getDataTypeSize, hname', hcount]
    rfl

end Size

/-! ### What becomes of a description -/

namespace SubscribedSignal

variable {definition dimension : Json}

omit [JsonRuntime] in
/-- The data type is read from other members. -/
theorem datatypeVerdict_withDimension (hobject : definition.isObject) :
    datatypeVerdict (definition.withDimension dimension) = datatypeVerdict definition := by
  have hfind {key : String} (hkey : metaDimensions ≠ key) :
      (definition.withDimension dimension).find? key = definition.find? key :=
    find?_withDimension hobject hkey
  simp only [datatypeVerdict, hfind (by decide : metaDimensions ≠ metaDatatype),
    hfind (by decide : metaDimensions ≠ dataTypeBitfield)]
  cases definition.find? metaDatatype with
  | none => rfl
  | some node =>
    cases node with
    | string dataType =>
      dsimp only
      by_cases hnested : dataType = dataTypeArray ∨ dataType = dataTypeStruct
      · have hkey : metaDimensions ≠ dataType := by
          rcases hnested with rfl | rfl
          · decide
          · decide
        rw [hfind hkey]
      · rw [if_neg hnested, if_neg hnested]
    | _ => rfl

/-- A dimension is no reason for a refusal. -/
theorem accepts_withDimension_iff (s : SubscribedSignal) {params : Json}
    (hdefinition : params.find? metaDefinition = some definition)
    (hobject : definition.isObject) {octets octets' : UInt64}
    (hoctets : getDataTypeSize definition = .ok octets)
    (hoctets' : getDataTypeSize (definition.withDimension dimension) = .ok octets') :
    s.Accepts (params.set metaDefinition (definition.withDimension dimension)) ↔
      s.Accepts params := by
  have hparams {key : String} (hkey : metaDefinition ≠ key) :
      (params.set metaDefinition (definition.withDimension dimension)).find? key =
        params.find? key :=
    Json.find?_set_of_ne hkey _ (.inl (Json.isObject_of_find? hdefinition))
  have hself := Json.find?_set_self metaDefinition (definition.withDimension dimension) params
  have hfind {key : String} (hkey : metaDimensions ≠ key) :
      (definition.withDimension dimension).find? key = definition.find? key :=
    find?_withDimension hobject hkey
  unfold Accepts
  refine forall₂_congr fun m _ => Eq.congr_left ?_
  cases m with
  | tableId => simp only [Member.verdict, hparams (by decide : metaDefinition ≠ metaTableid)]
  | valueIndex => simp only [Member.verdict, hparams (by decide : metaDefinition ≠ metaValueindex)]
  | interpretation => rfl
  | rule =>
    simp only [Member.verdict, definitionVerdict, hself, hdefinition, Option.bind_some, deltaNode,
      startNode, deltaInForce, ruleAccepted,
      hfind (by decide : metaDimensions ≠ metaRuletypeLinear),
      hfind (by decide : metaDimensions ≠ metaRuletypeConstant),
      hfind (by decide : metaDimensions ≠ metaRule)]
  | dataValueSize =>
    simp only [Member.verdict, definitionVerdict, hself, hdefinition, Option.bind_some, hoctets,
      hoctets', failure]
  | memberName =>
    simp only [Member.verdict, definitionVerdict, hself, hdefinition, Option.bind_some, readVerdict,
      hfind (by decide : metaDimensions ≠ metaName)]
  | datatype =>
    simp only [Member.verdict, definitionVerdict, hself, hdefinition, Option.bind_some,
      datatypeVerdict_withDimension hobject]
  | unit =>
    simp only [Member.verdict, definitionVerdict, hself, hdefinition, Option.bind_some, unitVerdict,
      SignalUnit.parse, resolutionVerdict, Resolution.parse,
      hfind (by decide : metaDimensions ≠ metaUnit),
      hfind (by decide : metaDimensions ≠ metaResolution)]
  | absoluteReference =>
    simp only [Member.verdict, definitionVerdict, hself, hdefinition, Option.bind_some, readVerdict,
      hfind (by decide : metaDimensions ≠ metaAbsoluteReference)]
  | range =>
    simp only [Member.verdict, definitionVerdict, hself, hdefinition, Option.bind_some, Range.parse,
      hfind (by decide : metaDimensions ≠ metaRange)]
  | postScaling =>
    simp only [Member.verdict, definitionVerdict, hself, hdefinition, Option.bind_some,
      PostScaling.parse, hfind (by decide : metaDimensions ≠ metaPostscaling)]
  | relatedSignals =>
    simp only [Member.verdict, definitionVerdict, hself, hdefinition, Option.bind_some,
      relatedVerdict, hparams (by decide : metaDefinition ≠ metaRelatedsignals)]
  | identity => rfl

end SubscribedSignal

/-- **Dimensions.** A description to which a dimension is added gives the signal the size of a value
times the number of points, if it is accepted, if and only if the dimension starts with 1 and has a
delta of 0, or the signal has this size already, or the description is refused without the dimension
as well. -/
theorem LinearDimension.multiplies_iff {dimension start delta definition params : Json}
    {points : ℕ} (h : LinearDimension dimension start delta points)
    (hdefinition : params.find? metaDefinition = some definition)
    (hnone : definition.find? metaDimensions = none) {octets : UInt64}
    (hoctets : getDataTypeSize definition = .ok octets) (hpos : octets ≠ 0)
    (hlt : points * octets.toNat < 2 ^ 64) (s : SubscribedSignal) :
    (∀ s', s.processSignal (params.set metaDefinition (definition.withDimension dimension)) =
        .normal s' → s'.dataValueSize.toNat = points * octets.toNat) ↔
      (s.Accepts params → start.getInt32 = .ok 1 ∧ delta.getInt32 = .ok 0 ∨
        s.dataValueSize.toNat = points * octets.toNat) := by
  have hobject : definition.isObject := isObject_of_getDataTypeSize hoctets
  have hsize := h.getDataTypeSize_withDimension hnone hoctets
  have haccepts := SubscribedSignal.accepts_withDimension_iff s hdefinition hobject hoctets hsize
  have hself := Json.find?_set_self metaDefinition (definition.withDimension dimension) params
  have hproduct : (octets * UInt64.ofNat points).toNat = points * octets.toNat := by
    have hle : points ≤ points * octets.toNat :=
      Nat.le_mul_of_pos_right points (Nat.pos_of_ne_zero fun h => hpos (UInt64.toNat_inj.mp h))
    rw [UInt64.toNat_mul, UInt64.toNat_ofNat_of_lt' (Nat.lt_of_le_of_lt hle hlt), Nat.mul_comm,
      Nat.mod_eq_of_lt hlt]
  have hne : octets * UInt64.ofNat points ≠ 0 := by
    intro hzero
    rw [hzero] at hproduct
    have hoctets : octets.toNat ≠ 0 := fun h => hpos (UInt64.toNat_inj.mp h)
    exact (Nat.mul_ne_zero (Nat.ne_of_gt h.pos) hoctets) hproduct.symm
  have hgiven : (s.describedBy (params.set metaDefinition
      (definition.withDimension dimension))).dataValueSize =
        if start.getInt32 = .ok 1 ∧ delta.getInt32 = .ok 0 then octets * .ofNat points
        else s.dataValueSize := by
    rw [SubscribedSignal.dataValueSize_describedBy hself, SubscribedSignal.sizeGiven, hsize]
    by_cases hcounted : start.getInt32 = .ok 1 ∧ delta.getInt32 = .ok 0
    · simp only [if_pos hcounted, if_neg hne]
    · simp only [if_neg hcounted, if_true]
  rw [← haccepts]
  constructor
  · intro hall haccepted
    have hstate := hall _ (SubscribedSignal.processSignal_eq_normal_iff.mpr ⟨haccepted, rfl⟩)
    rw [hgiven] at hstate
    split_ifs at hstate with hcounted
    · exact .inl hcounted
    · exact .inr hstate
  · intro hcondition s' hs'
    obtain ⟨haccepted, rfl⟩ := SubscribedSignal.processSignal_eq_normal_iff.mp hs'
    rw [hgiven]
    split_ifs with hcounted
    · exact hproduct
    · exact (hcondition haccepted).resolve_left hcounted

/-! ### A spectrum -/

omit [JsonRuntime] in
/-- The definition of an amplitude. -/
def amplitude : Json := .object [(metaDatatype, .string dataTypeReal64),
  (metaName, .string "amplitude"), (metaRule, .string metaRuletypeExplicit)]

omit [JsonRuntime] in
/-- The dimension of a spectrum of 1024 amplitudes. -/
def frequency (start delta : Int64) : Json := .object
  [(metaRuletypeLinear, .object [(metaDelta, .numberInteger delta), (metaSize, .numberInteger 1024),
    (metaStart, .numberInteger start)]), (metaName, .string "frequency"),
    (metaRule, .string metaRuletypeLinear)]

theorem linearDimension_frequency (start delta : Int64) :
    LinearDimension (frequency start delta) (.numberInteger start) (.numberInteger delta) 1024 where
  rule := rfl
  linear := ⟨_, rfl, rfl, rfl, _, 1024, rfl, rfl, rfl⟩
  start := rfl
  delta := rfl
  pos := by decide

omit [JsonRuntime] in
/-- A spectrum that starts with 1 and has a delta of 0. -/
theorem multiplies_constantFrequency :
    ∃ s', @SubscribedSignal.processSignal decimalRuntime
      (.object [(metaDefinition, amplitude.withDimension (frequency 1 0))]) { signalNumber := 1 } =
        .normal s' ∧ s'.dataValueSize.toNat = 1024 * 8 := by
  let _ : JsonRuntime := decimalRuntime
  have hoctets : getDataTypeSize amplitude = .ok 8 := by decide +kernel
  have hnormal := Completion.eq_normal_of_why? (by decide +kernel : (SubscribedSignal.processSignal
    (.object [(metaDefinition, amplitude.withDimension (frequency 1 0))])
      { signalNumber := 1 }).why? = none)
  have hmultiplies := (@LinearDimension.multiplies_iff _ _ _ _ amplitude
    (.object [(metaDefinition, amplitude)]) _ (linearDimension_frequency 1 0) rfl rfl 8 hoctets
    (by decide) (by decide) { signalNumber := 1 }).mpr fun _ => .inl ⟨rfl, rfl⟩
  exact ⟨_, hnormal, hmultiplies _ hnormal⟩

omit [JsonRuntime] in
/-- A spectrum that starts with 0 and has a delta of 10 is accepted, and the size of its values is
still that of a new signal. -/
theorem not_multiplies_spectrum :
    ¬ ∀ s', @SubscribedSignal.processSignal decimalRuntime
      (.object [(metaDefinition, amplitude.withDimension (frequency 0 10))]) { signalNumber := 1 } =
        .normal s' → s'.dataValueSize.toNat = 1024 * 8 := by
  let _ : JsonRuntime := decimalRuntime
  intro h
  have hnormal := Completion.eq_normal_of_why? (by decide +kernel : (SubscribedSignal.processSignal
    (.object [(metaDefinition, amplitude.withDimension (frequency 0 10))])
      { signalNumber := 1 }).why? = none)
  have hsize := h _ hnormal
  revert hsize
  decide +kernel

end StreamingProtocol
