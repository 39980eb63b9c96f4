import StreamingProtocol.Presentation.MeasuredData
import StreamingProtocol.Presentation.Refusal

/-!
# Sizes and types that are announced together

The size of the values of a signal and their type are set by different statements of a description.
A size that is computed for a type, if it is not 0, is a multiple of the number of octets that are
interpreted as one value of the type, also where the multiplication wraps around. So size and type
fit, unless the size that is announced with a type is 0, in which case an older size is kept, or
the type that is announced with a size is refused, in which case an older type is kept.

## Main definitions

* `announcedType`: the sample type in a definition.
* `SubscribedSignal.Fits`: a value of the type has room in the size.
* `SubscribedSignal.FitsAnnounced`: what is kept fits what is announced.

## Main results

* `le_getDataTypeSize`: the size that is announced with a type holds a value of the type.
* `SubscribedSignal.fits_processSignal`.
-/

namespace StreamingProtocol

open SubscribedSignal

/-! ### Multiples -/

/-- A divisor of `2 ^ 64` divides its products, also if they wrap around. -/
theorem dvd_toNat_mul {d : ℕ} (hd : d ∣ 2 ^ 64) {a : UInt64} (ha : d ∣ a.toNat) (b : UInt64) :
    d ∣ (a * b).toNat := by
  rw [UInt64.toNat_mul, Nat.dvd_mod_iff hd]
  exact ha.mul_right b.toNat

/-- The size of a base type is that of its sample type, unless the type is not interpreted. -/
theorem scalarSize_of_scalarSampleType {dataType : String} {type : SampleType}
    (h : scalarSampleType dataType = some type) :
    ∃ size, scalarSize dataType = some size ∧ size.toNat ∣ 2 ^ 64 ∧
      interpretedSize type ≤ size.toNat := by
  unfold scalarSampleType at h
  repeat'
    rw [ite_eq_iff] at h
    obtain ⟨rfl, h⟩ | ⟨-, h⟩ := h
  all_goals cases h
  · exact ⟨1, by decide, by decide, by decide⟩
  · exact ⟨2, by decide, by decide, by decide⟩
  · exact ⟨4, by decide, by decide, by decide⟩
  · exact ⟨8, by decide, by decide, by decide⟩
  · exact ⟨1, by decide, by decide, by decide⟩
  · exact ⟨2, by decide, by decide, by decide⟩
  · exact ⟨4, by decide, by decide, by decide⟩
  · exact ⟨8, by decide, by decide, by decide⟩
  · exact ⟨4, by decide, by decide, by decide⟩
  · exact ⟨8, by decide, by decide, by decide⟩
  · exact ⟨8, by decide, by decide, by decide⟩
  · exact ⟨16, by decide, by decide, by decide⟩

/-- The sample type in a definition. -/
def announcedType (definition : Json) : Option SampleType :=
  match definition.find? metaDatatype with
  | some (.string dataType) =>
      match scalarSampleType dataType with
      | some type => some type
      | none =>
          if dataType = dataTypeBitfield then
            match (definition.find? dataTypeBitfield).bind (Json.find? metaDatatype) with
            | some (.string base) =>
                if base = dataTypeUint32 then some .bitfield32
                else if base = dataTypeUint64 then some .bitfield64
                else none
            | _ => none
          else if dataType = dataTypeArray then
            (definition.find? dataTypeArray).map fun _ => .array
          else if dataType = dataTypeStruct then
            (definition.find? dataTypeStruct).map fun _ => .struct
          else none
  | _ => none

variable [JsonRuntime]

/-- A size, also if it is multiplied, is a multiple of what the size of an element is a multiple
of. -/
theorem dvd_getDataTypeSize {definition : Json} {size : UInt64} {d : ℕ} (hd : d ∣ 2 ^ 64)
    (helement : ∀ element, elementSize definition = .ok element → d ∣ element.toNat)
    (h : getDataTypeSize definition = .ok size) : d ∣ size.toNat := by
  rcases getDataTypeSize_cases h with ⟨-, rfl⟩ | ⟨count, element, -, hsize, rfl⟩
  · exact Nat.dvd_zero d
  · exact dvd_toNat_mul hd (helement element hsize) count

/-- The size of a base type is a multiple of the base type. -/
theorem dvd_getDataTypeSize_scalar {definition : Json} {dataType : String} {base size : UInt64}
    (hdatatype : definition.find? metaDatatype = some (.string dataType))
    (hbase : scalarSize dataType = some base) (hdvd : base.toNat ∣ 2 ^ 64)
    (h : getDataTypeSize definition = .ok size) : base.toNat ∣ size.toNat := by
  refine dvd_getDataTypeSize hdvd (fun element helement => ?_) h
  cases (elementSize_scalar hdatatype hbase).symm.trans helement
  exact dvd_rfl

/-- The size of a bit field is a multiple of what the size of its base is a multiple of. -/
theorem dvd_getDataTypeSize_bitfield {definition details : Json} {size : UInt64} {d : ℕ}
    (hdatatype : definition.find? metaDatatype = some (.string dataTypeBitfield))
    (hdetails : definition.find? dataTypeBitfield = some details) (hd : d ∣ 2 ^ 64)
    (hbase : ∀ size, getDataTypeSize details = .ok size → d ∣ size.toNat)
    (h : getDataTypeSize definition = .ok size) : d ∣ size.toNat := by
  refine dvd_getDataTypeSize hd (fun element helement => hbase element ?_) h
  rw [← elementSize_bitfield hdatatype hdetails, helement]

/-- The size that is announced with a type is a multiple of what holds a value of the type. -/
theorem exists_dvd_getDataTypeSize {definition : Json} {type : SampleType} {size : UInt64}
    (htype : announcedType definition = some type) (h : getDataTypeSize definition = .ok size) :
    ∃ width, interpretedSize type ≤ width ∧ width ∣ size.toNat := by
  have hbitfield {base : String} {type : SampleType} {width : UInt64}
      (hbase : scalarSize base = some width) (hwidth : width.toNat ∣ 2 ^ 64)
      (hinterpreted : interpretedSize type ≤ width.toNat) {details : Json}
      (hdatatype : definition.find? metaDatatype = some (.string dataTypeBitfield))
      (hdetails : definition.find? dataTypeBitfield = some details)
      (hdetailsType : details.find? metaDatatype = some (.string base)) :
      ∃ width, interpretedSize type ≤ width ∧ width ∣ size.toNat :=
    ⟨width.toNat, hinterpreted, dvd_getDataTypeSize_bitfield hdatatype hdetails hwidth
      (fun _ => dvd_getDataTypeSize_scalar hdetailsType hbase hwidth) h⟩
  unfold announcedType at htype
  split at htype
  · rename_i dataType hdatatype
    split at htype
    · rename_i type' htype'
      cases htype
      obtain ⟨width, hwidth, hdvd, hle⟩ := scalarSize_of_scalarSampleType htype'
      exact ⟨width.toNat, hle, dvd_getDataTypeSize_scalar hdatatype hwidth hdvd h⟩
    · split_ifs at htype with hbit harray hstruct
      · subst hbit
        split at htype
        · rename_i base hbase
          obtain ⟨details, hdetails, hdetailsType⟩ := Option.bind_eq_some_iff.mp hbase
          split_ifs at htype with h32 h64
          · cases htype
            subst h32
            exact hbitfield (by decide : scalarSize dataTypeUint32 = some 4) (by decide)
              (by decide) hdatatype hdetails hdetailsType
          · cases htype
            subst h64
            exact hbitfield (by decide : scalarSize dataTypeUint64 = some 8) (by decide)
              (by decide) hdatatype hdetails hdetailsType
        · cases htype
      · obtain ⟨details, -, rfl⟩ := Option.map_eq_some_iff.mp htype
        exact ⟨size.toNat, Nat.zero_le _, dvd_rfl⟩
      · obtain ⟨details, -, rfl⟩ := Option.map_eq_some_iff.mp htype
        exact ⟨size.toNat, Nat.zero_le _, dvd_rfl⟩
  · cases htype

/-- The size that is announced with a type, if it is known, holds a value of the type. -/
theorem le_getDataTypeSize {definition : Json} {type : SampleType} {size : UInt64}
    (htype : announcedType definition = some type) (h : getDataTypeSize definition = .ok size)
    (hknown : size ≠ 0) : interpretedSize type ≤ size.toNat := by
  obtain ⟨width, hle, hdvd⟩ := exists_dvd_getDataTypeSize htype h
  have hpos : 0 < size.toNat := by
    rw [Nat.pos_iff_ne_zero]
    exact fun hzero => hknown (UInt64.toNat_inj.mp hzero)
  exact hle.trans (Nat.le_of_dvd hpos hdvd)

/-- A size is known only if there is a data type. -/
theorem find?_of_getDataTypeSize {definition : Json} {size : UInt64}
    (h : getDataTypeSize definition = .ok size) (hknown : size ≠ 0) :
    ∃ dataType, definition.find? metaDatatype = some (.string dataType) := by
  rcases getDataTypeSize_cases h with ⟨-, rfl⟩ | ⟨count, element, -, hsize, rfl⟩
  · exact absurd rfl hknown
  · cases hnode : definition.find? metaDatatype with
    | none =>
      rw [elementSize, hnode] at hsize
      cases hsize
      exact absurd (UInt64.zero_mul (a := count)) hknown
    | some node =>
      rw [elementSize, hnode] at hsize
      obtain ⟨dataType, hstring, -⟩ := Json.bind_eq_ok.mp hsize
      cases node <;> cases hstring
      exact ⟨_, rfl⟩

namespace SubscribedSignal

/-! ### What a description makes of the size and the type -/

omit [JsonRuntime] in
/-- A value of the type of a signal has room in the size of its values. -/
def Fits (s : SubscribedSignal) : Prop := interpretedSize s.dataValueType ≤ s.dataValueSize.toNat

/-- What a definition leaves as it was fits what it announces: the old size holds a value of the
type if the size in the definition is 0, and the size holds a value of the old type if the type in
the definition is refused. -/
def FitsAnnounced (s : SubscribedSignal) (definition : Json) : Prop :=
  ∀ size, getDataTypeSize definition = .ok size →
    (size = 0 → ∀ type, announcedType definition = some type →
      interpretedSize type ≤ s.dataValueSize.toNat) ∧
    (size ≠ 0 → announcedType definition = none → interpretedSize s.dataValueType ≤ size.toNat)

omit [JsonRuntime] in
/-- The type of a bit field is the one of its base. -/
theorem dataValueType_processBitFieldBits (details : Json) (s : SubscribedSignal) :
    (processBitFieldBits details s).state.dataValueType =
      (match details.find? metaDatatype with
        | some (.string base) =>
            if base = dataTypeUint32 then some SampleType.bitfield32
            else if base = dataTypeUint64 then some .bitfield64
            else none
        | _ => none).getD s.dataValueType := by
  unfold processBitFieldBits
  cases hbits : details.index metaBits with
  | error why =>
    have hnone : details.find? metaDatatype = none := by
      cases hbase : details.find? metaDatatype with
      | none => rfl
      | some base =>
        obtain ⟨j, hj⟩ := Json.index_of_isObject metaBits (Json.isObject_of_find? hbase)
        rw [hj] at hbits
        cases hbits
    rw [hnone]
    rfl
  | ok bits =>
    have hkept := Json.find?_of_index hbits (by decide : metaDatatype ≠ metaBits)
    obtain ⟨j, hj⟩ := Json.index_of_isObject metaDatatype (Json.isObject_of_index hbits)
    simp only [processBitFieldBase, hj, Completion.eval_ok, processBitFieldType, hkept]
    cases details.find? metaDatatype with
    | none => rfl
    | some node =>
      cases node with
      | string base =>
        simp only [Option.getD_some, Json.getString, Completion.eval_ok]
        split_ifs <;> rfl
      | _ => rfl

omit [JsonRuntime] in
/-- The type of the values is the one that the definition announces. -/
theorem dataValueType_processDatatype (definition : Json) (s : SubscribedSignal) :
    (processDatatype definition s).state.dataValueType =
      (announcedType definition).getD s.dataValueType := by
  unfold processDatatype announcedType
  cases hdatatype : definition.find? metaDatatype with
  | none => rfl
  | some node =>
    cases node with
    | string dataType =>
      simp only [Json.getString, Completion.eval_ok]
      cases scalarSampleType dataType with
      | some type => rfl
      | none =>
        have hobject := Json.isObject_of_find? hdatatype
        by_cases hbit : dataType = dataTypeBitfield
        · simp only [hbit, if_true, processBitField, Json.at?_of_isObject hobject]
          cases definition.find? dataTypeBitfield with
          | none => rfl
          | some details =>
            simp only [Completion.eval_ok, dataValueType_processBitFieldBits, Option.bind_some]
        · by_cases harray : dataType = dataTypeArray
          · simp only [harray, Json.at?_of_isObject hobject]
            cases definition.find? dataTypeArray <;> rfl
          · by_cases hstruct : dataType = dataTypeStruct
            · simp only [hstruct, Json.at?_of_isObject hobject]
              cases definition.find? dataTypeStruct <;> rfl
            · simp [hbit, harray, hstruct]
    | _ => rfl

/-- A description gets to the data type if it gets to the size and the size can be computed. -/
theorem reaches_datatype_iff {params definition : Json} (s : SubscribedSignal)
    (hdefinition : params.find? metaDefinition = some definition) :
    Reaches params s .datatype ↔
      Reaches params s .dataValueSize ∧ ∃ size, getDataTypeSize definition = .ok size := by
  have hbefore : before .datatype = before .dataValueSize ++ [.dataValueSize, .memberName] := by
    decide
  have hsize : Member.dataValueSize.verdict params s = none ↔
      ∃ size, getDataTypeSize definition = .ok size := by
    rw [Member.verdict, definitionVerdict, hdefinition, Option.bind_some, failure_eq_none]
  have hname : (∃ size, getDataTypeSize definition = .ok size) →
      Member.memberName.verdict params s = none := by
    rintro ⟨size, h⟩
    rw [getDataTypeSize] at h
    obtain ⟨name, hname, -⟩ := Json.bind_eq_ok.mp h
    rw [Member.verdict, definitionVerdict, hdefinition, Option.bind_some, readVerdict]
    cases definition with
    | object members =>
      simp only [Json.valueOr] at hname
      simp only [Json.find?_object]
      cases hnode : Members.find? metaName members with
      | none => rfl
      | some node =>
        simp only [hnode] at hname
        rw [Option.bind_some, hname]
        rfl
    | _ => cases hname
  simp only [Reaches, hbefore, List.forall_mem_append, List.forall_mem_cons, hsize]
  constructor
  · rintro ⟨hbefore, hcomputed, -⟩
    exact ⟨hbefore, hcomputed⟩
  · rintro ⟨hbefore, hcomputed⟩
    exact ⟨hbefore, hcomputed, hname hcomputed, by simp⟩

/-- The size of the values after a description that gets to it. -/
theorem dataValueSize_statement {params definition : Json} {s : SubscribedSignal} {size : UInt64}
    (hdefinition : params.find? metaDefinition = some definition)
    (hsize : getDataTypeSize definition = .ok size) :
    (statement params .dataValueSize s).state.dataValueSize =
      if size = 0 then s.dataValueSize else size := by
  unfold statement inDefinition processDataValueSize
  simp only [hdefinition, hsize, state_catchJson, Completion.eval_ok, Completion.state_normal]
  by_cases hzero : size = 0 <;> simp [hzero]

theorem dataValueType_statement {params definition : Json} {s : SubscribedSignal}
    (hdefinition : params.find? metaDefinition = some definition) :
    (statement params .datatype s).state.dataValueType =
      (announcedType definition).getD s.dataValueType := by
  unfold statement inDefinition
  simp only [hdefinition, state_catchJson, dataValueType_processDatatype]

/-- Size and type fit after a description if what its definition leaves as it was fits what it
announces. -/
theorem fits_processSignal {params : Json} {s : SubscribedSignal} (h : s.Fits)
    (hannounced : Reaches params s .dataValueSize →
      ∀ definition, params.find? metaDefinition = some definition → s.FitsAnnounced definition) :
    (s.processSignal params).state.Fits := by
  have hsize := view_processSignal_eq params s (by decide : Member.dataValueSize ∈ described)
  have htype := view_processSignal_eq params s (by decide : Member.datatype ∈ described)
  change (s.processSignal params).state.dataValueSize = _ at hsize
  have htype : (s.processSignal params).state.dataValueType =
      if Reaches params s .datatype then (statement params .datatype s).state.dataValueType
      else s.dataValueType := by
    split_ifs at htype ⊢
    · exact (view_datatype_eq_iff.mp htype).1
    · exact (view_datatype_eq_iff.mp htype).1
  change _ = ite _ (statement params .dataValueSize s).state.dataValueSize s.dataValueSize at hsize
  unfold Fits
  rw [hsize, htype]
  cases hdefinition : params.find? metaDefinition with
  | none =>
    have hkept (m : Member) (hm : m = .dataValueSize ∨ m = .datatype) :
        (statement params m s).state = s := by
      rcases hm with rfl | rfl <;> simp [statement, inDefinition, hdefinition]
    rw [hkept _ (.inl rfl), hkept _ (.inr rfl), ite_self, ite_self]
    exact h
  | some definition =>
    have hdatatype := reaches_datatype_iff s hdefinition
    by_cases hreaches : Reaches params s .dataValueSize
    · cases hcomputed : getDataTypeSize definition with
      | error why =>
        have hkept : (statement params .dataValueSize s).state = s := by
          simp [statement, inDefinition, hdefinition, processDataValueSize, hcomputed]
        rw [hkept, ite_self, if_neg]
        · exact h
        · rintro hreaches
          obtain ⟨size, hsize⟩ := (hdatatype.mp hreaches).2
          rw [hcomputed] at hsize
          cases hsize
      | ok size =>
        obtain ⟨hunknown, hrefused⟩ := hannounced hreaches definition hdefinition size hcomputed
        rw [if_pos hreaches, if_pos (hdatatype.mpr ⟨hreaches, size, hcomputed⟩),
          dataValueType_statement hdefinition, dataValueSize_statement hdefinition hcomputed]
        cases hannouncedType : announcedType definition with
        | none =>
          split_ifs with hzero
          · exact h
          · exact hrefused hzero hannouncedType
        | some type =>
          split_ifs with hzero
          · exact hunknown hzero type hannouncedType
          · exact le_getDataTypeSize hannouncedType hcomputed hzero
    · rw [if_neg hreaches, if_neg fun hboth => hreaches (hdatatype.mp hboth).1]
      exact h

end SubscribedSignal

end StreamingProtocol
