import StreamingProtocol.Presentation.Types

/-!
# The size of a value

The number of octets of one value, from the definition of a signal. A definition is a base type, a
bit field over a base type, an array with a count or a struct with members, each of which may be
multiplied by one dimension of a fixed form. The result is a `size_t`: products and sums are taken
modulo `2 ^ 64`. A result of 0 stands for a size that is not known.

## Main definitions

* `scalarSize`: the size of a base type.
* `dimensionCount`: the factor of the dimensions.
* `getDataTypeSize`.
* `elementSize`: the size of a value without its dimensions.

## Main results

* `getDataTypeSize_eq`: the dimensions multiply the size of a value.
* `reads_getDataTypeSize`: how the size of a value fails.
-/

namespace StreamingProtocol

/-- The size of a base type. -/
def scalarSize (dataType : String) : Option UInt64 :=
  if dataType = dataTypeUint8 then some 1
  else if dataType = dataTypeUint16 then some 2
  else if dataType = dataTypeUint32 then some 4
  else if dataType = dataTypeUint64 then some 8
  else if dataType = dataTypeInt8 then some 1
  else if dataType = dataTypeInt16 then some 2
  else if dataType = dataTypeInt32 then some 4
  else if dataType = dataTypeInt64 then some 8
  else if dataType = dataTypeReal32 then some 4
  else if dataType = dataTypeReal64 then some 8
  else if dataType = dataTypeComplex32 then some 8
  else if dataType = dataTypeComplex64 then some 16
  else none

variable [JsonRuntime]

/-- The factor of a linear dimension; none if its start is not 1 or its delta not 0. The size of
the dimension is a signed 32 bit number that is extended to 64 bits. -/
def linearCount (linear : Json) : Except Abrupt (Option UInt64) := do
  let start ← linear.valueOr Json.getInt32 metaStart 0
  if start ≠ 1 then pure none
  else
    let delta ← linear.valueOr Json.getInt32 metaDelta 0
    if delta ≠ 0 then pure none
    else
      let count ← linear.valueOr Json.getInt32 metaSize 1
      pure (some count.toInt64.toUInt64)

/-- The factor by which the dimensions of a definition multiply the size of a value; none if they
are not one linear dimension. -/
def dimensionCount (definition : Json) : Except Abrupt (Option UInt64) :=
  match definition.find? metaDimensions with
  | none => pure (some 1)
  | some (.array [dimension]) =>
      if dimension.isObject then do
        let rule ← dimension.valueOr Json.getString metaRule ""
        if rule ≠ metaRuletypeLinear then pure none
        else
          match dimension.find? metaRuletypeLinear with
          | some (.object members) => linearCount (.object members)
          | _ => pure none
      else pure none
  | some _ => pure none

omit [JsonRuntime] in
theorem sizeOf_lt_of_at? {key : String} {j v : Json} (h : j.at? key = .ok v) :
    sizeOf v < sizeOf j :=
  Json.sizeOf_lt_of_find? (Json.find?_of_at? h)

/-- `getDataTypeSize`. -/
def getDataTypeSize (definition : Json) : Except Abrupt UInt64 := do
  let _name ← definition.valueOr Json.getString metaName ""
  match ← dimensionCount definition with
  | none => pure 0
  | some count =>
      match definition.find? metaDatatype with
      | none => pure 0
      | some node => do
          let dataType ← node.getString
          match scalarSize dataType with
          | some size => pure (size * count)
          | none =>
              if dataType = dataTypeBitfield then
                match _h : definition.at? dataTypeBitfield with
                | .error why => throw why
                | .ok sub => do
                    let size ← getDataTypeSize sub
                    pure (size * count)
              else if dataType = dataTypeArray then
                match _h : definition.at? dataTypeArray with
                | .error why => throw why
                | .ok sub => do
                    let countNode ← sub.index metaCount
                    let arrayCount ← countNode.2.getUInt64
                    let size ← getDataTypeSize sub
                    pure (size * count * arrayCount)
              else if dataType = dataTypeStruct then
                match _h : definition.at? dataTypeStruct with
                | .error why => throw why
                | .ok subs =>
                    subs.elements.attach.foldlM (fun dataTypeSize sub => do
                      let size ← getDataTypeSize sub.1
                      pure (dataTypeSize + size * count)) 0
              else pure 0
termination_by sizeOf definition
decreasing_by
  · exact sizeOf_lt_of_at? _h
  · exact sizeOf_lt_of_at? _h
  · exact Nat.lt_of_le_of_lt (Json.sizeOf_le_of_mem_elements sub.2) (sizeOf_lt_of_at? _h)

/-! ### Elements -/

/-- The size of a value, in a definition whose dimensions are left out. -/
def elementSize (definition : Json) : Except Abrupt UInt64 :=
  match definition.find? metaDatatype with
  | none => pure 0
  | some node => do
      let dataType ← node.getString
      match scalarSize dataType with
      | some size => pure size
      | none =>
          if dataType = dataTypeBitfield then do
            getDataTypeSize (← definition.at? dataTypeBitfield)
          else if dataType = dataTypeArray then do
            let sub ← definition.at? dataTypeArray
            let countNode ← sub.index metaCount
            let arrayCount ← countNode.2.getUInt64
            let size ← getDataTypeSize sub
            pure (size * arrayCount)
          else if dataType = dataTypeStruct then do
            let subs ← definition.at? dataTypeStruct
            subs.elements.foldlM (fun dataTypeSize sub => do
              let size ← getDataTypeSize sub
              pure (dataTypeSize + size)) 0
          else pure 0

/-- A sum of members, each multiplied by the same number. -/
theorem foldlM_mul (count : UInt64) (subs : List Json) (total : UInt64) :
    subs.attach.foldlM (fun dataTypeSize sub => do
        let size ← getDataTypeSize sub.1
        pure (dataTypeSize + size * count)) (total * count) =
      (· * count) <$> subs.foldlM (fun dataTypeSize sub => do
        let size ← getDataTypeSize sub
        pure (dataTypeSize + size)) total := by
  have hattach : subs.attach.foldlM (fun dataTypeSize sub => do
        let size ← getDataTypeSize sub.1
        pure (dataTypeSize + size * count)) (total * count) =
      subs.foldlM (fun dataTypeSize sub => do
        let size ← getDataTypeSize sub
        pure (dataTypeSize + size * count)) (total * count) := by
    simp
  rw [hattach]
  induction subs generalizing total with
  | nil => rfl
  | cons sub subs ih =>
    rw [List.foldlM_cons, List.foldlM_cons]
    cases hsize : getDataTypeSize sub with
    | error why => rfl
    | ok size =>
      have hsum : total * count + size * count = (total + size) * count := by grind
      show subs.foldlM _ (total * count + size * count) = _
      rw [hsum]
      exact ih (total + size) (by simp)

/-- The dimensions multiply the size of a value, if they are known. -/
theorem getDataTypeSize_eq {definition : Json} {name : String}
    (hname : definition.valueOr Json.getString metaName "" = .ok name) {count : UInt64}
    (hcount : dimensionCount definition = .ok (some count)) :
    getDataTypeSize definition = (· * count) <$> elementSize definition := by
  rw [getDataTypeSize, hname, hcount, elementSize]
  simp only [bind, Except.bind]
  cases definition.find? metaDatatype with
  | none => simp [pure, Except.pure, Functor.map, Except.map]
  | some node =>
    dsimp only
    cases node.getString with
    | error why => rfl
    | ok dataType =>
      dsimp only
      cases scalarSize dataType with
      | some size => rfl
      | none =>
        dsimp only
        split_ifs
        · split
          · next why hsub =>
            rw [hsub]
            rfl
          · next sub hsub =>
            rw [hsub]
            dsimp only
            cases getDataTypeSize sub <;> rfl
        · split
          · next why hsub =>
            rw [hsub]
            rfl
          · next sub hsub =>
            rw [hsub]
            dsimp only
            cases sub.index metaCount with
            | error why => rfl
            | ok countNode =>
              dsimp only
              cases countNode.2.getUInt64 with
              | error why => rfl
              | ok arrayCount =>
                dsimp only
                cases getDataTypeSize sub with
                | error why => rfl
                | ok size =>
                  have hcomm : size * count * arrayCount = size * arrayCount * count := by grind
                  exact congrArg Except.ok hcomm
        · split
          · next why hsub =>
            rw [hsub]
            rfl
          · next subs hsub =>
            rw [hsub]
            have hfold := foldlM_mul count subs.elements 0
            rw [UInt64.zero_mul] at hfold
            exact hfold
        · exact congrArg Except.ok (UInt64.zero_mul (a := count)).symm

/-- Sizes are read from objects. -/
theorem isObject_of_getDataTypeSize {definition : Json} {size : UInt64}
    (h : getDataTypeSize definition = .ok size) : definition.isObject := by
  rw [getDataTypeSize] at h
  obtain ⟨name, hname, -⟩ := Json.bind_eq_ok.mp h
  cases definition with
  | object members => rfl
  | _ => cases hname

/-- A size is not known, or one of an element that is multiplied by the dimensions. -/
theorem getDataTypeSize_cases {definition : Json} {size : UInt64}
    (h : getDataTypeSize definition = .ok size) :
    dimensionCount definition = .ok none ∧ size = 0 ∨
      ∃ count element, dimensionCount definition = .ok (some count) ∧
        elementSize definition = .ok element ∧ size = element * count := by
  have hread := h
  rw [getDataTypeSize] at hread
  obtain ⟨name, hname, hread⟩ := Json.bind_eq_ok.mp hread
  obtain ⟨count, hcount, hread⟩ := Json.bind_eq_ok.mp hread
  cases count with
  | none => exact .inl ⟨hcount, (Except.ok.inj hread).symm⟩
  | some count =>
    rw [getDataTypeSize_eq hname hcount] at h
    cases helement : elementSize definition with
    | error why =>
      rw [helement] at h
      cases h
    | ok element =>
      rw [helement] at h
      exact .inr ⟨count, element, hcount, rfl, (Except.ok.inj h).symm⟩

/-- The members of a definition that the size of an element depends on. -/
def elementMembers : List String := [metaDatatype, dataTypeBitfield, dataTypeArray, dataTypeStruct]

/-- No other member of a definition has an influence on the size of an element. -/
theorem elementSize_congr {definition definition' : Json} (hobject : definition.isObject)
    (hobject' : definition'.isObject)
    (hmembers : ∀ key ∈ elementMembers, definition.find? key = definition'.find? key) :
    elementSize definition = elementSize definition' := by
  have hat (key : String) (hkey : key ∈ elementMembers) :
      definition.at? key = definition'.at? key := by
    rw [Json.at?_of_isObject hobject, Json.at?_of_isObject hobject', hmembers key hkey]
  rw [elementSize, elementSize, hmembers metaDatatype (by decide), hat dataTypeBitfield (by decide),
    hat dataTypeArray (by decide), hat dataTypeStruct (by decide)]

/-- The size of an element of a base type. -/
theorem elementSize_scalar {definition : Json} {dataType : String} {size : UInt64}
    (hdatatype : definition.find? metaDatatype = some (.string dataType))
    (hsize : scalarSize dataType = some size) : elementSize definition = .ok size := by
  rw [elementSize, hdatatype]
  simp only [Json.getString, bind, Except.bind, hsize]
  rfl

/-- The size of a bit field is the one of its base. -/
theorem elementSize_bitfield {definition details : Json}
    (hdatatype : definition.find? metaDatatype = some (.string dataTypeBitfield))
    (hdetails : definition.find? dataTypeBitfield = some details) :
    elementSize definition = getDataTypeSize details := by
  have hscalar : scalarSize dataTypeBitfield = none := by decide
  rw [elementSize, hdatatype]
  simp only [Json.getString, bind, Except.bind, hscalar, if_true, Json.at?_of_find? hdetails]

/-! ### Failures -/

theorem reads_dimensionCount (definition : Json) : Json.Reads (dimensionCount definition) := by
  have hlinear (linear : Json) : Json.Reads (linearCount linear) := by
    refine (Json.reads_valueOr Json.reads_getInt32 _ _ _).bind fun start _ => ?_
    split
    · exact Json.reads_pure _
    · refine (Json.reads_valueOr Json.reads_getInt32 _ _ _).bind fun delta _ => ?_
      split
      · exact Json.reads_pure _
      · exact (Json.reads_valueOr Json.reads_getInt32 _ _ _).bind fun count _ => Json.reads_pure _
  unfold dimensionCount
  split
  · exact Json.reads_pure _
  · split
    · refine (Json.reads_valueOr Json.reads_getString _ _ _).bind fun rule _ => ?_
      split
      · exact Json.reads_pure _
      · split
        · exact hlinear _
        · exact Json.reads_pure _
    · exact Json.reads_pure _
  · exact Json.reads_pure _

omit [JsonRuntime] in
theorem reads_foldlM {α β : Type} {f : β → α → Except Abrupt β} : (xs : List α) →
    (∀ x ∈ xs, ∀ b, Json.Reads (f b x)) → ∀ b, Json.Reads (xs.foldlM f b)
  | [], _, b => Json.reads_pure b
  | x :: xs, h, b => by
      rw [List.foldlM_cons]
      exact (h x List.mem_cons_self b).bind fun b' _ =>
        reads_foldlM xs (fun y hy => h y (List.mem_cons_of_mem x hy)) b'

/-- The size of a value fails for a wrong type or a missing member only. -/
theorem reads_getDataTypeSize (definition : Json) : Json.Reads (getDataTypeSize definition) := by
  rw [getDataTypeSize]
  refine (Json.reads_valueOr Json.reads_getString _ _ _).bind fun _ _ => ?_
  refine (reads_dimensionCount definition).bind fun count _ => ?_
  split
  · exact Json.reads_pure _
  · split
    · exact Json.reads_pure _
    · refine (Json.reads_getString _).bind fun dataType _ => ?_
      split
      · exact Json.reads_pure _
      · split_ifs
        · split
          · exact fun why' h => by
              cases h
              exact Json.reads_at? _ _ _ ‹_›
          · exact (reads_getDataTypeSize _).bind fun size _ => Json.reads_pure _
        · split
          · exact fun why' h => by
              cases h
              exact Json.reads_at? _ _ _ ‹_›
          · refine (Json.reads_index _ _).bind fun countNode _ => ?_
            refine (Json.reads_getUInt64 _).bind fun arrayCount _ => ?_
            exact (reads_getDataTypeSize _).bind fun size _ => Json.reads_pure _
        · split
          · exact fun why' h => by
              cases h
              exact Json.reads_at? _ _ _ ‹_›
          · exact reads_foldlM _ (fun sub _ total =>
              (reads_getDataTypeSize sub.1).bind fun size _ => Json.reads_pure _) _
        · exact Json.reads_pure _
termination_by sizeOf definition
decreasing_by
  · exact sizeOf_lt_of_at? ‹_›
  · exact sizeOf_lt_of_at? ‹_›
  · exact Nat.lt_of_le_of_lt (Json.sizeOf_le_of_mem_elements sub.2) (sizeOf_lt_of_at? ‹_›)

end StreamingProtocol
