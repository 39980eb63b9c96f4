import StreamingProtocol.Presentation.DataTypeSize
import Mathlib.Algebra.BigOperators.Group.List.Basic
import Mathlib.Tactic.Ring

/-!
# Nested data types

A value of a nested data type consists of the values of its scalar leaves. An array has as many of
them as its count says, a struct has those of its members one after the other, and a bit field is
the unsigned number that it is laid over. So the size of a value is the sum of the widths of its
leaves, each multiplied by the counts of the arrays around it.

## Main definitions

* `Leaf`, `HasLeaves`: the scalar leaves of a definition.

## Main results

* `HasLeaves.getDataTypeSize_eq`: the size of a nested data type.
-/

namespace StreamingProtocol

variable [JsonRuntime]

/-! ### Leaves -/

/-- A scalar leaf of a data type: its width, and the counts of the arrays around it. -/
structure Leaf where
  width : ℕ
  counts : List ℕ

/-- The number of octets that the values of a leaf have in a value of the whole type. -/
def Leaf.size (leaf : Leaf) : ℕ := leaf.width * leaf.counts.prod

/-- A leaf in an array. -/
def Leaf.within (count : ℕ) (leaf : Leaf) : Leaf := { leaf with counts := count :: leaf.counts }

/-- The number of octets of a value with leaves. -/
def leavesSize (leaves : List Leaf) : ℕ := (leaves.map Leaf.size).sum

/-- An object without dimensions, whose name is a string if it has one. -/
structure Plain (definition : Json) : Prop where
  isObject : definition.isObject
  dimensions : definition.find? metaDimensions = none
  name : ∀ node, definition.find? metaName = some node → node.isString

/-- The data type of a definition. -/
def IsOfType (definition : Json) (dataType : String) : Prop :=
  definition.find? metaDatatype = some (.string dataType)

/-- An unsigned type, which a bit field may be laid over. -/
def IsUnsigned (dataType : String) : Prop :=
  dataType = dataTypeUint8 ∨ dataType = dataTypeUint16 ∨ dataType = dataTypeUint32 ∨
    dataType = dataTypeUint64

/-- The scalar leaves of a definition without dimensions. -/
inductive HasLeaves : Json → List Leaf → Prop
  | scalar {definition : Json} (hplain : Plain definition) {dataType : String}
      (htype : IsOfType definition dataType) {width : UInt64}
      (hwidth : scalarSize dataType = some width) :
      HasLeaves definition [⟨width.toNat, []⟩]
  | bitField {definition sub : Json} (hplain : Plain definition)
      (htype : IsOfType definition dataTypeBitfield)
      (hsub : definition.find? dataTypeBitfield = some sub) {base : String}
      (hbase : IsOfType sub base) (hunsigned : IsUnsigned base) {leaves : List Leaf}
      (hleaves : HasLeaves sub leaves) : HasLeaves definition leaves
  | array {definition sub countNode : Json} (hplain : Plain definition)
      (htype : IsOfType definition dataTypeArray)
      (hsub : definition.find? dataTypeArray = some sub)
      (hnode : sub.find? metaCount = some countNode) {count : UInt64}
      (hcount : countNode.getUInt64 = .ok count) {leaves : List Leaf}
      (hleaves : HasLeaves sub leaves) :
      HasLeaves definition (leaves.map (Leaf.within count.toNat))
  | struct {definition subs : Json} (hplain : Plain definition)
      (htype : IsOfType definition dataTypeStruct)
      (hsubs : definition.find? dataTypeStruct = some subs) {members : List (Json × List Leaf)}
      (helements : subs.elements = members.map Prod.fst)
      (hmembers : ∀ member ∈ members, HasLeaves member.1 member.2) :
      HasLeaves definition (members.flatMap Prod.snd)

omit [JsonRuntime] in
theorem leavesSize_within (count : ℕ) (leaves : List Leaf) :
    leavesSize (leaves.map (Leaf.within count)) = leavesSize leaves * count := by
  induction leaves with
  | nil => exact (Nat.zero_mul count).symm
  | cons leaf leaves ih =>
    have hleaf : (leaf.within count).size = leaf.size * count := by
      simp only [Leaf.size, Leaf.within, List.prod_cons]
      ring
    simp only [leavesSize, List.map_cons, List.sum_cons] at ih ⊢
    rw [ih, hleaf, Nat.add_mul]

omit [JsonRuntime] in
theorem leavesSize_append (leaves leaves' : List Leaf) :
    leavesSize (leaves ++ leaves') = leavesSize leaves + leavesSize leaves' := by
  rw [leavesSize, List.map_append, List.sum_append, leavesSize, leavesSize]

/-- Without dimensions, a size is not multiplied. -/
theorem Plain.getDataTypeSize_eq {definition : Json} (h : Plain definition) :
    getDataTypeSize definition = elementSize definition := by
  have hname : ∃ name, definition.valueOr Json.getString metaName "" = .ok name := by
    cases hfound : definition.find? metaName with
    | none =>
      cases definition with
      | object members =>
        rw [Json.find?_object] at hfound
        exact ⟨"", by rw [Json.valueOr, hfound]⟩
      | _ => cases h.isObject
    | some node =>
      rw [Json.valueOr_of_find? h.isObject hfound]
      have hstring := h.name node hfound
      cases node with
      | string name => exact ⟨name, rfl⟩
      | _ => cases hstring
  obtain ⟨name, hname⟩ := hname
  have hcount : dimensionCount definition = .ok (some 1) := by
    rw [dimensionCount, h.dimensions]
    rfl
  rw [StreamingProtocol.getDataTypeSize_eq hname hcount]
  cases elementSize definition with
  | error why => rfl
  | ok size => exact congrArg Except.ok (UInt64.mul_one size)

/-- A sum of sizes of members. -/
theorem foldlM_members {members : List (Json × List Leaf)}
    (h : ∀ member ∈ members, getDataTypeSize member.1 = .ok (.ofNat (leavesSize member.2)))
    (total : ℕ) :
    (members.map Prod.fst).foldlM (fun dataTypeSize sub => do
        let size ← getDataTypeSize sub
        pure (dataTypeSize + size)) (UInt64.ofNat total) =
      .ok (.ofNat (total + leavesSize (members.flatMap Prod.snd))) := by
  induction members generalizing total with
  | nil => rfl
  | cons member members ih =>
    obtain ⟨hmember, hrest⟩ := List.forall_mem_cons.mp h
    rw [List.map_cons, List.foldlM_cons, hmember, List.flatMap_cons, leavesSize_append,
      ← Nat.add_assoc, ← ih hrest, UInt64.ofNat_add]
    rfl

/-- **Nested data types.** The size of a value is the sum of the sizes of its leaves. -/
theorem HasLeaves.getDataTypeSize_eq {definition : Json} {leaves : List Leaf}
    (h : HasLeaves definition leaves) :
    getDataTypeSize definition = .ok (.ofNat (leavesSize leaves)) := by
  have harray : scalarSize dataTypeArray = none ∧ dataTypeArray ≠ dataTypeBitfield := by decide
  induction h with
  | scalar hplain htype hwidth =>
    rw [hplain.getDataTypeSize_eq, elementSize_scalar htype hwidth]
    simp [leavesSize, Leaf.size]
  | bitField hplain htype hsub hbase hunsigned hleaves ih =>
    rw [hplain.getDataTypeSize_eq, elementSize_bitfield htype hsub]
    exact ih
  | array hplain htype hsub hnode hcount hleaves ih =>
    have htype : Json.find? _ _ = _ := htype
    rw [hplain.getDataTypeSize_eq, elementSize, htype]
    obtain ⟨sub', hindex⟩ := Json.index_of_isObject metaCount (Json.isObject_of_find? hnode)
    rw [hnode, Option.getD_some] at hindex
    simp only [Json.getString, bind, Except.bind, harray.1, harray.2, if_true, if_false,
      Json.at?_of_find? hsub, hindex, hcount, ih, pure, Except.pure]
    rw [leavesSize_within, UInt64.ofNat_mul, UInt64.ofNat_toNat]
  | struct hplain htype hsubs helements hmembers ih =>
    have htype : Json.find? _ _ = _ := htype
    rw [hplain.getDataTypeSize_eq, elementSize, htype]
    have hfold := foldlM_members ih 0
    rw [Nat.zero_add, ← helements] at hfold
    simp only [Json.getString, Json.at?_of_find? hsubs]
    exact hfold

end StreamingProtocol
