import StreamingProtocol.Presentation.AcceptedDescription
import StreamingProtocol.Presentation.NestedTypes
import StreamingProtocol.Session.Batching

/-!
# Values of nested data types

The size that a description gives to the values of a signal stays until the signal gets meta
information again, whatever happens to the other signals. So the values of a nested data type are
counted by the size of that type.

## Main results

* `SignalContainer.dataValueSize_of_accepted`: the size after a description.
* `SignalContainer.valueCount_of_leaves`.
-/

namespace StreamingProtocol

open ByteString

variable [JsonRuntime]

/-- An accepted description gives its size to the signal, if the size is known. -/
theorem SubscribedSignal.dataValueSize_of_described {s s' : SubscribedSignal}
    {params definition : Json} {size : UInt64} (h : s.processSignal params = .normal s')
    (hdefinition : params.find? metaDefinition = some definition)
    (hsize : getDataTypeSize definition = .ok size) (hne : size ≠ 0) : s'.dataValueSize = size := by
  rw [processSignal_eq_normal h, dataValueSize_describedBy hdefinition, sizeGiven, hsize]
  exact if_neg hne

namespace SignalContainer

variable {c : SignalContainer} {n : SignalNumber} {m : MetaInformation} {definition : Json}

/-- From an accepted description to the next meta information for the signal, its values have the
size of the definition. -/
theorem dataValueSize_of_accepted {size : UInt64} (h : c.Succeeds (.metaInformation n m))
    (hmethod : m.method = .ok metaMethodSignal)
    (hdefinition : m.params.find? metaDefinition = some definition)
    (hsize : getDataTypeSize definition = .ok size) (hne : size ≠ 0) {inputs : List Input}
    (hinputs : ∀ input ∈ inputs, ∀ m, input ≠ .metaInformation n m) {s : SubscribedSignal}
    (hs : (inputs.foldl next (c.next (.metaInformation n m))).subscribedSignals n = some (some s)) :
    s.dataValueSize = size := by
  obtain ⟨_, s', hdescribed, hs'⟩ := h.described hmethod
  refine subscribedSignals_foldl (P := fun s => s.dataValueSize = size) ?_ hs' ?_ hinputs hs
  · rintro s _ ⟨_, _, _, _, rfl⟩ hs
    exact hs
  · exact SubscribedSignal.dataValueSize_of_described hdescribed hdefinition hsize hne

/-- **Values of nested data types.** The size of a nested data type is the sum of the sizes of its
leaves. After an accepted description with such a type, values are counted by this size. -/
theorem valueCount_of_leaves {leaves : List Leaf} (hleaves : HasLeaves definition leaves)
    (hpos : 0 < leavesSize leaves) (hlt : leavesSize leaves < 2 ^ 64)
    (haccepted : c.Succeeds (.metaInformation n m)) (hmethod : m.method = .ok metaMethodSignal)
    (hdefinition : m.params.find? metaDefinition = some definition) {inputs : List Input}
    (hinputs : ∀ input ∈ inputs, ∀ m, input ≠ .metaInformation n m) {s t : SubscribedSignal}
    {table : Table}
    (h : (inputs.foldl next (c.next (.metaInformation n m))).Synchronous n s t table)
    {values : List Bytes} (hvalues : ∀ value ∈ values, value.length = leavesSize leaves) :
    getDataTypeSize definition = .ok (.ofNat (leavesSize leaves)) ∧
      (UInt64.ofNat (leavesSize leaves)).toNat = leavesSize leaves ∧
      ((inputs.foldl next (c.next (.metaInformation n m))).processMeasuredData n
        values.flatten).callbacks = [.dataAsRaw (s.joining t) (t.nextTime s) values.flatten,
          .dataAsValue (s.joining t) (t.nextTime s) values.flatten values.length] := by
  have hsize := hleaves.getDataTypeSize_eq
  have htoNat : (UInt64.ofNat (leavesSize leaves)).toNat = leavesSize leaves :=
    UInt64.toNat_ofNat_of_lt' hlt
  have hne : UInt64.ofNat (leavesSize leaves) ≠ 0 := by
    intro hzero
    rw [hzero] at htoNat
    exact absurd htoNat.symm hpos.ne'
  have hstored : s.dataValueSize = .ofNat (leavesSize leaves) :=
    dataValueSize_of_accepted haccepted hmethod hdefinition hsize hne hinputs h.slot
  refine ⟨hsize, htoNat, ?_⟩
  rw [h.process_payload (hstored ▸ hne) (hstored ▸ htoNat.symm ▸ hvalues)]

/-! ### A struct -/

omit [JsonRuntime] in
/-- The elements of an array of two unsigned numbers of 2 octets. -/
def element : Json :=
  .object [(metaCount, .numberUnsigned 2), (metaDatatype, .string dataTypeUint16)]

omit [JsonRuntime] in
/-- A floating point number of 8 octets. -/
def number : Json := .object [(metaDatatype, .string dataTypeReal64), (metaName, .string "number")]

omit [JsonRuntime] in
/-- Two unsigned numbers of 2 octets. -/
def pair : Json := .object [(dataTypeArray, element), (metaDatatype, .string dataTypeArray)]

omit [JsonRuntime] in
/-- A struct of two unsigned numbers and a floating point number. -/
def pairAndNumber : Json :=
  .object [(metaDatatype, .string dataTypeStruct), (dataTypeStruct, .array [pair, number])]

theorem hasLeaves_pairAndNumber : HasLeaves pairAndNumber [⟨2, [2]⟩, ⟨8, []⟩] := by
  have hnoName {definition : Json} (h : definition.find? metaName = none) :
      ∀ node, definition.find? metaName = some node → node.isString := by
    intro node hnode
    cases h.symm.trans hnode
  have helement : HasLeaves element [⟨2, []⟩] :=
    @HasLeaves.scalar _ element ⟨rfl, rfl, hnoName rfl⟩ dataTypeUint16 rfl 2 rfl
  have hnumber : HasLeaves number [⟨8, []⟩] := by
    refine @HasLeaves.scalar _ number ⟨rfl, rfl, fun node h => ?_⟩ dataTypeReal64 rfl 8 rfl
    cases h
    rfl
  have hpair : HasLeaves pair [⟨2, [2]⟩] :=
    @HasLeaves.array _ pair element _ ⟨rfl, rfl, hnoName rfl⟩ rfl rfl rfl 2 rfl _ helement
  exact @HasLeaves.struct _ pairAndNumber _ ⟨rfl, rfl, hnoName rfl⟩ rfl rfl
    [(_, [⟨2, [2]⟩]), (_, [⟨8, []⟩])] rfl (List.forall_mem_cons.mpr
      ⟨hpair, List.forall_mem_singleton.mpr hnumber⟩)

omit [JsonRuntime] in
/-- A payload of 36 octets has three values of 12 octets. -/
theorem valueCount_of_pairAndNumber :
    let c := @run decimalRuntime (dataSession pairAndNumber)
    ∃ s timeStamp, .dataAsValue s timeStamp (List.replicate 36 0) 3 ∈
      (c.processMeasuredData 2 (List.replicate 36 0)).callbacks := by
  let _ : JsonRuntime := decimalRuntime
  intro c
  have haccepted : (run ((dataSession pairAndNumber).take 3)).Succeeds
      (.metaInformation 2 (.description "t" pairAndNumber)) := ⟨0, le_rfl, by decide +kernel⟩
  have htable : c.tables "t" = some ⟨1, {2}⟩ := by decide +kernel
  obtain ⟨s, t, h⟩ := exists_synchronous (n := 2) (by decide +kernel) htable
    (by decide : (1 : SignalNumber) ≠ 0) (by decide +kernel)
  have hcallbacks := (valueCount_of_leaves hasLeaves_pairAndNumber (by decide) (by decide)
    haccepted rfl rfl (List.forall_mem_nil _) h
    (List.forall_mem_replicate.mpr (.inr rfl) : ∀ value ∈
      List.replicate 3 (List.replicate 12 (0 : UInt8)), value.length = 12)).2.2
  exact ⟨_, _, hcallbacks ▸ List.mem_cons_of_mem _ List.mem_cons_self⟩

end SignalContainer

end StreamingProtocol
