import StreamingProtocol.Presentation.Refusal
import StreamingProtocol.Producer.Signals

/-!
# Composing and parsing the parts of a description

The unit, the range, the post scaling and the resolution of a signal are composed into a definition
by one function and parsed from it by another. A composer leaves out what equals the default, and a
parser keeps what is not given. So a consumer that has parsed what a producer has composed has the
settings of the producer *over* its own: where they are at the default, its own are kept.

## Main definitions

* `SignalUnit.composed`, `Range.composed`, `PostScaling.composed`: the member that is composed.
* `SignalUnit.laidOver`, `Range.laidOver`, `PostScaling.laidOver`.

## Main results

* `SignalUnit.parse_of_composed`, `Range.parse_of_composed`, `PostScaling.parse_of_composed`,
  `Resolution.parse_of_composed`, `BaseValueSignal.announcedRelatedSignals_of_composed`.
-/

namespace StreamingProtocol

/-- A member that is set unless a condition holds. -/
theorem Json.find?_ite_set {c : Prop} [Decidable c] {key : String} (key' : String) (node : Json)
    {j : Json} (hj : j.isObject ∨ j = .null) (hnone : j.find? key = none) :
    (if c then j else j.set key node).find? key' =
      if key = key' then if c then none else some node else j.find? key' := by
  by_cases hc : c
  · rw [if_pos hc, if_pos hc]
    split_ifs with hkey
    · rw [← hkey, hnone]
    · rfl
  · rw [if_neg hc, if_neg hc, Json.find?_set key key' node hj]

theorem Json.isObject_ite_set {c : Prop} [Decidable c] (key : String) (node : Json) {j : Json}
    (hj : j.isObject) : (if c then j else j.set key node).isObject := by
  split_ifs
  · exact hj
  · exact Json.isObject_set j key node

variable [JsonRuntime]

open Completion

/-! ### Unit -/

namespace SignalUnit

omit [JsonRuntime] in
/-- The member that `Unit::compose` sets. -/
def node (u : SignalUnit) : Json :=
  let unit := (Json.null.set metaUnitId (.numberInteger u.id.toInt64)).set metaDisplayName
    (.string u.displayName)
  if u.quantity = "" then unit else unit.set metaQuantity (.string u.quantity)

omit [JsonRuntime] in
/-- The member that `Unit::compose` sets, if it sets one. -/
def composed (u : SignalUnit) : Option Json := if u.id = unitIdNone then none else some u.node

omit [JsonRuntime] in
theorem compose_eq (u : SignalUnit) (j : Json) :
    u.compose j = if u.id = unitIdNone then j else j.set metaUnit u.node := rfl

omit [JsonRuntime] in
theorem find?_compose (u : SignalUnit) (key : String) {j : Json} (hj : j.isObject)
    (hnone : j.find? metaUnit = none) :
    (u.compose j).find? key = if metaUnit = key then u.composed else j.find? key := by
  rw [compose_eq, Json.find?_ite_set key _ (.inl hj) hnone, composed]

omit [JsonRuntime] in
theorem isObject_compose (u : SignalUnit) {j : Json} (hj : j.isObject) :
    (u.compose j).isObject :=
  Json.isObject_ite_set _ _ hj

omit [JsonRuntime] in
/-- The unit of a consumer that had the unit `v`. -/
def laidOver (u v : SignalUnit) : SignalUnit :=
  if u.id = unitIdNone then v
  else ⟨u.id, u.displayName, if u.quantity = "" then v.quantity else u.quantity⟩

omit [JsonRuntime] in
theorem quantity_laidOver_ne {u v : SignalUnit} {quantity : String} (hu : u.quantity ≠ quantity)
    (hv : v.quantity ≠ quantity) : (u.laidOver v).quantity ≠ quantity := by
  unfold laidOver
  split_ifs
  · exact hv
  · exact hv
  · exact hu

theorem parse_of_composed {u : SignalUnit} {composition : Json}
    (h : composition.find? metaUnit = u.composed) (v : SignalUnit) :
    parse composition v = .normal (u.laidOver v) := by
  unfold parse laidOver
  rw [h, composed]
  by_cases hid : u.id = unitIdNone
  · simp [hid]
  · let unit := (Json.null.set metaUnitId (.numberInteger u.id.toInt64)).set metaDisplayName
      (.string u.displayName)
    have hfind (key : String) := @Json.find?_ite_set (u.quantity = "") _ metaQuantity key
      (.string u.quantity) unit (.inl rfl) rfl
    have hunitId : u.node.find? metaUnitId = some (.numberInteger u.id.toInt64) := by
      rw [node, hfind, if_neg (by decide)]
      rfl
    have hname : u.node.find? metaDisplayName = some (.string u.displayName) := by
      rw [node, hfind, if_neg (by decide)]
      rfl
    have hquantity : u.node.find? metaQuantity =
        if u.quantity = "" then none else some (.string u.quantity) := by
      rw [node, hfind, if_pos rfl]
    have hint : (Json.numberInteger u.id.toInt64).getInt32 = .ok u.id :=
      congrArg Except.ok (Int32.toInt32_toInt64 u.id)
    have hstring (text : String) : (Json.string text).getString = .ok text := rfl
    simp only [if_neg hid, sequence_cons, sequence_nil, Json.assign_of_find? hunitId hint,
      Json.assign_of_find? hname (hstring _), Json.assign_of_ite hquantity (hstring _),
      normal_andThen]
    split_ifs <;> rfl

end SignalUnit

/-! ### Range -/

namespace Range

omit [JsonRuntime] in
/-- A limit of a range, which is left out if it is the default. -/
def limit (key : String) (x default : Double) (range : Json) : Json :=
  if x = default then range else range.set key (.numberFloat x)

omit [JsonRuntime] in
/-- The member that `Range::compose` sets. -/
def node (r : Range) : Json :=
  let unlimited : Range := {}
  limit metaHigh r.high unlimited.high (limit metaLow r.low unlimited.low .null)

omit [JsonRuntime] in
/-- The member that `Range::compose` sets, if it sets one. -/
def composed (r : Range) : Option Json := if r = {} then none else some r.node

omit [JsonRuntime] in
theorem compose_eq (r : Range) (j : Json) :
    r.compose j = if r = {} then j else j.set metaRange r.node := rfl

omit [JsonRuntime] in
theorem find?_compose (r : Range) (key : String) {j : Json} (hj : j.isObject)
    (hnone : j.find? metaRange = none) :
    (r.compose j).find? key = if metaRange = key then r.composed else j.find? key := by
  rw [compose_eq, Json.find?_ite_set key _ (.inl hj) hnone, composed]

omit [JsonRuntime] in
theorem isObject_compose (r : Range) {j : Json} (hj : j.isObject) : (r.compose j).isObject :=
  Json.isObject_ite_set _ _ hj

omit [JsonRuntime] in
/-- The range of a consumer that had the range `v`. -/
def laidOver (r v : Range) : Range :=
  let unlimited : Range := {}
  ⟨if r.low = unlimited.low then v.low else r.low,
    if r.high = unlimited.high then v.high else r.high⟩

theorem parse_of_composed {r : Range} {composition : Json}
    (h : composition.find? metaRange = r.composed) (v : Range) :
    parse composition v = .normal (r.laidOver v) := by
  unfold parse laidOver
  rw [h, composed]
  by_cases hunlimited : r = {}
  · simp [hunlimited]
  · have hlow : (limit metaLow r.low ({} : Range).low .null).isObject ∨
        limit metaLow r.low ({} : Range).low .null = .null := by
      unfold limit
      split_ifs
      · exact .inr rfl
      · exact .inl rfl
    have hfirst (key : String) : (limit metaLow r.low ({} : Range).low .null).find? key =
        if metaLow = key then if r.low = ({} : Range).low then none else some (.numberFloat r.low)
        else none :=
      Json.find?_ite_set key _ (.inr rfl) rfl
    have hfind (key : String) : r.node.find? key = if metaHigh = key then
        if r.high = ({} : Range).high then none else some (.numberFloat r.high) else
        (limit metaLow r.low ({} : Range).low .null).find? key :=
      Json.find?_ite_set key _ hlow (by rw [hfirst, if_neg (by decide)])
    have hlowNode : r.node.find? metaLow =
        if r.low = ({} : Range).low then none else some (.numberFloat r.low) := by
      rw [hfind, if_neg (by decide), hfirst, if_pos rfl]
    have hhighNode : r.node.find? metaHigh =
        if r.high = ({} : Range).high then none else some (.numberFloat r.high) := by
      rw [hfind, if_pos rfl]
    have hdouble (x : Double) : (Json.numberFloat x).getDouble = .ok x := rfl
    simp only [if_neg hunlimited, sequence_cons, Json.assign_of_ite hlowNode (hdouble _),
      Json.assign_of_ite hhighNode (hdouble _), normal_andThen, sequence_nil]
    split_ifs <;> rfl

end Range

/-! ### Post scaling -/

namespace PostScaling

omit [JsonRuntime] in
/-- The member that `PostScaling::compose` sets. -/
def node (p : PostScaling) : Json :=
  (Json.null.set metaPoffset (.numberFloat p.offset)).set metaScale (.numberFloat p.scale)

omit [JsonRuntime] in
/-- The member that `PostScaling::compose` sets, if it sets one. -/
def composed (p : PostScaling) : Option Json := if p.isOneToOne then none else some p.node

omit [JsonRuntime] in
theorem find?_compose (p : PostScaling) (key : String) {j : Json} (hj : j.isObject)
    (hnone : j.find? metaPostscaling = none) :
    (p.compose j).find? key = if metaPostscaling = key then p.composed else j.find? key := by
  rw [compose, Json.find?_ite_set key _ (.inl hj) hnone, composed]
  rfl

omit [JsonRuntime] in
theorem isObject_compose (p : PostScaling) {j : Json} (hj : j.isObject) :
    (p.compose j).isObject :=
  Json.isObject_ite_set _ _ hj

omit [JsonRuntime] in
/-- The post scaling of a consumer that had the post scaling `v`. -/
def laidOver (p v : PostScaling) : PostScaling := if p.isOneToOne then v else p

theorem parse_of_composed {p : PostScaling} {composition : Json}
    (h : composition.find? metaPostscaling = p.composed) (v : PostScaling) :
    parse composition v = .normal (p.laidOver v) := by
  unfold parse laidOver
  rw [h, composed]
  split_ifs <;> rfl

end PostScaling

/-! ### Resolution -/

namespace Resolution

omit [JsonRuntime] in
/-- The member that `Resolution::compose` sets. -/
def node (r : Resolution) : Json :=
  (Json.null.set metaNumerator (.numberUnsigned r.numerator)).set metaDenominator
    (.numberUnsigned r.denominator)

omit [JsonRuntime] in
theorem find?_compose (r : Resolution) (key : String) {j : Json} (hj : j.isObject) :
    (r.compose j).find? key = if metaResolution = key then some r.node else j.find? key :=
  Json.find?_set metaResolution key r.node (.inl hj)

/-- A resolution whose numerator is not 0 is taken over if its denominator is not 0 either. -/
theorem parse_of_composed {r : Resolution} {composition : Json}
    (h : composition.find? metaResolution = some r.node) (hnumerator : r.numerator ≠ 0)
    (v : Resolution) :
    parse composition v = .ok (if r.denominator = 0 then (v, -1) else (r, 1)) := by
  have hnum : member metaNumerator r.node v.numerator = .ok (r.numerator, true) := rfl
  have hden : member metaDenominator r.node v.denominator = .ok (r.denominator, true) := rfl
  unfold parse
  rw [h]
  simp only [hnum, hden, bind, Except.bind, pure, Except.pure, hnumerator, and_false, if_false,
    true_and, true_or, if_true]
  split_ifs <;> rfl

end Resolution

/-! ### Related signals -/

namespace BaseValueSignal

omit [JsonRuntime] in
theorem relatedSignal_composeRelatedSignal (relatedSignal : String × String) :
    StreamingProtocol.relatedSignal (composeRelatedSignal relatedSignal) = .ok relatedSignal := rfl

omit [JsonRuntime] in
/-- The member that `composeRelatedSignals` sets, if it sets one. -/
def composedRelatedSignals (relatedSignals : RelatedSignals) : Option Json :=
  if relatedSignals = [] then none else some (.array (relatedSignals.map composeRelatedSignal))

omit [JsonRuntime] in
theorem find?_composeRelatedSignals (s : BaseValueSignal) (key : String) {j : Json}
    (hj : j.isObject) (hnone : j.find? metaRelatedsignals = none) :
    (s.composeRelatedSignals j).find? key =
      if metaRelatedsignals = key then composedRelatedSignals s.relatedSignals
      else j.find? key := by
  have hpush (value : Json) :
      (j.member metaRelatedsignals).pushBack value = .array ([] ++ [value]) :=
    congrArg (fun x => (x.getD Json.null).pushBack value) hnone
  obtain ⟨-, hother, hself⟩ :=
    Json.foldl_pushBackIn metaRelatedsignals composeRelatedSignal s.relatedSignals [] (.inl hj)
      hpush
  rw [composeRelatedSignals]
  split_ifs with hkey
  · rw [← hkey, hself, hnone, composedRelatedSignals, List.nil_append]
  · exact hother key hkey

omit [JsonRuntime] in
theorem readRelatedSignals_map (relatedSignals start : RelatedSignals) :
    readRelatedSignals (relatedSignals.map composeRelatedSignal) start =
      relatedSignals.foldl (fun built m => Members.set m.1 m.2 built) start := by
  induction relatedSignals generalizing start with
  | nil => rfl
  | cons m ms ih =>
    rw [List.map_cons, readRelatedSignals, relatedSignal_composeRelatedSignal, List.foldl_cons]
    exact ih _

omit [JsonRuntime] in
/-- A consumer reads the related signals that have been composed. -/
theorem announcedRelatedSignals_of_composed {relatedSignals : RelatedSignals}
    (h : relatedSignals.Ordered) :
    announcedRelatedSignals (.array (relatedSignals.map composeRelatedSignal)) =
      relatedSignals := by
  have hbuilt := h.foldl_set [] (List.forall_mem_nil _)
  rw [announcedRelatedSignals, readRelatedSignals_map, hbuilt, List.nil_append]

end BaseValueSignal

end StreamingProtocol
