import StreamingProtocol.Foundation.Json
import StreamingProtocol.Presentation.Defines

/-!
# Parts of a signal description

Rules, sample types, and the four optional parts of a member description: the unit, the range, the
post scaling and the resolution. Each of these parts is composed into a description by a producer
and parsed from it by a consumer. A composer leaves out what equals the default and a parser keeps
what is not given.

## Main definitions

* `RuleType`, `SampleType`.
* `SignalUnit`, `Range`, `PostScaling`, `Resolution`, each with `compose` and `parse`.
-/

namespace StreamingProtocol

/-- `SignalNumber`, an `unsigned int`. On the transport layer it has 20 bits. -/
abbrev SignalNumber : Type := ℕ

/-- `RuleType`. -/
inductive RuleType where
  | unknown
  | explicit
  | constant
  | linear
deriving DecidableEq, Repr

/-- `SampleType`. -/
inductive SampleType where
  | unknown
  | u8
  | s8
  | u16
  | s16
  | u32
  | s32
  | u64
  | s64
  | real32
  | real64
  | bitfield32
  | bitfield64
  | complex32
  | complex64
  | array
  | struct
deriving DecidableEq, Repr

/-- `RelatedSignals`: the id of the related signal by the type of the relation. -/
abbrev RelatedSignals : Type := Members String

variable [JsonRuntime]

/-! ### Unit -/

/-- `Unit`. -/
structure SignalUnit where
  id : Int32 := -1
  displayName : String := ""
  quantity : String := ""
deriving DecidableEq, Repr

namespace SignalUnit

def unitIdNone : Int32 := -1
def unitIdSeconds : Int32 := 5457219

omit [JsonRuntime] in
/-- Whether a unit is second, by its id or, without one, by its name. -/
def isSeconds (u : SignalUnit) : Bool :=
  u.id = unitIdSeconds || (u.id = unitIdNone && u.displayName = "s")

omit [JsonRuntime] in
/-- `Unit::compose`: a unit without id is left out, the quantity is optional. -/
def compose (u : SignalUnit) (composition : Json) : Json :=
  if u.id = unitIdNone then composition
  else
    let unit := (Json.null.set metaUnitId (.numberInteger u.id.toInt64)).set metaDisplayName
      (.string u.displayName)
    composition.set metaUnit
      (if u.quantity = "" then unit else unit.set metaQuantity (.string u.quantity))

/-- `Unit::parse`. -/
def parse (composition : Json) (u : SignalUnit) : Completion SignalUnit :=
  match composition.find? metaUnit with
  | none => .normal u
  | some node =>
      .sequence [
        node.assign metaUnitId Json.getInt32 fun x u => { u with id := x },
        node.assign metaDisplayName Json.getString fun x u => { u with displayName := x },
        node.assign metaQuantity Json.getString fun x u => { u with quantity := x }] u

end SignalUnit

/-! ### Range -/

/-- `Range`, unlimited by default. -/
structure Range where
  low : Double := ⟨0xffefffffffffffff⟩
  high : Double := ⟨0x7fefffffffffffff⟩
deriving DecidableEq, Repr

namespace Range

omit [JsonRuntime] in
/-- `Range::compose`: unlimited limits are left out. -/
def compose (r : Range) (composition : Json) : Json :=
  let unlimited : Range := {}
  let limit (key : String) (x default : Double) (range : Json) :=
    if x = default then range else range.set key (.numberFloat x)
  if r = unlimited then composition
  else composition.set metaRange
    (limit metaHigh r.high unlimited.high (limit metaLow r.low unlimited.low .null))

/-- `Range::parse`. -/
def parse (composition : Json) (r : Range) : Completion Range :=
  match composition.find? metaRange with
  | none => .normal r
  | some node =>
      .sequence [
        node.assign metaLow Json.getDouble fun x r => { r with low := x },
        node.assign metaHigh Json.getDouble fun x r => { r with high := x }] r

end Range

/-! ### Post scaling -/

/-- `PostScaling`, one to one by default. -/
structure PostScaling where
  offset : Double := ⟨0⟩
  scale : Double := ⟨0x3ff0000000000000⟩
deriving DecidableEq, Repr

namespace PostScaling

omit [JsonRuntime] in
/-- `PostScaling::isOneToOne`. -/
def isOneToOne (p : PostScaling) : Prop := p.offset.isZero ∧ p.scale = ⟨0x3ff0000000000000⟩

instance (p : PostScaling) : Decidable p.isOneToOne :=
  inferInstanceAs (Decidable (p.offset.isZero ∧ p.scale = ⟨0x3ff0000000000000⟩))

omit [JsonRuntime] in
/-- `PostScaling::compose`: a scaling that is one to one is left out. -/
def compose (p : PostScaling) (composition : Json) : Json :=
  if p.isOneToOne then composition
  else composition.set metaPostscaling
    ((Json.null.set metaPoffset (.numberFloat p.offset)).set metaScale (.numberFloat p.scale))

/-- `PostScaling::parse`. -/
def parse (composition : Json) (p : PostScaling) : Completion PostScaling :=
  match composition.find? metaPostscaling with
  | none => .normal p
  | some node =>
      .sequence [
        node.assign metaPoffset Json.getDouble fun x p => { p with offset := x },
        node.assign metaScale Json.getDouble fun x p => { p with scale := x }] p

end PostScaling

/-! ### Resolution -/

/-- `Resolution`. -/
structure Resolution where
  numerator : UInt64 := 1
  denominator : UInt64 := 1
deriving DecidableEq, Repr

namespace Resolution

omit [JsonRuntime] in
/-- `Resolution::compose`. -/
def compose (r : Resolution) (composition : Json) : Json :=
  composition.set metaResolution
    ((Json.null.set metaNumerator (.numberUnsigned r.numerator)).set metaDenominator
      (.numberUnsigned r.denominator))

/-- The value of a member of a resolution, with whether it is given. -/
def member (key : String) (node : Json) (old : UInt64) : Except Abrupt (UInt64 × Bool) :=
  match node.find? key with
  | none => .ok (old, false)
  | some v => do
      let x ← v.getUInt64
      return (x, true)

/-- `Resolution::parse`: the resolution afterwards, and the result: 1 if a value is given, -1 if
the resolution is kept because a value is 0. -/
def parse (composition : Json) (r : Resolution) : Except Abrupt (Resolution × Int) :=
  match composition.find? metaResolution with
  | none => .ok (r, 0)
  | some node => do
      let (numerator, numeratorGiven) ← member metaNumerator node r.numerator
      if numeratorGiven ∧ numerator = 0 then return (r, -1)
      let (denominator, denominatorGiven) ← member metaDenominator node r.denominator
      if denominatorGiven ∧ denominator = 0 then return (r, -1)
      return (⟨numerator, denominator⟩, if numeratorGiven ∨ denominatorGiven then 1 else 0)

end Resolution

end StreamingProtocol
