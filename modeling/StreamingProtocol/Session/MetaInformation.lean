import StreamingProtocol.Presentation.Defines
import StreamingProtocol.Transport.StreamWriter

/-!
# Meta information

The payload of a meta information block is a type word followed by a document. The protocol handler
interprets all blocks into one object, which keeps the document of the last block that could be
read. A type that is not understood is stored, and the document of an earlier block stays.

## Main definitions

* `MetaInformation`, `MetaInformation.interpret`, `MetaInformation.method`,
  `MetaInformation.params`.
* `MetaInformation.message`: the meta information with a method and its parameters.
-/

namespace StreamingProtocol

open ByteString

/-- `MetaInformation`. -/
structure MetaInformation where
  metaInformationType : UInt32 := 0
  jsonContent : Json := .null

namespace MetaInformation

/-- `MetaInformation::interpret`; falling through is the return of 0. -/
def interpret [Msgpack] (data : Bytes) (m : MetaInformation) : Completion MetaInformation :=
  match read? data 0 4 with
  | none => .abrupt (.undefined .outOfBounds) m
  | some word =>
      let m := { m with metaInformationType := wordOfBytes word }
      if m.metaInformationType = metainformationMsgpack then
        match Msgpack.fromMsgpack (data.drop 4) with
        | some content => .normal { m with jsonContent := content }
        | none => .abrupt (.ret (-1)) m
      else .normal m -- what is not understood is ignored

theorem read?_type {data : Bytes} : (∃ word, read? data 0 4 = some word) ↔ 4 ≤ data.length := by
  rw [← Option.isSome_iff_exists, ← Option.ne_none_iff_isSome, ne_eq, read?_eq_none]
  omega

/-- A block is not interpreted because it does not hold a type, or because its document cannot be
read. -/
theorem interpret_eq_abrupt [Msgpack] {data : Bytes} {m m' : MetaInformation} {why : Abrupt}
    (h : m.interpret data = .abrupt why m') :
    (data.length < 4 ∧ why = .undefined .outOfBounds) ∨ (4 ≤ data.length ∧ why = .ret (-1)) := by
  unfold interpret at h
  cases hword : read? data 0 4 with
  | none =>
    rw [hword] at h
    cases h
    exact .inl ⟨by simpa using read?_eq_none.mp hword, rfl⟩
  | some word =>
    simp only [hword] at h
    split_ifs at h
    · split at h
      · cases h
      · cases h
        exact .inr ⟨read?_type.mp ⟨word, hword⟩, rfl⟩

/-- A block that is interpreted holds a type. -/
theorem length_of_interpret [Msgpack] {data : Bytes} {m m' : MetaInformation}
    (h : m.interpret data = .normal m') : 4 ≤ data.length := by
  unfold interpret at h
  cases hword : read? data 0 4 with
  | none =>
    rw [hword] at h
    cases h
  | some word => exact read?_type.mp ⟨word, hword⟩

/-- `MetaInformation::method`. -/
def method (m : MetaInformation) : Except Abrupt String :=
  match m.jsonContent.find? StreamingProtocol.method with
  | none => .ok ""
  | some methodNode => methodNode.getString

/-- `MetaInformation::params`. -/
def params (m : MetaInformation) : Json :=
  match m.jsonContent.find? StreamingProtocol.params with
  | none => .null
  | some paramsNode => paramsNode

/-- A method that is not a string throws. -/
theorem method_eq_error {m : MetaInformation} {why : Abrupt} (h : m.method = .error why) :
    why = .throw .jsonTypeError := by
  unfold MetaInformation.method at h
  split at h
  · cases h
  · exact Json.getString_eq_error h

/-! ### Messages -/

/-- The meta information with a method and its parameters. -/
def message (method : String) (params : Json) : MetaInformation where
  metaInformationType := metainformationMsgpack
  jsonContent := .object
    [(StreamingProtocol.method, .string method), (StreamingProtocol.params, params)]

@[simp] theorem method_message (method : String) (params : Json) :
    (message method params).method = .ok method := rfl

@[simp] theorem params_message (method : String) (params : Json) :
    (message method params).params = params := rfl

/-- The acknowledgement of a subscription. -/
def acknowledgement (signalId : Json) : MetaInformation :=
  message metaMethodSubscribe (.object [(metaSignalid, signalId)])

/-- A description that names a table. -/
def description (tableId : String) (definition : Json) : MetaInformation :=
  message metaMethodSignal
    (.object [(metaTableid, .string tableId), (metaDefinition, definition)])

end MetaInformation

end StreamingProtocol
