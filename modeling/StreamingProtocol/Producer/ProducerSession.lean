import StreamingProtocol.Session.StreamMeta

/-!
# The producer session

A producer session names the stream and the ways to send commands to it in meta information about
the stream, before any signal. The id of the stream is the one that the stream writer gives, the
end point of the connection. A consumer takes over the id, whatever becomes of the list of command
interfaces behind it.

## Main definitions

* `ProducerSession.apiVersionMeta`, `ProducerSession.initMeta`.

## Main results

* `ProducerSession.streamId_of_initMeta`: the id of the stream reaches the consumer.
-/

namespace StreamingProtocol

namespace ProducerSession

/-- `OPENDAQ_LT_STREAM_VERSION`. -/
def openDaqLtStreamVersion : String := "1.5.0"

def commandInterfacesKey : String := "commandInterfaces"

/-- The first document of `ProducerSession::writeInitialMetaInformation`. -/
def apiVersionMeta : Json :=
  (Json.null.set method (.string metaMethodApiversion)).setIn params version
    (.string openDaqLtStreamVersion)

/-- The second document of `ProducerSession::writeInitialMetaInformation`. -/
def initMeta (streamId : String) (commandInterfaces : Json) : Json :=
  let initMeta := (Json.null.set method (.string metaMethodInit)).setIn params metaStreamid
    (.string streamId)
  if commandInterfaces.isObject then initMeta.setIn params commandInterfacesKey commandInterfaces
  else initMeta

/-- `ProducerSession::writeInitialMetaInformation`, as calls of the stream writer. -/
def writeInitialMetaInformation (streamId : String) (commandInterfaces : Json) : List WriterCall :=
  [.writeMetaInformation 0 apiVersionMeta,
    .writeMetaInformation 0 (initMeta streamId commandInterfaces)]

theorem find?_method_initMeta (streamId : String) (commandInterfaces : Json) :
    (initMeta streamId commandInterfaces).find? method = some (.string metaMethodInit) := by
  unfold initMeta
  split_ifs <;> rfl

theorem find?_params_initMeta (streamId : String) (commandInterfaces : Json) :
    ∃ params', (initMeta streamId commandInterfaces).find? params = some params' ∧
      params'.isObject ∧ params'.find? metaStreamid = some (.string streamId) := by
  unfold initMeta
  split_ifs
  · exact ⟨_, rfl, rfl, rfl⟩
  · exact ⟨_, rfl, rfl, rfl⟩

end ProducerSession

namespace StreamMeta

variable [JsonRuntime]

open Completion

/-- The command interfaces leave the id of the stream alone. -/
theorem streamId_processCommandInterface (element : Json) (s : StreamMeta) :
    (processCommandInterface element s).state.streamId = s.streamId := by
  let P (t : StreamMeta) : Prop := t.streamId = s.streamId
  have hs : P s := rfl
  have hport (t : StreamMeta) (ht : P t) : P (processPort element t).state := by
    unfold processPort
    split_ifs
    · exact state_eval ht fun node => state_eval ht fun port => ht
    · exact ht
  have hpost : P (processPost element s).state := by
    refine state_eval hs fun node => state_eval hs fun path => ?_
    exact state_eval hs fun node => state_eval hs fun httpVersion => state_eval hs fun x =>
      hport _ hs
  change P (processCommandInterface element s).state
  refine state_eval hs fun _ => state_eval hs fun node => state_eval hs fun httpMethod => ?_
  split_ifs
  · exact hpost
  · exact hs

/-- The id of the stream is taken over before the command interfaces are read. -/
theorem streamId_processInit {params : Json} {streamId : String} (hobject : params.isObject)
    (hid : params.find? metaStreamid = some (.string streamId)) (s : StreamMeta) :
    (processInit params s).state.streamId = streamId := by
  have hread : params.valueOr Json.getString metaStreamid "" = .ok streamId := by
    rw [Json.valueOr_of_find? hobject hid, Json.getString]
  simp only [processInit, hread, eval_ok]
  split
  · rfl
  · refine sequence_state_induction (P := fun t : StreamMeta => t.streamId = streamId) _
      (fun p hp s hs => ?_) _ rfl
    obtain ⟨element, -, rfl⟩ := List.mem_map.mp hp
    exact (streamId_processCommandInterface element s).trans hs

end StreamMeta

namespace ProducerSession

variable [JsonRuntime]

/-- The consumer of the initial meta information knows the stream by its id. -/
theorem streamId_of_initMeta {m : MetaInformation} {streamId : String} {commandInterfaces : Json}
    (hm : m.jsonContent = initMeta streamId commandInterfaces) (s : StreamMeta) :
    (s.processMetaInformation m).state.streamId = streamId := by
  have hmethod : m.method = .ok metaMethodInit := by
    simp only [MetaInformation.method, hm, find?_method_initMeta, Json.getString]
  obtain ⟨initParams, hparams, hobject, hid⟩ := find?_params_initMeta streamId commandInterfaces
  have hread : m.params = initParams := by
    simp only [MetaInformation.params, hm, hparams]
  have hinit : s.processMetaInformation m = s.processInit m.params := by
    simp only [StreamMeta.processMetaInformation, hmethod, Completion.eval_ok]
    rfl
  rw [hinit, hread]
  exact StreamMeta.streamId_processInit hobject hid s

end ProducerSession

end StreamingProtocol
