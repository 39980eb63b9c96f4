import StreamingProtocol.Producer.Availability
import StreamingProtocol.System.Delivery

/-!
# Subscriptions over a wire

A producer session opens the stream with its initial meta information. After that it announces
signals and acknowledges subscriptions and unsubscriptions. The consumer on the other end of a wire
accepts all of this, if the calls of the session fit to the subscriptions, and the signals that it
holds are those that were subscribed at some earlier moment of the session. It never holds a set of
signals that the producer did not have.

## Main definitions

* `ProducerSession.CommandInterfacesReadable`.
* `ProducerSession.output`: what a session writes.

## Main results

* `SignalContainer.Knows.messages_isPrefix`: any first part of the messages.
* `Wire.subscribed_of_reached`.
-/

namespace StreamingProtocol

open ReachedBy

/-! ### Parts of the messages -/

namespace SignalContainer

theorem Knows.transported {c : SignalContainer} {S : Finset SignalNumber} (h : c.Knows S) :
    c.transported.Knows S := by
  refine ⟨fun n hn => ?_, fun n hn => ?_⟩
  · obtain ⟨s, hs⟩ := h.exists_signal n hn
    exact ⟨s.transported, by rw [subscribedSignals_transported, hs]; rfl⟩
  · rw [subscribedSignals_transported, h.others n hn]
    rfl

variable [JsonRuntime] {c : SignalContainer} {S : Finset SignalNumber}

/-- Any first part of the messages of calls that fit leads to the signals that are subscribed after
a first part of the calls. -/
theorem Knows.messages_isPrefix (h : c.Knows S) {calls : List SignalCall}
    (hfits : AllowedAlong (fun S call => call.record S) (fun S call => call.Fits S) S calls)
    {messages : List Input} (hmessages : messages <+: calls.flatMap SignalCall.messages) :
    ∃ calls', calls' <+: calls ∧
      (messages.foldl next c).Knows (calls'.foldl (fun S call => call.record S) S) ∧
      (messages = calls.flatMap SignalCall.messages → calls' = calls) := by
  induction calls generalizing c S messages with
  | nil =>
    obtain rfl := List.prefix_nil.mp hmessages
    exact ⟨[], List.nil_prefix, h, fun _ => rfl⟩
  | cons call calls ih =>
    have hnone (messages : List Input) (hnil : messages = []) : ∃ calls',
        calls' <+: call :: calls ∧
          (messages.foldl next c).Knows (calls'.foldl (fun S call => call.record S) S) ∧
          (messages = (call :: calls).flatMap SignalCall.messages → calls' = call :: calls) := by
      refine ⟨[], List.nil_prefix, hnil ▸ h, fun hall => ?_⟩
      rw [hnil, List.flatMap_cons] at hall
      cases call <;> cases hall
    cases call with
    | subscribe p =>
      rw [List.flatMap_cons] at hmessages
      rcases List.prefix_cons_iff.mp hmessages with hnil | ⟨rest, rfl, hrest⟩
      · exact hnone _ hnil
      rcases List.prefix_cons_iff.mp hrest with rfl | ⟨rest, rfl, hlast⟩
      · refine ⟨[.subscribe p], List.prefix_append [_] calls, ?_, fun hall => ?_⟩
        · have hcall := ProducerSignal.process_acknowledgement (h.others _ hfits.1.1)
          have hnext : c.next (.metaInformation p.number.toNat p.announcement.acknowledgement) =
              c.setSignal p.number.toNat p.fresh := by rw [next, hcall]
          show (c.next (.metaInformation p.number.toNat p.announcement.acknowledgement)).Knows _
          rw [hnext]
          exact h.setSignal p.number.toNat p.fresh
        · cases hall
      · obtain ⟨calls', hcalls, hknows, hall⟩ := ih (h.subscribe hfits.1) hfits.2 hlast
        refine ⟨.subscribe p :: calls', List.cons_prefix_cons.mpr ⟨rfl, hcalls⟩, hknows, ?_⟩
        intro hsame
        have hrest : (SignalCall.subscribe p).messages ++ rest =
          (SignalCall.subscribe p).messages ++ calls.flatMap SignalCall.messages := hsame
        rw [hall (List.append_cancel_left hrest)]
    | unsubscribe p =>
      rw [List.flatMap_cons] at hmessages
      rcases List.prefix_cons_iff.mp hmessages with hnil | ⟨rest, rfl, hrest⟩
      · exact hnone _ hnil
      · obtain ⟨calls', hcalls, hknows, hall⟩ := ih (h.unsubscribe hfits.1) hfits.2 hrest
        refine ⟨.unsubscribe p :: calls', List.cons_prefix_cons.mpr ⟨rfl, hcalls⟩, hknows, ?_⟩
        intro hsame
        have hrest : (SignalCall.unsubscribe p).messages ++ rest =
          (SignalCall.unsubscribe p).messages ++ calls.flatMap SignalCall.messages := hsame
        rw [hall (List.append_cancel_left hrest)]

end SignalContainer

/-! ### What the consumer accepts -/

namespace StreamMeta

variable [JsonRuntime]

open Completion

/-- Command interfaces that can be read are processed to the end. -/
theorem processCommandInterfaces_of_readable {elements : List Json} {s : StreamMeta}
    (h : InterfacesReadable elements s.httpControlPort) :
    ∃ s', sequence (elements.map processCommandInterface) s = .normal s' := by
  induction elements generalizing s with
  | nil => exact ⟨s, rfl⟩
  | cons element elements ih =>
    obtain ⟨hreadable, hrest⟩ := h
    obtain ⟨t, ht, hport⟩ := processCommandInterface_of_readable hreadable
    obtain ⟨s', hs'⟩ := @ih t (hport ▸ hrest)
    refine ⟨s', ?_⟩
    rw [List.map_cons, sequence_cons, ht]
    exact hs'

theorem processInit_of_readable {params : Json} {s : StreamMeta}
    (h : InitReadable params s.httpControlPort) : ∃ s', processInit params s = .normal s' := by
  obtain ⟨⟨hobject, hid⟩, hinterfaces⟩ := h
  obtain ⟨streamId, hstreamId⟩ :
      ∃ streamId, params.valueOr Json.getString metaStreamid "" = .ok streamId := by
    cases hnode : params.find? metaStreamid with
    | none =>
      cases params with
      | object members =>
        have hnode : Members.find? metaStreamid members = none := hnode
        exact ⟨"", by rw [Json.valueOr, hnode]⟩
      | _ => cases hobject
    | some node =>
      rw [Json.valueOr_of_find? hobject hnode]
      have hstring := hid node hnode
      cases node with
      | string text => exact ⟨text, rfl⟩
      | _ => cases hstring
  unfold processInit
  rw [hstreamId, eval_ok]
  dsimp only
  cases hnode : params.find? "commandInterfaces" with
  | none => exact ⟨_, rfl⟩
  | some interfaces => exact processCommandInterfaces_of_readable (hinterfaces interfaces hnode)

end StreamMeta

namespace ProtocolHandler

variable [JsonRuntime] [Msgpack] (h : ProtocolHandler)

/-- A call of the container that succeeds is accepted. -/
theorem accepts_of_succeeds {c : WriterCall} {i : Input} (hc : c.Preserved)
    (hinput : c.input? = some i) (hi : h.signalContainer.Succeeds i.transported) :
    h.accepts c.block = true := by
  obtain ⟨r, hr, houtcome⟩ := hi
  refine decide_eq_true ?_
  cases c with
  | writeMetaInformation n doc =>
    have hn : n ≠ 0 := by
      rintro rfl
      cases hinput
    rw [WriterCall.input?, if_neg hn] at hinput
    obtain rfl := Option.some.inj hinput
    rw [onPayload_writeMetaInformation h hc]
    dsimp only
    rw [if_neg hn]
    refine (congrArg Reaction.ofAbrupt houtcome).trans ?_
    rw [Reaction.ofAbrupt, if_neg (not_lt.mpr hr)]
  | writeSignalData n data =>
    obtain rfl := Option.some.inj hinput
    rw [onPayload_writeSignalData]
    unfold onSignalData
    dsimp only
    have houtcome : (h.signalContainer.processMeasuredData n.toNat data).outcome = .ret r :=
      houtcome
    rw [houtcome]

/-- What is for the stream and is processed to the end is accepted. -/
theorem accepts_of_normal {c : WriterCall} (hc : c.Preserved) (hinput : c.input? = none)
    {s' : StreamMeta}
    (hs' : h.streamMeta.processMetaInformation c.metaInformation.transported = .normal s') :
    h.accepts c.block = true ∧ (h.deliver c.block).streamMeta = s' := by
  cases c with
  | writeMetaInformation n doc =>
    have hn : n = 0 := by
      by_contra hn
      rw [WriterCall.input?, if_neg hn] at hinput
      cases hinput
    have hs' : h.streamMeta.processMetaInformation ⟨metainformationMsgpack, doc.transported⟩ =
      .normal s' := hs'
    obtain ⟨method, hmethod, -⟩ := Completion.eval_eq_normal.mp hs'
    have hhandled : h.onPayload (WriterCall.writeMetaInformation n doc).block =
        ⟨.nextHeader, { h with
          metaInformation := ⟨metainformationMsgpack, doc.transported⟩, streamMeta := s' }, [],
          [(method, MetaInformation.params ⟨metainformationMsgpack, doc.transported⟩)]⟩ := by
      rw [onPayload_writeMetaInformation h hc]
      dsimp only
      rw [if_pos hn]
      unfold onStreamMeta
      dsimp only
      rw [hs']
      dsimp only
      rw [if_neg (not_not.mpr rfl), hmethod]
    rw [accepts, deliver, hhandled]
    exact ⟨rfl, rfl⟩
  | writeSignalData n data => cases hinput

/-- Calls are accepted if those of the container succeed and the others are processed to the end. -/
theorem allAccepted_calls {calls : List WriterCall} (hcalls : ∀ c ∈ calls, c.Preserved)
    (hstream : ∀ c ∈ calls, c.input? = none → ∀ s : StreamMeta,
      ∃ s', s.processMetaInformation c.metaInformation.transported = .normal s')
    (hsucceeds : AllowedAlong SignalContainer.next SignalContainer.Succeeds h.signalContainer
      ((calls.filterMap WriterCall.input?).map Input.transported)) :
    Mailbox.AllAccepted deliver accepts h (calls.map WriterCall.block) := by
  induction calls generalizing h with
  | nil => trivial
  | cons c calls ih =>
    obtain ⟨hc, hcalls⟩ := List.forall_mem_cons.mp hcalls
    obtain ⟨hfirst, hstream⟩ := List.forall_mem_cons.mp hstream
    cases hinput : c.input? with
    | none =>
      obtain ⟨s', hs'⟩ := hfirst hinput h.streamMeta
      rw [List.filterMap_cons_none hinput,
        ← (onPayload_of_input?_eq_none h hc hinput).1] at hsucceeds
      exact ⟨(accepts_of_normal h hc hinput hs').1, ih _ hcalls hstream hsucceeds⟩
    | some i =>
      rw [List.filterMap_cons_some hinput, List.map_cons] at hsucceeds
      refine ⟨accepts_of_succeeds h hc hinput hsucceeds.1, ih _ hcalls hstream ?_⟩
      rw [(onPayload_of_input?_eq_some h hc hinput).1]
      exact hsucceeds.2

end ProtocolHandler

/-! ### What a session writes -/

namespace ProducerSession

/-- A call of the writer for the stream that lists ids. -/
def Lists (c : WriterCall) : Prop :=
  ∃ name ids, (name = metaMethodAvailable ∨ name = metaMethodUnavailable) ∧
    c = .writeMetaInformation 0 (signalIdsMeta name ids)

/-- A message of a signal is a call of the container. -/
theorem input?_of_mem_written {call : SignalCall} {c : WriterCall} (hc : c ∈ call.written) :
    c.input? = some c.input := by
  have hnumber (p : ProducerSignal) (doc : Json) :
      (WriterCall.writeMetaInformation p.number doc).input? =
        some (WriterCall.writeMetaInformation p.number doc).input :=
    if_neg p.base.signalNumber_ne_zero
  cases call with
  | subscribe p =>
    rcases List.mem_pair.mp hc with rfl | rfl
    · exact hnumber p _
    · exact hnumber p _
  | unsubscribe p =>
    obtain rfl := List.mem_singleton.mp hc
    exact hnumber p _

theorem filterMap_flatMap_written (calls : List SignalCall) :
    (calls.flatMap SignalCall.written).filterMap WriterCall.input? =
      calls.flatMap SignalCall.messages := by
  induction calls with
  | nil => rfl
  | cons call calls ih =>
    rw [List.flatMap_cons, List.flatMap_cons, List.filterMap_append, ih]
    refine congrArg (· ++ _) ?_
    rw [SignalCall.messages, ← List.filterMap_eq_map]
    exact List.filterMap_congr fun c hc => input?_of_mem_written hc

/-- What a call writes for the container. -/
theorem filterMap_call (session : ProducerSession) (sc : SessionCall) :
    (session.call sc).2.filterMap WriterCall.input? =
      (session.signalCalls sc).flatMap SignalCall.messages := by
  cases sc with
  | addSignal p =>
    show List.filterMap _ (if _ then _ else _) = []
    split_ifs <;> rfl
  | addSignals ps =>
    show List.filterMap _ (if _ then _ else _) = []
    split_ifs <;> rfl
  | removeSignal id =>
    show List.filterMap _ (if _ then _ else _) = []
    split_ifs <;> rfl
  | removeSignals ids =>
    show List.filterMap _ (if _ then _ else _) = []
    split_ifs <;> rfl
  | subscribeSignals ids => rw [written_subscribeSignals, filterMap_flatMap_written]
  | unsubscribeSignals ids => rw [written_unsubscribeSignals, filterMap_flatMap_written]

theorem filterMap_written (session : ProducerSession) (calls : List SessionCall) :
    (session.written calls).filterMap WriterCall.input? =
      (session.allSignalCalls calls).flatMap SignalCall.messages := by
  induction calls generalizing session with
  | nil => rfl
  | cons sc calls ih =>
    rw [written, allSignalCalls, List.filterMap_append, List.flatMap_append, filterMap_call, ih]

/-- What a call writes for the stream lists ids. -/
theorem lists_of_mem_call {session : ProducerSession} {sc : SessionCall} {c : WriterCall}
    (hc : c ∈ (session.call sc).2) (hinput : c.input? = none) : Lists c := by
  have hsignal {calls : List SignalCall} (hc : c ∈ calls.flatMap SignalCall.written) : False := by
    obtain ⟨call, -, hc⟩ := List.mem_flatMap.mp hc
    rw [input?_of_mem_written hc] at hinput
    cases hinput
  have hlist {p : Prop} [Decidable p] {name : String} {ids : List String}
      (hname : name = metaMethodAvailable ∨ name = metaMethodUnavailable)
      (hc : c ∈ if p then [] else [WriterCall.writeMetaInformation 0 (signalIdsMeta name ids)]) :
      Lists c := by
    split_ifs at hc
    · cases hc
    · exact ⟨name, ids, hname, List.mem_singleton.mp hc⟩
  cases sc with
  | addSignal p =>
    have hc : c ∈ if p.isDataSignal then [writeAvailableMetaInformation [p.id]] else [] := hc
    rw [← ite_not] at hc
    exact hlist (.inl rfl) hc
  | addSignals ps => exact hlist (.inl rfl) hc
  | removeSignal id => exact hlist (.inr rfl) hc
  | removeSignals ids => exact hlist (.inr rfl) hc
  | subscribeSignals ids => exact (hsignal (written_subscribeSignals session ids ▸ hc)).elim
  | unsubscribeSignals ids => exact (hsignal (written_unsubscribeSignals session ids ▸ hc)).elim

theorem lists_of_mem_written {session : ProducerSession} {calls : List SessionCall}
    {c : WriterCall} (hc : c ∈ session.written calls) (hinput : c.input? = none) : Lists c := by
  induction calls generalizing session with
  | nil => cases hc
  | cons sc calls ih =>
    rw [written, List.mem_append] at hc
    exact hc.elim (lists_of_mem_call · hinput) ih

/-- A list of ids is processed to the end, whatever the consumer knows of the stream. -/
theorem Lists.processMetaInformation [JsonRuntime] {c : WriterCall} (hc : Lists c)
    (s : StreamMeta) : s.processMetaInformation c.metaInformation.transported = .normal s := by
  obtain ⟨name, ids, hname, rfl⟩ := hc
  have hmethod : (WriterCall.writeMetaInformation 0
      (signalIdsMeta name ids)).metaInformation.transported.method = .ok name := by
    rw [MetaInformation.method_transported, WriterCall.metaInformation, MetaInformation.method,
      (signalIdsMeta_reads name ids).2.1]
    rfl
  unfold StreamMeta.processMetaInformation
  rw [hmethod, Completion.eval_ok]
  rcases hname with rfl | rfl <;> rfl

/-! ### The initial meta information -/

/-- The command interfaces, which a session sends if they are an object, can be read by a consumer
that knows no port yet. -/
def CommandInterfacesReadable [JsonRuntime] (commandInterfaces : Json) : Prop :=
  commandInterfaces.isObject →
    StreamMeta.InterfacesReadable commandInterfaces.transported.elements ""

theorem params_initMeta (streamId : String) (commandInterfaces : Json) :
    ∃ params', (initMeta streamId commandInterfaces).find? params = some params' ∧
      params'.isObject ∧ params'.find? metaStreamid = some (.string streamId) ∧
      params'.find? "commandInterfaces" =
        if commandInterfaces.isObject then some commandInterfaces else none := by
  unfold initMeta
  split_ifs
  · exact ⟨_, rfl, rfl, rfl, rfl⟩
  · exact ⟨_, rfl, rfl, rfl, rfl⟩

section Initial

variable [JsonRuntime] [Msgpack] (streamId : String) (commandInterfaces : Json)

omit [Msgpack] in
theorem processMetaInformation_apiVersionMeta :
    StreamMeta.processMetaInformation ⟨metainformationMsgpack, apiVersionMeta.transported⟩ {} =
      .normal { apiVersion := openDaqLtStreamVersion } := by
  rfl

omit [Msgpack] in
theorem processMetaInformation_initMeta (hreadable : CommandInterfacesReadable commandInterfaces)
    {s : StreamMeta} (hs : s.httpControlPort = "") :
    ∃ s', s.processMetaInformation
      ⟨metainformationMsgpack, (initMeta streamId commandInterfaces).transported⟩ = .normal s' := by
  let m : MetaInformation := ⟨metainformationMsgpack, initMeta streamId commandInterfaces⟩
  obtain ⟨initParams, hparams, hobject, hid, hinterfaces⟩ :=
    params_initMeta streamId commandInterfaces
  have hmethod : m.transported.method = .ok metaMethodInit := by
    rw [MetaInformation.method_transported, MetaInformation.method, find?_method_initMeta]
    rfl
  have hread : m.transported.params = initParams.transported := by
    rw [MetaInformation.params_transported, MetaInformation.params, hparams]
  have hinit : s.processMetaInformation m.transported =
      s.processInit initParams.transported := by
    rw [StreamMeta.processMetaInformation, hmethod, Completion.eval_ok, hread]
    rfl
  show ∃ s', s.processMetaInformation m.transported = .normal s'
  rw [hinit]
  refine StreamMeta.processInit_of_readable ⟨⟨?_, fun node hnode => ?_⟩, fun node hnode => ?_⟩
  · rw [Json.isObject_transported, hobject]
  · rw [Json.find?_transported, hid] at hnode
    cases hnode
    rfl
  · rw [Json.find?_transported, hinterfaces] at hnode
    split_ifs at hnode with hci
    · obtain rfl := Option.some.inj hnode
      rw [hs]
      exact hreadable hci
    · cases hnode

/-- The initial meta information is accepted, and the container of the consumer is empty after
it. -/
theorem allAccepted_initial (hreadable : CommandInterfacesReadable commandInterfaces)
    (hpreserved : ∀ c ∈ writeInitialMetaInformation streamId commandInterfaces, c.Preserved) :
    Mailbox.AllAccepted ProtocolHandler.deliver ProtocolHandler.accepts {}
        ((writeInitialMetaInformation streamId commandInterfaces).map WriterCall.block) ∧
      (((writeInitialMetaInformation streamId commandInterfaces).map WriterCall.block).foldl
        ProtocolHandler.deliver {}).signalContainer = .initial := by
  obtain ⟨hversion, hinit⟩ := List.forall_mem_cons.mp hpreserved
  obtain ⟨hinit, -⟩ := List.forall_mem_cons.mp hinit
  obtain ⟨hfirst, hstate⟩ := ProtocolHandler.accepts_of_normal {} hversion rfl
    processMetaInformation_apiVersionMeta
  obtain ⟨s', hs'⟩ := processMetaInformation_initMeta streamId commandInterfaces hreadable
    (congrArg StreamMeta.httpControlPort hstate)
  refine ⟨⟨hfirst, (ProtocolHandler.accepts_of_normal _ hinit rfl hs').1, trivial⟩, ?_⟩
  exact ProtocolHandler.container_foldl {} hpreserved

end Initial

end ProducerSession

/-- What a session writes from its construction on. -/
def ProducerSession.output (streamId : String) (commandInterfaces : Json)
    (calls : List SessionCall) : List WriterCall :=
  writeInitialMetaInformation streamId commandInterfaces ++ initial.written calls

namespace Wire

variable [JsonRuntime] [LawfulJsonRuntime] [Msgpack] {completionCb : Bool} {w : Wire}
  {streamId : String} {commandInterfaces : Json} {calls : List SessionCall}

open ProducerSession

/-- The consumer accepts all that a session writes, if the calls of the session fit to the
subscriptions. -/
theorem allAccepted_output
    (hpreserved : ∀ c ∈ output streamId commandInterfaces calls, c.Preserved)
    (hreadable : CommandInterfacesReadable commandInterfaces)
    (hfits : AllowedAlong (fun S call => call.record S) (fun S call => call.Fits S) ∅
      (initial.allSignalCalls calls)) :
    Mailbox.AllAccepted ProtocolHandler.deliver ProtocolHandler.accepts {}
      ((output streamId commandInterfaces calls).map WriterCall.block) := by
  obtain ⟨hinitial, hwritten⟩ := List.forall_mem_append.mp hpreserved
  obtain ⟨haccepted, hcontainer⟩ :=
    allAccepted_initial streamId commandInterfaces hreadable hinitial
  rw [output, List.map_append]
  refine (allowedAlong_append _ _ _).mpr ⟨haccepted, ?_⟩
  refine ProtocolHandler.allAccepted_calls _ hwritten (fun c hc hinput s => ?_) ?_
  · exact ⟨s, (lists_of_mem_written hc hinput).processMetaInformation s⟩
  · rw [hcontainer, filterMap_written]
    refine (SignalContainer.allowedAlong_transported .initial _).mpr ?_
    exact (SignalContainer.knows_initial.accepts_messages_iff _).mpr hfits

/-- A signal is added and subscribed. -/
def subscribing : List SessionCall := [.addSignal addedSignal, .subscribeSignals ["id"]]

/-- All that the session writes is written and arrives, and three blocks are handled. -/
def subscribingEvents : List WireEvent :=
  [.other (.init .success)] ++ (output "stream" .null subscribing).map .write ++ [.arrive 1000] ++
    (List.replicate 3 [.read, .read, .other .processed]).flatten

omit [JsonRuntime] [LawfulJsonRuntime] [Msgpack] in
theorem filterMap_subscribingEvents :
    subscribingEvents.filterMap WireEvent.call? = output "stream" .null subscribing := by
  have hwrite (calls : List WriterCall) :
      (calls.map WireEvent.write).filterMap WireEvent.call? = calls := by
    rw [List.filterMap_map]
    exact List.filterMap_some
  rw [subscribingEvents, List.filterMap_append, List.filterMap_append, List.filterMap_append,
    hwrite]
  exact List.append_nil _

/-- The encoding of what the session writes. -/
@[reducible] def subscribingMsgpack : Msgpack :=
  WriterCall.packed (output "stream" .null subscribing)

def subscribed : Wire :=
  subscribingEvents.foldl (@step decimalRuntime subscribingMsgpack) (start {} true)

omit [JsonRuntime] [LawfulJsonRuntime] [Msgpack] in
theorem reached_subscribed : @Reached decimalRuntime subscribingMsgpack {} true subscribed :=
  ReachedBy.foldl .init subscribingEvents (by decide +kernel)

omit [JsonRuntime] [LawfulJsonRuntime] [Msgpack] in
theorem sent_subscribed : subscribed.sent = output "stream" .null subscribing := by
  have hsent := @sent_foldl decimalRuntime subscribingMsgpack subscribingEvents (start {} true)
  rw [filterMap_subscribingEvents] at hsent
  exact hsent

end Wire

end StreamingProtocol
