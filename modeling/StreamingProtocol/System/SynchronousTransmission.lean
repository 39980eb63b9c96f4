import StreamingProtocol.Producer.SynchronousDelivery
import StreamingProtocol.System.Delivery

/-!
# Synchronous values over a wire

A table of synchronous signals is sent over a wire, with whatever else is written for the stream.
The application of the consumer gets the values of each signal as the producer has added them, with
the times that follow from the time that was set last. What it has got so far are the values of a
first part of the calls of the producer.

## Main definitions

* `SynchronousTable.calls`, `SynchronousTable.written`: what the signals of a table write.
* `SynchronousTable.allForgotten`: the callbacks before the time was set last.
* `SynchronousTable.SameValues`: callbacks that deliver the same values.

## Main results

* `SynchronousTable.exists_actions`: any first part of what is written.
* `Wire.timed_of_reached`.
-/

namespace StreamingProtocol

open ReachedBy

/-- Calls that are all for the container. -/
theorem WriterCall.filterMap_input? {calls : List WriterCall}
    (h : ∀ c ∈ calls, c.input? = some c.input) :
    calls.filterMap WriterCall.input? = calls.map WriterCall.input := by
  rw [← List.filterMap_eq_map]
  exact List.filterMap_congr h

namespace SynchronousTable

variable {ι : Type} [DecidableEq ι] [JsonRuntime] (P : SynchronousTable ι)

/-! ### What the producer writes -/

omit [DecidableEq ι] [JsonRuntime] in
/-- The calls of the writer during a call of a signal. -/
def calls (st : State ι) : Action ι → List WriterCall
  | .subscribeTime => (ProducerSignal.linearTime P.time).subscribe
  | .setTimeStart timeTicks => [P.time.setTimeStart timeTicks]
  | .subscribe i => (ProducerSignal.synchronous (P.signal st i)).subscribe
  | .addData i values => ((P.signal st i).addData values).2
  | .writeSignalMetaInformation i =>
      [(ProducerSignal.synchronous (P.signal st i)).writeSignalMetaInformation]
  | .unsubscribe i => [(ProducerSignal.synchronous (P.signal st i)).unsubscribe]

/-- The calls of the writer during calls of signals. -/
def written (st : State ι) : List (Action ι) → List WriterCall
  | [] => []
  | action :: actions => P.calls st action ++ written (P.step st action) actions

theorem written_append (st : State ι) (actions actions' : List (Action ι)) :
    P.written st (actions ++ actions') =
      P.written st actions ++ P.written (actions.foldl P.step st) actions' := by
  induction actions generalizing st with
  | nil => rfl
  | cons action actions ih =>
    rw [List.cons_append, written, written, ih, List.append_assoc]
    rfl

theorem container_step (st : State ι) (action : Action ι) :
    (P.step st action).container =
      ((P.calls st action).map WriterCall.input).foldl SignalContainer.next st.container := by
  cases action <;> rfl

omit [DecidableEq ι] [JsonRuntime] in
/-- The callbacks that a call forgets. -/
def forgotten (st : State ι) : Action ι → List Callback
  | .setTimeStart _ => st.callbacks
  | _ => []

/-- The callbacks that calls of signals forget. -/
def allForgotten (st : State ι) : List (Action ι) → List Callback
  | [] => []
  | action :: actions => forgotten st action ++ allForgotten (P.step st action) actions

theorem allForgotten_append (st : State ι) (actions actions' : List (Action ι)) :
    P.allForgotten st (actions ++ actions') =
      P.allForgotten st actions ++ P.allForgotten (actions.foldl P.step st) actions' := by
  induction actions generalizing st with
  | nil => rfl
  | cons action actions ih =>
    rw [List.cons_append, allForgotten, allForgotten, ih, List.append_assoc]
    rfl

/-- The callbacks that are kept are the last ones. -/
theorem callbacks_step (st : State ι) (action : Action ι) :
    st.callbacks ++ st.container.callbacks ((P.calls st action).map WriterCall.input) =
      forgotten st action ++ (P.step st action).callbacks := by
  cases action <;> rfl

omit [DecidableEq ι] [JsonRuntime] in
/-- All that is written is for the container. -/
theorem input?_of_mem_calls {st : State ι} {action : Action ι} {c : WriterCall}
    (hc : c ∈ P.calls st action) : c.input? = some c.input := by
  have hmeta (p : ProducerSignal) (doc : Json) :
      (WriterCall.writeMetaInformation p.number doc).input? =
        some (WriterCall.writeMetaInformation p.number doc).input :=
    if_neg p.base.signalNumber_ne_zero
  have hsubscribe {p : ProducerSignal} (hc : c ∈ p.subscribe) : c.input? = some c.input := by
    rcases List.mem_pair.mp hc with rfl | rfl
    · exact hmeta p _
    · exact hmeta p _
  cases action with
  | subscribeTime => exact hsubscribe hc
  | subscribe i => exact hsubscribe hc
  | setTimeStart t =>
    obtain rfl := List.mem_singleton.mp hc
    rfl
  | addData i values =>
    obtain rfl := List.mem_singleton.mp hc
    rfl
  | writeSignalMetaInformation i =>
    obtain rfl := List.mem_singleton.mp hc
    exact hmeta _ _
  | unsubscribe i =>
    obtain rfl := List.mem_singleton.mp hc
    exact hmeta _ _

theorem filterMap_written (st : State ι) (actions : List (Action ι)) :
    (P.written st actions).filterMap WriterCall.input? =
      (P.written st actions).map WriterCall.input := by
  induction actions generalizing st with
  | nil => rfl
  | cons action actions ih =>
    rw [written, List.filterMap_append, List.map_append, ih,
      WriterCall.filterMap_input? fun c hc => P.input?_of_mem_calls hc]

omit [DecidableEq ι] [JsonRuntime] in
/-- A call of a signal writes one block, or meta information only. -/
theorem calls_cases (st : State ι) (action : Action ι) :
    (P.calls st action).length ≤ 1 ∨
      ∀ input ∈ (P.calls st action).map WriterCall.input, ∃ n m, input = .metaInformation n m := by
  have hsubscribe (p : ProducerSignal) :
      ∀ input ∈ p.subscribe.map WriterCall.input, ∃ n m, input = .metaInformation n m := by
    intro input hinput
    rcases List.mem_pair.mp hinput with rfl | rfl
    · exact ⟨_, _, rfl⟩
    · exact ⟨_, _, rfl⟩
  cases action with
  | subscribeTime => exact .inr (hsubscribe _)
  | subscribe i => exact .inr (hsubscribe _)
  | _ => exact .inl le_rfl

/-! ### Parts of what is written -/

/-- Meta information delivers no values. -/
theorem flatMap_callbacks_metaInformation {β : Type} {values : Callback → List β}
    (hvalues : ∀ s method params, values (.signalMeta s method params) = []) {inputs : List Input}
    (hinputs : ∀ input ∈ inputs, ∃ n m, input = .metaInformation n m) (c : SignalContainer) :
    (c.callbacks inputs).flatMap values = [] := by
  rw [List.flatMap_eq_nil_iff]
  intro callback hcallback
  obtain ⟨s, method, params, rfl⟩ :=
    SignalContainer.callbacks_metaInformation hinputs c callback hcallback
  exact hvalues s method params

/-- All that is written: the callbacks that are kept are the last ones. -/
theorem callbacks_foldl (st : State ι) (actions : List (Action ι)) :
    st.callbacks ++ st.container.callbacks ((P.written st actions).map WriterCall.input) =
      P.allForgotten st actions ++ (actions.foldl P.step st).callbacks := by
  induction actions generalizing st with
  | nil => exact List.append_nil _
  | cons action actions ih =>
    rw [written, List.map_append, SignalContainer.callbacks_append, ← P.container_step,
      ← List.append_assoc, P.callbacks_step, List.append_assoc, ih, allForgotten, List.append_assoc]
    rfl

/-- Callbacks deliver the values that others deliver. -/
def SameValues (callbacks callbacks' : List Callback) : Prop :=
  ∀ values : Callback → List (ByteString.Bytes × UInt64),
    (∀ s method params, values (.signalMeta s method params) = []) →
      callbacks.flatMap values = callbacks'.flatMap values

/-- Any first part of what is written delivers the values of a first part of the calls. -/
theorem exists_actions (st : State ι) {actions : List (Action ι)} {part : List WriterCall}
    (hpart : part <+: P.written st actions) :
    ∃ done, done <+: actions ∧
      SameValues (st.callbacks ++ st.container.callbacks (part.map WriterCall.input))
        (P.allForgotten st done ++ (done.foldl P.step st).callbacks) := by
  induction actions generalizing st part with
  | nil =>
    obtain rfl := List.prefix_nil.mp hpart
    exact ⟨[], List.nil_prefix, fun _ _ => congrArg _ (List.append_nil _)⟩
  | cons action actions ih =>
    rcases List.prefix_or_prefix_of_prefix hpart (List.prefix_append _ _) with hfirst | hfirst
    · rcases P.calls_cases st action with hone | hmeta
      · by_cases hnil : part = []
        · refine ⟨[], List.nil_prefix, fun _ _ => ?_⟩
          rw [hnil]
          exact congrArg _ (List.append_nil _)
        · -- the part is the only block of the call
          have hwhole : part = P.calls st action :=
            hfirst.eq_of_length (le_antisymm hfirst.length_le
              (hone.trans (List.length_pos_iff.mpr hnil)))
          refine ⟨[action], List.prefix_append [action] actions, fun _ _ => ?_⟩
          rw [hwhole, P.callbacks_step, allForgotten, allForgotten, List.append_nil]
          rfl
      · refine ⟨[], List.nil_prefix, fun values hvalues => ?_⟩
        rw [List.flatMap_append, flatMap_callbacks_metaInformation hvalues fun input hinput =>
          hmeta input ((hfirst.map WriterCall.input).subset hinput), List.append_nil]
        rfl
    · obtain ⟨rest, rfl⟩ := hfirst
      obtain ⟨done, hdone, hvalues⟩ :=
        ih (P.step st action) ((List.prefix_append_right_inj _).mp hpart)
      refine ⟨action :: done, List.cons_prefix_cons.mpr ⟨rfl, hdone⟩, fun values hmeta => ?_⟩
      rw [List.map_append, SignalContainer.callbacks_append, ← P.container_step,
        ← List.append_assoc, P.callbacks_step, List.append_assoc, List.flatMap_append,
        hvalues values hmeta, ← List.flatMap_append, ← List.append_assoc, allForgotten]
      rfl

/-- What was added since the time was set is delivered. -/
theorem delivered_foldl {P : SynchronousTable ι} {actions : List (Action ι)}
    (hactions : AllowedAlong P.step P.Allowed P.initial actions) :
    P.Delivered (actions.foldl P.step P.initial) :=
  have hagrees : P.Agrees (actions.foldl P.step P.initial) :=
    (ReachedBy.init.foldl actions hactions).invariant P.agrees_initial
      fun _ _ hst hallowed => agrees_step hst hallowed
  hagrees.delivered

end SynchronousTable

namespace Wire

open SynchronousTable

variable {ι : Type} [DecidableEq ι] [JsonRuntime] [LawfulJsonRuntime] [Msgpack]
  {completionCb : Bool} {w : Wire} {P : SynchronousTable ι} {actions : List (Action ι)}

/-- A first part of the calls of the producer has arrived. The application has got the values that
these calls lead to directly, and meta information after them changes nothing. -/
theorem exists_done (h : Reached {} completionCb w) (hpreserved : ∀ c ∈ w.sent, c.Preserved)
    {closing : List Input} (hclosing : ∀ input ∈ closing, ∃ n m, input = .metaInformation n m)
    (hsent : w.sent.filterMap WriterCall.input? <+:
      (P.written P.initial actions).map WriterCall.input ++ closing) :
    ∃ done, done <+: actions ∧
      (w.handled = w.sent.map WriterCall.block → w.sent.filterMap WriterCall.input? =
        (P.written P.initial actions).map WriterCall.input ++ closing → done = actions) ∧
      ∀ values : Callback → List (ByteString.Bytes × UInt64),
        (∀ s method params, values (.signalMeta s method params) = []) →
        (∀ callback, values (Callback.transported callback) = values callback) →
        (ProtocolHandler.callbacks {} w.handled).flatMap values =
          (P.allForgotten P.initial done ++ (done.foldl P.step P.initial).callbacks).flatMap
            values := by
  obtain ⟨pre, hpre, hblocks⟩ := exists_calls h
  have hcallbacks := callbacks_eq (fun c hc => hpreserved c (hpre.subset hc)) hblocks
  suffices hdone : ∃ done, done <+: actions ∧
      (w.handled = w.sent.map WriterCall.block → w.sent.filterMap WriterCall.input? =
        (P.written P.initial actions).map WriterCall.input ++ closing → done = actions) ∧
      SameValues (SignalContainer.initial.callbacks (pre.filterMap WriterCall.input?))
        (P.allForgotten P.initial done ++ (done.foldl P.step P.initial).callbacks) by
    obtain ⟨done, hprefix, hfull, hvalues⟩ := hdone
    refine ⟨done, hprefix, hfull, fun values hmeta hsame => ?_⟩
    rw [hcallbacks, List.flatMap_map]
    simp only [hsame]
    exact hvalues values hmeta
  rcases List.prefix_or_prefix_of_prefix ((hpre.filterMap WriterCall.input?).trans hsent)
    (List.prefix_append _ _) with hpart | hwhole
  · by_cases hall : pre.filterMap WriterCall.input? =
        (P.written P.initial actions).map WriterCall.input
    · refine ⟨actions, List.prefix_rfl, fun _ _ => rfl, fun values _ => ?_⟩
      rw [hall, ← P.callbacks_foldl]
      rfl
    · obtain ⟨part, hpart', hinputs⟩ := List.prefix_map_iff.mp hpart
      obtain ⟨done, hdone, hvalues⟩ := P.exists_actions P.initial hpart'
      refine ⟨done, hdone, fun hhandled hwritten => absurd ?_ hall, ?_⟩
      · have hlength := congrArg List.length (hblocks.trans hhandled)
        rw [List.length_map, List.length_map] at hlength
        rw [hpre.eq_of_length hlength, hwritten] at hpart
        rw [hpre.eq_of_length hlength, hwritten]
        exact hpart.eq_of_length_le (List.prefix_append _ _).length_le
      · rw [hinputs]
        exact hvalues
  · -- all that the signals have written, and meta information
    obtain ⟨rest, hrest⟩ := hwhole
    have hmeta : rest <+: closing := by
      have hsplit := (hpre.filterMap WriterCall.input?).trans hsent
      rw [← hrest] at hsplit
      exact (List.prefix_append_right_inj _).mp hsplit
    refine ⟨actions, List.prefix_rfl, fun _ _ => rfl, fun values hvalues => ?_⟩
    rw [← hrest, SignalContainer.callbacks_append, List.flatMap_append,
      flatMap_callbacks_metaInformation hvalues fun input hinput =>
        hclosing input (hmeta.subset hinput), List.append_nil, ← P.callbacks_foldl]
    rfl

omit [DecidableEq ι] [JsonRuntime] [LawfulJsonRuntime] [Msgpack]

/-- A signal is subscribed and gets two values. -/
def voltageActions : List (Action Bool) :=
  [.subscribeTime, .subscribe true, .setTimeStart 5, .addData true [[1, 0], [2, 0]]]

def voltageSent : List WriterCall :=
  @written _ _ decimalRuntime voltages voltages.initial voltageActions

/-- All of it is written and arrives, and two blocks are handled. -/
def voltageEvents : List WireEvent :=
  [.other (.init .success)] ++ voltageSent.map .write ++ [.arrive 2000, .read, .read,
    .other .processed, .read, .read]

@[reducible] def voltageMsgpack : Msgpack := WriterCall.packed voltageSent

def voltageWire : Wire :=
  voltageEvents.foldl (@step decimalRuntime voltageMsgpack) (start {} true)

end Wire

end StreamingProtocol
