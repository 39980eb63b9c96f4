import StreamingProtocol.Consumer.Application
import StreamingProtocol.Session.ReadableMetaInformation

/-!
# The use of the stream

The protocol handler gives up its stream when the stream has been closed. A call of `stop` in a
callback of the application is carried out at once, and if the stream completes the request to close
inside the call, the stream is given up while the payload is still being handled. The handler
goes on with the stream after an accepted payload without looking whether there is still one.

## Main definitions

* `Consumer.KeepsStream`: the event does not go on with a stream that has been given up.

## Main results

* `Consumer.fault_step_iff`: the step.
* `Consumer.streamHeld_iff`: the run.
-/

namespace StreamingProtocol

open ByteString ReachedBy

namespace Consumer

variable [JsonRuntime]

/-! ### Calls of the application -/

/-- A command leaves the session alone: the end point of the stream is only logged while there is
one. -/
theorem session_command (method : String) (signalIds : List String) (st : Consumer) :
    (st.command method signalIds).session = st.session := by
  unfold command
  split_ifs with hstream
  · have hlog : st.logEndPoint.session = st.session := if_pos hstream
    dsimp only
    split
    · exact hlog
    · split
      · rfl
      · exact hlog
      · rfl
      · rfl
  · rfl

omit [JsonRuntime] in
/-- If the request to close is completed inside the call, the stream is given up. -/
theorem stream_stop (s : Session) (inside : Bool) (st : Consumer) :
    ({ st with session := s.closeSession .success }.closeInside s inside).session.stream = true ↔
      s.stream = true ∧ inside = false := by
  unfold closeInside Session.closeSession
  cases hstream : s.stream <;> cases inside <;> simp [onClose, Session.onClose]

omit [JsonRuntime] in
theorem fault_closeInside (before : Session) (inside : Bool) (st : Consumer) :
    (st.closeInside before inside).session.fault = st.session.fault := by
  unfold closeInside
  split_ifs <;> rfl

omit [JsonRuntime] in
theorem activity_closeInside (before : Session) (inside : Bool) (st : Consumer) :
    (st.closeInside before inside).session.activity = st.session.activity := by
  unfold closeInside
  split_ifs <;> rfl

theorem fault_apply (st : Consumer) (call : ApplicationCall) :
    (st.apply call).session.fault = st.session.fault := by
  cases call with
  | stop inside => exact fault_closeInside _ _ _
  | subscribe signalIds => exact congrArg Session.fault (session_command _ _ st)
  | unsubscribe signalIds => exact congrArg Session.fault (session_command _ _ st)

theorem activity_apply (st : Consumer) (call : ApplicationCall) :
    (st.apply call).session.activity = st.session.activity := by
  cases call with
  | stop inside => exact activity_closeInside _ _ _
  | subscribe signalIds => exact congrArg Session.activity (session_command _ _ st)
  | unsubscribe signalIds => exact congrArg Session.activity (session_command _ _ st)

/-- Only a call of `stop` takes the stream away. -/
theorem stream_apply (st : Consumer) (call : ApplicationCall) :
    (st.apply call).session.stream = true ↔ st.session.stream = true ∧ call ≠ .stop true := by
  cases call with
  | stop inside =>
    refine (stream_stop st.session inside st).trans (and_congr_right fun _ => ?_)
    cases inside <;> simp
  | subscribe signalIds => simp [apply, session_command]
  | unsubscribe signalIds => simp [apply, session_command]

theorem stream_foldl_apply (calls : List ApplicationCall) (st : Consumer) :
    (calls.foldl apply st).session.stream = true ↔
      st.session.stream = true ∧ .stop true ∉ calls := by
  induction calls generalizing st with
  | nil => simp
  | cons call calls ih =>
    rw [List.foldl_cons, ih, stream_apply, List.mem_cons, not_or, and_assoc, ne_comm]

/-- The calls in callbacks leave the course of the session alone, but for the stream. -/
theorem course_foldl_apply (calls : List ApplicationCall) (st : Consumer) :
    (calls.foldl apply st).session.fault = st.session.fault ∧
      (calls.foldl apply st).session.activity = st.session.activity := by
  induction calls generalizing st with
  | nil => exact ⟨rfl, rfl⟩
  | cons call calls ih =>
    obtain ⟨hfault, hactivity⟩ := ih (st.apply call)
    exact ⟨hfault.trans (fault_apply st call), hactivity.trans (activity_apply st call)⟩

theorem course_runCallbacks (actions : List ConsumerAction) (calls : ℕ → List ApplicationCall)
    (st : Consumer) :
    (st.runCallbacks actions calls).session.fault = st.session.fault ∧
      (st.runCallbacks actions calls).session.activity = st.session.activity := by
  induction actions generalizing st calls with
  | nil => exact ⟨rfl, rfl⟩
  | cons action actions ih =>
    obtain ⟨hfault, hactivity⟩ := ih (fun i => calls (i + 1))
      ((calls 0).foldl apply (st.record action))
    obtain ⟨hfault', hactivity'⟩ := course_foldl_apply (calls 0) (st.record action)
    exact ⟨hfault.trans hfault', hactivity.trans hactivity'⟩

/-- The stream is there after callbacks if none of them gives it up. -/
theorem stream_runCallbacks (actions : List ConsumerAction) (calls : ℕ → List ApplicationCall)
    (st : Consumer) :
    (st.runCallbacks actions calls).session.stream = true ↔
      st.session.stream = true ∧ ∀ i < actions.length, .stop true ∉ calls i := by
  induction actions generalizing st calls with
  | nil => simp [runCallbacks]
  | cons action actions ih =>
    rw [runCallbacks, ih, stream_foldl_apply, List.length_cons, Nat.forall_lt_succ_left, and_assoc]
    exact Iff.rfl

/-! ### Events -/

variable [Msgpack]

theorem fault_perform (e : SessionEvent) (inside : Bool) (st : Consumer) :
    (st.perform e inside).session.fault = (st.session.step e).fault :=
  fault_closeInside _ _ _

/-- The event does not go on with a stream that has been given up: the initialisation succeeds only
while there is a stream, and no callback for a payload that is accepted stops the session with a
request to close that is completed inside the call. -/
def KeepsStream (st : Consumer) : ConsumerEvent → Prop
  | .call _ | .close _ => True
  | .init ec _ => ec = .success → st.session.stream = true
  | .read ec data calls _ => ec = .success → st.session.receiver.pending = .onPayload →
      (st.session.handler.onPayload (st.session.receiver.block data)).reaction = .nextHeader →
        ∀ i < (st.payloadActions data).length, .stop true ∉ calls i

omit [JsonRuntime] [Msgpack] in
theorem ne_nullStream {s : Session} (hfault : s.fault = none) : s.fault ≠ some .nullStream := by
  intro h
  cases hfault.symm.trans h

omit [JsonRuntime] [Msgpack] in
theorem fault_withStream {s next : Session} (hnext : next.fault = none) :
    (s.withStream next).fault ≠ some .nullStream ↔ s.stream = true := by
  unfold Session.withStream
  split_ifs with hstream
  · exact iff_of_true (ne_nullStream hnext) hstream
  · exact iff_of_false (fun h => h rfl) hstream

/-- While there is a stream, the first step of a payload goes on to the callbacks. -/
theorem perform_payload {st : Consumer} (hstream : st.session.stream = true)
    (hpending : st.session.receiver.pending = .onPayload) (data : Bytes) (inside : Bool) :
    let handled := st.session.handler.onPayload (st.session.receiver.block data)
    let s := (st.perform (.read .success data) inside).session
    s.fault = st.session.fault ∧ s.stream = true ∧ s.activity = .payload handled.reaction := by
  intro handled
  have hstep : st.session.step (.read .success data) =
      { st.session with handler := handled.state, activity := .payload handled.reaction } := by
    simp only [Session.step, Session.onRead, hpending, Session.onPayload, ne_eq, not_true_eq_false,
      if_false, Session.withStream, hstream, if_true]
    rfl
  rw [perform, hstep, closeInside, if_neg fun h => absurd h.2 (Nat.lt_irrefl _)]
  exact ⟨rfl, hstream, rfl⟩

/-- The end of a payload uses the stream if the payload has been accepted. -/
theorem fault_processed {s : Session} {r : Reaction} (hactivity : s.activity = .payload r)
    (hfault : s.fault = none) :
    (s.step .processed).fault ≠ some .nullStream ↔ (r = .nextHeader → s.stream = true) := by
  have hnone := ne_nullStream hfault
  have hstep : s.step .processed = s.onProcessed r := by rw [Session.step, hactivity]
  rw [hstep]
  cases r with
  | nextHeader =>
    refine (fault_withStream ?_).trans ⟨fun h _ => h, fun h => h rfl⟩
    exact hfault
  | closeSession => exact iff_of_true hnone Reaction.noConfusion
  | throw e => exact iff_of_true hnone Reaction.noConfusion
  | undefined f => exact iff_of_true (by simp [Session.onProcessed]) Reaction.noConfusion

/-- A payload uses a stream that has been given up if and only if it is accepted after a callback
has stopped the session. -/
theorem fault_onPayload {st : Consumer} (hfault : st.session.fault = none)
    (hstream : st.session.stream = true) (hpending : st.session.receiver.pending = .onPayload)
    (data : Bytes) (calls : ℕ → List ApplicationCall) (inside : Bool) :
    (st.onPayload data calls inside).session.fault ≠ some .nullStream ↔
      st.KeepsStream (.read .success data calls inside) := by
  obtain ⟨hfault', hstream', hactivity'⟩ := perform_payload hstream hpending data inside
  obtain ⟨hkept, hactivity⟩ := course_runCallbacks (st.payloadActions data) calls
    (st.perform (.read .success data) inside)
  rw [onPayload, fault_perform, fault_processed (hactivity.trans hactivity')
    (hkept.trans (hfault'.trans hfault)), stream_runCallbacks]
  simp only [hstream', true_and, KeepsStream, hpending, true_imp_iff]

/-- The octets before a payload are taken from the stream, and the next ones are requested. -/
theorem fault_onHeader {st : Consumer} (hfault : st.session.fault = none)
    (hstream : st.session.stream = true) (hpending : st.session.receiver.pending ≠ .onPayload)
    (data : Bytes) (calls : ℕ → List ApplicationCall) (inside : Bool) :
    (st.perform (.read .success data) inside).session.fault ≠ some .nullStream ↔
      st.KeepsStream (.read .success data calls inside) := by
  have hstep : ∃ receiver, st.session.step (.read .success data) =
      st.session.withStream { st.session with receiver } := by
    rw [Session.step, Session.onRead]
    cases hreceiver : st.session.receiver.pending with
    | onPayload => exact absurd hreceiver hpending
    | onHeader => exact ⟨_, rfl⟩
    | onAdditionalLength => exact ⟨_, rfl⟩
  obtain ⟨receiver, hstep⟩ := hstep
  rw [fault_perform, hstep]
  refine iff_of_true ((fault_withStream ?_).mpr hstream) fun _ h => absurd h hpending
  exact hfault

/-- **The use of the stream.** An event uses a stream that has been given up if and only if it goes
on after that. -/
theorem fault_step_iff {st : Consumer} {e : ConsumerEvent} (hpossible : st.Possible e) :
    (st.step e).session.fault ≠ some .nullStream ↔ st.KeepsStream e := by
  obtain ⟨hfault, hpossible⟩ := hpossible
  have hnone := ne_nullStream hfault
  cases e with
  | call call =>
    refine iff_of_true ?_ trivial
    rw [step, fault_apply]
    exact hnone
  | init ec inside =>
    rw [step, fault_perform, Session.step, Session.onInitComplete, KeepsStream]
    split_ifs with hec
    · exact iff_of_true hnone fun h => absurd h hec
    · refine (fault_withStream ?_).trans ⟨fun h _ => h, fun h => h (not_not.mp hec)⟩
      exact hfault
  | read ec data calls inside =>
    obtain ⟨-, hstream⟩ := hpossible
    rw [step, onRead]
    by_cases hec : ec = .success
    · subst hec
      by_cases hpending : st.session.receiver.pending = .onPayload
      · rw [if_pos ⟨rfl, hpending⟩]
        exact fault_onPayload hfault hstream hpending data calls inside
      · rw [if_neg fun h => hpending h.2]
        exact fault_onHeader hfault hstream hpending data calls inside
    · rw [if_neg fun h => hec h.1, fault_perform, Session.step, Session.onRead]
      refine iff_of_true ?_ fun h => absurd h hec
      have hclose : (Session.closeSession ec { st.session with activity := .idle }).fault ≠
        some .nullStream := hnone
      cases st.session.receiver.pending with
      | onPayload => rwa [Session.onPayload, if_pos hec]
      | onHeader => rwa [Session.onHeader, if_pos hec]
      | onAdditionalLength => rwa [Session.onAdditionalLength, if_pos hec]
  | close ec => exact iff_of_true hnone trivial

/-! ### Runs -/

theorem fault_of_started {st : Consumer} (h : Started st) :
    st.session.fault ≠ some .nullStream := by
  obtain ⟨handler, completionCb, s_id, ⟨remoteHost, rfl⟩ | ⟨ec, inside, rfl⟩⟩ := h
  · exact ne_nullStream rfl
  · exact (fault_step_iff (e := .init ec inside) ⟨rfl, rfl⟩).mpr fun _ => rfl

/-- In a run, a stream that has been given up is not used if and only if no event goes on with
one. -/
theorem streamHeld_iff {init : Consumer} (hinit : Started init) {events : List ConsumerEvent}
    (hpossible : AllowedAlong step Possible init events) :
    (events.foldl step init).session.fault ≠ some .nullStream ↔
      AllowedAlong step KeepsStream init events := by
  have hfault := fault_of_started hinit
  clear hinit
  induction events generalizing init with
  | nil => exact iff_of_true hfault trivial
  | cons e events ih =>
    obtain ⟨he, hevents⟩ := hpossible
    rw [List.foldl_cons, AllowedAlong, ← fault_step_iff he]
    by_cases hstep : (init.step e).session.fault = some .nullStream
    · refine iff_of_false (fun h => h ?_) fun h => h.1 hstep
      cases events with
      | nil => exact hstep
      | cons e' events => cases hevents.1.1.symm.trans hstep
    · exact (ih hevents hstep).trans (and_iff_right hstep).symm

omit [JsonRuntime] [Msgpack]

/-- The document `{"method": "alive"}`. -/
@[reducible] def aliveMsgpack : Msgpack := ProtocolHandler.listedMsgpack
  [([0x81, 0xa6, 0x6d, 0x65, 0x74, 0x68, 0x6f, 0x64, 0xa5, 0x61, 0x6c, 0x69, 0x76, 0x65],
    .object [(method, .string metaMethodAlive)])]

/-- The session is stopped in the callback for the first block, which has the document
`{"method": "alive"}`. -/
def stopInCallback (inside : Bool) : List ConsumerEvent :=
  [.init .success false, .read .success [0x00, 0x00, 0x20, 0x21] (fun _ => []) false,
    .read .success [2, 0, 0, 0, 0x81, 0xa6, 0x6d, 0x65, 0x74, 0x68, 0x6f, 0x64, 0xa5, 0x61, 0x6c,
      0x69, 0x76, 0x65] (fun _ => [.stop inside]) false]

/-- The stream is closed after the callback. -/
theorem streamHeld_stopInCallback :
    ((stopInCallback false).foldl (@step decimalRuntime aliveMsgpack)
        (start {} true 0 "localhost")).session.fault ≠ some .nullStream ↔
      AllowedAlong (@step decimalRuntime aliveMsgpack) (@KeepsStream decimalRuntime aliveMsgpack)
        (start {} true 0 "localhost") (stopInCallback false) := by
  let _ : JsonRuntime := decimalRuntime
  let _ : Msgpack := aliveMsgpack
  exact streamHeld_iff ⟨{}, true, 0, .inl ⟨"localhost", rfl⟩⟩ (by decide +kernel)

/-- The stream is closed in the callback, and the handler goes on with it. -/
theorem streamReleased_stopInCallback :
    AllowedAlong (@step decimalRuntime aliveMsgpack) Possible (start {} true 0 "localhost")
        (stopInCallback true) ∧
      ((stopInCallback true).foldl (@step decimalRuntime aliveMsgpack)
        (start {} true 0 "localhost")).session.fault = some .nullStream := by
  decide +kernel

end Consumer

end StreamingProtocol
