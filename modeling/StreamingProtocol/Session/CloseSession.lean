import StreamingProtocol.Foundation.Runs
import StreamingProtocol.Session.ProtocolHandler

/-!
# Closing a session

A session ends when it is stopped, when the stream cannot be initialised or read, or when a payload
is rejected. Each of these stores an error code and asks the stream to close, if there is still one.
When the stream has been closed, it is given up, and the completion callback of the application
gets the error code that is stored. The stream runs the callback of every request exactly once, in
any order, whether the request succeeds or fails; nothing else is assumed of it.

A payload is handled in two steps, since the callbacks of the application that run in between may
stop the session.

Nothing keeps the requests to close apart: a session that is asked to close while the stream is
being closed overwrites the error code and closes the stream again, and the completion callback is
called twice.

## Main definitions

* `ErrorCode`, `Session`, `SessionEvent`, `Session.step`.
* `Session.Possible`: the events that can happen in a state.
* `Session.Undisturbed`: no event asks to close the session while it is being closed, and no request
  succeeds after that.
* `Session.Phase`, `Session.InPhase`: the abstract course of a session.

## Main results

* `Session.exists_phase`: the course of a session that is not disturbed.
* `Session.completesOnce_of_reached`.
* `Session.completed_twice`: what follows if a session is disturbed.
-/

namespace StreamingProtocol

open ByteString

/-- An error code, of the stream or of the protocol handler. -/
inductive ErrorCode where
  | success
  | protocolError
  | stream (value : Int)
deriving DecidableEq, Repr

/-- What a session waits for: nothing, the initialisation of the stream, the pending read request,
or the end of the callbacks of the application that run while a payload is handled. -/
inductive Activity where
  | idle
  | init
  | read
  | payload (r : Reaction)
deriving DecidableEq, Repr

/-- Undefined behaviour of a session: the stream is used after it has been given up, or the handling
of a payload has undefined behaviour. -/
inductive SessionFault where
  | nullStream
  | payload (f : Fault)
deriving DecidableEq, Repr

/-- The state of a protocol handler that has been started. Besides its members it has the pending
requests to the stream, an undefined behaviour that has occurred, the error code given to the first
call of `closeSession`, and the error codes given to the completion callback. -/
structure Session where
  handler : ProtocolHandler := {}
  receiver : Receiver := .initial
  stream : Bool := true
  sessionEc : ErrorCode := .success
  completionCb : Bool := true
  activity : Activity := .init
  closes : ℕ := 0
  fault : Option SessionFault := none
  cause : Option ErrorCode := none
  completed : List ErrorCode := []

/-- What happens to a session. -/
inductive SessionEvent where
  | stop
  | init (ec : ErrorCode)
  | read (ec : ErrorCode) (data : Bytes)
  | processed
  | close (ec : ErrorCode)

namespace Session

/-- `ProtocolHandler::closeSession`. -/
def closeSession (sessionEc : ErrorCode) (s : Session) : Session :=
  { s with
    sessionEc := sessionEc
    cause := s.cause <|> some sessionEc
    closes := if s.stream then s.closes + 1 else s.closes }

/-- The stream is used; without one there is no defined behaviour. -/
def withStream (s : Session) (next : Session) : Session :=
  if s.stream then next else { s with activity := .idle, fault := some .nullStream }

/-- `ProtocolHandler::onInitComplete`. -/
def onInitComplete (ec : ErrorCode) (s : Session) : Session :=
  if ec ≠ .success then closeSession ec { s with activity := .idle }
  else s.withStream { s with activity := .read, receiver := .initial }

/-- `ProtocolHandler::onHeader`. -/
def onHeader (ec : ErrorCode) (data : Bytes) (s : Session) : Session :=
  if ec ≠ .success then closeSession ec { s with activity := .idle }
  else s.withStream { s with receiver := s.receiver.onHeader data }

/-- `ProtocolHandler::onAdditionalLength`. -/
def onAdditionalLength (ec : ErrorCode) (data : Bytes) (s : Session) : Session :=
  if ec ≠ .success then closeSession ec { s with activity := .idle }
  else s.withStream { s with receiver := s.receiver.onAdditionalLength data }

variable [JsonRuntime] [Msgpack]

/-- `ProtocolHandler::onPayload`, up to what follows the block. -/
def onPayload (ec : ErrorCode) (data : Bytes) (s : Session) : Session :=
  if ec ≠ .success then closeSession ec { s with activity := .idle }
  else
    let handled := s.handler.onPayload (s.receiver.block data)
    s.withStream { s with handler := handled.state, activity := .payload handled.reaction }

omit [JsonRuntime] [Msgpack] in
/-- The end of `ProtocolHandler::onPayload`. An exception leaves the read loop. -/
def onProcessed (r : Reaction) (s : Session) : Session :=
  match r with
  | .nextHeader => s.withStream { s with activity := .read, receiver := s.receiver.nextHeader }
  | .closeSession => closeSession .protocolError { s with activity := .idle }
  | .throw _ => { s with activity := .idle }
  | .undefined f => { s with activity := .idle, fault := some (.payload f) }

omit [JsonRuntime] [Msgpack] in
/-- `ProtocolHandler::onClose`. -/
def onClose (_ : ErrorCode) (s : Session) : Session :=
  { s with
    stream := false
    closes := s.closes - 1
    completed := if s.completionCb then s.completed ++ [s.sessionEc] else s.completed }

/-- The callback of the pending read request. -/
def onRead (ec : ErrorCode) (data : Bytes) (s : Session) : Session :=
  match s.receiver.pending with
  | .onHeader => s.onHeader ec data
  | .onAdditionalLength => s.onAdditionalLength ec data
  | .onPayload => s.onPayload ec data

/-- One event. -/
def step (s : Session) : SessionEvent → Session
  | .stop => s.closeSession .success
  | .init ec => s.onInitComplete ec
  | .read ec data => s.onRead ec data
  | .processed =>
      match s.activity with
      | .payload r => s.onProcessed r
      | _ => s
  | .close ec => s.onClose ec

omit [JsonRuntime] [Msgpack] in
/-- The callbacks that can run: those of pending requests, and after a payload has been handled the
rest of `onPayload`. Nothing is known after an undefined behaviour. -/
def Possible (s : Session) (e : SessionEvent) : Prop :=
  s.fault = none ∧ match e with
    | .stop => True
    | .init _ => s.activity = .init
    | .read _ _ => s.activity = .read
    | .processed => ∃ r, s.activity = .payload r
    | .close _ => 0 < s.closes

omit [JsonRuntime] [Msgpack] in
/-- `ProtocolHandler::start`. -/
def start (handler : ProtocolHandler) (completionCb : Bool) : Session where
  handler := handler
  completionCb := completionCb

/-- `ProtocolHandler::startWithSyncInit`, with the result of the initialisation. -/
def startWithSyncInit (handler : ProtocolHandler) (completionCb : Bool) (ec : ErrorCode) :
    Session :=
  (start handler completionCb).onInitComplete ec

omit [JsonRuntime] [Msgpack] in
/-- A session that has just been started. -/
def Started (s : Session) : Prop :=
  ∃ handler completionCb, s = start handler completionCb ∨
    ∃ ec, s = startWithSyncInit handler completionCb ec

/-! ### What an event does to the completion -/

omit [JsonRuntime] [Msgpack] in
/-- The event asks to close the session. -/
def Closes (s : Session) : SessionEvent → Prop
  | .stop => True
  | .init ec | .read ec _ => ec ≠ .success
  | .processed => s.activity = .payload .closeSession
  | .close _ => False

omit [JsonRuntime] [Msgpack] in
/-- The event goes on with the stream. -/
def UsesStream (s : Session) : SessionEvent → Prop
  | .stop | .close _ => False
  | .init ec | .read ec _ => ec = .success
  | .processed => s.activity = .payload .nextHeader

omit [JsonRuntime] [Msgpack] in
/-- No event asks to close the session while the stream is being closed, and none goes on with the
stream after that. -/
def Undisturbed (s : Session) (e : SessionEvent) : Prop :=
  (s.Closes e → s.closes = 0) ∧ (s.UsesStream e → s.stream)

omit [JsonRuntime] [Msgpack] in
/-- Two states that agree in all that concerns the completion. -/
structure Agrees (s t : Session) : Prop where
  stream : t.stream = s.stream
  sessionEc : t.sessionEc = s.sessionEc
  completionCb : t.completionCb = s.completionCb
  closes : t.closes = s.closes
  cause : t.cause = s.cause
  completed : t.completed = s.completed
  fault : t.fault = some .nullStream → s.fault = some .nullStream

omit [JsonRuntime] [Msgpack] in
theorem agrees_withStream {s next : Session} (hnext : s.Agrees next) (hstream : s.stream) :
    s.Agrees (s.withStream next) := by
  rw [withStream, if_pos hstream]
  exact hnext

/-- What an event does: it calls `closeSession`, it is the end of closing the stream, or it changes
nothing that concerns the completion. -/
theorem step_cases {s : Session} {e : SessionEvent} (huses : s.UsesStream e → s.stream) :
    (s.Closes e ∧ ∃ t ec, s.Agrees t ∧ step s e = closeSession ec t) ∨
      (∃ ec, e = .close ec ∧ step s e = s.onClose ec) ∨ (¬s.Closes e ∧ s.Agrees (step s e)) := by
  have hidle : s.Agrees { s with activity := .idle } := ⟨rfl, rfl, rfl, rfl, rfl, rfl, id⟩
  cases e with
  | stop => exact .inl ⟨trivial, s, .success, ⟨rfl, rfl, rfl, rfl, rfl, rfl, id⟩, rfl⟩
  | init ec =>
    by_cases hec : ec = .success
    · refine .inr (.inr ⟨not_not.mpr hec, ?_⟩)
      rw [step, onInitComplete, if_neg (not_not.mpr hec)]
      exact agrees_withStream ⟨rfl, rfl, rfl, rfl, rfl, rfl, id⟩ (huses hec)
    · exact .inl ⟨hec, _, ec, hidle, if_pos hec⟩
  | read ec data =>
    by_cases hec : ec = .success
    · refine .inr (.inr ⟨not_not.mpr hec, ?_⟩)
      rw [step, onRead]
      split
      · rw [onHeader, if_neg (not_not.mpr hec)]
        exact agrees_withStream ⟨rfl, rfl, rfl, rfl, rfl, rfl, id⟩ (huses hec)
      · rw [onAdditionalLength, if_neg (not_not.mpr hec)]
        exact agrees_withStream ⟨rfl, rfl, rfl, rfl, rfl, rfl, id⟩ (huses hec)
      · rw [onPayload, if_neg (not_not.mpr hec)]
        exact agrees_withStream ⟨rfl, rfl, rfl, rfl, rfl, rfl, id⟩ (huses hec)
    · refine .inl ⟨hec, _, ec, hidle, ?_⟩
      rw [step, onRead]
      split
      · exact if_pos hec
      · exact if_pos hec
      · exact if_pos hec
  | processed =>
    rw [step, Closes]
    split
    · next r hr =>
      rw [hr, Activity.payload.injEq]
      cases r with
      | nextHeader =>
        exact .inr (.inr ⟨nofun, agrees_withStream ⟨rfl, rfl, rfl, rfl, rfl, rfl, id⟩ (huses hr)⟩)
      | closeSession => exact .inl ⟨rfl, _, .protocolError, hidle, rfl⟩
      | throw e => exact .inr (.inr ⟨nofun, hidle⟩)
      | undefined f => exact .inr (.inr ⟨nofun, rfl, rfl, rfl, rfl, rfl, rfl, nofun⟩)
    · next hactivity =>
      exact .inr (.inr ⟨hactivity _, rfl, rfl, rfl, rfl, rfl, rfl, id⟩)
  | close ec => exact .inr (.inl ⟨ec, rfl, rfl⟩)

/-! ### The course of a session -/

/-- The course of a session: it runs, it is being closed for a reason, and it has been closed. -/
inductive Phase where
  | running
  | closing (cause : ErrorCode)
  | closed (cause : ErrorCode)
deriving DecidableEq, Repr

omit [JsonRuntime] [Msgpack] in
/-- A session in a phase of its course. -/
def InPhase (s : Session) : Phase → Prop
  | .running => s.stream ∧ s.closes = 0 ∧ s.cause = none ∧ s.completed = []
  | .closing cause =>
      s.stream ∧ s.closes = 1 ∧ s.cause = some cause ∧ s.sessionEc = cause ∧ s.completed = []
  | .closed cause =>
      s.stream = false ∧ s.closes = 0 ∧ s.cause = some cause ∧
        s.completed = if s.completionCb then [cause] else []

omit [JsonRuntime] [Msgpack] in
theorem Agrees.inPhase {s t : Session} (h : s.Agrees t) {p : Phase} (hs : s.InPhase p) :
    t.InPhase p := by
  cases p with
  | running =>
    rw [InPhase, h.stream, h.closes, h.cause, h.completed]
    exact hs
  | closing cause =>
    rw [InPhase, h.stream, h.closes, h.cause, h.sessionEc, h.completed]
    exact hs
  | closed cause =>
    rw [InPhase, h.stream, h.closes, h.cause, h.completed, h.completionCb]
    exact hs

omit [JsonRuntime] [Msgpack] in
/-- A session that is not being closed is closed for a reason, once. -/
theorem exists_inPhase_closeSession {s : Session} {p : Phase} (hs : s.InPhase p)
    (hcloses : s.closes = 0) (ec : ErrorCode) : ∃ p', (closeSession ec s).InPhase p' := by
  cases p with
  | running =>
    obtain ⟨hstream, -, hcause, hcompleted⟩ := hs
    refine ⟨.closing ec, hstream, ?_, ?_, rfl, hcompleted⟩
    · simp [closeSession, hstream, hcloses]
    · simp [closeSession, hcause]
  | closing cause =>
    obtain ⟨-, hone, -⟩ := hs
    omega
  | closed cause =>
    obtain ⟨hstream, -, hcause, hcompleted⟩ := hs
    refine ⟨.closed cause, hstream, ?_, ?_, hcompleted⟩
    · simp [closeSession, hstream, hcloses]
    · simp [closeSession, hcause]

omit [JsonRuntime] [Msgpack] in
/-- When the stream has been closed, the reason is reported. -/
theorem exists_inPhase_onClose {s : Session} {p : Phase} (hs : s.InPhase p)
    (hcloses : 0 < s.closes) (ec : ErrorCode) : ∃ p', (s.onClose ec).InPhase p' := by
  cases p with
  | running =>
    obtain ⟨-, hzero, -⟩ := hs
    omega
  | closing cause =>
    obtain ⟨-, hone, hcause, hec, hcompleted⟩ := hs
    refine ⟨.closed cause, rfl, ?_, hcause, ?_⟩
    · simp [onClose, hone]
    · simp [onClose, hcompleted, hec]
  | closed cause =>
    obtain ⟨-, hzero, -⟩ := hs
    omega

/-- Every event that is possible and does not disturb the session takes it to a phase of its
course. -/
theorem exists_inPhase_step {s : Session} {p : Phase} (hs : s.InPhase p) {e : SessionEvent}
    (hpossible : s.Possible e) (hundisturbed : s.Undisturbed e) : ∃ p', (step s e).InPhase p' := by
  obtain ⟨hcloses, t, ec, ht, hstep⟩ | ⟨ec, rfl, hstep⟩ | hstep := step_cases hundisturbed.2
  · rw [hstep]
    exact exists_inPhase_closeSession (ht.inPhase hs) (ht.closes.trans (hundisturbed.1 hcloses)) ec
  · rw [hstep]
    exact exists_inPhase_onClose hs hpossible.2 ec
  · exact ⟨p, hstep.2.inPhase hs⟩

/-- An event that does not disturb the session does not use a stream that has been given up. -/
theorem fault_step {s : Session} {e : SessionEvent} (hfault : s.fault ≠ some .nullStream)
    (hundisturbed : s.Undisturbed e) : (step s e).fault ≠ some .nullStream := by
  obtain ⟨-, t, ec, ht, hstep⟩ | ⟨ec, -, hstep⟩ | hstep := step_cases hundisturbed.2
  · rw [hstep]
    exact fun h => hfault (ht.fault h)
  · rw [hstep]
    exact hfault
  · exact fun h => hfault (hstep.2.fault h)

omit [JsonRuntime] [Msgpack] in
/-- The completion callback has been called at most once, with the error code given to the first
call of `closeSession`. -/
def CompletesOnce (s : Session) : Prop :=
  s.completed.length ≤ 1 ∧ ∀ ec ∈ s.completed, s.cause = some ec

omit [JsonRuntime] [Msgpack] in
theorem InPhase.completesOnce {s : Session} {p : Phase} (h : s.InPhase p) : s.CompletesOnce := by
  cases p with
  | running =>
    obtain ⟨-, -, -, hcompleted⟩ := h
    simp [CompletesOnce, hcompleted]
  | closing cause =>
    obtain ⟨-, -, -, -, hcompleted⟩ := h
    simp [CompletesOnce, hcompleted]
  | closed cause =>
    obtain ⟨-, -, hcause, hcompleted⟩ := h
    rw [CompletesOnce, hcause, hcompleted]
    split_ifs <;> simp

/-- The states of a session that is not disturbed. -/
def ReachedUndisturbed : Session → Session → Prop :=
  ReachedBy step fun s e => s.Possible e ∧ s.Undisturbed e

omit [JsonRuntime] [Msgpack] in
/-- The session is in a phase of its course and has not used a stream that has been given up. -/
def OnCourse (s : Session) : Prop := (∃ p, s.InPhase p) ∧ s.fault ≠ some .nullStream

theorem OnCourse.step {s : Session} (h : s.OnCourse) {e : SessionEvent} (hpossible : s.Possible e)
    (hundisturbed : s.Undisturbed e) : (s.step e).OnCourse := by
  obtain ⟨⟨p, hp⟩, hfault⟩ := h
  exact ⟨exists_inPhase_step hp hpossible hundisturbed, fault_step hfault hundisturbed⟩

theorem onCourse_of_started {s : Session} (h : Started s) : s.OnCourse := by
  have hstart (handler : ProtocolHandler) (completionCb : Bool) :
      (start handler completionCb).OnCourse := ⟨⟨.running, rfl, rfl, rfl, rfl⟩, nofun⟩
  obtain ⟨handler, completionCb, rfl | ⟨ec, rfl⟩⟩ := h
  · exact hstart handler completionCb
  · exact (hstart handler completionCb).step (e := .init ec) ⟨rfl, rfl⟩ ⟨fun _ => rfl, fun _ => rfl⟩

/-- A session that is not disturbed takes its course. -/
theorem onCourse_of_reached {init s : Session} (hinit : Started init)
    (h : ReachedUndisturbed init s) : s.OnCourse :=
  ReachedBy.invariant (onCourse_of_started hinit) (fun _ _ hs he => hs.step he.1 he.2) h

/-- A session that is not disturbed reports its first cause, at most once. -/
theorem completesOnce_of_reached {init s : Session} (hinit : Started init)
    (h : ReachedUndisturbed init s) : s.CompletesOnce ∧ s.fault ≠ some .nullStream := by
  obtain ⟨⟨p, hp⟩, hfault⟩ := onCourse_of_reached hinit h
  exact ⟨hp.completesOnce, hfault⟩

omit [JsonRuntime] [Msgpack] in
/-- A session that is stopped while its first read request is pending: the request fails after the
stream has been closed. -/
theorem completesOnce_of_reached_stop :
    let _ : JsonRuntime := decimalRuntime
    let _ : Msgpack := ⟨fun _ => [], fun _ => none⟩
    let s := [.init .success, .stop, .close .success, .read (.stream 125) []].foldl step
      (start {} true)
    s.CompletesOnce ∧ s.fault ≠ some .nullStream := by
  intro _ _ s
  refine completesOnce_of_reached ⟨{}, true, .inl rfl⟩ ?_
  refine .foldl .init _ ⟨⟨⟨rfl, rfl⟩, fun _ => rfl, fun _ => rfl⟩, ?_⟩
  refine ⟨⟨⟨rfl, trivial⟩, fun _ => rfl, nofun⟩, ⟨⟨rfl, by decide⟩, nofun, nofun⟩, ?_⟩
  exact ⟨⟨⟨rfl, rfl⟩, fun _ => rfl, nofun⟩, trivial⟩

/-! ### Sessions that are disturbed -/

omit [JsonRuntime] [Msgpack] in
/-- A session whose pending read request fails before the stream has been closed calls the
completion callback twice, and not with the error code of the call that stopped it. -/
theorem completed_stop_read_close :
    let _ : JsonRuntime := decimalRuntime
    let _ : Msgpack := ⟨fun _ => [], fun _ => none⟩
    ∃ s, ReachedBy step Possible (start {} true) s ∧ ¬s.CompletesOnce := by
  intro _ _
  refine ⟨_, .foldl .init [.init .success, .stop, .read (.stream 125) [], .close .success,
    .close .success] ?_, fun h => ?_⟩
  · exact ⟨⟨rfl, rfl⟩, ⟨rfl, trivial⟩, ⟨rfl, rfl⟩, ⟨rfl, by decide⟩, ⟨rfl, by decide⟩, trivial⟩
  · exact absurd h.1 (by decide)

/-- A session that is asked to close while the stream is being closed calls the completion callback
twice, as soon as both requests to close have been completed. -/
theorem completed_twice {init s : Session} (hinit : Started init) (h : ReachedUndisturbed init s)
    (hcb : s.completionCb) {e : SessionEvent} (hcloses : s.Closes e) (hpending : s.closes ≠ 0)
    (ec ec' : ErrorCode) :
    (([e, .close ec, .close ec'] : List SessionEvent).foldl step s).completed.length = 2 := by
  obtain ⟨⟨p, hp⟩, -⟩ := onCourse_of_reached hinit h
  cases p with
  | running => exact absurd hp.2.1 hpending
  | closed cause => exact absurd hp.2.1 hpending
  | closing cause =>
    obtain ⟨hstream, -, -, -, hcompleted⟩ := hp
    obtain ⟨-, t, code, ht, hstep⟩ | ⟨ec, rfl, -⟩ | hstep := step_cases (e := e) fun _ => hstream
    · simp only [List.foldl_cons, List.foldl_nil, hstep]
      simp [step, onClose, closeSession, ht.completionCb, hcb, ht.completed, hcompleted]
    · exact absurd hcloses id
    · exact absurd hcloses hstep.1

end Session

end StreamingProtocol
