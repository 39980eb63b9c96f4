import StreamingProtocol.Control.Controller
import StreamingProtocol.Session.CloseSession

/-!
# A consumer

A protocol handler with the application that uses it. The application starts a session on a stream,
sends commands to the control server of the producer and stops the session. It may do all of this in
its callbacks, which run while a payload is handled. The stream may complete a request to close
inside the call, or later.

A read request is the last thing that a function of the handler does, so it makes no difference
whether the stream completes it inside the call. Calls in the completion callback are left out: they
find no stream.

## Main definitions

* `Consumer`, `ConsumerAction`: a protocol handler, and what can be observed of it.
* `ApplicationCall`, `ConsumerEvent`.
* `Consumer.start`, `Consumer.startWithSyncInit`, `Consumer.step`, `Consumer.Possible`.
-/

namespace StreamingProtocol

open ByteString

/-! ### Control requests -/

/-- The host of the constructor of `HttpPost`. -/
def HttpPost.host (host : String) : String := if host = "" then "localhost" else host

/-- A request to a control server. -/
structure ControlRequest where
  host : String
  port : String
  target : String
  streamId : String
  request : HttpRequest
deriving DecidableEq, Repr

/-! ### Events -/

/-- A call of the application. The request to close that `stop` makes may be completed inside the
call. -/
inductive ApplicationCall where
  | stop (inside : Bool)
  | subscribe (signalIds : List String)
  | unsubscribe (signalIds : List String)
deriving DecidableEq, Repr

/-- What happens to a consumer. A read request comes with the calls that the application makes in
each of the callbacks that run while the data is handled. A request to close that the protocol
handler makes may be completed inside the call. -/
inductive ConsumerEvent where
  | call (call : ApplicationCall)
  | init (ec : ErrorCode) (inside : Bool)
  | read (ec : ErrorCode) (data : Bytes) (calls : ℕ → List ApplicationCall) (inside : Bool)
  | close (ec : ErrorCode)

/-- What can be observed of a protocol handler: the callbacks that it makes and the requests that it
sends to the control server. -/
inductive ConsumerAction where
  | callback (callback : Callback)
  | streamMeta (method : String) (params : Json)
  | completion (ec : ErrorCode)
  | control (request : ControlRequest)

/-- The callbacks of the application for a block. -/
def Handled.actions (handled : Handled) : List ConsumerAction :=
  handled.callbacks.map .callback ++
    handled.streamMeta.map fun message => .streamMeta message.1 message.2

/-- A session with the host for control requests, the id of the last of these, and what has been
observed so far. -/
structure Consumer where
  session : Session
  remoteHost : String := ""
  s_id : UInt32 := 0
  actions : List ConsumerAction := []

namespace Consumer

def record (st : Consumer) (action : ConsumerAction) : Consumer :=
  { st with actions := st.actions ++ [action] }

/-- `ProtocolHandler::onClose`. -/
def onClose (ec : ErrorCode) (st : Consumer) : Consumer :=
  { st with
    session := st.session.onClose ec
    actions := st.actions ++
      if st.session.completionCb then [.completion st.session.sessionEc] else [] }

/-- The stream completes a request to close inside the call. -/
def closeInside (before : Session) (inside : Bool) (st : Consumer) : Consumer :=
  if inside ∧ before.closes < st.session.closes then st.onClose .success else st

section Commands

variable [JsonRuntime]

/-- The end point of the stream is logged. -/
def logEndPoint (st : Consumer) : Consumer :=
  { st with session := st.session.withStream st.session }

/-- `ProtocolHandler::subscribe` and `ProtocolHandler::unsubscribe`. -/
def command (method : String) (signalIds : List String) (st : Consumer) : Consumer :=
  if st.session.stream then
    let m := st.session.handler.streamMeta
    match Controller.create m.streamId m.httpControlPort m.httpControlPath m.httpVersion with
    | none => st.logEndPoint
    | some controller =>
        match controller.asyncCommand method st.s_id signalIds with
        | .done => st
        | .throwsRuntimeError => { st.logEndPoint with s_id := st.s_id + 1 }
        | .throwsTypeError => { st with s_id := st.s_id + 1 }
        | .posted request =>
            { st.record (.control ⟨HttpPost.host st.remoteHost, controller.port, controller.target,
                controller.streamId, request⟩) with s_id := st.s_id + 1 }
  else st

/-- A call of the application. -/
def apply (st : Consumer) : ApplicationCall → Consumer
  | .stop inside =>
      { st with session := st.session.closeSession .success }.closeInside st.session inside
  | .subscribe signalIds => st.command metaMethodSubscribe signalIds
  | .unsubscribe signalIds => st.command metaMethodUnsubscribe signalIds

/-- Callbacks one after the other, each with the calls that the application makes in it. -/
def runCallbacks : Consumer → List ConsumerAction → (ℕ → List ApplicationCall) → Consumer
  | st, [], _ => st
  | st, action :: actions, calls =>
      ((calls 0).foldl apply (st.record action)).runCallbacks actions fun i => calls (i + 1)

end Commands

variable [JsonRuntime] [Msgpack]

/-- An event of the session. -/
def perform (e : SessionEvent) (inside : Bool) (st : Consumer) : Consumer :=
  { st with session := st.session.step e }.closeInside st.session inside

/-- The callbacks that run when a payload has been read. -/
def payloadActions (st : Consumer) (data : Bytes) : List ConsumerAction :=
  (st.session.handler.onPayload (st.session.receiver.block data)).actions

/-- `ProtocolHandler::onPayload`. The application is called back between the two steps of the
session. -/
def onPayload (data : Bytes) (calls : ℕ → List ApplicationCall) (inside : Bool)
    (st : Consumer) : Consumer :=
  ((st.perform (.read .success data) inside).runCallbacks (st.payloadActions data) calls).perform
    .processed inside

/-- The callback of the pending read request. -/
def onRead (ec : ErrorCode) (data : Bytes) (calls : ℕ → List ApplicationCall) (inside : Bool)
    (st : Consumer) : Consumer :=
  if ec = .success ∧ st.session.receiver.pending = .onPayload then st.onPayload data calls inside
  else st.perform (.read ec data) inside

/-- One event. -/
def step (st : Consumer) : ConsumerEvent → Consumer
  | .call call => st.apply call
  | .init ec inside => st.perform (.init ec) inside
  | .read ec data calls inside => st.onRead ec data calls inside
  | .close ec => st.onClose ec

omit [JsonRuntime] [Msgpack] in
/-- The events that can happen. A stream that has been given up runs no callback of a read
request. -/
def Possible (st : Consumer) (e : ConsumerEvent) : Prop :=
  st.session.fault = none ∧ match e with
    | .call _ => True
    | .init _ _ => st.session.activity = .init
    | .read .. => st.session.activity = .read ∧ st.session.stream
    | .close _ => 0 < st.session.closes

omit [JsonRuntime] [Msgpack] in
instance (st : Consumer) (e : ConsumerEvent) : Decidable (st.Possible e) :=
  match e with
  | .call _ => inferInstanceAs (Decidable (st.session.fault = none ∧ True))
  | .init _ _ =>
      inferInstanceAs (Decidable (st.session.fault = none ∧ st.session.activity = .init))
  | .read .. => inferInstanceAs (Decidable (st.session.fault = none ∧
      st.session.activity = .read ∧ st.session.stream = true))
  | .close _ => inferInstanceAs (Decidable (st.session.fault = none ∧ 0 < st.session.closes))

omit [JsonRuntime] [Msgpack] in
/-- `ProtocolHandler::start`, with a stream to a remote host. -/
def start (handler : ProtocolHandler) (completionCb : Bool) (s_id : UInt32) (remoteHost : String) :
    Consumer where
  session := .start handler completionCb
  remoteHost := remoteHost
  s_id := s_id

/-- `ProtocolHandler::startWithSyncInit`, with the result of the initialisation. -/
def startWithSyncInit (handler : ProtocolHandler) (completionCb : Bool) (s_id : UInt32)
    (ec : ErrorCode) (inside : Bool) : Consumer :=
  { session := .start handler completionCb, s_id := s_id : Consumer }.perform (.init ec) inside

/-- A consumer that has just been started. -/
def Started (st : Consumer) : Prop :=
  ∃ handler completionCb s_id, (∃ remoteHost, st = start handler completionCb s_id remoteHost) ∨
    ∃ ec inside, st = startWithSyncInit handler completionCb s_id ec inside

end Consumer

end StreamingProtocol
