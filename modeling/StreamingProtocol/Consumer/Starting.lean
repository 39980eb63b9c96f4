import StreamingProtocol.Consumer.Application
import StreamingProtocol.Session.ReadableMetaInformation

/-!
# Two ways to start

A session is started with an asynchronous or with a synchronous initialisation of its stream. Both
lead to the same handler, but only the asynchronous start asks the stream for the remote host. After
a synchronous start, the requests for the control server are sent to the local host.

## Main definitions

* `Consumer.toLocalhost`: a consumer whose control requests are sent to the local host.
* `Consumer.Asks`: the application asks for a control request.

## Main results

* `Consumer.step_toLocalhost`: the host makes no difference for anything else.
* `Consumer.startsAlike_iff`.
-/

namespace StreamingProtocol

open ByteString ReachedBy

/-- A control request that is sent to the local host instead. -/
def ConsumerAction.toLocalhost : ConsumerAction → ConsumerAction
  | .control request => .control { request with host := "localhost" }
  | action => action

theorem ConsumerAction.toLocalhost_control (request : ControlRequest) :
    (control request).toLocalhost = .control request ↔ request.host = "localhost" := by
  obtain ⟨host, port, target, streamId, request⟩ := request
  simp [toLocalhost, eq_comm]

theorem HttpPost.host_eq_localhost {host : String} :
    HttpPost.host host = "localhost" ↔ host = "" ∨ host = "localhost" := by
  unfold HttpPost.host
  split_ifs with h <;> simp [h]

/-- The control request that has been observed. -/
def ConsumerAction.control? : ConsumerAction → Option ControlRequest
  | .control request => some request
  | _ => none

theorem ConsumerAction.toLocalhost_of_control? {action : ConsumerAction}
    (h : action.control? = none) : action.toLocalhost = action := by
  cases action with
  | control request => cases h
  | _ => rfl

theorem Handled.control?_of_mem {handled : Handled} {action : ConsumerAction}
    (h : action ∈ handled.actions) : action.control? = none := by
  obtain h | h := List.mem_append.mp h
  · obtain ⟨callback, -, rfl⟩ := List.mem_map.mp h
    rfl
  · obtain ⟨message, -, rfl⟩ := List.mem_map.mp h
    rfl

namespace Consumer

/-! ### The host -/

/-- The consumer without a remote host, with the requests that it would have sent. -/
def toLocalhost (st : Consumer) : Consumer :=
  { st with remoteHost := "", actions := st.actions.map ConsumerAction.toLocalhost }

theorem onClose_toLocalhost (ec : ErrorCode) (st : Consumer) :
    st.toLocalhost.onClose ec = (st.onClose ec).toLocalhost := by
  have hcompletion : (if st.session.completionCb then
      [ConsumerAction.completion st.session.sessionEc] else []).map ConsumerAction.toLocalhost =
      if st.session.completionCb then [.completion st.session.sessionEc] else [] := by
    split_ifs <;> rfl
  simp only [onClose, toLocalhost, List.map_append, hcompletion]
  rfl

theorem closeInside_toLocalhost (before : Session) (inside : Bool) (st : Consumer) :
    st.toLocalhost.closeInside before inside = (st.closeInside before inside).toLocalhost := by
  have hsession : st.toLocalhost.session = st.session := rfl
  unfold closeInside
  rw [hsession]
  split_ifs
  · exact onClose_toLocalhost _ st
  · rfl

theorem record_toLocalhost {action : ConsumerAction} (h : action.toLocalhost = action)
    (st : Consumer) : st.toLocalhost.record action = (st.record action).toLocalhost := by
  simp only [record, toLocalhost, List.map_append, List.map_cons, h, List.map_nil]

variable [JsonRuntime]

theorem command_toLocalhost (method : String) (signalIds : List String) (st : Consumer) :
    st.toLocalhost.command method signalIds = (st.command method signalIds).toLocalhost := by
  have hsession : st.toLocalhost.session = st.session := rfl
  have hid : st.toLocalhost.s_id = st.s_id := rfl
  unfold command
  rw [hsession, hid]
  split_ifs
  · dsimp only
    split
    · rfl
    · split
      · rfl
      · rfl
      · rfl
      · simp only [record, toLocalhost, List.map_append, List.map_cons, List.map_nil]
        rfl
  · rfl

theorem apply_toLocalhost (st : Consumer) (call : ApplicationCall) :
    st.toLocalhost.apply call = (st.apply call).toLocalhost := by
  cases call with
  | stop inside =>
    exact closeInside_toLocalhost st.session inside
      { st with session := st.session.closeSession .success }
  | subscribe signalIds => exact command_toLocalhost _ _ st
  | unsubscribe signalIds => exact command_toLocalhost _ _ st

theorem runCallbacks_toLocalhost {actions : List ConsumerAction}
    (h : ∀ action ∈ actions, action.toLocalhost = action) (calls : ℕ → List ApplicationCall)
    (st : Consumer) :
    st.toLocalhost.runCallbacks actions calls = (st.runCallbacks actions calls).toLocalhost := by
  induction actions generalizing st calls with
  | nil => rfl
  | cons action actions ih =>
    obtain ⟨haction, hactions⟩ := List.forall_mem_cons.mp h
    rw [runCallbacks, record_toLocalhost haction, List.foldl_hom _ apply_toLocalhost, ih hactions]
    rfl

variable [Msgpack]

theorem perform_toLocalhost (e : SessionEvent) (inside : Bool) (st : Consumer) :
    st.toLocalhost.perform e inside = (st.perform e inside).toLocalhost :=
  closeInside_toLocalhost st.session inside { st with session := st.session.step e }

/-- An event does the same with another host, but for the host of requests. -/
theorem step_toLocalhost (st : Consumer) (e : ConsumerEvent) :
    st.toLocalhost.step e = (st.step e).toLocalhost := by
  cases e with
  | call call => exact apply_toLocalhost st call
  | init ec inside => exact perform_toLocalhost _ _ st
  | close ec => exact onClose_toLocalhost ec st
  | read ec data calls inside =>
    have hsession : st.toLocalhost.session = st.session := rfl
    have hactions : st.toLocalhost.payloadActions data = st.payloadActions data := rfl
    have hcallbacks (action : ConsumerAction) (h : action ∈ st.payloadActions data) :
        action.toLocalhost = action :=
      ConsumerAction.toLocalhost_of_control? (Handled.control?_of_mem h)
    rw [step, step, onRead, onRead, hsession]
    split_ifs
    · rw [onPayload, onPayload, hactions, perform_toLocalhost, runCallbacks_toLocalhost hcallbacks,
        perform_toLocalhost]
    · exact perform_toLocalhost _ _ st

/-! ### Requests -/

omit [Msgpack] in
/-- A command is sent to the control server: there is a stream, the control server and the id of the
stream are known, and there is something to ask for. -/
def Sends (method : String) (signalIds : List String) (st : Consumer) : Prop :=
  let m := st.session.handler.streamMeta
  st.session.stream = true ∧
    ∃ c, Controller.create m.streamId m.httpControlPort m.httpControlPath m.httpVersion = some c ∧
      signalIds ≠ [] ∧ c.port ≠ "" ∧ c.target ≠ "" ∧
      ∃ text, JsonRuntime.dump (c.createRequest st.s_id signalIds method) = some text

omit [Msgpack] in
/-- A call of the application sends a control request. -/
def CallAsks (st : Consumer) : ApplicationCall → Prop
  | .stop _ => False
  | .subscribe signalIds => st.Sends metaMethodSubscribe signalIds
  | .unsubscribe signalIds => st.Sends metaMethodUnsubscribe signalIds

omit [Msgpack] in
/-- One of the calls in a callback sends a control request. -/
def CallsAsk : Consumer → List ApplicationCall → Prop
  | _, [] => False
  | st, call :: calls => st.CallAsks call ∨ (st.apply call).CallsAsk calls

omit [Msgpack] in
/-- One of the calls in callbacks sends a control request. -/
def CallbacksAsk : Consumer → List ConsumerAction → (ℕ → List ApplicationCall) → Prop
  | _, [], _ => False
  | st, action :: actions, calls => (st.record action).CallsAsk (calls 0) ∨
      ((calls 0).foldl apply (st.record action)).CallbacksAsk actions fun i => calls (i + 1)

/-- The application asks for a control request. -/
def Asks (st : Consumer) : ConsumerEvent → Prop
  | .call call => st.CallAsks call
  | .init _ _ | .close _ => False
  | .read ec data calls inside => ec = .success ∧ st.session.receiver.pending = .onPayload ∧
      (st.perform (.read .success data) inside).CallbacksAsk (st.payloadActions data) calls

omit [JsonRuntime] [Msgpack] in
/-- The second state comes after the first, with new actions. If there are control requests among
them, which is said by the last argument, they go to the host. -/
def Extends (st st' : Consumer) (asked : Prop) : Prop :=
  st'.remoteHost = st.remoteHost ∧ ∃ new, st'.actions = st.actions ++ new ∧
    (∀ request, .control request ∈ new → request.host = HttpPost.host st.remoteHost) ∧
      ((∃ request, .control request ∈ new) ↔ asked)

section Extends

omit [JsonRuntime] [Msgpack]

theorem Extends.refl (st : Consumer) : st.Extends st False :=
  ⟨rfl, [], (List.append_nil _).symm, fun _ h => absurd h List.not_mem_nil,
    iff_of_false (fun ⟨_, h⟩ => absurd h List.not_mem_nil) id⟩

theorem Extends.trans {st st' st'' : Consumer} {asked asked' : Prop} (h : st.Extends st' asked)
    (h' : st'.Extends st'' asked') : st.Extends st'' (asked ∨ asked') := by
  obtain ⟨hhost, new, hnew, hto, hasked⟩ := h
  obtain ⟨hhost', new', hnew', hto', hasked'⟩ := h'
  refine ⟨hhost'.trans hhost, new ++ new', by rw [hnew', hnew, List.append_assoc], ?_, ?_⟩
  · intro request hrequest
    obtain h | h := List.mem_append.mp hrequest
    · exact hto request h
    · exact hhost ▸ hto' request h
  · rw [← hasked, ← hasked', ← exists_or]
    exact exists_congr fun _ => List.mem_append

theorem Extends.congr {st st' : Consumer} {asked asked' : Prop} (h : st.Extends st' asked)
    (hasked : asked ↔ asked') : st.Extends st' asked' := by
  obtain ⟨hhost, new, hnew, hto, hiff⟩ := h
  exact ⟨hhost, new, hnew, hto, hiff.trans hasked⟩

/-- Actions that are no control requests. -/
theorem extends_of_control?_eq_none {st st' : Consumer} (hhost : st'.remoteHost = st.remoteHost)
    {new : List ConsumerAction} (hnew : st'.actions = st.actions ++ new)
    (hnone : ∀ action ∈ new, action.control? = none) : st.Extends st' False := by
  have hno (request : ControlRequest) (h : .control request ∈ new) : False := by
    cases hnone _ h
  exact ⟨hhost, new, hnew, fun request h => (hno request h).elim,
    iff_of_false (fun ⟨request, h⟩ => hno request h) id⟩

theorem extends_record {action : ConsumerAction} (h : action.control? = none) (st : Consumer) :
    st.Extends (st.record action) False :=
  extends_of_control?_eq_none rfl rfl (List.forall_mem_singleton.mpr h)

theorem extends_onClose (ec : ErrorCode) (st : Consumer) : st.Extends (st.onClose ec) False := by
  refine extends_of_control?_eq_none rfl rfl fun action h => ?_
  split_ifs at h
  · rw [List.mem_singleton.mp h]
    rfl
  · exact absurd h List.not_mem_nil

theorem extends_closeInside (before : Session) (inside : Bool) (st : Consumer) :
    st.Extends (st.closeInside before inside) False := by
  unfold closeInside
  split_ifs
  · exact extends_onClose _ st
  · exact .refl st

end Extends

omit [Msgpack] in
/-- A command sends one request or none. -/
theorem extends_command (method : String) (signalIds : List String) (st : Consumer) :
    st.Extends (st.command method signalIds) (st.Sends method signalIds) := by
  unfold command Sends
  split_ifs with hstream
  · dsimp only
    cases hcreate : Controller.create st.session.handler.streamMeta.streamId
        st.session.handler.streamMeta.httpControlPort st.session.handler.streamMeta.httpControlPath
        st.session.handler.streamMeta.httpVersion with
    | none => exact (Extends.refl st).congr (by simp)
    | some c =>
      have hposted (request : HttpRequest) :=
        @Controller.asyncCommand_eq_posted _ method c st.s_id signalIds request
      -- without a request the actions stay as they are
      have hnone {st' : Consumer} (hhost : st'.remoteHost = st.remoteHost)
          (hactions : st'.actions = st.actions)
          (hcommand : ∀ request, c.asyncCommand method st.s_id signalIds ≠ .posted request) :
          st.Extends st' (st.session.stream = true ∧ ∃ c', some c = some c' ∧ signalIds ≠ [] ∧
            c'.port ≠ "" ∧ c'.target ≠ "" ∧
            ∃ text, JsonRuntime.dump (c'.createRequest st.s_id signalIds method) = some text) := by
        have hnew := extends_of_control?_eq_none hhost (hactions.trans (List.append_nil _).symm)
          fun _ h => absurd h List.not_mem_nil
        refine hnew.congr (iff_of_false id ?_)
        rintro ⟨-, _, hc, hids, hport, htarget, text, hdump⟩
        cases hc
        exact hcommand _ ((hposted _).mpr ⟨hids, hport, htarget, text, hdump, rfl⟩)
      dsimp only
      cases hcommand : c.asyncCommand method st.s_id signalIds with
      | posted request =>
        obtain ⟨hids, hport, htarget, text, hdump, -⟩ := (hposted request).mp hcommand
        refine ⟨rfl, [_], rfl, fun request h => ?_, iff_of_true ⟨_, List.mem_singleton_self _⟩ ?_⟩
        · cases List.mem_singleton.mp h
          rfl
        · exact ⟨hstream, c, rfl, hids, hport, htarget, text, hdump⟩
      | done => exact hnone rfl rfl fun request h => by cases hcommand.symm.trans h
      | throwsRuntimeError => exact hnone rfl rfl fun request h => by cases hcommand.symm.trans h
      | throwsTypeError => exact hnone rfl rfl fun request h => by cases hcommand.symm.trans h
  · exact (Extends.refl st).congr (by simp [hstream])

omit [Msgpack] in
theorem extends_apply (st : Consumer) (call : ApplicationCall) :
    st.Extends (st.apply call) (st.CallAsks call) := by
  cases call with
  | stop inside =>
    exact extends_closeInside st.session inside
      { st with session := st.session.closeSession .success }
  | subscribe signalIds => exact extends_command _ _ st
  | unsubscribe signalIds => exact extends_command _ _ st

omit [Msgpack] in
theorem extends_foldl_apply (calls : List ApplicationCall) (st : Consumer) :
    st.Extends (calls.foldl apply st) (st.CallsAsk calls) := by
  induction calls generalizing st with
  | nil => exact .refl st
  | cons call calls ih => exact (extends_apply st call).trans (ih (st.apply call))

omit [Msgpack] in
theorem extends_runCallbacks {actions : List ConsumerAction}
    (h : ∀ action ∈ actions, action.control? = none) (calls : ℕ → List ApplicationCall)
    (st : Consumer) :
    st.Extends (st.runCallbacks actions calls) (st.CallbacksAsk actions calls) := by
  induction actions generalizing st calls with
  | nil => exact .refl st
  | cons action actions ih =>
    obtain ⟨haction, hactions⟩ := List.forall_mem_cons.mp h
    have hcalls := (extends_record haction st).trans (extends_foldl_apply (calls 0) _)
    exact (hcalls.trans (ih hactions _ _)).congr (or_congr_left (iff_of_eq (false_or _)))

theorem extends_perform (e : SessionEvent) (inside : Bool) (st : Consumer) :
    st.Extends (st.perform e inside) False :=
  extends_closeInside st.session inside { st with session := st.session.step e }

theorem extends_step (st : Consumer) (e : ConsumerEvent) :
    st.Extends (st.step e) (st.Asks e) := by
  cases e with
  | call call => exact extends_apply st call
  | init ec inside => exact extends_perform _ _ st
  | close ec => exact extends_onClose ec st
  | read ec data calls inside =>
    rw [step, onRead, Asks]
    split_ifs with hpayload
    · have hread := extends_perform (.read .success data) inside st
      have hcallbacks := extends_runCallbacks
        (fun _ h => Handled.control?_of_mem h : ∀ action ∈ st.payloadActions data, _) calls
        (st.perform (.read .success data) inside)
      have hend := extends_perform .processed inside
        ((st.perform (.read .success data) inside).runCallbacks (st.payloadActions data) calls)
      refine ((hread.trans hcallbacks).trans hend).congr ?_
      rw [or_false, false_or, and_iff_right hpayload.1, and_iff_right hpayload.2]
    · refine (extends_perform _ _ st).congr (iff_of_false id fun h => ?_)
      exact hpayload ⟨h.1, h.2.1⟩

/-- In a run, control requests go to the host, and there are some if and only if the application
asks for one. -/
theorem extends_foldl (events : List ConsumerEvent) (st : Consumer) :
    st.Extends (events.foldl step st) (¬AllowedAlong step (fun st e => ¬st.Asks e) st events) := by
  induction events generalizing st with
  | nil => exact (Extends.refl st).congr (by simp [AllowedAlong])
  | cons e events ih =>
    refine ((extends_step st e).trans (ih (st.step e))).congr ?_
    rw [AllowedAlong, not_and_or, not_not]

/-! ### Sessions that are started -/

theorem foldl_toLocalhost (events : List ConsumerEvent) (st : Consumer) :
    events.foldl step st.toLocalhost = (events.foldl step st).toLocalhost :=
  List.foldl_hom _ step_toLocalhost

/-- **Two ways to start.** If the initialisation succeeds, both ways to start lead to the same
actions if and only if the remote host is the local host or no control request is sent. -/
theorem startsAlike_iff (handler : ProtocolHandler) (completionCb : Bool) (s_id : UInt32)
    (remoteHost : String) (inside : Bool) (events : List ConsumerEvent) :
    let started := (start handler completionCb s_id remoteHost).step (.init .success inside)
    (events.foldl step (startWithSyncInit handler completionCb s_id .success inside)).actions =
        (events.foldl step started).actions ↔
      (remoteHost = "" ∨ remoteHost = "localhost") ∨
        AllowedAlong step (fun st e => ¬st.Asks e) started events := by
  intro started
  have hsync : startWithSyncInit handler completionCb s_id .success inside = started.toLocalhost :=
    step_toLocalhost (start handler completionCb s_id remoteHost) (.init .success inside)
  obtain ⟨hhost, hnothing⟩ : started.remoteHost = remoteHost ∧ started.actions = [] := by
    have hclose : started = { start handler completionCb s_id remoteHost with
        session := (Session.start handler completionCb).step (.init .success) } :=
      if_neg fun h => absurd h.2 (Nat.lt_irrefl _)
    exact ⟨congrArg Consumer.remoteHost hclose, congrArg Consumer.actions hclose⟩
  obtain ⟨-, new, hnew, hto, hasked⟩ := extends_foldl events started
  rw [hnothing, List.nil_append] at hnew
  have hsame : new.map ConsumerAction.toLocalhost = new ↔
      ∀ action ∈ new, action.toLocalhost = action := by
    rw [← List.map_inj_left, List.map_id']
  have hlocal {request : ControlRequest} (h : .control request ∈ new) :
      (ConsumerAction.control request).toLocalhost = .control request ↔
        remoteHost = "" ∨ remoteHost = "localhost" := by
    rw [← HttpPost.host_eq_localhost, ← hhost, ← hto request h]
    exact ConsumerAction.toLocalhost_control request
  rw [hsync, foldl_toLocalhost, toLocalhost, hnew, hsame]
  by_cases hrequest : ∃ request, .control request ∈ new
  · rw [or_iff_left (hasked.mp hrequest)]
    obtain ⟨request, hrequest⟩ := hrequest
    refine ⟨fun h => (hlocal hrequest).mp (h _ hrequest), fun h action haction => ?_⟩
    cases action with
    | control request => exact (hlocal haction).mpr h
    | _ => rfl
  · refine iff_of_true (fun action haction => ?_) (.inr (not_not.mp (mt hasked.mpr hrequest)))
    cases action with
    | control request => exact absurd ⟨request, haction⟩ hrequest
    | _ => rfl

omit [JsonRuntime] [Msgpack]

/-- A short text as MessagePack. -/
def packedText (text : String) : Bytes :=
  UInt8.ofNat (0xa0 + text.length) :: text.toList.map fun c => UInt8.ofNat c.toNat

/-- The initial meta information of a stream, with a control server at port 7438, as MessagePack. -/
def packedInit : Bytes :=
  0x82 :: packedText "method" ++ packedText "init" ++ packedText "params" ++
    0x82 :: packedText "commandInterfaces" ++ 0x81 :: packedText "jsonrpc-http" ++
      0x84 :: packedText "httpMethod" ++ packedText "POST" ++ packedText "httpPath" ++
        packedText "/" ++ packedText "httpVersion" ++ packedText "1.1" ++ packedText "port" ++
        packedText "7438" ++
      packedText "streamId" ++ packedText "stream"

@[reducible] def initMsgpack : Msgpack := ProtocolHandler.listedMsgpack [(packedInit,
  ProducerSession.initMeta "stream" (.object [("jsonrpc-http", .object
    [("httpMethod", .string "POST"), ("httpPath", .string "/"), ("httpVersion", .string "1.1"),
      ("port", .string "7438")])]))]

/-- The initial meta information is received, and a signal is subscribed. -/
def firstSubscription : List ConsumerEvent :=
  [.read .success [0x00, 0x00, 0xf0, 0x27] (fun _ => []) false,
    .read .success ([2, 0, 0, 0] ++ packedInit) (fun _ => []) false, .call (.subscribe ["signal"])]

/-- After a synchronous start, the first subscription is not sent to the host of the stream. -/
theorem not_startsAlike_firstSubscription :
    let _ : JsonRuntime := Controller.firstRequestRuntime "stream"
    let _ : Msgpack := initMsgpack
    (firstSubscription.foldl step (startWithSyncInit {} true 0 .success false)).actions ≠
      (firstSubscription.foldl step
        ((start {} true 0 "192.168.10.1").step (.init .success false))).actions := by
  intro _ _ h
  let hosts (actions : List ConsumerAction) : List String :=
    (actions.filterMap ConsumerAction.control?).map ControlRequest.host
  have hsync : hosts (firstSubscription.foldl step
      (startWithSyncInit {} true 0 .success false)).actions = ["localhost"] := by decide +kernel
  have hasync : hosts (firstSubscription.foldl step
      ((start {} true 0 "192.168.10.1").step (.init .success false))).actions =
        ["192.168.10.1"] := by
    decide +kernel
  exact absurd (hsync.symm.trans ((congrArg hosts h).trans hasync)) (by decide)

end Consumer

end StreamingProtocol
