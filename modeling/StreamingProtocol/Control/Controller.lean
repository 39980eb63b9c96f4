import StreamingProtocol.Control.ControlServer
import StreamingProtocol.Producer.ProducerSession
import Mathlib.Data.List.TakeWhile

/-!
# The controller

A consumer subscribes and unsubscribes signals by HTTP requests to the control server of the
producer. The method of a request joins the id of the stream and the command by a dot. The server
takes the method apart at the first dot, so the command reaches the stream only if the id of the
stream has no dot.

The documents are written as text by one library and read by it again; what is assumed of it is
that the text of the one document of the request is read as that document.

## Main definitions

* `Controller`, `Controller.createRequest`, `Controller.asyncCommand`.
* `HttpPost.request`: the request that carries a text.

## Main results

* `Controller.asyncCommand_eq_posted`: the requests that are sent.
* `Controller.exists_asks_createRequest`: the command that the control server reads from a request.
* `Controller.calls_iff`: when it is the command that has been asked for.
-/

namespace StreamingProtocol

/-- The HTTP request with a text as its body. A connection is kept alive from version 1.1 on. -/
def HttpPost.request (protocolVersion : UInt32) (request : String) : HttpRequest where
  method := .post
  version := protocolVersion
  keepAlive := 11 ≤ protocolVersion
  body := request

/-- `Controller`, without the host it connects to. It can not be constructed without a stream id. -/
structure Controller where
  streamId : String
  port : String
  target : String
  httpVersion : UInt32
  streamId_ne : streamId ≠ ""
deriving DecidableEq, Repr

/-- What becomes of a command: there is nothing to do, an exception is thrown, or a request is sent
to the control server. -/
inductive CommandResult where
  | done
  | throwsRuntimeError
  | throwsTypeError
  | posted (req : HttpRequest)
deriving DecidableEq, Repr

namespace Controller

/-- The constructor of `Controller`, which throws if there is no stream id. -/
def create (streamId port target : String) (httpVersion : UInt32) : Option Controller :=
  if h : streamId = "" then none else some ⟨streamId, port, target, httpVersion, h⟩

/-- `Controller::createRequest`, with the id of the last request before it. -/
def createRequest (c : Controller) (s_id : UInt32) (signalIds : List String) (method : String) :
    Json :=
  let request := Json.null.set "jsonrpc" (.string "2.0")
  let request := request.set StreamingProtocol.method (.string (c.streamId ++ "." ++ method))
  let request := signalIds.foldl (fun request signalRef =>
    request.pushBackIn params (.string signalRef)) request
  request.set ControlServer.id (.numberUnsigned (s_id + 1).toUInt64)

variable [JsonRuntime]

/-- `Controller::execute`: the text of a request is sent, if the port and the target are known. -/
def execute (c : Controller) (request : Json) : CommandResult :=
  match JsonRuntime.dump request with
  | none => .throwsTypeError
  | some requestString =>
      if c.port = "" ∨ c.target = "" then .throwsRuntimeError
      else .posted (HttpPost.request c.httpVersion requestString)

/-- `Controller::asyncSubscribe` and `Controller::asyncUnsubscribe`. -/
def asyncCommand (method : String) (c : Controller) (s_id : UInt32) (signalIds : List String) :
    CommandResult :=
  if signalIds = [] then .done else c.execute (c.createRequest s_id signalIds method)

def asyncSubscribe : Controller → UInt32 → List String → CommandResult :=
  asyncCommand metaMethodSubscribe

def asyncUnsubscribe : Controller → UInt32 → List String → CommandResult :=
  asyncCommand metaMethodUnsubscribe

/-- A request is sent if there is something to ask for, the control server is known, and the
document can be written as text. -/
theorem asyncCommand_eq_posted {method : String} {c : Controller} {s_id : UInt32}
    {signalIds : List String} {req : HttpRequest} :
    asyncCommand method c s_id signalIds = .posted req ↔ signalIds ≠ [] ∧ c.port ≠ "" ∧
      c.target ≠ "" ∧ ∃ text, JsonRuntime.dump (c.createRequest s_id signalIds method) = some text ∧
        req = HttpPost.request c.httpVersion text := by
  by_cases hids : signalIds = []
  · simp [asyncCommand, hids]
  rw [asyncCommand, if_neg hids, execute]
  cases hdump : JsonRuntime.dump (c.createRequest s_id signalIds method) with
  | none => simp
  | some text =>
    by_cases hknown : c.port = "" ∨ c.target = ""
    · refine iff_of_false (fun h => ?_) fun ⟨_, hport, htarget, _⟩ => hknown.elim hport htarget
      simp [hknown] at h
    · obtain ⟨hport, htarget⟩ := not_or.mp hknown
      simp [hids, hport, htarget, eq_comm]

/-! ### The command that the server reads -/

omit [JsonRuntime] in
/-- The members of a request that the control server reads. -/
theorem members_createRequest (c : Controller) (s_id : UInt32) {signalIds : List String}
    (hids : signalIds ≠ []) (command : String) :
    let request := c.createRequest s_id signalIds command
    request.isObject ∧ request.member ControlServer.id ≠ .null ∧
      request.member method = .string (c.streamId ++ "." ++ command) ∧
      request.member params = .array (signalIds.map .string) := by
  let start := (Json.null.set "jsonrpc" (.string "2.0")).set method
    (.string (c.streamId ++ "." ++ command))
  have hmethod : start.member method = .string (c.streamId ++ "." ++ command) := by
    rw [Json.member, Json.find?_set_self, Option.getD_some]
  have hnull : start.member params = .null := by
    rw [Json.member_set _ _ _ (.inl (Json.isObject_set _ _ _)), if_neg (by decide),
      Json.member_set _ _ _ (.inr rfl), if_neg (by decide)]
    rfl
  obtain ⟨hobject, hother, hparams⟩ := Json.foldl_pushBackIn params Json.string signalIds
    (@List.nil Json) (.inl (Json.isObject_set _ _ _) : start.isObject ∨ start = .null)
    fun value => by rw [hnull]; rfl
  have hid := fun key => Json.member_set ControlServer.id key
    (.numberUnsigned (s_id + 1).toUInt64) hobject
  refine ⟨Json.isObject_set _ _ _, ?_, ?_, ?_⟩
  · rw [createRequest, hid, if_pos rfl]
    exact Json.noConfusion
  · rw [createRequest, hid, if_neg (by decide), ← hmethod]
    exact congrArg (fun x => x.getD Json.null) (hother method (by decide))
  · rw [createRequest, hid, if_neg (by decide), Json.member, hparams, if_neg hids, List.nil_append,
      Option.getD_some]

omit [JsonRuntime] in
/-- The method is taken apart where it has been joined, unless there is a dot before. -/
theorem splitMethod_join (streamId command : String) :
    ∃ parts, ControlServer.splitMethod (streamId ++ "." ++ command) = some parts ∧
      (parts = (streamId, command) ↔ ControlServer.delimiter ∉ streamId.toList) := by
  let text := streamId.toList ++ ControlServer.delimiter :: command.toList
  have htext : (streamId ++ "." ++ command).toList = text := by
    simp [text, ControlServer.delimiter]
  have hmem : ControlServer.delimiter ∈ text := List.mem_append_right _ List.mem_cons_self
  have hsplit : ControlServer.splitMethod (streamId ++ "." ++ command) =
      some (String.ofList (text.takeWhile (· ≠ ControlServer.delimiter)),
        String.ofList ((text.dropWhile (· ≠ ControlServer.delimiter)).drop 1)) := by
    rw [ControlServer.splitMethod, htext]
    exact if_pos hmem
  refine ⟨_, hsplit, fun h hdelimiter => ?_, fun hnone => ?_⟩
  · have hprefix := congrArg (fun parts => (Prod.fst parts).toList) h
    rw [String.toList_ofList] at hprefix
    have hall := List.mem_takeWhile_imp ( hprefix ▸ hdelimiter)
    simp at hall
  · have hkept : ∀ c ∈ streamId.toList, decide (c ≠ ControlServer.delimiter) = true :=
      fun c hc => decide_eq_true fun h => hnone (h ▸ hc)
    have hstop : decide (ControlServer.delimiter ≠ ControlServer.delimiter) = false := by decide
    rw [List.takeWhile_append_of_pos hkept, List.dropWhile_append_of_pos hkept]
    simp

omit [JsonRuntime] in
/-- The server reads a command from a request that is read as it has been written. It is the command
that has been asked for if and only if there is no dot in the id of the stream. -/
theorem exists_asks_createRequest [ControlRuntime] (c : Controller) (s_id : UInt32)
    {signalIds : List String} (hids : signalIds ≠ []) (command : String) {text : String}
    (hparse : ControlRuntime.parse text = some (c.createRequest s_id signalIds command)) :
    ∃ asked : Command, (HttpPost.request c.httpVersion text).Asks asked ∧
      (asked = ⟨c.streamId, command, signalIds⟩ ↔
        ControlServer.delimiter ∉ c.streamId.toList) := by
  obtain ⟨hobject, hid, hmethod, hparams⟩ := members_createRequest c s_id hids command
  obtain ⟨⟨streamId, commandRead⟩, hsplit, hiff⟩ := splitMethod_join c.streamId command
  refine ⟨⟨streamId, commandRead, signalIds⟩, ?_, ?_⟩
  · exact ⟨rfl, _, hparse, hobject, hid, ⟨_, hmethod, hsplit⟩, hparams⟩
  · rw [← hiff, Command.mk.injEq, Prod.mk.injEq, eq_self signalIds, and_true]

/-- A command reaches the stream whose id has been received in the initial meta information if and
only if there is no dot in the id. The document of the request is assumed to be read from its text
as it is. -/
theorem calls_iff [ControlRuntime] {streamId : String} (hstream : streamId ≠ "")
    (commandInterfaces : Json) (s : StreamMeta) (port target : String) (httpVersion s_id : UInt32)
    {signalIds : List String} (hids : signalIds ≠ []) (command : String) (commandCb : CommandCb) :
    let initMeta := ProducerSession.initMeta streamId commandInterfaces
    let received := (s.processMetaInformation ⟨metainformationMsgpack, initMeta⟩).state
    ∃ c, create received.streamId port target httpVersion = some c ∧
      ∀ text, JsonRuntime.dump (c.createRequest s_id signalIds command) = some text →
        ControlRuntime.parse text = some (c.createRequest s_id signalIds command) →
        ((ControlServer.handleRequest (HttpPost.request httpVersion text) commandCb).calls =
          [⟨streamId, command, signalIds⟩] ↔ ControlServer.delimiter ∉ streamId.toList) := by
  intro initMeta received
  have hreceived : received.streamId = streamId := ProducerSession.streamId_of_initMeta rfl s
  refine ⟨⟨streamId, port, target, httpVersion, hstream⟩, ?_, fun text _ hparse => ?_⟩
  · rw [hreceived, create, dif_neg hstream]
  · obtain ⟨asked, hasks, hiff⟩ := exists_asks_createRequest
      ⟨streamId, port, target, httpVersion, hstream⟩ s_id hids command hparse
    rw [ControlServer.handleRequest_of_asks hasks, ← hiff]
    show [asked] = _ ↔ _
    rw [List.singleton_inj]

/-! ### A request for one signal -/

/-- The document of the first request, which subscribes one signal. -/
def firstRequest (streamId : String) : Json :=
  .object [(ControlServer.id, .numberUnsigned 1), ("jsonrpc", .string "2.0"),
    (method, .string (streamId ++ "." ++ metaMethodSubscribe)), (params, .array [.string "signal"])]

/-- The text of the first request. -/
def firstRequestText (streamId : String) : String :=
  "\x7b\"id\":1,\"jsonrpc\":\"2.0\",\"method\":\"" ++ streamId ++
    ".subscribe\",\"params\":[\"signal\"]\x7d"

/-- A runtime that writes the first request, and other documents as `decimalRuntime`. -/
@[reducible] def firstRequestRuntime (streamId : String) : JsonRuntime where
  dump
    | .object [("id", .numberUnsigned 1), ("jsonrpc", .string "2.0"), ("method", .string _),
        ("params", .array [.string "signal"])] => some (firstRequestText streamId)
    | j => decimalRuntime.dump j
  dump_numberUnsigned _ := rfl
  dump_numberInteger _ := rfl
  dump_numberFloat _ := rfl
  doubleToUInt64 _ := 0
  doubleToUInt32 _ := 0
  doubleToInt32 _ := 0
  doubleOfUInt64 _ := ⟨0⟩
  doubleOfInt64 _ := ⟨0⟩
  doubleOfSingle _ := ⟨0⟩

/-- A parser that reads the first request. -/
@[reducible] def firstRequestParser (streamId : String) : ControlRuntime where
  parse text := if text = firstRequestText streamId then some (firstRequest streamId) else none
  beastVersionString := ""

omit [JsonRuntime] in
theorem createRequest_first (streamId port target : String) (httpVersion : UInt32)
    (h : streamId ≠ "") :
    createRequest ⟨streamId, port, target, httpVersion, h⟩ 0 ["signal"] metaMethodSubscribe =
      firstRequest streamId := by
  have hlt : "id" < "jsonrpc" ∧ ¬"jsonrpc" < "id" ∧ ¬"method" < "jsonrpc" ∧ "jsonrpc" < "method" ∧
      ¬"params" < "jsonrpc" ∧ ¬"params" < "method" := by decide
  simp [createRequest, firstRequest, Json.set, Members.set, Json.member, Json.find?, Json.pushBack,
    Json.pushBackIn,
    method, params, ControlServer.id, hlt]

omit [JsonRuntime] in
/-- The id of a stream without a dot. -/
theorem calls_iff_stream :
    let _ : JsonRuntime := firstRequestRuntime "stream"
    let _ : ControlRuntime := firstRequestParser "stream"
    (ControlServer.handleRequest (HttpPost.request 11 (firstRequestText "stream"))
      fun _ => (0, "")).calls = [⟨"stream", metaMethodSubscribe, ["signal"]⟩] ↔
        ControlServer.delimiter ∉ "stream".toList := by
  intro _ _
  obtain ⟨c, hc, h⟩ := calls_iff (by decide : "stream" ≠ "") .null {} "7438" "/" 11 0
    (by decide : ["signal"] ≠ []) metaMethodSubscribe fun _ => (0, "")
  have hfirst : c.createRequest 0 ["signal"] metaMethodSubscribe = firstRequest "stream" := by
    have hreceived := @ProducerSession.streamId_of_initMeta _
      ⟨metainformationMsgpack, ProducerSession.initMeta "stream" .null⟩ "stream" .null rfl {}
    rw [hreceived, create, dif_neg (by decide)] at hc
    rw [← Option.some.inj hc, createRequest_first]
  rw [hfirst] at h
  exact h (firstRequestText "stream") rfl (if_pos rfl)

omit [JsonRuntime] in
/-- A request to a stream whose id is an end point is read as one to another stream. -/
theorem calls_ne_endPoint :
    let streamId := "127.0.0.1:7411"
    let _ : JsonRuntime := firstRequestRuntime streamId
    let _ : ControlRuntime := firstRequestParser streamId
    let request := createRequest ⟨streamId, "7438", "/", 11, by decide⟩ 0 ["signal"]
      metaMethodSubscribe
    JsonRuntime.dump request = some (firstRequestText streamId) ∧
      ControlRuntime.parse (firstRequestText streamId) = some request ∧
      (ControlServer.handleRequest (HttpPost.request 11 (firstRequestText streamId))
        fun _ => (0, "")).calls ≠ [⟨streamId, metaMethodSubscribe, ["signal"]⟩] := by
  intro streamId _ _ request
  have hrequest : request = firstRequest streamId := createRequest_first ..
  refine ⟨by rw [hrequest]; rfl, by rw [hrequest]; exact if_pos rfl, ?_⟩
  have hcalls : (ControlServer.handleRequest (HttpPost.request 11 (firstRequestText streamId))
      fun _ => (0, "")).calls = [⟨"127", "0.0.1:7411.subscribe", ["signal"]⟩] := by
    decide +kernel
  rw [hcalls]
  decide

end Controller

end StreamingProtocol
