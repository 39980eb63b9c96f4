import StreamingProtocol.Foundation.Json
import StreamingProtocol.Presentation.Defines
import Mathlib.Data.List.Basic

/-!
# The control server

Signals are subscribed and unsubscribed by HTTP requests. The body of a request is a JSON document
with an id, a method that joins the id of a stream and a command by a dot, and a list of signal ids.
`handle_request` answers a request by one response, and hands a well formed one to the callback of
the producer. Every value is read as the source reads it: the members of a value that is no object,
the text of a value that is no string and a body that is no document throw, and nothing catches the
exception.

Strings are strings of octets. The parser of the JSON library and the version text of the HTTP
library are parameters.

## Main definitions

* `HttpRequest`, `HttpResponse`, `Command`, `Handling`.
* `ControlServer.handleRequest`, `ControlServer.onRead`.
* `HttpRequest.WellFormed`: the requests that ask for a command.
* `HttpRequest.Guarded`: the requests in which no value of the wrong shape is used.

## Main results

* `ControlServer.handleRequest_of_wellFormed`, `ControlServer.exists_badRequest`,
  `ControlServer.exists_thrown`: what is done with a request.
* `ControlServer.answeredOnce_iff`, `ControlServer.forall_answeredOnce_iff`.
-/

namespace StreamingProtocol

/-- The parser of the JSON library, which throws if a text is no document, and the text by which the
HTTP library names itself. -/
class ControlRuntime where
  parse : String → Option Json
  beastVersionString : String

/-! ### Requests and responses -/

/-- The method of an HTTP request. -/
inductive Verb where
  | post
  | other (name : String)
deriving DecidableEq, Repr

/-- The parts of an HTTP request that are used. -/
structure HttpRequest where
  method : Verb
  version : UInt32
  keepAlive : Bool
  body : String
deriving DecidableEq, Repr

inductive HttpStatus where
  | ok
  | badRequest
deriving DecidableEq, Repr

structure HttpResponse where
  status : HttpStatus
  version : UInt32
  server : String
  contentType : String
  keepAlive : Bool
  body : String
deriving DecidableEq, Repr

/-- The arguments of the callback of the producer. -/
structure Command where
  streamId : String
  command : String
  signalIds : List String
deriving DecidableEq, Repr

/-- The callback of the producer: a negative result is a failure, which the text describes. -/
abbrev CommandCb : Type := Command → Int × String

/-- The exceptions that leave `handle_request`. -/
inductive RequestError where
  | parseError
  | abrupt (why : Abrupt)
deriving DecidableEq, Repr

/-- What is done with a request: the calls of the callback, the responses sent, and the exception
that ended it. -/
structure Handling where
  calls : List Command := []
  sent : List HttpResponse := []
  thrown : Option RequestError := none
deriving DecidableEq, Repr

namespace Handling

/-- A response is sent and the function returns. -/
def send (response : HttpResponse) : Handling where
  sent := [response]

/-- An exception ends the function. -/
def throw (e : RequestError) : Handling where
  thrown := some e

/-- The value of an expression, passed on. -/
def eval {α : Type} (x : Except Abrupt α) (next : α → Handling) : Handling :=
  match x with
  | .ok a => next a
  | .error why => throw (.abrupt why)

@[simp] theorem eval_ok {α : Type} (a : α) (next : α → Handling) : eval (.ok a) next = next a := rfl

@[simp] theorem eval_error {α : Type} (why : Abrupt) (next : α → Handling) :
    eval (.error why) next = throw (.abrupt why) := rfl

end Handling

namespace ControlServer

/-- `jsonrpc::ID`. -/
def id : String := "id"

def delimiter : Char := '.'

/-- The method up to the first delimiter and what follows it. -/
def splitMethod (methodString : String) : Option (String × String) :=
  let text := methodString.toList
  if delimiter ∈ text then
    some (String.ofList (text.takeWhile (· ≠ delimiter)),
      String.ofList ((text.dropWhile (· ≠ delimiter)).drop 1))
  else none

variable [ControlRuntime]

def badRequest (req : HttpRequest) (why : String) : HttpResponse where
  status := .badRequest
  version := req.version
  server := ControlRuntime.beastVersionString
  contentType := "text/html"
  keepAlive := req.keepAlive
  body := why

def succeeded (req : HttpRequest) : HttpResponse where
  status := .ok
  version := req.version
  server := ControlRuntime.beastVersionString
  contentType := "application/json"
  keepAlive := req.keepAlive
  body := "Succeeded"

/-- The call of the callback and the response to its result. -/
def execute (req : HttpRequest) (commandCb : CommandCb) (command : Command) : Handling where
  calls := [command]
  sent :=
    let (result, s_response) := commandCb command
    if result < 0 then [badRequest req ("json rpc execution failed: " ++ s_response)]
    else [succeeded req]

/-- `handle_request`. -/
def handleRequest (req : HttpRequest) (commandCb : CommandCb) : Handling :=
  if req.method ≠ .post then .send (badRequest req "Unknown HTTP-method")
  else
    match ControlRuntime.parse req.body with
    | none => .throw .parseError
    | some request =>
      .eval (request.index id) fun (request, id) =>
      if id.isNull then .send (badRequest req "json rpc request without id")
      else .eval (request.index method) fun (request, method) =>
      if method.isNull then .send (badRequest req "json rpc request without method")
      else .eval method.getString fun methodString =>
      match splitMethod methodString with
      | none => .send (badRequest req ("json rpc request with invalid method '" ++ methodString ++
          "'. Expecting <stream id>.<command>"))
      | some (streamId, command) =>
        .eval (request.index params) fun (_, params) =>
        if params.isNull then .send (badRequest req "json rpc request without parameters")
        else if ¬params.isArray then
          .send (badRequest req "Expecting an array of signal ids as parameters")
        else .eval (params.elements.mapM Json.getString) fun signalIds =>
          execute req commandCb ⟨streamId, command, signalIds⟩

end ControlServer

/-! ### Well formed requests -/

namespace HttpRequest

open ControlServer

variable [ControlRuntime]

/-- A request asks for a command: the body is an object with an id, a method that joins the stream
id and the command, and the signal ids. -/
def Asks (req : HttpRequest) (command : Command) : Prop :=
  req.method = .post ∧ ∃ document, ControlRuntime.parse req.body = some document ∧
    document.isObject ∧ document.member id ≠ .null ∧
    (∃ methodString, document.member StreamingProtocol.method = .string methodString ∧
      splitMethod methodString = some (command.streamId, command.command)) ∧
    document.member params = .array (command.signalIds.map .string)

/-- The body is an object with an id that is not `null`, a method that is a string with a delimiter,
and parameters that are an array of strings. -/
def WellFormed (req : HttpRequest) : Prop :=
  req.method = .post ∧ ∃ document, ControlRuntime.parse req.body = some document ∧
    document.isObject ∧ document.member id ≠ .null ∧
    (∃ methodString, document.member StreamingProtocol.method = .string methodString ∧
      delimiter ∈ methodString.toList) ∧
    ∃ signalIds : List String, document.member params = .array (signalIds.map .string)

/-- No value of the wrong shape is used: the body is an object or `null`; a method that is read is a
string; and parameters that are read are no array, or an array of strings. -/
def Guarded (req : HttpRequest) : Prop :=
  req.method = .post → ∃ document, ControlRuntime.parse req.body = some document ∧
    (document.isObject ∨ document = .null) ∧
    (document.member id = .null ∨ document.member StreamingProtocol.method = .null ∨
      ∃ methodString, document.member StreamingProtocol.method = .string methodString ∧
        (delimiter ∈ methodString.toList → (document.member params).isArray →
          ∃ signalIds : List String, document.member params = .array (signalIds.map .string)))

theorem WellFormed.guarded {req : HttpRequest} (h : req.WellFormed) : req.Guarded := by
  obtain ⟨-, document, hparse, hobject, -, ⟨methodString, hmethod, -⟩, hids⟩ := h
  intro _
  exact ⟨document, hparse, .inl hobject, .inr (.inr ⟨methodString, hmethod, fun _ _ => hids⟩)⟩

end HttpRequest

namespace ControlServer

open HttpRequest

theorem isSome_splitMethod {methodString : String} :
    (splitMethod methodString).isSome ↔ delimiter ∈ methodString.toList := by
  by_cases h : delimiter ∈ methodString.toList <;> simp [splitMethod, h]

theorem mapM_getString {elements : List Json} {signalIds : List String} :
    elements.mapM Json.getString = .ok signalIds ↔ elements = signalIds.map Json.string := by
  induction elements generalizing signalIds with
  | nil =>
    show Except.ok [] = Except.ok signalIds ↔ [] = signalIds.map Json.string
    rw [Except.ok.injEq, eq_comm, List.nil_eq, List.map_eq_nil_iff]
  | cons element elements ih =>
    rw [List.mapM_cons, Json.bind_eq_ok]
    constructor
    · rintro ⟨signalId, hsignalId, h⟩
      obtain ⟨rest, hrest, h⟩ := Json.bind_eq_ok.mp h
      cases h
      rw [ih.mp hrest, List.map_cons, Json.eq_string_of_getString hsignalId]
    · intro h
      obtain ⟨signalId, rest, rfl, rfl, hrest⟩ := List.map_eq_cons_iff.mp h.symm
      exact ⟨signalId, rfl, Json.bind_eq_ok.mpr ⟨rest, ih.mpr hrest.symm, rfl⟩⟩

/-- The members that are read, one after the other. -/
theorem exists_reads {document : Json} (h : document.isObject ∨ document = .null) :
    ∃ j₁ j₂ j₃ : Json, document.index id = .ok (j₁, document.member id) ∧
      j₁.index method = .ok (j₂, document.member method) ∧
      j₂.index params = .ok (j₃, document.member params) := by
  obtain ⟨⟨j₁, v₁⟩, h₁⟩ := Json.exists_index.mpr h
  obtain ⟨⟨j₂, v₂⟩, h₂⟩ := Json.exists_index.mpr (.inl (Json.isObject_of_index h₁))
  obtain ⟨⟨j₃, v₃⟩, h₃⟩ := Json.exists_index.mpr (.inl (Json.isObject_of_index h₂))
  have hv₁ := Json.member_of_index h₁
  have hv₂ := Json.member_of_index h₂
  have hv₃ := Json.member_of_index h₃
  refine ⟨j₁, j₂, j₃, ?_, ?_, ?_⟩
  · rw [h₁, hv₁.1]
  · rw [h₂, hv₂.1, hv₁.2]
  · rw [h₃, hv₃.1, hv₂.2, hv₁.2]

variable [ControlRuntime] {req : HttpRequest}

theorem exists_asks : (∃ command, req.Asks command) ↔ req.WellFormed := by
  constructor
  · rintro ⟨command, hpost, document, hparse, hobject, hid, ⟨methodString, hmethod, hsplit⟩, hids⟩
    have hdelimiter : delimiter ∈ methodString.toList :=
      isSome_splitMethod.mp (Option.isSome_of_eq_some hsplit)
    exact ⟨hpost, document, hparse, hobject, hid, ⟨methodString, hmethod, hdelimiter⟩, _, hids⟩
  · rintro ⟨hpost, document, hparse, hobject, hid, ⟨methodString, hmethod, hdelimiter⟩,
      signalIds, hids⟩
    obtain ⟨⟨streamId, command⟩, hsplit⟩ :=
      Option.isSome_iff_exists.mp (isSome_splitMethod.mpr hdelimiter)
    exact ⟨⟨streamId, command, signalIds⟩, hpost, document, hparse, hobject, hid,
      ⟨methodString, hmethod, hsplit⟩, hids⟩

/-- A request that asks for a command is handed to the callback. -/
theorem handleRequest_of_asks {command : Command} (h : req.Asks command) (commandCb : CommandCb) :
    handleRequest req commandCb = execute req commandCb command := by
  obtain ⟨hpost, document, hparse, hobject, hid, ⟨methodString, hmethod, hsplit⟩, hids⟩ := h
  obtain ⟨j₁, j₂, j₃, h₁, h₂, h₃⟩ := exists_reads (.inl hobject)
  have hread : (command.signalIds.map Json.string).mapM Json.getString = .ok command.signalIds :=
    mapM_getString.mpr rfl
  simp only [handleRequest, hpost, hparse, h₁, h₂, h₃, hmethod, hids, hsplit, hread, hid,
    Handling.eval_ok, Json.isNull_iff, Json.getString, Json.isArray, Json.elements, ne_eq,
    not_true_eq_false, if_false, reduceCtorEq]

/-- A request without values of the wrong shape that asks for nothing is answered by a bad
request. -/
theorem exists_badRequest (hguarded : req.Guarded) (hill : ¬req.WellFormed)
    (commandCb : CommandCb) : ∃ why, handleRequest req commandCb = .send (badRequest req why) := by
  by_cases hpost : req.method = .post
  · obtain ⟨document, hparse, hdocument, hshape⟩ := hguarded hpost
    obtain ⟨j₁, j₂, j₃, h₁, h₂, h₃⟩ := exists_reads hdocument
    simp only [handleRequest, hpost, hparse, h₁, Handling.eval_ok, ne_eq, not_true_eq_false,
      if_false]
    by_cases hid : (document.member id).isNull
    · exact ⟨_, if_pos hid⟩
    rw [if_neg hid, h₂, Handling.eval_ok]
    rw [Json.isNull_iff] at hid
    by_cases hmethod : (document.member method).isNull
    · exact ⟨_, if_pos hmethod⟩
    rw [if_neg hmethod]
    rw [Json.isNull_iff] at hmethod
    obtain ⟨methodString, hstring, hids⟩ := (hshape.resolve_left hid).resolve_left hmethod
    rw [hstring, Json.getString, Handling.eval_ok]
    cases hsplit : splitMethod methodString with
    | none => exact ⟨_, rfl⟩
    | some parts =>
      simp only [h₃, Handling.eval_ok]
      by_cases hparams : (document.member params).isNull
      · exact ⟨_, if_pos hparams⟩
      rw [if_neg hparams]
      by_cases harray : (document.member params).isArray
      · have hdelimiter := isSome_splitMethod.mp (Option.isSome_of_eq_some hsplit)
        have hobject : document.isObject := by
          refine hdocument.resolve_right fun hnull => hid ?_
          rw [hnull]
          rfl
        exact absurd ⟨hpost, document, hparse, hobject, hid, ⟨methodString, hstring, hdelimiter⟩,
          hids hdelimiter harray⟩ hill
      · exact ⟨_, if_pos harray⟩
  · exact ⟨_, if_pos hpost⟩

/-- A value of the wrong shape ends the function by an exception. -/
theorem exists_thrown (h : ¬req.Guarded) (commandCb : CommandCb) :
    ∃ e, handleRequest req commandCb = .throw e := by
  obtain ⟨hpost, hshape⟩ := Classical.not_imp.mp h
  rw [not_exists] at hshape
  rw [handleRequest, if_neg (not_not.mpr hpost)]
  cases hparse : ControlRuntime.parse req.body with
  | none => exact ⟨_, rfl⟩
  | some document =>
    have hwrong (hdocument hmembers) := hshape document ⟨hparse, hdocument, hmembers⟩
    by_cases hdocument : document.isObject ∨ document = .null
    · obtain ⟨j₁, j₂, j₃, h₁, h₂, h₃⟩ := exists_reads hdocument
      obtain ⟨hid, hmembers⟩ := not_or.mp (hwrong hdocument)
      obtain ⟨hmethod, hmembers⟩ := not_or.mp hmembers
      rw [← Json.isNull_iff] at hid hmethod
      simp only [h₁, h₂, Handling.eval_ok, if_neg hid, if_neg hmethod]
      cases hstring : (document.member method).getString with
      | error why => exact ⟨_, rfl⟩
      | ok methodString =>
        have hids (hdelimiter : delimiter ∈ methodString.toList → _) := hmembers
          ⟨methodString, Json.eq_string_of_getString hstring, hdelimiter⟩
        obtain ⟨hdelimiter, hids⟩ := Classical.not_imp.mp hids
        obtain ⟨harray, hids⟩ := Classical.not_imp.mp hids
        obtain ⟨parts, hsplit⟩ := Option.isSome_iff_exists.mp (isSome_splitMethod.mpr hdelimiter)
        obtain ⟨elements, hparams⟩ := Json.isArray_iff.mp harray
        cases hread : elements.mapM Json.getString with
        | ok signalIds =>
          exact absurd ⟨signalIds, by rw [hparams, mapM_getString.mp hread]⟩ hids
        | error why =>
          refine ⟨.abrupt why, ?_⟩
          simp only [Handling.eval_ok, hsplit, h₃, hparams, hread, Json.isNull, Json.isArray,
            Json.elements, Handling.eval_error, not_true_eq_false, if_false, Bool.false_eq_true]
    · cases hindex : document.index id with
      | ok r => exact absurd (Json.exists_index.mp ⟨r, hindex⟩) hdocument
      | error why =>
        refine ⟨.abrupt why, ?_⟩
        simp only [hindex, Handling.eval_error]

/-! ### One answer to every request -/

/-- A request is answered once: one response is sent and nothing is thrown, the callback is called
once if the request is well formed, and otherwise it is not called and the response is a bad
request. -/
structure AnsweredOnce (req : HttpRequest) (h : Handling) : Prop where
  thrown : h.thrown = none
  sent : ∃ response, h.sent = [response]
  called : req.WellFormed → ∃ command, req.Asks command ∧ h.calls = [command]
  refused : ¬req.WellFormed → h.calls = [] ∧ ∀ response ∈ h.sent, response.status = .badRequest

/-- A request is answered once if and only if no value of the wrong shape is used. -/
theorem answeredOnce_iff (req : HttpRequest) (commandCb : CommandCb) :
    AnsweredOnce req (handleRequest req commandCb) ↔ req.Guarded := by
  constructor
  · intro h
    by_contra hguarded
    obtain ⟨e, he⟩ := exists_thrown hguarded commandCb
    have hthrown := h.thrown
    rw [he] at hthrown
    cases hthrown
  · intro hguarded
    by_cases hwell : req.WellFormed
    · obtain ⟨command, hasks⟩ := exists_asks.mpr hwell
      rw [handleRequest_of_asks hasks]
      have hsent : ∃ response, (execute req commandCb command).sent = [response] := by
        show ∃ response, ite _ _ _ = [response]
        split_ifs
        · exact ⟨_, rfl⟩
        · exact ⟨_, rfl⟩
      exact ⟨rfl, hsent, fun _ => ⟨command, hasks, rfl⟩, fun h => absurd hwell h⟩
    · obtain ⟨why, hwhy⟩ := exists_badRequest hguarded hwell commandCb
      rw [hwhy]
      refine ⟨rfl, ⟨_, rfl⟩, fun h => absurd h hwell, fun _ => ⟨rfl, fun response hresponse => ?_⟩⟩
      rw [List.mem_singleton.mp hresponse]
      rfl

/-- A parser for which no text is a document, as no empty text is. -/
@[reducible] def noDocument : ControlRuntime where
  parse _ := none
  beastVersionString := ""

omit [ControlRuntime] in
/-- A request with an empty body is not answered: the exception of the parser leaves the
function. -/
theorem not_answeredOnce_emptyBody :
    let _ : ControlRuntime := noDocument
    ¬AnsweredOnce ⟨.post, 11, true, ""⟩
      (handleRequest ⟨.post, 11, true, ""⟩ fun _ => (0, "")) := by
  intro _ h
  have hthrown := h.thrown
  cases hthrown

/-! ### Serving requests -/

/-- What reading from a connection gives. -/
inductive ReadResult where
  | endOfStream
  | error
  | request (req : HttpRequest)

/-- `session::on_read`. Where there is no request nothing is sent: the connection is closed, or the
error is logged. -/
def onRead (commandCb : CommandCb) : ReadResult → Handling
  | .endOfStream | .error => {}
  | .request req => handleRequest req commandCb

/-- What the io context runs, one read after the other. An exception leaves it, and what is read
after that is not handled. -/
def serve (commandCb : CommandCb) : List ReadResult → List Handling
  | [] => []
  | r :: rs =>
      if (onRead commandCb r).thrown = none then onRead commandCb r :: serve commandCb rs
      else [onRead commandCb r]

theorem thrown_of_answered {commandCb : CommandCb} {r : ReadResult}
    (h : ∀ req, r = .request req → AnsweredOnce req (onRead commandCb r)) :
    (onRead commandCb r).thrown = none := by
  cases r with
  | endOfStream => rfl
  | error => rfl
  | request req => exact (h req rfl).thrown

/-- All requests are answered once if and only if none of them uses a value of the wrong shape. -/
theorem forall_answeredOnce_iff (commandCb : CommandCb) (results : List ReadResult) :
    List.Forall₂ (fun r h => ∀ req, r = .request req → AnsweredOnce req h) results
      (serve commandCb results) ↔ ∀ req, .request req ∈ results → req.Guarded := by
  induction results with
  | nil => simp [serve]
  | cons r rs ih =>
    have hfirst : (∀ req, r = .request req → AnsweredOnce req (onRead commandCb r)) ↔
        ∀ req, r = .request req → req.Guarded := by
      refine forall_congr' fun req => forall_congr' fun hr => ?_
      subst hr
      exact answeredOnce_iff req commandCb
    have hcons : (∀ req, .request req ∈ r :: rs → req.Guarded) ↔
        (∀ req, r = .request req → req.Guarded) ∧ ∀ req, .request req ∈ rs → req.Guarded := by
      simp only [List.mem_cons, eq_comm, or_imp, forall_and]
    rw [hcons, ← ih, ← hfirst, serve]
    split_ifs with hthrown
    · rw [List.forall₂_cons]
    · refine iff_of_false (fun h => ?_) fun h => ?_
      · obtain ⟨hanswered, -⟩ := List.forall₂_cons.mp h
        exact hthrown (thrown_of_answered hanswered)
      · exact hthrown (thrown_of_answered h.1)

end ControlServer

end StreamingProtocol
