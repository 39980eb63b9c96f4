import Mathlib.Logic.Function.Basic
import StreamingProtocol.Control.Controller
import StreamingProtocol.Session.CloseSession

/-!
# Remote commands

A command is carried out over a connection of its own. The consumer looks up the host, connects,
writes the request and reads the response, and each of these operations may fail. The control server
accepts the connection, reads a request, handles it and writes the response, and then reads again or
closes the connection. Any number of commands are under way at the same time, the operations of all
of them end in any order, and other programs connect to the control server as well and send what
they like. What the callback of the producer answers may be different each time.

The result callback is called exactly once, when the chain of operations has ended. It gets an error
code of the connection, never the status of the response. So a success says that the server has
handled the request, and not that the callback of the producer has accepted it; after a failure the
callback of the producer may have been called or not. It is never called twice.

An exception that leaves the handling of a request leaves the io context as well, and nothing is
served after that. No command of a consumer leads to one, but what others send may.

## Main definitions

* `Post`: `HttpPost`. `ControlSession`: a connection of the control server.
* `ControlNetwork`, `ControlEvent`, `ControlNetwork.step`, `ControlNetwork.Possible`.
* `ControlNetwork.Linked`: the invariant.

## Main results

* `ControlNetwork.carriedOut_of_reached`.
* `ControlNetwork.thrown_iff_of_reached`.
-/

namespace StreamingProtocol

/-! ### The consumer -/

/-- The asynchronous operations of `HttpPost`, in the order in which they are started. -/
inductive PostOperation where
  | resolve
  | connect
  | write
  | read
deriving DecidableEq, Repr

/-- `HttpPost` after `run`: the request, the operation that is under way, those that have been
started, and the error codes given to the result callback. -/
structure Post where
  request : HttpRequest
  operation : Option PostOperation := some .resolve
  started : List PostOperation := [.resolve]
  results : List ErrorCode := []
deriving DecidableEq, Repr

namespace Post

/-- An operation is started. -/
def start (o : PostOperation) (p : Post) : Post :=
  { p with operation := some o, started := p.started ++ [o] }

/-- The result callback is called, and no operation is started after that. -/
def report (ec : ErrorCode) (p : Post) : Post :=
  { p with operation := none, results := p.results ++ [ec] }

/-- An operation has ended: an error is reported, otherwise the next operation is started. -/
def proceed (next : PostOperation) (ec : ErrorCode) (p : Post) : Post :=
  if ec ≠ .success then p.report ec else p.start next

/-- `HttpPost::on_resolve`. -/
def onResolve : ErrorCode → Post → Post := proceed .connect

/-- `HttpPost::on_connect`. -/
def onConnect : ErrorCode → Post → Post := proceed .write

/-- `HttpPost::on_write`. -/
def onWrite : ErrorCode → Post → Post := proceed .read

/-- `HttpPost::on_read`. The status of the response is only logged. -/
def onRead (ec : ErrorCode) (p : Post) : Post := p.report ec

/-- The operation that is under way has ended. -/
def complete (ec : ErrorCode) (p : Post) : Post :=
  match p.operation with
  | some .resolve => p.onResolve ec
  | some .connect => p.onConnect ec
  | some .write => p.onWrite ec
  | some .read => p.onRead ec
  | none => p

/-- The result callback is called once, when no operation is under way any more. -/
def Reports (p : Post) : Prop :=
  (p.operation.isSome ∧ p.results = []) ∨ p.operation = none ∧ ∃ ec, p.results = [ec]

/-- What the end of an operation does: it starts another one, or it is reported. Only the end of
reading the response is reported as a success. -/
theorem complete_cases {p : Post} {o : PostOperation} (ho : p.operation = some o)
    (ec : ErrorCode) :
    (∃ next, p.complete ec = p.start next) ∨
      p.complete ec = p.report ec ∧ (ec = .success → o = .read) := by
  have hproceed (next : PostOperation) : (∃ o', proceed next ec p = p.start o') ∨
      proceed next ec p = p.report ec ∧ (ec = .success → o = .read) := by
    by_cases hec : ec = .success
    · exact .inl ⟨next, if_neg (not_not.mpr hec)⟩
    · exact .inr ⟨if_pos hec, fun h => absurd h hec⟩
  rw [complete, ho]
  cases o with
  | resolve => exact hproceed .connect
  | connect => exact hproceed .write
  | write => exact hproceed .read
  | read => exact .inr ⟨rfl, fun _ => rfl⟩

/-- The end of an operation leaves the request and starts operations at most. -/
theorem request_complete {p : Post} {o : PostOperation} (ho : p.operation = some o)
    (ec : ErrorCode) : (p.complete ec).request = p.request := by
  rcases complete_cases ho ec with ⟨next, hnext⟩ | ⟨hreport, -⟩
  · rw [hnext]
    rfl
  · rw [hreport]
    rfl

theorem Reports.complete {p : Post} (h : p.Reports) {o : PostOperation}
    (ho : p.operation = some o) (ec : ErrorCode) : (p.complete ec).Reports := by
  have hresults : p.results = [] := by
    rcases h with ⟨-, hresults⟩ | ⟨hnone, -⟩
    · exact hresults
    · cases hnone.symm.trans ho
  rcases complete_cases ho ec with ⟨next, hnext⟩ | ⟨hreport, -⟩
  · rw [hnext]
    exact .inl ⟨rfl, hresults⟩
  · rw [hreport]
    exact .inr ⟨rfl, ec, by rw [report, hresults, List.nil_append]⟩

end Post

/-! ### The control server -/

/-- The HTTP library: a response after which the connection has to be closed. -/
class HttpRuntime where
  needEof : HttpResponse → Bool

/-- The asynchronous operations of a connection of the control server. -/
inductive SessionOperation where
  | read
  | write (close : Bool)
deriving DecidableEq, Repr

/-- `session` of the control server after `run`: the operation that is under way, and a record of
the requests that have been read and of the responses to them. -/
structure ControlSession where
  operation : Option SessionOperation := some .read
  received : List HttpRequest := []
  responses : List HttpResponse := []
  shutdown : Bool := false
deriving DecidableEq, Repr

/-- The request that has been read, if there is one. -/
def ControlServer.ReadResult.request? : ControlServer.ReadResult → Option HttpRequest
  | .request req => some req
  | _ => none

namespace ControlSession

/-- `session::do_read`. -/
def doRead (s : ControlSession) : ControlSession := { s with operation := some .read }

/-- `session::do_close`. -/
def doClose (s : ControlSession) : ControlSession := { s with operation := none, shutdown := true }

/-- `session::on_write`. -/
def onWrite (close : Bool) (ec : ErrorCode) (s : ControlSession) : ControlSession :=
  if ec ≠ .success then { s with operation := none }
  else if close then s.doClose
  else s.doRead

/-- The operation of writing a response has ended. -/
def written (ec : ErrorCode) (s : ControlSession) : ControlSession :=
  match s.operation with
  | some (.write close) => s.onWrite close ec
  | _ => s

/-- Writing a response reads nothing and answers nothing. -/
theorem record_written (ec : ErrorCode) (s : ControlSession) :
    (s.written ec).received = s.received ∧ (s.written ec).responses = s.responses := by
  unfold written
  split
  · unfold onWrite
    split_ifs
    · exact ⟨rfl, rfl⟩
    · exact ⟨rfl, rfl⟩
    · exact ⟨rfl, rfl⟩
  · exact ⟨rfl, rfl⟩

variable [ControlRuntime] [HttpRuntime]

/-- `session::on_read`. A request is handled, and what it is answered is written. -/
def onRead (commandCb : CommandCb) (r : ControlServer.ReadResult) (s : ControlSession) :
    ControlSession :=
  match r with
  | .endOfStream => s.doClose
  | .error => { s with operation := none }
  | .request req =>
      let handling := ControlServer.handleRequest req commandCb
      { s with
        operation := handling.sent.head?.map fun res => .write (HttpRuntime.needEof res)
        received := s.received ++ [req]
        responses := s.responses ++ handling.sent }

end ControlSession

/-! ### What a request asks for -/

namespace HttpRequest

variable [ControlRuntime]

/-- The commands with which the callback of the producer is called when a request is handled. -/
def commands (req : HttpRequest) : List Command :=
  (ControlServer.handleRequest req fun _ => (0, "")).calls

/-- The callback is called before it answers, so the calls do not depend on what it answers. A
request is answered, or it is one in which a value of the wrong shape is used, and then nothing is
called. -/
theorem handled (req : HttpRequest) (commandCb : CommandCb) :
    (ControlServer.handleRequest req commandCb).calls = req.commands ∧
      ((ControlServer.handleRequest req commandCb).thrown = none ↔ req.Guarded) ∧
      ((ControlServer.handleRequest req commandCb).sent ≠ [] → req.Guarded) := by
  by_cases hguarded : req.Guarded
  · by_cases hwell : req.WellFormed
    · obtain ⟨command, hasks⟩ := ControlServer.exists_asks.mpr hwell
      rw [commands, ControlServer.handleRequest_of_asks hasks,
        ControlServer.handleRequest_of_asks hasks]
      exact ⟨rfl, iff_of_true rfl hguarded, fun _ => hguarded⟩
    · obtain ⟨why, hwhy⟩ := ControlServer.exists_badRequest hguarded hwell commandCb
      obtain ⟨why', hwhy'⟩ := ControlServer.exists_badRequest hguarded hwell fun _ => (0, "")
      rw [commands, hwhy, hwhy']
      exact ⟨rfl, iff_of_true rfl hguarded, fun _ => hguarded⟩
  · obtain ⟨e, he⟩ := ControlServer.exists_thrown hguarded commandCb
    obtain ⟨e', he'⟩ := ControlServer.exists_thrown hguarded fun _ => (0, "")
    rw [commands, he, he']
    exact ⟨rfl, iff_of_false (fun h => by cases h) hguarded, fun h => absurd rfl h⟩

theorem commands_of_asks {req : HttpRequest} {command : Command} (h : req.Asks command) :
    req.commands = [command] := by
  rw [commands, ControlServer.handleRequest_of_asks h]
  rfl

end HttpRequest

/-! ### The network -/

/-- The posts of the consumers and the connections of the control server, a record of the calls of
the callback of the producer, and an exception that has left the io context of the server. A
connection without a post is one of another program. -/
structure ControlNetwork (ι : Type) where
  posts : ι → Option Post
  sessions : ι → Option ControlSession := fun _ => none
  calls : List (ι × Command) := []
  thrown : Option RequestError := none

/-- What happens in the network: an operation of a post ends, or a connection is accepted, something
is read from it or a response has been written. When a request is read, the callback of the producer
may answer anything. -/
inductive ControlEvent (ι : Type) where
  | completed (i : ι) (ec : ErrorCode)
  | accepted (i : ι)
  | received (i : ι) (r : ControlServer.ReadResult) (commandCb : CommandCb)
  | sent (i : ι) (ec : ErrorCode)

namespace ControlNetwork

open ReachedBy

variable {ι : Type} [DecidableEq ι]

/-- All posts have been run, and nothing has been accepted. -/
def init (requests : ι → Option HttpRequest) : ControlNetwork ι where
  posts i := (requests i).map fun request => { request := request }

/-- The requests that have been read from a connection. -/
def received (n : ControlNetwork ι) (i : ι) : List HttpRequest :=
  ((n.sessions i).map ControlSession.received).getD []

/-- The responses that are written to a connection. -/
def responses (n : ControlNetwork ι) (i : ι) : List HttpResponse :=
  ((n.sessions i).map ControlSession.responses).getD []

/-- The calls of the callback of the producer for a connection. -/
def callsOf (n : ControlNetwork ι) (i : ι) : List Command :=
  n.calls.filterMap fun call => if call.1 = i then some call.2 else none

variable [ControlRuntime] [HttpRuntime]

/-- One event. -/
def step (n : ControlNetwork ι) : ControlEvent ι → ControlNetwork ι
  | .completed i ec =>
      { n with posts := Function.update n.posts i ((n.posts i).map (Post.complete ec)) }
  | .accepted i => { n with sessions := Function.update n.sessions i (some {}) }
  | .received i r commandCb =>
      { n with
        sessions := Function.update n.sessions i
          ((n.sessions i).map (ControlSession.onRead commandCb r))
        calls := n.calls ++ (ControlServer.onRead commandCb r).calls.map (i, ·)
        thrown := (ControlServer.onRead commandCb r).thrown }
  | .sent i ec =>
      { n with
        sessions := Function.update n.sessions i ((n.sessions i).map (ControlSession.written ec)) }

/-- The events that can happen. A post reads a response after the server has begun to write it. The
server accepts a connection after the post has begun to connect, and reads the request of the post
after the post has begun to write it, and only once. -/
def Possible (n : ControlNetwork ι) : ControlEvent ι → Prop
  | .completed i ec => ∃ p ∈ n.posts i, p.operation.isSome ∧
      (p.operation = some .read → ec = .success → n.responses i ≠ [])
  | .accepted i => n.thrown = none ∧ n.sessions i = none ∧ ∀ p ∈ n.posts i, .connect ∈ p.started
  | .received i r _ => n.thrown = none ∧ ∃ s ∈ n.sessions i, s.operation = some .read ∧
      ∀ p ∈ n.posts i, ∀ req ∈ r.request?,
        req = p.request ∧ .write ∈ p.started ∧ s.received = []
  | .sent i _ => n.thrown = none ∧ ∃ s ∈ n.sessions i, s.operation ≠ some .read ∧
      s.operation.isSome

instance (n : ControlNetwork ι) (e : ControlEvent ι) : Decidable (n.Possible e) :=
  match e with
  | .completed _ _ | .accepted _ | .received _ _ _ | .sent _ _ => by
      unfold Possible
      infer_instance

/-- The states of the network. -/
def Reached (requests : ι → Option HttpRequest) : ControlNetwork ι → Prop :=
  ReachedBy step Possible (init requests)

/-! ### The invariant -/

/-- What holds of a connection: the callback of the producer has been called for the requests that
have been read from it, and a response has been written only if one of them could be handled. If the
connection is one of a post, nothing but its request has been read, at most once, and a success has
been reported only if there is a response. -/
structure Linked (requests : ι → Option HttpRequest) (n : ControlNetwork ι) (i : ι) : Prop where
  calls : n.callsOf i = (n.received i).flatMap HttpRequest.commands
  guarded : n.responses i ≠ [] → ∃ req ∈ n.received i, req.Guarded
  post : ∀ req ∈ requests i, ∃ p ∈ n.posts i, p.request = req ∧ p.Reports ∧
    (n.received i = [] ∨ n.received i = [req]) ∧ (.success ∈ p.results → n.responses i ≠ [])

variable {requests : ι → Option HttpRequest} {n : ControlNetwork ι} {i j : ι}

omit [HttpRuntime] in
/-- Only what belongs to a connection matters for it. -/
theorem Linked.congr (h : n.Linked requests i) {n' : ControlNetwork ι}
    (hposts : n'.posts i = n.posts i) (hreceived : n'.received i = n.received i)
    (hresponses : n'.responses i = n.responses i) (hcalls : n'.callsOf i = n.callsOf i) :
    n'.Linked requests i :=
  ⟨by rw [hcalls, hreceived, h.calls], by rw [hresponses, hreceived]; exact h.guarded,
    by rw [hposts, hreceived, hresponses]; exact h.post⟩

omit [HttpRuntime] in
theorem linked_init (i : ι) : (init requests).Linked requests i := by
  refine ⟨rfl, fun h => absurd rfl h, fun req hreq => ⟨{ request := req }, ?_, rfl,
    .inl ⟨rfl, rfl⟩, .inl rfl, fun h => absurd h List.not_mem_nil⟩⟩
  exact Option.mem_map_of_mem _ hreq

/-- What reading from a connection adds to the record of it. -/
theorem record_onRead (commandCb : CommandCb) (r : ControlServer.ReadResult) (s : ControlSession) :
    (s.onRead commandCb r).received = s.received ++ r.request?.toList ∧
      (s.onRead commandCb r).responses =
        s.responses ++ (ControlServer.onRead commandCb r).sent := by
  cases r with
  | endOfStream => exact ⟨(List.append_nil _).symm, (List.append_nil _).symm⟩
  | error => exact ⟨(List.append_nil _).symm, (List.append_nil _).symm⟩
  | request req => exact ⟨rfl, rfl⟩

omit [HttpRuntime] in
/-- What is done with what has been read. -/
theorem onRead_cases (commandCb : CommandCb) (r : ControlServer.ReadResult) :
    (ControlServer.onRead commandCb r).calls = r.request?.toList.flatMap HttpRequest.commands ∧
      ((ControlServer.onRead commandCb r).thrown = none ↔ ∀ req ∈ r.request?, req.Guarded) ∧
      ((ControlServer.onRead commandCb r).sent ≠ [] → ∃ req ∈ r.request?, req.Guarded) := by
  cases r with
  | endOfStream =>
    exact ⟨rfl, iff_of_true rfl fun req hreq => (Option.not_mem_none req hreq).elim,
      fun h => absurd rfl h⟩
  | error =>
    exact ⟨rfl, iff_of_true rfl fun req hreq => (Option.not_mem_none req hreq).elim,
      fun h => absurd rfl h⟩
  | request req =>
    obtain ⟨hcalls, hthrown, hsent⟩ := req.handled commandCb
    refine ⟨?_, ?_, fun h => ⟨req, rfl, hsent h⟩⟩
    · rw [ControlServer.onRead, hcalls]
      exact (List.append_nil _).symm
    · rw [ControlServer.onRead, hthrown]
      exact ⟨fun h req' hreq' => Option.some.inj hreq' ▸ h, fun h => h req rfl⟩

omit [DecidableEq ι] [ControlRuntime] [HttpRuntime] in
theorem received_of_some {s : ControlSession} (hs : n.sessions i = some s) :
    n.received i = s.received ∧ n.responses i = s.responses := by
  rw [received, responses, hs]
  exact ⟨rfl, rfl⟩

omit [ControlRuntime] [HttpRuntime] in
/-- The calls that are made for a connection. -/
theorem callsOf_append {n' : ControlNetwork ι} {commands : List Command}
    (h : n'.calls = n.calls ++ commands.map (i, ·)) (j : ι) :
    n'.callsOf j = n.callsOf j ++ if i = j then commands else [] := by
  have hmap : (commands.map (i, ·)).filterMap
      (fun call => if call.1 = j then some call.2 else none) = if i = j then commands else [] := by
    rw [List.filterMap_map]
    split_ifs with hij
    · rw [show (fun call : ι × Command => if call.1 = j then some call.2 else none) ∘ (i, ·) = some
        from funext fun command => if_pos hij, List.filterMap_some]
    · exact List.filterMap_eq_nil_iff.mpr fun command _ => if_neg hij
  rw [callsOf, h, List.filterMap_append, hmap, callsOf]

/-- An operation of a post ends. -/
theorem Linked.completed (h : ∀ i, n.Linked requests i) {ec : ErrorCode}
    (he : n.Possible (.completed i ec)) (j : ι) :
    (n.step (.completed i ec)).Linked requests j := by
  by_cases hij : j = i
  · subst hij
    obtain ⟨p, hp, hoperation, hresponse⟩ := he
    obtain ⟨o, ho⟩ := Option.isSome_iff_exists.mp hoperation
    refine ⟨(h j).calls, (h j).guarded, fun req hreq => ?_⟩
    obtain ⟨p', hp', hrequest, hreports, hreceived, hsuccess⟩ := (h j).post req hreq
    cases hp.symm.trans hp'
    refine ⟨p.complete ec, ?_, (p.request_complete ho ec).trans hrequest, hreports.complete ho ec,
      hreceived, fun hmem => ?_⟩
    · show Function.update n.posts j _ j = _
      rw [Function.update_self, hp]
      rfl
    · rcases p.complete_cases ho ec with ⟨next, hnext⟩ | ⟨hreport, hread⟩
      · rw [hnext] at hmem
        exact hsuccess hmem
      · rw [hreport] at hmem
        rcases List.mem_append.mp hmem with hmem | hmem
        · exact hsuccess hmem
        · have hec := (List.mem_singleton.mp hmem).symm
          exact hresponse (hread hec ▸ ho) hec
  · exact (h j).congr (Function.update_of_ne hij _ _) rfl rfl rfl

/-- Accepting a connection and writing a response read nothing and answer nothing. -/
theorem records_eq {e : ControlEvent ι} (he : n.Possible e)
    (hread : ∀ i r commandCb, e ≠ .received i r commandCb) (j : ι) :
    (n.step e).received j = n.received j ∧ (n.step e).responses j = n.responses j := by
  cases e with
  | completed i ec => exact ⟨rfl, rfl⟩
  | received i r commandCb => exact absurd rfl (hread i r commandCb)
  | accepted i =>
    by_cases hij : j = i
    · subst hij
      have hnew : (n.step (.accepted j)).sessions j = some {} := Function.update_self ..
      rw [(received_of_some hnew).1, (received_of_some hnew).2, received, responses, he.2.1]
      exact ⟨rfl, rfl⟩
    · have hsame : (n.step (.accepted i)).sessions j = n.sessions j :=
        Function.update_of_ne hij _ _
      rw [received, received, responses, responses, hsame]
      exact ⟨rfl, rfl⟩
  | sent i ec =>
    by_cases hij : j = i
    · subst hij
      obtain ⟨-, s, hs, -⟩ := he
      have hnew : (n.step (.sent j ec)).sessions j = some (s.written ec) := by
        show Function.update n.sessions j _ j = _
        rw [Function.update_self, hs]
        rfl
      rw [(received_of_some hnew).1, (received_of_some hnew).2, (received_of_some hs).1,
        (received_of_some hs).2]
      exact s.record_written ec
    · have hsame : (n.step (.sent i ec)).sessions j = n.sessions j :=
        Function.update_of_ne hij _ _
      rw [received, received, responses, responses, hsame]
      exact ⟨rfl, rfl⟩

/-- What reading from a connection adds. -/
theorem records_received {s : ControlSession} (hs : n.sessions i = some s)
    (r : ControlServer.ReadResult) (commandCb : CommandCb) (j : ι) :
    let n' := n.step (.received i r commandCb)
    n'.received j = n.received j ++ (if i = j then r.request?.toList else []) ∧
      n'.responses j =
        n.responses j ++ (if i = j then (ControlServer.onRead commandCb r).sent else []) ∧
      n'.callsOf j = n.callsOf j ++
        if i = j then r.request?.toList.flatMap HttpRequest.commands else [] := by
  intro n'
  have hcalls : n'.callsOf j = _ := callsOf_append rfl j
  rw [(onRead_cases commandCb r).1] at hcalls
  by_cases hij : i = j
  · subst hij
    have hnew : n'.sessions i = some (s.onRead commandCb r) := by
      show Function.update n.sessions i _ i = _
      rw [Function.update_self, hs]
      rfl
    obtain ⟨hreceived, hresponses⟩ := received_of_some hnew
    obtain ⟨hreceived', hresponses'⟩ := received_of_some hs
    obtain ⟨hrecord, hrecord'⟩ := record_onRead commandCb r s
    rw [if_pos rfl, if_pos rfl, hreceived, hresponses, hreceived', hresponses', hrecord, hrecord']
    exact ⟨rfl, rfl, hcalls⟩
  · have hsessions : n'.sessions j = n.sessions j := Function.update_of_ne (Ne.symm hij) _ _
    rw [if_neg hij, if_neg hij, List.append_nil, List.append_nil, received, received, responses,
      responses, hsessions]
    exact ⟨rfl, rfl, hcalls⟩

/-- Something is read from a connection. -/
theorem Linked.received (h : ∀ i, n.Linked requests i) {r : ControlServer.ReadResult}
    {commandCb : CommandCb} (he : n.Possible (.received i r commandCb)) (j : ι) :
    (n.step (.received i r commandCb)).Linked requests j := by
  obtain ⟨-, s, hs, -, hpost⟩ := he
  obtain ⟨hreceived, hresponses, hcalls⟩ := records_received hs r commandCb j
  by_cases hij : i = j
  · subst hij
    simp only [if_true] at hreceived hresponses hcalls
    refine ⟨?_, fun hne => ?_, fun req hreq => ?_⟩
    · rw [hcalls, hreceived, List.flatMap_append, (h i).calls]
    · rw [hresponses] at hne
      rw [hreceived]
      rw [ne_eq, List.append_eq_nil_iff, not_and_or] at hne
      rcases hne with hne | hne
      · obtain ⟨req, hreq, hguarded⟩ := (h i).guarded hne
        exact ⟨req, List.mem_append_left _ hreq, hguarded⟩
      · obtain ⟨req, hreq, hguarded⟩ := (onRead_cases commandCb r).2.2 hne
        exact ⟨req, List.mem_append_right _ (Option.mem_toList.mpr hreq), hguarded⟩
    · obtain ⟨p, hp, hrequest, hreports, honce, hsuccess⟩ := (h i).post req hreq
      refine ⟨p, hp, hrequest, hreports, ?_, fun hmem => ?_⟩
      · rw [hreceived]
        cases hread : r.request? with
        | none => simpa using honce
        | some req' =>
          obtain ⟨hreq', -, hfirst⟩ := hpost p hp req' hread
          rw [(received_of_some hs).1, hfirst, hreq', hrequest]
          exact .inr rfl
      · rw [hresponses]
        exact List.append_ne_nil_of_left_ne_nil (hsuccess hmem) _
  · simp only [if_neg hij, List.append_nil] at hreceived hresponses hcalls
    exact (h j).congr rfl hreceived hresponses hcalls

theorem linked_of_reached (h : Reached requests n) : ∀ i, n.Linked requests i := by
  induction h with
  | init => exact linked_init
  | step e _ he ih =>
    cases e with
    | completed i ec => exact Linked.completed ih he
    | received i r commandCb => exact Linked.received ih he
    | accepted i =>
      intro j
      obtain ⟨hreceived, hresponses⟩ := records_eq he (fun _ _ _ h => by cases h) j
      exact (ih j).congr rfl hreceived hresponses rfl
    | sent i ec =>
      intro j
      obtain ⟨hreceived, hresponses⟩ := records_eq he (fun _ _ _ h => by cases h) j
      exact (ih j).congr rfl hreceived hresponses rfl

/-! ### Commands of consumers -/

/-- A library that closes the connection after every response. -/
@[reducible] def closingRuntime : HttpRuntime where
  needEof _ := true

/-- The request of a consumer, which subscribes a signal. -/
def oneRequest (i : ℕ) : Option HttpRequest :=
  if i = 0 then some (HttpPost.request 11 (Controller.firstRequestText "stream")) else none

/-- A signal is subscribed, and another program sends what is no document. -/
def oneCommand : List (ControlEvent ℕ) :=
  [.completed 0 .success, .completed 0 .success, .accepted 0,
    .received 0 (.request (HttpPost.request 11 (Controller.firstRequestText "stream")))
      fun _ => (0, ""),
    .sent 0 .success, .completed 0 .success, .completed 0 .success, .accepted 1,
    .received 1 (.request ⟨.post, 11, true, ""⟩) fun _ => (0, "")]

/-- The state that is reached in this way. -/
def oneCommandReached : ControlNetwork ℕ :=
  oneCommand.foldl (@step _ _ (Controller.firstRequestParser "stream") closingRuntime)
    (init oneRequest)

omit [ControlRuntime] [HttpRuntime] in
theorem reached_oneCommand :
    @Reached _ _ (Controller.firstRequestParser "stream") closingRuntime oneRequest
      oneCommandReached :=
  ReachedBy.foldl .init oneCommand (by decide +kernel)

/-- An exception has left the io context if and only if a value of the wrong shape has been used in
a request. -/
theorem thrown_iff (h : Reached requests n) :
    n.thrown = none ↔ ∀ i, ∀ req ∈ n.received i, req.Guarded := by
  induction h with
  | init => exact iff_of_true rfl fun i req hreq => absurd hreq List.not_mem_nil
  | @step n e _ he ih =>
    by_cases hread : ∃ i r commandCb, e = .received i r commandCb
    · obtain ⟨i, r, commandCb, rfl⟩ := hread
      obtain ⟨hnone, s, hs, -⟩ := he
      have hall := ih.mp hnone
      have hreceived (j) := (records_received hs r commandCb j).1
      have hthrown : (n.step (.received i r commandCb)).thrown = none ↔
          ∀ req ∈ r.request?, req.Guarded := (onRead_cases commandCb r).2.1
      refine hthrown.trans ⟨fun hguarded j req hreq => ?_, fun hguarded req hreq => ?_⟩
      · rw [hreceived] at hreq
        rcases List.mem_append.mp hreq with hreq | hreq
        · exact hall j req hreq
        · split_ifs at hreq
          · exact hguarded req (Option.mem_toList.mp hreq)
          · cases hreq
      · refine hguarded i req ?_
        rw [hreceived, if_pos rfl]
        exact List.mem_append_right _ (Option.mem_toList.mpr hreq)
    · have hthrown : (n.step e).thrown = n.thrown := by
        cases e with
        | received i r commandCb => exact absurd ⟨i, r, commandCb, rfl⟩ hread
        | _ => rfl
      have hsame (j) := (records_eq he (fun i r commandCb h => hread ⟨i, r, commandCb, h⟩) j).1
      simp only [hthrown, hsame, ih]

/-- **Robustness.** If the consumers send well formed requests, an exception has left the io context
of the control server if and only if another program has sent a request in which a value of the
wrong shape is used. -/
theorem thrown_iff_of_reached (h : Reached requests n)
    (hwell : ∀ i, ∀ req ∈ requests i, req.WellFormed) :
    n.thrown ≠ none ↔ ∃ i, requests i = none ∧ ∃ req ∈ n.received i, ¬req.Guarded := by
  rw [ne_eq, thrown_iff h]
  push Not
  refine exists_congr fun i => ⟨fun ⟨req, hreq, hguarded⟩ => ?_, fun ⟨_, hbad⟩ => hbad⟩
  refine ⟨?_, req, hreq, hguarded⟩
  cases hi : requests i with
  | none => rfl
  | some own =>
    obtain ⟨p, -, -, -, honce, -⟩ := (linked_of_reached h i).post own hi
    rcases honce with honce | honce
    · rw [honce] at hreq
      cases hreq
    · rw [honce, List.mem_singleton] at hreq
      exact absurd (hwell i own hi).guarded (hreq ▸ hguarded)

omit [DecidableEq ι] [ControlRuntime] [HttpRuntime] in
theorem thrown_iff_of_reached_oneCommand :
    ∃ i, oneRequest i = none ∧ ∃ req ∈ oneCommandReached.received i,
      ¬@HttpRequest.Guarded (Controller.firstRequestParser "stream") req := by
  let _ : ControlRuntime := Controller.firstRequestParser "stream"
  let _ : HttpRuntime := closingRuntime
  refine (thrown_iff_of_reached reached_oneCommand fun i req hreq => ?_).mp (by decide +kernel)
  have hi : req = HttpPost.request 11 (Controller.firstRequestText "stream") := by
    rw [oneRequest] at hreq
    split_ifs at hreq
    · exact (Option.some.inj hreq).symm
    · cases hreq
  subst hi
  let c : Controller := ⟨"stream", "7438", "/", 11, by decide⟩
  obtain ⟨asked, hasks, -⟩ := Controller.exists_asks_createRequest c 0
    (by decide : ["signal"] ≠ []) metaMethodSubscribe
    (by rw [Controller.createRequest_first]; exact if_pos rfl :
      ControlRuntime.parse (Controller.firstRequestText "stream") = _)
  exact ControlServer.exists_asks.mp ⟨asked, hasks⟩

end ControlNetwork

end StreamingProtocol
