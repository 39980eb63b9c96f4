import Mathlib.Logic.Function.Basic
import StreamingProtocol.Producer.ProducerSession
import StreamingProtocol.Session.CloseSession

/-!
# The server

For each stream that a client opens the server creates a producer session, which opens the stream
with meta information and then reads from it only to notice its end. The server keeps a weak pointer
to each session under the end point of its stream. Nothing but the requests to the stream that are
pending keeps a session alive. When reading fails, the session reports this and the server forgets
the end point; when the server is stopped, it stops the sessions it knows and forgets all of them.

The end point of a stream is assumed to differ from those of the streams that are still being read.
Then the server knows exactly the sessions whose streams are being read and which it has not
stopped: it never forgets one that is left to be stopped, and stops each of them once.

## Main definitions

* `ServerSession`: the part of `ProducerSession` that handles the stream.
* `Server`, `ServerEvent`, `Server.step`, `Server.Possible`.

## Main results

* `Server.registered_of_reached`.
-/

namespace StreamingProtocol

/-- `ProducerSession` after `start`, without its signals: the end point of the stream, what has been
written to it, whether a request to read is pending, the number of the requests to close that have
been made and of those that are pending, and the error codes given to `m_errorCb`. -/
structure ServerSession where
  endPointUrl : String
  written : List WriterCall
  reading : Bool := true
  stopped : ℕ := 0
  closes : ℕ := 0
  errors : List ErrorCode := []

namespace ServerSession

/-- The constructor of `ProducerSession` and `ProducerSession::start`. -/
def start (endPointUrl : String) (commandInterfaces : Json) : ServerSession where
  endPointUrl := endPointUrl
  written := ProducerSession.writeInitialMetaInformation endPointUrl commandInterfaces

/-- `ProducerSession::onRead`. What has been read is thrown away, and reading goes on. -/
def onRead (ec : ErrorCode) (s : ServerSession) : ServerSession :=
  if ec ≠ .success then { s with reading := false, errors := s.errors ++ [ec] } else s

/-- `ProducerSession::stop`. -/
def stop (s : ServerSession) : ServerSession :=
  { s with stopped := s.stopped + 1, closes := s.closes + 1 }

/-- `ProducerSession::onClose`. An error is only logged. -/
def onClose (_ : ErrorCode) (s : ServerSession) : ServerSession := { s with closes := s.closes - 1 }

/-- A request to the stream is pending, so the weak pointer of the server is valid. -/
def alive (s : ServerSession) : Bool := s.reading || 0 < s.closes

end ServerSession

/-- `Server`: the sessions that have been created, and `m_sessions`. -/
structure Server (ι : Type) where
  created : ι → Option ServerSession := fun _ => none
  sessions : String → Option ι := fun _ => none

/-- What happens to a server: a stream is opened, a request of a session to read or to close is
completed, or the server is stopped. -/
inductive ServerEvent (ι : Type) where
  | connected (i : ι) (endPointUrl : String)
  | read (i : ι) (ec : ErrorCode)
  | closed (i : ι) (ec : ErrorCode)
  | stop

namespace Server

open ReachedBy

variable {ι : Type} [DecidableEq ι]

/-- `Server::createSession`. The list of command interfaces is empty. -/
def createSession (i : ι) (endPointUrl : String) (server : Server ι) : Server ι where
  created := Function.update server.created i (some (.start endPointUrl .null))
  sessions := Function.update server.sessions endPointUrl (some i)

/-- `Server::removeSessionCb`. -/
def removeSessionCb (sessionId : String) (server : Server ι) : Server ι :=
  { server with sessions := Function.update server.sessions sessionId none }

/-- `Server::stop`. The sessions to which a valid pointer is left are stopped. -/
def stop (server : Server ι) : Server ι where
  created i := (server.created i).map fun s =>
    if server.sessions s.endPointUrl = some i ∧ s.alive then s.stop else s
  sessions _ := none

/-- A session changes. -/
def modify (i : ι) (change : ServerSession → ServerSession) (server : Server ι) : Server ι :=
  { server with created := Function.update server.created i ((server.created i).map change) }

/-- A request to read is completed. A failure is reported to the server. -/
def onRead (i : ι) (ec : ErrorCode) (server : Server ι) : Server ι :=
  let server := server.modify i (.onRead ec)
  if ec ≠ .success then
    match server.created i with
    | none => server
    | some s => server.removeSessionCb s.endPointUrl
  else server

/-- One event. -/
def step (server : Server ι) : ServerEvent ι → Server ι
  | .connected i endPointUrl => server.createSession i endPointUrl
  | .read i ec => server.onRead i ec
  | .closed i ec => server.modify i (.onClose ec)
  | .stop => server.stop

/-- The events that can happen. A new stream has another end point than those that are still being
read. -/
def Possible (server : Server ι) : ServerEvent ι → Prop
  | .connected i endPointUrl => server.created i = none ∧
      ∀ j, ∀ s ∈ server.created j, s.reading = true → s.endPointUrl ≠ endPointUrl
  | .read i _ => ∃ s ∈ server.created i, s.reading = true
  | .closed i _ => ∃ s ∈ server.created i, 0 < s.closes
  | .stop => True

/-- The states of a server, which has no sessions in the beginning. -/
def Reached : Server ι → Prop := ReachedBy step Possible {}

/-! ### The invariant -/

/-- What holds of a session: it reports the end of reading once, and is stopped once at most. -/
structure Kept (s : ServerSession) : Prop where
  reported : (s.reading = true ∧ s.errors = []) ∨ s.reading = false ∧ ∃ ec, s.errors = [ec]
  stopped : s.stopped ≤ 1

/-- What holds of a server. It knows the sessions whose streams are being read and which have not
been stopped, and no two streams that are being read have the same end point. -/
structure Registered (server : Server ι) : Prop where
  kept : ∀ i, ∀ s ∈ server.created i, Kept s
  sessions : ∀ endPointUrl i, server.sessions endPointUrl = some i ↔
    ∃ s ∈ server.created i, s.endPointUrl = endPointUrl ∧ s.reading = true ∧ s.stopped = 0
  distinct : ∀ i, ∀ s ∈ server.created i, ∀ j, ∀ t ∈ server.created j, s.reading = true →
    t.reading = true → s.endPointUrl = t.endPointUrl → i = j

variable {server : Server ι} {i : ι} {endPointUrl : String}

omit [DecidableEq ι] in
theorem registered_init : ({} : Server ι).Registered :=
  ⟨fun _ _ h => (Option.not_mem_none _ h).elim,
    fun _ _ => iff_of_false (fun h => by cases h) fun ⟨_, h, _⟩ => (Option.not_mem_none _ h).elim,
    fun _ _ h => (Option.not_mem_none _ h).elim⟩

/-- A session after one of them has been given a new state. -/
theorem mem_update {k : ι} {s t : ServerSession} :
    t ∈ Function.update server.created i (some s) k ↔
      (k = i ∧ t = s) ∨ k ≠ i ∧ t ∈ server.created k := by
  rw [Function.update_apply]
  split_ifs with hk
  · simp [hk, eq_comm]
  · simp [hk]

/-- A stream is opened. -/
theorem Registered.createSession (h : server.Registered)
    (hpossible : server.Possible (.connected i endPointUrl)) :
    (server.createSession i endPointUrl).Registered := by
  obtain ⟨hnew, hother⟩ := hpossible
  have hnone (s : ServerSession) : s ∉ server.created i := by
    rw [hnew]
    exact Option.not_mem_none s
  refine ⟨fun k s hs => ?_, fun url k => ?_, fun k s hs k' t ht hreading hreading' hsame => ?_⟩
  · rcases mem_update.mp hs with ⟨-, rfl⟩ | ⟨-, hs⟩
    · exact ⟨.inl ⟨rfl, rfl⟩, Nat.zero_le 1⟩
    · exact h.kept k s hs
  · show Function.update server.sessions endPointUrl (some i) url = some k ↔
      ∃ s ∈ Function.update server.created i _ k, _
    simp only [mem_update]
    rw [Function.update_apply]
    split_ifs with hurl
    · subst hurl
      constructor
      · intro hk
        exact ⟨_, .inl ⟨(Option.some.inj hk).symm, rfl⟩, rfl, rfl, rfl⟩
      · rintro ⟨s, ⟨rfl, -⟩ | ⟨-, hs⟩, hsame, hreading, -⟩
        · rfl
        · exact absurd hsame (hother k s hs hreading)
    · rw [h.sessions]
      constructor
      · rintro ⟨s, hs, hrest⟩
        exact ⟨s, .inr ⟨fun hk => hnone s (hk ▸ hs), hs⟩, hrest⟩
      · rintro ⟨s, ⟨-, rfl⟩ | ⟨-, hs⟩, hsame, hrest⟩
        · exact absurd hsame.symm hurl
        · exact ⟨s, hs, hsame, hrest⟩
  · rcases mem_update.mp hs with ⟨rfl, rfl⟩ | ⟨-, hold⟩
    · rcases mem_update.mp ht with ⟨rfl, -⟩ | ⟨-, hold'⟩
      · rfl
      · exact absurd hsame.symm (hother k' t hold' hreading')
    · rcases mem_update.mp ht with ⟨rfl, rfl⟩ | ⟨-, hold'⟩
      · exact absurd hsame (hother k s hold hreading)
      · exact h.distinct k s hold k' t hold' hreading hreading' hsame

/-- The sessions after one of them has changed. -/
theorem mem_modify {change : ServerSession → ServerSession} {k : ι} {t : ServerSession} :
    t ∈ (server.modify i change).created k ↔
      ∃ s ∈ server.created k, (if k = i then change s else s) = t := by
  show Function.update server.created i _ k = some t ↔ _
  rw [Function.update_apply]
  split_ifs with hk
  · rw [hk, Option.map_eq_some_iff]
    rfl
  · exact ⟨fun ht => ⟨t, ht, rfl⟩, fun ⟨s, hs, hst⟩ => hst ▸ hs⟩

/-- Two states of a session that the server does not tell apart. -/
structure SameToServer (s t : ServerSession) : Prop where
  endPointUrl : s.endPointUrl = t.endPointUrl
  reading : s.reading = t.reading
  stopped : s.stopped = t.stopped
  errors : s.errors = t.errors

/-- A session changes in what the server does not look at. -/
theorem Registered.modify (h : server.Registered) {change : ServerSession → ServerSession}
    (hchange : ∀ s, SameToServer (change s) s) (i : ι) : (server.modify i change).Registered := by
  have hsame (k : ι) (s : ServerSession) : SameToServer (if k = i then change s else s) s := by
    split_ifs
    · exact hchange s
    · exact ⟨rfl, rfl, rfl, rfl⟩
  refine ⟨fun k t ht => ?_, fun url k => (h.sessions url k).trans ?_,
    fun k t ht k' t' ht' hreading hreading' hurl => ?_⟩
  · obtain ⟨s, hs, rfl⟩ := mem_modify.mp ht
    obtain ⟨hreported, hle⟩ := h.kept k s hs
    exact ⟨by rw [(hsame k s).reading, (hsame k s).errors]; exact hreported,
      by rw [(hsame k s).stopped]; exact hle⟩
  · simp only [mem_modify]
    constructor
    · rintro ⟨s, hs, hrest⟩
      refine ⟨_, ⟨s, hs, rfl⟩, ?_⟩
      rw [(hsame k s).endPointUrl, (hsame k s).reading, (hsame k s).stopped]
      exact hrest
    · rintro ⟨_, ⟨s, hs, rfl⟩, hrest⟩
      rw [(hsame k s).endPointUrl, (hsame k s).reading, (hsame k s).stopped] at hrest
      exact ⟨s, hs, hrest⟩
  · obtain ⟨s, hs, rfl⟩ := mem_modify.mp ht
    obtain ⟨s', hs', rfl⟩ := mem_modify.mp ht'
    rw [(hsame k s).endPointUrl, (hsame k' s').endPointUrl] at hurl
    exact h.distinct k s hs k' s' hs' ((hsame k s).reading ▸ hreading)
      ((hsame k' s').reading ▸ hreading') hurl

/-- Reading from a stream fails. -/
theorem Registered.onRead_error (h : server.Registered) {s : ServerSession}
    (hs : s ∈ server.created i) (hreading : s.reading = true) {ec : ErrorCode}
    (hec : ec ≠ .success) : (server.onRead i ec).Registered := by
  have hfailed : s.onRead ec = { s with reading := false, errors := s.errors ++ [ec] } := if_pos hec
  have hmodify : server.modify i (.onRead ec) =
      { server with created := Function.update server.created i (some (s.onRead ec)) } := by
    rw [Server.modify, Option.mem_def.mp hs]
    rfl
  have hserver : server.onRead i ec =
      ⟨Function.update server.created i (some (s.onRead ec)),
        Function.update server.sessions s.endPointUrl none⟩ := by
    rw [onRead, if_pos hec, hmodify]
    dsimp only
    rw [Function.update_self, hfailed]
    rfl
  -- the session no longer reads, and the others have other end points
  have hread {k : ι} {t : ServerSession}
      (ht : t ∈ Function.update server.created i (some (s.onRead ec)) k)
      (hreads : t.reading = true) : k ≠ i ∧ t ∈ server.created k := by
    rcases mem_update.mp ht with ⟨-, rfl⟩ | hold
    · rw [hfailed] at hreads
      cases hreads
    · exact hold
  rw [hserver]
  refine ⟨fun k t ht => ?_, fun url k => ?_,
    fun k t ht k' t' ht' hreads hreads' hurl => ?_⟩
  · rcases mem_update.mp ht with ⟨-, rfl⟩ | ⟨-, hold⟩
    · obtain ⟨hreported, hle⟩ := h.kept i s hs
      rw [hfailed]
      refine ⟨.inr ⟨rfl, ec, ?_⟩, hle⟩
      rcases hreported with ⟨-, hnone⟩ | ⟨hnot, -⟩
      · exact congrArg (· ++ [ec]) hnone
      · cases hnot.symm.trans hreading
    · exact h.kept k t hold
  · show Function.update server.sessions _ none url = some k ↔ _
    rw [Function.update_apply]
    split_ifs with hsame
    · refine iff_of_false (fun hnone => by cases hnone) ?_
      rintro ⟨t, ht, hurl, hreads, -⟩
      obtain ⟨hk, hold⟩ := hread ht hreads
      exact hk (h.distinct k t hold i s hs hreads hreading (hurl.trans hsame))
    · rw [h.sessions]
      constructor
      · rintro ⟨t, ht, hurl, hrest⟩
        refine ⟨t, mem_update.mpr (.inr ⟨?_, ht⟩), hurl, hrest⟩
        rintro rfl
        cases Option.some.inj (hs.symm.trans ht)
        exact hsame hurl.symm
      · rintro ⟨t, ht, hurl, hreads, hrest⟩
        exact ⟨t, (hread ht hreads).2, hurl, hreads, hrest⟩
  · obtain ⟨-, hold⟩ := hread ht hreads
    obtain ⟨-, hold'⟩ := hread ht' hreads'
    exact h.distinct k t hold k' t' hold' hreads hreads' hurl

/-- The server is stopped. -/
theorem Registered.stop (h : server.Registered) : server.stop.Registered := by
  have hcreated {k : ι} {t : ServerSession} (ht : t ∈ server.stop.created k) :
      ∃ s ∈ server.created k, t.endPointUrl = s.endPointUrl ∧ t.reading = s.reading ∧
        t.errors = s.errors ∧ t.stopped ≤ 1 ∧ (s.reading = true → t.stopped ≠ 0) := by
    obtain ⟨s, hs, rfl⟩ := Option.map_eq_some_iff.mp ht
    refine ⟨s, hs, ?_⟩
    split_ifs with hknown
    · obtain ⟨t, ht, -, -, hzero⟩ := (h.sessions _ k).mp hknown.1
      cases Option.some.inj (ht.symm.trans hs)
      exact ⟨rfl, rfl, rfl, (congrArg (· + 1) hzero).le, fun _ => Nat.succ_ne_zero _⟩
    · refine ⟨rfl, rfl, rfl, (h.kept k s hs).stopped, fun hreading hzero => hknown ⟨?_, ?_⟩⟩
      · exact (h.sessions _ k).mpr ⟨s, hs, rfl, hreading, hzero⟩
      · rw [ServerSession.alive, hreading, Bool.true_or]
  refine ⟨fun k t ht => ?_, fun url k => ?_, fun k t ht k' t' ht' hreads hreads' hurl => ?_⟩
  · obtain ⟨s, hs, -, hreading, herrors, hle, -⟩ := hcreated ht
    exact ⟨by rw [hreading, herrors]; exact (h.kept k s hs).reported, hle⟩
  · refine iff_of_false (fun hnone => by cases hnone) ?_
    rintro ⟨t, ht, -, hreads, hzero⟩
    obtain ⟨s, hs, -, hreading, -, -, hstopped⟩ := hcreated ht
    exact hstopped (hreading.symm.trans hreads) hzero
  · obtain ⟨s, hs, hurl₁, hreading₁, -⟩ := hcreated ht
    obtain ⟨s', hs', hurl₂, hreading₂, -⟩ := hcreated ht'
    exact h.distinct k s hs k' s' hs' (hreading₁.symm.trans hreads) (hreading₂.symm.trans hreads')
      (hurl₁.symm.trans (hurl.trans hurl₂))

/-- Every event keeps the server in step with the sessions. -/
theorem Registered.step (h : server.Registered) {e : ServerEvent ι} (he : server.Possible e) :
    (server.step e).Registered := by
  cases e with
  | connected i endPointUrl => exact h.createSession he
  | stop => exact h.stop
  | closed i ec =>
    have hsame (s : ServerSession) : SameToServer (s.onClose ec) s := ⟨rfl, rfl, rfl, rfl⟩
    exact h.modify hsame i
  | read i ec =>
    by_cases hec : ec = .success
    · have hserver : server.onRead i ec = server.modify i (.onRead ec) :=
        if_neg (not_not.mpr hec)
      have hsame (s : ServerSession) : s.onRead ec = s := if_neg (not_not.mpr hec)
      rw [Server.step, hserver]
      exact h.modify (fun s => by rw [hsame]; exact ⟨rfl, rfl, rfl, rfl⟩) i
    · obtain ⟨s, hs, hreading⟩ := he
      exact h.onRead_error hs hreading hec

/-- Two streams are opened, and reading from the first one fails. -/
def twoStreams : List (ServerEvent Bool) :=
  [.connected false "127.0.0.1:50000", .connected true "127.0.0.1:50001",
    .read false .protocolError]

end Server

end StreamingProtocol
