import StreamingProtocol.Foundation.Mailboxes
import StreamingProtocol.Session.CloseSession
import StreamingProtocol.Transport.RoundTrip

/-!
# The wire

A producer writes blocks to a stream and the session of a consumer reads them from it. The octets
arrive in pieces of any size. A read request is completed when all of its octets have arrived, at
any time after that, or it fails. In between the application may stop the session and the stream may
be closed.

Whatever happens, the session sees a mailbox into which the producer puts blocks and from which the
protocol handler takes them. So the blocks that are handled are the first ones that were written,
each of them once and in the order in which they were written, and no block is handled after one
that the handler does not accept.

## Main definitions

* `Wire`, `WireEvent`, `Wire.step`, `Wire.Possible`.
* `Wire.Shows`: the mailbox that a session sees.

## Main results

* `Wire.simulation`: a session on a wire simulates a mailbox.
* `Wire.handled_of_reached`.
-/

namespace StreamingProtocol

open ByteString ReachedBy

/-- A session with the octets that are on the way and those that have arrived, and a record of the
calls of the writer and of the blocks with which `onPayload` was entered. -/
structure Wire where
  session : Session
  inTransit : Bytes := []
  arrived : Bytes := []
  sent : List WriterCall := []
  handled : List Block := []

/-- What happens to a session on a wire. -/
inductive WireEvent where
  | write (call : WriterCall)
  | arrive (count : ℕ)
  | read
  | other (e : SessionEvent)

/-- The call of the writer in an event. -/
def WireEvent.call? : WireEvent → Option WriterCall
  | .write c => some c
  | _ => none

/-- A payload is being handled. -/
def Activity.isPayload : Activity → Bool
  | .payload _ => true
  | _ => false

theorem Activity.isPayload_iff {a : Activity} : a.isPayload ↔ ∃ r, a = .payload r := by
  constructor
  · intro h
    cases a with
    | payload r => exact ⟨r, rfl⟩
    | _ => cases h
  · rintro ⟨r, rfl⟩
    rfl

/-- The event is a read request that succeeds. -/
def SessionEvent.isReadSuccess : SessionEvent → Bool
  | .read .success _ => true
  | _ => false

theorem SessionEvent.isReadSuccess_eq_false_iff {e : SessionEvent} :
    e.isReadSuccess = false ↔ ∀ data, e ≠ .read .success data := by
  constructor
  · rintro h data rfl
    cases h
  · intro h
    cases e with
    | read ec data =>
      cases ec with
      | success => exact absurd rfl (h data)
      | _ => rfl
    | _ => rfl

instance (s : Session) (e : SessionEvent) : Decidable (s.Possible e) :=
  match e with
  | .stop => inferInstanceAs (Decidable (s.fault = none ∧ True))
  | .init _ => inferInstanceAs (Decidable (s.fault = none ∧ s.activity = .init))
  | .read _ _ => inferInstanceAs (Decidable (s.fault = none ∧ s.activity = .read))
  | .processed => decidable_of_iff (s.fault = none ∧ s.activity.isPayload) <|
      and_congr_right fun _ => Activity.isPayload_iff
  | .close _ => inferInstanceAs (Decidable (s.fault = none ∧ 0 < s.closes))

/-- A call of the writer as the wire carries it: the number fits into the header, the length into a
word, and the payload is not empty. -/
def WriterCall.Carried [Msgpack] (c : WriterCall) : Prop :=
  c.signalNumber.toNat < 2 ^ 20 ∧ c.payload.length < 2 ^ 32 ∧ c.payload ≠ []

instance [Msgpack] (c : WriterCall) : Decidable c.Carried :=
  inferInstanceAs (Decidable (_ ∧ _ ∧ _))

theorem blockReader_all_written [Msgpack] {c : WriterCall} (hc : c.Carried) (stream : Bytes) :
    (blockReader.all (c.written ++ stream)).1 = c.block :: (blockReader.all stream).1 := by
  have hnext : blockReader.next (c.written ++ stream) = some (c.block, stream) :=
    nextBlock_written hc.1 hc.2.1 hc.2.2 stream
  rw [blockReader.all_of_some hnext]

namespace ProtocolHandler

variable [JsonRuntime] [Msgpack]

/-- The handler after a block. -/
def deliver (h : ProtocolHandler) (b : Block) : ProtocolHandler := (h.onPayload b).state

/-- The handler goes on to the next header after a block. -/
def accepts (h : ProtocolHandler) (b : Block) : Bool :=
  decide ((h.onPayload b).reaction = .nextHeader)

end ProtocolHandler

namespace Session

/-- The receiver that goes on reading, as long as the session does. -/
def reading (s : Session) : Option Receiver :=
  match s.activity with
  | .init => some .initial
  | .read => some s.receiver
  | .payload .nextHeader => some s.receiver.nextHeader
  | _ => none

variable [JsonRuntime] [Msgpack]

/-- An event that is not a read request that succeeds leaves the handler alone, and the session goes
on reading as before or not at all. -/
theorem reading_step {s : Session} {e : SessionEvent} (hpossible : s.Possible e)
    (he : ∀ data, e ≠ .read .success data) :
    (s.step e).handler = s.handler ∧
      ((s.step e).reading = s.reading ∨ (s.step e).reading = none) := by
  obtain ⟨-, hpossible⟩ := hpossible
  cases e with
  | stop => exact ⟨rfl, .inl rfl⟩
  | close ec => exact ⟨rfl, .inl rfl⟩
  | init ec =>
    have hinit : s.activity = .init := hpossible
    rw [step, onInitComplete]
    split_ifs with hec
    · exact ⟨rfl, .inr rfl⟩
    · unfold withStream
      split_ifs
      · exact ⟨rfl, .inl (by rw [reading, reading, hinit])⟩
      · exact ⟨rfl, .inr rfl⟩
  | read ec data =>
    have hec : ec ≠ .success := fun h => he data (h ▸ rfl)
    rw [step, onRead]
    split
    · rw [onHeader, if_pos hec]
      exact ⟨rfl, .inr rfl⟩
    · rw [onAdditionalLength, if_pos hec]
      exact ⟨rfl, .inr rfl⟩
    · rw [onPayload, if_pos hec]
      exact ⟨rfl, .inr rfl⟩
  | processed =>
    obtain ⟨r, hr⟩ := hpossible
    have hstep : s.step .processed = s.onProcessed r := by rw [step, hr]
    rw [hstep]
    cases r with
    | nextHeader =>
      rw [onProcessed]
      unfold withStream
      split_ifs
      · exact ⟨rfl, .inl (by rw [reading, reading, hr])⟩
      · exact ⟨rfl, .inr rfl⟩
    | closeSession => exact ⟨rfl, .inr rfl⟩
    | throw e => exact ⟨rfl, .inr rfl⟩
    | undefined f => exact ⟨rfl, .inr rfl⟩

/-- A read request that succeeds after the stream has been given up. -/
theorem step_read_of_not_stream {s : Session} (hstream : s.stream = false) (data : Bytes) :
    s.step (.read .success data) = { s with activity := .idle, fault := some .nullStream } := by
  have hlost (next : Session) : s.withStream next =
      { s with activity := .idle, fault := some .nullStream } :=
    if_neg (by rw [hstream]; exact Bool.false_ne_true)
  have hsuccess : ¬ErrorCode.success ≠ .success := not_not.mpr rfl
  rw [step, onRead]
  cases s.receiver.pending with
  | onHeader => rw [onHeader, if_neg hsuccess, hlost]
  | onAdditionalLength => rw [onAdditionalLength, if_neg hsuccess, hlost]
  | onPayload => rw [onPayload, if_neg hsuccess, hlost]

/-- A read request that succeeds. The payload of a block goes to the handler, the other octets go to
the receiver. -/
theorem step_read {s : Session} (hstream : s.stream = true) (data : Bytes) :
    s.step (.read .success data) = match s.receiver.pending with
      | .onHeader => { s with receiver := s.receiver.onHeader data }
      | .onAdditionalLength => { s with receiver := s.receiver.onAdditionalLength data }
      | .onPayload =>
          { s with
            handler := s.handler.deliver (s.receiver.block data)
            activity := .payload (s.handler.onPayload (s.receiver.block data)).reaction } := by
  have hsuccess : ¬ErrorCode.success ≠ .success := not_not.mpr rfl
  rw [step, onRead]
  cases s.receiver.pending with
  | onHeader => rw [onHeader, if_neg hsuccess, withStream, if_pos hstream]
  | onAdditionalLength => rw [onAdditionalLength, if_neg hsuccess, withStream, if_pos hstream]
  | onPayload =>
    rw [onPayload, if_neg hsuccess, withStream, if_pos hstream]
    rfl

end Session

namespace Wire

variable [JsonRuntime] [Msgpack]

/-! ### Events -/

/-- A session that has just been started, on a stream to which nothing has been written. -/
def start (handler : ProtocolHandler) (completionCb : Bool) : Wire where
  session := .start handler completionCb

/-- The blocks that are handled when a read request is completed. -/
def entered (w : Wire) (data : Bytes) : List Block :=
  if w.session.receiver.pending = .onPayload ∧ w.session.stream then
    [w.session.receiver.block data]
  else []

/-- One event. -/
def step (w : Wire) : WireEvent → Wire
  | .write c => { w with sent := w.sent ++ [c], inTransit := w.inTransit ++ c.written }
  | .arrive count =>
      { w with
        arrived := w.arrived ++ w.inTransit.take count
        inTransit := w.inTransit.drop count }
  | .read =>
      match takeExact w.session.receiver.requested w.arrived with
      | none => w
      | some (data, rest) =>
          { w with
            session := w.session.step (.read .success data)
            arrived := rest
            handled := w.handled ++ w.entered data }
  | .other e => { w with session := w.session.step e }

/-- The events that can happen. A read request is completed with octets that have arrived, the other
events are those of the session. -/
def Possible (w : Wire) : WireEvent → Prop
  | .write c => c.Carried
  | .arrive _ => True
  | .read => w.session.fault = none ∧ w.session.activity = .read ∧
      w.session.receiver.requested ≤ w.arrived.length
  | .other e => w.session.Possible e ∧ ∀ data, e ≠ .read .success data

/-- What is written during events. -/
theorem sent_foldl (events : List WireEvent) (w : Wire) :
    (events.foldl step w).sent = w.sent ++ events.filterMap WireEvent.call? := by
  induction events generalizing w with
  | nil => exact (List.append_nil _).symm
  | cons e events ih =>
    rw [List.foldl_cons, ih]
    cases e with
    | write c => exact List.append_assoc _ [c] _
    | read =>
      rw [step]
      split <;> rfl
    | _ => rfl

instance (w : Wire) (e : WireEvent) : Decidable (w.Possible e) :=
  match e with
  | .write c => inferInstanceAs (Decidable c.Carried)
  | .arrive _ => isTrue trivial
  | .read => inferInstanceAs (Decidable (w.session.fault = none ∧ w.session.activity = .read ∧
      w.session.receiver.requested ≤ w.arrived.length))
  | .other e => decidable_of_iff (w.session.Possible e ∧ e.isReadSuccess = false) <|
      and_congr_right fun _ => SessionEvent.isReadSuccess_eq_false_iff

/-! ### The mailbox that a session sees -/

/-- A session shows a mailbox. As long as the session goes on reading, the blocks that it finds in
what has been written are those in the mailbox, and after these it finds what is written next. -/
structure Shows (w : Wire) (m : Mailbox Block ProtocolHandler) : Prop where
  sent : m.sent = w.sent.map WriterCall.block
  taken : m.taken = w.handled
  receiver : m.receiver = w.session.handler
  reading : ∀ r, w.session.reading = some r → m.isOpen = true ∧
    ∀ stream, (readLoop r (w.arrived ++ (w.inTransit ++ stream))).1 =
      m.pending ++ (blockReader.all stream).1

/-- The steps of the mailbox and what may happen to it. -/
abbrev mailboxStep : Mailbox Block ProtocolHandler → MailboxEvent Block →
    Mailbox Block ProtocolHandler :=
  Mailbox.step ProtocolHandler.deliver ProtocolHandler.accepts

variable {w : Wire} {m : Mailbox Block ProtocolHandler}

omit [JsonRuntime] in
theorem shows_start (handler : ProtocolHandler) (completionCb : Bool) :
    (start handler completionCb).Shows (.empty handler) := by
  refine ⟨rfl, rfl, rfl, fun r hr => ⟨rfl, fun stream => ?_⟩⟩
  cases hr
  exact (readLoop_eq_all rfl stream).1

/-- A block is written. -/
theorem Shows.write (h : w.Shows m) {c : WriterCall} (hc : c.Carried) :
    (w.step (.write c)).Shows (mailboxStep m (.send c.block)) := by
  refine ⟨?_, h.taken, h.receiver, fun r hr => ?_⟩
  · show m.sent ++ [c.block] = (w.sent ++ [c]).map WriterCall.block
    rw [h.sent, List.map_append]
    rfl
  · obtain ⟨hopen, hloop⟩ := h.reading r hr
    refine ⟨hopen, fun stream => ?_⟩
    show (readLoop r (w.arrived ++ (w.inTransit ++ c.written ++ stream))).1 =
      m.pending ++ [c.block] ++ _
    rw [List.append_assoc w.inTransit, hloop, blockReader_all_written hc, List.append_assoc]
    rfl

/-- Octets arrive. -/
theorem Shows.arrive (h : w.Shows m) (count : ℕ) : (w.step (.arrive count)).Shows m := by
  refine ⟨h.sent, h.taken, h.receiver, fun r hr => ?_⟩
  obtain ⟨hopen, hloop⟩ := h.reading r hr
  refine ⟨hopen, fun stream => ?_⟩
  show (readLoop r (w.arrived ++ w.inTransit.take count ++
    (w.inTransit.drop count ++ stream))).1 = _
  rw [List.append_assoc, ← List.append_assoc (w.inTransit.take count), List.take_append_drop, hloop]

/-- An event of the session that takes no octets. -/
theorem Shows.other (h : w.Shows m) {e : SessionEvent} (he : w.Possible (.other e)) :
    (w.step (.other e)).Shows m := by
  obtain ⟨hhandler, hreading⟩ := Session.reading_step he.1 he.2
  refine ⟨h.sent, h.taken, h.receiver.trans hhandler.symm, fun r hr => ?_⟩
  rcases hreading with hsame | hnone
  · exact h.reading r (hsame ▸ hr)
  · cases hnone.symm.trans hr

section Read

variable {data rest : Bytes}

omit [JsonRuntime] [Msgpack] in
/-- The read loop goes on with what a request leaves. -/
theorem readLoop_arrived {r : Receiver}
    (htake : takeExact r.requested w.arrived = some (data, rest)) (stream : Bytes) :
    readLoop r (w.arrived ++ (w.inTransit ++ stream)) = match r.pending with
      | .onHeader => readLoop (r.onHeader data) (rest ++ (w.inTransit ++ stream))
      | .onAdditionalLength =>
          readLoop (r.onAdditionalLength data) (rest ++ (w.inTransit ++ stream))
      | .onPayload =>
          (r.block data :: (readLoop r.nextHeader (rest ++ (w.inTransit ++ stream))).1,
            (readLoop r.nextHeader (rest ++ (w.inTransit ++ stream))).2) := by
  obtain ⟨hdata, harrived⟩ := takeExact_eq_some htake
  refine readLoop_of_some ?_
  rw [harrived, List.append_assoc]
  exact takeExact_append hdata _

omit [JsonRuntime] in
/-- A request for a word of the header is completed. -/
theorem Shows.word (h : w.Shows m) (hactivity : w.session.activity = .read) {r : Receiver}
    (hloop : ∀ stream, readLoop w.session.receiver (w.arrived ++ (w.inTransit ++ stream)) =
      readLoop r (rest ++ (w.inTransit ++ stream))) :
    Shows { w with session := { w.session with receiver := r }, arrived := rest } m := by
  refine ⟨h.sent, h.taken, h.receiver, fun r' hr' => ?_⟩
  have hr : r = r' := by
    simp only [Session.reading, hactivity] at hr'
    exact Option.some.inj hr'
  obtain ⟨hopen, hblocks⟩ := h.reading w.session.receiver (by rw [Session.reading, hactivity])
  subst hr
  refine ⟨hopen, fun stream => ?_⟩
  show (readLoop r (rest ++ (w.inTransit ++ stream))).1 = _
  rw [← hloop, hblocks]

/-- A request for a payload is completed. Its block is the first one in the mailbox. -/
theorem Shows.payload (h : w.Shows m) (hactivity : w.session.activity = .read)
    (hloop : ∀ stream, (readLoop w.session.receiver (w.arrived ++ (w.inTransit ++ stream))).1 =
      w.session.receiver.block data ::
        (readLoop w.session.receiver.nextHeader (rest ++ (w.inTransit ++ stream))).1) :
    m.Allowed .take ∧
      Shows { w with
        session := { w.session with
          handler := w.session.handler.deliver (w.session.receiver.block data)
          activity := .payload
            (w.session.handler.onPayload (w.session.receiver.block data)).reaction }
        arrived := rest
        handled := w.handled ++ [w.session.receiver.block data] } (mailboxStep m .take) := by
  obtain ⟨hopen, hblocks⟩ := h.reading w.session.receiver (by rw [Session.reading, hactivity])
  have hfirst := (hblocks []).symm.trans (hloop [])
  rw [blockReader.all_of_none rfl, List.append_nil] at hfirst
  have htaken : mailboxStep m .take = { m with
      receiver := m.receiver.deliver (w.session.receiver.block data)
      isOpen := m.receiver.accepts (w.session.receiver.block data)
      pending := (readLoop w.session.receiver.nextHeader (rest ++ (w.inTransit ++ []))).1
      taken := m.taken ++ [w.session.receiver.block data] } := by
    rw [mailboxStep, Mailbox.step, hfirst]
  refine ⟨⟨hopen, hfirst ▸ List.cons_ne_nil _ _⟩, ?_⟩
  rw [htaken]
  refine ⟨h.sent, congrArg (· ++ _) h.taken, congrArg (ProtocolHandler.deliver · _) h.receiver,
    fun r hr => ?_⟩
  -- the session goes on reading if the block has been accepted
  have haccepted : (w.session.handler.onPayload (w.session.receiver.block data)).reaction =
      .nextHeader ∧ w.session.receiver.nextHeader = r := by
    simp only [Session.reading] at hr
    split at hr
    · next hx => cases hx
    · next hx => cases hx
    · next hx => exact ⟨Activity.payload.inj hx, Option.some.inj hr⟩
    · cases hr
  obtain ⟨haccepted, rfl⟩ := haccepted
  refine ⟨?_, fun stream => ?_⟩
  · show decide ((m.receiver.onPayload _).reaction = .nextHeader) = true
    rw [h.receiver]
    exact decide_eq_true haccepted
  · have hrest := (hloop stream).symm.trans (hblocks stream)
    rw [hfirst] at hrest
    exact (List.cons.inj hrest).2

/-- A read request is completed. -/
theorem Shows.read (h : w.Shows m) (he : w.Possible .read) :
    ∃ inputs, AllowedAlong mailboxStep Mailbox.Allowed m inputs ∧
      (w.step .read).Shows (inputs.foldl mailboxStep m) := by
  obtain ⟨-, hactivity, hle⟩ := he
  obtain ⟨data, rest, htake⟩ : ∃ data rest,
      takeExact w.session.receiver.requested w.arrived = some (data, rest) :=
    ⟨_, _, if_pos hle⟩
  have hloop := readLoop_arrived htake
  rw [step, htake]
  dsimp only
  cases hstream : w.session.stream with
  | false =>
    have hentered : w.entered data = [] := if_neg fun hboth => by
      rw [hstream] at hboth
      exact Bool.false_ne_true hboth.2
    rw [Session.step_read_of_not_stream hstream, hentered, List.append_nil]
    exact ⟨[], trivial, h.sent, h.taken, h.receiver, nofun⟩
  | true =>
    rw [Session.step_read hstream]
    cases hpending : w.session.receiver.pending with
    | onPayload =>
      simp only [hpending] at hloop
      obtain ⟨hallowed, hshows⟩ :=
        h.payload hactivity fun stream => congrArg Prod.fst (hloop stream)
      have hentered : w.entered data = [w.session.receiver.block data] :=
        if_pos ⟨hpending, hstream⟩
      rw [hentered]
      exact ⟨[.take], ⟨hallowed, trivial⟩, hshows⟩
    | onHeader =>
      simp only [hpending] at hloop
      have hentered : w.entered data = [] := by simp [entered, hpending]
      rw [hentered, List.append_nil]
      exact ⟨[], trivial, h.word hactivity hloop⟩
    | onAdditionalLength =>
      simp only [hpending] at hloop
      have hentered : w.entered data = [] := by simp [entered, hpending]
      rw [hentered, List.append_nil]
      exact ⟨[], trivial, h.word hactivity hloop⟩

end Read

/-- Every event makes steps of the mailbox. -/
theorem Shows.step (h : w.Shows m) {e : WireEvent} (he : w.Possible e) :
    ∃ inputs, AllowedAlong mailboxStep Mailbox.Allowed m inputs ∧
      (w.step e).Shows (inputs.foldl mailboxStep m) := by
  cases e with
  | write c => exact ⟨[.send c.block], ⟨trivial, trivial⟩, h.write he⟩
  | arrive count => exact ⟨[], trivial, h.arrive count⟩
  | read => exact h.read he
  | other e => exact ⟨[], trivial, h.other he⟩

/-- **Refinement.** A session on a wire simulates a mailbox of blocks. -/
def simulation (handler : ProtocolHandler) (completionCb : Bool) :
    Simulation step Possible (start handler completionCb) mailboxStep Mailbox.Allowed
      (.empty handler) where
  Shows := Shows
  shows_init := shows_start handler completionCb
  shows_step h he := h.step he

/-- The states of a wire. -/
def Reached (handler : ProtocolHandler) (completionCb : Bool) : Wire → Prop :=
  ReachedBy step Possible (start handler completionCb)

variable {handler : ProtocolHandler} {completionCb : Bool}

/-- A state of a wire shows a mailbox. -/
theorem exists_mailbox (h : Reached handler completionCb w) :
    ∃ m : Mailbox Block ProtocolHandler,
      m.Kept ProtocolHandler.deliver ProtocolHandler.accepts handler ∧ w.Shows m := by
  obtain ⟨m, hm, hshows⟩ := (simulation handler completionCb).exists_reached h
  exact ⟨m, Mailbox.kept_of_reached hm, hshows⟩

theorem handled_isPrefix (h : Reached handler completionCb w) :
    w.handled <+: w.sent.map WriterCall.block := by
  obtain ⟨m, hkept, hshows⟩ := exists_mailbox h
  rw [← hshows.sent, ← hshows.taken]
  exact hkept.taken_isPrefix

theorem handler_eq (h : Reached handler completionCb w) :
    w.session.handler = w.handled.foldl ProtocolHandler.deliver handler := by
  obtain ⟨m, hkept, hshows⟩ := exists_mailbox h
  rw [← hshows.taken, ← hshows.receiver, hkept.receiver_eq]

theorem allAccepted_dropLast (h : Reached handler completionCb w) :
    Mailbox.AllAccepted ProtocolHandler.deliver ProtocolHandler.accepts handler
      w.handled.dropLast := by
  obtain ⟨m, hkept, hshows⟩ := exists_mailbox h
  rw [← hshows.taken]
  exact hkept.accepted

/-- A block of one octet is written, arrives in two pieces and is read. -/
def oneBlock : List WireEvent :=
  [.other (.init .success), .write (.writeSignalData 1 [7]), .arrive 3, .arrive 2, .read, .read]

end Wire

end StreamingProtocol
