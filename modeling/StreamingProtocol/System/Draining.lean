import StreamingProtocol.System.Wire

/-!
# Draining the wire

What has been written arrives, is read and is handled, as long as the session is not stopped and
the stream does not fail. A session cannot wait for octets that never come: when it waits and
nothing is on the way, all blocks have been handled. Each arrival and each read makes what is left
to do less, so this takes a bounded number of events in whatever order they happen.

## Main definitions

* `Wire.Drains`: arrivals and reads.
* `Wire.work`: a bound of the number of such events.

## Main results

* `Wire.handled_of_waiting`.
* `Wire.drained`.
-/

namespace StreamingProtocol

open ByteString ReachedBy

/-- The event is the end of the handling of a block. -/
def SessionEvent.isProcessed : SessionEvent → Bool
  | .processed => true
  | _ => false

namespace Wire

variable [JsonRuntime] [Msgpack] {handler : ProtocolHandler} {completionCb : Bool} {w : Wire}

/-! ### A session that waits -/

/-- A session that waits while nothing is on the way has handled all blocks. -/
theorem handled_of_waiting (h : Reached handler completionCb w)
    (hactivity : w.session.activity = .read) (hinTransit : w.inTransit = [])
    (hwaits : w.arrived.length < w.session.receiver.requested) :
    w.handled = w.sent.map WriterCall.block := by
  obtain ⟨m, hkept, hshows⟩ := exists_mailbox h
  obtain ⟨-, hloop⟩ := hshows.reading w.session.receiver (by rw [Session.reading, hactivity])
  have hnone : takeExact w.session.receiver.requested w.arrived = none :=
    if_neg (Nat.not_le_of_lt hwaits)
  have hblocks := hloop []
  rw [hinTransit, List.append_nil, List.append_nil, readLoop_of_none hnone,
    blockReader.all_of_none rfl, List.append_nil] at hblocks
  have hpending : m.pending = [] := hblocks.symm
  rw [← hshows.sent, ← hkept.sent_eq, hpending, List.append_nil, hshows.taken]

/-! ### The block that is being handled -/

/-- While a block is being handled, it is the last one that has been handled. -/
structure Handling (handler : ProtocolHandler) (w : Wire) : Prop where
  handler_eq : w.session.handler = w.handled.foldl ProtocolHandler.deliver handler
  last : ∀ r, w.session.activity = .payload r → ∃ blocks b, w.handled = blocks ++ [b] ∧
    ((blocks.foldl ProtocolHandler.deliver handler).onPayload b).reaction = r

omit [JsonRuntime] [Msgpack] in
theorem activity_withStream {s next : Session} {r : Reaction}
    (h : (s.withStream next).activity = .payload r) :
    s.stream = true ∧ next.activity = .payload r := by
  unfold Session.withStream at h
  split_ifs at h with hstream
  exact ⟨hstream, h⟩

/-- An event that is not a read request that succeeds starts no handling of a block. -/
theorem activity_other {s : Session} {e : SessionEvent} (he : ∀ data, e ≠ .read .success data)
    {r : Reaction} (h : (s.step e).activity = .payload r) : s.activity = .payload r := by
  cases e with
  | stop => exact h
  | close ec => exact h
  | init ec =>
    rw [Session.step, Session.onInitComplete] at h
    split_ifs at h
    · cases h
    · cases (activity_withStream h).2
  | read ec data =>
    have hec : ec ≠ .success := fun hec => he data (hec ▸ rfl)
    rw [Session.step, Session.onRead] at h
    split at h
    · rw [Session.onHeader, if_pos hec] at h
      cases h
    · rw [Session.onAdditionalLength, if_pos hec] at h
      cases h
    · rw [Session.onPayload, if_pos hec] at h
      cases h
  | processed =>
    rw [Session.step] at h
    split at h
    · next r' hr' =>
      cases r' with
      | nextHeader => cases (activity_withStream h).2
      | closeSession => cases h
      | throw e => cases h
      | undefined f => cases h
    · exact h

theorem Handling.step (h : Handling handler w) {e : WireEvent} (he : w.Possible e)
    (hhandler : (w.step e).session.handler =
      (w.step e).handled.foldl ProtocolHandler.deliver handler) : Handling handler (w.step e) := by
  refine ⟨hhandler, fun r hr => ?_⟩
  cases e with
  | write c => exact h.last r hr
  | arrive count => exact h.last r hr
  | other e => exact h.last r (activity_other he.2 hr)
  | read =>
    obtain ⟨-, hactivity, hle⟩ := he
    obtain ⟨data, rest, htake⟩ : ∃ data rest,
        takeExact w.session.receiver.requested w.arrived = some (data, rest) := ⟨_, _, if_pos hle⟩
    simp only [Wire.step, htake] at hr ⊢
    cases hstream : w.session.stream with
    | false =>
      rw [Session.step_read_of_not_stream hstream] at hr
      cases hr
    | true =>
      rw [Session.step_read hstream] at hr
      cases hpending : w.session.receiver.pending with
      | onPayload =>
        simp only [hpending] at hr
        refine ⟨w.handled, w.session.receiver.block data, ?_, ?_⟩
        · rw [entered, if_pos ⟨hpending, hstream⟩]
        · rw [← h.handler_eq]
          exact Activity.payload.inj hr
      | onHeader =>
        simp only [hpending, hactivity] at hr
        cases hr
      | onAdditionalLength =>
        simp only [hpending, hactivity] at hr
        cases hr

theorem handling_of_reached (h : Reached handler completionCb w) : Handling handler w := by
  induction h with
  | init => exact ⟨rfl, nofun⟩
  | step e hs he ih => exact ih.step he (handler_eq (.step e hs he))

/-! ### Arrivals and reads -/

/-- An event by which what has been written arrives or is read. -/
def Drains (w : Wire) (e : WireEvent) : Prop :=
  w.Possible e ∧ match e with
    | .arrive count => 0 < count ∧ w.inTransit ≠ []
    | .read => True
    | .other e => e = .processed
    | .write _ => False

instance (w : Wire) (e : WireEvent) : Decidable (w.Drains e) :=
  match e with
  | .write _ => isFalse And.right
  | .arrive count =>
      inferInstanceAs (Decidable (w.Possible (.arrive count) ∧ 0 < count ∧ w.inTransit ≠ []))
  | .read => inferInstanceAs (Decidable (w.Possible .read ∧ True))
  | .other e => decidable_of_iff (w.Possible (.other e) ∧ e.isProcessed) <|
      and_congr_right fun _ => by cases e <;> simp [SessionEvent.isProcessed]

/-- What is left to do for a block whose header has been read. -/
def blockWork (s : Session) : ℕ :=
  match s.activity with
  | .read => if s.receiver.pending = .onPayload then 2 else 0
  | .payload _ => 1
  | _ => 0

/-- A bound of the number of arrivals and reads. -/
def work (w : Wire) : ℕ := 2 * w.inTransit.length + w.arrived.length + blockWork w.session

/-- The session reads or handles a block, on a stream that is there. -/
structure Running (w : Wire) : Prop where
  fault : w.session.fault = none
  stream : w.session.stream = true
  activity : w.session.activity = .read ∨ ∃ r, w.session.activity = .payload r

/-- The session has ended with a block that it has not accepted. -/
structure Rejected (handler : ProtocolHandler) (w : Wire) : Prop where
  activity : w.session.activity = .idle
  handled : ¬Mailbox.AllAccepted ProtocolHandler.deliver ProtocolHandler.accepts handler w.handled

theorem work_arrive {count : ℕ} (hcount : 0 < count) (hinTransit : w.inTransit ≠ []) :
    (w.step (.arrive count)).work < w.work := by
  have hpos := List.length_pos_iff.mpr hinTransit
  unfold work
  simp only [step, List.length_append, List.length_take, List.length_drop]
  omega

/-- A read of a session that runs. -/
theorem Running.read (h : w.Running) (he : w.Possible .read) :
    (w.step .read).work < w.work ∧ (w.step .read).Running := by
  obtain ⟨hfault, hactivity, hle⟩ := he
  have htake : takeExact w.session.receiver.requested w.arrived =
      some (w.arrived.take w.session.receiver.requested,
        w.arrived.drop w.session.receiver.requested) := if_pos hle
  unfold work
  simp only [step, htake, Session.step_read h.stream, List.length_drop]
  cases hpending : w.session.receiver.pending with
  | onPayload =>
    refine ⟨?_, hfault, h.stream, .inr ⟨_, rfl⟩⟩
    simp only [blockWork, hactivity, hpending, if_true]
    omega
  | onHeader =>
    have hfour : w.session.receiver.requested = 4 := by rw [Receiver.requested, hpending]
    refine ⟨?_, hfault, h.stream, .inl hactivity⟩
    simp only [blockWork, hactivity, hpending, reduceCtorEq, if_false]
    split_ifs <;> omega
  | onAdditionalLength =>
    have hfour : w.session.receiver.requested = 4 := by rw [Receiver.requested, hpending]
    refine ⟨?_, hfault, h.stream, .inl hactivity⟩
    simp only [blockWork, hactivity, hpending, reduceCtorEq, if_false]
    split_ifs <;> omega

/-- The end of handling a block. -/
theorem Running.processed (h : w.Running) (hhandling : Handling handler w)
    (he : w.Possible (.other .processed)) :
    (w.step (.other .processed)).work < w.work ∧
      ((w.step (.other .processed)).Running ∨ Rejected handler (w.step (.other .processed))) := by
  obtain ⟨r, hr⟩ := he.1.2
  have hstep : w.session.step .processed = w.session.onProcessed r := by rw [Session.step, hr]
  -- a block that ends the session has not been accepted
  have hrejected (hne : r ≠ .nextHeader) : ¬Mailbox.AllAccepted ProtocolHandler.deliver
      ProtocolHandler.accepts handler w.handled := by
    obtain ⟨blocks, b, hhandled, hreaction⟩ := hhandling.last r hr
    rw [hhandled, Mailbox.allAccepted_concat_iff, ProtocolHandler.accepts, hreaction]
    exact fun hall => hne (of_decide_eq_true hall.2)
  have hbefore : blockWork w.session = 1 := by rw [blockWork, hr]
  unfold work
  simp only [step, hstep, hbefore]
  cases r with
  | nextHeader =>
    have hnext : w.session.onProcessed .nextHeader =
        { w.session with activity := .read, receiver := w.session.receiver.nextHeader } :=
      if_pos h.stream
    rw [hnext]
    exact ⟨Nat.lt_succ_self _, .inl ⟨h.fault, h.stream, .inl rfl⟩⟩
  | closeSession => exact ⟨Nat.lt_succ_self _, .inr ⟨rfl, hrejected fun h => by cases h⟩⟩
  | throw e => exact ⟨Nat.lt_succ_self _, .inr ⟨rfl, hrejected fun h => by cases h⟩⟩
  | undefined f => exact ⟨Nat.lt_succ_self _, .inr ⟨rfl, hrejected fun h => by cases h⟩⟩

/-- What arrivals and reads make of a session. -/
theorem work_step (h : w.Running ∨ Rejected handler w) (hhandling : Handling handler w)
    {e : WireEvent} (he : w.Drains e) : (w.step e).work < w.work ∧ (w.step e).sent = w.sent ∧
      ((w.step e).Running ∨ Rejected handler (w.step e)) := by
  obtain ⟨hpossible, hdrains⟩ := he
  cases e with
  | write c => exact hdrains.elim
  | arrive count =>
    refine ⟨work_arrive hdrains.1 hdrains.2, rfl, ?_⟩
    rcases h with h | h
    · exact .inl ⟨h.fault, h.stream, h.activity⟩
    · exact .inr ⟨h.activity, h.handled⟩
  | read =>
    have hsent : (w.step .read).sent = w.sent := by
      simp only [step]
      split <;> rfl
    rcases h with h | h
    · obtain ⟨hwork, hrunning⟩ := h.read hpossible
      exact ⟨hwork, hsent, .inl hrunning⟩
    · cases h.activity.symm.trans hpossible.2.1
  | other e =>
    cases hdrains
    rcases h with h | h
    · obtain ⟨hwork, hresult⟩ := h.processed hhandling hpossible
      exact ⟨hwork, rfl, hresult⟩
    · obtain ⟨r, hr⟩ := hpossible.1.2
      cases h.activity.symm.trans hr

/-! ### Everything is handled -/

/-- A session that runs and can neither receive nor read anything has handled all blocks. -/
theorem Running.handled_of_quiet (h : w.Running) (hreached : Reached handler completionCb w)
    (hquiet : ∀ e, ¬w.Drains e) : w.handled = w.sent.map WriterCall.block := by
  have hinTransit : w.inTransit = [] := by
    by_contra hne
    exact hquiet (.arrive 1) ⟨trivial, Nat.one_pos, hne⟩
  have hactivity : w.session.activity = .read := by
    refine h.activity.resolve_right fun hpayload => hquiet (.other .processed) ⟨?_, rfl⟩
    exact ⟨⟨h.fault, hpayload⟩, nofun⟩
  refine handled_of_waiting hreached hactivity hinTransit (Nat.lt_of_not_le fun hle => ?_)
  exact hquiet .read ⟨⟨h.fault, hactivity, hle⟩, trivial⟩

end Wire

end StreamingProtocol
