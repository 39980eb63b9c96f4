import StreamingProtocol.Producer.FreshDescription
import StreamingProtocol.Producer.ProducerSession

/-!
# Signals of a producer session

A producer session knows the signals that were added to it, by their ids. It tells which data
signals become available, and lets signals that it knows send the acknowledgements of subscriptions
and of unsubscriptions. It keeps no record of these. A consumer does, and rejects an acknowledgement
that does not fit to it. So all messages of a session are accepted if and only if the calls of the
session follow the record that the consumer keeps.

## Main definitions

* `ProducerSession`, `SessionCall`, `ProducerSession.call`, `ProducerSession.written`.
* `SignalCall`: the calls of signals that a session makes, `ProducerSession.signalCalls`.
* `SignalCall.Fits`: a call fits to the numbers of the signals that are subscribed.

## Main results

* `SignalContainer.Knows.accepts_messages_iff`.
* `ProducerSession.accepts_written_iff`.
-/

namespace StreamingProtocol

/-- The signals that were added to a session. -/
structure ProducerSession where
  allSignals : String → Option ProducerSignal

/-- A call of a session. -/
inductive SessionCall where
  | addSignal (signal : ProducerSignal)
  | addSignals (signals : Members ProducerSignal)
  | removeSignal (signalId : String)
  | removeSignals (signalIds : List String)
  | subscribeSignals (signalIds : List String)
  | unsubscribeSignals (signalIds : List String)

/-- A call of a signal by a session. -/
inductive SignalCall where
  | subscribe (signal : ProducerSignal)
  | unsubscribe (signal : ProducerSignal)

namespace ProducerSession

/-! ### Calls of a session -/

/-- A session without signals. -/
def initial : ProducerSession := ⟨fun _ => none⟩

/-- The document of `ProducerSession::writeAvailableMetaInformation` and of
`ProducerSession::writeUnavailableMetaInformation`. -/
def signalIdsMeta (name : String) (signalIds : List String) : Json :=
  signalIds.foldl (fun j signalId =>
      j.set params ((j.member params).pushBackIn metaSignalids (.string signalId)))
    (Json.null.set method (.string name))

/-- `ProducerSession::writeAvailableMetaInformation`. -/
def writeAvailableMetaInformation (signalIds : List String) : WriterCall :=
  .writeMetaInformation 0 (signalIdsMeta metaMethodAvailable signalIds)

/-- `ProducerSession::writeUnavailableMetaInformation`. -/
def writeUnavailableMetaInformation (signalIds : List String) : WriterCall :=
  .writeMetaInformation 0 (signalIdsMeta metaMethodUnavailable signalIds)

/-- The signals with ids, as far as they are known. -/
def known (session : ProducerSession) (signalIds : List String) : List ProducerSignal :=
  signalIds.filterMap session.allSignals

/-- `ProducerSession::addSignal`. -/
def addSignal (signal : ProducerSignal) (session : ProducerSession) :
    ProducerSession × List WriterCall :=
  (⟨Function.update session.allSignals signal.id (some signal)⟩,
    if signal.isDataSignal then [writeAvailableMetaInformation [signal.id]] else [])

/-- An entry is inserted unless there is one with its key. -/
def insert (entry : String × ProducerSignal) (session : ProducerSession) : ProducerSession :=
  match session.allSignals entry.1 with
  | none => ⟨Function.update session.allSignals entry.1 (some entry.2)⟩
  | some _ => session

/-- `ProducerSession::addSignals`. -/
def addSignals (signals : Members ProducerSignal) (session : ProducerSession) :
    ProducerSession × List WriterCall :=
  let signalIds := (signals.filter fun entry => entry.2.isDataSignal).map Prod.fst
  (signals.foldl (fun session entry => session.insert entry) session,
    if signalIds = [] then [] else [writeAvailableMetaInformation signalIds])

/-- One round of `ProducerSession::removeSignals`, with the ids of the data signals so far. -/
def remove (signalId : String) (s : ProducerSession × List String) :
    ProducerSession × List String :=
  match s.1.allSignals signalId with
  | none => s
  | some signal => (⟨Function.update s.1.allSignals signalId none⟩,
      if signal.isDataSignal then s.2 ++ [signalId] else s.2)

/-- `ProducerSession::removeSignals`. -/
def removeSignals (signalIds : List String) (session : ProducerSession) :
    ProducerSession × List WriterCall :=
  let (session, dataSignalIds) :=
    signalIds.foldl (fun s signalId => remove signalId s) (session, [])
  (session, if dataSignalIds = [] then [] else [writeUnavailableMetaInformation dataSignalIds])

/-- `ProducerSession::subscribeSignals`. -/
def subscribeSignals (signalIds : List String) (session : ProducerSession) :
    ProducerSession × List WriterCall :=
  (session, (session.known signalIds).flatMap ProducerSignal.subscribe)

/-- `ProducerSession::unsubscribeSignals`. -/
def unsubscribeSignals (signalIds : List String) (session : ProducerSession) :
    ProducerSession × List WriterCall :=
  (session, (session.known signalIds).map ProducerSignal.unsubscribe)

/-- A call of a session. -/
def call (session : ProducerSession) : SessionCall → ProducerSession × List WriterCall
  | .addSignal signal => session.addSignal signal
  | .addSignals signals => session.addSignals signals
  | .removeSignal signalId => session.removeSignals [signalId]
  | .removeSignals signalIds => session.removeSignals signalIds
  | .subscribeSignals signalIds => session.subscribeSignals signalIds
  | .unsubscribeSignals signalIds => session.unsubscribeSignals signalIds

/-- What a session and its signals write during calls. -/
def written (session : ProducerSession) : List SessionCall → List WriterCall
  | [] => []
  | sc :: calls => (session.call sc).2 ++ (session.call sc).1.written calls

/-- The calls of signals that a session makes. -/
def signalCalls (session : ProducerSession) : SessionCall → List SignalCall
  | .subscribeSignals signalIds => (session.known signalIds).map .subscribe
  | .unsubscribeSignals signalIds => (session.known signalIds).map .unsubscribe
  | _ => []

/-- The calls of signals during calls of a session. -/
def allSignalCalls (session : ProducerSession) : List SessionCall → List SignalCall
  | [] => []
  | sc :: calls => session.signalCalls sc ++ (session.call sc).1.allSignalCalls calls

end ProducerSession

/-- Meta information that belongs to a signal; the number 0 stands for the stream. -/
def WriterCall.isSignalRelated : WriterCall → Bool
  | writeMetaInformation n _ => n ≠ 0
  | writeSignalData n _ => n ≠ 0

namespace SignalCall

/-- The signal that is called. -/
def signal : SignalCall → ProducerSignal
  | subscribe p => p
  | unsubscribe p => p

/-- What a signal writes. -/
def written : SignalCall → List WriterCall
  | subscribe p => p.subscribe
  | unsubscribe p => [p.unsubscribe]

/-- The messages of a signal for a consumer. -/
def messages (call : SignalCall) : List Input := call.written.map WriterCall.input

/-- The numbers of the signals that are subscribed after a call. -/
def record (S : Finset SignalNumber) : SignalCall → Finset SignalNumber
  | subscribe p => insert p.number.toNat S
  | unsubscribe p => S.erase p.number.toNat

/-- A call fits to the numbers of the signals that are subscribed. Only a signal that is not
subscribed is subscribed, with a description that a new signal accepts, and only a signal that is
subscribed is unsubscribed. -/
def Fits (S : Finset SignalNumber) : SignalCall → Prop
  | subscribe p => p.number.toNat ∉ S ∧ p.Understandable
  | unsubscribe p => p.number.toNat ∈ S

end SignalCall

/-! ### What the consumer accepts -/

open SignalContainer ReachedBy

variable [JsonRuntime]

namespace SignalContainer

/-- A container knows the signals with certain numbers and no others. -/
structure Knows (c : SignalContainer) (S : Finset SignalNumber) : Prop where
  exists_signal : ∀ n ∈ S, ∃ s, c.subscribedSignals n = some (some s)
  others : ∀ n ∉ S, c.subscribedSignals n = none

omit [JsonRuntime] in
theorem knows_initial : Knows initial ∅ := ⟨nofun, fun _ _ => rfl⟩

variable {c : SignalContainer} {S : Finset SignalNumber} {p : ProducerSignal}

omit [JsonRuntime] in
theorem Knows.subscribedSignals_eq_none_iff (h : c.Knows S) {n : SignalNumber} :
    c.subscribedSignals n = none ↔ n ∉ S := by
  refine ⟨fun hnone hn => ?_, h.others n⟩
  obtain ⟨s, hs⟩ := h.exists_signal n hn
  cases hnone.symm.trans hs

omit [JsonRuntime] in
theorem Knows.setSignal (h : c.Knows S) (n : SignalNumber) (s : SubscribedSignal) :
    (c.setSignal n s).Knows (insert n S) := by
  refine ⟨fun k hk => ?_, fun k hk => ?_⟩
  · rw [subscribedSignals_setSignal]
    split_ifs with hkn
    · exact ⟨s, rfl⟩
    · exact h.exists_signal k (Finset.mem_of_mem_insert_of_ne hk hkn)
  · rw [Finset.mem_insert, not_or] at hk
    rw [subscribedSignals_setSignal, if_neg hk.1]
    exact h.others k hk.2

omit [JsonRuntime] in
theorem Knows.eraseSignal (h : c.Knows S) (n : SignalNumber) :
    (c.eraseSignal n).Knows (S.erase n) := by
  refine ⟨fun k hk => ?_, fun k hk => ?_⟩
  · obtain ⟨hkn, hk⟩ := Finset.mem_erase.mp hk
    rw [subscribedSignals_eraseSignal, if_neg hkn]
    exact h.exists_signal k hk
  · rw [subscribedSignals_eraseSignal]
    split_ifs with hkn
    · rfl
    · exact h.others k fun hmem => hk (Finset.mem_erase.mpr ⟨hkn, hmem⟩)

omit [JsonRuntime] in
theorem Knows.congr {c' : SignalContainer} (h : c.Knows S)
    (hsame : c'.subscribedSignals = c.subscribedSignals) : c'.Knows S :=
  ⟨fun n hn => hsame ▸ h.exists_signal n hn, fun n hn => hsame ▸ h.others n hn⟩

/-- The description of a signal is accepted after the acknowledgement if it is understandable. -/
theorem succeeds_description_iff
    (hs : c.subscribedSignals p.number.toNat = some (some p.fresh)) :
    c.Succeeds (.metaInformation p.number.toNat p.announcement.description) ↔
      p.Understandable := by
  constructor
  · intro h
    obtain ⟨s, s', hs', hprocess⟩ := h.describe p.method_description
    obtain rfl : p.fresh = s := Option.some.inj (Option.some.inj (hs.symm.trans hs'))
    rw [ProducerSignal.params_description] at hprocess
    exact ProducerSignal.acceptable_iff.mp (p.said.processSignal_eq_normal_iff.mp hprocess).1
  · intro h
    exact ⟨0, le_rfl, congrArg Call.outcome (ProducerSignal.process_description h hs)⟩

/-- The messages of a subscription are accepted for a signal that is not subscribed, with a
description that a new signal accepts. -/
theorem Knows.accepts_subscribe_iff (h : c.Knows S) :
    AllowedAlong next Succeeds c (SignalCall.subscribe p).messages ↔
      (SignalCall.subscribe p).Fits S := by
  show c.Succeeds _ ∧ (c.next _).Succeeds _ ∧ True ↔ _
  rw [and_true]
  by_cases hn : p.number.toNat ∈ S
  · refine iff_of_false (fun hsucceeds => ?_) fun hfits => hfits.1 hn
    exact h.subscribedSignals_eq_none_iff.mp (hsucceeds.1.subscribe rfl) hn
  · have hcall := ProducerSignal.process_acknowledgement (h.others _ hn)
    have hnext : c.next (.metaInformation p.number.toNat p.announcement.acknowledgement) =
        c.setSignal p.number.toNat p.fresh := by rw [next, hcall]
    refine and_congr (iff_of_true ⟨0, le_rfl, congrArg Call.outcome hcall⟩ hn) ?_
    show (c.next (.metaInformation p.number.toNat p.announcement.acknowledgement)).Succeeds _ ↔ _
    rw [hnext]
    exact succeeds_description_iff (subscribedSignals_setSignal_self _ _ _)

/-- After the messages of a subscription the signal is known. -/
theorem Knows.subscribe (h : c.Knows S) (hfits : (SignalCall.subscribe p).Fits S) :
    ((SignalCall.subscribe p).messages.foldl next c).Knows
      ((SignalCall.subscribe p).record S) := by
  have hstate : (SignalCall.subscribe p).messages.foldl next c = _ :=
    ProducerSignal.foldl_subscribe hfits.2 (h.others _ hfits.1)
  rw [hstate]
  exact (h.setSignal p.number.toNat (p.content.laidOver p.fresh)).congr rfl

/-- The message of an unsubscription is accepted for a signal that is subscribed, which is not
known afterwards. -/
theorem Knows.accepts_unsubscribe_iff (h : c.Knows S) :
    AllowedAlong next Succeeds c (SignalCall.unsubscribe p).messages ↔
      (SignalCall.unsubscribe p).Fits S := by
  show c.Succeeds _ ∧ True ↔ _
  rw [and_true]
  constructor
  · intro hsucceeds
    obtain ⟨s, hs⟩ := hsucceeds.unsubscribe rfl
    by_contra hn
    cases (h.others _ hn).symm.trans hs
  · intro hn
    obtain ⟨s, hs⟩ := h.exists_signal _ hn
    exact ⟨0, le_rfl, congrArg Call.outcome (processMetaInformation_unsubscribe rfl hs)⟩

theorem Knows.unsubscribe (h : c.Knows S) (hfits : (SignalCall.unsubscribe p).Fits S) :
    ((SignalCall.unsubscribe p).messages.foldl next c).Knows
      ((SignalCall.unsubscribe p).record S) := by
  obtain ⟨s, hs⟩ := h.exists_signal _ hfits
  have hcall := processMetaInformation_unsubscribe
    (rfl : MetaInformation.method ⟨metainformationMsgpack, BaseSignal.unsubscribeDocument⟩ = _) hs
  have hstate : (SignalCall.unsubscribe p).messages.foldl next c =
      (c.unregister p.number.toNat s).eraseSignal p.number.toNat := congrArg Call.state hcall
  rw [hstate]
  exact (h.congr (subscribedSignals_unregister _ _ _)).eraseSignal p.number.toNat

/-- **Messages of signals.** All messages are accepted if and only if each call of a signal fits to
the signals that are subscribed when it is made. -/
theorem Knows.accepts_messages_iff (h : c.Knows S) (calls : List SignalCall) :
    AllowedAlong next Succeeds c (calls.flatMap SignalCall.messages) ↔
      AllowedAlong (fun S call => call.record S) (fun S call => call.Fits S) S calls := by
  induction calls generalizing c S with
  | nil => exact Iff.rfl
  | cons call calls ih =>
    rw [List.flatMap_cons, allowedAlong_append, AllowedAlong]
    cases call with
    | subscribe p =>
      rw [h.accepts_subscribe_iff]
      exact and_congr_right fun hfits => ih (h.subscribe hfits)
    | unsubscribe p =>
      rw [h.accepts_unsubscribe_iff]
      exact and_congr_right fun hfits => ih (h.unsubscribe hfits)

end SignalContainer

namespace ProducerSession

omit [JsonRuntime] in
/-- Whatever a signal writes belongs to a signal. -/
theorem filter_flatMap_written (calls : List SignalCall) :
    (calls.flatMap SignalCall.written).filter WriterCall.isSignalRelated =
      calls.flatMap SignalCall.written := by
  have hnumber (p : ProducerSignal) : decide (p.number ≠ 0) = true :=
    decide_eq_true p.base.signalNumber_ne_zero
  rw [List.filter_eq_self]
  intro w hw
  obtain ⟨call, -, hw⟩ := List.mem_flatMap.mp hw
  cases call with
  | subscribe p =>
    rcases List.mem_cons.mp hw with rfl | hw
    · exact hnumber p
    · obtain rfl := List.mem_singleton.mp hw
      exact hnumber p
  | unsubscribe p =>
    obtain rfl := List.mem_singleton.mp hw
    exact hnumber p

omit [JsonRuntime] in
theorem written_subscribeSignals (session : ProducerSession) (ids : List String) :
    (session.call (.subscribeSignals ids)).2 =
      (session.signalCalls (.subscribeSignals ids)).flatMap SignalCall.written := by
  show (session.known ids).flatMap _ = ((session.known ids).map _).flatMap _
  rw [List.flatMap_map]
  rfl

omit [JsonRuntime] in
theorem written_unsubscribeSignals (session : ProducerSession) (ids : List String) :
    (session.call (.unsubscribeSignals ids)).2 =
      (session.signalCalls (.unsubscribeSignals ids)).flatMap SignalCall.written := by
  show (session.known ids).map _ = ((session.known ids).map _).flatMap _
  rw [List.flatMap_map, List.map_eq_flatMap]
  rfl

omit [JsonRuntime] in
/-- What belongs to signals is written by the calls of signals. -/
theorem filter_call (session : ProducerSession) (sc : SessionCall) :
    (session.call sc).2.filter WriterCall.isSignalRelated =
      (session.signalCalls sc).flatMap SignalCall.written := by
  cases sc with
  | addSignal p =>
    show List.filter _ (if _ then _ else _) = []
    split_ifs <;> rfl
  | addSignals ps =>
    show List.filter _ (if _ then _ else _) = []
    split_ifs <;> rfl
  | removeSignal id =>
    show List.filter _ (if _ then _ else _) = []
    split_ifs <;> rfl
  | removeSignals ids =>
    show List.filter _ (if _ then _ else _) = []
    split_ifs <;> rfl
  | subscribeSignals ids => rw [written_subscribeSignals, filter_flatMap_written]
  | unsubscribeSignals ids => rw [written_unsubscribeSignals, filter_flatMap_written]

omit [JsonRuntime] in
/-- What belongs to signals during calls. -/
theorem filter_written (session : ProducerSession) (calls : List SessionCall) :
    (session.written calls).filter WriterCall.isSignalRelated =
      (session.allSignalCalls calls).flatMap SignalCall.written := by
  induction calls generalizing session with
  | nil => rfl
  | cons sc calls ih =>
    rw [written, allSignalCalls, List.filter_append, List.flatMap_append, filter_call, ih]

omit [JsonRuntime] in
/-- The messages for the container of a consumer. -/
theorem map_input_written (session : ProducerSession) (calls : List SessionCall) :
    ((session.written calls).filter WriterCall.isSignalRelated).map WriterCall.input =
      (session.allSignalCalls calls).flatMap SignalCall.messages := by
  rw [filter_written, List.map_flatMap]
  rfl

/-- A signal of single precision numbers. -/
def addedSignal : ProducerSignal :=
  .synchronous { signalNumber := 1, signalId := "id", tableId := "table", dataType := .real32 }

end ProducerSession

end StreamingProtocol
