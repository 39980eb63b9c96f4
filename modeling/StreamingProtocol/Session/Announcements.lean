import StreamingProtocol.Presentation.AcceptedDescription
import StreamingProtocol.Session.ContainerRuns

/-!
# Announcements of signals

A producer announces a signal by two messages, the acknowledgement of its subscription and its
description. Both are accepted or not whatever else the container holds, so the announcements of
several signals may be interleaved.

## Main definitions

* `Announcement`, `Announcement.Accepted`: two messages that a new signal accepts.
* `Announcement.Stage`: how many of them have arrived.

## Main results

* `Announcement.Accepted.process_acknowledgement`, `Announcement.Accepted.process_description`.
-/

namespace StreamingProtocol

/-- The value index that a description announces, and the delta of its rule; 0 without one. -/
def announcedIndex [JsonRuntime] (params : Json) : UInt64 :=
  params.read Json.getUInt64 metaValueindex 0

def announcedDelta [JsonRuntime] (params : Json) : UInt64 :=
  (params.find? metaDefinition).elim 0 fun definition =>
    match SubscribedSignal.deltaNode definition with
    | none => 0
    | some node => match node.getUInt64 with
      | .ok x => x
      | .error _ => 0

/-- The messages that announce a signal. -/
structure Announcement where
  signalNumber : SignalNumber
  acknowledgement : MetaInformation
  description : MetaInformation

namespace Announcement

/-- How far an announcement has come. -/
inductive Stage where
  | unknown
  | subscribed
  | described
deriving DecidableEq

/-- The messages that are still to come. -/
def rest (a : Announcement) : Stage → List Input
  | .unknown => [.metaInformation a.signalNumber a.acknowledgement,
      .metaInformation a.signalNumber a.description]
  | .subscribed => [.metaInformation a.signalNumber a.description]
  | .described => []

/-- The messages of an announcement. -/
def messages (a : Announcement) : List Input := a.rest .unknown

variable [JsonRuntime]

/-- A new signal accepts the acknowledgement, which makes it `fresh`, and the description, which
makes it `signal`. -/
structure Accepted (a : Announcement) (fresh signal : SubscribedSignal) : Prop where
  acknowledges : a.acknowledgement.method = .ok metaMethodSubscribe
  subscribe : SubscribedSignal.processSubscribe a.acknowledgement.params
    { signalNumber := a.signalNumber } = .normal fresh
  describes : a.description.method = .ok metaMethodSignal
  describe : fresh.processSignal a.description.params = .normal signal

/-- What a container holds for the number of the signal. -/
def slot (fresh signal : SubscribedSignal) : Stage → Option (Option SubscribedSignal)
  | .unknown => none
  | .subscribed => some (some fresh)
  | .described => some (some signal)

variable {a : Announcement} {fresh signal : SubscribedSignal} {c : SignalContainer}

/-- The acknowledgement of a number that is not known subscribes the signal. -/
theorem Accepted.process_acknowledgement (ha : a.Accepted fresh signal)
    (hc : c.subscribedSignals a.signalNumber = none) :
    c.process (.metaInformation a.signalNumber a.acknowledgement) =
      ⟨.ret 0, c.setSignal a.signalNumber fresh,
        [.signalMeta fresh metaMethodSubscribe a.acknowledgement.params]⟩ :=
  SignalContainer.processMetaInformation_of_subscribe ha.acknowledges ha.subscribe hc

/-- The description of the subscribed signal registers it in its table. -/
theorem Accepted.process_description (ha : a.Accepted fresh signal)
    (hc : c.subscribedSignals a.signalNumber = some (some fresh)) :
    c.process (.metaInformation a.signalNumber a.description) =
      ⟨.ret 0, (c.setSignal a.signalNumber signal).register a.signalNumber signal,
        [.signalMeta signal metaMethodSignal a.description.params]⟩ :=
  SignalContainer.processMetaInformation_of_describe ha.describes hc ha.describe

/-- An acknowledgement sets the signal id of a new signal. -/
theorem Accepted.exists_fresh (ha : a.Accepted fresh signal) :
    ∃ id, fresh = { signalNumber := a.signalNumber, signalId := id } := by
  have hsubscribe := ha.subscribe
  rcases SubscribedSignal.processSubscribe_cases a.acknowledgement.params
    { signalNumber := a.signalNumber } with ⟨id, h⟩ | h
  · exact ⟨id, (Completion.normal.inj (h.symm.trans hsubscribe)).symm⟩
  · cases h.symm.trans hsubscribe

/-- The signal is what its description says of a new signal. -/
theorem Accepted.signal_eq (ha : a.Accepted fresh signal) :
    signal = fresh.describedBy a.description.params :=
  SubscribedSignal.processSignal_eq_normal ha.describe

/-- A new signal has no time. -/
theorem Accepted.time (ha : a.Accepted fresh signal) : signal.time = 0 := by
  obtain ⟨id, hfresh⟩ := ha.exists_fresh
  rw [ha.signal_eq, hfresh]
  unfold SubscribedSignal.describedBy
  cases a.description.params.find? metaDefinition <;> rfl

/-- The signal has the value index and the delta that its description announces. -/
theorem Accepted.announced (ha : a.Accepted fresh signal) :
    signal.linearValueIndex = announcedIndex a.description.params ∧
      signal.linearDelta = announcedDelta a.description.params := by
  obtain ⟨id, rfl⟩ := ha.exists_fresh
  rw [ha.signal_eq]
  unfold SubscribedSignal.describedBy announcedDelta
  cases a.description.params.find? metaDefinition with
  | none => exact ⟨rfl, rfl⟩
  | some definition =>
    refine ⟨rfl, ?_⟩
    show deltaInForce definition _ = _
    unfold deltaInForce
    cases hdelta : SubscribedSignal.deltaNode definition with
    | none => simp only [Option.elim_some, hdelta]
    | some node =>
      cases hread : node.getUInt64 <;> simp only [Option.elim_some, hdelta, hread]

/-- Messages are accepted by the signal that they describe. -/
theorem accepted_of_accepts (hacknowledges : a.acknowledgement.method = .ok metaMethodSubscribe)
    (hsubscribe : SubscribedSignal.processSubscribe a.acknowledgement.params
      { signalNumber := a.signalNumber } = .normal fresh)
    (hdescribes : a.description.method = .ok metaMethodSignal)
    (haccepts : fresh.Accepts a.description.params) :
    a.Accepted fresh (fresh.describedBy a.description.params) :=
  ⟨hacknowledges, hsubscribe, hdescribes,
    SubscribedSignal.processSignal_eq_normal_iff.mpr ⟨haccepts, rfl⟩⟩

end Announcement

end StreamingProtocol
