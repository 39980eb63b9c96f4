import StreamingProtocol.Session.ContainerSteps
import StreamingProtocol.Session.ProtocolHandler

/-!
# Meta information that can be read

A producer decides what a document holds, and the consumer reads it at the types that it needs. A
document in which a value has another type is refused where the source looks at the type first, or
where the exception of the JSON library is caught. The remaining reads let an exception escape from
`onPayload`, or have no defined behaviour where a member is missing that is taken for granted. The
blocks of meta information that are handled are those whose document passes all of these reads.

## Main definitions

* `SignalContainer.Readable`, `ProtocolHandler.MetaReadable`.

## Main results

* `ProtocolHandler.isHandled_iff`.
-/

namespace StreamingProtocol

open ByteString

variable [JsonRuntime]

/-- The first part of a description that is refused is refused by a return. It is not a value index
that is no number, which throws, and in the definition no member is missing that is taken for
granted. -/
def SubscribedSignal.DescriptionReadable (params : Json) (s : SubscribedSignal) : Prop :=
  ∀ why, described.findSome? (Member.verdict params s) = some why → why = .ret (-1)

namespace SignalContainer

/-- Meta information for a signal can be read: the method is a string, the signal id of an
acknowledgement for a known signal has a text, the pointer of a signal that is looked up is not
null, and a description can be read. -/
def Readable (c : SignalContainer) (n : SignalNumber) (m : MetaInformation) : Prop :=
  ∃ method, m.method = .ok method ∧
    if method = metaMethodSubscribe then
      c.subscribedSignals n ≠ none → ∀ node, m.params.find? metaSignalid = some node →
        ∃ text, node.text = .ok text
    else
      c.subscribedSignals n ≠ some none ∧ (method = metaMethodSignal →
        ∀ s, c.subscribedSignals n = some (some s) → s.DescriptionReadable m.params)

/-- A description that is processed returns if and only if it can be read. -/
theorem outcome_processSignal_iff (c : SignalContainer) (n : SignalNumber) (params : Json)
    (s : SubscribedSignal) :
    (∃ code, (c.processSignalMetaInformation n metaMethodSignal params s).outcome = .ret code) ↔
      s.DescriptionReadable params := by
  have hwhy := SubscribedSignal.why?_processSignal_eq_verdict params s
  rw [processSignalMetaInformation_signal, SubscribedSignal.DescriptionReadable, ← hwhy]
  cases h : s.processSignal params with
  | normal s' => exact iff_of_true ⟨0, rfl⟩ nofun
  | abrupt why s' =>
    rw [h] at hwhy
    simp only [Completion.why?_abrupt, Option.some.injEq, forall_eq']
    constructor
    · rintro ⟨code, rfl⟩
      rcases SubscribedSignal.processSignal_cases h with h | h | h | ⟨h, -⟩ <;> cases h
      rfl
    · rintro rfl
      exact ⟨-1, rfl⟩

/-- Meta information for a signal is processed to a return if and only if it can be read. -/
theorem outcome_processMetaInformation_iff (c : SignalContainer) (n : SignalNumber)
    (m : MetaInformation) :
    (∃ code, (c.processMetaInformation n m).outcome = .ret code) ↔ c.Readable n m := by
  unfold processMetaInformation Readable
  cases hmethod : m.method with
  | error why =>
    cases MetaInformation.method_eq_error hmethod
    refine iff_of_false ?_ ?_
    · rintro ⟨code, h⟩
      cases h
    · rintro ⟨method, h, -⟩
      cases h
  | ok method =>
    simp only [Except.ok.injEq, exists_eq_left']
    by_cases hsubscribe : method = metaMethodSubscribe
    · subst hsubscribe
      simp only [metaMethodSubscribe_ne_unsubscribe, if_true, if_false]
      cases hnode : m.params.find? metaSignalid with
      | none => exact iff_of_true ⟨-1, rfl⟩ fun _ node h => by cases h
      | some node =>
        cases hn : c.subscribedSignals n with
        | none =>
          refine iff_of_true ?_ fun h => absurd rfl h
          rw [processSignalMetaInformation_subscribe]
          rcases SubscribedSignal.processSubscribe_cases m.params { signalNumber := n } with
            ⟨id, h⟩ | h
          · rw [h]
            exact ⟨0, rfl⟩
          · rw [h]
            exact ⟨-1, rfl⟩
        | some p =>
          dsimp only
          cases htext : node.text with
          | error why =>
            cases Json.text_eq_error htext
            refine iff_of_false ?_ fun h => ?_
            · rintro ⟨code, h⟩
              cases h
            · obtain ⟨text, h⟩ := h (Option.some_ne_none p) node rfl
              rw [htext] at h
              cases h
          | ok text =>
            refine iff_of_true ⟨-1, rfl⟩ fun _ node' h => ?_
            cases h
            exact ⟨text, htext⟩
    · simp only [hsubscribe, if_false]
      rcases hn : c.subscribedSignals n with _ | _ | s
      · refine iff_of_true ⟨-1, ?_⟩ ⟨fun h => (by cases h), fun _ s h => by cases h⟩
        split_ifs <;> rfl
      · refine iff_of_false ?_ fun h => absurd rfl h.1
        rintro ⟨code, h⟩
        split_ifs at h
      · by_cases hsignal : method = metaMethodSignal
        · subst hsignal
          simp only [metaMethodSignal_ne_unsubscribe, if_false, outcome_processSignal_iff, ne_eq,
            Option.some.injEq, reduceCtorEq, not_false_eq_true, true_and, forall_const, forall_eq']
        · refine iff_of_true ⟨0, ?_⟩ ⟨fun h => (by cases h), fun h => absurd h hsignal⟩
          split_ifs <;> simp only [processSignalMetaInformation_other _ _ hsubscribe hsignal]

end SignalContainer

/-- The block is processed and the next header requested, or the session is closed. -/
def Reaction.isHandled (r : Reaction) : Prop := r = .nextHeader ∨ r = .closeSession

namespace ProtocolHandler

/-- The document that a block of meta information leaves to be processed can be read. -/
def MetaReadable [Msgpack] (h : ProtocolHandler) (n : SignalNumber) (data : Bytes) : Prop :=
  ∀ m, h.metaInformation.interpret data = .normal m →
    if n = 0 then h.streamMeta.Readable m else h.signalContainer.Readable n m

omit [JsonRuntime] in
theorem isHandled_ofAbrupt (why : Abrupt) :
    (Reaction.ofAbrupt why).isHandled ↔ ∃ code, why = .ret code := by
  unfold Reaction.isHandled Reaction.ofAbrupt
  cases why with
  | ret code =>
    refine iff_of_true ?_ ⟨code, rfl⟩
    dsimp only
    split_ifs
    · exact .inr rfl
    · exact .inl rfl
  | throw e => exact iff_of_false (by simp) (by simp)
  | undefined f => exact iff_of_false (by simp) (by simp)

theorem isHandled_onStreamMeta (h : ProtocolHandler) :
    h.onStreamMeta.reaction.isHandled ↔ h.streamMeta.Readable h.metaInformation := by
  rw [← StreamMeta.returns_iff]
  unfold onStreamMeta
  cases hprocessed : h.streamMeta.processMetaInformation h.metaInformation with
  | abrupt why s =>
    simp only [isHandled_ofAbrupt, Completion.Returns, Completion.Ends, Completion.why?_abrupt,
      Option.some.injEq, forall_eq']
  | normal s =>
    refine iff_of_true ?_ (Completion.returns_normal s)
    dsimp only
    split_ifs
    · exact .inr rfl
    · -- the method has been read before
      obtain ⟨method, hmethod⟩ : ∃ method, h.metaInformation.method = .ok method := by
        unfold StreamMeta.processMetaInformation at hprocessed
        cases hmethod : h.metaInformation.method with
        | error why =>
          rw [hmethod] at hprocessed
          cases hprocessed
        | ok method => exact ⟨method, rfl⟩
      rw [hmethod]
      exact .inl rfl

omit [JsonRuntime] in
/-- MessagePack on the documents of a list. -/
@[reducible] def listedMsgpack (documents : List (Bytes × Json)) : Msgpack where
  toMsgpack _ := []
  fromMsgpack data := documents.lookup data

end ProtocolHandler

end StreamingProtocol
