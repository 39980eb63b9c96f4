import StreamingProtocol.Session.DataOutcomes
import StreamingProtocol.Session.ReadableMetaInformation

/-!
# Reads of a payload

The handler reads words from the beginning of a payload: the type of meta information, the time
stamp of a time signal with an explicit rule, and the index and the time stamp of a time signal with
another rule. Nothing compares the length of the payload, which the producer chooses, with what is
read. A read outside the payload has no defined behaviour.

## Main definitions

* `ProtocolHandler.HoldsWords`: the payload holds the words that are read from it.

## Main results

* `ProtocolHandler.readsInside_iff`.
-/

namespace StreamingProtocol

open ByteString

variable [JsonRuntime]

namespace SignalContainer

/-- Meta information for a signal is not read from a payload. -/
theorem outcome_processMetaInformation_ne_outOfBounds (c : SignalContainer) (n : SignalNumber)
    (m : MetaInformation) :
    (c.processMetaInformation n m).outcome ≠ .undefined .outOfBounds := by
  intro hbounds
  obtain hnull | ⟨s, s', hs, hrefused⟩ := processMetaInformation_undefined hbounds
  · cases hnull
  · rcases SubscribedSignal.processSignal_cases hrefused with h | h | h | ⟨h, -⟩ <;> cases h

end SignalContainer

namespace ProtocolHandler

variable [Msgpack]

/-- The payload of a block holds the words that are read from it. -/
def HoldsWords (h : ProtocolHandler) (b : Block) : Prop :=
  (b.type = TransportType.metaInformation.code → 4 ≤ b.payload.length) ∧
    (b.type = TransportType.signalData.code →
      h.signalContainer.LongEnough b.signalNumber.toNat b.payload)

omit [JsonRuntime] [Msgpack] in
theorem ofAbrupt_eq_undefined {why : Abrupt} {f : Fault} :
    Reaction.ofAbrupt why = .undefined f ↔ why = .undefined f := by
  unfold Reaction.ofAbrupt
  cases why with
  | ret code => dsimp only; split_ifs <;> simp
  | throw e => simp
  | undefined f' => simp

omit [JsonRuntime] [Msgpack] in
theorem reaction_onSignalData (h : ProtocolHandler) (n : SignalNumber) (data : Bytes) :
    (h.onSignalData n data).reaction = .undefined .outOfBounds ↔
      ¬ h.signalContainer.LongEnough n data := by
  rw [← SignalContainer.outcome_outOfBounds_iff]
  unfold onSignalData
  generalize h.signalContainer.processMeasuredData n data = call
  obtain ⟨outcome, c, callbacks⟩ := call
  cases outcome <;> simp [Reaction.ofAbrupt]

omit [Msgpack] in
theorem reaction_onStreamMeta_ne (h : ProtocolHandler) :
    h.onStreamMeta.reaction ≠ .undefined .outOfBounds := by
  have hends := StreamMeta.ends_processMetaInformation h.metaInformation h.streamMeta
  unfold onStreamMeta
  cases hprocessed : h.streamMeta.processMetaInformation h.metaInformation with
  | abrupt why s =>
    dsimp only
    rw [ne_eq, ofAbrupt_eq_undefined]
    rintro rfl
    rw [hprocessed] at hends
    rcases hends _ rfl with h | ⟨e, h⟩ | h <;> cases h
  | normal s =>
    dsimp only
    split_ifs
    · exact nofun
    · cases hmethod : h.metaInformation.method with
      | error why =>
        cases MetaInformation.method_eq_error hmethod
        exact nofun
      | ok method => exact nofun

/-- **Reads of a payload.** A block is read outside its payload if and only if the payload does not
hold the words that are read from it. -/
theorem readsInside_iff (h : ProtocolHandler) (b : Block) :
    (h.onPayload b).reaction ≠ .undefined .outOfBounds ↔ h.HoldsWords b := by
  have htype : TransportType.metaInformation.code ≠ TransportType.signalData.code := by decide
  unfold onPayload HoldsWords
  by_cases hdata : b.type = TransportType.signalData.code
  · rw [if_pos hdata, ne_eq, reaction_onSignalData, not_not, hdata]
    simp [htype.symm]
  · rw [if_neg hdata]
    by_cases hmeta : b.type = TransportType.metaInformation.code
    · simp only [hmeta, if_true, htype, forall_const, false_implies, and_true]
      unfold onMetaInformation
      cases hinterpret : h.metaInformation.interpret b.payload with
      | abrupt why m =>
        simp only [ne_eq, ofAbrupt_eq_undefined]
        rcases MetaInformation.interpret_eq_abrupt hinterpret with ⟨hshort, rfl⟩ | ⟨hlong, rfl⟩
        · simpa using hshort
        · simpa using hlong
      | normal m =>
        refine iff_of_true ?_ (MetaInformation.length_of_interpret hinterpret)
        dsimp only
        split_ifs
        · exact reaction_onStreamMeta_ne _
        · unfold onSignalMeta
          rw [ne_eq, ofAbrupt_eq_undefined]
          exact SignalContainer.outcome_processMetaInformation_ne_outOfBounds _ _ _
    · rw [if_neg hmeta]
      exact iff_of_true nofun ⟨fun h => absurd h hmeta, fun h => absurd h hdata⟩

omit [JsonRuntime] [Msgpack] in
/-- A block of meta information of one octet is read outside. -/
theorem readsOutside_oneOctet :
    (@onPayload decimalRuntime (listedMsgpack []) {}
      ⟨TransportType.metaInformation.code, 1, [2]⟩).reaction = .undefined .outOfBounds := by
  decide +kernel

end ProtocolHandler

end StreamingProtocol
