import StreamingProtocol.Foundation.Runs
import StreamingProtocol.Session.ReadableMetaInformation

/-!
# Meta information of an unknown type

A block of meta information whose type is not understood is reported as interpreted, and the
handler goes on with the document of an earlier block. For a signal, the earlier document is
processed once more, now for the number of the new block. For the stream it is processed before the
type is looked at; this changes nothing if the document was processed for the stream before.

## Main definitions

* `SignalContainer.NoEffect`: a document that a container ignores.
* `ProtocolHandler.Session`: a handler and where its document came from.

## Main results

* `StreamMeta.processMetaInformation_idempotent`.
* `ProtocolHandler.ignored_of_reached`.
-/

namespace StreamingProtocol

open ByteString

variable [JsonRuntime]

/-! ### Processing a document for the stream once more -/

namespace StreamMeta

open Completion

omit [JsonRuntime] in
/-- The port of a command interface is kept, or it is read where none is known. -/
theorem processPort_cases {element : Json} {s s' : StreamMeta}
    (h : processPort element s = .normal s') :
    (s.httpControlPort ≠ "" ∧ s' = s) ∨
      (s.httpControlPort = "" ∧ ∃ port, s' = { s with httpControlPort := port } ∧
        ∀ t : StreamMeta, t.httpControlPort = "" →
          processPort element t = .normal { t with httpControlPort := port }) := by
  unfold processPort at h ⊢
  split_ifs at h with hport
  · obtain ⟨node, hnode, h⟩ := eval_eq_normal.mp h
    obtain ⟨port, hstring, h⟩ := eval_eq_normal.mp h
    cases h
    refine .inr ⟨hport, port, rfl, fun t ht => ?_⟩
    rw [if_pos ht, hnode, eval_ok, hstring, eval_ok]
  · cases h
    exact .inl ⟨hport, rfl⟩

/-- A command interface is passed over, or its path and its version overwrite what is known. -/
theorem processCommandInterface_cases {element : Json} {s s' : StreamMeta}
    (h : processCommandInterface element s = .normal s') :
    (s' = s ∧ ∀ t, processCommandInterface element t = .normal t) ∨
      ∃ path version,
        processPort element { s with httpControlPath := path, httpVersion := version } =
          .normal s' ∧
        ∀ t : StreamMeta, processCommandInterface element t =
          processPort element { t with httpControlPath := path, httpVersion := version } := by
  unfold processCommandInterface at h ⊢
  obtain ⟨text, htext, h⟩ := eval_eq_normal.mp h
  obtain ⟨node, hnode, h⟩ := eval_eq_normal.mp h
  obtain ⟨httpMethod, hmethod, h⟩ := eval_eq_normal.mp h
  simp only [htext, hnode, hmethod, eval_ok]
  split_ifs at h with hpost
  · unfold processPost at h ⊢
    obtain ⟨node, hnode, h⟩ := eval_eq_normal.mp h
    obtain ⟨path, hpath, h⟩ := eval_eq_normal.mp h
    obtain ⟨node', hnode', h⟩ := eval_eq_normal.mp h
    obtain ⟨httpVersion, hversion, h⟩ := eval_eq_normal.mp h
    obtain ⟨x, hx, h⟩ := eval_eq_normal.mp h
    refine .inr ⟨path, x.toUInt32, h, fun t => ?_⟩
    simp only [hpost, if_true, hnode, hpath, hnode', hversion, hx, eval_ok]
  · cases h
    exact .inl ⟨rfl, fun t => if_neg hpost⟩

omit [JsonRuntime] in
/-- A port that is known is kept, and nothing else changes. -/
theorem processPort_keeps {element : Json} {s s' : StreamMeta}
    (h : processPort element s = .normal s') :
    s' = { s with httpControlPort := s'.httpControlPort } ∧
      (s.httpControlPort ≠ "" → s'.httpControlPort = s.httpControlPort) := by
  rcases processPort_cases h with ⟨hport, rfl⟩ | ⟨hport, port, rfl, -⟩
  · exact ⟨rfl, fun _ => rfl⟩
  · exact ⟨rfl, fun hne => absurd hport hne⟩

omit [JsonRuntime] in
/-- A port that is known, or that was read before as the empty text, is kept. -/
theorem processPort_again {element : Json} {s s' t : StreamMeta}
    (h : processPort element s = .normal s')
    (ht : t.httpControlPort = "" → s'.httpControlPort = "") :
    processPort element t = .normal t := by
  by_cases hempty : t.httpControlPort = ""
  · rcases processPort_cases h with ⟨hknown, rfl⟩ | ⟨-, port, rfl, hread⟩
    · exact absurd (ht hempty) hknown
    · obtain rfl : port = "" := ht hempty
      rw [hread t hempty, ← hempty]
  · exact if_neg hempty

/-- Command interfaces keep the version, the id and a port that is known. -/
theorem processCommandInterfaces_keeps (elements : List Json) {s s' : StreamMeta}
    (h : sequence (elements.map processCommandInterface) s = .normal s') :
    s'.apiVersion = s.apiVersion ∧ s'.streamId = s.streamId ∧
      (s.httpControlPort ≠ "" → s'.httpControlPort = s.httpControlPort) := by
  induction elements generalizing s with
  | nil =>
    obtain rfl := Completion.normal.inj h
    exact ⟨rfl, rfl, fun _ => rfl⟩
  | cons element elements ih =>
    obtain ⟨s₁, hfirst, hrest⟩ := andThen_eq_normal.mp h
    obtain ⟨hversion, hid, hport⟩ := ih hrest
    rcases processCommandInterface_cases hfirst with ⟨rfl, -⟩ | ⟨path, version, hused, -⟩
    · exact ⟨hversion, hid, hport⟩
    · obtain ⟨hs₁, hkeeps⟩ := processPort_keeps hused
      rw [hs₁] at hversion hid
      refine ⟨hversion, hid, fun hne => ?_⟩
      have hfirstPort : s₁.httpControlPort = s.httpControlPort := hkeeps hne
      rw [hport (hfirstPort ▸ hne), hfirstPort]

/-- Command interfaces that fall through do so from any state that knows their port. What they
leave behind depends on that state only if none of them is used. -/
theorem processCommandInterfaces_again (elements : List Json) {s s' t : StreamMeta}
    (h : sequence (elements.map processCommandInterface) s = .normal s')
    (hversion : t.apiVersion = s.apiVersion) (hid : t.streamId = s.streamId)
    (hport : t.httpControlPort = s'.httpControlPort) :
    ∃ t', sequence (elements.map processCommandInterface) t = .normal t' ∧
      (t' = s' ∨ t' = t ∧ s' = s) := by
  induction elements generalizing s t with
  | nil => exact ⟨t, rfl, .inr ⟨rfl, (Completion.normal.inj h).symm⟩⟩
  | cons element elements ih =>
    obtain ⟨s₁, hfirst, hrest⟩ := andThen_eq_normal.mp h
    rw [List.map_cons, sequence_cons]
    rcases processCommandInterface_cases hfirst with ⟨rfl, hpassed⟩ | ⟨path, version, hused, hagain⟩
    · rw [hpassed, normal_andThen]
      exact ih hrest hversion hid hport
    · obtain ⟨hs₁, -⟩ := processPort_keeps hused
      have hkept := (processCommandInterfaces_keeps elements hrest).2.2
      have ht : processCommandInterface element t =
          .normal { t with httpControlPath := path, httpVersion := version } := by
        rw [hagain]
        refine processPort_again hused fun hempty => ?_
        by_contra hknown
        exact hknown ((hkept hknown).symm.trans (hport.symm.trans hempty))
      rw [ht, normal_andThen]
      obtain ⟨t', ht', h | ⟨h, h'⟩⟩ := ih hrest (t := { t with
          httpControlPath := path, httpVersion := version })
        (by rw [hs₁]; exact hversion) (by rw [hs₁]; exact hid) hport
      · exact ⟨t', ht', .inl h⟩
      · refine ⟨t', ht', .inl ?_⟩
        rw [h, h', hs₁]
        ext <;> simp [hversion, hid, hport, h']

/-- A document that was processed for the stream is processed once more without a change. -/
theorem processMetaInformation_again {m : MetaInformation} {s s' : StreamMeta}
    (h : processMetaInformation m s = .normal s') : processMetaInformation m s' = .normal s' := by
  unfold processMetaInformation at h ⊢
  obtain ⟨method, hmethod, h⟩ := eval_eq_normal.mp h
  rw [hmethod, eval_ok]
  split_ifs at h ⊢
  · unfold processApiVersion at h ⊢
    cases hnode : m.params.find? version with
    | none =>
      rw [hnode] at h
      cases h
    | some node =>
      simp only [hnode] at h ⊢
      obtain ⟨apiVersion, hstring, h⟩ := eval_eq_normal.mp h
      obtain ⟨tokens, htokens, h⟩ := eval_eq_normal.mp h
      rw [hstring, eval_ok, htokens, eval_ok]
      split at h
      · split_ifs at h with hold
        cases h
        exact if_neg hold
      · cases h
  · unfold processInit at h ⊢
    obtain ⟨streamId, hstreamId, h⟩ := eval_eq_normal.mp h
    rw [hstreamId, eval_ok]
    cases hnode : m.params.find? "commandInterfaces" with
    | none =>
      simp only [hnode] at h ⊢
      cases h
      rfl
    | some interfaces =>
      simp only [hnode] at h ⊢
      obtain ⟨hversion, hid, -⟩ := processCommandInterfaces_keeps interfaces.elements h
      obtain ⟨t', ht', rfl | ⟨rfl, -⟩⟩ :=
        processCommandInterfaces_again interfaces.elements h hversion hid rfl
      all_goals
        obtain rfl : _ = streamId := hid
        exact ht'
  · unfold processAlive at h ⊢
    cases hnode : m.params.find? metaFilllevel with
    | none => rfl
    | some node =>
      simp only [hnode] at h ⊢
      obtain ⟨level, hlevel, -⟩ := eval_eq_normal.mp h
      rw [hlevel, eval_ok]
  · rfl
  · obtain ⟨text, htext, -⟩ := eval_eq_normal.mp h
    rw [htext, eval_ok]

/-- A document that is neither a version nor an initialization is read and not stored. -/
theorem state_processMetaInformation_other {m : MetaInformation} (s : StreamMeta)
    (h : ∀ method, m.method = .ok method →
      method ≠ metaMethodApiversion ∧ method ≠ metaMethodInit) :
    (processMetaInformation m s).state = s := by
  unfold processMetaInformation processAlive
  cases hmethod : m.method with
  | error why => rfl
  | ok method =>
    obtain ⟨hversion, hinit⟩ := h method hmethod
    rw [eval_ok, if_neg hversion, if_neg hinit]
    split_ifs
    · cases m.params.find? metaFilllevel with
      | none => rfl
      | some node =>
        dsimp only
        cases node.getUInt32 <;> rfl
    · rfl
    · cases m.jsonContent.text <;> rfl

end StreamMeta

/-! ### Documents that a container ignores -/

namespace SignalContainer

/-- A document has no effect on a container. The method cannot be read; or it acknowledges a
subscription without a signal id or of a number that is known; or the number is not subscribed; or
the document is a description that is refused, and restates before what the signal has. -/
def NoEffect (c : SignalContainer) (n : SignalNumber) (m : MetaInformation) : Prop :=
  ∀ method, m.method = .ok method →
    if method = metaMethodSubscribe then
      c.subscribedSignals n = none → m.params.find? metaSignalid = none
    else
      ∀ s, c.subscribedSignals n = some (some s) → method = metaMethodSignal ∧
        described.findSome? (Member.verdict m.params s) ≠ none ∧
        UpToStop (fun i => Member.verdict m.params s i ≠ none) (Member.Restates m.params s)
          described

/-- Meta information without an effect changes nothing and reports nothing. -/
theorem processMetaInformation_noEffect {c : SignalContainer} {n : SignalNumber}
    {m : MetaInformation} (h : c.NoEffect n m) :
    (c.processMetaInformation n m).state = c ∧ (c.processMetaInformation n m).callbacks = [] := by
  have hstep := metaStep_processMetaInformation c n m
  generalize c.processMetaInformation n m = call at hstep
  cases hstep with
  | refused why hwhy => exact ⟨rfl, rfl⟩
  | unsubscribed s hs hmethod =>
    have hsignal := h _ hmethod
    rw [if_neg (by decide)] at hsignal
    exact absurd (hsignal s hs).1 (by decide)
  | subscribed id hfresh hmethod hid =>
    have hnone := h _ hmethod
    rw [if_pos rfl] at hnone
    exact absurd (hnone hfresh) hid
  | subscribeRefused hfresh hmethod hid =>
    have hnone := h _ hmethod
    rw [if_pos rfl] at hnone
    exact absurd (hnone hfresh) hid
  | described s s' hs hmethod hdescribed =>
    have hsignal := h _ hmethod
    rw [if_neg (by decide)] at hsignal
    have hrefused := (hsignal s hs).2.1
    rw [← SubscribedSignal.why?_processSignal_eq_verdict, hdescribed] at hrefused
    exact absurd rfl hrefused
  | descriptionRefused s s' why hs hmethod hrefused =>
    have hsignal := h _ hmethod
    rw [if_neg (by decide)] at hsignal
    have hrestates := (hsignal s hs).2.2
    rw [← SubscribedSignal.state_processSignal_eq_iff_restates, hrefused] at hrestates
    obtain rfl : s' = s := hrestates
    exact ⟨setSignal_eq_self hs, rfl⟩
  | other s method hs hmethod hunsubscribe hsubscribe hsignal =>
    have hother := h _ hmethod
    rw [if_neg hsubscribe] at hother
    exact absurd (hother s hs).1 hsignal

/-- Meta information that changes nothing and reports nothing has no effect. -/
theorem noEffect_of_processMetaInformation {c : SignalContainer} {n : SignalNumber}
    {m : MetaInformation} (hstate : (c.processMetaInformation n m).state = c)
    (hcallbacks : (c.processMetaInformation n m).callbacks = []) : c.NoEffect n m := by
  intro method hmethod
  split_ifs with hsubscribe
  · subst hsubscribe
    intro hfresh
    by_contra hid
    obtain ⟨node, hnode⟩ := Option.ne_none_iff_exists'.mp hid
    unfold processMetaInformation at hstate hcallbacks
    simp only [hmethod, metaMethodSubscribe_ne_unsubscribe, hnode, hfresh, if_true, if_false,
      processSignalMetaInformation_subscribe] at hstate hcallbacks
    rcases SubscribedSignal.processSubscribe_cases m.params { signalNumber := n } with ⟨id, h⟩ | h
    · rw [h] at hcallbacks
      cases hcallbacks
    · rw [h] at hstate
      simp only [setSignal_setSignal] at hstate
      exact setSignal_ne_self _ hfresh hstate
  · intro s hs
    by_cases hsignal : method = metaMethodSignal
    · subst hsignal
      rw [processMetaInformation_signal hmethod hs, processSignalMetaInformation_signal]
        at hstate hcallbacks
      refine ⟨rfl, ?_, ?_⟩
      · rw [← SubscribedSignal.why?_processSignal_eq_verdict]
        cases hdescribed : s.processSignal m.params with
        | normal s' =>
          rw [hdescribed] at hcallbacks
          cases hcallbacks
        | abrupt why s' => exact Option.some_ne_none why
      · rw [← SubscribedSignal.state_processSignal_eq_iff_restates]
        cases hdescribed : s.processSignal m.params with
        | normal s' =>
          rw [hdescribed] at hcallbacks
          cases hcallbacks
        | abrupt why s' =>
          rw [hdescribed] at hstate
          exact (setSignal_eq_self_iff hs s').mp hstate
    · unfold processMetaInformation at hcallbacks
      simp only [hmethod, hsubscribe, hs, if_false,
        processSignalMetaInformation_other _ _ hsubscribe hsignal] at hcallbacks
      split_ifs at hcallbacks

end SignalContainer

namespace ProtocolHandler

variable [Msgpack]

/-! ### Where a document came from -/

/-- The type word of a payload. -/
def typeWord? (data : Bytes) : Option UInt32 := (read? data 0 4).map wordOfBytes

/-- A handler, and the signal number of the block that its document came with. The number is 0
before the first document. -/
structure Session where
  handler : ProtocolHandler := {}
  origin : UInt32 := 0

/-- The session after a block. -/
def Session.step (σ : Session) (b : Block) : Session where
  handler := (σ.handler.onPayload b).state
  origin := if b.type = TransportType.metaInformation.code ∧
    typeWord? b.payload = some metainformationMsgpack then b.signalNumber else σ.origin

/-- The sessions reached by blocks after each of which the next header is requested. -/
def Session.Reached : Session → Prop :=
  ReachedBy Session.step (fun σ b => (σ.handler.onPayload b).reaction = .nextHeader) {}

/-- A block of meta information whose type is not understood. -/
structure IsUnknown (b : Block) : Prop where
  type : b.type = TransportType.metaInformation.code
  length : 4 ≤ b.payload.length
  unknown : typeWord? b.payload ≠ some metainformationMsgpack

/-- The document of a session is not processed for another receiver with an effect. For a signal it
has no effect; for the stream, it was processed for the stream before, or it is neither a version
nor an initialization. -/
def Session.Harmless (σ : Session) (b : Block) : Prop :=
  if b.signalNumber = 0 then
    σ.origin = 0 ∨ ∀ method, σ.handler.metaInformation.method = .ok method →
      method ≠ metaMethodApiversion ∧ method ≠ metaMethodInit
  else σ.handler.signalContainer.NoEffect b.signalNumber.toNat σ.handler.metaInformation

/-- A block leaves the stream information, the signals and the tables alone and reports nothing of a
signal. -/
def Ignores (h : ProtocolHandler) (b : Block) : Prop :=
  (h.onPayload b).state.streamMeta = h.streamMeta ∧
    (h.onPayload b).state.signalContainer = h.signalContainer ∧ (h.onPayload b).callbacks = []

/-! ### The stored document -/

omit [JsonRuntime] in
/-- A type that is not understood is stored, and the document stays. -/
theorem interpret_unknown {b : Block} (hb : IsUnknown b) (m : MetaInformation) :
    ∃ type ≠ metainformationMsgpack,
      m.interpret b.payload = .normal { m with metaInformationType := type } := by
  obtain ⟨word, hword⟩ := MetaInformation.read?_type.mpr hb.length
  have hunknown : wordOfBytes word ≠ metainformationMsgpack := by
    intro h
    apply hb.unknown
    rw [typeWord?, hword, ← h]
    rfl
  refine ⟨wordOfBytes word, hunknown, ?_⟩
  unfold MetaInformation.interpret
  rw [hword]
  exact if_neg hunknown

omit [Msgpack] in
/-- Meta information about the stream is kept, whatever the reaction is. -/
theorem onStreamMeta_keeps (h : ProtocolHandler) :
    h.onStreamMeta.state = { h with
      streamMeta := (h.streamMeta.processMetaInformation h.metaInformation).state } ∧
    h.onStreamMeta.callbacks = [] := by
  unfold onStreamMeta
  cases h.streamMeta.processMetaInformation h.metaInformation with
  | abrupt why s => exact ⟨rfl, rfl⟩
  | normal s =>
    dsimp only
    split_ifs
    · exact ⟨rfl, rfl⟩
    · cases h.metaInformation.method <;> exact ⟨rfl, rfl⟩

omit [Msgpack] in
/-- The session goes on if the document is processed to its end. -/
theorem onStreamMeta_eq_nextHeader {h : ProtocolHandler}
    (hnext : h.onStreamMeta.reaction = .nextHeader) :
    ∃ s, h.streamMeta.processMetaInformation h.metaInformation = .normal s ∧
      h.onStreamMeta.state = { h with streamMeta := s } := by
  rw [h.onStreamMeta_keeps.1]
  have hends := StreamMeta.ends_processMetaInformation h.metaInformation h.streamMeta
  unfold onStreamMeta at hnext
  cases hprocessed : h.streamMeta.processMetaInformation h.metaInformation with
  | abrupt why s =>
    rw [hprocessed] at hnext hends
    rcases hends why rfl with rfl | ⟨e, rfl⟩ | rfl <;> cases hnext
  | normal s => exact ⟨s, rfl, rfl⟩

/-- If the document of a session came with a block for the stream, it is processed for the stream
once more without a change. -/
def Session.Known (σ : Session) : Prop :=
  σ.origin = 0 →
    (σ.handler.streamMeta.processMetaInformation σ.handler.metaInformation).state =
      σ.handler.streamMeta

omit [Msgpack] in
theorem known_initial : Session.Known {} := fun _ =>
  StreamMeta.state_processMetaInformation_other _ fun method hmethod => by
    cases hmethod
    decide

theorem onPayload_meta (h : ProtocolHandler) {b : Block}
    (hb : b.type = TransportType.metaInformation.code) :
    h.onPayload b = h.onMetaInformation b.signalNumber.toNat b.payload := by
  have htype : TransportType.metaInformation.code ≠ TransportType.signalData.code := by decide
  unfold onPayload
  rw [hb, if_neg htype, if_pos rfl]

theorem Session.Known.step {σ : Session} (h : σ.Known) (b : Block)
    (hnext : (σ.handler.onPayload b).reaction = .nextHeader) : (σ.step b).Known := by
  unfold Session.step Session.Known
  dsimp only
  by_cases hmeta : b.type = TransportType.metaInformation.code
  · rw [onPayload_meta _ hmeta] at hnext ⊢
    unfold onMetaInformation at hnext ⊢
    cases hinterpret : σ.handler.metaInformation.interpret b.payload with
    | abrupt why m =>
      rw [hinterpret] at hnext
      rcases MetaInformation.interpret_eq_abrupt hinterpret with ⟨-, rfl⟩ | ⟨-, rfl⟩ <;> cases hnext
    | normal m =>
      rw [hinterpret] at hnext
      dsimp only at hnext ⊢
      by_cases hzero : b.signalNumber.toNat = 0
      · rw [if_pos hzero] at hnext ⊢
        obtain ⟨s, hprocessed, hstate⟩ := onStreamMeta_eq_nextHeader hnext
        rw [hstate]
        exact fun _ =>
          congrArg Completion.state (StreamMeta.processMetaInformation_again hprocessed)
      rw [if_neg hzero]
      split_ifs with hread
      · intro horigin
        rw [horigin] at hzero
        exact absurd rfl hzero
      · -- the document is that of an earlier block
        intro horigin
        have hb : IsUnknown b := ⟨hmeta, MetaInformation.length_of_interpret hinterpret,
          fun hword => hread ⟨hmeta, hword⟩⟩
        obtain ⟨type, -, hunknown⟩ := interpret_unknown hb σ.handler.metaInformation
        obtain rfl := Completion.normal.inj (hinterpret.symm.trans hunknown)
        exact h horigin
  · intro horigin
    rw [if_neg fun hread => hmeta hread.1] at horigin
    unfold onPayload at hnext ⊢
    split_ifs at hnext ⊢ with hdata
    · have hkept : (σ.handler.onSignalData b.signalNumber.toNat b.payload).state = { σ.handler with
          signalContainer :=
            (σ.handler.signalContainer.processMeasuredData b.signalNumber.toNat
              b.payload).state } := by
        unfold onSignalData
        dsimp only
        split <;> rfl
      rw [hkept]
      exact h horigin

theorem known_of_reached {σ : Session} (h : σ.Reached) : σ.Known :=
  h.invariant known_initial fun _ b hknown hnext => hknown.step b hnext

/-- **Meta information of an unknown type.** In every session that is reached, a block of an unknown
type is ignored if the document of the session is harmless for its receiver. For a signal, it is
ignored only then. -/
theorem ignored_of_reached {σ : Session} (hσ : σ.Reached) {b : Block} (hb : IsUnknown b) :
    (σ.Harmless b → Ignores σ.handler b) ∧
      (b.signalNumber ≠ 0 → Ignores σ.handler b → σ.Harmless b) := by
  obtain ⟨type, -, hunknown⟩ := interpret_unknown hb σ.handler.metaInformation
  unfold Session.Harmless Ignores
  rw [onPayload_meta _ hb.type]
  unfold onMetaInformation
  rw [hunknown]
  dsimp only
  by_cases hzero : b.signalNumber = 0
  · refine ⟨fun hharmless => ?_, fun hne => absurd hzero hne⟩
    rw [if_pos hzero] at hharmless
    rw [hzero, if_pos (by decide), (onStreamMeta_keeps _).1, (onStreamMeta_keeps _).2]
    refine ⟨?_, rfl, rfl⟩
    rcases hharmless with horigin | hother
    · exact known_of_reached hσ horigin
    · exact StreamMeta.state_processMetaInformation_other _ hother
  · have hne : b.signalNumber.toNat ≠ 0 := fun h => hzero (UInt32.toNat_inj.mp h)
    rw [if_neg hzero, if_neg hne]
    exact ⟨fun hharmless => ⟨rfl, SignalContainer.processMetaInformation_noEffect hharmless⟩,
      fun _ hignores =>
        SignalContainer.noEffect_of_processMetaInformation hignores.2.1 hignores.2.2⟩

/-! ### An acknowledgement that is processed once more -/

/-- The document `{"method": "subscribe", "params": {"signalId": "a"}}`. -/
def acknowledgementDocument : Bytes :=
  [0x82, 0xa6, 0x6d, 0x65, 0x74, 0x68, 0x6f, 0x64, 0xa9, 0x73, 0x75, 0x62, 0x73, 0x63, 0x72, 0x69,
    0x62, 0x65, 0xa6, 0x70, 0x61, 0x72, 0x61, 0x6d, 0x73, 0x81, 0xa8, 0x73, 0x69, 0x67, 0x6e, 0x61,
    0x6c, 0x49, 0x64, 0xa1, 0x61]

/-- MessagePack on this document. -/
@[reducible] def acknowledgementMsgpack : Msgpack := listedMsgpack
  [(acknowledgementDocument, (MetaInformation.acknowledgement (.string "a")).jsonContent)]

/-- The acknowledgement for the signal 1. -/
def acknowledged : Block :=
  ⟨TransportType.metaInformation.code, 1, [2, 0, 0, 0] ++ acknowledgementDocument⟩

/-- A block of the type 3, which is not understood. -/
def unknownBlock (n : UInt32) : Block := ⟨TransportType.metaInformation.code, n, [3, 0, 0, 0]⟩

omit [JsonRuntime] [Msgpack] in
theorem isUnknown_unknownBlock (n : UInt32) : IsUnknown (unknownBlock n) := by
  have hlength : 4 ≤ List.length [3, 0, 0, 0] := by decide
  have hword : typeWord? [3, 0, 0, 0] ≠ some metainformationMsgpack := by decide
  exact ⟨rfl, hlength, hword⟩

omit [JsonRuntime] [Msgpack] in
theorem reached_acknowledged :
    @Session.Reached decimalRuntime acknowledgementMsgpack
      (@Session.step decimalRuntime acknowledgementMsgpack {} acknowledged) := by
  let _ : JsonRuntime := decimalRuntime
  let _ : Msgpack := acknowledgementMsgpack
  refine ReachedBy.step acknowledged .init ?_
  decide +kernel

omit [JsonRuntime] [Msgpack] in
/-- After the acknowledgement for the signal 1, a block of an unknown type for this signal is
ignored. -/
theorem ignored_unknownBlock_one :
    @Ignores decimalRuntime acknowledgementMsgpack
      (@Session.step decimalRuntime acknowledgementMsgpack {} acknowledged).handler
      (unknownBlock 1) := by
  refine (@ignored_of_reached decimalRuntime acknowledgementMsgpack _ reached_acknowledged _
    (isUnknown_unknownBlock 1)).1 ?_
  have hknown : ((@Session.step decimalRuntime acknowledgementMsgpack {}
      acknowledged).handler.signalContainer.subscribedSignals 1).isSome := by decide +kernel
  intro method hmethod
  obtain rfl : metaMethodSubscribe = method := Except.ok.inj hmethod
  rw [if_pos rfl]
  intro hfresh
  rw [show (unknownBlock 1).signalNumber.toNat = 1 from rfl] at hfresh
  rw [hfresh] at hknown
  cases hknown

omit [JsonRuntime] [Msgpack] in
/-- After the acknowledgement for the signal 1, a block of an unknown type for the signal 2
subscribes this signal. -/
theorem not_ignored_unknownBlock_two :
    @Session.Reached decimalRuntime acknowledgementMsgpack
        (@Session.step decimalRuntime acknowledgementMsgpack {} acknowledged) ∧
      IsUnknown (unknownBlock 2) ∧
      ¬ @Ignores decimalRuntime acknowledgementMsgpack
        (@Session.step decimalRuntime acknowledgementMsgpack {} acknowledged).handler
        (unknownBlock 2) := by
  refine ⟨reached_acknowledged, isUnknown_unknownBlock 2, fun h => ?_⟩
  have hslot := congrArg (fun c => (c.subscribedSignals 2).isSome) h.2.1
  revert hslot
  decide +kernel

end ProtocolHandler

end StreamingProtocol
