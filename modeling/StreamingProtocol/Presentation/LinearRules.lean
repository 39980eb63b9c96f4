import StreamingProtocol.Presentation.MeasuredData
import StreamingProtocol.Presentation.Refusal

/-!
# Deltas of linear rules

A linear rule is set only if there is a delta other than 0. The check stands where the rule is read,
and a delta is stored before and without it. So a description that has a delta of 0 and no rule
takes the delta from a signal whose rule is linear already, and one whose rule is refused does so,
too. Only a description that takes the linear rule away may have such a delta.

Payloads copy the delta of a time signal with a linear rule. They do no harm as long as descriptions
do none.

## Main definitions

* `SubscribedSignal.Usable`: a linear rule has a delta other than 0.
* `SubscribedSignal.KeepsDelta`: a description does not set the delta of a linear rule to 0.
* `SignalHistory`: a signal with the calls that it has got.

## Main results

* `SubscribedSignal.usable_processSignal_iff`: one description.
* `SignalHistory.everywhere_usable_iff`: all calls.
-/

namespace StreamingProtocol

open ByteString

namespace SubscribedSignal

/-- A signal with a linear rule has a delta other than 0. -/
def Usable (s : SubscribedSignal) : Prop := s.ruleType = .linear → s.linearDelta ≠ 0

/-- A definition replaces a linear rule by another one. -/
def LeavesLinear (definition : Json) : Prop :=
  (startNode definition).all Json.isNumber ∧
    ∃ rule, definition.find? metaRule = some (.string rule) ∧
      (rule = metaRuletypeExplicit ∨ rule = metaRuletypeConstant)

variable [JsonRuntime]

/-- A description of a signal with a linear rule, if it is read as far as the rule, has no delta
that is converted to 0, unless it replaces the rule. -/
def KeepsDelta (s : SubscribedSignal) (params : Json) : Prop :=
  s.ruleType = .linear → Reaches params s .rule →
    ∀ definition, params.find? metaDefinition = some definition →
      ∀ node, deltaNode definition = some node → node.getUInt64 = .ok 0 → LeavesLinear definition

/-! ### One description -/

omit [JsonRuntime] in
/-- What the rule is after the statement about it. -/
theorem ruleType_processRule (definition : Json) (s : SubscribedSignal) :
    (processRule definition s).state.linearDelta = s.linearDelta ∧
      (processRule definition s).state.ruleType = match definition.find? metaRule with
        | some (.string rule) => (ruleNamed rule s.linearDelta).getD s.ruleType
        | _ => s.ruleType := by
  rw [processRule_eq]
  cases definition.find? metaRule with
  | none => exact ⟨rfl, rfl⟩
  | some node =>
    cases node with
    | string rule =>
      dsimp only
      cases ruleNamed rule s.linearDelta <;> exact ⟨rfl, rfl⟩
    | _ => exact ⟨rfl, rfl⟩

/-- The delta is stored, whatever becomes of the rule. The rule is taken over with it if the values
before it are numbers. -/
theorem rule_statements (definition : Json) (s : SubscribedSignal) :
    let s' := (Completion.sequence [processLinear definition, processConstant definition,
      processRule definition] s).state
    s'.linearDelta = deltaInForce definition s ∧
      s'.ruleType = if (deltaNode definition).all Json.isNumber ∧
          (startNode definition).all Json.isNumber then
        match definition.find? metaRule with
        | some (.string rule) => (ruleNamed rule (deltaInForce definition s)).getD s.ruleType
        | _ => s.ruleType
      else s.ruleType := by
  obtain ⟨hdelta, hrule, -⟩ := linearDelta_processLinear definition s
  obtain ⟨hdelta', hrule'⟩ :=
    linearDelta_processConstant definition (processLinear definition s).state
  obtain ⟨hdelta'', hrule''⟩ := ruleType_processRule definition
    (processConstant definition (processLinear definition s).state).state
  rw [hdelta', hdelta] at hdelta'' hrule''
  rw [hrule', hrule] at hrule''
  dsimp only
  rw [Completion.state_sequence_cons, Completion.state_sequence_cons, Completion.sequence_singleton,
    why?_processLinear, why?_processConstant]
  unfold refuseUnless
  by_cases h₁ : (deltaNode definition).all Json.isNumber
  · by_cases h₂ : (startNode definition).all Json.isNumber
    · simp only [h₁, h₂, and_self, if_true]
      exact ⟨hdelta'', hrule''⟩
    · simp only [h₁, h₂, if_true]
      exact ⟨hdelta'.trans hdelta, hrule'.trans hrule⟩
  · simp only [h₁]
    exact ⟨hdelta, hrule⟩

omit [JsonRuntime] in
/-- A linear rule is only set with a delta other than 0. -/
theorem ne_zero_of_ruleNamed {rule : String} {delta : UInt64}
    (h : ruleNamed rule delta = some .linear) : delta ≠ 0 := by
  unfold ruleNamed at h
  split_ifs at h with hlinear hzero
  · exact hzero
  · cases h
  · cases h

omit [JsonRuntime] in
/-- With a delta of 0 the rules other than the linear one may be set. -/
theorem getD_ruleNamed_zero_ne_linear_iff (rule : String) :
    (ruleNamed rule 0).getD .linear ≠ .linear ↔
      rule = metaRuletypeExplicit ∨ rule = metaRuletypeConstant := by
  have hexplicit : metaRuletypeExplicit ≠ metaRuletypeLinear := by decide
  have hconstant : metaRuletypeConstant ≠ metaRuletypeLinear := by decide
  unfold ruleNamed
  by_cases h₁ : rule = metaRuletypeExplicit
  · simp [h₁, hexplicit]
  · by_cases h₂ : rule = metaRuletypeConstant
    · simp [h₂, hconstant, h₂ ▸ h₁]
    · simp [h₁, h₂]

/-- A delta becomes 0 by a number that is converted to 0. -/
theorem deltaInForce_eq_zero_iff {definition : Json} {s : SubscribedSignal}
    (h : s.linearDelta ≠ 0) : deltaInForce definition s = 0 ↔
      ∃ node, deltaNode definition = some node ∧ node.getUInt64 = .ok 0 := by
  unfold deltaInForce
  cases deltaNode definition with
  | none => simpa using h
  | some node => cases hread : node.getUInt64 <;> simp [h, hread]

/-- A definition leaves a usable delta to a signal if and only if it does not set the delta of a
linear rule to 0, unless it replaces the rule. -/
theorem usable_rule_statements_iff {s : SubscribedSignal} (h : s.Usable) (definition : Json) :
    (Completion.sequence [processLinear definition, processConstant definition,
      processRule definition] s).state.Usable ↔
        (s.ruleType = .linear → ∀ node, deltaNode definition = some node →
          node.getUInt64 = .ok 0 → LeavesLinear definition) := by
  obtain ⟨hdelta, hrule⟩ := rule_statements definition s
  unfold Usable
  rw [hdelta, hrule]
  by_cases hlinear : s.ruleType = .linear
  · by_cases hzero : deltaInForce definition s = 0
    · obtain ⟨node, hnode, hread⟩ := (deltaInForce_eq_zero_iff (h hlinear)).mp hzero
      have hnumber : (deltaNode definition).all Json.isNumber := by
        rw [hnode]
        cases node <;> first | rfl | cases hread
      have hright : (s.ruleType = .linear → ∀ node, deltaNode definition = some node →
          node.getUInt64 = .ok 0 → LeavesLinear definition) ↔ LeavesLinear definition :=
        ⟨fun hall => hall hlinear node hnode hread, fun hleaves _ _ _ _ => hleaves⟩
      rw [hright, hzero, hlinear]
      unfold LeavesLinear
      by_cases hstart : (startNode definition).all Json.isNumber
      · simp only [hnumber, hstart, and_self, if_true, ne_eq, not_true_eq_false, imp_false,
          true_and]
        cases definition.find? metaRule with
        | none => simp
        | some node =>
          cases node with
          | string rule => simpa using getD_ruleNamed_zero_ne_linear_iff rule
          | _ => simp
      · simp [hstart]
    · refine iff_of_true (fun _ => hzero) fun _ node hnode hread => absurd ?_ hzero
      exact (deltaInForce_eq_zero_iff (h hlinear)).mpr ⟨node, hnode, hread⟩
  · refine iff_of_true (fun hset => ?_) fun hs => absurd hs hlinear
    split_ifs at hset
    · cases hfound : definition.find? metaRule with
      | none =>
        rw [hfound] at hset
        exact absurd hset hlinear
      | some node =>
        rw [hfound] at hset
        cases node with
        | string rule =>
          dsimp only at hset
          cases hnamed : ruleNamed rule (deltaInForce definition s) with
          | none =>
            rw [hnamed] at hset
            exact absurd hset hlinear
          | some r =>
            rw [hnamed] at hset
            exact ne_zero_of_ruleNamed (hnamed.trans (congrArg some hset))
        | _ => exact absurd hset hlinear
    · exact absurd hset hlinear

/-- A description keeps the delta of a linear rule usable if and only if it does not set it to 0. -/
theorem usable_processSignal_iff {s : SubscribedSignal} (h : s.Usable) (params : Json) :
    (s.processSignal params).state.Usable ↔ s.KeepsDelta params := by
  have hview := view_processSignal_eq params s (by decide : Member.rule ∈ described)
  have hsame {t t' : SubscribedSignal} (ht : Member.rule.view t = Member.rule.view t') :
      t.Usable ↔ t'.Usable := by
    obtain ⟨hrule, hdelta, -⟩ := view_rule_eq_iff.mp ht
    unfold Usable
    rw [hrule, hdelta]
  unfold KeepsDelta
  split_ifs at hview with hreaches
  · rw [hsame hview]
    simp only [hreaches, true_imp_iff]
    unfold statement inDefinition
    cases hdefinition : params.find? metaDefinition with
    | none => simpa using h
    | some definition =>
      rw [state_catchJson, usable_rule_statements_iff h]
      simp
  · rw [hsame hview]
    exact iff_of_true h fun _ hr => absurd hr hreaches

/-! ### One payload -/

omit [JsonRuntime] in
theorem linearDelta_processLinearTime (data : Bytes) (t s : SubscribedSignal) :
    (processLinearTime data t s).state.linearDelta = t.linearDelta := by
  unfold processLinearTime
  cases hrule : s.ruleType with
  | explicit =>
    dsimp only
    split_ifs <;> rfl
  | constant =>
    dsimp only
    split_ifs <;> rfl
  | linear => rfl
  | unknown => rfl

omit [JsonRuntime] in
/-- A payload keeps a usable delta, as long as the time signal has one. -/
theorem usable_processMeasuredData {s : SubscribedSignal} (h : s.Usable) (data : Bytes)
    {timeSignal : Option SubscribedSignal} (htime : ∀ t, timeSignal = some t → t.Usable) :
    (s.processMeasuredData data timeSignal).state.Usable := by
  cases timeSignal with
  | none =>
    have hstate : (s.processMeasuredData data none).state = s := state_processExplicitTime data 0 s
    rw [hstate]
    exact h
  | some t =>
    unfold processMeasuredData
    cases hrule : t.ruleType with
    | linear =>
      simp only [hrule]
      intro _
      rw [linearDelta_processLinearTime]
      exact htime t rfl hrule
    | explicit =>
      simp only [hrule, state_processExplicitTime]
      exact h
    | constant =>
      simp only [hrule]
      exact h
    | unknown =>
      simp only [hrule]
      exact h

end SubscribedSignal

/-! ### Calls -/

/-- A signal with the calls that it has got: meta information, data without a time signal, and data
with a time signal, which has got calls itself. -/
inductive SignalHistory where
  | created (signalNumber : SignalNumber)
  | metaInformation (h : SignalHistory) (method : String) (params : Json)
  | measuredData (h : SignalHistory) (data : Bytes)
  | timedData (h timeSignal : SignalHistory) (data : Bytes)

namespace SignalHistory

variable [JsonRuntime]

/-- The state of a signal after its calls. -/
def state : SignalHistory → SubscribedSignal
  | created signalNumber => { signalNumber := signalNumber }
  | metaInformation h method params => (h.state.processSignalMetaInformation method params).state
  | measuredData h data => (h.state.processMeasuredData data none).state
  | timedData h timeSignal data => (h.state.processMeasuredData data (some timeSignal.state)).state

omit [JsonRuntime] in
/-- A property of a signal and of its time signals, after each of their calls. -/
def Everywhere (P : SignalHistory → Prop) : SignalHistory → Prop
  | created signalNumber => P (created signalNumber)
  | metaInformation h method params => h.Everywhere P ∧ P (metaInformation h method params)
  | measuredData h data => h.Everywhere P ∧ P (measuredData h data)
  | timedData h timeSignal data =>
      (h.Everywhere P ∧ timeSignal.Everywhere P) ∧ P (timedData h timeSignal data)

/-- The last call is no description that sets the delta of a linear rule to 0. -/
def KeepsDelta : SignalHistory → Prop
  | metaInformation h method params => method = metaMethodSignal → h.state.KeepsDelta params
  | created _ | measuredData .. | timedData .. => True

omit [JsonRuntime] in
theorem Everywhere.last {P : SignalHistory → Prop} {h : SignalHistory} (hall : h.Everywhere P) :
    P h := by
  cases h with
  | created signalNumber => exact hall
  | metaInformation h method params => exact hall.2
  | measuredData h data => exact hall.2
  | timedData h timeSignal data => exact hall.2

/-- One message. -/
theorem usable_metaInformation_iff {h : SignalHistory} (hh : h.state.Usable) (method : String)
    (params : Json) :
    (h.metaInformation method params).state.Usable ↔
      (h.metaInformation method params).KeepsDelta := by
  unfold state KeepsDelta SubscribedSignal.processSignalMetaInformation
  split_ifs with hsubscribe hsignal
  · refine iff_of_true ?_ fun hsignal =>
      absurd (hsubscribe.symm.trans hsignal) metaMethodSubscribe_ne_signal
    obtain ⟨id, hstate⟩ | hstate := SubscribedSignal.processSubscribe_cases params h.state
    · rw [hstate]
      exact hh
    · rw [hstate]
      exact hh
  · rw [SubscribedSignal.usable_processSignal_iff hh]
    exact ⟨fun hkeeps _ => hkeeps, fun hkeeps => hkeeps hsignal⟩
  · exact iff_of_true hh fun h => absurd h hsignal

/-- **Linear rules.** A signal and its time signals have usable deltas after each of their calls if
and only if no description sets the delta of a linear rule to 0. -/
theorem everywhere_usable_iff (h : SignalHistory) :
    h.Everywhere (fun h => h.state.Usable) ↔ h.Everywhere KeepsDelta := by
  induction h with
  | created signalNumber =>
    refine iff_of_true (fun hlinear => ?_) trivial
    cases hlinear
  | metaInformation h method params ih =>
    rw [Everywhere, Everywhere, ← ih]
    exact and_congr_right fun hall => usable_metaInformation_iff hall.last method params
  | measuredData h data ih =>
    rw [Everywhere, Everywhere, ← ih]
    refine and_congr_right fun hall => iff_of_true ?_ trivial
    exact SubscribedSignal.usable_processMeasuredData hall.last data fun t ht => by cases ht
  | timedData h timeSignal data ih iht =>
    rw [Everywhere, Everywhere, ← ih, ← iht]
    refine and_congr_right fun ⟨hall, htime⟩ => iff_of_true ?_ trivial
    refine SubscribedSignal.usable_processMeasuredData hall.last data fun t ht => ?_
    cases ht
    exact htime.last

omit [JsonRuntime] in
/-- A linear rule with a delta of 1, and then a delta of 0. -/
def zeroDelta : SignalHistory :=
  ((created 1).metaInformation metaMethodSignal (.object [(metaDefinition, .object
    [(metaRule, .string metaRuletypeLinear),
      (metaRuletypeLinear, .object [(metaDelta, .numberUnsigned 1)])])])).metaInformation
    metaMethodSignal (.object [(metaDefinition, .object
      [(metaRuletypeLinear, .object [(metaDelta, .numberUnsigned 0)])])])

omit [JsonRuntime] in
theorem not_usable_zeroDelta : ¬ (@state decimalRuntime zeroDelta).Usable := by
  intro h
  have hlinear : (@state decimalRuntime zeroDelta).ruleType = .linear := by decide +kernel
  have hzero : (@state decimalRuntime zeroDelta).linearDelta = 0 := by decide +kernel
  exact h hlinear hzero

end SignalHistory

end StreamingProtocol
