import StreamingProtocol.Foundation.Runs
import StreamingProtocol.Session.ContainerSteps

/-!
# Runs of the container

The states of a container that is given meta information and measured data in any order, and how a
property of single signals is shown to hold of all signals in all of these states.

## Main definitions

* `SignalContainer.Reached`: the states reached by calls that meet a condition.
* `SignalContainer.callbacks`: the callbacks of a run.
* `SignalContainer.Stored`: all signals of a container have a property.

## Main results

* `SignalContainer.stored_process`.
* `SignalContainer.subscribedSignals_foldl`: what a signal keeps without meta information.
-/

namespace StreamingProtocol

namespace SignalContainer

variable [JsonRuntime]

/-- The container after a call. -/
def next (c : SignalContainer) (i : Input) : SignalContainer := (c.process i).state

/-- The states of a container, which has no signals in the beginning, after calls that are allowed
when they are made. -/
def Reached (allowed : SignalContainer → Input → Prop) : SignalContainer → Prop :=
  ReachedBy (fun c i => (c.process i).state) allowed initial

/-- A call returns a value that is not negative. -/
def Succeeds (c : SignalContainer) (i : Input) : Prop :=
  ∃ r : Int, 0 ≤ r ∧ (c.process i).outcome = .ret r

/-- The container after calls without a condition. -/
def run (inputs : List Input) : SignalContainer :=
  inputs.foldl (fun c i => (c.process i).state) initial

theorem reached_run (inputs : List Input) : Reached (fun _ _ => True) (run inputs) :=
  ReachedBy.foldl .init inputs (ReachedBy.allowedAlong_of_forall (fun _ _ => trivial) inputs _)

/-! ### Callbacks -/

/-- The callbacks of a container that is given inputs. -/
def callbacks (c : SignalContainer) : List Input → List Callback
  | [] => []
  | i :: inputs => (c.process i).callbacks ++ callbacks (c.process i).state inputs

theorem callbacks_append (c : SignalContainer) (inputs inputs' : List Input) :
    c.callbacks (inputs ++ inputs') = c.callbacks inputs ++
      (inputs.foldl next c).callbacks inputs' := by
  induction inputs generalizing c with
  | nil => rfl
  | cons i inputs ih =>
    rw [List.cons_append, callbacks, callbacks, ih, List.append_assoc]
    rfl

/-- Meta information delivers no data. -/
theorem callbacks_metaInformation {inputs : List Input}
    (h : ∀ input ∈ inputs, ∃ n m, input = .metaInformation n m) (c : SignalContainer) :
    ∀ callback ∈ c.callbacks inputs, ∃ s method params, callback = .signalMeta s method params := by
  induction inputs generalizing c with
  | nil => exact List.forall_mem_nil _
  | cons input inputs ih =>
    obtain ⟨n, m, rfl⟩ := h input List.mem_cons_self
    intro callback hcallback
    rcases List.mem_append.mp hcallback with hcallback | hcallback
    · have hstep := metaStep_processMetaInformation c n m
      have hcallback : callback ∈ (c.processMetaInformation n m).callbacks := hcallback
      generalize c.processMetaInformation n m = call at hstep hcallback
      cases hstep with
      | refused => cases hcallback
      | subscribeRefused => cases hcallback
      | descriptionRefused => cases hcallback
      | _ =>
        obtain rfl := List.mem_singleton.mp hcallback
        exact ⟨_, _, _, rfl⟩
    · exact ih (fun input hinput => h input (List.mem_cons_of_mem _ hinput)) _ callback hcallback

/-! ### Calls that succeed -/

section Succeeds

variable {c : SignalContainer} {n : SignalNumber} {m : MetaInformation}

/-- A call with meta information that succeeds. -/
theorem Succeeds.cases (h : c.Succeeds (.metaInformation n m)) :
    (m.method = .ok metaMethodUnsubscribe ∧ ∃ s, c.subscribedSignals n = some (some s)) ∨
      (m.method = .ok metaMethodSubscribe ∧ c.subscribedSignals n = none) ∨
      (m.method = .ok metaMethodSignal ∧
        ∃ s s', c.subscribedSignals n = some (some s) ∧ s.processSignal m.params = .normal s') ∨
      ∃ method, m.method = .ok method ∧ method ≠ metaMethodUnsubscribe ∧
        method ≠ metaMethodSubscribe ∧ method ≠ metaMethodSignal := by
  obtain ⟨r, hr, houtcome⟩ := h
  have houtcome : (c.processMetaInformation n m).outcome = .ret r := houtcome
  have hstep := metaStep_processMetaInformation c n m
  generalize c.processMetaInformation n m = call at hstep houtcome
  cases hstep with
  | refused why hwhy =>
    cases houtcome
    cases hwhy
    exact absurd hr (by decide)
  | unsubscribed s hs hmethod => exact .inl ⟨hmethod, s, hs⟩
  | subscribed id hfresh hmethod => exact .inr (.inl ⟨hmethod, hfresh⟩)
  | subscribeRefused hfresh hmethod => exact .inr (.inl ⟨hmethod, hfresh⟩)
  | described s s' hs hmethod hdescribed =>
    exact .inr (.inr (.inl ⟨hmethod, s, s', hs, hdescribed⟩))
  | descriptionRefused s s' why hs hmethod hrefused =>
    cases houtcome
    rcases SubscribedSignal.processSignal_cases hrefused with h | h | h | ⟨h, -⟩
    · cases h
      exact absurd hr (by decide)
    · cases h
    · cases h
    · cases h
  | other s method hs hmethod hunsubscribe hsubscribe hsignal =>
    exact .inr (.inr (.inr ⟨method, hmethod, hunsubscribe, hsubscribe, hsignal⟩))

/-- An acknowledgement that succeeds is for a number that is not known. -/
theorem Succeeds.subscribe (h : c.Succeeds (.metaInformation n m))
    (hmethod : m.method = .ok metaMethodSubscribe) : c.subscribedSignals n = none := by
  rcases h.cases with ⟨hm, -⟩ | ⟨-, hfresh⟩ | ⟨hm, -⟩ | ⟨method, hm, -, hother, -⟩
  · exact absurd (Except.ok.inj (hmethod.symm.trans hm)) metaMethodSubscribe_ne_unsubscribe
  · exact hfresh
  · exact absurd (Except.ok.inj (hmethod.symm.trans hm)) metaMethodSubscribe_ne_signal
  · exact absurd (Except.ok.inj (hm.symm.trans hmethod)) hother

/-- An acknowledgement of an unsubscription that succeeds is for a signal that is subscribed. -/
theorem Succeeds.unsubscribe (h : c.Succeeds (.metaInformation n m))
    (hmethod : m.method = .ok metaMethodUnsubscribe) :
    ∃ s, c.subscribedSignals n = some (some s) := by
  rcases h.cases with ⟨-, hs⟩ | ⟨hm, -⟩ | ⟨-, s, s', hs, -⟩ | ⟨method, hm, hother, -, -⟩
  · exact hs
  · exact absurd (Except.ok.inj (hmethod.symm.trans hm)) metaMethodSubscribe_ne_unsubscribe.symm
  · exact ⟨s, hs⟩
  · exact absurd (Except.ok.inj (hm.symm.trans hmethod)) hother

/-- A description that succeeds is for a signal that is subscribed and accepts it. -/
theorem Succeeds.describe (h : c.Succeeds (.metaInformation n m))
    (hmethod : m.method = .ok metaMethodSignal) :
    ∃ s s', c.subscribedSignals n = some (some s) ∧ s.processSignal m.params = .normal s' := by
  rcases h.cases with ⟨hm, -⟩ | ⟨hm, -⟩ | ⟨-, hs⟩ | ⟨method, hm, -, -, hother⟩
  · exact absurd (Except.ok.inj (hmethod.symm.trans hm)) metaMethodSignal_ne_unsubscribe
  · exact absurd (Except.ok.inj (hmethod.symm.trans hm)) metaMethodSubscribe_ne_signal.symm
  · exact hs
  · exact absurd (Except.ok.inj (hm.symm.trans hmethod)) hother

/-- An accepted description leaves the signal behind that it has described. -/
theorem Succeeds.described (h : c.Succeeds (.metaInformation n m))
    (hmethod : m.method = .ok metaMethodSignal) :
    ∃ s s' : SubscribedSignal, s.processSignal m.params = .normal s' ∧
      (c.next (.metaInformation n m)).subscribedSignals n = some (some s') := by
  obtain ⟨s, s', hs, hdescribed⟩ := h.describe hmethod
  have hstate : c.next (.metaInformation n m) = (c.setSignal n s').register n s' :=
    congrArg Call.state (processMetaInformation_of_describe hmethod hs hdescribed)
  refine ⟨s, s', hdescribed, ?_⟩
  rw [hstate, subscribedSignals_register, subscribedSignals_setSignal_self]

end Succeeds

/-! ### Sessions -/

omit [JsonRuntime] in
/-- A dimension with a linear rule. -/
def linearDimension (start delta size : Int64) : Json := .object
  [(metaRule, .string metaRuletypeLinear), (metaRuletypeLinear, .object
    [(metaStart, .numberInteger start), (metaDelta, .numberInteger delta),
      (metaSize, .numberInteger size)])]

omit [JsonRuntime] in
/-- The definition of a time signal with a linear rule. -/
def linearTime : Json := .object
  [(metaRule, .string metaRuletypeLinear),
    (metaRuletypeLinear, .object [(metaDelta, .numberUnsigned 1)]),
    (metaDatatype, .string dataTypeUint64),
    (metaUnit, .object [(metaQuantity, .string metaTime)])]

omit [JsonRuntime] in
/-- The subscription and the description of a signal of the table `t`. -/
def subscription (n : SignalNumber) (definition : Json) : List Input :=
  [.metaInformation n (.acknowledgement (.string "id")),
    .metaInformation n (.description "t" definition)]

omit [JsonRuntime] in
/-- The subscription of a linear time signal and of a data signal of its table. -/
def dataSession (definition : Json) : List Input := subscription 1 linearTime ++
  subscription 2 definition

/-- A session is reached if its subscriptions and descriptions are allowed. -/
theorem reached_dataSession {allowed : SignalContainer → Input → Prop} (definition : Json)
    (hsubscribe : ∀ c n id, allowed c (.metaInformation n (.acknowledgement (.string id))))
    (htime : allowed (run ((dataSession definition).take 1))
      (.metaInformation 1 (.description "t" linearTime)))
    (hdata : allowed (run ((dataSession definition).take 3))
      (.metaInformation 2 (.description "t" definition))) :
    Reached allowed (run (dataSession definition)) :=
  ReachedBy.foldl .init (dataSession definition)
    ⟨hsubscribe _ 1 _, htime, hsubscribe _ 2 _, hdata, trivial⟩

/-! ### Properties of signals -/

omit [JsonRuntime] in
/-- Every signal of a container has a property. -/
def Stored (P : SubscribedSignal → Prop) (c : SignalContainer) : Prop :=
  ∀ n s, c.subscribedSignals n = some (some s) → P s

omit [JsonRuntime] in
/-- Every signal of a container has a property under its number. -/
def StoredAt (P : SignalNumber → SubscribedSignal → Prop) (c : SignalContainer) : Prop :=
  ∀ n s, c.subscribedSignals n = some (some s) → P n s

section StoredAt

variable {P : SignalNumber → SubscribedSignal → Prop}

omit [JsonRuntime] in
theorem storedAt_initial : StoredAt P initial := fun _ _ h => by cases h

omit [JsonRuntime] in
theorem StoredAt.setSignal {c : SignalContainer} (h : StoredAt P c) (n : SignalNumber)
    {s : SubscribedSignal} (hs : P n s) : StoredAt P (c.setSignal n s) := by
  intro k t ht
  rw [subscribedSignals_setSignal] at ht
  split_ifs at ht with hk
  · cases ht
    exact hk ▸ hs
  · exact h k t ht

/-- Meta information keeps a property of all signals that new signals have and that the
descriptions keep. -/
theorem storedAt_processMetaInformation {c : SignalContainer} {n : SignalNumber}
    {m : MetaInformation} (hfresh : ∀ id, P n { signalNumber := n, signalId := id })
    (hsignal : m.method = .ok metaMethodSignal → ∀ s, c.subscribedSignals n = some (some s) →
      P n s → P n (s.processSignal m.params).state)
    (h : StoredAt P c) : StoredAt P (c.processMetaInformation n m).state := by
  have hstep := metaStep_processMetaInformation c n m
  generalize c.processMetaInformation n m = call at hstep
  cases hstep with
  | refused why hwhy => exact h
  | unsubscribed s hs hmethod =>
    intro k t ht
    rw [subscribedSignals_eraseSignal, subscribedSignals_unregister] at ht
    split_ifs at ht
    exact h k t ht
  | subscribed id hnone hmethod hid => exact h.setSignal n (hfresh id)
  | subscribeRefused hnone hmethod hid => exact h.setSignal n (hfresh "")
  | described s s' hs hmethod hdescribed =>
    have hs' := hsignal hmethod s hs (h n s hs)
    rw [hdescribed] at hs'
    exact h.setSignal n hs'
  | descriptionRefused s s' why hs hmethod hrefused =>
    have hs' := hsignal hmethod s hs (h n s hs)
    rw [hrefused] at hs'
    exact h.setSignal n hs'
  | other s method hs hmethod hunsubscribe hsubscribe hsignal => exact h

omit [JsonRuntime] in
/-- Measured data keeps a property of all signals that does not depend on what data may set. -/
theorem StoredAt.dataStep {c c' : SignalContainer}
    (hsame : ∀ n s s', SameDescription s s' → P n s → P n s') (h : StoredAt P c)
    (hstep : DataStep c c') : StoredAt P c' := by
  intro k t ht
  have hslot := hstep.slot k
  rw [ht] at hslot
  cases hc : c.subscribedSignals k with
  | none =>
    rw [hc] at hslot
    cases hslot
  | some p =>
    rw [hc] at hslot
    cases hslot with
    | kept hst => exact hsame k _ t hst (h k _ hc)

/-- A call keeps a property of all signals that new signals have, that the descriptions keep and
that does not depend on what data may set. -/
theorem storedAt_process {c : SignalContainer} {i : Input}
    (hfresh : ∀ n m, i = .metaInformation n m → ∀ id, P n { signalNumber := n, signalId := id })
    (hsignal : ∀ n m, i = .metaInformation n m → m.method = .ok metaMethodSignal →
      ∀ s, c.subscribedSignals n = some (some s) → P n s → P n (s.processSignal m.params).state)
    (hsame : ∀ n s s', SameDescription s s' → P n s → P n s')
    (h : StoredAt P c) : StoredAt P (c.process i).state := by
  cases i with
  | metaInformation n m =>
    exact storedAt_processMetaInformation (hfresh n m rfl) (hsignal n m rfl) h
  | measuredData n data => exact h.dataStep hsame (dataStep_processMeasuredData c n data)

/-- Without meta information for a signal, it keeps what does not depend on what data may set. -/
theorem subscribedSignals_foldl {P : SubscribedSignal → Prop}
    (hsame : ∀ s s', SameDescription s s' → P s → P s') {c : SignalContainer} {n : SignalNumber}
    {s s' : SubscribedSignal} (hs : c.subscribedSignals n = some (some s)) (h : P s)
    {inputs : List Input} (hinputs : ∀ input ∈ inputs, ∀ m, input ≠ .metaInformation n m)
    (hs' : (inputs.foldl next c).subscribedSignals n = some (some s')) : P s' := by
  have hall : StoredAt (fun k s => k = n → P s) (inputs.foldl next c) := by
    have hfirst : StoredAt (fun k s => k = n → P s) c := by
      rintro k t ht rfl
      cases hs.symm.trans ht
      exact h
    clear hs hs' h
    induction inputs generalizing c with
    | nil => exact hfirst
    | cons input inputs ih =>
      obtain ⟨hinput, hrest⟩ := List.forall_mem_cons.mp hinputs
      refine ih hrest (storedAt_process ?_ ?_ ?_ hfirst)
      · rintro k m rfl id rfl
        exact absurd rfl (hinput m)
      · rintro k m rfl - s - - rfl
        exact absurd rfl (hinput m)
      · exact fun k s s' hst hs hk => hsame s s' hst (hs hk)
  exact hall n s' hs' rfl

end StoredAt

section Stored

variable {P : SubscribedSignal → Prop}

omit [JsonRuntime] in
theorem stored_initial : Stored P initial := storedAt_initial

omit [JsonRuntime] in
/-- Measured data keeps a property of all signals that does not depend on what data may set. -/
theorem Stored.dataStep {c c' : SignalContainer}
    (hsame : ∀ s s', SameDescription s s' → P s → P s') (h : Stored P c) (hstep : DataStep c c') :
    Stored P c' :=
  StoredAt.dataStep (P := fun _ => P) (fun _ => hsame) h hstep

/-- A call keeps a property of all signals that new signals have, that the descriptions keep and
that does not depend on what data may set. -/
theorem stored_process {c : SignalContainer} {i : Input}
    (hfresh : ∀ n id, P { signalNumber := n, signalId := id })
    (hsignal : ∀ n m, i = .metaInformation n m → m.method = .ok metaMethodSignal →
      ∀ s, c.subscribedSignals n = some (some s) → P s → P (s.processSignal m.params).state)
    (hsame : ∀ s s', SameDescription s s' → P s → P s')
    (h : Stored P c) : Stored P (c.process i).state :=
  storedAt_process (P := fun _ => P) (fun n _ _ => hfresh n) hsignal (fun _ => hsame) h

end Stored

end SignalContainer

end StreamingProtocol
