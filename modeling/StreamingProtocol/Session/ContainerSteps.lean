import StreamingProtocol.Presentation.RefusalKinds
import StreamingProtocol.Session.SignalContainer

/-!
# What a call of the container can do

One statement for each kind of call, from which all invariants of the container are derived.

* A call with meta information is one of the steps of `MetaStep`.
* A call with measured data leaves all tables alone and keeps every signal up to the variables that
  data may set (`SameDescription`); a lookup may insert a null pointer. It leaves the signals alone
  that it does not concern (`SameOthers`). Both are instances of a relation that lookups and
  changes of the signal keep (`DataRelation`).

## Main definitions

* `SignalContainer.MetaStep`, `SignalContainer.DataStep`.
* `SignalContainer.DataRelation`, `SignalContainer.SameOthers`.

## Main results

* `SignalContainer.metaStep_processMetaInformation`.
* `SignalContainer.dataStep_processMeasuredData`, `SignalContainer.sameOthers_processMeasuredData`.
-/

namespace StreamingProtocol

open ByteString

namespace SignalContainer

/-! ### Lookups -/

section Lookups

variable (c : SignalContainer) (n k : SignalNumber) (s : SubscribedSignal) (id : String)
  (table : Table)

@[simp] theorem subscribedSignals_setSignal_self :
    (c.setSignal n s).subscribedSignals n = some (some s) :=
  Function.update_self ..

theorem subscribedSignals_setSignal :
    (c.setSignal n s).subscribedSignals k =
      if k = n then some (some s) else c.subscribedSignals k :=
  Function.update_apply ..

theorem subscribedSignals_eraseSignal :
    (c.eraseSignal n).subscribedSignals k = if k = n then none else c.subscribedSignals k :=
  Function.update_apply ..

theorem tables_setTable (id' : String) :
    (c.setTable id table).tables id' = if id' = id then some table else c.tables id' :=
  Function.update_apply ..

theorem tables_eraseTable (id' : String) :
    (c.eraseTable id).tables id' = if id' = id then none else c.tables id' :=
  Function.update_apply ..

@[simp] theorem tables_setSignal : (c.setSignal n s).tables = c.tables := rfl

@[simp] theorem tables_eraseSignal : (c.eraseSignal n).tables = c.tables := rfl

@[simp] theorem subscribedSignals_setTable :
    (c.setTable id table).subscribedSignals = c.subscribedSignals := rfl

@[simp] theorem subscribedSignals_eraseTable :
    (c.eraseTable id).subscribedSignals = c.subscribedSignals := rfl

@[simp] theorem tables_access : (c.access n).tables = c.tables := by
  unfold access
  split <;> rfl

@[simp] theorem subscribedSignals_register :
    (c.register n s).subscribedSignals = c.subscribedSignals := rfl

@[simp] theorem subscribedSignals_unregister :
    (c.unregister n s).subscribedSignals = c.subscribedSignals := by
  unfold unregister
  cases c.tables s.tableId with
  | none => rfl
  | some table => dsimp only; split <;> rfl

variable {c n k s}

theorem signal?_eq_some : c.signal? n = some s ↔ c.subscribedSignals n = some (some s) := by
  rw [signal?, Option.join_eq_some_iff]

theorem signal?_setSignal (c : SignalContainer) (n k : SignalNumber) (s : SubscribedSignal) :
    (c.setSignal n s).signal? k = if k = n then some s else c.signal? k := by
  rw [signal?, signal?, subscribedSignals_setSignal]
  split_ifs <;> rfl

theorem setSignal_eq_self (h : c.subscribedSignals n = some (some s)) : c.setSignal n s = c := by
  rw [setSignal, ← h, Function.update_eq_self]

theorem setSignal_eq_self_iff (hs : c.subscribedSignals n = some (some s)) (s' : SubscribedSignal) :
    c.setSignal n s' = c ↔ s' = s := by
  constructor
  · intro h
    have hself := c.subscribedSignals_setSignal_self n s'
    rw [h, hs] at hself
    exact ((Option.some.injEq ..).mp ((Option.some.injEq ..).mp hself)).symm
  · rintro rfl
    exact setSignal_eq_self hs

theorem setSignal_ne_self (s : SubscribedSignal) (hfresh : c.subscribedSignals n = none) :
    c.setSignal n s ≠ c := by
  intro h
  have hself := c.subscribedSignals_setSignal_self n s
  rw [h, hfresh] at hself
  cases hself

theorem setSignal_setSignal (s' : SubscribedSignal) :
    (c.setSignal n s').setSignal n s = c.setSignal n s := by
  simp [setSignal]

theorem eraseSignal_setSignal : (c.setSignal n s).eraseSignal n = c.eraseSignal n := by
  simp [setSignal, eraseSignal]

theorem subscribedSignals_access (c : SignalContainer) (n k : SignalNumber) :
    (c.access n).subscribedSignals k =
      if k = n ∧ c.subscribedSignals n = none then some none else c.subscribedSignals k := by
  unfold access
  split
  · rename_i hnone
    simp [hnone, Function.update_apply]
  · rename_i p hp
    simp [hp]

theorem access_eq_self (h : c.subscribedSignals n ≠ none) : c.access n = c := by
  unfold access
  split
  · contradiction
  · rfl

theorem signal?_access (c : SignalContainer) (n k : SignalNumber) :
    (c.access n).signal? k = c.signal? k := by
  rw [signal?, signal?, subscribedSignals_access]
  split_ifs with h
  · rw [h.1, h.2]
    rfl
  · rfl

end Lookups

/-! ### Meta information -/

section MetaInformation

variable [JsonRuntime]

/-- How a call ends that leaves the container alone and is not accepted. -/
inductive Refused (c : SignalContainer) (n : SignalNumber) : Abrupt → Prop
  | rejected : Refused c n (.ret (-1))
  | thrown : Refused c n (.throw .jsonTypeError)
  | nullPointer (h : c.subscribedSignals n = some none) : Refused c n (.undefined .nullPointer)

/-- The steps of the container on meta information for a signal `n`. -/
inductive MetaStep (c : SignalContainer) (n : SignalNumber) (m : MetaInformation) :
    Call SignalContainer → Prop
  | refused (why : Abrupt) (hwhy : Refused c n why) : MetaStep c n m ⟨why, c, []⟩
  | unsubscribed (s : SubscribedSignal) (hs : c.subscribedSignals n = some (some s))
      (hmethod : m.method = .ok metaMethodUnsubscribe) :
      MetaStep c n m ⟨.ret 0, (c.unregister n s).eraseSignal n,
        [.signalMeta s metaMethodUnsubscribe m.params]⟩
  | subscribed (id : String) (hfresh : c.subscribedSignals n = none)
      (hmethod : m.method = .ok metaMethodSubscribe) (hid : m.params.find? metaSignalid ≠ none) :
      MetaStep c n m ⟨.ret 0, c.setSignal n { signalNumber := n, signalId := id },
        [.signalMeta { signalNumber := n, signalId := id } metaMethodSubscribe m.params]⟩
  | subscribeRefused (hfresh : c.subscribedSignals n = none)
      (hmethod : m.method = .ok metaMethodSubscribe) (hid : m.params.find? metaSignalid ≠ none) :
      MetaStep c n m ⟨.ret (-1), c.setSignal n { signalNumber := n }, []⟩
  | described (s s' : SubscribedSignal) (hs : c.subscribedSignals n = some (some s))
      (hmethod : m.method = .ok metaMethodSignal)
      (hdescribed : s.processSignal m.params = .normal s') :
      MetaStep c n m ⟨.ret 0, (c.setSignal n s').register n s',
        [.signalMeta s' metaMethodSignal m.params]⟩
  | descriptionRefused (s s' : SubscribedSignal) (why : Abrupt)
      (hs : c.subscribedSignals n = some (some s)) (hmethod : m.method = .ok metaMethodSignal)
      (hrefused : s.processSignal m.params = .abrupt why s') :
      MetaStep c n m ⟨why, c.setSignal n s', []⟩
  | other (s : SubscribedSignal) (method : String) (hs : c.subscribedSignals n = some (some s))
      (hmethod : m.method = .ok method) (hunsubscribe : method ≠ metaMethodUnsubscribe)
      (hsubscribe : method ≠ metaMethodSubscribe) (hsignal : method ≠ metaMethodSignal) :
      MetaStep c n m ⟨.ret 0, c, [.signalMeta s method m.params]⟩

/-- A description that is refused does not return 0. -/
theorem why_ne_of_processSignal {params : Json} {s s' : SubscribedSignal} {why : Abrupt}
    (h : s.processSignal params = .abrupt why s') : why ≠ .ret 0 := by
  rintro rfl
  rcases SubscribedSignal.processSignal_cases h with h | h | h | ⟨h, -⟩ <;> cases h

theorem processSignalMetaInformation_subscribe (c : SignalContainer) (n : SignalNumber)
    (params : Json) (s : SubscribedSignal) :
    c.processSignalMetaInformation n metaMethodSubscribe params s =
      match s.processSubscribe params with
      | .abrupt why s => ⟨why, c.setSignal n s, []⟩
      | .normal s => ⟨.ret 0, c.setSignal n s, [.signalMeta s metaMethodSubscribe params]⟩ := by
  unfold processSignalMetaInformation SubscribedSignal.processSignalMetaInformation
  rw [if_pos rfl]
  cases s.processSubscribe params <;> simp [metaMethodSubscribe_ne_signal,
    metaMethodSubscribe_ne_unsubscribe]

theorem processSignalMetaInformation_signal (c : SignalContainer) (n : SignalNumber)
    (params : Json) (s : SubscribedSignal) :
    c.processSignalMetaInformation n metaMethodSignal params s =
      match s.processSignal params with
      | .abrupt why s => ⟨why, c.setSignal n s, []⟩
      | .normal s =>
          ⟨.ret 0, (c.setSignal n s).register n s, [.signalMeta s metaMethodSignal params]⟩ := by
  unfold processSignalMetaInformation SubscribedSignal.processSignalMetaInformation
  rw [if_neg metaMethodSubscribe_ne_signal.symm, if_pos rfl]
  cases s.processSignal params <;> simp [metaMethodSignal_ne_unsubscribe]

theorem processSignalMetaInformation_other (c : SignalContainer) {n : SignalNumber}
    {method : String} (params : Json) {s : SubscribedSignal}
    (hsubscribe : method ≠ metaMethodSubscribe) (hsignal : method ≠ metaMethodSignal) :
    c.processSignalMetaInformation n method params s =
      ⟨.ret 0, if method = metaMethodUnsubscribe then c.eraseSignal n else c.setSignal n s,
        [.signalMeta s method params]⟩ := by
  unfold processSignalMetaInformation SubscribedSignal.processSignalMetaInformation
  rw [if_neg hsubscribe, if_neg hsignal]
  simp [hsignal, eraseSignal_setSignal]

theorem processMetaInformation_unsubscribe {c : SignalContainer} {n : SignalNumber}
    {m : MetaInformation} (hmethod : m.method = .ok metaMethodUnsubscribe) {s : SubscribedSignal}
    (hs : c.subscribedSignals n = some (some s)) :
    c.processMetaInformation n m = ⟨.ret 0, (c.unregister n s).eraseSignal n,
      [.signalMeta s metaMethodUnsubscribe m.params]⟩ := by
  unfold processMetaInformation
  simp only [hmethod, hs, if_true, processSignalMetaInformation_other _ _
    metaMethodSubscribe_ne_unsubscribe.symm metaMethodSignal_ne_unsubscribe.symm]

/-- Every call with meta information is one of the steps. -/
theorem metaStep_processMetaInformation (c : SignalContainer) (n : SignalNumber)
    (m : MetaInformation) : MetaStep c n m (c.processMetaInformation n m) := by
  unfold processMetaInformation
  cases hmethod : m.method with
  | error why =>
    obtain rfl := MetaInformation.method_eq_error hmethod
    exact .refused _ .thrown
  | ok method =>
    dsimp only
    split_ifs with hunsubscribe hsubscribe
    · subst hunsubscribe
      rcases hs : c.subscribedSignals n with _ | _ | s
      · exact .refused _ .rejected
      · exact .refused _ (.nullPointer hs)
      · simp only [if_true, processSignalMetaInformation_other _ _
          metaMethodSubscribe_ne_unsubscribe.symm metaMethodSignal_ne_unsubscribe.symm]
        exact .unsubscribed s hs hmethod
    · subst hsubscribe
      cases hid : m.params.find? metaSignalid with
      | none => exact .refused _ .rejected
      | some node =>
        cases hfresh : c.subscribedSignals n with
        | some p =>
          dsimp only
          cases htext : node.text with
          | error why =>
            obtain rfl := Json.text_eq_error htext
            exact .refused _ .thrown
          | ok t => exact .refused _ .rejected
        | none =>
          have hpresent : m.params.find? metaSignalid ≠ none := by
            rw [hid]
            exact Option.some_ne_none node
          simp only [processSignalMetaInformation_subscribe]
          rcases SubscribedSignal.processSubscribe_cases m.params { signalNumber := n } with
            ⟨id, h⟩ | h
          · simpa only [h, setSignal_setSignal] using MetaStep.subscribed id hfresh hmethod hpresent
          · simpa only [h, setSignal_setSignal] using
              MetaStep.subscribeRefused hfresh hmethod hpresent
    · rcases hs : c.subscribedSignals n with _ | _ | s
      · exact .refused _ .rejected
      · exact .refused _ (.nullPointer hs)
      · by_cases hsignal : method = metaMethodSignal
        · subst hsignal
          simp only [processSignalMetaInformation_signal]
          cases hdescribed : s.processSignal m.params with
          | normal s' => exact .described s s' hs hmethod hdescribed
          | abrupt why s' =>
            exact .descriptionRefused s s' why hs hmethod hdescribed
        · simpa only [processSignalMetaInformation_other _ _ hsubscribe hsignal,
            if_neg hunsubscribe, setSignal_eq_self hs] using
            MetaStep.other s method hs hmethod hunsubscribe hsubscribe hsignal

/-- Behaviour that is not defined on meta information for a signal: a null pointer, or what
processing a description leaves undefined. -/
theorem processMetaInformation_undefined {c : SignalContainer} {n : SignalNumber}
    {m : MetaInformation} {f : Fault}
    (h : (c.processMetaInformation n m).outcome = .undefined f) :
    f = .nullPointer ∨ ∃ s s', c.subscribedSignals n = some (some s) ∧
      s.processSignal m.params = .abrupt (.undefined f) s' := by
  have hstep := metaStep_processMetaInformation c n m
  generalize c.processMetaInformation n m = call at hstep h
  cases hstep with
  | refused why hwhy =>
    cases hwhy with
    | rejected => cases h
    | thrown => cases h
    | nullPointer hs =>
      cases h
      exact .inl rfl
  | unsubscribed s hs hmethod => cases h
  | subscribed id hfresh hmethod hid => cases h
  | subscribeRefused hfresh hmethod hid => cases h
  | described s s' hs hmethod hdescribed => cases h
  | descriptionRefused s s' why hs hmethod hrefused =>
    cases h
    exact .inr ⟨s, s', hs, hrefused⟩
  | other s method hs hmethod hunsubscribe hsubscribe hsignal => cases h

theorem processMetaInformation_signal {c : SignalContainer} {n : SignalNumber}
    {m : MetaInformation} (hmethod : m.method = .ok metaMethodSignal) {s : SubscribedSignal}
    (hs : c.subscribedSignals n = some (some s)) :
    c.processMetaInformation n m =
      c.processSignalMetaInformation n metaMethodSignal m.params s := by
  unfold processMetaInformation
  simp only [hmethod, metaMethodSignal_ne_unsubscribe, metaMethodSubscribe_ne_signal.symm, hs,
    if_false]

/-- A description that is accepted registers the signal in its table. -/
theorem processMetaInformation_of_describe {c : SignalContainer} {n : SignalNumber}
    {m : MetaInformation} (hmethod : m.method = .ok metaMethodSignal) {s s' : SubscribedSignal}
    (hs : c.subscribedSignals n = some (some s)) (hs' : s.processSignal m.params = .normal s') :
    c.processMetaInformation n m =
      ⟨.ret 0, (c.setSignal n s').register n s', [.signalMeta s' metaMethodSignal m.params]⟩ := by
  rw [processMetaInformation_signal hmethod hs, processSignalMetaInformation_signal, hs']

/-- Meta information other than an acknowledgement is refused for a number that is not known. -/
theorem processMetaInformation_of_unknown {c : SignalContainer} {n : SignalNumber}
    {m : MetaInformation} {method : String} (hmethod : m.method = .ok method)
    (hsubscribe : method ≠ metaMethodSubscribe) (hn : c.subscribedSignals n = none) :
    c.processMetaInformation n m = ⟨.ret (-1), c, []⟩ := by
  unfold processMetaInformation
  simp only [hmethod, hsubscribe, hn, if_false, ite_self]

/-- The acknowledgement of a number that is not known subscribes the signal. -/
theorem processMetaInformation_of_subscribe {c : SignalContainer} {n : SignalNumber}
    {m : MetaInformation} (hmethod : m.method = .ok metaMethodSubscribe) {s : SubscribedSignal}
    (hs : SubscribedSignal.processSubscribe m.params { signalNumber := n } = .normal s)
    (hfresh : c.subscribedSignals n = none) :
    c.processMetaInformation n m =
      ⟨.ret 0, c.setSignal n s, [.signalMeta s metaMethodSubscribe m.params]⟩ := by
  have hid : ∃ node, m.params.find? metaSignalid = some node := by
    unfold SubscribedSignal.processSubscribe at hs
    cases hnode : m.params.find? metaSignalid with
    | none =>
      rw [hnode] at hs
      cases hs
    | some node => exact ⟨node, rfl⟩
  obtain ⟨node, hnode⟩ := hid
  unfold processMetaInformation
  simp only [hmethod, metaMethodSubscribe_ne_unsubscribe, hnode, hfresh, if_true, if_false,
    processSignalMetaInformation_subscribe, hs, setSignal_setSignal]

theorem processMetaInformation_acknowledgement {c : SignalContainer} {n : SignalNumber}
    (hfresh : c.subscribedSignals n = none) (signalId : String) :
    (c.processMetaInformation n (.acknowledgement (.string signalId))).state =
      c.setSignal n { signalNumber := n, signalId := signalId } := by
  have hcall : c.processMetaInformation n (.acknowledgement (.string signalId)) =
      (c.setSignal n { signalNumber := n }).processSignalMetaInformation n metaMethodSubscribe
        (.object [(metaSignalid, .string signalId)]) { signalNumber := n } := by
    unfold processMetaInformation MetaInformation.acknowledgement
    simp [metaMethodSubscribe_ne_unsubscribe, hfresh]
  rw [hcall, processSignalMetaInformation_subscribe]
  simp [SubscribedSignal.processSubscribe, SubscribedSignal.assignId, Json.isString,
    Json.getString, setSignal_setSignal]

end MetaInformation

/-! ### Measured data -/

/-- Two states of a signal that differ in what measured data may set. -/
def SameDescription (s s' : SubscribedSignal) : Prop :=
  ∃ timeSignal time linearDelta linearValueIndex, s' = { s with
    timeSignal := timeSignal, time := time, linearDelta := linearDelta
    linearValueIndex := linearValueIndex }

theorem SameDescription.refl (s : SubscribedSignal) : SameDescription s s :=
  ⟨_, _, _, _, rfl⟩

theorem SameDescription.trans {s t u : SubscribedSignal} (h : SameDescription s t)
    (h' : SameDescription t u) : SameDescription s u := by
  obtain ⟨_, _, _, _, rfl⟩ := h
  obtain ⟨_, _, _, _, rfl⟩ := h'
  exact ⟨_, _, _, _, rfl⟩

/-- What measured data may do to an entry of `m_subscribedSignals`. -/
inductive SlotStep : Option (Option SubscribedSignal) → Option (Option SubscribedSignal) → Prop
  | absent : SlotStep none none
  | inserted : SlotStep none (some none)
  | null : SlotStep (some none) (some none)
  | kept {s s' : SubscribedSignal} (h : SameDescription s s') :
      SlotStep (some (some s)) (some (some s'))

theorem SlotStep.refl : (p : Option (Option SubscribedSignal)) → SlotStep p p
  | none => .absent
  | some none => .null
  | some (some s) => .kept (.refl s)

theorem SlotStep.trans {p q r : Option (Option SubscribedSignal)} (h : SlotStep p q)
    (h' : SlotStep q r) : SlotStep p r := by
  cases h with
  | absent => exact h'
  | inserted =>
    cases h'
    exact .inserted
  | null => exact h'
  | kept hst =>
    cases h' with
    | kept htu => exact .kept (hst.trans htu)

/-- A table names a signal. -/
def Mentions (c : SignalContainer) (n : SignalNumber) : Prop :=
  ∃ id table, c.tables id = some table ∧ ∃ time, table.Refers n time

theorem mentions_congr {c c' : SignalContainer} (h : c'.tables = c.tables) (n : SignalNumber) :
    c'.Mentions n ↔ c.Mentions n := by
  rw [Mentions, Mentions, h]

/-- What measured data may do to a container. Null pointers are inserted for numbers only that a
table names. -/
structure DataStep (c c' : SignalContainer) : Prop where
  tables : c'.tables = c.tables
  slot : ∀ k, SlotStep (c.subscribedSignals k) (c'.subscribedSignals k)
  inserted : ∀ k, c.subscribedSignals k = none → c'.subscribedSignals k = some none → c.Mentions k

theorem DataStep.refl (c : SignalContainer) : DataStep c c :=
  ⟨rfl, fun _ => .refl _, fun _ h h' => by simp [h] at h'⟩

theorem DataStep.trans {c c' c'' : SignalContainer} (h : DataStep c c') (h' : DataStep c' c'') :
    DataStep c c'' := by
  refine ⟨h'.tables.trans h.tables, fun k => (h.slot k).trans (h'.slot k), fun k hnone hnull => ?_⟩
  rcases hk : c'.subscribedSignals k with _ | _ | s
  · exact (mentions_congr h.tables k).mp (h'.inserted k hk hnull)
  · exact h.inserted k hnone hk
  · have hslot := h.slot k
    rw [hnone, hk] at hslot
    cases hslot

theorem dataStep_access {c : SignalContainer} {n : SignalNumber} (h : c.Mentions n) :
    DataStep c (c.access n) := by
  refine ⟨tables_access c n, fun k => ?_, fun k hnone hnull => ?_⟩
  · rw [subscribedSignals_access]
    split_ifs with h
    · rw [h.1, h.2]
      exact .inserted
    · exact .refl _
  · rw [subscribedSignals_access] at hnull
    split_ifs at hnull with hk
    · rw [hk.1]
      exact h
    · simp [hnone] at hnull

theorem dataStep_setSignal {c : SignalContainer} {n : SignalNumber} {s s' : SubscribedSignal}
    (hs : c.signal? n = some s) (h : SameDescription s s') : DataStep c (c.setSignal n s') := by
  refine ⟨rfl, fun k => ?_, fun k hnone hnull => ?_⟩
  · rw [subscribedSignals_setSignal]
    split_ifs with hk
    · subst hk
      rw [signal?_eq_some.mp hs]
      exact .kept h
    · exact .refl _
  · rw [subscribedSignals_setSignal] at hnull
    split_ifs at hnull
    · cases hnull
    · rw [hnone] at hnull
      cases hnull

/-- A data signal keeps its description. -/
theorem sameDescription_processMeasuredData (data : Bytes) (timeSignal : Option SubscribedSignal)
    (s : SubscribedSignal) : SameDescription s (s.processMeasuredData data timeSignal).state := by
  unfold SubscribedSignal.processMeasuredData
  cases timeSignal with
  | none =>
    rw [SubscribedSignal.state_processExplicitTime]
    exact .refl s
  | some t =>
    dsimp only
    cases t.ruleType with
    | linear =>
      dsimp only [SubscribedSignal.processLinearTime]
      split
      · split_ifs <;> exact ⟨_, _, _, _, rfl⟩
      · split_ifs <;> exact ⟨_, _, _, _, rfl⟩
      · exact ⟨_, _, _, _, rfl⟩
    | explicit =>
      rw [SubscribedSignal.state_processExplicitTime]
      exact .refl s
    | constant => exact .refl s
    | unknown => exact .refl s

/-! ### Relations that measured data keeps to -/

/-- A relation that contains all that measured data of a signal `n` does to a container. -/
structure DataRelation (n : SignalNumber) (R : SignalContainer → SignalContainer → Prop) :
    Prop where
  refl (c : SignalContainer) : R c c
  trans {c c' c'' : SignalContainer} : R c c' → R c' c'' → R c c''
  tables {c c' : SignalContainer} : R c c' → c'.tables = c.tables
  access {c : SignalContainer} {m : SignalNumber} : c.Mentions m → R c (c.access m)
  setSignal {c : SignalContainer} {s s' : SubscribedSignal} :
    c.signal? n = some s → SameDescription s s' → R c (c.setSignal n s')

namespace DataRelation

variable {n : SignalNumber} {R : SignalContainer → SignalContainer → Prop}

theorem modifySignal (h : DataRelation n R) (c : SignalContainer)
    {change : SubscribedSignal → SubscribedSignal} (hchange : ∀ s, SameDescription s (change s)) :
    R c (c.modifySignal n change) := by
  unfold SignalContainer.modifySignal
  cases hs : c.signal? n with
  | none => exact h.refl c
  | some s => exact h.setSignal hs (hchange s)

theorem visitDataSignal (h : DataRelation n R) {change : SubscribedSignal → SubscribedSignal}
    (hchange : ∀ s, SameDescription s (change s)) {m : SignalNumber} {c : SignalContainer}
    (hm : c.Mentions m) : R c (visitDataSignal n change m c).state := by
  have hstep := h.trans (h.access hm) (h.modifySignal (c.access m) hchange)
  unfold SignalContainer.visitDataSignal
  dsimp only
  split <;> exact hstep

/-- A loop over the data signals of a table, each round of which may look up its data signal. -/
theorem dataSignals (h : DataRelation n R) {c : SignalContainer} {id : String} {table : Table}
    (htable : c.tables id = some table)
    {visit : SignalNumber → SignalContainer → Completion SignalContainer}
    (hvisit : ∀ m c', c'.Mentions m → R c' (visit m c').state) :
    R c (Completion.sequence (table.dataSignals.map visit) c).state := by
  refine Completion.sequence_state_induction _ (fun p hp c' hc' => h.trans hc' ?_) c (h.refl c)
  obtain ⟨m, hm, rfl⟩ := List.mem_map.mp hp
  refine hvisit m c' ((mentions_congr (h.tables hc') m).mpr ⟨id, table, htable, false, ?_⟩)
  exact (Finset.mem_sort _).mp hm

theorem processTimeStamp (h : DataRelation n R) (c : SignalContainer) (s : SubscribedSignal)
    (data : Bytes) : R c (c.processTimeStamp n s data).state := by
  unfold SignalContainer.processTimeStamp
  split
  · exact h.refl c
  · rename_i table htable
    split
    · exact h.refl c
    · exact h.dataSignals htable fun m c' hm =>
        h.visitDataSignal (fun s => ⟨_, _, _, _, rfl⟩) hm

theorem processIndexedTimeStamp (h : DataRelation n R) (c : SignalContainer)
    (s : SubscribedSignal) (data : Bytes) :
    R c (c.processIndexedTimeStamp n s data).state := by
  unfold SignalContainer.processIndexedTimeStamp
  split
  · exact h.refl c
  · rename_i table htable
    refine h.dataSignals htable fun m c' hm => ?_
    split
    · exact h.visitDataSignal (fun s => ⟨_, _, _, _, rfl⟩) hm
    · exact h.access hm

theorem processTime (h : DataRelation n R) (c : SignalContainer) (s : SubscribedSignal)
    (data : Bytes) : R c (c.processTime n s data).state := by
  have hstamp := h.processTimeStamp c s data
  have hindexed := h.processIndexedTimeStamp c s data
  unfold SignalContainer.processTime
  split_ifs
  · cases hcall : c.processTimeStamp n s data with
    | abrupt why c' =>
      rw [hcall] at hstamp
      exact hstamp
    | normal c' =>
      rw [hcall] at hstamp
      dsimp only
      cases hs : c'.signal? n with
      | none => exact hstamp
      | some s' =>
        have hdata := h.setSignal hs (sameDescription_processMeasuredData data none s')
        dsimp only
        split <;> exact h.trans hstamp hdata
  · cases hcall : c.processIndexedTimeStamp n s data with
    | abrupt why c' =>
      rw [hcall] at hindexed
      exact hindexed
    | normal c' =>
      rw [hcall] at hindexed
      exact hindexed

theorem processValues (h : DataRelation n R) {c : SignalContainer} {s : SubscribedSignal}
    (hs : c.subscribedSignals n = some (some s)) (data : Bytes) :
    R c (c.processValues n s data).state := by
  unfold SignalContainer.processValues
  split
  · exact h.refl c
  · rename_i table htable
    split_ifs with hzero
    · exact h.refl c
    · have haccess : R c (c.access table.timeSignalNumber) :=
        h.access ⟨_, table, htable, true, ⟨rfl, hzero⟩⟩
      have hs' : (c.access table.timeSignalNumber).signal? n = some s := by
        rw [signal?_eq_some, subscribedSignals_access, if_neg, hs]
        rintro ⟨rfl, hnone⟩
        rw [hs] at hnone
        cases hnone
      refine h.trans haccess (h.setSignal hs' ?_)
      exact .trans ⟨_, _, _, _, rfl⟩ (sameDescription_processMeasuredData data _ _)

/-- Measured data keeps to the relation. -/
theorem processMeasuredData (h : DataRelation n R) (c : SignalContainer) (data : Bytes) :
    R c (c.processMeasuredData n data).state := by
  unfold SignalContainer.processMeasuredData
  rcases hs : c.subscribedSignals n with _ | _ | s
  · exact h.refl c
  · exact h.refl c
  · dsimp only
    split_ifs
    · exact h.processTime c s data
    · exact h.processValues hs data

end DataRelation

theorem dataRelation_dataStep (n : SignalNumber) : DataRelation n DataStep where
  refl := .refl
  trans := .trans
  tables h := h.tables
  access := dataStep_access
  setSignal := dataStep_setSignal

/-- Measured data leaves the tables alone and keeps every description. -/
theorem dataStep_processMeasuredData (c : SignalContainer) (n : SignalNumber) (data : Bytes) :
    DataStep c (c.processMeasuredData n data).state :=
  (dataRelation_dataStep n).processMeasuredData c data

/-- The entries of other signals are as they were. -/
structure SameOthers (n : SignalNumber) (c c' : SignalContainer) : Prop where
  tables : c'.tables = c.tables
  others : ∀ k ≠ n, c.subscribedSignals k ≠ none → c'.subscribedSignals k = c.subscribedSignals k

theorem dataRelation_sameOthers (n : SignalNumber) : DataRelation n (SameOthers n) where
  refl c := ⟨rfl, fun _ _ _ => rfl⟩
  trans h h' := by
    refine ⟨h'.tables.trans h.tables, fun k hk hknown => ?_⟩
    have hfirst := h.others k hk hknown
    exact (h'.others k hk (hfirst ▸ hknown)).trans hfirst
  tables h := h.tables
  access {c m} hm := by
    refine ⟨tables_access c m, fun k hk hknown => ?_⟩
    rw [subscribedSignals_access, if_neg]
    rintro ⟨rfl, hnone⟩
    exact hknown hnone
  setSignal {c s s'} hs h := by
    refine ⟨rfl, fun k hk hknown => ?_⟩
    rw [subscribedSignals_setSignal, if_neg hk]

/-- Measured data of a signal leaves the other signals alone. -/
theorem sameOthers_processMeasuredData (c : SignalContainer) (n : SignalNumber) (data : Bytes) :
    SameOthers n c (c.processMeasuredData n data).state :=
  (dataRelation_sameOthers n).processMeasuredData c data

end SignalContainer

end StreamingProtocol
