import StreamingProtocol.Session.Batching
import StreamingProtocol.Session.Isolation

/-!
# Signals beside others

A container is given calls for a group of signals and calls for other signals, which are described
with other tables, in any order. What the callbacks deliver of the signals of the group is what they
deliver when the container is given the calls of the group alone.

## Main definitions

* `Callback.IsDataOf`: a callback that delivers data of a signal.
* `SignalGroup.others`: the signals and the tables that are not those of a group.
* `SignalGroup.Covers`: values that are taken from the data of a group.

## Main results

* `SignalContainer.isDataOf_processMeasuredData`: for whom the callbacks for measured data are.
* `SignalGroup.flatMap_callbacks`: interleaved calls of a group and of other signals.
-/

namespace StreamingProtocol

open ByteString

/-! ### Callbacks with data -/

/-- A callback delivers data of a signal. -/
def Callback.IsDataOf (n : SignalNumber) : Callback → Prop
  | .dataAsRaw s _ _ => s.signalNumber = n
  | .dataAsValue s _ _ _ => s.signalNumber = n
  | .signalMeta .. => False

/-- The callbacks for measured data are for the signal that it is handed to. -/
theorem SubscribedSignal.isDataOf_processMeasuredData {s : SubscribedSignal} {n : SignalNumber}
    {data : Bytes} {timeSignal : Option SubscribedSignal} (hs : s.signalNumber = n)
    {callback : Callback} (h : callback ∈ (s.processMeasuredData data timeSignal).callbacks) :
    callback.IsDataOf n := by
  have hexplicit (time : UInt64) : ∀ callback ∈ (s.processExplicitTime data time).callbacks,
      callback.IsDataOf n := by
    unfold SubscribedSignal.processExplicitTime
    split_ifs <;> simp [Callback.IsDataOf, hs]
  have hlinear (t : SubscribedSignal) : ∀ callback ∈ (t.processLinearTime data s).callbacks,
      callback.IsDataOf n := by
    unfold SubscribedSignal.processLinearTime
    dsimp only
    split
    · split_ifs <;> simp [Callback.IsDataOf, hs]
    · split_ifs <;> simp [Callback.IsDataOf, hs]
    · simp
  unfold SubscribedSignal.processMeasuredData at h
  split at h
  · exact hexplicit 0 callback h
  · next t =>
    split at h
    · exact hlinear t callback h
    · exact hexplicit t.time callback h
    · cases h
    · cases h

namespace SignalContainer

variable {c : SignalContainer}

/-- The callbacks for measured data are for a signal that the container knows. -/
theorem isDataOf_processMeasuredData (hc : StoredAt (fun n s => s.signalNumber = n) c)
    (n : SignalNumber) (data : Bytes) :
    ∀ callback ∈ (c.processMeasuredData n data).callbacks,
      callback.IsDataOf n ∧ ∃ s, c.signal? n = some s := by
  unfold SignalContainer.processMeasuredData
  split
  · simp
  · simp
  · next s hs =>
    have hnumber := hc n s hs
    refine fun callback hcallback => ⟨?_, s, signal?_eq_some.mpr hs⟩
    split_ifs at hcallback with htime
    · -- a time signal with an explicit rule, after the time stamp has been stored
      have hstep := (dataRelation_dataStep n).processTimeStamp c s data
      unfold SignalContainer.processTime at hcallback
      split_ifs at hcallback
      · split at hcallback
        · cases hcallback
        · next c' hc' =>
          rw [hc'] at hstep
          split at hcallback
          · cases hcallback
          · next s' hs' =>
            have hstored : StoredAt (fun n s => s.signalNumber = n) c' := by
              refine hc.dataStep (fun k s s' hsame hk => ?_) hstep
              obtain ⟨_, _, _, _, rfl⟩ := hsame
              exact hk
            have hmem : callback ∈ (s'.processMeasuredData data none).callbacks := by
              dsimp only at hcallback
              split at hcallback <;> exact hcallback
            exact SubscribedSignal.isDataOf_processMeasuredData
              (hstored n s' (signal?_eq_some.mp hs')) hmem
      · split at hcallback <;> cases hcallback
    · unfold SignalContainer.processValues at hcallback
      split at hcallback
      · cases hcallback
      · split_ifs at hcallback
        · cases hcallback
        · dsimp only at hcallback
          exact SubscribedSignal.isDataOf_processMeasuredData (by exact hnumber) hcallback

variable [JsonRuntime]

/-- The callbacks for calls of a group tell about signals, or deliver data of the group. -/
theorem isDataOf_callbacks {G : SignalGroup} {inputs : List Input}
    (hinputs : ∀ i ∈ inputs, G.Sends i) (hc : Reached (fun _ _ => True) c) :
    ∀ callback ∈ c.callbacks inputs,
      (∃ s method params, callback = .signalMeta s method params) ∨
        ∃ n ∈ G.numbers, callback.IsDataOf n := by
  induction inputs generalizing c with
  | nil => exact List.forall_mem_nil _
  | cons i inputs ih =>
    obtain ⟨hi, hinputs⟩ := List.forall_mem_cons.mp hinputs
    have hnext : Reached (fun _ _ => True) (c.process i).state := hc.step i trivial
    intro callback hcallback
    rcases List.mem_append.mp hcallback with hcallback | hcallback
    · cases i with
      | metaInformation n m =>
        have hsingle : ∀ input ∈ [Input.metaInformation n m], ∃ n m, input = .metaInformation n m :=
          fun input hinput => ⟨n, m, List.mem_singleton.mp hinput⟩
        refine .inl (callbacks_metaInformation hsingle c callback ?_)
        exact List.mem_append_left _ hcallback
      | measuredData n data =>
        have hnumbers : StoredAt (fun n s => s.signalNumber = n) c :=
          fun k s hs => (storedAt_of_reached hc k s hs).1
        exact .inr ⟨n, hi, (isDataOf_processMeasuredData hnumbers n data callback hcallback).1⟩
    · exact ih hinputs hnext callback hcallback

/-- The callbacks of a run are those of the answers. -/
theorem callbacks_eq_flatMap (c : SignalContainer) (inputs : List Input) :
    c.callbacks inputs = (answers answer c inputs).flatMap fun a => a.2.2 := by
  induction inputs generalizing c with
  | nil => rfl
  | cons i inputs ih =>
    rw [callbacks, answers, List.flatMap_cons, ih]
    rfl

end SignalContainer

/-! ### A group and others -/

namespace SignalGroup

/-- All signals and tables that are not those of a group. -/
def others (G : SignalGroup) : SignalGroup where
  numbers := G.numbersᶜ
  tableIds := {id | id ≠ "" ∧ id ∉ G.tableIds}
  empty_notMem h := h.1 rfl

/-- Values that are taken from callbacks with data of a group. -/
def Covers {β : Type} (G : SignalGroup) (values : Callback → List β) : Prop :=
  ∀ callback, (∀ n ∈ G.numbers, ¬callback.IsDataOf n) → values callback = []

variable {G : SignalGroup} {β : Type} {values : Callback → List β}

theorem Covers.signalMeta (h : G.Covers values) (s : SubscribedSignal) (method : String)
    (params : Json) : values (.signalMeta s method params) = [] :=
  h _ fun _ _ => id

theorem Covers.of_others (h : G.Covers values) {n : SignalNumber} (hn : n ∈ G.others.numbers)
    {callback : Callback} (hcallback : callback.IsDataOf n) : values callback = [] := by
  refine h callback fun k hk hdata => hn ?_
  have hsame : k = n := by
    cases callback with
    | dataAsRaw s time data => exact hdata.symm.trans hcallback
    | dataAsValue s time data count => exact hdata.symm.trans hcallback
    | signalMeta s method params => exact hdata.elim
  exact hsame ▸ hk

theorem covers_rawValues {n : SignalNumber} (hn : n ∈ G.numbers) :
    G.Covers (Callback.rawValues n) := by
  intro callback hcallback
  cases callback with
  | dataAsRaw s time data => exact if_neg (hcallback n hn)
  | dataAsValue s time data count => rfl
  | signalMeta s method params => rfl

theorem covers_countedValues {n : SignalNumber} (hn : n ∈ G.numbers) :
    G.Covers (Callback.countedValues n) := by
  intro callback hcallback
  cases callback with
  | dataAsRaw s time data => rfl
  | dataAsValue s time data count => exact if_neg (hcallback n hn)
  | signalMeta s method params => rfl

variable [JsonRuntime]

/-- **Values of a group.** In an interleaving with calls for other signals, the values that are
delivered for a group are those that are delivered for the calls of the group alone. -/
theorem flatMap_callbacks {own rest inputs : List Input} (h : Interleaving own rest inputs)
    (hown : ∀ i ∈ own, G.Sends i) (hrest : ∀ i ∈ rest, G.others.Sends i)
    (hvalues : G.Covers values) :
    (SignalContainer.initial.callbacks inputs).flatMap values =
      (SignalContainer.initial.callbacks own).flatMap values := by
  have hnumbers : Disjoint G.numbers G.others.numbers := Set.disjoint_compl_right_iff_subset.mpr
    subset_rfl
  have htableIds : Disjoint G.tableIds G.others.tableIds :=
    Set.disjoint_left.mpr fun _ hid hother => hother.2 hid
  have hanswers := Party.interleaving_answers (spares_party hnumbers htableIds)
    (spares_party hnumbers.symm htableIds.symm) h hown hrest
    ⟨join_self G .initial, within_initial G, rfl⟩
    ⟨join_self G.others .initial, within_initial G.others, rfl⟩
  rw [SignalContainer.callbacks_eq_flatMap, SignalContainer.callbacks_eq_flatMap,
    List.flatMap_assoc, List.flatMap_assoc]
  refine hanswers.flatMap_eq fun answer hanswer => ?_
  rw [List.flatMap_eq_nil_iff]
  intro callback hcallback
  have hmem : callback ∈ SignalContainer.initial.callbacks rest := by
    rw [SignalContainer.callbacks_eq_flatMap]
    exact List.mem_flatMap.mpr ⟨answer, hanswer, hcallback⟩
  rcases SignalContainer.isDataOf_callbacks hrest .init callback hmem with
    ⟨s, method, params, rfl⟩ | ⟨n, hn, hdata⟩
  · exact hvalues.signalMeta s method params
  · exact hvalues.of_others hn hdata

end SignalGroup

end StreamingProtocol
