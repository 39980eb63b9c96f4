import Mathlib.Data.List.Chain
import StreamingProtocol.Session.ContainerRuns
import StreamingProtocol.Session.TimePackets

/-!
# Changes of the output rate

The delta of a linear time signal may be changed by a description between two payloads of a data
signal. The time stamp of a payload is computed from the time of the last packet and the number of
values since then, with the delta that is in force when the payload arrives. So a change of the
delta moves the values before as well: the time from one value to the next is the delta only if the
values from the packet to the earlier one take the same time under both deltas.

A container is watched for two signals, a time signal `T` and a data signal `n`. What is remembered
is the last value of `n` since the last packet of `T` and the last update of a value index. Nothing
is remembered while `n` is not a data signal that gets its time from `T`.

## Main definitions

* `SignalContainer.timing?`: the two signals, if `n` gets its time from `T`.
* `Watched`, `Watched.next`: a container with the last value.
* `Watched.Continuous`: the values of a payload follow the last value and each other by the delta.
* `Watched.Unscaled`: the delta does not matter for the values before.

## Main results

* `Watched.continuous_along_iff`.
-/

namespace StreamingProtocol

open ByteString SignalContainer ReachedBy

/-! ### Time stamps of values -/

/-- The time stamps of the values of a payload. -/
def valueStamps (timeStamp delta : UInt64) (count : ℕ) : List UInt64 :=
  (List.range count).map fun j => timeStamp + UInt64.ofNat j * delta

/-- The time stamps of values that are delivered with their number. -/
def Callback.valueStamps : Callback → List UInt64
  | .dataAsValue s timeStamp _ count => StreamingProtocol.valueStamps timeStamp s.linearDelta count
  | .signalMeta .. | .dataAsRaw .. => []

section ValueStamps

variable {timeStamp delta : UInt64} {count : ℕ}

theorem head?_valueStamps (hcount : count ≠ 0) :
    (valueStamps timeStamp delta count).head? = some timeStamp := by
  obtain ⟨m, rfl⟩ := Nat.exists_eq_succ_of_ne_zero hcount
  unfold valueStamps
  rw [List.range_succ_eq_map, List.map_cons, List.head?_cons]
  have hzero : timeStamp + UInt64.ofNat 0 * delta = timeStamp := by
    have hofNat : UInt64.ofNat 0 = 0 := rfl
    rw [hofNat]
    grind
  rw [hzero]

theorem getLast?_valueStamps (hcount : count ≠ 0) :
    (valueStamps timeStamp delta count).getLast? =
      some (timeStamp + (UInt64.ofNat count - 1) * delta) := by
  obtain ⟨m, rfl⟩ := Nat.exists_eq_succ_of_ne_zero hcount
  unfold valueStamps
  rw [List.range_succ, List.map_append, List.map_singleton, List.getLast?_concat]
  have hlast : UInt64.ofNat (m + 1) - 1 = UInt64.ofNat m := by
    rw [UInt64.ofNat_add]
    grind
  rw [hlast]

/-- The values of a payload follow each other by the delta. -/
theorem isChain_valueStamps (timeStamp delta : UInt64) (count : ℕ) :
    (valueStamps timeStamp delta count).IsChain fun a b => b - a = delta := by
  unfold valueStamps
  rw [List.isChain_map, List.range_eq_range']
  refine (List.isChain_range' 0 count 1).imp fun i j hj => ?_
  rw [hj, UInt64.ofNat_add]
  grind

end ValueStamps

/-! ### The watched signals -/

/-- A message that makes a signal start anew: its subscription ends, or its value index is set. -/
def MetaInformation.restarts (m : MetaInformation) : Bool :=
  match m.method with
  | .error _ => false
  | .ok method => method = metaMethodUnsubscribe ||
      method = metaMethodSignal && (m.params.find? metaValueindex).isSome

/-- The signals `T` and `n`, if `n` is an explicit data signal of a table whose time signal is `T`,
which is linear. -/
def SignalContainer.timing? (c : SignalContainer) (T n : SignalNumber) :
    Option (SubscribedSignal × SubscribedSignal) :=
  match c.signal? T, c.signal? n with
  | some τ, some s =>
      if T ≠ 0 ∧ τ.ruleType = .linear ∧ s.isTimeSignal = false ∧ s.ruleType = .explicit ∧
          (c.tableAt s.tableId).timeSignalNumber = T then some (τ, s)
      else none
  | _, _ => none

/-- The last value of a signal, with the delta that was in force. -/
structure LastValue where
  timeStamp : UInt64
  delta : UInt64

/-- A container and the last value of a signal. -/
structure Watched where
  container : SignalContainer := .initial
  last : Option LastValue := none

namespace Watched

/-- The last value after a payload of `n`. A payload that is dropped changes nothing. -/
def lastOfPayload (T n : SignalNumber) (w : Watched) (data : Bytes) : Option LastValue :=
  let callbacks := (w.container.processMeasuredData n data).callbacks
  match w.container.timing? T n, w.container.signal? n with
  | some (τ, _), _ =>
      match (callbacks.flatMap Callback.valueStamps).getLast? with
      | none => w.last
      | some timeStamp => some ⟨timeStamp, τ.linearDelta⟩
  | none, some s => if s.isTimeSignal = false ∧ callbacks.isEmpty then w.last else none
  | none, none => none

/-- The last value after an input. -/
def lastAfter (T n : SignalNumber) (w : Watched) : Input → Option LastValue
  | .measuredData k data =>
      if k = T then none else if k = n then w.lastOfPayload T n data else w.last
  | .metaInformation k m => if (k = T ∨ k = n) ∧ m.restarts then none else w.last

variable [JsonRuntime]

/-- A watched container after an input. -/
def next (T n : SignalNumber) (w : Watched) (i : Input) : Watched :=
  ⟨w.container.next i, w.lastAfter T n i⟩

omit [JsonRuntime] in
/-- The values of a payload follow the last value and each other by the delta. -/
def Continuous (T n : SignalNumber) (w : Watched) (i : Input) : Prop :=
  ∀ data τ s, i = .measuredData n data → w.container.timing? T n = some (τ, s) →
    (w.last.toList.map LastValue.timeStamp ++
      (w.container.processMeasuredData n data).callbacks.flatMap Callback.valueStamps).IsChain
        fun a b => b - a = τ.linearDelta

omit [JsonRuntime] in
/-- When there is a value before those of a payload, the values up to that one take the same time
under the delta that was in force then and under the one that is in force now. -/
def Unscaled (T n : SignalNumber) (w : Watched) (i : Input) : Prop :=
  ∀ data τ s v, i = .measuredData n data → w.container.timing? T n = some (τ, s) →
    w.last = some v → s.dataValueSize ≠ 0 → s.dataValueSize.toNat ≤ data.length →
      (s.linearValueIndex - 1 - τ.linearValueIndex) * (τ.linearDelta - v.delta) = 0

/-! ### What is kept between values -/

section Kept

variable {c : SignalContainer} {s : SubscribedSignal} {k n : SignalNumber} {m : MetaInformation}

omit [JsonRuntime] in
/-- The time and the index that times are counted from. -/
def SameClock (s s' : SubscribedSignal) : Prop :=
  s'.time = s.time ∧ s'.linearValueIndex = s.linearValueIndex

/-- A description that sets no value index keeps the clock, whether it is accepted or not. -/
theorem sameClock_processSignal {params : Json} (h : params.find? metaValueindex = none)
    (s : SubscribedSignal) : SameClock s (s.processSignal params).state := by
  have hidentity := SubscribedSignal.view_processSignal_identity params s
  have hindex := SubscribedSignal.view_processSignal params s
    (by decide : Member.valueIndex ∈ described)
  have hstatement : SubscribedSignal.statement params .valueIndex s = .normal s := by
    unfold SubscribedSignal.statement SubscribedSignal.processValueIndex Json.assign
    rw [h]
  rw [hstatement, Completion.state_normal, ite_self] at hindex
  exact ⟨congrArg (fun identity : Member.identity.Value => identity.2.2.2) hidentity, hindex⟩

/-- Meta information that does not make a signal start anew keeps its clock. -/
theorem exists_sameClock_metaInformation (hs : c.subscribedSignals n = some (some s))
    (hm : k = n → m.restarts = false) :
    ∃ s', (c.processMetaInformation k m).state.subscribedSignals n = some (some s') ∧
      SameClock s s' := by
  have hother {c' : SignalContainer} (h : k ≠ n)
      (hc' : c'.subscribedSignals n = c.subscribedSignals n) :
      ∃ s', c'.subscribedSignals n = some (some s') ∧ SameClock s s' :=
    ⟨s, hc'.trans hs, rfl, rfl⟩
  have hdescribed {s₀ s' : SubscribedSignal} (hs₀ : c.subscribedSignals k = some (some s₀))
      (hmethod : m.method = .ok metaMethodSignal) (hs' : (s₀.processSignal m.params).state = s') :
      ∃ s'', (c.setSignal k s').subscribedSignals n = some (some s'') ∧ SameClock s s'' := by
    rw [subscribedSignals_setSignal]
    split_ifs with hkn
    · subst hkn
      obtain rfl : s₀ = s := by simpa [hs₀] using hs
      have hindex : m.params.find? metaValueindex = none := by
        have hrestarts := hm rfl
        unfold MetaInformation.restarts at hrestarts
        simpa [hmethod, metaMethodSignal_ne_unsubscribe] using hrestarts
      exact ⟨s', rfl, hs' ▸ sameClock_processSignal hindex s₀⟩
    · exact ⟨s, hs, rfl, rfl⟩
  have hstep := metaStep_processMetaInformation c k m
  generalize c.processMetaInformation k m = call at hstep
  cases hstep with
  | refused why hwhy => exact ⟨s, hs, rfl, rfl⟩
  | unsubscribed s₀ hs₀ hmethod =>
    have hkn : k ≠ n := by
      intro hkn
      have hrestarts := hm hkn
      unfold MetaInformation.restarts at hrestarts
      simp [hmethod] at hrestarts
    refine hother hkn ?_
    rw [subscribedSignals_eraseSignal, if_neg hkn.symm, subscribedSignals_unregister]
  | subscribed id hfresh hmethod hid =>
    have hkn : k ≠ n := fun hkn => by simp [hkn, hs] at hfresh
    refine hother hkn ?_
    rw [subscribedSignals_setSignal, if_neg hkn.symm]
  | subscribeRefused hfresh hmethod hid =>
    have hkn : k ≠ n := fun hkn => by simp [hkn, hs] at hfresh
    refine hother hkn ?_
    rw [subscribedSignals_setSignal, if_neg hkn.symm]
  | described s₀ s' hs₀ hmethod haccepted =>
    exact hdescribed hs₀ hmethod (congrArg Completion.state haccepted)
  | descriptionRefused s₀ s' why hs₀ hmethod hrefused =>
    exact hdescribed hs₀ hmethod (congrArg Completion.state hrefused)
  | other s₀ method hs₀ hmethod hunsubscribe hsubscribe hsignal => exact ⟨s, hs, rfl, rfl⟩

omit [JsonRuntime] in
/-- A payload of a data signal that is dropped is not counted. -/
theorem exists_index_of_dropped (hs : c.subscribedSignals n = some (some s))
    (hdata : s.isTimeSignal = false) {data : Bytes}
    (hdropped : (c.processMeasuredData n data).callbacks = []) :
    ∃ s', (c.processMeasuredData n data).state.subscribedSignals n = some (some s') ∧
      s'.linearValueIndex = s.linearValueIndex := by
  have hcall : c.processMeasuredData n data = c.processValues n s data := by
    unfold processMeasuredData
    simp only [hs, hdata, Bool.false_eq_true, if_false]
  rw [hcall] at hdropped ⊢
  unfold processValues at hdropped ⊢
  split at hdropped
  · exact ⟨s, hs, rfl⟩
  · split_ifs at hdropped ⊢
    · exact ⟨s, hs, rfl⟩
    · exact ⟨_, subscribedSignals_setSignal_self _ _ _,
        SubscribedSignal.linearValueIndex_of_callbacks_eq_nil hdropped⟩

end Kept

/-! ### Payloads with times -/

section Timed

omit [JsonRuntime]

variable {c : SignalContainer} {T n : SignalNumber} {τ s : SubscribedSignal}

theorem timing?_eq_some (h : c.timing? T n = some (τ, s)) :
    c.subscribedSignals T = some (some τ) ∧ c.subscribedSignals n = some (some s) ∧ T ≠ 0 ∧
      τ.ruleType = .linear ∧ s.isTimeSignal = false ∧ s.ruleType = .explicit ∧
      (c.tableAt s.tableId).timeSignalNumber = T := by
  unfold timing? at h
  cases hT : c.signal? T with
  | none => simp [hT] at h
  | some t =>
    cases hn : c.signal? n with
    | none => simp [hT, hn] at h
    | some u =>
      simp only [hT, hn] at h
      split_ifs at h with hboth
      cases h
      exact ⟨signal?_eq_some.mp hT, signal?_eq_some.mp hn, hboth⟩

/-- The values of a payload have the times of their indices, and are counted. -/
theorem timed_payload (h : c.timing? T n = some (τ, s)) (data : Bytes) :
    (c.processMeasuredData n data).callbacks.flatMap Callback.valueStamps =
        valueStamps (τ.nextTime s) τ.linearDelta (data.length / s.dataValueSize.toNat) ∧
      ∃ s', (c.processMeasuredData n data).state.subscribedSignals n = some (some s') ∧
        s'.linearValueIndex =
          s.linearValueIndex + UInt64.ofNat (data.length / s.dataValueSize.toNat) := by
  obtain ⟨hT, hn, hzero, hlinear, hdata, hexplicit, htable⟩ := timing?_eq_some h
  have hnonzero : (c.tableAt s.tableId).timeSignalNumber ≠ 0 := htable ▸ hzero
  have hcall := processMeasuredData_data hn hdata hexplicit
    (tables_eq_some_of_timeSignalNumber hnonzero) hnonzero (htable.symm ▸ hT) hlinear data
  dsimp only at hcall
  by_cases hsize : s.dataValueSize = 0
  · have hcount : data.length / s.dataValueSize.toNat = 0 := by
      rw [hsize]
      exact Nat.div_zero _
    rw [if_pos hsize] at hcall
    rw [hcall, hcount]
    refine ⟨rfl, _, subscribedSignals_setSignal_self _ _ _, ?_⟩
    exact (UInt64.add_zero _).symm
  · rw [if_neg hsize] at hcall
    rw [hcall]
    refine ⟨?_, _, subscribedSignals_setSignal_self _ _ _, rfl⟩
    exact List.append_nil _

end Timed

/-! ### The last value -/

section Anchored

variable {T n : SignalNumber} {w : Watched}

omit [JsonRuntime] in
/-- The last value has the time of its index, under the delta that was in force. -/
def Anchored (T n : SignalNumber) (w : Watched) : Prop :=
  ∀ v, w.last = some v → T ≠ n ∧ ∃ τ s, w.container.subscribedSignals T = some (some τ) ∧
    w.container.subscribedSignals n = some (some s) ∧
    v.timeStamp = τ.time + (s.linearValueIndex - 1 - τ.linearValueIndex) * v.delta

omit [JsonRuntime] in
/-- The last value is kept together with the clock of `T` and the value index of `n`. -/
theorem Anchored.kept (h : w.Anchored T n) {c : SignalContainer}
    (hT : T ≠ n → ∀ τ, w.container.subscribedSignals T = some (some τ) →
      ∃ τ', c.subscribedSignals T = some (some τ') ∧ SameClock τ τ')
    (hn : T ≠ n → ∀ s, w.container.subscribedSignals n = some (some s) →
      ∃ s', c.subscribedSignals n = some (some s') ∧ s'.linearValueIndex = s.linearValueIndex) :
    (⟨c, w.last⟩ : Watched).Anchored T n := by
  intro v hv
  obtain ⟨hne, τ, s, hτ, hs, hstamp⟩ := h v hv
  obtain ⟨τ', hτ', htime, hanchor⟩ := hT hne τ hτ
  obtain ⟨s', hs', hindex⟩ := hn hne s hs
  refine ⟨hne, τ', s', hτ', hs', ?_⟩
  rw [htime, hanchor, hindex]
  exact hstamp

omit [JsonRuntime] in
/-- Nothing is said without a last value. -/
theorem anchored_none (c : SignalContainer) : (⟨c, none⟩ : Watched).Anchored T n := by
  intro v hv
  cases hv

omit [JsonRuntime] in
/-- A payload of another signal keeps the clock of a signal. -/
theorem exists_sameClock_measuredData {c : SignalContainer} {s : SubscribedSignal}
    {k : SignalNumber} (hs : c.subscribedSignals n = some (some s)) (hk : n ≠ k) (data : Bytes) :
    ∃ s', (c.processMeasuredData k data).state.subscribedSignals n = some (some s') ∧
      SameClock s s' := by
  have hknown : c.subscribedSignals n ≠ none := by
    rw [hs]
    exact Option.some_ne_none _
  have hsame := (sameOthers_processMeasuredData c k data).others n hk hknown
  exact ⟨s, hsame.trans hs, rfl, rfl⟩

omit [JsonRuntime] in
/-- A payload of `n`. -/
theorem Anchored.payload (h : w.Anchored T n) (hne : n ≠ T) (data : Bytes) :
    (⟨(w.container.processMeasuredData n data).state, w.lastOfPayload T n data⟩ :
      Watched).Anchored T n := by
  have hT (τ : SubscribedSignal) (hτ : w.container.subscribedSignals T = some (some τ)) :=
    exists_sameClock_measuredData hτ hne.symm data
  unfold lastOfPayload
  dsimp only
  cases htiming : w.container.timing? T n with
  | some signals =>
    obtain ⟨τ, s⟩ := signals
    obtain ⟨hstamps, s', hs', hindex⟩ := timed_payload htiming data
    obtain ⟨hτ, hs, -⟩ := timing?_eq_some htiming
    dsimp only
    rw [hstamps]
    by_cases hcount : data.length / s.dataValueSize.toNat = 0
    · rw [hcount] at hindex ⊢
      refine h.kept (fun _ => hT) fun _ t ht => ⟨s', hs', ?_⟩
      obtain rfl : s = t := by simpa [hs] using ht
      exact hindex.trans (UInt64.add_zero _)
    · rw [getLast?_valueStamps hcount]
      intro v hv
      cases hv
      obtain ⟨τ', hτ', htime, hanchor⟩ := hT τ hτ
      refine ⟨hne.symm, τ', s', hτ', hs', ?_⟩
      rw [htime, hanchor, hindex, SubscribedSignal.nextTime]
      grind
  | none =>
    cases hsignal : w.container.signal? n with
    | none => exact anchored_none _
    | some s =>
      dsimp only
      split_ifs with hdropped
      · refine h.kept (fun _ => hT) fun _ t ht => ?_
        obtain rfl : s = t := by simpa [signal?_eq_some.mp hsignal] using ht
        exact exists_index_of_dropped ht hdropped.1 (List.isEmpty_iff.mp hdropped.2)
      · exact anchored_none _

/-- Every input keeps the last value at the time of its index. -/
theorem anchored_next (h : w.Anchored T n) (i : Input) : (w.next T n i).Anchored T n := by
  cases i with
  | metaInformation k m =>
    show (⟨_, if (k = T ∨ k = n) ∧ m.restarts then none else w.last⟩ : Watched).Anchored T n
    split_ifs with hrestarts
    · exact anchored_none _
    · have hkeeps (hk : k = T ∨ k = n) : m.restarts = false :=
        Bool.eq_false_iff.mpr fun hm => hrestarts ⟨hk, hm⟩
      refine h.kept (fun _ τ hτ => exists_sameClock_metaInformation hτ fun hk => hkeeps (.inl hk))
        fun _ s hs => ?_
      obtain ⟨s', hs', -, hindex⟩ :=
        exists_sameClock_metaInformation hs fun hk => hkeeps (.inr hk)
      exact ⟨s', hs', hindex⟩
  | measuredData k data =>
    show (⟨_, if k = T then none else if k = n then w.lastOfPayload T n data else w.last⟩ :
      Watched).Anchored T n
    split_ifs with hkT hkn
    · exact anchored_none _
    · subst hkn
      exact h.payload hkT data
    · refine h.kept (fun _ τ hτ => exists_sameClock_measuredData hτ (Ne.symm hkT) data)
        fun _ s hs => ?_
      obtain ⟨s', hs', -, hindex⟩ := exists_sameClock_measuredData hs (Ne.symm hkn) data
      exact ⟨s', hs', hindex⟩

omit [JsonRuntime] in
/-- The step from the last value to the first one of a payload. -/
theorem Anchored.step_eq_iff (h : w.Anchored T n) {τ s : SubscribedSignal} {v : LastValue}
    (htiming : w.container.timing? T n = some (τ, s)) (hv : w.last = some v) :
    τ.nextTime s - v.timeStamp = τ.linearDelta ↔
      (s.linearValueIndex - 1 - τ.linearValueIndex) * (τ.linearDelta - v.delta) = 0 := by
  obtain ⟨hτ, hs, -⟩ := timing?_eq_some htiming
  obtain ⟨-, τ', s', hτ', hs', hstamp⟩ := h v hv
  obtain rfl : τ = τ' := by simpa [hτ] using hτ'
  obtain rfl : s = s' := by simpa [hs] using hs'
  rw [SubscribedSignal.nextTime, hstamp]
  constructor
  · intro hstep
    grind
  · intro hsame
    grind

omit [JsonRuntime] in
/-- The values of a payload continue those before if and only if these are not moved. -/
theorem continuous_iff_unscaled (h : w.Anchored T n) (i : Input) :
    w.Continuous T n i ↔ w.Unscaled T n i := by
  constructor
  · intro hcontinuous data τ s v hi htiming hv hsize hlength
    have hchain := hcontinuous data τ s hi htiming
    have hcount : data.length / s.dataValueSize.toNat ≠ 0 :=
      Nat.div_ne_zero_iff.mpr ⟨fun hzero => hsize (UInt64.toNat_inj.mp hzero), hlength⟩
    rw [(timed_payload htiming data).1, hv] at hchain
    have hstep := (List.isChain_cons.mp hchain).1 _ (head?_valueStamps hcount)
    exact (h.step_eq_iff htiming hv).mp hstep
  · intro hunscaled data τ s hi htiming
    have hpayload := isChain_valueStamps (τ.nextTime s) τ.linearDelta
      (data.length / s.dataValueSize.toNat)
    rw [(timed_payload htiming data).1]
    cases hv : w.last with
    | none => exact hpayload
    | some v =>
      refine List.isChain_cons.mpr ⟨fun stamp hstamp => ?_, hpayload⟩
      have hstamp : stamp ∈ (valueStamps (τ.nextTime s) τ.linearDelta
        (data.length / s.dataValueSize.toNat)).head? := hstamp
      by_cases hcount : data.length / s.dataValueSize.toNat = 0
      · rw [hcount] at hstamp
        cases hstamp
      · rw [head?_valueStamps hcount] at hstamp
        cases hstamp
        obtain ⟨hsize, hlength⟩ := Nat.div_ne_zero_iff.mp hcount
        have hsize : s.dataValueSize ≠ 0 := by
          rintro hzero
          rw [hzero] at hsize
          exact hsize rfl
        exact (h.step_eq_iff htiming hv).mpr (hunscaled data τ s v hi htiming hv hsize hlength)

end Anchored

/-- **Changes of the output rate.** In every run, the values of each payload of `n` continue the
last value before, by the delta that is in force, if and only if the values up to that one take the
same time under this delta and under the one before. -/
theorem continuous_along_iff (T n : SignalNumber) (inputs : List Input) :
    AllowedAlong (next T n) (Continuous T n) {} inputs ↔
      AllowedAlong (next T n) (Unscaled T n) {} inputs :=
  allowedAlong_congr (anchored_none initial) (fun _ i h => anchored_next h i)
    (fun _ i h => continuous_iff_unscaled h i) inputs

omit [JsonRuntime] in
/-- Two octets from the time 100 on, one tick apart, then a delta of 10 and another octet. -/
def rateChange : List Input :=
  dataSession (.object [(metaDatatype, .string dataTypeUint8)]) ++
    [.measuredData 1 (leBytes 8 0 ++ leBytes 8 100), .measuredData 2 [1, 2],
      .metaInformation 1 (.description "t" (.object
        [(metaRuletypeLinear, .object [(metaDelta, .numberUnsigned 10)])])),
      .measuredData 2 [3]]

omit [JsonRuntime] in
/-- The third octet has the time 120, the one before it 101. -/
theorem not_continuous_rateChange :
    ¬ @AllowedAlong _ _ (@next decimalRuntime 1 2) (Continuous 1 2) {} rateChange := by
  intro h
  let w := (rateChange.take 7).foldl (@next decimalRuntime 1 2) {}
  have hlast : w.Continuous 1 2 (.measuredData 2 [3]) := h.2.2.2.2.2.2.2.1
  have hdelta : (w.container.timing? 1 2).map (fun signals => signals.1.linearDelta) = some 10 := by
    decide +kernel
  have hstamps : w.last.toList.map LastValue.timeStamp ++
      (w.container.processMeasuredData 2 [3]).callbacks.flatMap Callback.valueStamps =
        [101, 120] := by
    decide +kernel
  obtain ⟨⟨τ, s⟩, htiming, hdelta⟩ := Option.map_eq_some_iff.mp hdelta
  have hchain := hlast [3] τ s rfl htiming
  rw [hstamps, hdelta] at hchain
  exact absurd (List.isChain_pair.mp hchain) (by decide)

end Watched

end StreamingProtocol
