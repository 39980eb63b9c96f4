import StreamingProtocol.Presentation.AnnouncedSize
import StreamingProtocol.Session.ContainerRuns

/-!
# The number of values in a payload

The number of values that a callback reports comes from the size of the values and the rule of the
time signal, but values are interpreted by their type and the rule of the data signal. All values
that are reported lie in the payload if the size holds a value of the type and both rules agree
about the index before each value. The first is kept by descriptions that announce size and type
together. Nothing checks the second: under an explicit time rule a payload is counted without
indices, also if the data signal has another rule.

## Main definitions

* `Callback.interpretable`: the values that are reported lie in the payload.
* `SubscribedSignal.RulesFit`: what is counted as one value holds what is read as one.
* `SignalContainer.AnnouncesTogether`.

## Main results

* `SignalContainer.interpretable_of_reached`.
-/

namespace StreamingProtocol

open ByteString

/-- An interpretation of the values that a callback reports stays inside the payload. -/
def Callback.interpretable [JsonRuntime] : Callback → Bool
  | .dataAsValue s _ data valueCount => (s.interpretValuesAsDouble data valueCount).isOk
  | .signalMeta .. | .dataAsRaw .. => true

namespace SubscribedSignal

/-- What is counted as one value holds what is read as one. Under a linear time rule, the sum of
the sizes of index and value does not wrap around, or is longer than the payload. Under an explicit
time rule, a data signal with another rule has room for an index in its size, or the payload has no
value or is not counted. -/
def RulesFit (s : SubscribedSignal) (timeSignal : Option SubscribedSignal) (data : Bytes) : Prop :=
  interpretedSize s.dataValueType = 0 ∨
    match (timeSignal.map ruleType).getD .explicit, s.ruleType with
    | .explicit, .explicit => True
    | .explicit, _ => data = [] ∨ s.valueStride ≤ s.dataValueSize.toNat ∨
        ¬ s.dataValueSize.toNat ∣ data.length
    | .linear, .constant => s.dataValueSize.toNat + 8 ≤ 2 ^ 64 ∨
        data.length < (8 + s.dataValueSize).toNat
    | _, _ => True

theorem valueStride_of_explicit {s : SubscribedSignal} (h : s.ruleType = .explicit) :
    s.valueStride = interpretedSize s.dataValueType := by
  rw [valueStride, indexSize, if_pos h, Nat.zero_add]

theorem valueStride_of_ne {s : SubscribedSignal} (h : s.ruleType ≠ .explicit) :
    s.valueStride = 8 + interpretedSize s.dataValueType := by
  rw [valueStride, indexSize, if_neg h]

/-- The rule of an explicit data signal fits every time rule. -/
theorem rulesFit_of_explicit {s : SubscribedSignal} {timeSignal : Option SubscribedSignal}
    {data : Bytes} (h : s.ruleType = .explicit) : s.RulesFit timeSignal data := by
  right
  rw [h]
  cases (timeSignal.map ruleType).getD .explicit <;> trivial

variable [JsonRuntime]

/-- The values counted by a division are interpreted inside the payload if a stride fits into the
divisor or no value is counted. -/
theorem interpretable_of_stride_le {s : SubscribedSignal} {data : Bytes} {divisor : ℕ}
    (time : UInt64) (h : interpretedSize s.dataValueType = 0 ∨ s.valueStride ≤ divisor ∨
      data.length < divisor) :
    (Callback.dataAsValue s time data (data.length / divisor)).interpretable := by
  have hiff := s.interpretValuesAsDouble_isOk_iff data (data.length / divisor)
  have hok : ∃ values, s.interpretValuesAsDouble data (data.length / divisor) = .ok values := by
    rw [hiff]
    rcases h with hzero | hle | hlt
    · exact .inl hzero
    · right
      calc s.valueStride * (data.length / divisor)
          ≤ divisor * (data.length / divisor) := Nat.mul_le_mul_right _ hle
        _ ≤ data.length := Nat.mul_div_le _ _
    · right
      rw [Nat.div_eq_of_lt hlt, Nat.mul_zero]
      exact Nat.zero_le _
  obtain ⟨values, hvalues⟩ := hok
  rw [Callback.interpretable, hvalues]
  rfl

/-- The callbacks for a payload whose values are counted by a division. -/
theorem interpretable_counted {s : SubscribedSignal} {data : Bytes} {divisor : ℕ} (time : UInt64)
    (h : interpretedSize s.dataValueType = 0 ∨ s.valueStride ≤ divisor ∨ data.length < divisor) :
    ∀ callback ∈ [Callback.dataAsRaw s time data,
        .dataAsValue s time data (data.length / divisor)], callback.interpretable := by
  rw [List.forall_mem_cons, List.forall_mem_singleton]
  exact ⟨rfl, interpretable_of_stride_le time h⟩

theorem interpretable_processExplicitTime {s : SubscribedSignal} {data : Bytes} (hfits : s.Fits)
    (hrule : interpretedSize s.dataValueType = 0 ∨ s.ruleType = .explicit ∨ data = [] ∨
      s.valueStride ≤ s.dataValueSize.toNat ∨ ¬ s.dataValueSize.toNat ∣ data.length)
    (time : UInt64) :
    ∀ callback ∈ (s.processExplicitTime data time).callbacks, callback.interpretable := by
  unfold processExplicitTime
  split_ifs with hzero hcounted
  · exact List.forall_mem_nil _
  · exact List.forall_mem_nil _
  · have hpos : 0 < s.dataValueSize.toNat := by
      rw [Nat.pos_iff_ne_zero]
      exact fun h => hzero (UInt64.toNat_inj.mp h)
    refine interpretable_counted _ ?_
    rcases hrule with hwidth | hexplicit | rfl | hle | hdvd
    · exact .inl hwidth
    · rw [valueStride_of_explicit hexplicit]
      exact .inr (.inl hfits)
    · exact .inr (.inr hpos)
    · exact .inr (.inl hle)
    · exact absurd (Nat.dvd_of_mod_eq_zero (not_not.mp hcounted)) hdvd

omit [JsonRuntime] in
/-- An index and a value have room in the sum of the sizes, if the sum does not wrap around. -/
theorem valueStride_le_add {s : SubscribedSignal} (hfits : s.Fits)
    (hconstant : s.ruleType = .constant) (hsum : s.dataValueSize.toNat + 8 ≤ 2 ^ 64)
    (hzero : 8 + s.dataValueSize ≠ 0) : s.valueStride ≤ (8 + s.dataValueSize).toNat := by
  have hne : s.ruleType ≠ .explicit := by
    rw [hconstant]
    exact nofun
  have hpos : (8 + s.dataValueSize).toNat ≠ 0 := fun h => hzero (UInt64.toNat_inj.mp h)
  unfold Fits at hfits
  rw [valueStride_of_ne hne]
  rw [UInt64.toNat_add] at hpos ⊢
  change (8 + s.dataValueSize.toNat) % 2 ^ 64 ≠ 0 at hpos
  show _ ≤ (8 + s.dataValueSize.toNat) % 2 ^ 64
  omega

theorem interpretable_processLinearTime {s : SubscribedSignal} {data : Bytes} (hfits : s.Fits)
    (hrule : s.ruleType = .constant → interpretedSize s.dataValueType = 0 ∨
      s.dataValueSize.toNat + 8 ≤ 2 ^ 64 ∨ data.length < (8 + s.dataValueSize).toNat)
    (timeSignal : SubscribedSignal) :
    ∀ callback ∈ (processLinearTime data timeSignal s).callbacks, callback.interpretable := by
  unfold processLinearTime
  generalize hu : ({ s with linearDelta := timeSignal.linearDelta } : SubscribedSignal) = u
  have hfits : u.Fits := by
    rw [← hu]
    exact hfits
  have hrule : u.ruleType = .constant → interpretedSize u.dataValueType = 0 ∨
      u.dataValueSize.toNat + 8 ≤ 2 ^ 64 ∨ data.length < (8 + u.dataValueSize).toNat := by
    rw [← hu]
    exact hrule
  cases htype : u.ruleType with
  | explicit =>
    simp only [htype]
    split_ifs with hzero
    · rw [List.forall_mem_singleton]
      rfl
    · refine interpretable_counted _ ?_
      rw [valueStride_of_explicit htype]
      exact .inr (.inl hfits)
  | constant =>
    simp only [htype]
    split_ifs with hzero
    · rw [List.forall_mem_singleton]
      rfl
    · refine interpretable_counted _ ?_
      rcases hrule htype with hwidth | hsum | hlt
      · exact .inl hwidth
      · exact .inr (.inl (valueStride_le_add hfits htype hsum hzero))
      · exact .inr (.inr hlt)
  | linear =>
    simp only [htype]
    exact List.forall_mem_nil _
  | unknown =>
    simp only [htype]
    exact List.forall_mem_nil _

/-- The values reported for a payload lie in it if size and type fit and so do the rules. -/
theorem interpretable_processMeasuredData {s : SubscribedSignal} {data : Bytes}
    {timeSignal : Option SubscribedSignal} (hfits : s.Fits) (hrules : s.RulesFit timeSignal data) :
    ∀ callback ∈ (s.processMeasuredData data timeSignal).callbacks, callback.interpretable := by
  unfold processMeasuredData
  unfold RulesFit at hrules
  cases timeSignal with
  | none =>
    refine interpretable_processExplicitTime hfits ?_ 0
    rcases hrules with hwidth | hrules
    · exact .inl hwidth
    · cases hrule : s.ruleType <;> simp_all
  | some t =>
    dsimp only
    cases htime : t.ruleType with
    | linear =>
      refine interpretable_processLinearTime hfits (fun hconstant => ?_) t
      simpa [htime, hconstant] using hrules
    | explicit =>
      refine interpretable_processExplicitTime hfits ?_ t.time
      rcases hrules with hwidth | hrules
      · exact .inl hwidth
      · cases hrule : s.ruleType <;> simp_all
    | constant => exact List.forall_mem_nil _
    | unknown => exact List.forall_mem_nil _

end SubscribedSignal

namespace SignalContainer

variable [JsonRuntime]

/-- The definition in a description of a subscribed signal, if the description gets to the size of
the values, announces size and type together; measured data of a data signal is counted as it is
read. -/
def AnnouncesTogether (c : SignalContainer) : Input → Prop
  | .metaInformation n m =>
      m.method = .ok metaMethodSignal → ∀ s, c.subscribedSignals n = some (some s) →
        SubscribedSignal.Reaches m.params s .dataValueSize →
        ∀ definition, m.params.find? metaDefinition = some definition →
          s.FitsAnnounced definition
  | .measuredData n data =>
      ∀ s, c.subscribedSignals n = some (some s) → s.isTimeSignal = false →
        ∀ table, c.tables s.tableId = some table → table.timeSignalNumber ≠ 0 →
          s.RulesFit (c.signal? table.timeSignalNumber) data

/-- **Reported values.** In a run whose descriptions announce size and type together, the values
that are reported for a payload of a data signal which is counted as it is read lie in the
payload. -/
theorem interpretable_of_reached {c : SignalContainer} (h : Reached AnnouncesTogether c)
    {n : SignalNumber} {s : SubscribedSignal} (hs : c.subscribedSignals n = some (some s))
    (hdata : s.isTimeSignal = false) {data : Bytes}
    (hrules : AnnouncesTogether c (.measuredData n data)) :
    ∀ callback ∈ (c.processMeasuredData n data).callbacks, callback.interpretable := by
  have hstored : Stored SubscribedSignal.Fits c := by
    refine ReachedBy.invariant stored_initial (fun c i hc hi => ?_) h
    refine stored_process (fun n id => Nat.zero_le _) ?_ ?_ hc
    · rintro n m rfl hmethod s hs hfits
      exact SubscribedSignal.fits_processSignal hfits (hi hmethod s hs)
    · rintro s s' ⟨_, _, _, _, rfl⟩ hfits
      exact hfits
  unfold processMeasuredData
  simp only [hs, hdata, Bool.false_eq_true, if_false]
  unfold processValues
  cases htable : c.tables s.tableId with
  | none => exact List.forall_mem_nil _
  | some table =>
    dsimp only
    split_ifs with hzero
    · exact List.forall_mem_nil _
    · rw [signal?_access]
      refine SubscribedSignal.interpretable_processMeasuredData ?_ ?_
      · exact hstored n s hs
      · exact hrules s hs hdata table htable hzero

/-- A definition of values of 8 octets with a dimension. -/
def valuesOver (dimension : Json) : Json := .object
  [(metaDatatype, .string dataTypeUint64), (metaDimensions, .array [dimension])]

omit [JsonRuntime] in
/-- A dimension with 2 values, and a payload of 2 times 8 octets. -/
theorem interpretable_of_reached_two :
    ((@run decimalRuntime (dataSession (valuesOver (linearDimension 1 0 2)))).processMeasuredData 2
      (List.replicate 16 0)).callbacks.all (@Callback.interpretable decimalRuntime) := by
  let _ : JsonRuntime := decimalRuntime
  have hreached : Reached AnnouncesTogether
      (run (dataSession (valuesOver (linearDimension 1 0 2)))) := by
    refine reached_dataSession _ ?_ ?_ ?_
    · intro c n id h
      rw [MetaInformation.acknowledgement, MetaInformation.method_message, Except.ok.injEq] at h
      exact absurd h (by decide)
    · intro _ s _ _ definition hdefinition size hsize
      cases hdefinition
      have h : getDataTypeSize linearTime = .ok 8 := by decide +kernel
      cases h.symm.trans hsize
      exact ⟨nofun, fun _ => nofun⟩
    · intro _ s _ _ definition hdefinition size hsize
      cases hdefinition
      have h : getDataTypeSize (valuesOver (linearDimension 1 0 2)) = .ok 16 := by decide +kernel
      cases h.symm.trans hsize
      exact ⟨nofun, fun _ => nofun⟩
  have hdescribed : ((run (dataSession (valuesOver (linearDimension 1 0 2)))).signal? 2).map
      (fun s => (s.isTimeSignal, s.ruleType)) = some (false, .explicit) := by decide +kernel
  obtain ⟨s, hs, hdescribed⟩ := Option.map_eq_some_iff.mp hdescribed
  obtain ⟨hdata, hrule⟩ := Prod.mk.inj hdescribed
  have hs := signal?_eq_some.mp hs
  refine List.all_eq_true.mpr (interpretable_of_reached hreached hs hdata ?_)
  intro s' hs' _ table _ _
  cases hs.symm.trans hs'
  exact SubscribedSignal.rulesFit_of_explicit hrule

omit [JsonRuntime] in
/-- The size of a dimension that does not start with 1 is not known. The size 4 of a new signal is
kept, and a payload of 4 octets is reported as a value of 8 octets. -/
theorem not_interpretable_of_reached :
    let c := @run decimalRuntime (dataSession (valuesOver (linearDimension 0 1 2)))
    @Reached decimalRuntime (fun _ _ => True) c ∧
      ∃ callback ∈ (c.processMeasuredData 2 [0, 0, 0, 0]).callbacks,
        @Callback.interpretable decimalRuntime callback = false := by
  let _ : JsonRuntime := decimalRuntime
  exact ⟨reached_run _, by decide +kernel⟩

end SignalContainer

end StreamingProtocol
