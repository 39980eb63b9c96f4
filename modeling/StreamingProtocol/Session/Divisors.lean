import StreamingProtocol.Session.ContainerRuns
import StreamingProtocol.Session.DataOutcomes

/-!
# Divisors

A subscribed signal divides by the size of its values, by this size and the 8 octets of an index,
and by the numerator of its resolution. The size is never 0, because a size of 0 is not taken over,
and neither is the numerator. The sum is taken modulo `2 ^ 64`, and is 0 for the size
`2 ^ 64 - 8`. Sizes are products of counts that a producer chooses, so a definition may have it. If
no description with this size is taken over, no division by 0 takes place.

## Main definitions

* `SubscribedSignal.Divisible`: the divisors of a signal are not 0.
* `SignalContainer.AvoidsWrapAround`: the size `2 ^ 64 - 8` is not taken over.

## Main results

* `SignalContainer.divisible_of_reached`.
-/

namespace StreamingProtocol

open ByteString

/-- The divisors of a signal are not 0. -/
structure SubscribedSignal.Divisible (s : SubscribedSignal) : Prop where
  dataValueSize : s.dataValueSize ≠ 0
  indexedValueSize : 8 + s.dataValueSize ≠ 0
  numerator : s.resolution.numerator ≠ 0

namespace SignalContainer

/-- The size to which 8 is added to give 0. -/
def wrappingSize : UInt64 := 0xfffffffffffffff8

theorem add_eq_zero_iff {size : UInt64} : 8 + size = 0 ↔ size = wrappingSize := by
  unfold wrappingSize
  constructor
  · intro h
    grind
  · rintro rfl
    decide

/-! ### Calls with divisors that are not 0 -/

theorem SameDescription.divisible {s s' : SubscribedSignal} (hsame : SameDescription s s')
    (h : s.Divisible) : s'.Divisible := by
  obtain ⟨_, _, _, _, rfl⟩ := hsame
  exact ⟨h.dataValueSize, h.indexedValueSize, h.numerator⟩

theorem outcome_processMeasuredData_ne {c : SignalContainer}
    (h : Stored SubscribedSignal.Divisible c) (n : SignalNumber) (data : Bytes) :
    (c.processMeasuredData n data).outcome ≠ .undefined .divisionByZero := by
  intro hdivision
  have houtcome := dataOutcome_processMeasuredData c n data
  rw [hdivision] at houtcome
  cases houtcome with
  | divisionByZero hstep hs hzero =>
    have hs := h.dataStep (fun _ _ hsame => hsame.divisible) hstep n _ (signal?_eq_some.mp hs)
    exact hzero.elim hs.dataValueSize hs.indexedValueSize

variable [JsonRuntime]

theorem outcome_processMetaInformation_ne {c : SignalContainer}
    (h : Stored SubscribedSignal.Divisible c) (n : SignalNumber) (m : MetaInformation) :
    (c.processMetaInformation n m).outcome ≠ .undefined .divisionByZero := by
  intro hdivision
  obtain hnull | ⟨s, s', hs, hrefused⟩ := processMetaInformation_undefined hdivision
  · cases hnull
  · rcases SubscribedSignal.processSignal_cases hrefused with hret | hthrow | hmissing | ⟨-, hzero⟩
    · cases hret
    · cases hthrow
    · cases hmissing
    · exact (h n s hs).numerator hzero

/-- No call divides by 0 in a container whose divisors are not 0. -/
theorem outcome_process_ne {c : SignalContainer} (h : Stored SubscribedSignal.Divisible c)
    (i : Input) : (c.process i).outcome ≠ .undefined .divisionByZero := by
  cases i with
  | metaInformation n m => exact outcome_processMetaInformation_ne h n m
  | measuredData n data => exact outcome_processMeasuredData_ne h n data

/-! ### Runs -/

/-- The definition in a description of a subscribed signal, if the description gets to the size of
the values, does not have the size to which 8 is added to give 0. -/
def AvoidsWrapAround (c : SignalContainer) : Input → Prop
  | .metaInformation n m =>
      m.method = .ok metaMethodSignal → ∀ s, c.subscribedSignals n = some (some s) →
        SubscribedSignal.Reaches m.params s .dataValueSize →
        ∀ definition, m.params.find? metaDefinition = some definition →
          getDataTypeSize definition ≠ .ok wrappingSize
  | .measuredData _ _ => True

omit [JsonRuntime] in
theorem divisible_fresh (n : SignalNumber) (id : String) :
    SubscribedSignal.Divisible { signalNumber := n, signalId := id } where
  dataValueSize := (by decide : (4 : UInt64) ≠ 0)
  indexedValueSize := (by decide : (8 + 4 : UInt64) ≠ 0)
  numerator := (by decide : (1 : UInt64) ≠ 0)

/-- A description whose size does not wrap around keeps the divisors from being 0. -/
theorem divisible_processSignal {params : Json} {s : SubscribedSignal} (h : s.Divisible)
    (havoids : SubscribedSignal.Reaches params s .dataValueSize →
      ∀ definition, params.find? metaDefinition = some definition →
        getDataTypeSize definition ≠ .ok wrappingSize) :
    (s.processSignal params).state.Divisible := by
  have hnumerator : (s.processSignal params).state.resolution.numerator ≠ 0 :=
    SubscribedSignal.numerator_processSignal h.numerator
  rcases s.dataValueSize_processSignal params with hkept | ⟨definition, hdefinition, hreaches,
    hzero, hsize⟩
  · refine ⟨?_, ?_, hnumerator⟩
    · rw [hkept]
      exact h.dataValueSize
    · rw [hkept]
      exact h.indexedValueSize
  · refine ⟨hzero, fun hsum => ?_, hnumerator⟩
    rw [add_eq_zero_iff.mp hsum] at hsize
    exact havoids hreaches definition hdefinition hsize

/-- **No division by 0.** In a run in which no description of a subscribed signal takes over the
size to which 8 is added to give 0, no divisor is 0 and no call divides by 0. -/
theorem divisible_of_reached {c : SignalContainer} (h : Reached AvoidsWrapAround c) :
    Stored SubscribedSignal.Divisible c ∧
      ∀ i, (c.process i).outcome ≠ .undefined .divisionByZero := by
  have hstored : Stored SubscribedSignal.Divisible c := by
    refine ReachedBy.invariant stored_initial (fun c i hc hi => ?_) h
    refine stored_process divisible_fresh ?_
      (fun s s' hsame => hsame.divisible) hc
    rintro n m rfl hmethod s hs hdivisible
    exact divisible_processSignal hdivisible (hi hmethod s hs)
  exact ⟨hstored, outcome_process_ne hstored⟩

/-! ### A size that wraps around -/

/-- A definition with a constant rule and a dimension of values of 8 octets. -/
def constantOfSize (size : Int64) : Json := .object
  [(metaRule, .string metaRuletypeConstant), (metaDatatype, .string dataTypeUint64),
    (metaDimensions, .array [linearDimension 1 0 size])]

omit [JsonRuntime] in
/-- A dimension with 3 values does not wrap around. -/
theorem divisible_of_reached_three :
    let c := @run decimalRuntime (dataSession (constantOfSize 3))
    Stored SubscribedSignal.Divisible c ∧
      ∀ i, (@process decimalRuntime c i).outcome ≠ .undefined .divisionByZero := by
  let _ : JsonRuntime := decimalRuntime
  refine divisible_of_reached (reached_dataSession _ ?_ ?_ ?_)
  · intro c n id h
    rw [MetaInformation.acknowledgement, MetaInformation.method_message, Except.ok.injEq] at h
    exact absurd h (by decide)
  · intro _ s _ _ definition hdefinition
    cases hdefinition
    decide +kernel
  · intro _ s _ _ definition hdefinition
    cases hdefinition
    decide +kernel

omit [JsonRuntime] in
/-- A dimension with -1 values of 8 octets has the size `2 ^ 64 - 8`, and the next data of the
signal is divided by 0. -/
theorem divisionByZero_of_reached :
    let c := @run decimalRuntime (dataSession (constantOfSize (-1)))
    @Reached decimalRuntime (fun _ _ => True) c ∧
      (c.processMeasuredData 2 []).outcome = .undefined .divisionByZero := by
  let _ : JsonRuntime := decimalRuntime
  exact ⟨reached_run _, by decide +kernel⟩

end SignalContainer

end StreamingProtocol
