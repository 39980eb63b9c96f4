import StreamingProtocol.Foundation.WrappedQuotients
import StreamingProtocol.Producer.Signals

/-!
# Ticks and nanoseconds

Times are given in ticks, and durations to the producer in nanoseconds. Both ways the numbers are
scaled by a product and a division in 64 bits. The output rate of a linear time signal is multiplied
by the ticks per second first, and this product may wrap although the rate in ticks is small: at a
resolution of nanoseconds from a period of about 18 seconds on. Ticks are converted to nanoseconds
in two parts, the whole seconds and the rest, so that only the rest of a second is multiplied; it
may wrap where a tick is shorter than about 54 picoseconds.

## Main definitions

* `LinearTimeSignal.new`, `LinearTimeSignal.setOutputRate`.
* `LinearTimeSignal.announcedDelta`: the delta that the consumer is told.
* `BaseDomainSignal.nanosecondsFromTimeTicks`.

## Main results

* `LinearTimeSignal.exactDelta_iff`: when the delta is exact.
* `BaseDomainSignal.nanosecondsFromTimeTicks_eq_iff`: when the conversion to nanoseconds is exact;
  `BaseDomainSignal.toInt_nanosecondsFromTimeTicks_of_le`: it always is for ticks that are not too
  short.
-/

namespace StreamingProtocol

/-- The nanoseconds of a second. -/
def nanosecondsPerSecond : ℕ := 10 ^ 9

/-! ### The output rate -/

namespace LinearTimeSignal

/-- `LinearTimeSignal::LinearTimeSignal`, with the counter of the signal numbers. The output rate is
a number of nanoseconds, which is converted to an unsigned one for the product. -/
def new (counter : UInt32) (signalId tableId : String) (timeTicksPerSecond : UInt64)
    (outputRate : Int64) : LinearTimeSignal where
  signalNumber := (nextSignalNumber counter).2
  signalNumber_ne_zero := nextSignalNumber_ne_zero counter
  signalId := signalId
  tableId := tableId
  timeTicksPerSecond := timeTicksPerSecond
  outputRateInTicks := timeTicksPerSecond * outputRate.toUInt64 / 1000000000

/-- `LinearTimeSignal::setOutputRate`, of ticks. -/
def setOutputRateInTicks (timeTicks : UInt64) (s : LinearTimeSignal) : LinearTimeSignal :=
  { s with outputRateInTicks := timeTicks }

/-- `LinearTimeSignal::setOutputRate`, of nanoseconds. -/
def setOutputRate (nanoseconds : Int64) (s : LinearTimeSignal) : LinearTimeSignal :=
  s.setOutputRateInTicks (s.resolution.denominator * nanoseconds.toUInt64 / 1000000000)

/-- The delta in the description of the signal. -/
def announcedDelta (s : LinearTimeSignal) : Json :=
  (((s.description.member params).member metaDefinition).member metaRuletypeLinear).member metaDelta

/-- The description has a number of ticks for the delta. -/
def AnnouncesDelta (s : LinearTimeSignal) (ticks : ℕ) : Prop :=
  ∃ delta, s.announcedDelta = .numberUnsigned delta ∧ delta.toNat = ticks

/-- The output rate in ticks, rounded down. -/
def exactDelta (timeTicksPerSecond : UInt64) (outputRate : Int64) : ℕ :=
  timeTicksPerSecond.toNat * outputRate.toNatClampNeg / nanosecondsPerSecond

theorem announcedDelta_eq (s : LinearTimeSignal) :
    s.announcedDelta = .numberUnsigned s.outputRateInTicks := by
  have hdefinition : (s.description.member params).member metaDefinition =
      s.memberInformation := by
    unfold description BaseDomainSignal.parameters BaseSignal.composeInterpretation
    split_ifs <;> rfl
  rw [announcedDelta, hdefinition]
  rfl

theorem announcesDelta_iff (s : LinearTimeSignal) (ticks : ℕ) :
    s.AnnouncesDelta ticks ↔ s.outputRateInTicks.toNat = ticks := by
  simp [AnnouncesDelta, announcedDelta_eq]

/-- The scaled output rate is exact if the product is one of a machine. -/
theorem toNat_scaled_eq_iff (timeTicksPerSecond : UInt64) {outputRate : Int64}
    (h : 0 ≤ outputRate) :
    (timeTicksPerSecond * outputRate.toUInt64 / 1000000000).toNat =
        exactDelta timeTicksPerSecond outputRate ↔
      timeTicksPerSecond.toNat * outputRate.toNatClampNeg < 2 ^ 64 := by
  have hunsigned : outputRate.toUInt64.toNat = outputRate.toNatClampNeg :=
    Int64.toNat_toUInt64_of_le h
  have hquotient := UInt64.toNat_mul_div_eq_iff (a := timeTicksPerSecond)
    (b := outputRate.toUInt64) (d := 1000000000) (by decide)
  rwa [hunsigned] at hquotient

/-- **Output rate in ticks.** The constructor and the change of the output rate both announce the
exact delta if and only if the product of the ticks per second and the output rate is one of a
machine. -/
theorem exactDelta_iff (timeTicksPerSecond : UInt64) (outputRate : Int64) (h : 0 ≤ outputRate) :
    ((∀ counter signalId tableId, (new counter signalId tableId timeTicksPerSecond
        outputRate).AnnouncesDelta (exactDelta timeTicksPerSecond outputRate)) ∧
      ∀ s : LinearTimeSignal, s.timeTicksPerSecond = timeTicksPerSecond →
        (s.setOutputRate outputRate).AnnouncesDelta (exactDelta timeTicksPerSecond outputRate)) ↔
      timeTicksPerSecond.toNat * outputRate.toNatClampNeg < 2 ^ 64 := by
  rw [← toNat_scaled_eq_iff timeTicksPerSecond h]
  constructor
  · rintro ⟨hnew, -⟩
    exact (announcesDelta_iff ..).mp (hnew 0 "" "")
  · intro hexact
    refine ⟨fun counter signalId tableId => ?_, fun s hs => ?_⟩
    · exact (announcesDelta_iff ..).mpr hexact
    · subst hs
      exact (announcesDelta_iff ..).mpr hexact

/-- A period of a second at a resolution of nanoseconds. -/
theorem exactDelta_second :
    (new 0 "time" "table" 1000000000 1000000000).AnnouncesDelta 1000000000 :=
  ((exactDelta_iff 1000000000 1000000000 (by decide)).mpr (by decide)).1 0 "time" "table"

/-- A period of 20 seconds at a resolution of nanoseconds: the delta would be one of a machine, but
it is not announced. -/
theorem not_exactDelta_twentySeconds :
    exactDelta 1000000000 20000000000 = 20000000000 ∧
      ¬ (new 0 "time" "table" 1000000000 20000000000).AnnouncesDelta 20000000000 ∧
      (new 0 "time" "table" 1000000000 20000000000).AnnouncesDelta 1553255926 := by
  simp only [announcesDelta_iff]
  decide

end LinearTimeSignal

/-! ### Nanoseconds of ticks -/

namespace BaseDomainSignal

/-- `BaseDomainSignal::nanosecondsFromTimeTicks`. The ticks per second are not 0. -/
def nanosecondsFromTimeTicks (timeTicks timeTicksPerSecond : UInt64) : Int64 :=
  let seconds := timeTicks / timeTicksPerSecond
  let subTicks := timeTicks % timeTicksPerSecond
  let subTicks := subTicks * 1000000000
  let subTicks := subTicks / timeTicksPerSecond
  (seconds * 1000000000).toInt64 + subTicks.toInt64

/-- The duration in nanoseconds, rounded down. -/
def exactNanoseconds (timeTicks timeTicksPerSecond : UInt64) : ℕ :=
  timeTicks.toNat * nanosecondsPerSecond / timeTicksPerSecond.toNat

variable {timeTicks timeTicksPerSecond : UInt64}

/-- The exact duration is one of whole seconds and one of the ticks of the last second. -/
theorem seconds_add_subTicks (timeTicks : UInt64) (h : 1 ≤ timeTicksPerSecond.toNat) :
    timeTicks.toNat / timeTicksPerSecond.toNat * nanosecondsPerSecond +
        timeTicks.toNat % timeTicksPerSecond.toNat * nanosecondsPerSecond /
          timeTicksPerSecond.toNat =
      exactNanoseconds timeTicks timeTicksPerSecond :=
  Nat.div_mul_add_mod_mul_div h _ _

/-- What is returned: the whole seconds are exact, and nothing wraps when the parts are added. -/
theorem toInt_nanosecondsFromTimeTicks (h : 1 ≤ timeTicksPerSecond.toNat)
    (hfit : exactNanoseconds timeTicks timeTicksPerSecond < 2 ^ 63) :
    (nanosecondsFromTimeTicks timeTicks timeTicksPerSecond).toInt =
      (timeTicks.toNat / timeTicksPerSecond.toNat * nanosecondsPerSecond +
        (timeTicks % timeTicksPerSecond * 1000000000 / timeTicksPerSecond).toNat : ℕ) := by
  have hparts := seconds_add_subTicks timeTicks h
  have hle := UInt64.toNat_mul_div_le (timeTicks % timeTicksPerSecond) 1000000000 timeTicksPerSecond
  rw [UInt64.toNat_mod] at hle
  have hnanoseconds : (1000000000 : UInt64).toNat = nanosecondsPerSecond := by decide
  rw [hnanoseconds] at hle
  have hseconds : (timeTicks / timeTicksPerSecond * 1000000000).toNat =
      timeTicks.toNat / timeTicksPerSecond.toNat * nanosecondsPerSecond := by
    rw [UInt64.toNat_mul, UInt64.toNat_div, hnanoseconds, Nat.mod_eq_of_lt (by omega)]
  rw [nanosecondsFromTimeTicks, UInt64.toInt_add_toInt64 (by omega), hseconds]
  push_cast
  rfl

/-- The rest of a second is converted exactly if it is a number of a machine when multiplied. -/
theorem toNat_subTicks_eq_iff (h : 1 ≤ timeTicksPerSecond.toNat) :
    (timeTicks % timeTicksPerSecond * 1000000000 / timeTicksPerSecond).toNat =
        timeTicks.toNat % timeTicksPerSecond.toNat * nanosecondsPerSecond /
          timeTicksPerSecond.toNat ↔
      timeTicks.toNat % timeTicksPerSecond.toNat * nanosecondsPerSecond < 2 ^ 64 := by
  have hquotient := UInt64.toNat_mul_div_eq_iff (a := timeTicks % timeTicksPerSecond)
    (b := 1000000000) h
  rwa [UInt64.toNat_mod] at hquotient

/-- The conversion is exact if a tick is not too short. -/
theorem toInt_nanosecondsFromTimeTicks_of_le (h : 1 ≤ timeTicksPerSecond.toNat)
    (hfit : exactNanoseconds timeTicks timeTicksPerSecond < 2 ^ 63)
    (hcoarse : timeTicksPerSecond.toNat ≤ 18446744074) :
    (nanosecondsFromTimeTicks timeTicks timeTicksPerSecond).toInt =
      exactNanoseconds timeTicks timeTicksPerSecond := by
  have hsubTicks : timeTicks.toNat % timeTicksPerSecond.toNat * nanosecondsPerSecond < 2 ^ 64 := by
    have hrest := Nat.mod_lt timeTicks.toNat h
    unfold nanosecondsPerSecond
    omega
  rw [toInt_nanosecondsFromTimeTicks h hfit, (toNat_subTicks_eq_iff h).mpr hsubTicks,
    seconds_add_subTicks timeTicks h]

/-- **Nanoseconds of ticks.** The duration is exact if and only if the ticks after the last whole
second are a number of a machine when they are multiplied by the nanoseconds of a second. -/
theorem nanosecondsFromTimeTicks_eq_iff (timeTicks timeTicksPerSecond : UInt64)
    (h : 1 ≤ timeTicksPerSecond.toNat)
    (hfit : exactNanoseconds timeTicks timeTicksPerSecond < 2 ^ 63) :
    (nanosecondsFromTimeTicks timeTicks timeTicksPerSecond).toInt =
        exactNanoseconds timeTicks timeTicksPerSecond ↔
      timeTicks.toNat % timeTicksPerSecond.toNat * nanosecondsPerSecond < 2 ^ 64 := by
  rw [← toNat_subTicks_eq_iff h, toInt_nanosecondsFromTimeTicks h hfit,
    ← seconds_add_subTicks timeTicks h, Int.natCast_inj, Nat.add_left_cancel_iff]

/-- Half a second at a resolution of nanoseconds. -/
theorem nanosecondsFromTimeTicks_half :
    (nanosecondsFromTimeTicks 500000000 1000000000).toInt = 500000000 :=
  (nanosecondsFromTimeTicks_eq_iff 500000000 1000000000 (by decide) (by decide)).mpr (by decide)

/-- Half a second, with `2 ^ 40` ticks per second. -/
theorem nanosecondsFromTimeTicks_fine :
    exactNanoseconds 549755813888 1099511627776 = 500000000 ∧
      (nanosecondsFromTimeTicks 549755813888 1099511627776).toInt = 13460736 := by
  decide

end BaseDomainSignal

end StreamingProtocol
