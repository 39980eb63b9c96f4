import Mathlib.Algebra.Order.Group.Unbundled.Int
import Mathlib.Data.List.Iterate
import Mathlib.Data.Nat.ModEq
import StreamingProtocol.Foundation.Samples
import StreamingProtocol.Producer.Signals

/-!
# Generated signals

The signal generator makes up the values of its signals. A generated signal remembers the time up to
which it has produced samples. Each time it is processed it produces the samples of the sample
periods that have passed since then, and moves the time by one step for each of them. The number of
samples is converted to 32 bits. The step of a synchronous signal is the sample period. The step of
an asynchronous signal is converted to the resolution that the program is built for.

As long as the step is the sample period, it does not matter how often a signal is processed: the
samples are those that are due, up to a multiple of `2 ^ 32`, and in the same order.

## Main definitions

* `Sampler`, `Sampler.process`: what generated signals have in common.
* `GeneratedSynchronousSignal`, `GeneratedAsynchronousSignal`, `GeneratedSignal`.
* `Sampler.produced`, `Sampler.due`: the samples of a function, and how many of them are due.

## Main results

* `Sampler.process_cases`: what processing a signal does.
* `Sampler.after_due_modEq`, `Sampler.due_eq_zero`: how many samples are left.
-/

namespace StreamingProtocol

open ByteString

/-- A function of the signal generator, with the period of the signal and the sample period. The
points of time within one period are numbers of a floating point format, of which no laws are
assumed. -/
structure GeneratedFunction (F : Type) where
  dataType : DataType
  calculate : F → Bytes
  length_calculate (periodTime : F) : (calculate periodTime).length = dataType.size
  period : F
  samplePeriod : F
  range : Range := {}
  postScaling : PostScaling := {}

/-- What generated signals have in common. The sample period, and the step of the time for each
sample, are numbers of nanoseconds. -/
structure Sampler (F : Type) where
  function : GeneratedFunction F
  samplePeriod : ℤ
  step : ℤ
  lastProcessTime : ℤ
  periodTime : F

section Samples

variable {F : Type} [Add F] [Sub F] [Zero F] [LE F] [DecidableLE F]

/-- The point of time of the next sample, which starts anew at the end of a period. -/
def GeneratedFunction.next (f : GeneratedFunction F) (periodTime : F) : F :=
  let periodTime := periodTime + f.samplePeriod
  if f.period - f.samplePeriod ≤ periodTime then 0 else periodTime

namespace Sampler

/-- One round of the loop of `process`, with the values so far. -/
def sample (s : Sampler F × List Bytes) : Sampler F × List Bytes :=
  ({ s.1 with
      periodTime := s.1.function.next s.1.periodTime
      lastProcessTime := s.1.lastProcessTime + s.1.step },
    s.2 ++ [s.1.function.calculate s.1.periodTime])

/-- The number of samples, converted to an `unsigned int`. -/
def samplesToProcess (currentTime : ℤ) (s : Sampler F) : ℕ :=
  ((currentTime - s.lastProcessTime).tdiv s.samplePeriod % 2 ^ 32).toNat

/-- The loop of `process`, with the check before it: the values to be added. -/
def process (currentTime : ℤ) (s : Sampler F) : Except Fault (Sampler F × List Bytes) :=
  if s.lastProcessTime ≤ currentTime then
    if s.samplePeriod = 0 then .error .divisionByZero
    else .ok (sample^[s.samplesToProcess currentTime] (s, []))
  else .ok (s, [])

/-! ### Samples -/

/-- The values of the next samples. -/
def produced (s : Sampler F) (n : ℕ) : List Bytes :=
  (List.iterate s.function.next s.periodTime n).map s.function.calculate

/-- After a number of samples. -/
def after (n : ℕ) (s : Sampler F) : Sampler F :=
  { s with
    periodTime := s.function.next^[n] s.periodTime
    lastProcessTime := s.lastProcessTime + n * s.step }

/-- The samples that are due at a time. -/
def due (currentTime : ℤ) (s : Sampler F) : ℕ :=
  ((currentTime - s.lastProcessTime) / s.samplePeriod).toNat

variable (s : Sampler F) (m n : ℕ)

@[simp] theorem length_produced : (s.produced n).length = n := by
  rw [produced, List.length_map, List.length_iterate]

theorem produced_zero : s.produced 0 = [] := rfl

theorem after_zero : s.after 0 = s := by
  rw [after, Nat.cast_zero, zero_mul, add_zero]
  rfl

@[simp] theorem function_after : (s.after n).function = s.function := rfl
@[simp] theorem samplePeriod_after : (s.after n).samplePeriod = s.samplePeriod := rfl
@[simp] theorem step_after : (s.after n).step = s.step := rfl

theorem after_after : (s.after m).after n = s.after (m + n) := by
  have hperiod : s.function.next^[n] (s.function.next^[m] s.periodTime) =
      s.function.next^[m + n] s.periodTime := by
    rw [Nat.add_comm m n, Function.iterate_add_apply]
  have htime : s.lastProcessTime + m * s.step + n * s.step =
      s.lastProcessTime + ((m + n : ℕ) : ℤ) * s.step := by
    rw [Nat.cast_add, add_mul, add_assoc]
  rw [after, after, after]
  exact congrArg₂ (fun periodTime lastProcessTime =>
    { s with periodTime := periodTime, lastProcessTime := lastProcessTime }) hperiod htime

theorem produced_add : s.produced (m + n) = s.produced m ++ (s.after m).produced n := by
  rw [produced, List.iterate_add, List.map_append]
  rfl

/-- The first samples are the ones that are produced at first. -/
theorem eq_produced_of_isPrefix {values : List Bytes} (h : values <+: s.produced n) :
    values = s.produced values.length := by
  have htake := List.prefix_iff_eq_take.mp h
  have hle := h.length_le
  rw [length_produced] at hle
  rw [produced, ← List.map_take, List.take_iterate, min_eq_left hle] at htake
  exact htake

/-- The samples have the size of their type. -/
theorem length_of_mem_produced {value : Bytes} (h : value ∈ s.produced n) :
    value.length = s.function.dataType.size := by
  obtain ⟨periodTime, -, rfl⟩ := List.mem_map.mp h
  exact s.function.length_calculate periodTime

/-- The loop. -/
theorem sample_iterate (values : List Bytes) :
    sample^[n] (s, values) = (s.after n, values ++ s.produced n) := by
  induction n with
  | zero => rw [Function.iterate_zero, id, after_zero, produced_zero, List.append_nil]
  | succ n ih =>
    have hsample : sample (s.after n, values ++ s.produced n) =
        ((s.after n).after 1, values ++ s.produced n ++ (s.after n).produced 1) := by
      rw [sample, after, after]
      simp only [Nat.cast_one, one_mul, Function.iterate_one]
      rfl
    rw [Function.iterate_succ_apply', ih, hsample, after_after, produced_add, List.append_assoc]

/-- The number of samples of one call of `process`. -/
def samples (currentTime : ℤ) (s : Sampler F) : ℕ :=
  if s.lastProcessTime ≤ currentTime then s.samplesToProcess currentTime else 0

/-- **Processing.** A signal without a sample period leads to a division by 0. Any other signal
produces the samples that follow. -/
theorem process_cases (currentTime : ℤ) :
    s.samplePeriod = 0 ∧ s.lastProcessTime ≤ currentTime ∧
        s.process currentTime = .error .divisionByZero ∨
      (s.samplePeriod = 0 → currentTime < s.lastProcessTime) ∧
        s.process currentTime =
          .ok (s.after (s.samples currentTime), s.produced (s.samples currentTime)) := by
  unfold process samples
  by_cases htime : s.lastProcessTime ≤ currentTime
  · by_cases hperiod : s.samplePeriod = 0
    · exact .inl ⟨hperiod, htime, by rw [if_pos htime, if_pos hperiod]⟩
    · refine .inr ⟨fun h => absurd h hperiod, ?_⟩
      rw [if_pos htime, if_neg hperiod, if_pos htime, sample_iterate, List.nil_append]
  · refine .inr ⟨fun _ => not_le.mp htime, ?_⟩
    rw [if_neg htime, if_neg htime, after_zero]
    rfl

/-! ### Samples that are due -/

section Due

variable {s m n} {currentTime : ℤ} (hperiod : 0 < s.samplePeriod)

include hperiod

/-- Samples that have been produced are no longer due. -/
theorem due_after (hstep : s.step = s.samplePeriod) :
    (s.after n).due currentTime = s.due currentTime - n := by
  have htime : currentTime - (s.lastProcessTime + n * s.samplePeriod) =
      currentTime - s.lastProcessTime - n * s.samplePeriod := by ring
  rw [due, due, after]
  dsimp only
  rw [hstep, htime, Int.sub_mul_ediv_right _ _ hperiod.ne']
  omega

/-- The time is not ahead as long as no more samples than those that are due were produced. -/
theorem lastProcessTime_after_le (hstep : s.step = s.samplePeriod)
    (htime : s.lastProcessTime ≤ currentTime) (hn : n ≤ s.due currentTime) :
    (s.after n).lastProcessTime ≤ currentTime := by
  have hdiv : (n : ℤ) ≤ (currentTime - s.lastProcessTime) / s.samplePeriod := by
    have hnonneg := Int.ediv_nonneg (Int.sub_nonneg_of_le htime) hperiod.le
    rw [due] at hn
    omega
  have hmul := (Int.le_ediv_iff_mul_le hperiod).mp hdiv
  rw [after]
  dsimp only
  rw [hstep]
  omega

/-- What is left to be produced, modulo `2 ^ 32`. -/
theorem samples_after (hstep : s.step = s.samplePeriod) (htime : s.lastProcessTime ≤ currentTime)
    (hn : n ≤ s.due currentTime) :
    (s.after n).samples currentTime = (s.due currentTime - n) % 2 ^ 32 := by
  have hlast := lastProcessTime_after_le hperiod hstep htime hn
  have hnonneg : 0 ≤ currentTime - (s.after n).lastProcessTime := Int.sub_nonneg_of_le hlast
  have hdiv := Int.ediv_nonneg hnonneg (b := s.samplePeriod) hperiod.le
  rw [samples, if_pos hlast, samplesToProcess, samplePeriod_after,
    Int.tdiv_eq_ediv_of_nonneg hnonneg, ← due_after hperiod hstep, due, samplePeriod_after]
  omega

omit [Add F] [Sub F] [Zero F] [LE F] [DecidableLE F] in
/-- More samples are due later. -/
theorem due_mono {currentTime' : ℤ} (htime : currentTime ≤ currentTime') :
    s.due currentTime ≤ s.due currentTime' :=
  Int.toNat_le_toNat (Int.ediv_le_ediv hperiod (Int.sub_le_sub_right htime _))

omit [Add F] [Sub F] [Zero F] [LE F] [DecidableLE F] in
/-- The samples that become due during a time. -/
theorem due_add_le {k : ℕ} {currentTime' : ℤ}
    (hk : currentTime' ≤ currentTime + k * s.samplePeriod) :
    s.due currentTime' ≤ s.due currentTime + k := by
  have hdiv : (currentTime' - s.lastProcessTime) / s.samplePeriod ≤
      (currentTime - s.lastProcessTime) / s.samplePeriod + k := by
    rw [← Int.add_mul_ediv_right _ _ hperiod.ne']
    exact Int.ediv_le_ediv hperiod (by omega)
  rw [due, due]
  omega

end Due

/-! ### Samples of a run -/

/-- The samples after calls of `process` at points of time. -/
def count (s : Sampler F) (times : List ℤ) : ℕ :=
  times.foldl (fun n currentTime => n + (s.after n).samples currentTime) 0

theorem count_append_singleton (times : List ℤ) (currentTime : ℤ) :
    s.count (times ++ [currentTime]) =
      s.count times + (s.after (s.count times)).samples currentTime := by
  rw [count, List.foldl_append]
  rfl

/-- Points of time with the same distance. -/
def equidistant (start distance : ℤ) (k : ℕ) : List ℤ :=
  (List.range k).map fun i : ℕ => start + i * distance

theorem equidistant_succ (start distance : ℤ) (k : ℕ) :
    equidistant start distance (k + 1) =
      equidistant start distance k ++ [start + k * distance] := by
  rw [equidistant, List.range_succ, List.map_append]
  rfl

/-- **Samples of a run.** A signal that is processed at points of time with the same distance has
produced what is due at the last one, up to a multiple of `2 ^ 32`, and exactly this if less than
`2 ^ 32` samples become due at a time. -/
theorem count_equidistant {s : Sampler F} {distance : ℤ} (hperiod : 0 < s.samplePeriod)
    (hstep : s.step = s.samplePeriod) (hdistance : 0 ≤ distance) (k : ℕ) :
    let n := s.count (equidistant s.lastProcessTime distance (k + 1))
    let due := s.due (s.lastProcessTime + k * distance)
    n ≤ due ∧ n ≡ due [MOD 2 ^ 32] ∧
      (distance ≤ (2 ^ 32 - 1 : ℕ) * s.samplePeriod → n = due) := by
  induction k with
  | zero =>
    have hdue : s.due (s.lastProcessTime + ((0 : ℕ) : ℤ) * distance) = 0 := by
      rw [due, Nat.cast_zero, zero_mul, add_zero, sub_self, Int.zero_ediv]
      rfl
    have hcount : s.count (equidistant s.lastProcessTime distance (0 + 1)) = 0 := by
      have hsamples := samples_after hperiod hstep (s.lastProcessTime.le_refl) (Nat.zero_le _)
      rw [Nat.cast_zero, zero_mul, add_zero] at hdue
      rw [after_zero, hdue] at hsamples
      rw [equidistant_succ, count_append_singleton, equidistant, List.range_zero, List.map_nil,
        count, List.foldl_nil, after_zero, Nat.cast_zero, zero_mul, add_zero, hsamples]
      rfl
    dsimp only
    rw [hcount, hdue]
    exact ⟨le_rfl, rfl, fun _ => rfl⟩
  | succ k ih =>
    obtain ⟨hle, hmod, hexact⟩ := ih
    have hnext : s.lastProcessTime + ((k + 1 : ℕ) : ℤ) * distance =
        s.lastProcessTime + k * distance + distance := by
      rw [Nat.cast_succ, add_mul, one_mul, add_assoc]
    dsimp only at hle hmod hexact ⊢
    rw [equidistant_succ _ _ (k + 1), count_append_singleton]
    generalize s.count (equidistant s.lastProcessTime distance (k + 1)) = n at hle hmod hexact ⊢
    generalize hnow : s.lastProcessTime + k * distance = now at hle hmod hexact hnext
    generalize s.lastProcessTime + ((k + 1 : ℕ) : ℤ) * distance = next at hnext ⊢
    have hdue : s.due now ≤ s.due next := due_mono hperiod (by omega)
    have hgrows (hbound : distance ≤ (2 ^ 32 - 1 : ℕ) * s.samplePeriod) :
        s.due next ≤ s.due now + (2 ^ 32 - 1) := due_add_le hperiod (by omega)
    have hstart : s.lastProcessTime ≤ now := by
      have := mul_nonneg (Int.natCast_nonneg k) hdistance
      omega
    rw [samples_after hperiod hstep (by omega) (hle.trans hdue)]
    generalize s.due next = d' at hdue hgrows ⊢
    generalize s.due now = d at hle hmod hexact hdue hgrows
    have hrest := Nat.mod_le (d' - n) (2 ^ 32)
    refine ⟨by omega, ?_, fun hbound => ?_⟩
    · have hsum : n + (d' - n) = d' := by omega
      calc n + (d' - n) % 2 ^ 32 ≡ n + (d' - n) [MOD 2 ^ 32] :=
            Nat.ModEq.add_left n (Nat.mod_modEq _ _)
        _ = d' := hsum
    · have hd := hexact hbound
      have hgrown := hgrows hbound
      omega

end Sampler

end Samples

/-- The data of a signal in a call of the writer. -/
def WriterCall.dataOf (number : UInt32) : WriterCall → Bytes
  | writeMetaInformation _ _ => []
  | writeSignalData n data => if n = number then data else []

/-- Calls of the writer send data of a signal. -/
def WritesData (calls : List WriterCall) (number : UInt32) (data : Bytes) : Prop :=
  (∀ c ∈ calls, c.signalNumber = number) ∧ calls.flatMap (WriterCall.dataOf number) = data

theorem writesData_nil (number : UInt32) : WritesData [] number [] :=
  ⟨fun _ h => (List.not_mem_nil h).elim, rfl⟩

/-- The data of values that are sent one by one. -/
theorem dataOf_addData (s : AsynchronousSignal) (step : UInt64) (values : List Bytes) (x : UInt64) :
    (s.addData ((numbered step values x).map Prod.swap)).flatMap
      (WriterCall.dataOf s.signalNumber) = values.flatten := by
  induction values generalizing x with
  | nil => rfl
  | cons value values ih =>
    rw [numbered, List.map_cons, AsynchronousSignal.addData, List.map_cons, List.flatMap_cons,
      WriterCall.dataOf, if_pos rfl, List.flatten_cons]
    exact congrArg (value ++ ·) (ih (x + step))

/-! ### Signals -/

/-- `GeneratedSynchronousSignal`. -/
structure GeneratedSynchronousSignal (F : Type) where
  sampler : Sampler F
  signal : SynchronousSignal

/-- `GeneratedAsynchronousSignal`, with the time stamp of the next value, and what is added to it
for each value. -/
structure GeneratedAsynchronousSignal (F : Type) where
  sampler : Sampler F
  signal : AsynchronousSignal
  timestamp : UInt64
  deltaTime : UInt64

/-- `iGeneratedSignal`. A `GeneratedTimeSignal` has one of two kinds of time signals. -/
inductive GeneratedSignal (F : Type) where
  | synchronous (g : GeneratedSynchronousSignal F)
  | asynchronous (g : GeneratedAsynchronousSignal F)
  | linearTime (s : LinearTimeSignal)
  | explicitTime (s : ExplicitTimeSignal)

/-- `addNanosecondsToTimePoint`. Nanoseconds are converted to the resolution of the program first,
which is a number of nanoseconds. -/
def addNanosecondsToTimePoint (resolution systemTime nanoSeconds : ℤ) : ℤ :=
  systemTime + nanoSeconds.tdiv resolution * resolution

section Signals

variable {F : Type} [Add F] [Sub F] [Zero F] [LE F] [DecidableLE F]

omit [Add F] [Sub F] [LE F] [DecidableLE F] in
/-- The sampler of a new signal. -/
def Sampler.new (function : GeneratedFunction F) (samplePeriod step currentTime : ℤ) :
    Sampler F where
  function := function
  samplePeriod := samplePeriod
  step := step
  lastProcessTime := currentTime
  periodTime := 0

/-- The related signals of a generated signal. -/
def generatedRelatedSignals (timeSignalId : String) : RelatedSignals := [(metaTime, timeSignalId)]

theorem ordered_generatedRelatedSignals (timeSignalId : String) :
    (generatedRelatedSignals timeSignalId).Ordered := List.pairwise_singleton _ _

namespace GeneratedSynchronousSignal

omit [Add F] [Sub F] [LE F] [DecidableLE F] in
/-- The constructor, with the counter of the signal numbers. -/
def new (counter : UInt32) (signalId tableId timeSignalId : String)
    (function : GeneratedFunction F) (samplePeriod currentTime : ℤ) (valueIndex : UInt64) :
    GeneratedSynchronousSignal F where
  sampler := .new function samplePeriod samplePeriod currentTime
  signal :=
    { signalNumber := (nextSignalNumber counter).2
      signalNumber_ne_zero := nextSignalNumber_ne_zero counter
      signalId := signalId
      tableId := tableId
      range := function.range
      postScaling := function.postScaling
      relatedSignals := generatedRelatedSignals timeSignalId
      ordered_relatedSignals := ordered_generatedRelatedSignals timeSignalId
      dataType := function.dataType
      valueIndex := valueIndex }

/-- After a number of samples. -/
def after (n : ℕ) (g : GeneratedSynchronousSignal F) : GeneratedSynchronousSignal F where
  sampler := g.sampler.after n
  signal := { g.signal with valueIndex := g.signal.valueIndex + UInt64.ofNat n }

/-- `GeneratedSynchronousSignal::process`. Nothing is added if there are no samples. -/
def process (currentTime : ℤ) (g : GeneratedSynchronousSignal F) :
    Except Fault (GeneratedSynchronousSignal F × List WriterCall) :=
  match g.sampler.process currentTime with
  | .error fault => .error fault
  | .ok (sampler, values) =>
      if values = [] then .ok ({ g with sampler := sampler }, [])
      else .ok (⟨sampler, (g.signal.addData values).1⟩, (g.signal.addData values).2)

theorem after_zero (g : GeneratedSynchronousSignal F) : g.after 0 = g := by
  have hzero : UInt64.ofNat 0 = 0 := rfl
  rw [after, g.sampler.after_zero, hzero, UInt64.add_zero]

/-- The calls of the writer for values. -/
def dataCalls (values : List Bytes) (g : GeneratedSynchronousSignal F) : List WriterCall :=
  if values = [] then [] else [.writeSignalData g.signal.signalNumber values.flatten]

theorem process_eq {g : GeneratedSynchronousSignal F} {currentTime : ℤ} {n : ℕ}
    (hprocess : g.sampler.process currentTime = .ok (g.sampler.after n, g.sampler.produced n)) :
    g.process currentTime = .ok (g.after n, g.dataCalls (g.sampler.produced n)) := by
  have hlength := g.sampler.length_produced n
  rw [process, hprocess, dataCalls]
  dsimp only
  by_cases hnil : g.sampler.produced n = []
  · obtain rfl : n = 0 := by rw [← hlength, hnil, List.length_nil]
    rw [if_pos hnil, if_pos hnil, g.after_zero, g.sampler.after_zero]
  · rw [if_neg hnil, if_neg hnil, SynchronousSignal.addData, hlength]
    rfl

omit [Add F] [Sub F] [Zero F] [LE F] [DecidableLE F] in
theorem writesData_dataCalls (g : GeneratedSynchronousSignal F) (values : List Bytes) :
    WritesData (g.dataCalls values) g.signal.signalNumber values.flatten := by
  rw [dataCalls]
  by_cases hnil : values = []
  · rw [if_pos hnil, hnil]
    exact writesData_nil _
  · rw [if_neg hnil]
    refine ⟨fun c hc => ?_, ?_⟩
    · rw [List.mem_singleton.mp hc]
      rfl
    · rw [List.flatMap_singleton, WriterCall.dataOf, if_pos rfl]

end GeneratedSynchronousSignal

namespace GeneratedAsynchronousSignal

omit [Add F] [Sub F] [LE F] [DecidableLE F] in
/-- The constructor. The time stamp and the difference of time stamps are calculated with floating
point numbers. -/
def new (resolution : ℤ) (counter : UInt32) (signalId tableId timeSignalId : String)
    (function : GeneratedFunction F) (samplePeriod currentTime : ℤ) (timestamp deltaTime : UInt64) :
    GeneratedAsynchronousSignal F where
  sampler := .new function samplePeriod (addNanosecondsToTimePoint resolution 0 samplePeriod)
    currentTime
  signal :=
    { signalNumber := (nextSignalNumber counter).2
      signalNumber_ne_zero := nextSignalNumber_ne_zero counter
      signalId := signalId
      tableId := tableId
      range := function.range
      postScaling := function.postScaling
      relatedSignals := generatedRelatedSignals timeSignalId
      ordered_relatedSignals := ordered_generatedRelatedSignals timeSignalId
      dataType := function.dataType }
  timestamp := timestamp
  deltaTime := deltaTime

/-- After a number of samples. -/
def after (n : ℕ) (g : GeneratedAsynchronousSignal F) : GeneratedAsynchronousSignal F :=
  { g with
    sampler := g.sampler.after n
    timestamp := g.timestamp + UInt64.ofNat n * g.deltaTime }

/-- `GeneratedAsynchronousSignal::process`. Each value gets a time stamp. -/
def process (currentTime : ℤ) (g : GeneratedAsynchronousSignal F) :
    Except Fault (GeneratedAsynchronousSignal F × List WriterCall) :=
  match g.sampler.process currentTime with
  | .error fault => .error fault
  | .ok (sampler, values) =>
      let tuples := (numbered g.deltaTime values g.timestamp).map Prod.swap
      .ok ({ g with
          sampler := sampler
          timestamp := g.timestamp + UInt64.ofNat values.length * g.deltaTime },
        g.signal.addData tuples)

theorem after_zero (g : GeneratedAsynchronousSignal F) : g.after 0 = g := by
  have hzero : UInt64.ofNat 0 = 0 := rfl
  rw [after, g.sampler.after_zero, hzero, UInt64.zero_mul, UInt64.add_zero]

theorem exists_calls {g : GeneratedAsynchronousSignal F} {currentTime : ℤ} {n : ℕ}
    (hprocess : g.sampler.process currentTime = .ok (g.sampler.after n, g.sampler.produced n)) :
    ∃ calls, g.process currentTime = .ok (g.after n, calls) ∧
      WritesData calls g.signal.signalNumber (g.sampler.produced n).flatten := by
  rw [process, hprocess]
  dsimp only
  rw [g.sampler.length_produced]
  refine ⟨_, rfl, fun c hc => ?_, dataOf_addData g.signal _ _ _⟩
  obtain ⟨tuple, -, rfl⟩ := List.mem_map.mp hc
  rfl

end GeneratedAsynchronousSignal

namespace GeneratedSignal

/-- `getSignal`. -/
def getSignal : GeneratedSignal F → ProducerSignal
  | synchronous g => .synchronous g.signal
  | asynchronous g => .asynchronous g.signal
  | linearTime s => .linearTime s
  | explicitTime s => .explicitTime s

/-- What produces the values, if it is not a time signal. -/
def sampler? : GeneratedSignal F → Option (Sampler F)
  | synchronous g => some g.sampler
  | asynchronous g => some g.sampler
  | linearTime _ | explicitTime _ => none

/-- `initAfterSubscribeAck`. The time signals write the time of the first value, in ticks. -/
def initAfterSubscribeAck (timeTicksFromTime : ℤ → UInt64 → UInt64) (currentTime : ℤ) :
    GeneratedSignal F → List WriterCall
  | linearTime s => [s.setTimeStart (timeTicksFromTime currentTime s.timeTicksPerSecond)]
  | explicitTime s => [s.setTimeStart (timeTicksFromTime currentTime s.timeTicksPerSecond)]
  | synchronous _ | asynchronous _ => []

/-- `process`, with the calls of the writer. A time signal does nothing. -/
def process (currentTime : ℤ) :
    GeneratedSignal F → Except Fault (GeneratedSignal F × List WriterCall)
  | synchronous g => (g.process currentTime).map fun r => (synchronous r.1, r.2)
  | asynchronous g => (g.process currentTime).map fun r => (asynchronous r.1, r.2)
  | linearTime s => .ok (linearTime s, [])
  | explicitTime s => .ok (explicitTime s, [])

/-- After a number of samples. -/
def after (n : ℕ) : GeneratedSignal F → GeneratedSignal F
  | synchronous g => synchronous (g.after n)
  | asynchronous g => asynchronous (g.after n)
  | linearTime s => linearTime s
  | explicitTime s => explicitTime s

/-- The octets of a number of samples. -/
def produced (n : ℕ) (g : GeneratedSignal F) : Bytes :=
  match g.sampler? with
  | none => []
  | some s => (s.produced n).flatten

/-- The samples of one call of `process`. -/
def samples (currentTime : ℤ) (g : GeneratedSignal F) : ℕ :=
  match g.sampler? with
  | none => 0
  | some s => s.samples currentTime

/-- The samples after calls of `process` at points of time. -/
def count (g : GeneratedSignal F) (times : List ℤ) : ℕ :=
  match g.sampler? with
  | none => 0
  | some s => s.count times

/-! ### Samples of a signal -/

@[simp] theorem after_zero : (g : GeneratedSignal F) → g.after 0 = g
  | synchronous g => congrArg synchronous g.after_zero
  | asynchronous g => congrArg asynchronous g.after_zero
  | linearTime _ | explicitTime _ => rfl

theorem after_after (m n : ℕ) : (g : GeneratedSignal F) → (g.after m).after n = g.after (m + n)
  | synchronous g => by
      rw [after, after, after, GeneratedSynchronousSignal.after, GeneratedSynchronousSignal.after,
        GeneratedSynchronousSignal.after, Sampler.after_after, UInt64.ofNat_add, ← UInt64.add_assoc]
  | asynchronous g => by
      rw [after, after, after, GeneratedAsynchronousSignal.after,
        GeneratedAsynchronousSignal.after, GeneratedAsynchronousSignal.after, Sampler.after_after,
        UInt64.ofNat_add, UInt64.add_mul, ← UInt64.add_assoc]
  | linearTime _ | explicitTime _ => rfl

theorem sampler?_after (n : ℕ) (g : GeneratedSignal F) :
    (g.after n).sampler? = g.sampler?.map (Sampler.after n) := by
  cases g <;> rfl

@[simp] theorem number_after (n : ℕ) (g : GeneratedSignal F) :
    (g.after n).getSignal.number = g.getSignal.number := by
  cases g <;> rfl

theorem produced_add (m n : ℕ) (g : GeneratedSignal F) :
    g.produced (m + n) = g.produced m ++ (g.after m).produced n := by
  rw [produced, produced, produced, sampler?_after]
  cases g.sampler? with
  | none => rfl
  | some s =>
    have hsplit := congrArg List.flatten (s.produced_add m n)
    rwa [List.flatten_append] at hsplit

theorem count_append_singleton (g : GeneratedSignal F) (times : List ℤ) (currentTime : ℤ) :
    g.count (times ++ [currentTime]) =
      g.count times + (g.after (g.count times)).samples currentTime := by
  rw [count, count, samples, sampler?_after]
  cases g.sampler? with
  | none => rfl
  | some s => exact s.count_append_singleton times currentTime

/-- **Processing of a signal.** A signal without a sample period leads to a division by 0. Any other
signal writes the samples that follow. -/
theorem process_cases (currentTime : ℤ) (g : GeneratedSignal F) :
    (∃ s ∈ g.sampler?, s.samplePeriod = 0 ∧ s.lastProcessTime ≤ currentTime ∧
        g.process currentTime = .error .divisionByZero) ∨
      (∀ s ∈ g.sampler?, s.samplePeriod = 0 → currentTime < s.lastProcessTime) ∧
        ∃ calls, g.process currentTime = .ok (g.after (g.samples currentTime), calls) ∧
          WritesData calls g.getSignal.number (g.produced (g.samples currentTime)) := by
  cases g with
  | synchronous g =>
    rcases g.sampler.process_cases currentTime with ⟨hperiod, htime, hprocess⟩ | ⟨hperiod, hprocess⟩
    · refine .inl ⟨g.sampler, rfl, hperiod, htime, ?_⟩
      rw [process, GeneratedSynchronousSignal.process, hprocess]
      rfl
    · refine .inr ⟨fun s hs => ?_, _, ?_, g.writesData_dataCalls _⟩
      · cases hs
        exact hperiod
      · rw [process, GeneratedSynchronousSignal.process_eq hprocess]
        rfl
  | asynchronous g =>
    rcases g.sampler.process_cases currentTime with ⟨hperiod, htime, hprocess⟩ | ⟨hperiod, hprocess⟩
    · refine .inl ⟨g.sampler, rfl, hperiod, htime, ?_⟩
      rw [process, GeneratedAsynchronousSignal.process, hprocess]
      rfl
    · obtain ⟨calls, hcalls, hwrites⟩ := g.exists_calls hprocess
      refine .inr ⟨fun s hs => ?_, calls, ?_, hwrites⟩
      · cases hs
        exact hperiod
      · rw [process, hcalls]
        rfl
  | linearTime s =>
    exact .inr ⟨fun _ hs => (Option.not_mem_none _ hs).elim, [], rfl, writesData_nil _⟩
  | explicitTime s =>
    exact .inr ⟨fun _ hs => (Option.not_mem_none _ hs).elim, [], rfl, writesData_nil _⟩

end GeneratedSignal

end Signals

end StreamingProtocol
