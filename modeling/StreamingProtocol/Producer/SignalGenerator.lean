import Mathlib.Logic.Function.Basic
import StreamingProtocol.Foundation.Runs
import StreamingProtocol.Producer.GeneratedSignals
import StreamingProtocol.Producer.SessionSignals
import StreamingProtocol.Producer.TimeTicks

/-!
# The signal generator

The signal generator offers and subscribes all its signals, writes the start time, and then
processes the signals round by round. The time of a round is a count of process periods, not the
time of a clock. It stops after the execution time, or after the reader of the stream has asked for
it, and then unsubscribes and removes all signals. If a write fails it stops at once.

Durations are converted to the resolution of the program when they are added to a time. A process
period below the resolution leads to rounds without end, which all take place at the same time.

## Main definitions

* `SignalGenerator`, `SignalGenerator.Configured`.
* `GeneratorRun`, `GeneratorEvent`, `GeneratorRun.step`, `GeneratorRun.Possible`.

## Main results

* `SignalGenerator.Configured.fresh`: no samples have been produced before the start.
-/

namespace StreamingProtocol

open ByteString ReachedBy

/-- `SignalGenerator`. Times are numbers of nanoseconds, and the resolution is the one that the
program is built for. -/
structure SignalGenerator (F : Type) where
  resolution : ℤ
  generatedSignals : Members (GeneratedSignal F) := []
  time : ℤ
  processPeriod : ℤ
  executionTime : ℤ

/-- An assignment adds no other entries. -/
theorem Members.mem_set {α : Type} {key : String} {value : α} {entry : String × α} :
    {ms : Members α} → entry ∈ Members.set key value ms → entry ∈ ms ∨ entry = (key, value)
  | [], h => .inr (List.mem_singleton.mp h)
  | (k, v) :: ms, h => by
      unfold Members.set at h
      split_ifs at h
      · rcases List.mem_cons.mp h with rfl | h
        · exact .inr rfl
        · exact .inl (List.mem_cons_of_mem _ h)
      · rcases List.mem_cons.mp h with rfl | h
        · exact .inr rfl
        · exact .inl h
      · rcases List.mem_cons.mp h with rfl | h
        · exact .inl List.mem_cons_self
        · exact (mem_set h).imp_left (List.mem_cons_of_mem _)

variable {F : Type} [Add F] [Sub F] [Zero F] [LE F] [DecidableLE F]

namespace SignalGenerator

/-! ### Configuration -/

/-- The ticks per second of the time signals. -/
def timeTicksPerSecond : UInt64 := 1000000000

/-- A signal is added under an id that is not in use. The result is the one of the program. -/
def add (signalId : String) (signal : GeneratedSignal F) (generator : SignalGenerator F) :
    SignalGenerator F × ℤ :=
  match generator.generatedSignals.find? signalId with
  | some _ => (generator, -1)
  | none => ({ generator with
      generatedSignals := generator.generatedSignals.set signalId signal }, 0)

/-- `SignalGenerator::addSynchronousSignal`, with the counter of the signal numbers. -/
def addSynchronousSignal (counter : UInt32) (signalId tableId timeSignalId : String)
    (function : GeneratedFunction F) (samplePeriod : ℤ) (valueIndex : UInt64)
    (generator : SignalGenerator F) : SignalGenerator F × ℤ :=
  generator.add signalId (.synchronous
    (.new counter signalId tableId timeSignalId function samplePeriod generator.time valueIndex))

/-- `SignalGenerator::addAsynchronousSignal`. -/
def addAsynchronousSignal (counter : UInt32) (signalId tableId timeSignalId : String)
    (function : GeneratedFunction F) (samplePeriod : ℤ) (timestamp deltaTime : UInt64)
    (generator : SignalGenerator F) : SignalGenerator F × ℤ :=
  generator.add signalId (.asynchronous (.new generator.resolution counter signalId tableId
    timeSignalId function samplePeriod generator.time timestamp deltaTime))

/-- `SignalGenerator::addLinearTimeSignal`. -/
def addLinearTimeSignal (counter : UInt32) (signalId tableId : String) (samplePeriod : Int64)
    (generator : SignalGenerator F) : SignalGenerator F × ℤ :=
  generator.add signalId
    (.linearTime (.new counter signalId tableId timeTicksPerSecond samplePeriod))

/-- `SignalGenerator::addExplicitTimeSignal`. The sample period is not used. -/
def addExplicitTimeSignal (counter : UInt32) (signalId tableId : String) (_ : Int64)
    (generator : SignalGenerator F) : SignalGenerator F × ℤ :=
  generator.add signalId (.explicitTime
    { signalNumber := (nextSignalNumber counter).2
      signalNumber_ne_zero := nextSignalNumber_ne_zero counter
      signalId := signalId
      tableId := tableId
      timeTicksPerSecond := timeTicksPerSecond })

/-- `SignalGenerator::removeSignal`, without the number of removed signals. -/
def removeSignal (signalId : String) (generator : SignalGenerator F) : SignalGenerator F :=
  { generator with
    generatedSignals := generator.generatedSignals.filter fun entry => entry.1 ≠ signalId }

/-- `SignalGenerator::clear`. -/
def clear (generator : SignalGenerator F) : SignalGenerator F :=
  { generator with generatedSignals := [] }

/-- `SignalGenerator::configureTimes`. -/
def configureTimes (processPeriod executionTime : ℤ) (generator : SignalGenerator F) :
    SignalGenerator F :=
  { generator with processPeriod := processPeriod, executionTime := executionTime }

/-- The generators that can be configured. The constructor leaves the process period and the
execution time undefined. -/
inductive Configured : SignalGenerator F → Prop
  | new (resolution time processPeriod executionTime : ℤ) :
      Configured { resolution, time, processPeriod, executionTime }
  | addSynchronousSignal {generator : SignalGenerator F} (counter : UInt32)
      (signalId tableId timeSignalId : String) (function : GeneratedFunction F) (samplePeriod : ℤ)
      (valueIndex : UInt64) (h : Configured generator) :
      Configured (generator.addSynchronousSignal counter signalId tableId timeSignalId function
        samplePeriod valueIndex).1
  | addAsynchronousSignal {generator : SignalGenerator F} (counter : UInt32)
      (signalId tableId timeSignalId : String) (function : GeneratedFunction F) (samplePeriod : ℤ)
      (timestamp deltaTime : UInt64) (h : Configured generator) :
      Configured (generator.addAsynchronousSignal counter signalId tableId timeSignalId function
        samplePeriod timestamp deltaTime).1
  | addLinearTimeSignal {generator : SignalGenerator F} (counter : UInt32)
      (signalId tableId : String) (samplePeriod : Int64) (h : Configured generator) :
      Configured (generator.addLinearTimeSignal counter signalId tableId samplePeriod).1
  | addExplicitTimeSignal {generator : SignalGenerator F} (counter : UInt32)
      (signalId tableId : String) (samplePeriod : Int64) (h : Configured generator) :
      Configured (generator.addExplicitTimeSignal counter signalId tableId samplePeriod).1
  | removeSignal {generator : SignalGenerator F} (signalId : String) (h : Configured generator) :
      Configured (generator.removeSignal signalId)
  | clear {generator : SignalGenerator F} (h : Configured generator) : Configured generator.clear
  | configureTimes {generator : SignalGenerator F} (processPeriod executionTime : ℤ)
      (h : Configured generator) :
      Configured (generator.configureTimes processPeriod executionTime)

/-- A signal that has not produced samples at a time. -/
structure Fresh (time : ℤ) (g : GeneratedSignal F) : Prop where
  lastProcessTime : ∀ s ∈ g.sampler?, s.lastProcessTime = time
  synchronous : ∀ h, g = .synchronous h →
    h.signal.dataType = h.sampler.function.dataType ∧ h.sampler.step = h.sampler.samplePeriod

omit [Add F] [Sub F] [Zero F] [LE F] [DecidableLE F] in
theorem mem_add {signalId : String} {signal : GeneratedSignal F} {generator : SignalGenerator F}
    {entry : String × GeneratedSignal F}
    (h : entry ∈ (generator.add signalId signal).1.generatedSignals) :
    entry ∈ generator.generatedSignals ∨ entry = (signalId, signal) := by
  unfold add at h
  split at h
  · exact .inl h
  · exact Members.mem_set h

omit [Add F] [Sub F] [LE F] [DecidableLE F] in
/-- The signals have not produced samples before the start. -/
theorem Configured.fresh {generator : SignalGenerator F} (h : generator.Configured) :
    ∀ entry ∈ generator.generatedSignals, Fresh generator.time entry.2 := by
  have hadd {generator : SignalGenerator F} (signalId : String) {signal : GeneratedSignal F}
      (hsignal : Fresh generator.time signal)
      (ih : ∀ entry ∈ generator.generatedSignals, Fresh generator.time entry.2) :
      ∀ entry ∈ (generator.add signalId signal).1.generatedSignals,
        Fresh (generator.add signalId signal).1.time entry.2 := by
    intro entry hentry
    have htime : (generator.add signalId signal).1.time = generator.time := by
      unfold add
      split <;> rfl
    rw [htime]
    rcases mem_add hentry with hentry | rfl
    · exact ih entry hentry
    · exact hsignal
  induction h with
  | new => exact fun _ h => (List.not_mem_nil h).elim
  | addSynchronousSignal =>
    refine hadd _ ⟨fun s hs => ?_, fun h hh => ?_⟩ ‹_›
    · cases hs
      rfl
    · cases hh
      exact ⟨rfl, rfl⟩
  | addAsynchronousSignal =>
    refine hadd _ ⟨fun s hs => ?_, fun h hh => ?_⟩ ‹_›
    · cases hs
      rfl
    · cases hh
  | addLinearTimeSignal =>
    refine hadd _ ⟨fun s hs => ?_, fun h hh => ?_⟩ ‹_›
    · cases hs
    · cases hh
  | addExplicitTimeSignal =>
    refine hadd _ ⟨fun s hs => ?_, fun h hh => ?_⟩ ‹_›
    · cases hs
    · cases hh
  | removeSignal signalId _ ih => exact fun entry hentry => ih entry (List.mem_of_mem_filter hentry)
  | clear => exact fun _ h => (List.not_mem_nil h).elim
  | configureTimes _ _ _ ih => exact ih

/-! ### A round -/

omit [Add F] [Sub F] [Zero F] [LE F] [DecidableLE F] in
/-- The calls of the writer that a signal makes, up to one that fails. -/
def made (failing : Option ℕ) (calls : List WriterCall) : List WriterCall :=
  match failing with
  | none => calls
  | some k => calls.take (k + 1)

omit [Add F] [Sub F] [Zero F] [LE F] [DecidableLE F] in
/-- One of the calls fails. -/
def fails (failing : Option ℕ) (calls : List WriterCall) : Bool :=
  failing.any fun k => decide (k < calls.length)

/-- The signals are processed in the order of their ids. A call of the writer may fail for each of
them, and ends the round. -/
def processAll (failing : String → Option ℕ) (currentTime : ℤ) :
    Members (GeneratedSignal F) →
      Except Fault (Members (GeneratedSignal F) × List WriterCall × Bool)
  | [] => .ok ([], [], true)
  | (signalId, g) :: signals =>
      match g.process currentTime with
      | .error fault => .error fault
      | .ok (g, calls) =>
          if fails (failing signalId) calls then
            .ok ((signalId, g) :: signals, made (failing signalId) calls, false)
          else
            match processAll failing currentTime signals with
            | .error fault => .error fault
            | .ok (signals, calls', completed) =>
                .ok ((signalId, g) :: signals, calls ++ calls', completed)

/-- The end of the execution. An execution time of 0 stands for the last point of time. -/
def endTime (generator : SignalGenerator F) : ℤ :=
  if generator.executionTime = 0 then 2 ^ 63 - 1
  else addNanosecondsToTimePoint generator.resolution generator.time generator.executionTime

/-- The ids of the signals, in their order. -/
def allSignalIds (generator : SignalGenerator F) : List String :=
  generator.generatedSignals.map Prod.fst

/-- The signals by their ids. -/
def allSignals (generator : SignalGenerator F) : Members ProducerSignal :=
  generator.generatedSignals.map fun entry => (entry.1, entry.2.getSignal)

/-- The time from one round to the next. -/
def roundTime (generator : SignalGenerator F) : ℤ :=
  generator.processPeriod.tdiv generator.resolution * generator.resolution

end SignalGenerator

/-! ### A run -/

/-- Where `SignalGenerator::start` is: before the check of the loop, before the time is moved, after
the end, or after a write has failed. A division by 0 has no defined outcome. -/
inductive GeneratorPhase where
  | checking
  | processed
  | finished
  | aborted
  | undefined
deriving DecidableEq, Repr

/-- `SignalGenerator::start`: the generator with its session, `m_endTime`, what has been written,
the times of the rounds that were completed, and the number of these when it was stopped. -/
structure GeneratorRun (F : Type) where
  generator : SignalGenerator F
  session : ProducerSession
  endTime : ℤ
  phase : GeneratorPhase := .checking
  written : List WriterCall
  rounds : List ℤ := []
  stopped : Option ℕ := none

/-- What happens while `SignalGenerator::start` runs. The callback for errors, which stops the
generator, is called by the reader of the stream at any time. -/
inductive GeneratorEvent where
  | round (failing : String → Option ℕ)
  | advance
  | leave
  | stop

namespace GeneratorRun

open SignalGenerator

/-- `SignalGenerator::start` up to the loop. The list of command interfaces is empty. The ticks of a
time are calculated with floating point numbers. -/
def start (timeTicksFromTime : ℤ → UInt64 → UInt64) (streamId : String)
    (generator : SignalGenerator F) : GeneratorRun F :=
  let added := ProducerSession.initial.addSignals generator.allSignals
  let subscribed := added.1.subscribeSignals generator.allSignalIds
  { generator := generator
    session := subscribed.1
    endTime := generator.endTime
    written := ProducerSession.writeInitialMetaInformation streamId .null ++ added.2 ++
      subscribed.2 ++ generator.generatedSignals.flatMap fun entry =>
        entry.2.initAfterSubscribeAck timeTicksFromTime generator.time }

/-- One round of the loop: the signals are processed. -/
def round (failing : String → Option ℕ) (run : GeneratorRun F) : GeneratorRun F :=
  match processAll failing run.generator.time run.generator.generatedSignals with
  | .error _ => { run with phase := .undefined }
  | .ok (signals, calls, completed) =>
      { run with
        generator := { run.generator with generatedSignals := signals }
        written := run.written ++ calls
        phase := if completed then .processed else .aborted
        rounds := if completed then run.rounds ++ [run.generator.time] else run.rounds }

/-- The time is moved by a process period. -/
def advance (run : GeneratorRun F) : GeneratorRun F :=
  { run with
    generator := { run.generator with
      time := addNanosecondsToTimePoint run.generator.resolution run.generator.time
        run.generator.processPeriod }
    phase := .checking }

/-- What follows the loop. -/
def leave (run : GeneratorRun F) : GeneratorRun F :=
  let unsubscribed := run.session.unsubscribeSignals run.generator.allSignalIds
  let removed := unsubscribed.1.removeSignals run.generator.allSignalIds
  { run with
    session := removed.1
    phase := .finished
    written := run.written ++ unsubscribed.2 ++ removed.2 }

/-- `SignalGenerator::stop`. -/
def stop (run : GeneratorRun F) : GeneratorRun F :=
  { run with endTime := run.generator.time, stopped := some run.rounds.length }

/-- One event. -/
def step (run : GeneratorRun F) : GeneratorEvent → GeneratorRun F
  | .round failing => run.round failing
  | .advance => run.advance
  | .leave => run.leave
  | .stop => run.stop

/-- The events that can happen. The callback for errors is called once. After the loop the end of
the execution is not read any more. -/
def Possible (run : GeneratorRun F) : GeneratorEvent → Prop
  | .round _ => run.phase = .checking ∧ run.generator.time ≤ run.endTime
  | .advance => run.phase = .processed
  | .leave => run.phase = .checking ∧ run.endTime < run.generator.time
  | .stop => run.stopped = none ∧ (run.phase = .checking ∨ run.phase = .processed)

instance (run : GeneratorRun F) (e : GeneratorEvent) : Decidable (run.Possible e) :=
  match e with
  | .round _ =>
      inferInstanceAs (Decidable (run.phase = .checking ∧ run.generator.time ≤ run.endTime))
  | .advance => inferInstanceAs (Decidable (run.phase = .processed))
  | .leave =>
      inferInstanceAs (Decidable (run.phase = .checking ∧ run.endTime < run.generator.time))
  | .stop => inferInstanceAs
      (Decidable (run.stopped = none ∧ (run.phase = .checking ∨ run.phase = .processed)))

/-- The states of a run. -/
def Reached (timeTicksFromTime : ℤ → UInt64 → UInt64) (streamId : String)
    (generator : SignalGenerator F) : GeneratorRun F → Prop :=
  ReachedBy step Possible (start timeTicksFromTime streamId generator)

omit [Add F] [Sub F] [Zero F] [LE F] [DecidableLE F] in
/-- A ramp of octets. -/
def ramp : GeneratedFunction ℤ where
  dataType := .uint8
  calculate periodTime := [UInt8.ofInt periodTime]
  length_calculate _ := rfl
  period := 100
  samplePeriod := 1

/-- A generator with the ramp, which has two samples from one round to the next. -/
def rampGenerator : SignalGenerator ℤ :=
  (((({ resolution := 1000, time := 7000, processPeriod := 0, executionTime := 0 } :
    SignalGenerator ℤ).addLinearTimeSignal 0 "A_u_time" "u_table" 500000).1.addSynchronousSignal 1
      "u" "u_table" "A_u_time" ramp 500000 0).1.configureTimes 1000000 1500000)

theorem configured_rampGenerator : rampGenerator.Configured :=
  .configureTimes _ _ (.addSynchronousSignal _ _ _ _ _ _ _ (.addLinearTimeSignal _ _ _ _
    (.new _ _ _ _)))

def rampSignal : GeneratedSynchronousSignal ℤ :=
  .new 1 "u" "u_table" "A_u_time" ramp 500000 7000 0

/-- The generator is stopped after the first round and makes a second one. -/
def rampEvents : List GeneratorEvent :=
  [.round fun _ => none, .advance, .stop, .round fun _ => none, .advance, .leave]

def rampRun : GeneratorRun ℤ :=
  rampEvents.foldl step (start (fun time _ => UInt64.ofInt time) "stream" rampGenerator)

theorem reached_rampRun :
    Reached (fun time _ => UInt64.ofInt time) "stream" rampGenerator rampRun :=
  ReachedBy.foldl .init rampEvents (by decide +kernel)

theorem mem_rampGenerator : ("u", .synchronous rampSignal) ∈ rampGenerator.generatedSignals :=
  List.mem_cons_of_mem _ List.mem_cons_self

theorem nodup_rampGenerator :
    ((rampGenerator.generatedSignals).map fun entry => entry.2.getSignal.number).Nodup := by
  decide +kernel

end GeneratorRun

end StreamingProtocol
