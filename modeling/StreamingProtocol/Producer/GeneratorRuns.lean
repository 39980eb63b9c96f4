import StreamingProtocol.Producer.SignalGenerator

/-!
# Runs of the signal generator

The rounds of a run have the same distance, whatever the clock says, and so the samples that a
signal has produced depend on the number of rounds only. The data that has been written for a signal
are the first samples of its function. A failing write, which ends the run, is the only reason for
an incomplete sample, and a missing sample period the only one for a division by 0.

## Main definitions

* `GeneratorRun.Writes`, `GeneratorRun.Timed`, `GeneratorRun.Divides`: the invariants.

## Main results

* `GeneratorRun.rounds_of_reached`: the rounds that have been made.
* `GeneratorRun.samples_of_reached`: the samples that have been written.
* `GeneratorRun.samplePeriod_of_reached`: when there is a division by 0.
-/

namespace StreamingProtocol

open ByteString ReachedBy

variable {F : Type} [Add F] [Sub F] [Zero F] [LE F] [DecidableLE F]

namespace GeneratorRun

open SignalGenerator

/-! ### What a round writes -/

/-- What a round does to a signal: it writes the first part of some samples, and if the round is
completed all the samples that `process` produces. -/
structure RoundOf (currentTime : ℤ) (completed : Bool) (calls : List WriterCall)
    (g : GeneratedSignal F) (n : ℕ) : Prop where
  isPrefix : calls.flatMap (WriterCall.dataOf g.getSignal.number) <+: g.produced n
  whole : completed = true → n = g.samples currentTime ∧
    calls.flatMap (WriterCall.dataOf g.getSignal.number) = g.produced n ∧
    ∀ s ∈ g.sampler?, s.samplePeriod = 0 → currentTime < s.lastProcessTime

/-- The numbers of signals. -/
def numbers (signals : Members (GeneratedSignal F)) : List UInt32 :=
  signals.map fun entry => entry.2.getSignal.number

/-- Signals after a number of samples each. -/
def afterAll (n : UInt32 → ℕ) (signals : Members (GeneratedSignal F)) :
    Members (GeneratedSignal F) :=
  signals.map fun entry => (entry.1, entry.2.after (n entry.2.getSignal.number))

theorem afterAll_update {number : UInt32} {signals : Members (GeneratedSignal F)}
    (hnew : number ∉ numbers signals) (n : UInt32 → ℕ) (k : ℕ) :
    afterAll (Function.update n number k) signals = afterAll n signals := by
  refine List.map_congr_left fun entry hentry => ?_
  have hne : entry.2.getSignal.number ≠ number := fun h =>
    hnew (h ▸ List.mem_map_of_mem hentry)
  rw [Function.update_of_ne hne]

theorem afterAll_zero (signals : Members (GeneratedSignal F)) :
    afterAll (fun _ => 0) signals = signals := by
  refine (List.map_congr_left fun entry _ => ?_).trans (List.map_id signals)
  rw [GeneratedSignal.after_zero]
  rfl

/-- The data of a signal in the calls of other signals. -/
theorem flatMap_dataOf_eq_nil {number : UInt32} {calls : List WriterCall}
    (h : ∀ c ∈ calls, c.signalNumber ≠ number) :
    calls.flatMap (WriterCall.dataOf number) = [] := by
  rw [List.flatMap_eq_nil_iff]
  intro c hc
  cases c with
  | writeMetaInformation n doc => rfl
  | writeSignalData n data => exact if_neg (h _ hc)

/-- The calls up to one that fails write a first part of the data. -/
theorem writes_made (failing : Option ℕ) {calls : List WriterCall} {number : UInt32} {data : Bytes}
    (h : WritesData calls number data) :
    (∀ c ∈ made failing calls, c.signalNumber = number) ∧
      (made failing calls).flatMap (WriterCall.dataOf number) <+: data := by
  have hmade : made failing calls <+: calls := by
    unfold made
    split
    · exact List.prefix_rfl
    · exact List.take_prefix _ _
  refine ⟨fun c hc => h.1 c (hmade.subset hc), ?_⟩
  rw [← h.2]
  exact hmade.flatMap _

/-- A round, signal by signal. -/
theorem processAll_cases (failing : String → Option ℕ) (currentTime : ℤ)
    {signals : Members (GeneratedSignal F)} (hnumbers : (numbers signals).Nodup) :
    (∃ entry ∈ signals, ∃ s ∈ entry.2.sampler?, s.samplePeriod = 0 ∧
        processAll failing currentTime signals = .error .divisionByZero) ∨
      ∃ n calls completed,
        processAll failing currentTime signals = .ok (afterAll n signals, calls, completed) ∧
        (∀ c ∈ calls, c.signalNumber ∈ numbers signals) ∧
        ∀ entry ∈ signals,
          RoundOf currentTime completed calls entry.2 (n entry.2.getSignal.number) := by
  induction signals with
  | nil =>
    exact .inr ⟨fun _ => 0, [], true, rfl, fun _ h => (List.not_mem_nil h).elim,
      fun _ h => (List.not_mem_nil h).elim⟩
  | cons entry signals ih =>
    obtain ⟨signalId, g⟩ := entry
    obtain ⟨hnew, hnumbers⟩ := List.nodup_cons.mp hnumbers
    rcases g.process_cases currentTime with ⟨s, hs, hperiod, -, hprocess⟩ | ⟨hperiod, own, hprocess,
      hwrites⟩
    · refine .inl ⟨_, List.mem_cons_self, s, hs, hperiod, ?_⟩
      rw [processAll, hprocess]
    · have hne {entry : String × GeneratedSignal F} (hentry : entry ∈ signals) :
          entry.2.getSignal.number ≠ g.getSignal.number := fun h =>
        hnew (List.mem_map.mpr ⟨entry, hentry, h⟩)
      -- the calls of a signal are no data of the signals after it
      have hother {calls : List WriterCall}
          (hcalls : ∀ c ∈ calls, c.signalNumber = g.getSignal.number)
          {entry : String × GeneratedSignal F} (hentry : entry ∈ signals) :
          calls.flatMap (WriterCall.dataOf entry.2.getSignal.number) = [] :=
        flatMap_dataOf_eq_nil fun c hc h => hne hentry (h.symm.trans (hcalls c hc))
      have hafter (n : UInt32 → ℕ) (k : ℕ) :
          afterAll (Function.update n g.getSignal.number k) ((signalId, g) :: signals) =
            (signalId, g.after k) :: afterAll n signals := by
        rw [← afterAll_update hnew n k, afterAll, List.map_cons, Function.update_self]
        rfl
      by_cases hfails : fails (failing signalId) own = true
      · obtain ⟨hmade, hpart⟩ := writes_made (failing signalId) hwrites
        refine .inr ⟨Function.update (fun _ => 0) g.getSignal.number (g.samples currentTime),
          made (failing signalId) own, false, ?_, fun c hc => ?_, fun entry hentry => ?_⟩
        · rw [processAll, hprocess, hafter, afterAll_zero]
          exact if_pos hfails
        · rw [hmade c hc]
          exact List.mem_cons_self
        · rcases List.mem_cons.mp hentry with rfl | hentry
          · rw [Function.update_self]
            exact ⟨hpart, fun h => by cases h⟩
          · rw [Function.update_of_ne (hne hentry)]
            refine ⟨?_, fun h => by cases h⟩
            rw [hother hmade hentry]
            exact List.nil_prefix
      · rcases ih hnumbers with ⟨entry, hentry, s, hs, hzero, herror⟩ | ⟨n, calls, completed, hok,
          hcalls, hround⟩
        · refine .inl ⟨entry, List.mem_cons_of_mem _ hentry, s, hs, hzero, ?_⟩
          rw [processAll, hprocess, herror]
          exact if_neg hfails
        · refine .inr ⟨Function.update n g.getSignal.number (g.samples currentTime), own ++ calls,
            completed, ?_, fun c hc => ?_, fun entry hentry => ?_⟩
          · rw [processAll, hprocess, hok, hafter]
            exact if_neg hfails
          · rcases List.mem_append.mp hc with hc | hc
            · rw [hwrites.1 c hc]
              exact List.mem_cons_self
            · exact List.mem_cons_of_mem _ (hcalls c hc)
          · rcases List.mem_cons.mp hentry with rfl | hentry
            · have hnone : calls.flatMap (WriterCall.dataOf g.getSignal.number) = [] :=
                flatMap_dataOf_eq_nil fun c hc hnumber => by
                  have hmem := hcalls c hc
                  rw [hnumber] at hmem
                  exact hnew hmem
              have hdata : (own ++ calls).flatMap (WriterCall.dataOf g.getSignal.number) =
                  g.produced (g.samples currentTime) := by
                rw [List.flatMap_append, hwrites.2, hnone, List.append_nil]
              rw [Function.update_self]
              exact ⟨hdata ▸ List.prefix_rfl, fun _ => ⟨rfl, hdata, hperiod⟩⟩
            · have hsame : (own ++ calls).flatMap (WriterCall.dataOf entry.2.getSignal.number) =
                  calls.flatMap (WriterCall.dataOf entry.2.getSignal.number) := by
                rw [List.flatMap_append, hother hwrites.1 hentry, List.nil_append]
              obtain ⟨hpart, hwhole⟩ := hround entry hentry
              rw [Function.update_of_ne (hne hentry)]
              exact ⟨hsame ▸ hpart, hsame ▸ hwhole⟩

/-! ### What a run writes -/

section Written

variable {timeTicksFromTime : ℤ → UInt64 → UInt64} {streamId : String}
  {generator : SignalGenerator F} {run : GeneratorRun F}

theorem numbers_afterAll (n : UInt32 → ℕ) (signals : Members (GeneratedSignal F)) :
    numbers (afterAll n signals) = numbers signals := by
  rw [numbers, afterAll, List.map_map]
  exact List.map_congr_left fun entry _ => entry.2.number_after _

theorem afterAll_afterAll (n m : UInt32 → ℕ) (signals : Members (GeneratedSignal F)) :
    afterAll m (afterAll n signals) = afterAll (fun number => n number + m number) signals := by
  rw [afterAll, afterAll, List.map_map]
  refine List.map_congr_left fun entry _ => ?_
  dsimp only [Function.comp_apply]
  rw [GeneratedSignal.number_after, GeneratedSignal.after_after]

/-- Meta information holds no data of signals. -/
theorem flatMap_dataOf_metaInformation {number : UInt32} {calls : List WriterCall}
    (h : ∀ c ∈ calls, ∃ n doc, c = .writeMetaInformation n doc) :
    calls.flatMap (WriterCall.dataOf number) = [] := by
  rw [List.flatMap_eq_nil_iff]
  intro c hc
  obtain ⟨n, doc, rfl⟩ := h c hc
  rfl

omit [Add F] [Sub F] [Zero F] [LE F] [DecidableLE F] in
/-- Before the loop only the time signals write data. -/
theorem dataOf_start (hnumbers : (numbers generator.generatedSignals).Nodup)
    {entry : String × GeneratedSignal F} (hentry : entry ∈ generator.generatedSignals)
    {s : Sampler F} (hs : s ∈ entry.2.sampler?) :
    (start timeTicksFromTime streamId generator).written.flatMap
      (WriterCall.dataOf entry.2.getSignal.number) = [] := by
  have hmeta : ∀ c ∈ ProducerSession.writeInitialMetaInformation streamId .null ++
      (ProducerSession.initial.addSignals generator.allSignals).2 ++
      ((ProducerSession.initial.addSignals generator.allSignals).1.subscribeSignals
        generator.allSignalIds).2, ∃ n doc, c = .writeMetaInformation n doc := by
    intro c hc
    rcases List.mem_append.mp hc with hc | hc
    · rcases List.mem_append.mp hc with hc | hc
      · rcases List.mem_pair.mp hc with rfl | rfl
        · exact ⟨_, _, rfl⟩
        · exact ⟨_, _, rfl⟩
      · dsimp only [ProducerSession.addSignals] at hc
        split_ifs at hc
        · exact (List.not_mem_nil hc).elim
        · exact ⟨_, _, List.mem_singleton.mp hc⟩
    · obtain ⟨p, -, hc⟩ := List.mem_flatMap.mp hc
      rcases List.mem_pair.mp hc with rfl | rfl
      · exact ⟨_, _, rfl⟩
      · exact ⟨_, _, rfl⟩
  rw [start, List.flatMap_append, flatMap_dataOf_metaInformation hmeta, List.nil_append]
  refine flatMap_dataOf_eq_nil fun c hc hnumber => ?_
  obtain ⟨entry', hentry', hc⟩ := List.mem_flatMap.mp hc
  have hinit : c.signalNumber = entry'.2.getSignal.number ∧ entry'.2.sampler? = none := by
    obtain ⟨id, g⟩ := entry'
    cases g with
    | synchronous g => exact (List.not_mem_nil hc).elim
    | asynchronous g => exact (List.not_mem_nil hc).elim
    | linearTime s => exact ⟨congrArg _ (List.mem_singleton.mp hc), rfl⟩
    | explicitTime s => exact ⟨congrArg _ (List.mem_singleton.mp hc), rfl⟩
  have hsame : entry' = entry := List.inj_on_of_nodup_map hnumbers hentry' hentry
    (hinit.1.symm.trans hnumber)
  rw [hsame] at hinit
  rw [hinit.2] at hs
  exact Option.not_mem_none _ hs

/-- What the loop has written of each signal: a first part of its samples, and all of them unless a
write has failed. -/
structure Writes (generator : SignalGenerator F) (run : GeneratorRun F) (n : UInt32 → ℕ) :
    Prop where
  signals : run.generator.generatedSignals = afterAll n generator.generatedSignals
  isPrefix : ∀ entry ∈ generator.generatedSignals, entry.2.sampler?.isSome →
    run.written.flatMap (WriterCall.dataOf entry.2.getSignal.number) <+:
      entry.2.produced (n entry.2.getSignal.number)
  whole : run.phase ≠ .aborted → ∀ entry ∈ generator.generatedSignals,
    n entry.2.getSignal.number = entry.2.count run.rounds ∧ (entry.2.sampler?.isSome →
      run.written.flatMap (WriterCall.dataOf entry.2.getSignal.number) =
        entry.2.produced (n entry.2.getSignal.number))

theorem writes_start (hnumbers : (numbers generator.generatedSignals).Nodup) :
    Writes generator (start timeTicksFromTime streamId generator) fun _ => 0 := by
  have hdata {entry : String × GeneratedSignal F} (hentry : entry ∈ generator.generatedSignals)
      (hsampler : entry.2.sampler?.isSome) :
      (start timeTicksFromTime streamId generator).written.flatMap
        (WriterCall.dataOf entry.2.getSignal.number) = entry.2.produced 0 := by
    obtain ⟨s, hs⟩ := Option.isSome_iff_exists.mp hsampler
    rw [dataOf_start hnumbers hentry hs, GeneratedSignal.produced, hs]
    rfl
  refine ⟨(afterAll_zero _).symm, fun entry hentry hsampler => ?_, fun _ entry hentry => ⟨?_, ?_⟩⟩
  · rw [hdata hentry hsampler]
  · rw [GeneratedSignal.count]
    cases entry.2.sampler? <;> rfl
  · exact hdata hentry

/-- What is not data of signals can be written. -/
theorem Writes.congr {n : UInt32 → ℕ} {run' : GeneratorRun F} (h : Writes generator run n)
    (hsignals : run'.generator.generatedSignals = run.generator.generatedSignals)
    (hwritten : ∀ number, run'.written.flatMap (WriterCall.dataOf number) =
      run.written.flatMap (WriterCall.dataOf number))
    (hrounds : run'.rounds = run.rounds) (hphase : run.phase ≠ .aborted) :
    Writes generator run' n := by
  refine ⟨hsignals.trans h.signals, fun entry hentry => ?_, fun _ entry hentry => ?_⟩
  · rw [hwritten]
    exact h.isPrefix entry hentry
  · rw [hwritten, hrounds]
    exact h.whole hphase entry hentry

theorem Writes.round (hnumbers : (numbers generator.generatedSignals).Nodup) {n : UInt32 → ℕ}
    (h : Writes generator run n) (hphase : run.phase ≠ .aborted) (failing : String → Option ℕ) :
    ∃ n, Writes generator (run.round failing) n := by
  have hnow : (numbers run.generator.generatedSignals).Nodup := by
    rw [h.signals, numbers_afterAll]
    exact hnumbers
  rcases processAll_cases failing run.generator.time hnow with ⟨-, -, -, -, -, herror⟩ |
    ⟨m, calls, completed, hok, -, hround⟩
  · have hfailed : run.round failing = { run with phase := .undefined } := by
      rw [GeneratorRun.round, herror]
    rw [hfailed]
    exact ⟨n, h.congr rfl (fun _ => rfl) rfl hphase⟩
  · refine ⟨fun number => n number + m number, ?_⟩
    have hrun : run.round failing = { run with
        generator := { run.generator with
          generatedSignals := afterAll m run.generator.generatedSignals }
        written := run.written ++ calls
        phase := if completed then .processed else .aborted
        rounds := if completed then run.rounds ++ [run.generator.time] else run.rounds } := by
      rw [GeneratorRun.round, hok]
    have hentries {entry : String × GeneratedSignal F}
        (hentry : entry ∈ generator.generatedSignals) :
        RoundOf run.generator.time completed calls (entry.2.after (n entry.2.getSignal.number))
          (m entry.2.getSignal.number) := by
      have hmem : (entry.1, entry.2.after (n entry.2.getSignal.number)) ∈
          run.generator.generatedSignals := by
        rw [h.signals]
        exact List.mem_map.mpr ⟨entry, hentry, rfl⟩
      have := hround _ hmem
      rwa [GeneratedSignal.number_after] at this
    rw [hrun]
    refine ⟨?_, fun entry hentry hsampler => ?_, fun hnot entry hentry => ?_⟩
    · dsimp only
      rw [h.signals, afterAll_afterAll]
    · have hpart := (hentries hentry).isPrefix
      rw [GeneratedSignal.number_after] at hpart
      rw [List.flatMap_append, ((h.whole hphase) entry hentry).2 hsampler,
        GeneratedSignal.produced_add]
      exact (List.prefix_append_right_inj _).mpr hpart
    · have hcompleted : completed = true := by
        by_contra hc
        exact hnot (if_neg hc)
      obtain ⟨hcount, hdata⟩ := h.whole hphase entry hentry
      obtain ⟨hsamples, hcalls, -⟩ := (hentries hentry).whole hcompleted
      rw [GeneratedSignal.number_after] at hcalls
      dsimp only
      rw [if_pos hcompleted]
      refine ⟨?_, fun hsampler => ?_⟩
      · rw [GeneratedSignal.count_append_singleton, ← hcount, hsamples]
      · rw [List.flatMap_append, hdata hsampler, hcalls, GeneratedSignal.produced_add]

omit [Add F] [Sub F] [Zero F] [LE F] [DecidableLE F] in
/-- After the loop there is meta information only. -/
theorem metaInformation_leave (run : GeneratorRun F) :
    ∀ c ∈ (run.session.unsubscribeSignals run.generator.allSignalIds).2 ++
      ((run.session.unsubscribeSignals run.generator.allSignalIds).1.removeSignals
        run.generator.allSignalIds).2, ∃ n doc, c = .writeMetaInformation n doc := by
  intro c hc
  rcases List.mem_append.mp hc with hc | hc
  · obtain ⟨p, -, rfl⟩ := List.mem_map.mp hc
    exact ⟨_, _, rfl⟩
  · dsimp only [ProducerSession.removeSignals] at hc
    split_ifs at hc
    · exact (List.not_mem_nil hc).elim
    · exact ⟨_, _, List.mem_singleton.mp hc⟩

theorem Writes.step (hnumbers : (numbers generator.generatedSignals).Nodup) {n : UInt32 → ℕ}
    (h : Writes generator run n) {e : GeneratorEvent} (he : run.Possible e) :
    ∃ n, Writes generator (run.step e) n := by
  cases e with
  | round failing => exact h.round hnumbers (by rw [he.1]; decide) failing
  | advance =>
    have hphase : run.phase = .processed := he
    exact ⟨n, h.congr rfl (fun _ => rfl) rfl (by rw [hphase]; decide)⟩
  | leave =>
    refine ⟨n, h.congr rfl (fun number => ?_) rfl (by rw [he.1]; decide)⟩
    rw [GeneratorRun.step, leave, List.append_assoc, List.flatMap_append,
      flatMap_dataOf_metaInformation (metaInformation_leave run), List.append_nil]
  | stop =>
    refine ⟨n, h.congr rfl (fun _ => rfl) rfl ?_⟩
    rcases he.2 with hphase | hphase <;> rw [hphase] <;> decide

end Written

/-! ### The rounds of a run -/

section Rounds

variable {timeTicksFromTime : ℤ → UInt64 → UInt64} {streamId : String}
  {generator : SignalGenerator F} {run : GeneratorRun F}

open Sampler

/-- The rounds have the same distance. Without a stop they are up to the end of the execution, and
after a stop there is one more of them at most. -/
structure Timed (generator : SignalGenerator F) (run : GeneratorRun F) : Prop where
  roundTime : run.generator.roundTime = generator.roundTime
  rounds : run.rounds = equidistant generator.time generator.roundTime run.rounds.length
  time : run.generator.time + (if run.phase = .processed then generator.roundTime else 0) =
    generator.time + run.rounds.length * generator.roundTime
  notStopped : run.stopped = none → run.endTime = generator.endTime ∧
    ∀ time ∈ run.rounds, time ≤ generator.endTime
  stopped : ∀ k ∈ run.stopped,
    (∃ j : ℤ, j ≤ k ∧ run.endTime = generator.time + j * generator.roundTime) ∧
    (0 < generator.roundTime → run.rounds.length ≤ k + 1)
  finished : run.phase = .finished → run.endTime < run.generator.time

omit [Add F] [Sub F] [Zero F] [LE F] [DecidableLE F] in
theorem timed_start : Timed generator (start timeTicksFromTime streamId generator) where
  roundTime := rfl
  rounds := rfl
  time := by
    have hphase : GeneratorPhase.checking ≠ .processed := by decide
    exact (congrArg _ (if_neg hphase)).trans (congrArg _ (zero_mul _).symm)
  notStopped _ := ⟨rfl, fun _ h => (List.not_mem_nil h).elim⟩
  stopped _ h := (Option.not_mem_none _ h).elim
  finished h := by cases h

/-- A round changes signals and writes, and leaves the time alone. It counts if it is completed. -/
theorem round_cases (failing : String → Option ℕ) (run : GeneratorRun F) :
    run.round failing = { run with phase := .undefined } ∨
      ∃ signals calls,
        run.round failing = { run with
          generator := { run.generator with generatedSignals := signals }
          written := run.written ++ calls
          phase := .aborted } ∨
        run.round failing = { run with
          generator := { run.generator with generatedSignals := signals }
          written := run.written ++ calls
          phase := .processed
          rounds := run.rounds ++ [run.generator.time] } := by
  unfold GeneratorRun.round
  cases processAll failing run.generator.time run.generator.generatedSignals with
  | error fault => exact .inl rfl
  | ok r =>
    obtain ⟨signals, calls, completed⟩ := r
    refine .inr ⟨signals, calls, ?_⟩
    cases completed with
    | false => exact .inl rfl
    | true => exact .inr rfl

theorem Timed.round (h : Timed generator run) (hphase : run.phase = .checking)
    (htime : run.generator.time ≤ run.endTime) (failing : String → Option ℕ) :
    Timed generator (run.round failing) := by
  have hnow := h.time
  rw [if_neg (by rw [hphase]; decide), add_zero] at hnow
  rcases round_cases failing run with hrun | ⟨signals, calls, hrun | hrun⟩
  · rw [hrun]
    exact ⟨h.roundTime, h.rounds, (add_zero _).trans hnow, h.notStopped, h.stopped,
      fun hfinished => by cases hfinished⟩
  · rw [hrun]
    exact ⟨h.roundTime, h.rounds, (add_zero _).trans hnow, h.notStopped, h.stopped,
      fun hfinished => by cases hfinished⟩
  · have hlength : (run.rounds ++ [run.generator.time]).length = run.rounds.length + 1 :=
      List.length_append
    rw [hrun]
    refine ⟨h.roundTime, ?_, ?_, fun hstopped => ?_,
      fun k hk => ⟨(h.stopped k hk).1, fun hpos => ?_⟩, fun hfinished => by cases hfinished⟩
    · rw [hlength, equidistant_succ, ← h.rounds, ← hnow]
    · rw [if_pos rfl, hlength, hnow, Nat.cast_succ, add_mul, one_mul, add_assoc]
    · obtain ⟨hend, hall⟩ := h.notStopped hstopped
      refine ⟨hend, fun time hmem => ?_⟩
      rcases List.mem_append.mp hmem with hmem | hmem
      · exact hall time hmem
      · rw [List.mem_singleton.mp hmem, ← hend]
        exact htime
    · obtain ⟨j, hj, hend⟩ := (h.stopped k hk).1
      have hmul : (run.rounds.length : ℤ) * generator.roundTime ≤ j * generator.roundTime := by
        omega
      have hle := le_of_mul_le_mul_right hmul hpos
      rw [hlength]
      omega

theorem Timed.step (h : Timed generator run) {e : GeneratorEvent} (he : run.Possible e) :
    Timed generator (run.step e) := by
  cases e with
  | round failing => exact h.round he.1 he.2 failing
  | advance =>
    have hphase : run.phase = .processed := he
    have hnow := h.time
    rw [if_pos hphase, ← h.roundTime] at hnow
    refine ⟨h.roundTime, h.rounds, (add_zero _).trans ?_, h.notStopped, h.stopped,
      fun hfinished => by cases hfinished⟩
    rw [← h.roundTime]
    exact hnow
  | leave =>
    obtain ⟨hphase, htime⟩ := he
    have hnow := h.time
    rw [if_neg (by rw [hphase]; decide)] at hnow
    exact ⟨h.roundTime, h.rounds, hnow, h.notStopped, h.stopped, fun _ => htime⟩
  | stop =>
    obtain ⟨-, hphase⟩ := he
    have hnow := h.time
    refine ⟨h.roundTime, h.rounds, hnow, fun hstopped => ?_, fun k hk => ?_, ?_⟩
    · cases hstopped
    · cases hk
      refine ⟨?_, fun _ => Nat.le_succ _⟩
      rcases hphase with hphase | hphase
      · rw [if_neg (by rw [hphase]; decide), add_zero] at hnow
        exact ⟨_, le_rfl, hnow⟩
      · rw [if_pos hphase] at hnow
        refine ⟨run.rounds.length - 1, by omega, ?_⟩
        have hend : (run.step .stop).endTime = run.generator.time := rfl
        rw [sub_mul, one_mul]
        omega
    · intro hfinished
      have hsame : run.phase = .finished := hfinished
      rcases hphase with hphase | hphase <;> rw [hphase] at hsame <;> cases hsame

theorem schedule_of_reached (h : Reached timeTicksFromTime streamId generator run) :
    Timed generator run :=
  h.invariant timed_start fun _ _ hrun he => hrun.step he

/-- The samples after the rounds of a run. -/
theorem Timed.count (h : Timed generator run) {s : Sampler F}
    (hfresh : s.lastProcessTime = generator.time) (hperiod : 0 < s.samplePeriod)
    (hstep : s.step = s.samplePeriod) (hround : 0 ≤ generator.roundTime) {time : ℤ}
    (htime : time ∈ run.rounds.getLast?) :
    s.count run.rounds ≤ s.due time ∧ s.count run.rounds ≡ s.due time [MOD 2 ^ 32] ∧
      (generator.roundTime ≤ (2 ^ 32 - 1 : ℕ) * s.samplePeriod →
        s.count run.rounds = s.due time) := by
  rw [h.rounds, ← hfresh] at htime ⊢
  cases hk : run.rounds.length with
  | zero =>
    rw [hk] at htime
    cases htime
  | succ k =>
    have hlast : time = s.lastProcessTime + k * generator.roundTime := by
      rw [hk, Sampler.equidistant_succ, List.getLast?_append, List.getLast?_singleton] at htime
      exact (Option.some.inj htime).symm
    rw [hlast]
    exact Sampler.count_equidistant hperiod hstep hround k

end Rounds

/-! ### The samples of a run -/

section Samples

variable {timeTicksFromTime : ℤ → UInt64 → UInt64} {streamId : String}
  {generator : SignalGenerator F} {run : GeneratorRun F}

theorem writes_of_reached (h : Reached timeTicksFromTime streamId generator run)
    (hnumbers : (numbers generator.generatedSignals).Nodup) : ∃ n, Writes generator run n := by
  induction h with
  | init => exact ⟨_, writes_start hnumbers⟩
  | step e _ he ih =>
    obtain ⟨n, hwrites⟩ := ih
    exact hwrites.step hnumbers he

/-- What a run tells about the sample periods. -/
structure Divides (generator : SignalGenerator F) (run : GeneratorRun F) : Prop where
  undefined : run.phase = .undefined →
    ∃ entry ∈ generator.generatedSignals, ∃ s ∈ entry.2.sampler?, s.samplePeriod = 0
  rounds : run.rounds ≠ [] →
    ∀ entry ∈ generator.generatedSignals, ∀ s ∈ entry.2.sampler?, s.samplePeriod ≠ 0

theorem Divides.round (h : Divides generator run)
    (hreached : Reached timeTicksFromTime streamId generator run)
    (hconfigured : generator.Configured) (hnumbers : (numbers generator.generatedSignals).Nodup)
    (hphase : run.phase = .checking) (failing : String → Option ℕ) :
    Divides generator (run.round failing) := by
  obtain ⟨n, hwrites⟩ := writes_of_reached hreached hnumbers
  have hnow : (numbers run.generator.generatedSignals).Nodup := by
    rw [hwrites.signals, numbers_afterAll]
    exact hnumbers
  unfold GeneratorRun.round
  rcases processAll_cases failing run.generator.time hnow with
    ⟨entry, hentry, s, hs, hzero, herror⟩ | ⟨m, calls, completed, hok, -, hround⟩
  · rw [herror]
    refine ⟨fun _ => ?_, h.rounds⟩
    rw [hwrites.signals] at hentry
    obtain ⟨entry, hinitial, rfl⟩ := List.mem_map.mp hentry
    rw [GeneratedSignal.sampler?_after] at hs
    obtain ⟨s, hsampler, rfl⟩ := Option.mem_map.mp hs
    exact ⟨entry, hinitial, s, hsampler, hzero⟩
  · rw [hok]
    refine ⟨fun hundefined => ?_, fun hrounds => ?_⟩
    · cases completed <;> cases hundefined
    · by_cases hfirst : run.rounds = []
      · have hcompleted : completed = true := by
          by_contra hnot
          exact hrounds ((if_neg hnot).trans hfirst)
        -- in the first round no time has passed
        intro entry hentry s hs hzero
        have hcount := (hwrites.whole (by rw [hphase]; decide) entry hentry).1
        have hnone : n entry.2.getSignal.number = 0 := by
          rw [hcount, hfirst, GeneratedSignal.count]
          cases entry.2.sampler? <;> rfl
        have hmem : entry ∈ run.generator.generatedSignals := by
          rw [hwrites.signals]
          refine List.mem_map.mpr ⟨entry, hentry, ?_⟩
          rw [hnone, GeneratedSignal.after_zero]
        have hlater := ((hround entry hmem).whole hcompleted).2.2 s hs hzero
        have htime := (schedule_of_reached hreached).time
        rw [if_neg (by rw [hphase]; decide), hfirst, List.length_nil, Nat.cast_zero, zero_mul,
          add_zero, add_zero] at htime
        rw [(hconfigured.fresh entry hentry).lastProcessTime s hs, htime] at hlater
        exact lt_irrefl _ hlater
      · exact h.rounds hfirst

/-- **Sample periods.** A run comes to a division by 0 only if there is a signal without a sample
period, and then it never completes a round. -/
theorem samplePeriod_of_reached (h : Reached timeTicksFromTime streamId generator run)
    (hconfigured : generator.Configured) (hnumbers : (numbers generator.generatedSignals).Nodup) :
    (run.phase = .undefined → ∃ entry ∈ generator.generatedSignals, ∃ s ∈ entry.2.sampler?,
        s.samplePeriod = 0) ∧
      (run.rounds ≠ [] → ∀ entry ∈ generator.generatedSignals, ∀ s ∈ entry.2.sampler?,
        s.samplePeriod ≠ 0) := by
  have hdivides : Divides generator run := by
    induction h with
    | init => exact ⟨fun h => (by cases h), fun h => absurd rfl h⟩
    | @step run e hrun he ih =>
      cases e with
      | round failing => exact ih.round hrun hconfigured hnumbers he.1 failing
      | advance => exact ⟨fun h => (by cases h), ih.rounds⟩
      | leave => exact ⟨fun h => (by cases h), ih.rounds⟩
      | stop => exact ⟨ih.undefined, ih.rounds⟩
  exact ⟨hdivides.undefined, hdivides.rounds⟩

omit [Add F] [Sub F] [Zero F] [LE F] [DecidableLE F] in
theorem samplePeriod_of_reached_ramp : rampSignal.sampler.samplePeriod ≠ 0 :=
  (samplePeriod_of_reached reached_rampRun configured_rampGenerator nodup_rampGenerator).2
    (by decide +kernel) _ mem_rampGenerator _ rfl

end Samples

end GeneratorRun

end StreamingProtocol
