import StreamingProtocol.Producer.GeneratorRuns
import StreamingProtocol.System.Subscriptions
import StreamingProtocol.System.SynchronousTransmission

/-!
# The signal generator over a wire

A signal generator with one synchronous signal and its time signal runs, and what it writes is sent
over a wire. The application of the consumer gets the samples of the function of the signal, from
the first one on, each with the start time and a multiple of the output rate. The process period of
the generator, the moments at which the blocks arrive, and whether the generator is stopped or a
write fails, decide only how many of them it gets.

## Main definitions

* `SignalGenerator.Generates`: a generator with a synchronous signal.
* `GeneratorRun.Feeds`: what a run writes, value by value.

## Main results

* `GeneratorRun.exists_feeds`.
* `Wire.generated_of_reached`.
-/

namespace StreamingProtocol

open ByteString ReachedBy

variable {F : Type} [Add F] [Sub F] [Zero F] [LE F] [DecidableLE F]

/-- A generator with a synchronous signal and the time signal of its table, in the order of their
ids. -/
structure SignalGenerator.Generates (generator : SignalGenerator F) (P : SynchronousTable Unit)
    (g : GeneratedSynchronousSignal F) : Prop where
  signal : P.signals () = g.signal
  signals : ∃ timeId id, timeId ≠ id ∧
    (generator.generatedSignals = [(timeId, .linearTime P.time), (id, .synchronous g)] ∨
      generator.generatedSignals = [(id, .synchronous g), (timeId, .linearTime P.time)])

namespace GeneratorRun

open SignalGenerator SynchronousTable

variable {timeTicksFromTime : ℤ → UInt64 → UInt64} {streamId : String}
  {generator : SignalGenerator F} {run : GeneratorRun F} {P : SynchronousTable Unit}
  {g : GeneratedSynchronousSignal F}

/-! ### Before the loop -/

/-- The calls of the signals before the time is set. -/
def IsOpening (first : List (Action Unit)) : Prop :=
  first = [.subscribeTime, .subscribe ()] ∨ first = [.subscribe (), .subscribeTime]

/-- Two signals are known to a session to which they are added. -/
theorem known_addSignals {id id' : String} (hne : id ≠ id') (p p' : ProducerSignal) :
    (ProducerSession.initial.addSignals [(id, p), (id', p')]).1.known [id, id'] = [p, p'] := by
  have hfirst : (ProducerSession.initial.insert (id, p)).allSignals =
      Function.update (fun _ => none) id (some p) := rfl
  have hsecond : ((ProducerSession.initial.insert (id, p)).insert (id', p')).allSignals =
      Function.update (Function.update (fun _ => none) id (some p)) id' (some p') := by
    rw [ProducerSession.insert, hfirst, Function.update_of_ne hne.symm]
  change ((ProducerSession.initial.insert (id, p)).insert (id', p')).known [id, id'] = [p, p']
  simp only [ProducerSession.known, hsecond, List.filterMap_cons, Function.update_of_ne hne,
    Function.update_self, List.filterMap_nil]

omit [Add F] [Sub F] [Zero F] [LE F] [DecidableLE F] in
/-- Only what signals write is for the container. -/
theorem filterMap_start [JsonRuntime] {signals : List ProducerSignal}
    (hknown : (ProducerSession.initial.addSignals generator.allSignals).1.known
      generator.allSignalIds = signals) :
    (start timeTicksFromTime streamId generator).written.filterMap WriterCall.input? =
      (signals.flatMap ProducerSignal.subscribe ++ generator.generatedSignals.flatMap fun entry =>
        entry.2.initAfterSubscribeAck timeTicksFromTime generator.time).map WriterCall.input := by
  have hinitial : (ProducerSession.writeInitialMetaInformation streamId .null).filterMap
      WriterCall.input? = [] := rfl
  have havailable : (ProducerSession.initial.addSignals generator.allSignals).2.filterMap
      WriterCall.input? = [] :=
    ProducerSession.filterMap_call _ (.addSignals generator.allSignals)
  have hsignals : ∀ c ∈ signals.flatMap ProducerSignal.subscribe ++
      generator.generatedSignals.flatMap fun entry =>
        entry.2.initAfterSubscribeAck timeTicksFromTime generator.time,
      c.input? = some c.input := by
    intro c hc
    rcases List.mem_append.mp hc with hc | hc
    · obtain ⟨p, -, hc⟩ := List.mem_flatMap.mp hc
      exact @ProducerSession.input?_of_mem_written (.subscribe p) c hc
    · obtain ⟨⟨id, g⟩, -, hc⟩ := List.mem_flatMap.mp hc
      cases g with
      | synchronous g => exact (List.not_mem_nil hc).elim
      | asynchronous g => exact (List.not_mem_nil hc).elim
      | linearTime s =>
        obtain rfl := List.mem_singleton.mp hc
        rfl
      | explicitTime s =>
        obtain rfl := List.mem_singleton.mp hc
        rfl
  have hsubscribed : ((ProducerSession.initial.addSignals generator.allSignals).1.subscribeSignals
      generator.allSignalIds).2 = signals.flatMap ProducerSignal.subscribe := by
    rw [← hknown]
    rfl
  rw [start, hsubscribed, List.append_assoc, List.append_assoc, List.filterMap_append,
    List.filterMap_append, hinitial, havailable, List.nil_append, List.nil_append]
  exact WriterCall.filterMap_input? hsignals

omit [Add F] [Sub F] [Zero F] [LE F] [DecidableLE F] in
/-- What is written before the loop, for the container of a consumer. -/
theorem exists_opening [JsonRuntime] (hgenerates : generator.Generates P g) :
    ∃ first, IsOpening first ∧
      (start timeTicksFromTime streamId generator).written.filterMap WriterCall.input? =
        (P.written P.initial (first ++ [.setTimeStart
          (timeTicksFromTime generator.time P.time.timeTicksPerSecond)])).map WriterCall.input := by
  obtain ⟨hsignal, timeId, id, hne, hsignals | hsignals⟩ := hgenerates
  · refine ⟨[.subscribeTime, .subscribe ()], .inl rfl, ?_⟩
    have hknown : (ProducerSession.initial.addSignals generator.allSignals).1.known
        generator.allSignalIds = [.linearTime P.time, .synchronous g.signal] := by
      rw [allSignals, allSignalIds, hsignals]
      exact known_addSignals hne _ _
    rw [filterMap_start hknown, hsignals, ← hsignal]
    rfl
  · refine ⟨[.subscribe (), .subscribeTime], .inr rfl, ?_⟩
    have hknown : (ProducerSession.initial.addSignals generator.allSignals).1.known
        generator.allSignalIds = [.synchronous g.signal, .linearTime P.time] := by
      rw [allSignals, allSignalIds, hsignals]
      exact known_addSignals hne.symm _ _
    rw [filterMap_start hknown, hsignals, ← hsignal]
    rfl

/-! ### The loop -/

/-- The signals of the generator after a number of samples of the synchronous signal. -/
def signalsAfter (generator : SignalGenerator F) (n : ℕ) : Members (GeneratedSignal F) :=
  generator.generatedSignals.map fun entry => (entry.1, entry.2.after n)

/-- A time signal writes nothing. -/
theorem processAll_linearTime (failing : String → Option ℕ) (currentTime : ℤ) (id : String)
    (time : LinearTimeSignal) (signals : Members (GeneratedSignal F)) :
    processAll failing currentTime ((id, .linearTime time) :: signals) =
      match processAll failing currentTime signals with
      | .error fault => .error fault
      | .ok (signals, calls, completed) =>
          .ok ((id, .linearTime time) :: signals, calls, completed) := by
  have hfails : ¬fails (failing id) [] = true := by
    cases failing id with
    | none => exact Bool.false_ne_true
    | some k => exact Bool.false_ne_true
  rw [processAll]
  exact if_neg hfails

omit [Add F] [Sub F] [Zero F] [LE F] [DecidableLE F] in
/-- There is one call at most, which is made whether it fails or not. -/
theorem made_dataCalls (failing : Option ℕ) (values : List Bytes) :
    made failing (g.dataCalls values) = g.dataCalls values := by
  rw [GeneratedSynchronousSignal.dataCalls]
  cases failing with
  | none => rfl
  | some k =>
    split_ifs
    · rfl
    · exact List.take_succ_cons.trans (congrArg _ List.take_nil)

/-- A synchronous signal, the last but for time signals. -/
theorem processAll_synchronous {failing : String → Option ℕ} {currentTime : ℤ} (id : String) {n : ℕ}
    (hprocess : g.sampler.process currentTime = .ok (g.sampler.after n, g.sampler.produced n))
    {signals : Members (GeneratedSignal F)}
    (hsignals : processAll failing currentTime signals = .ok (signals, [], true)) :
    ∃ completed, processAll failing currentTime ((id, .synchronous g) :: signals) =
      .ok ((id, .synchronous (g.after n)) :: signals, g.dataCalls (g.sampler.produced n),
        completed) := by
  have hok : (GeneratedSignal.synchronous g).process currentTime =
      .ok (.synchronous (g.after n), g.dataCalls (g.sampler.produced n)) := by
    rw [GeneratedSignal.process, GeneratedSynchronousSignal.process_eq hprocess]
    rfl
  rw [processAll, hok, hsignals]
  dsimp only
  by_cases hfails : fails (failing id) (g.dataCalls (g.sampler.produced n)) = true
  · rw [if_pos hfails, made_dataCalls]
    exact ⟨false, rfl⟩
  · rw [if_neg hfails, List.append_nil]
    exact ⟨true, rfl⟩

theorem processAll_of_error {failing : String → Option ℕ} {currentTime : ℤ} (id : String)
    (hprocess : g.sampler.process currentTime = .error .divisionByZero)
    {signals : Members (GeneratedSignal F)} :
    processAll failing currentTime ((id, .synchronous g) :: signals) = .error .divisionByZero := by
  have herror : (GeneratedSignal.synchronous g).process currentTime = .error .divisionByZero := by
    rw [GeneratedSignal.process, GeneratedSynchronousSignal.process, hprocess]
    rfl
  rw [processAll, herror]

/-- A round adds the samples of the synchronous signal with one call. -/
theorem processAll_signalsAfter (hgenerates : generator.Generates P g)
    (failing : String → Option ℕ) (currentTime : ℤ) (n : ℕ) :
    processAll failing currentTime (signalsAfter generator n) = .error .divisionByZero ∨
      ∃ completed, processAll failing currentTime (signalsAfter generator n) =
        .ok (signalsAfter generator (n + (g.sampler.after n).samples currentTime),
          g.dataCalls ((g.sampler.after n).produced ((g.sampler.after n).samples currentTime)),
          completed) := by
  obtain ⟨-, timeId, id, -, hsignals⟩ := hgenerates
  have hafter (m : ℕ) : (g.after n).after m = g.after (n + m) :=
    GeneratedSignal.synchronous.inj (GeneratedSignal.after_after n m (.synchronous g))
  have hsampler : (g.after n).sampler = g.sampler.after n := rfl
  have hprocess := (g.sampler.after n).process_cases currentTime
  generalize (g.sampler.after n).samples currentTime = m at hprocess ⊢
  have hnil : processAll failing currentTime ([] : Members (GeneratedSignal F)) =
      .ok ([], [], true) := rfl
  have htime : processAll failing currentTime
      ([(timeId, .linearTime P.time)] : Members (GeneratedSignal F)) =
        .ok ([(timeId, .linearTime P.time)], [], true) := processAll_linearTime _ _ _ _ _
  rcases hsignals with hsignals | hsignals
  · have hpair (k : ℕ) : signalsAfter generator k =
        [(timeId, .linearTime P.time), (id, .synchronous (g.after k))] := by
      rw [signalsAfter, hsignals]
      rfl
    rw [hpair, hpair, processAll_linearTime]
    rcases hprocess with ⟨-, -, hprocess⟩ | ⟨-, hprocess⟩
    · left
      rw [processAll_of_error id hprocess]
    · obtain ⟨completed, hok⟩ := processAll_synchronous id (g := g.after n) hprocess hnil
      right
      refine ⟨completed, ?_⟩
      rw [hok, hafter]
      rfl
  · have hpair (k : ℕ) : signalsAfter generator k =
        [(id, .synchronous (g.after k)), (timeId, .linearTime P.time)] := by
      rw [signalsAfter, hsignals]
      rfl
    rw [hpair, hpair]
    rcases hprocess with ⟨-, -, hprocess⟩ | ⟨-, hprocess⟩
    · exact .inl (processAll_of_error id hprocess)
    · obtain ⟨completed, hok⟩ := processAll_synchronous id (g := g.after n) hprocess htime
      right
      refine ⟨completed, ?_⟩
      rw [hok, hafter]
      rfl

/-- The calls that add values. -/
def dataCall (g : GeneratedSynchronousSignal F) (values : List Bytes) : WriterCall :=
  .writeSignalData g.signal.signalNumber values.flatten

/-- What a run has written, value by value: the calls that add the values of each round are between
those before the loop and those after it. -/
structure Feeds (generator : SignalGenerator F) (g : GeneratedSynchronousSignal F)
    (opening : List WriterCall) (run : GeneratorRun F) (batches : List (List Bytes))
    (closing : List WriterCall) : Prop where
  signals : run.generator.generatedSignals = signalsAfter generator batches.flatten.length
  values : batches.flatten = g.sampler.produced batches.flatten.length
  written : run.written = opening ++ batches.map (dataCall g) ++ closing
  metaInformation : ∀ c ∈ closing, ∃ n doc, c = .writeMetaInformation n doc
  open_of_ne : run.phase ≠ .finished → closing = []
  count : run.phase ≠ .aborted → batches.flatten.length = g.sampler.count run.rounds

theorem feeds_start :
    Feeds generator g (start timeTicksFromTime streamId generator).written
      (start timeTicksFromTime streamId generator) [] [] where
  signals := by
    refine ((List.map_congr_left fun entry _ => ?_).trans (List.map_id _)).symm
    rw [List.flatten_nil, List.length_nil, GeneratedSignal.after_zero]
    rfl
  values := rfl
  written := by rw [List.map_nil, List.append_nil, List.append_nil]
  metaInformation _ hc := (List.not_mem_nil hc).elim
  open_of_ne _ := rfl
  count _ := rfl

variable {opening closing : List WriterCall} {batches : List (List Bytes)}

theorem Feeds.round (h : Feeds generator g opening run batches closing)
    (hgenerates : generator.Generates P g) (hphase : run.phase = .checking)
    (failing : String → Option ℕ) :
    ∃ batches, Feeds generator g opening (run.round failing) batches [] := by
  obtain rfl := h.open_of_ne (by rw [hphase]; decide)
  have hcount := h.count (by rw [hphase]; decide)
  rcases processAll_signalsAfter hgenerates failing run.generator.time batches.flatten.length with
    herror | ⟨completed, hok⟩
  · rw [GeneratorRun.round, h.signals, herror]
    exact ⟨batches, h.signals, h.values, h.written, h.metaInformation, fun _ => rfl,
      fun _ => hcount⟩
  · rw [GeneratorRun.round, h.signals, hok]
    have hsamples : (g.sampler.count (run.rounds ++ [run.generator.time])) =
        batches.flatten.length +
          (g.sampler.after batches.flatten.length).samples run.generator.time := by
      rw [Sampler.count_append_singleton, ← hcount]
    generalize (g.sampler.after batches.flatten.length).samples run.generator.time = m at hsamples ⊢
    have hcounted (hnot : (if completed then GeneratorPhase.processed else .aborted) ≠ .aborted) :
        batches.flatten.length + m = g.sampler.count
          (if completed then run.rounds ++ [run.generator.time] else run.rounds) := by
      cases completed with
      | false => exact absurd rfl hnot
      | true => exact hsamples.symm
    by_cases hnil : (g.sampler.after batches.flatten.length).produced m = []
    · have hzero : m = 0 := by
        rw [← Sampler.length_produced (g.sampler.after batches.flatten.length) m, hnil,
          List.length_nil]
      subst hzero
      refine ⟨batches, rfl, h.values, ?_, h.metaInformation, fun _ => rfl, hcounted⟩
      dsimp only
      rw [GeneratedSynchronousSignal.dataCalls, if_pos hnil, List.append_nil]
      exact h.written
    · refine ⟨batches ++ [(g.sampler.after batches.flatten.length).produced m], ?_, ?_, ?_,
        h.metaInformation, fun _ => rfl, ?_⟩
      · rw [List.flatten_append, List.flatten_singleton, List.length_append,
          Sampler.length_produced]
      · rw [List.flatten_append, List.flatten_singleton, List.length_append,
          Sampler.length_produced, Sampler.produced_add, ← h.values]
      · dsimp only
        rw [GeneratedSynchronousSignal.dataCalls, if_neg hnil, h.written, List.append_nil,
          List.append_nil, List.map_append, List.append_assoc]
        rfl
      · rw [List.flatten_append, List.flatten_singleton, List.length_append,
          Sampler.length_produced]
        exact hcounted

theorem Feeds.step (h : Feeds generator g opening run batches closing)
    (hgenerates : generator.Generates P g) {e : GeneratorEvent} (he : run.Possible e) :
    ∃ batches closing, Feeds generator g opening (run.step e) batches closing := by
  cases e with
  | round failing =>
    obtain ⟨batches, hround⟩ := h.round hgenerates he.1 failing
    exact ⟨batches, [], hround⟩
  | advance =>
    have hphase : run.phase = .processed := he
    have hopen := h.open_of_ne (by rw [hphase]; decide)
    exact ⟨batches, closing, h.signals, h.values, h.written, h.metaInformation, fun _ => hopen,
      fun _ => h.count (by rw [hphase]; decide)⟩
  | leave =>
    obtain ⟨hphase, -⟩ := he
    obtain rfl := h.open_of_ne (by rw [hphase]; decide)
    refine ⟨batches, _, h.signals, h.values, ?_, metaInformation_leave run,
      fun hnot => absurd rfl hnot, fun _ => h.count (by rw [hphase]; decide)⟩
    rw [GeneratorRun.step, leave, h.written, List.append_nil, List.append_assoc]
  | stop =>
    have hopen := h.open_of_ne (by rcases he.2 with hphase | hphase <;> rw [hphase] <;> decide)
    exact ⟨batches, closing, h.signals, h.values, h.written, h.metaInformation, fun _ => hopen,
      h.count⟩

/-- What a run has written. -/
theorem exists_feeds (h : Reached timeTicksFromTime streamId generator run)
    (hgenerates : generator.Generates P g) :
    ∃ batches closing, Feeds generator g (start timeTicksFromTime streamId generator).written run
      batches closing := by
  induction h with
  | init => exact ⟨[], [], feeds_start⟩
  | step e _ he ih =>
    obtain ⟨batches, closing, hfeeds⟩ := ih
    exact hfeeds.step hgenerates he

end GeneratorRun

/-! ### Calls that add values -/

namespace SynchronousTable

variable [JsonRuntime] {P : SynchronousTable Unit} {st : State Unit}

/-- Values that are added one batch after the other. -/
theorem foldl_addData (hdata : () ∈ st.subscribed) (batches : List (List Bytes)) :
    let st' := (batches.map (Action.addData ())).foldl P.step st
    st'.started = st.started ∧
      st'.added () = st.added () ++ numbered 1 batches.flatten (st.valueIndex ()) := by
  induction batches generalizing st with
  | nil => exact ⟨rfl, (List.append_nil _).symm⟩
  | cons values batches ih =>
    have hadded : (P.step st (.addData () values)).added () =
        st.added () ++ numbered 1 values (st.valueIndex ()) := by
      rw [step]
      dsimp only
      rw [if_pos hdata, Function.update_self]
    have hindex : (P.step st (.addData () values)).valueIndex () =
        st.valueIndex () + UInt64.ofNat values.length * 1 := by
      rw [UInt64.mul_one, step]
      dsimp only
      rw [Function.update_self]
      rfl
    obtain ⟨hstarted, hrest⟩ := @ih (P.step st (.addData () values)) hdata
    refine ⟨hstarted, ?_⟩
    rw [List.map_cons, List.foldl_cons, hrest, hadded, hindex, List.flatten_cons, numbered_append,
      List.append_assoc]

theorem written_addData (P : SynchronousTable Unit) (st : State Unit)
    (batches : List (List Bytes)) :
    P.written st (batches.map (Action.addData ())) =
      batches.map fun values => .writeSignalData (P.signals ()).signalNumber values.flatten := by
  induction batches generalizing st with
  | nil => rfl
  | cons values batches ih =>
    rw [List.map_cons, List.map_cons, written, ih]
    rfl

theorem allowed_addData {batches : List (List Bytes)} (htime : st.timeSubscribed = true)
    (hbatches : ∀ values ∈ batches, ∀ value ∈ values,
      value.length = (P.signals ()).dataType.size) :
    AllowedAlong P.step P.Allowed st (batches.map (Action.addData ())) := by
  induction batches generalizing st with
  | nil => trivial
  | cons values batches ih =>
    obtain ⟨hvalues, hbatches⟩ := List.forall_mem_cons.mp hbatches
    exact ⟨⟨hvalues, fun _ => htime⟩, @ih (P.step st (.addData () values)) htime hbatches⟩

theorem allForgotten_addData (P : SynchronousTable Unit) (st : State Unit)
    (batches : List (List Bytes)) :
    P.allForgotten st (batches.map (Action.addData ())) = [] := by
  induction batches generalizing st with
  | nil => rfl
  | cons values batches ih =>
    rw [List.map_cons, allForgotten, ih]
    rfl

end SynchronousTable

/-! ### Over a wire -/

namespace SynchronousTable

variable [JsonRuntime] {P : SynchronousTable Unit} {first : List (Action Unit)}

/-- After the time was set, before values are added. -/
theorem opening_eq (hfirst : GeneratorRun.IsOpening first) (t : UInt64) :
    let st := (first ++ [Action.setTimeStart t]).foldl P.step P.initial
    () ∈ st.subscribed ∧ st.timeSubscribed = true ∧ st.started = some t ∧ st.added () = [] ∧
      st.valueIndex () = (P.signals ()).valueIndex := by
  rcases hfirst with rfl | rfl
  · exact ⟨Finset.mem_insert_self () ∅, rfl, rfl, rfl, rfl⟩
  · exact ⟨Finset.mem_insert_self () ∅, rfl, rfl, rfl, rfl⟩

theorem allowed_opening (hfirst : GeneratorRun.IsOpening first) (t : UInt64) :
    AllowedAlong P.step P.Allowed P.initial (first ++ [.setTimeStart t]) := by
  rcases hfirst with rfl | rfl
  · exact ⟨rfl, Finset.notMem_empty (), ⟨rfl, (), Finset.mem_insert_self () ∅⟩, trivial⟩
  · exact ⟨Finset.notMem_empty (), rfl, ⟨rfl, (), Finset.mem_insert_self () ∅⟩, trivial⟩

/-- Subscriptions deliver no values. -/
theorem flatMap_subscriptions {β : Type} {values : Callback → List β}
    (hvalues : ∀ s method params, values (.signalMeta s method params) = [])
    {actions : List (Action Unit)}
    (hactions : ∀ action ∈ actions, action = .subscribeTime ∨ action = .subscribe ())
    {st : State Unit} (hst : st.callbacks.flatMap values = []) :
    P.allForgotten st actions = [] ∧ (actions.foldl P.step st).callbacks.flatMap values = [] := by
  induction actions generalizing st with
  | nil => exact ⟨rfl, hst⟩
  | cons action actions ih =>
    obtain ⟨haction, hactions⟩ := List.forall_mem_cons.mp hactions
    have hmeta (p : ProducerSignal) :
        ∀ input ∈ p.subscribe.map WriterCall.input, ∃ n m, input = .metaInformation n m := by
      intro input hinput
      rcases List.mem_pair.mp hinput with rfl | rfl
      · exact ⟨_, _, rfl⟩
      · exact ⟨_, _, rfl⟩
    have hforgotten : forgotten st action = [] := by rcases haction with rfl | rfl <;> rfl
    have hstep : (P.step st action).callbacks.flatMap values = [] := by
      have hcallbacks := congrArg (List.flatMap values) (P.callbacks_step st action)
      rw [hforgotten, List.nil_append, List.flatMap_append, hst, List.nil_append] at hcallbacks
      rw [← hcallbacks]
      refine flatMap_callbacks_metaInformation hvalues ?_ _
      rcases haction with rfl | rfl <;> exact hmeta _
    obtain ⟨hrest, hlast⟩ := ih hactions hstep
    rw [allForgotten, hforgotten, hrest]
    exact ⟨rfl, hlast⟩

omit [JsonRuntime] in
theorem subscription_of_mem (hfirst : GeneratorRun.IsOpening first) :
    ∀ action ∈ first, action = .subscribeTime ∨ action = .subscribe () := by
  intro action haction
  rcases hfirst with rfl | rfl
  · exact List.mem_pair.mp haction
  · exact (List.mem_pair.mp haction).symm

/-- The values of callbacks are batches of values, with times from the start time on. -/
def Delivers (P : SynchronousTable Unit) (t : UInt64) (callbacks : List Callback)
    (batches : List (List Bytes)) : Prop :=
  let delivered := numbered P.time.outputRateInTicks batches.flatten
    (t + (P.signals ()).valueIndex * P.time.outputRateInTicks)
  callbacks.flatMap (Callback.rawValues (P.number ())) = delivered ∧
    callbacks.flatMap (Callback.countedValues (P.number ())) = delivered

omit [JsonRuntime] in
theorem rawValues_signalMeta (n : SignalNumber) (s : SubscribedSignal) (method : String)
    (params : Json) : Callback.rawValues n (.signalMeta s method params) = [] := rfl

omit [JsonRuntime] in
theorem countedValues_signalMeta (n : SignalNumber) (s : SubscribedSignal) (method : String)
    (params : Json) : Callback.countedValues n (.signalMeta s method params) = [] := rfl

/-- With calls that add values. -/
theorem delivers_addData [LawfulJsonRuntime] (hfirst : GeneratorRun.IsOpening first) (t : UInt64)
    {batches : List (List Bytes)}
    (hbatches : ∀ values ∈ batches, ∀ value ∈ values,
      value.length = (P.signals ()).dataType.size) :
    let done := first ++ [.setTimeStart t] ++ batches.map (Action.addData ())
    P.Delivers t (P.allForgotten P.initial done ++ (done.foldl P.step P.initial).callbacks)
      batches := by
  intro done
  have hquiet := subscription_of_mem hfirst
  obtain ⟨hdata, htime, hstarted, hadded, hindex⟩ := opening_eq (P := P) hfirst t
  obtain ⟨hstill, hvalues⟩ := foldl_addData (P := P) hdata batches
  have hdelivered := delivered_foldl ((allowedAlong_append _ _ _).mpr
    ⟨allowed_opening hfirst t, allowed_addData htime hbatches⟩)
  have hstate : done.foldl P.step P.initial = (batches.map (Action.addData ())).foldl P.step
      ((first ++ [Action.setTimeStart t]).foldl P.step P.initial) := List.foldl_append
  have hforgotten : P.allForgotten P.initial done =
      (first.foldl P.step P.initial).callbacks := by
    rw [allForgotten_append, allForgotten_append, allForgotten_addData, List.append_nil,
      (flatMap_subscriptions (rawValues_signalMeta 0) hquiet rfl).1]
    exact List.append_nil _
  have htimes : ((done.foldl P.step P.initial).added ()).map
      (fun entry => (entry.1, t + entry.2 * P.time.outputRateInTicks)) =
      numbered P.time.outputRateInTicks batches.flatten
        (t + (P.signals ()).valueIndex * P.time.outputRateInTicks) := by
    rw [hstate, hvalues, hadded, hindex, List.nil_append, map_numbered]
  have hnow : (done.foldl P.step P.initial).started = some t := by
    rw [hstate, hstill, hstarted]
  rw [Delivers, hforgotten, List.flatMap_append, List.flatMap_append,
    (flatMap_subscriptions (rawValues_signalMeta _) hquiet rfl).2,
    (flatMap_subscriptions (countedValues_signalMeta _) hquiet rfl).2, List.nil_append,
    List.nil_append, hdelivered.raw t hnow (), hdelivered.counted t hnow (), htimes]
  exact ⟨rfl, rfl⟩

/-- A first part of the calls delivers a first part of the values. -/
theorem exists_delivers [LawfulJsonRuntime] (hfirst : GeneratorRun.IsOpening first) {t : UInt64}
    {batches : List (List Bytes)}
    (hbatches : ∀ values ∈ batches, ∀ value ∈ values,
      value.length = (P.signals ()).dataType.size)
    {done : List (Action Unit)}
    (hdone : done <+: first ++ [.setTimeStart t] ++ batches.map (Action.addData ())) :
    ∃ batches', batches' <+: batches ∧
      (done = first ++ [.setTimeStart t] ++ batches.map (Action.addData ()) → batches' = batches) ∧
      P.Delivers t (P.allForgotten P.initial done ++ (done.foldl P.step P.initial).callbacks)
        batches' := by
  have hlength (batches : List (List Bytes)) :
      (first ++ [Action.setTimeStart t] ++ batches.map (Action.addData ())).length =
        first.length + 1 + batches.length := by
    rw [List.length_append, List.length_append, List.length_map]
    rfl
  rcases List.prefix_or_prefix_of_prefix hdone (List.prefix_append _ _) with hbefore | hafter
  · rcases List.prefix_concat_iff.mp hbefore with rfl | hbefore
    · refine ⟨[], List.nil_prefix, fun hall => ?_, ?_⟩
      · have hlengths := congrArg List.length hall
        rw [hlength, List.length_append, List.length_singleton] at hlengths
        exact (List.length_eq_zero_iff.mp (by omega)).symm
      · have hno : ∀ values ∈ ([] : List (List Bytes)), ∀ value ∈ values,
            value.length = (P.signals ()).dataType.size := fun _ h => absurd h List.not_mem_nil
        have hnone := delivers_addData hfirst t hno
        rwa [List.map_nil, List.append_nil] at hnone
    · have hquiet := fun action haction =>
        subscription_of_mem hfirst action (hbefore.subset haction)
      refine ⟨[], List.nil_prefix, fun hall => ?_, ?_⟩
      · have hle := hbefore.length_le
        rw [hall, hlength] at hle
        omega
      · rw [Delivers, (flatMap_subscriptions (rawValues_signalMeta 0) hquiet rfl).1,
          List.nil_append,
          (flatMap_subscriptions (rawValues_signalMeta _) hquiet rfl).2,
          (flatMap_subscriptions (countedValues_signalMeta _) hquiet rfl).2]
        exact ⟨rfl, rfl⟩
  · obtain ⟨rest, rfl⟩ := hafter
    obtain ⟨batches', hpart, rfl⟩ :=
      List.prefix_map_iff.mp ((List.prefix_append_right_inj _).mp hdone)
    refine ⟨batches', hpart, fun hall => hpart.eq_of_length ?_,
      delivers_addData hfirst t fun values hmem => hbatches values (hpart.subset hmem)⟩
    have hlengths := congrArg List.length hall
    rw [hlength, hlength] at hlengths
    omega

end SynchronousTable

namespace Wire

open SynchronousTable

variable [JsonRuntime] [LawfulJsonRuntime] [Msgpack] {completionCb : Bool} {w : Wire}
  {timeTicksFromTime : ℤ → UInt64 → UInt64} {streamId : String} {generator : SignalGenerator F}
  {run : GeneratorRun F} {P : SynchronousTable Unit} {g : GeneratedSynchronousSignal F}

omit [LawfulJsonRuntime] [Msgpack] in
/-- What a run has written, for the container of a consumer. -/
theorem exists_inputs (hrun : GeneratorRun.Reached timeTicksFromTime streamId generator run)
    (hgenerates : generator.Generates P g) :
    ∃ first batches closing, GeneratorRun.IsOpening first ∧
      GeneratorRun.Feeds generator g
        (GeneratorRun.start timeTicksFromTime streamId generator).written run batches closing ∧
      run.written.filterMap WriterCall.input? =
        (P.written P.initial (first ++ [.setTimeStart (timeTicksFromTime generator.time
          P.time.timeTicksPerSecond)] ++ batches.map (Action.addData ()))).map WriterCall.input ++
          closing.filterMap WriterCall.input? := by
  obtain ⟨first, hfirst, hopening⟩ := GeneratorRun.exists_opening hgenerates
  obtain ⟨batches, closing, hfeeds⟩ := GeneratorRun.exists_feeds hrun hgenerates
  refine ⟨first, batches, closing, hfirst, hfeeds, ?_⟩
  have hbatches : (batches.map (GeneratorRun.dataCall g)).filterMap WriterCall.input? =
      (batches.map (GeneratorRun.dataCall g)).map WriterCall.input := by
    refine WriterCall.filterMap_input? fun c hc => ?_
    obtain ⟨values, -, rfl⟩ := List.mem_map.mp hc
    rfl
  rw [hfeeds.written, List.filterMap_append, List.filterMap_append, hopening, hbatches,
    P.written_append P.initial (first ++ _), written_addData, List.map_append, hgenerates.signal]
  rfl

omit [JsonRuntime] [LawfulJsonRuntime] [Msgpack]

/-- The table of the generated ramp. -/
def rampTable : SynchronousTable Unit where
  time := .new 0 "A_u_time" "u_table" SignalGenerator.timeTicksPerSecond 500000
  signals _ := GeneratorRun.rampSignal.signal
  outputRateInTicks_ne_zero := by decide +kernel
  tableId_eq _ := rfl
  signalNumber_injective _ _ _ := rfl
  signalNumber_ne _ := by decide +kernel
  quantity_ne _ := by decide +kernel

theorem generates_ramp :
    GeneratorRun.rampGenerator.Generates rampTable GeneratorRun.rampSignal :=
  ⟨rfl, "A_u_time", "u", by decide +kernel, .inl rfl⟩

/-- What is written before the loop ends. -/
def rampSent : List WriterCall := GeneratorRun.rampRun.written.take 9

/-- All of it is written and arrives, and two blocks are handled. -/
def rampWireEvents : List WireEvent :=
  [.other (.init .success)] ++ rampSent.map .write ++ [.arrive 2000, .read, .read,
    .other .processed, .read, .read]

@[reducible] def rampMsgpack : Msgpack := WriterCall.packed rampSent

def rampWire : Wire :=
  rampWireEvents.foldl (@step decimalRuntime rampMsgpack) (start {} true)

end Wire

end StreamingProtocol
