import StreamingProtocol.Producer.FreshDescription
import StreamingProtocol.Session.Batching

/-!
# Tables of synchronous signals

A producer has a linear time signal and any number of synchronous signals of the same table. All
that they write is handed to the container of one consumer, call by call. A synchronous signal
counts its values, and a consumer counts the values that it gets.

`SynchronousTable` is what the producer does not change. `SynchronousTable.State` is what changes on
both sides, together with what was added to the signals that are subscribed, and the callbacks of
the consumer, since the time was set last.

## Main definitions

* `SynchronousTable`, `SynchronousTable.State`.
* `SynchronousTable.Action`, `SynchronousTable.step`, `SynchronousTable.Allowed`.
-/

namespace StreamingProtocol

open ByteString

/-! ### The producer -/

/-- A linear time signal and synchronous signals of its table. -/
structure SynchronousTable (ι : Type) where
  time : LinearTimeSignal
  signals : ι → SynchronousSignal
  outputRateInTicks_ne_zero : time.outputRateInTicks ≠ 0
  tableId_eq (i : ι) : (signals i).tableId = time.tableId
  signalNumber_injective : Function.Injective fun i => (signals i).signalNumber
  signalNumber_ne (i : ι) : (signals i).signalNumber ≠ time.signalNumber
  quantity_ne (i : ι) : (signals i).unit.quantity ≠ metaTime

namespace SynchronousTable

/-- A time signal with 1000 ticks between values. -/
def kilohertz : LinearTimeSignal where
  signalNumber := 1
  signalNumber_ne_zero := firstNumber_ne_zero
  signalId := "time"
  tableId := "table"
  timeTicksPerSecond := 1000000000
  outputRateInTicks := 1000

theorem kilohertz_ne_zero : kilohertz.outputRateInTicks ≠ 0 := by decide

variable {ι : Type} [DecidableEq ι] [JsonRuntime]

/-- A producer and a consumer. -/
structure State (ι : Type) where
  valueIndex : ι → UInt64
  timeSubscribed : Bool := false
  subscribed : Finset ι := ∅
  started : Option UInt64 := none
  container : SignalContainer := .initial
  added : ι → List (Bytes × UInt64) := fun _ => []
  callbacks : List Callback := []

/-- The calls of the signals of a producer. -/
inductive Action (ι : Type) where
  | subscribeTime
  | setTimeStart (timeTicks : UInt64)
  | subscribe (i : ι)
  | addData (i : ι) (values : List Bytes)
  | writeSignalMetaInformation (i : ι)
  | unsubscribe (i : ι)

variable (P : SynchronousTable ι)

omit [DecidableEq ι] [JsonRuntime] in
/-- Both before any call. -/
def initial : State ι where
  valueIndex i := (P.signals i).valueIndex

omit [DecidableEq ι] [JsonRuntime] in
/-- A synchronous signal with its value index. -/
def signal (st : State ι) (i : ι) : SynchronousSignal :=
  { P.signals i with valueIndex := st.valueIndex i }

omit [DecidableEq ι] in
/-- The calls of the writer are handed to the container. -/
def State.send (st : State ι) (calls : List WriterCall) : State ι :=
  { st with
    container := (calls.map WriterCall.input).foldl SignalContainer.next st.container
    callbacks := st.callbacks ++ st.container.callbacks (calls.map WriterCall.input) }

/-- Both after a call. What is recorded starts anew when the time is set. -/
def step (st : State ι) : Action ι → State ι
  | .subscribeTime =>
      { st.send (ProducerSignal.linearTime P.time).subscribe with timeSubscribed := true }
  | .setTimeStart timeTicks =>
      { ({ st with callbacks := [] } : State ι).send [P.time.setTimeStart timeTicks] with
        started := some timeTicks
        added := fun _ => [] }
  | .subscribe i =>
      { st.send (ProducerSignal.synchronous (P.signal st i)).subscribe with
        subscribed := insert i st.subscribed }
  | .addData i values =>
      let (s, calls) := (P.signal st i).addData values
      { st.send calls with
        valueIndex := Function.update st.valueIndex i s.valueIndex
        added := if i ∈ st.subscribed then
            Function.update st.added i (st.added i ++ numbered 1 values (st.valueIndex i))
          else st.added }
  | .writeSignalMetaInformation i =>
      st.send [(ProducerSignal.synchronous (P.signal st i)).writeSignalMetaInformation]
  | .unsubscribe i =>
      { st.send [(ProducerSignal.synchronous (P.signal st i)).unsubscribe] with
        subscribed := st.subscribed.erase i }

omit [DecidableEq ι] [JsonRuntime] in
/-- The time signal is subscribed once, the time is set afterwards, while a data signal is
subscribed, and a signal is not subscribed twice. Values have the size of their type, and are added
to subscribed signals after the subscription of the time signal. -/
def Allowed (st : State ι) : Action ι → Prop
  | .subscribeTime => st.timeSubscribed = false
  | .setTimeStart _ => st.timeSubscribed = true ∧ st.subscribed.Nonempty
  | .subscribe i => i ∉ st.subscribed
  | .addData i values => (∀ value ∈ values, value.length = (P.signals i).dataType.size) ∧
      (i ∈ st.subscribed → st.timeSubscribed = true)
  | .writeSignalMetaInformation _ | .unsubscribe _ => True

omit [JsonRuntime] in
instance (st : State ι) (call : Action ι) : Decidable (P.Allowed st call) :=
  match call with
  | .subscribeTime => inferInstanceAs (Decidable (st.timeSubscribed = false))
  | .setTimeStart _ =>
      inferInstanceAs (Decidable (st.timeSubscribed = true ∧ st.subscribed.Nonempty))
  | .subscribe i => inferInstanceAs (Decidable (i ∉ st.subscribed))
  | .addData i values => inferInstanceAs (Decidable
      ((∀ value ∈ values, value.length = (P.signals i).dataType.size) ∧
        (i ∈ st.subscribed → st.timeSubscribed = true)))
  | .writeSignalMetaInformation _ | .unsubscribe _ => isTrue trivial

end SynchronousTable

end StreamingProtocol
