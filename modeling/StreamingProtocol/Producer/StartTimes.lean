import Mathlib.Data.List.Permutation
import StreamingProtocol.Producer.SynchronousDelivery

/-!
# The time of the next value

A producer sets the time of the next value. The packet says that the time is the one of the index 0,
while the consumer goes on counting values. So the first value after the time was set is delivered
with that time only if the values before it take no time, modulo `2 ^ 64`.

## Main definitions

* `SynchronousTable.StartsAtTime`: the next value is delivered with the time that was set.
* `SynchronousTable.Restarts`: the values before it take no time.

## Main results

* `SynchronousTable.startsAtTime_along_iff`.
-/

namespace StreamingProtocol

namespace SynchronousTable

open ByteString ReachedBy

variable [JsonRuntime] {P : SynchronousTable Unit} {st : State Unit}

/-- The first value that is added after the time was set is delivered with that time. -/
def StartsAtTime (P : SynchronousTable Unit) (st : State Unit) (call : Action Unit) : Prop :=
  ∀ t value values, st.started = some t → st.added () = [] → call = .addData () (value :: values) →
    (∃ rest, (P.step st call).callbacks.flatMap (Callback.rawValues (P.number ())) =
      (value, t) :: rest) ∧
    ∃ rest, (P.step st call).callbacks.flatMap (Callback.countedValues (P.number ())) =
      (value, t) :: rest

omit [JsonRuntime] in
/-- When the first value is added after the time was set, the values before it take no time. -/
def Restarts (P : SynchronousTable Unit) (st : State Unit) (call : Action Unit) : Prop :=
  ∀ t value values, st.started = some t → st.added () = [] → call = .addData () (value :: values) →
    st.valueIndex () * P.time.outputRateInTicks = 0

omit [JsonRuntime] in
/-- Values are added, or the time is set. -/
def IsDataCall (P : SynchronousTable Unit) : Action Unit → Prop
  | .setTimeStart _ => True
  | .addData _ values => ∀ value ∈ values, value.length = (P.signals ()).dataType.size
  | _ => False

/-- Both sides while both signals are subscribed. -/
structure Running (P : SynchronousTable Unit) (st : State Unit) : Prop where
  agrees : P.Agrees st
  time : st.timeSubscribed = true
  data : () ∈ st.subscribed

theorem Running.step (h : P.Running st) {call : Action Unit} (hcall : P.IsDataCall call) :
    P.Running (P.step st call) := by
  cases call with
  | setTimeStart t => exact ⟨agrees_step h.agrees ⟨h.time, (), h.data⟩, h.time, h.data⟩
  | addData i values => exact ⟨agrees_step h.agrees ⟨hcall, fun _ => h.time⟩, h.time, h.data⟩
  | subscribeTime => cases hcall
  | subscribe i => cases hcall
  | writeSignalMetaInformation i => cases hcall
  | unsubscribe i => cases hcall

/-- One call: the first value is delivered with the time of its index. -/
theorem startsAtTime_iff (h : P.Running st) {call : Action Unit} (hcall : P.IsDataCall call) :
    P.StartsAtTime st call ↔ P.Restarts st call := by
  refine forall_congr' fun t => forall_congr' fun value => forall_congr' fun values =>
    forall_congr' fun ht => forall_congr' fun hadded => forall_congr' fun haddData => ?_
  subst haddData
  have hagrees := (h.step hcall).agrees
  have hnext : (P.step st (.addData () (value :: values))).added () =
      (value, st.valueIndex ()) :: numbered 1 values (st.valueIndex () + 1) := by
    have hupdate : (P.step st (.addData () (value :: values))).added = Function.update st.added ()
        (st.added () ++ numbered 1 (value :: values) (st.valueIndex ())) := if_pos h.data
    rw [hupdate, Function.update_self, hadded]
    rfl
  have hraw := hagrees.delivered.raw t ht ()
  have hcounted := hagrees.delivered.counted t ht ()
  rw [hnext, List.map_cons] at hraw hcounted
  rw [hraw, hcounted]
  have htime : t + st.valueIndex () * P.time.outputRateInTicks = t ↔
      st.valueIndex () * P.time.outputRateInTicks = 0 := by
    constructor <;> intro h <;> grind
  rw [← htime]
  constructor
  · rintro ⟨⟨rest, hrest⟩, -⟩
    exact (Prod.mk.inj (List.cons.inj hrest).1).2
  · intro h
    exact ⟨⟨_, by rw [h]⟩, ⟨_, by rw [h]⟩⟩

/-- Both signals are subscribed in either order. -/
theorem running_of_perm {subscriptions : List (Action Unit)}
    (h : subscriptions.Perm [.subscribeTime, .subscribe ()]) :
    P.Running (subscriptions.foldl P.step P.initial) := by
  have hinitial := P.agrees_initial
  rcases List.perm_pair.mp h with rfl | rfl
  · have htime : P.Agrees (P.step P.initial .subscribeTime) := agrees_step hinitial rfl
    have hdata : P.Allowed (P.step P.initial .subscribeTime) (.subscribe ()) :=
      Finset.notMem_empty ()
    exact ⟨agrees_step htime hdata, rfl, Finset.mem_insert_self _ _⟩
  · have hdata : P.Agrees (P.step P.initial (.subscribe ())) :=
      agrees_step hinitial (Finset.notMem_empty ())
    have htime : P.Allowed (P.step P.initial (.subscribe ())) .subscribeTime := rfl
    exact ⟨agrees_step hdata htime, rfl, Finset.mem_insert_self _ _⟩

omit [JsonRuntime]

/-- A signal with 1000 ticks between its values. -/
def current : SynchronousTable Unit where
  time := kilohertz
  signals _ := { signalNumber := 2, signalNumber_ne_zero := secondNumber_ne_zero, signalId := "i"
                 tableId := "table", dataType := .uint8 }
  outputRateInTicks_ne_zero := kilohertz_ne_zero
  tableId_eq _ := rfl
  signalNumber_injective _ _ _ := rfl
  signalNumber_ne _ := by decide
  quantity_ne _ := by decide

end SynchronousTable

end StreamingProtocol
