import StreamingProtocol.Foundation.KeyedMaps
import StreamingProtocol.Producer.SessionSignals

/-!
# Adding signals at once

A session refers to its signals as objects, which it shares with the application. Signals are added
one by one or at once. A single signal replaces the one that is known by its id; signals that are
added at once are inserted, and a signal that is known by an id is kept. So the application cannot
replace a signal at once: the session goes on to call the old object.

The objects are of an arbitrary type, and may change between the calls of the session. What a
session writes is what it writes in `StreamingProtocol.Producer.SessionSignals`, where it holds the
signals.

## Main definitions

* `ObjectSession`, `ObjectCall`, `ObjectSession.call`.
* `ObjectSession.view`: the session with the signals that it refers to.
* `ObjectSession.SameAsSingly`: signals may be added at once or one by one.

## Main results

* `ObjectSession.call_view`: what a session does and writes.
* `ObjectSession.allSignals_eq_of_written`: what is written tells which objects are referred to.
* `ObjectSession.sameAsSingly_iff`.
-/

namespace StreamingProtocol

/-- The objects that were added to a session as its signals. -/
structure ObjectSession (ρ : Type) where
  allSignals : String → Option ρ

/-- A call of a session. -/
inductive ObjectCall (ρ : Type) where
  | addSignal (signal : ρ)
  | addSignals (signals : Members ρ)
  | removeSignal (signalId : String)
  | removeSignals (signalIds : List String)
  | subscribeSignals (signalIds : List String)
  | unsubscribeSignals (signalIds : List String)

namespace ObjectSession

variable {ρ : Type} (objects : ρ → ProducerSignal)

/-! ### Calls of a session -/

/-- The objects with ids, as far as they are known. -/
def known (session : ObjectSession ρ) (signalIds : List String) : List ρ :=
  signalIds.filterMap session.allSignals

/-- `ProducerSession::addSignal`, with what is written and the object that writes it, if it is not
the session. -/
def addSignal (signal : ρ) (session : ObjectSession ρ) :
    ObjectSession ρ × List (Option ρ × WriterCall) :=
  (⟨KeyedMap.assign session.allSignals ((objects signal).id, signal)⟩,
    if (objects signal).isDataSignal then
      [(none, ProducerSession.writeAvailableMetaInformation [(objects signal).id])]
    else [])

/-- `ProducerSession::addSignals`. -/
def addSignals (signals : Members ρ) (session : ObjectSession ρ) :
    ObjectSession ρ × List (Option ρ × WriterCall) :=
  let signalIds := (signals.filter fun entry => (objects entry.2).isDataSignal).map Prod.fst
  (⟨signals.foldl KeyedMap.insert session.allSignals⟩,
    if signalIds = [] then []
    else [(none, ProducerSession.writeAvailableMetaInformation signalIds)])

/-- One round of `ProducerSession::removeSignals`, with the ids of the data signals so far. -/
def remove (signalId : String) (s : ObjectSession ρ × List String) :
    ObjectSession ρ × List String :=
  match s.1.allSignals signalId with
  | none => s
  | some signal => (⟨Function.update s.1.allSignals signalId none⟩,
      if (objects signal).isDataSignal then s.2 ++ [signalId] else s.2)

/-- `ProducerSession::removeSignals`. -/
def removeSignals (signalIds : List String) (session : ObjectSession ρ) :
    ObjectSession ρ × List (Option ρ × WriterCall) :=
  let (session, dataSignalIds) :=
    signalIds.foldl (fun s signalId => remove objects signalId s) (session, [])
  (session, if dataSignalIds = [] then []
    else [(none, ProducerSession.writeUnavailableMetaInformation dataSignalIds)])

/-- `ProducerSession::subscribeSignals`. -/
def subscribeSignals (signalIds : List String) (session : ObjectSession ρ) :
    ObjectSession ρ × List (Option ρ × WriterCall) :=
  (session, (session.known signalIds).flatMap fun signal =>
    (objects signal).subscribe.map fun w => (some signal, w))

/-- `ProducerSession::unsubscribeSignals`. -/
def unsubscribeSignals (signalIds : List String) (session : ObjectSession ρ) :
    ObjectSession ρ × List (Option ρ × WriterCall) :=
  (session, (session.known signalIds).map fun signal => (some signal, (objects signal).unsubscribe))

/-- A call of a session. -/
def call (session : ObjectSession ρ) :
    ObjectCall ρ → ObjectSession ρ × List (Option ρ × WriterCall)
  | .addSignal signal => session.addSignal objects signal
  | .addSignals signals => session.addSignals objects signals
  | .removeSignal signalId => session.removeSignals objects [signalId]
  | .removeSignals signalIds => session.removeSignals objects signalIds
  | .subscribeSignals signalIds => session.subscribeSignals objects signalIds
  | .unsubscribeSignals signalIds => session.unsubscribeSignals objects signalIds

/-- What is written during calls, call by call, with the objects at the time of each call. -/
def written (session : ObjectSession ρ) :
    List ((ρ → ProducerSignal) × ObjectCall ρ) → List (List (Option ρ × WriterCall))
  | [] => []
  | (objects, oc) :: calls =>
      (session.call objects oc).2 :: (session.call objects oc).1.written calls

/-! ### The signals that are referred to -/

/-- The session with the signals that it refers to. -/
def view (session : ObjectSession ρ) : ProducerSession :=
  ⟨fun signalId => (session.allSignals signalId).map objects⟩

end ObjectSession

/-- A call with the signals that it refers to. -/
def ObjectCall.view {ρ : Type} (objects : ρ → ProducerSignal) : ObjectCall ρ → SessionCall
  | addSignal signal => .addSignal (objects signal)
  | addSignals signals => .addSignals (signals.map fun entry => (entry.1, objects entry.2))
  | removeSignal signalId => .removeSignal signalId
  | removeSignals signalIds => .removeSignals signalIds
  | subscribeSignals signalIds => .subscribeSignals signalIds
  | unsubscribeSignals signalIds => .unsubscribeSignals signalIds

namespace ObjectSession

variable {ρ : Type} (objects : ρ → ProducerSignal) (session : ObjectSession ρ)

theorem view_update (signalId : String) (signal : Option ρ) :
    view objects ⟨Function.update session.allSignals signalId signal⟩ =
      ⟨Function.update (session.view objects).allSignals signalId (signal.map objects)⟩ := by
  have hupdate (id : String) : (Function.update session.allSignals signalId signal id).map objects =
      Function.update (session.view objects).allSignals signalId (signal.map objects) id := by
    rw [Function.update_apply, Function.update_apply]
    split_ifs <;> rfl
  exact congrArg ProducerSession.mk (funext hupdate)

theorem view_insert (entry : String × ρ) :
    view objects ⟨KeyedMap.insert session.allSignals entry⟩ =
      (session.view objects).insert (entry.1, objects entry.2) := by
  have hview : (session.view objects).allSignals entry.1 =
      (session.allSignals entry.1).map objects := rfl
  unfold KeyedMap.insert ProducerSession.insert
  dsimp only
  rw [hview]
  cases session.allSignals entry.1 with
  | none => exact view_update objects session entry.1 (some entry.2)
  | some signal => rfl

theorem view_foldl_insert (signals : Members ρ) :
    view objects ⟨signals.foldl KeyedMap.insert session.allSignals⟩ =
      (signals.map fun entry => (entry.1, objects entry.2)).foldl
        (fun session entry => session.insert entry) (session.view objects) := by
  induction signals generalizing session with
  | nil => rfl
  | cons entry signals ih =>
    rw [List.foldl_cons, List.map_cons, List.foldl_cons, ← view_insert]
    exact ih ⟨KeyedMap.insert session.allSignals entry⟩

theorem view_known (signalIds : List String) :
    (session.view objects).known signalIds = (session.known signalIds).map objects := by
  rw [known, ProducerSession.known, List.map_filterMap]
  rfl

/-- One round of the removal. -/
theorem view_remove (signalId : String) (s : ObjectSession ρ × List String) :
    ProducerSession.remove signalId (s.1.view objects, s.2) =
      ((remove objects signalId s).1.view objects, (remove objects signalId s).2) := by
  have hview : (s.1.view objects).allSignals signalId =
      (s.1.allSignals signalId).map objects := rfl
  unfold ProducerSession.remove remove
  dsimp only
  rw [hview]
  cases s.1.allSignals signalId with
  | none => rfl
  | some signal =>
    exact congrArg (Prod.mk · _) (view_update objects s.1 signalId none).symm

theorem view_foldl_remove (signalIds : List String) (s : ObjectSession ρ × List String) :
    signalIds.foldl (fun s signalId => ProducerSession.remove signalId s)
        (s.1.view objects, s.2) =
      ((signalIds.foldl (fun s signalId => remove objects signalId s) s).1.view objects,
        (signalIds.foldl (fun s signalId => remove objects signalId s) s).2) := by
  induction signalIds generalizing s with
  | nil => rfl
  | cons signalId signalIds ih =>
    rw [List.foldl_cons, List.foldl_cons, view_remove]
    exact ih (remove objects signalId s)

theorem removeSignals_view (signalIds : List String) :
    (session.view objects).removeSignals signalIds =
      ((session.removeSignals objects signalIds).1.view objects,
        (session.removeSignals objects signalIds).2.map Prod.snd) := by
  unfold ProducerSession.removeSignals removeSignals
  dsimp only
  rw [view_foldl_remove objects signalIds (session, [])]
  dsimp only
  split_ifs <;> rfl

/-- **Sessions of objects.** What a session does and writes is what a session of the signals does
and writes. -/
theorem call_view (oc : ObjectCall ρ) :
    (session.view objects).call (oc.view objects) =
      ((session.call objects oc).1.view objects, (session.call objects oc).2.map Prod.snd) := by
  cases oc with
  | addSignal signal =>
    refine Prod.ext (view_update objects session _ (some signal)).symm ?_
    show (if _ then _ else _) = List.map Prod.snd (if _ then _ else _)
    split_ifs <;> rfl
  | addSignals signals =>
    have hids : (((signals.map fun entry => (entry.1, objects entry.2)).filter fun entry =>
        entry.2.isDataSignal).map Prod.fst) =
        (signals.filter fun entry => (objects entry.2).isDataSignal).map Prod.fst := by
      rw [List.filter_map, List.map_map]
      rfl
    refine Prod.ext (view_foldl_insert objects session signals).symm ?_
    show (if _ = [] then _ else _) = List.map Prod.snd (if _ = [] then _ else _)
    rw [hids]
    split_ifs <;> rfl
  | removeSignal signalId => exact removeSignals_view objects session [signalId]
  | removeSignals signalIds => exact removeSignals_view objects session signalIds
  | subscribeSignals signalIds =>
    refine Prod.ext rfl ?_
    show ((session.view objects).known signalIds).flatMap _ = List.map Prod.snd (List.flatMap _ _)
    rw [view_known, List.flatMap_map, List.map_flatMap]
    simp
  | unsubscribeSignals signalIds =>
    refine Prod.ext rfl ?_
    show ((session.view objects).known signalIds).map _ = List.map Prod.snd (List.map _ _)
    rw [view_known, List.map_map, List.map_map]
    rfl

/-! ### Adding signals at once and one by one -/

/-- Which objects are referred to can be told from what is written. -/
theorem allSignals_eq_of_written (objects : ρ → ProducerSignal) {s t : ObjectSession ρ}
    (h : ∀ later, s.written later = t.written later) : s.allSignals = t.allSignals := by
  funext signalId
  have hfirst (u : ObjectSession ρ) :
      (u.subscribeSignals objects [signalId]).2.head?.bind Prod.fst = u.allSignals signalId := by
    cases hu : u.allSignals signalId <;>
      simp [subscribeSignals, known, hu, ProducerSignal.subscribe]
  have hwritten : [(s.subscribeSignals objects [signalId]).2] =
      [(t.subscribeSignals objects [signalId]).2] := h [(objects, .subscribeSignals [signalId])]
  rw [← hfirst s, ← hfirst t, (List.cons.inj hwritten).1]

/-- Adding signals at once, or each of them in any order, leaves the same signals, and what later
calls write is the same. -/
def SameAsSingly (signals : Members ρ) : Prop :=
  ∀ order : List ρ, order.Perm (signals.map Prod.snd) →
    let singly := order.foldl (fun session signal => (session.addSignal objects signal).1) session
    (session.addSignals objects signals).1.allSignals = singly.allSignals ∧
      ∀ later, (session.addSignals objects signals).1.written later = singly.written later

theorem foldl_addSignal (order : List ρ) :
    (order.foldl (fun session signal => (session.addSignal objects signal).1) session).allSignals =
      (order.map fun signal => ((objects signal).id, signal)).foldl KeyedMap.assign
        session.allSignals := by
  induction order generalizing session with
  | nil => rfl
  | cons signal order ih =>
    rw [List.foldl_cons, ih, List.map_cons, List.foldl_cons]
    rfl

variable {objects session}

/-- **Adding signals at once.** This is the same as adding each of the signals, if and only if no id
is known of another object. -/
theorem sameAsSingly_iff {signals : Members ρ} (hordered : signals.Ordered)
    (hkeys : ∀ entry ∈ signals, (objects entry.2).id = entry.1) :
    session.SameAsSingly objects signals ↔ ∀ entry ∈ signals,
      session.allSignals entry.1 = none ∨ session.allSignals entry.1 = some entry.2 := by
  have hentries : (signals.map Prod.snd).map (fun signal => ((objects signal).id, signal)) =
      signals := by
    rw [List.map_map]
    conv_rhs => rw [← List.map_id signals]
    exact List.map_congr_left fun entry hentry => Prod.ext (hkeys entry hentry) rfl
  have hnodup : (signals.map Prod.fst).Nodup :=
    List.pairwise_map.mpr (hordered.imp fun hlt => ne_of_lt hlt)
  have hiff {order : List ρ} (horder : order.Perm (signals.map Prod.snd)) :
      (session.addSignals objects signals).1.allSignals =
          (order.foldl (fun session signal => (session.addSignal objects signal).1)
            session).allSignals ↔
        ∀ entry ∈ signals,
          session.allSignals entry.1 = none ∨ session.allSignals entry.1 = some entry.2 := by
    rw [foldl_addSignal]
    refine KeyedMap.foldl_insert_eq_foldl_assign_iff hnodup ?_
    rw [← hentries]
    exact (horder.map _).trans (by rw [hentries])
  constructor
  · exact fun h => (hiff (List.Perm.refl _)).mp (h _ (List.Perm.refl _)).1
  · intro h order horder
    have hsame := (hiff horder).mpr h
    exact ⟨hsame, fun later => congrArg (fun s : ObjectSession ρ => s.written later)
      (congrArg ObjectSession.mk hsame)⟩

/-- Two signals with the same id: an old one and a new one. -/
def oldAndNew : Bool → ProducerSignal
  | false => .synchronous
      { signalNumber := 1, signalNumber_ne_zero := firstNumber_ne_zero, signalId := "signal",
        tableId := "table", dataType := .real64 }
  | true => .synchronous
      { signalNumber := 2, signalNumber_ne_zero := secondNumber_ne_zero, signalId := "signal",
        tableId := "table", dataType := .real64 }

/-- A session without signals. -/
def initial : ObjectSession ρ := ⟨fun _ => none⟩

/-- The new signal is added to a session without signals. -/
theorem sameAsSingly_initial : initial.SameAsSingly oldAndNew [("signal", true)] := by
  refine (sameAsSingly_iff (List.pairwise_singleton _ _) ?_).mpr fun entry _ => .inl rfl
  intro entry hentry
  obtain rfl := List.mem_singleton.mp hentry
  rfl

/-- A session that knows the old signal. -/
def knowsOld : ObjectSession Bool := (initial.addSignal oldAndNew false).1

/-- The new signal is added where the old one is known: it is the old one that is subscribed
afterwards. -/
theorem not_sameAsSingly_knowsOld :
    ¬ knowsOld.SameAsSingly oldAndNew [("signal", true)] ∧
      (knowsOld.addSignals oldAndNew [("signal", true)]).1.known ["signal"] = [false] ∧
      (knowsOld.addSignal oldAndNew true).1.known ["signal"] = [true] := by
  refine ⟨fun h => ?_, rfl, rfl⟩
  have hsignal := congrFun (h [true] (List.Perm.refl _)).1 "signal"
  cases hsignal

end ObjectSession

end StreamingProtocol
