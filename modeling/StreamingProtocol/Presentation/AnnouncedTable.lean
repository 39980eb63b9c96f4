import StreamingProtocol.Presentation.Refusal

/-!
# The table and the kind of a described signal

Two variables of a signal decide where it is registered: the id of its table and whether it is a
time signal. The table id comes first in a description and is taken over if it is a string or a
number, whatever is refused later. A signal becomes a time signal when a description gets to its
unit and the unit is one of time, and it stays one.

## Main definitions

* `SubscribedSignal.tableNamed`, `SubscribedSignal.GivesTime`.

## Main results

* `SubscribedSignal.tableId_processSignal`, `SubscribedSignal.isTimeSignal_processSignal`.
-/

namespace StreamingProtocol

namespace SubscribedSignal

variable [JsonRuntime]

/-- The table of a signal after a description. -/
def tableNamed (params : Json) (s : SubscribedSignal) : String :=
  match params.find? metaTableid with
  | none => s.tableId
  | some node =>
      if isStringOrNumber node then
        match node with
        | .string id => id
        | node => match node.text with
          | .ok id => id
          | .error _ => s.tableId
      else s.tableId

section TableNamed

variable {params : Json} (s : SubscribedSignal) {node : Json}

theorem tableNamed_of_id (hnode : params.find? metaTableid = some node) {id : String}
    (hid : node = .string id ∨ node.isNumber ∧ node.text = .ok id) : tableNamed params s = id := by
  simp only [tableNamed, hnode, isStringOrNumber_of_id hid, if_true]
  obtain rfl | ⟨hnumber, htext⟩ := hid
  · rfl
  · cases node with
    | string _ => cases hnumber
    | _ => simp only [htext]

theorem tableNamed_of_not (hnode : params.find? metaTableid = some node)
    (hid : isStringOrNumber node = false) : tableNamed params s = s.tableId := by
  simp [tableNamed, hnode, hid]

/-- What the member for the table id does. -/
theorem processTableId_cases (params : Json) (s : SubscribedSignal) :
    processTableId params s = .normal { s with tableId := tableNamed params s } ∨
      (tableNamed params s = s.tableId ∧ processTableId params s = .abrupt (.ret (-1)) s) := by
  unfold processTableId
  cases hnode : params.find? metaTableid with
  | none =>
    refine .inl ?_
    rw [tableNamed, hnode]
  | some node =>
    obtain ⟨id, hid, h⟩ | ⟨hstring, hnumber, h⟩ :=
      assignId_cases node (fun id s => { s with tableId := id }) s
    · refine .inl ?_
      rw [tableNamed_of_id s hnode hid]
      exact h
    · exact .inr ⟨tableNamed_of_not s hnode (isStringOrNumber_of_not hstring hnumber), h⟩

end TableNamed

/-- A description gets to the unit and the unit is one of time. -/
def GivesTime (params : Json) (s : SubscribedSignal) : Prop :=
  Reaches params s .unit ∧ ∃ definition, params.find? metaDefinition = some definition ∧
    ∃ u, SignalUnit.parse definition s.unit = .normal u ∧ u.quantity = metaTime

/-- No part of a description is refused. -/
def Accepts (params : Json) (s : SubscribedSignal) : Prop :=
  ∀ m ∈ described, m.verdict params s = none

theorem accepts_of_normal {params : Json} {s s' : SubscribedSignal}
    (h : processSignal params s = .normal s') : s.Accepts params := by
  have hwhy := why?_processSignal_eq_verdict params s
  rw [h, Completion.why?_normal, eq_comm, List.findSome?_eq_none_iff] at hwhy
  exact hwhy

/-- The table id is taken over. -/
theorem tableId_processSignal (params : Json) (s : SubscribedSignal) :
    (processSignal params s).state.tableId = tableNamed params s := by
  have hview := view_processSignal_eq params s (by decide : Member.tableId ∈ described)
  have hreaches : Reaches params s .tableId := by
    intro i hi
    exact absurd hi (by decide +revert)
  rw [if_pos hreaches] at hview
  change (processSignal params s).state.tableId = (processTableId params s).state.tableId at hview
  rw [hview]
  obtain h | ⟨hkept, h⟩ := processTableId_cases params s
  · rw [h, Completion.state_normal]
  · rw [h, Completion.state_abrupt, hkept]

theorem isTimeSignal_processUnit (definition : Json) (s : SubscribedSignal) :
    (processUnit definition s).state.isTimeSignal = true ↔ s.isTimeSignal = true ∨
      ∃ u, SignalUnit.parse definition s.unit = .normal u ∧ u.quantity = metaTime := by
  unfold processUnit Completion.focus
  cases SignalUnit.parse definition s.unit with
  | abrupt why u => simp
  | normal u =>
    rw [Completion.normal_andThen, Completion.state_normal]
    by_cases htime : u.quantity = metaTime <;> simp [htime]

theorem isTimeSignal_processResolution (definition : Json) (s : SubscribedSignal) :
    (processResolution definition s).state.isTimeSignal = s.isTimeSignal := by
  unfold processResolution
  cases s.resolution.parse definition with
  | error why => rfl
  | ok parsed =>
    rw [Completion.eval_ok]
    unfold processTimeBaseFrequency
    split_ifs <;> rfl

/-- A signal is a time signal after a description if it was one before or the description gives a
unit of time. -/
theorem isTimeSignal_processSignal (params : Json) (s : SubscribedSignal) :
    (processSignal params s).state.isTimeSignal = true ↔
      s.isTimeSignal = true ∨ GivesTime params s := by
  have hview := view_processSignal_eq params s (by decide : Member.unit ∈ described)
  have hstatement : (statement params .unit s).state.isTimeSignal = true ↔
      s.isTimeSignal = true ∨ ∃ definition, params.find? metaDefinition = some definition ∧
        ∃ u, SignalUnit.parse definition s.unit = .normal u ∧ u.quantity = metaTime := by
    rw [statement, inDefinition]
    cases params.find? metaDefinition with
    | none => simp
    | some definition =>
      dsimp only
      rw [state_catchJson, Completion.state_sequence_cons, Completion.sequence_singleton]
      have hunit := isTimeSignal_processUnit definition s
      have hresolution := isTimeSignal_processResolution definition
        (processUnit definition s).state
      cases (processUnit definition s).why? with
      | none =>
        dsimp only
        rw [hresolution, hunit]
        simp
      | some why =>
        dsimp only
        rw [hunit]
        simp
  unfold GivesTime
  split_ifs at hview with hreaches
  · rw [(view_unit_eq_iff.mp hview).2.1, hstatement]
    simp only [hreaches, true_and]
  · rw [(view_unit_eq_iff.mp hview).2.1]
    simp only [hreaches, false_and, or_false]

end SubscribedSignal

end StreamingProtocol
