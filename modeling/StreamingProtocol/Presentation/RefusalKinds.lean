import StreamingProtocol.Presentation.Refusal

/-!
# Kinds of refusals

A description that is refused returns -1 or throws a type error, but for a member that is taken for
granted and missing, and for a resolution whose numerator is 0. The numerator of a resolution is
never made 0 by a description.

## Main results

* `SubscribedSignal.verdict_cases`, `SubscribedSignal.processSignal_cases`.
* `SubscribedSignal.numerator_processSignal`.
-/

namespace StreamingProtocol

namespace SubscribedSignal

variable [JsonRuntime]

/-! ### Kinds of refusals -/

omit [JsonRuntime] in
theorem caughtAs_eq {why : Abrupt}
    (h : why = .throw .jsonTypeError ∨ why = .undefined .missingMember) :
    caughtAs why = .ret (-1) ∨ caughtAs why = .undefined .missingMember := by
  rcases h with rfl | rfl
  · exact .inl rfl
  · exact .inr rfl

omit [JsonRuntime] in
theorem failure_cases {α : Type} {x : Except Abrupt α} (hx : Json.Reads x) {why : Abrupt}
    (h : failure x = some why) : why = .ret (-1) ∨ why = .undefined .missingMember := by
  cases hval : x with
  | ok a => simp [failure, hval] at h
  | error e =>
    rw [hval] at h
    cases h
    exact caughtAs_eq (hx e hval)

omit [JsonRuntime] in
theorem refuseUnless_cases {accepted : Bool} {why : Abrupt}
    (h : refuseUnless accepted = some why) : why = .ret (-1) := by
  cases accepted <;> cases h
  rfl

omit [JsonRuntime] in
theorem assign_cases {σ α : Type} {j : Json} {key : String} {get : Json → Except Abrupt α}
    (hget : ∀ node, Json.Reads (get node)) {store : α → σ → σ} {s : σ} {why : Abrupt}
    (h : (j.assign key get store s).why? = some why) :
    why = .throw .jsonTypeError ∨ why = .undefined .missingMember := by
  unfold Json.assign at h
  cases hnode : j.find? key with
  | none => simp [hnode] at h
  | some node =>
    simp only [hnode] at h
    cases hval : get node with
    | ok a => simp [hval] at h
    | error e =>
      simp only [hval, Completion.eval_error, Completion.why?_abrupt, Option.some.injEq] at h
      exact hget node why (h ▸ hval)

omit [JsonRuntime] in
/-- The members of a member are read one after the other. -/
theorem nested_cases {σ : Type} {definition : Json} {key : String}
    {parts : Json → List (σ → Completion σ)} {s : σ} {why : Abrupt}
    (h : (match definition.find? key with
      | none => Completion.normal s
      | some node => Completion.sequence (parts node) s).why? = some why)
    (hparts : ∀ node, ∀ p ∈ parts node, ∀ t, (p t).why? = some why →
      why = .throw .jsonTypeError ∨ why = .undefined .missingMember) :
    why = .throw .jsonTypeError ∨ why = .undefined .missingMember := by
  cases hnode : definition.find? key with
  | none => simp [hnode] at h
  | some node =>
    simp only [hnode] at h
    obtain ⟨p, hp, t, ht⟩ := Completion.exists_of_why?_sequence _ h
    exact hparts node p hp t ht

theorem signalUnit_parse_cases {definition : Json} {u : SignalUnit} {why : Abrupt}
    (h : (SignalUnit.parse definition u).why? = some why) :
    why = .throw .jsonTypeError ∨ why = .undefined .missingMember := by
  refine nested_cases h fun node p hp t ht => ?_
  simp only [List.mem_cons, List.not_mem_nil, or_false] at hp
  rcases hp with rfl | rfl | rfl
  · exact assign_cases Json.reads_getInt32 ht
  · exact assign_cases Json.reads_getString ht
  · exact assign_cases Json.reads_getString ht

theorem range_parse_cases {definition : Json} {r : Range} {why : Abrupt}
    (h : (Range.parse definition r).why? = some why) :
    why = .throw .jsonTypeError ∨ why = .undefined .missingMember := by
  refine nested_cases h fun node p hp t ht => ?_
  simp only [List.mem_cons, List.not_mem_nil, or_false] at hp
  rcases hp with rfl | rfl <;> exact assign_cases Json.reads_getDouble ht

theorem postScaling_parse_cases {definition : Json} {p : PostScaling} {why : Abrupt}
    (h : (PostScaling.parse definition p).why? = some why) :
    why = .throw .jsonTypeError ∨ why = .undefined .missingMember := by
  refine nested_cases h fun node p hp t ht => ?_
  simp only [List.mem_cons, List.not_mem_nil, or_false] at hp
  rcases hp with rfl | rfl <;> exact assign_cases Json.reads_getDouble ht

theorem reads_resolution_parse (definition : Json) (r : Resolution) :
    Json.Reads (r.parse definition) := by
  have hmember (key : String) (node : Json) (old : UInt64) :
      Json.Reads (Resolution.member key node old) := by
    unfold Resolution.member
    split
    · exact Json.reads_pure _
    · exact (Json.reads_getUInt64 _).bind fun x _ => Json.reads_pure _
  unfold Resolution.parse
  split
  · exact Json.reads_pure _
  · refine (hmember _ _ _).bind fun x _ => ?_
    dsimp only
    split_ifs
    · exact Json.reads_pure _
    · refine (hmember _ _ _).bind fun y _ => ?_
      split_ifs <;> exact Json.reads_pure _

/-- The numerator of a resolution is not made 0. -/
theorem numerator_resolution_parse {definition : Json} {r r' : Resolution} {result : Int}
    (hr : r.numerator ≠ 0) (h : r.parse definition = .ok (r', result)) : r'.numerator ≠ 0 := by
  unfold Resolution.parse at h
  split at h
  · cases h
    exact hr
  · rename_i node _
    obtain ⟨⟨x, given⟩, hx, h⟩ := Json.bind_eq_ok.mp h
    have hx₀ : ¬ (given = true ∧ x = 0) → x ≠ 0 := by
      unfold Resolution.member at hx
      split at hx
      · cases hx
        exact fun _ => hr
      · obtain ⟨y, -, hy⟩ := Json.bind_eq_ok.mp hx
        cases hy
        simp
    dsimp only at h
    split_ifs at h with hgiven
    · cases h
      exact hr
    · obtain ⟨⟨y, given'⟩, -, h⟩ := Json.bind_eq_ok.mp h
      split_ifs at h
      all_goals cases h
      · exact hr
      all_goals exact hx₀ hgiven

theorem unitVerdict_cases {definition : Json} {s : SubscribedSignal} {why : Abrupt}
    (h : unitVerdict definition s = some why) :
    why = .ret (-1) ∨ why = .undefined .missingMember ∨
      (why = .undefined .divisionByZero ∧ s.resolution.numerator = 0) := by
  unfold unitVerdict at h
  cases hunit : SignalUnit.parse definition s.unit with
  | abrupt why' u =>
    simp only [hunit, Option.some.injEq] at h
    subst h
    rcases caughtAs_eq (signalUnit_parse_cases (by rw [hunit]; rfl)) with h | h
    · exact .inl h
    · exact .inr (.inl h)
  | normal u =>
    simp only [hunit, resolutionVerdict] at h
    cases hparse : s.resolution.parse definition with
    | error why' =>
      simp only [hparse, Option.some.injEq] at h
      subst h
      rcases caughtAs_eq (reads_resolution_parse definition s.resolution _ hparse) with h | h
      · exact .inl h
      · exact .inr (.inl h)
    | ok parsed =>
      obtain ⟨r, result⟩ := parsed
      simp only [hparse] at h
      split_ifs at h with h₁ h₂ h₃
      · cases h
        refine .inr (.inr ⟨rfl, ?_⟩)
        by_contra hne
        exact numerator_resolution_parse hne hparse h₃
      · cases h
        exact .inl rfl

omit [JsonRuntime] in
theorem datatypeVerdict_cases {definition : Json} {why : Abrupt}
    (h : datatypeVerdict definition = some why) :
    why = .ret (-1) ∨ why = .undefined .missingMember := by
  unfold datatypeVerdict at h
  repeat' split at h
  all_goals try cases h
  all_goals first
    | exact .inl rfl
    | exact .inr rfl
    | exact .inl (refuseUnless_cases h)

omit [JsonRuntime] in
theorem relatedVerdict_cases {params : Json} {why : Abrupt} (h : relatedVerdict params = some why) :
    why = .ret (-1) ∨ why = .undefined .missingMember := by
  unfold relatedVerdict at h
  split at h
  · obtain ⟨item, -, h⟩ := List.exists_of_findSome?_eq_some h
    refine failure_cases ?_ h
    unfold relatedSignal
    refine (Json.reads_at? _ _).bind fun typeNode _ => ?_
    refine (Json.reads_getString _).bind fun type _ => ?_
    refine (Json.reads_at? _ _).bind fun idNode _ => ?_
    exact (Json.reads_getString _).bind fun signalId _ => Json.reads_pure _
  · cases h

/-- A part is refused by a return of -1, with two exceptions: a value index throws, and what is
taken for granted may have no defined behaviour. -/
theorem verdict_cases {params : Json} {s : SubscribedSignal} {m : Member} {why : Abrupt}
    (h : m.verdict params s = some why) :
    why = .ret (-1) ∨ (m = .valueIndex ∧ why = .throw .jsonTypeError) ∨
      why = .undefined .missingMember ∨
      (why = .undefined .divisionByZero ∧ s.resolution.numerator = 0) := by
  have hcases {why : Abrupt} (h : why = .ret (-1) ∨ why = .undefined .missingMember) :
      why = .ret (-1) ∨ (m = .valueIndex ∧ why = .throw .jsonTypeError) ∨
        why = .undefined .missingMember ∨
        (why = .undefined .divisionByZero ∧ s.resolution.numerator = 0) := by
    rcases h with h | h
    · exact .inl h
    · exact .inr (.inr (.inl h))
  cases m with
  | tableId =>
    obtain ⟨node, -, h⟩ := Option.bind_eq_some_iff.mp h
    exact .inl (refuseUnless_cases h)
  | valueIndex =>
    obtain ⟨node, -, h⟩ := Option.bind_eq_some_iff.mp h
    split_ifs at h
    cases h
    exact .inr (.inl ⟨rfl, rfl⟩)
  | interpretation => cases h
  | rule =>
    obtain ⟨definition, -, h⟩ := Option.bind_eq_some_iff.mp h
    exact .inl (refuseUnless_cases h)
  | dataValueSize =>
    obtain ⟨definition, -, h⟩ := Option.bind_eq_some_iff.mp h
    exact hcases (failure_cases (reads_getDataTypeSize definition) h)
  | memberName =>
    obtain ⟨definition, -, h⟩ := Option.bind_eq_some_iff.mp h
    obtain ⟨node, -, h⟩ := Option.bind_eq_some_iff.mp h
    exact hcases (failure_cases (Json.reads_getString node) h)
  | datatype =>
    obtain ⟨definition, -, h⟩ := Option.bind_eq_some_iff.mp h
    exact hcases (datatypeVerdict_cases h)
  | unit =>
    obtain ⟨definition, -, h⟩ := Option.bind_eq_some_iff.mp h
    rcases unitVerdict_cases h with h | h | h
    · exact .inl h
    · exact .inr (.inr (.inl h))
    · exact .inr (.inr (.inr h))
  | absoluteReference =>
    obtain ⟨definition, -, h⟩ := Option.bind_eq_some_iff.mp h
    obtain ⟨node, -, h⟩ := Option.bind_eq_some_iff.mp h
    exact hcases (failure_cases (Json.reads_getString node) h)
  | range =>
    obtain ⟨definition, -, h⟩ := Option.bind_eq_some_iff.mp h
    obtain ⟨why', hwhy, rfl⟩ := Option.map_eq_some_iff.mp h
    exact hcases (caughtAs_eq (range_parse_cases hwhy))
  | postScaling =>
    obtain ⟨definition, -, h⟩ := Option.bind_eq_some_iff.mp h
    obtain ⟨why', hwhy, rfl⟩ := Option.map_eq_some_iff.mp h
    exact hcases (caughtAs_eq (postScaling_parse_cases hwhy))
  | relatedSignals =>
    obtain ⟨definition, -, h⟩ := Option.bind_eq_some_iff.mp h
    exact hcases (relatedVerdict_cases h)
  | identity => cases h

/-- How a description ends that is refused. -/
theorem processSignal_cases {params : Json} {s s' : SubscribedSignal} {why : Abrupt}
    (h : processSignal params s = .abrupt why s') :
    why = .ret (-1) ∨ why = .throw .jsonTypeError ∨ why = .undefined .missingMember ∨
      (why = .undefined .divisionByZero ∧ s.resolution.numerator = 0) := by
  have hwhy := why?_processSignal_eq_verdict params s
  rw [h] at hwhy
  obtain ⟨m, -, hm⟩ := List.exists_of_findSome?_eq_some hwhy.symm
  rcases verdict_cases hm with hret | ⟨-, hthrow⟩ | hmissing | hdivision
  · exact .inl hret
  · exact .inr (.inl hthrow)
  · exact .inr (.inr (.inl hmissing))
  · exact .inr (.inr (.inr hdivision))

/-! ### The numerator of the resolution -/

theorem resolution_processUnit (definition : Json) (s : SubscribedSignal) :
    (processUnit definition s).state.resolution = s.resolution := by
  unfold processUnit Completion.focus
  cases SignalUnit.parse definition s.unit with
  | abrupt why u => rfl
  | normal u =>
    rw [Completion.normal_andThen, Completion.state_normal]
    split_ifs <;> rfl

theorem numerator_processResolution (definition : Json) {s : SubscribedSignal}
    (h : s.resolution.numerator ≠ 0) :
    (processResolution definition s).state.resolution.numerator ≠ 0 := by
  unfold processResolution
  cases hparse : s.resolution.parse definition with
  | error why => exact h
  | ok parsed =>
    have hnumerator := numerator_resolution_parse h hparse
    rw [Completion.eval_ok]
    unfold processTimeBaseFrequency
    split_ifs <;> exact hnumerator

/-- The numerator of the resolution is not made 0. -/
theorem numerator_processSignal {params : Json} {s : SubscribedSignal}
    (h : s.resolution.numerator ≠ 0) :
    (processSignal params s).state.resolution.numerator ≠ 0 := by
  have hunit := view_processSignal_eq params s (by decide : Member.unit ∈ described)
  have hstatement : (statement params .unit s).state.resolution.numerator ≠ 0 := by
    rw [statement, inDefinition]
    cases params.find? metaDefinition with
    | none => exact h
    | some definition =>
      have hkept := resolution_processUnit definition s
      have hnumerator : (processResolution definition
          (processUnit definition s).state).state.resolution.numerator ≠ 0 :=
        numerator_processResolution definition (by rwa [hkept])
      dsimp only
      rw [state_catchJson, Completion.state_sequence_cons, Completion.sequence_singleton]
      cases (processUnit definition s).why? with
      | none => exact hnumerator
      | some why =>
        dsimp only
        rwa [hkept]
  split_ifs at hunit
  · rw [(view_unit_eq_iff.mp hunit).2.2.1]
    exact hstatement
  · rw [(view_unit_eq_iff.mp hunit).2.2.1]
    exact h

end SubscribedSignal

end StreamingProtocol
