import StreamingProtocol.Foundation.Completion
import Mathlib.Data.List.Nodup

/-!
# Statements that keep to a part of the state

The state of an object is seen as a family of parts (`Parts`), which determine it together. A
statement *writes* a part if it changes no other one (`Parts.Writes`), and is *local* to it if also
what it writes and how it completes depend on this part only (`Parts.Local`). A block of statements
that write pairwise different parts leaves the state alone exactly when each statement does that is
reached (`Parts.state_sequence_eq_iff`). If the statements are local, then each completes as it
would complete on the state before the block (`Parts.why?_sequence`). Without different parts no
such thing is true, since a later statement may undo what an earlier one did.

## Main definitions

* `Parts`, `Parts.Writes`, `Parts.Local`.
* `UpToStop`: a property of all statements of a block that are reached.

## Main results

* `Parts.why?_sequence`, `Parts.view_sequence`, `Parts.state_sequence_eq_iff`.
-/

/-- The entries of a list up to and including the first that stops have a property. -/
def UpToStop {ι : Type} (stops good : ι → Prop) : List ι → Prop
  | [] => True
  | i :: is => good i ∧ (¬ stops i → UpToStop stops good is)

theorem upToStop_congr {ι : Type} {stops stops' good good' : ι → Prop} : (is : List ι) →
    (∀ i ∈ is, stops i ↔ stops' i) → (∀ i ∈ is, good i ↔ good' i) →
    (UpToStop stops good is ↔ UpToStop stops' good' is)
  | [], _, _ => Iff.rfl
  | i :: is, hstops, hgood => by
      have ih := upToStop_congr is (fun j hj => hstops j (List.mem_cons_of_mem i hj))
        (fun j hj => hgood j (List.mem_cons_of_mem i hj))
      rw [UpToStop, UpToStop, hstops i List.mem_cons_self, hgood i List.mem_cons_self, ih]

/-- The parts of a state, which determine it together. -/
structure Parts (ι σ : Type) where
  carrier : ι → Type
  view : (i : ι) → σ → carrier i
  ext : ∀ {s t : σ}, (∀ i, view i s = view i t) → s = t

namespace Parts

variable {ι σ : Type} (P : Parts ι σ)

/-- A statement that writes the part `i` only. -/
structure Writes (i : ι) (p : σ → Completion σ) : Prop where
  writes : ∀ s j, j ≠ i → P.view j (p s).state = P.view j s

/-- A statement that reads and writes the part `i` only. -/
structure Local (i : ι) (p : σ → Completion σ) : Prop extends P.Writes i p where
  view_eq : ∀ {s t}, P.view i s = P.view i t → P.view i (p s).state = P.view i (p t).state
  why?_eq : ∀ {s t}, P.view i s = P.view i t → (p s).why? = (p t).why?

variable {P}

theorem Writes.state_eq_iff {i : ι} {p : σ → Completion σ} (h : P.Writes i p) {s : σ} :
    (p s).state = s ↔ P.view i (p s).state = P.view i s := by
  refine ⟨fun hs => by rw [hs], fun hs => P.ext fun j => ?_⟩
  by_cases hj : j = i
  · subst hj
    exact hs
  · exact h.writes s j hj

/-- Statements that are local to a part follow each other. -/
theorem Local.andThen {i : ι} {p q : σ → Completion σ} (hp : P.Local i p) (hq : P.Local i q) :
    P.Local i fun s => (p s).andThen q := by
  refine ⟨⟨fun s j hj => ?_⟩, fun {s t} hst => ?_, fun {s t} hst => ?_⟩
  · have hfirst := hp.writes s j hj
    cases h : p s with
    | normal s' =>
      rw [h] at hfirst
      rw [Completion.normal_andThen, hq.writes s' j hj]
      exact hfirst
    | abrupt why s' =>
      rw [h] at hfirst
      exact hfirst
  · have hview := hp.view_eq hst
    have hwhy := hp.why?_eq hst
    cases hs : p s <;> cases ht : p t <;> rw [hs, ht] at hview hwhy <;>
      simp only [Completion.why?, reduceCtorEq] at hwhy
    · exact hq.view_eq hview
    · exact hview
  · have hview := hp.view_eq hst
    have hwhy := hp.why?_eq hst
    cases hs : p s <;> cases ht : p t <;> rw [hs, ht] at hview hwhy <;>
      simp only [Completion.why?, reduceCtorEq] at hwhy
    · exact hq.why?_eq hview
    · exact hwhy

theorem local_sequence {i : ι} : (ps : List (σ → Completion σ)) → (∀ p ∈ ps, P.Local i p) →
    P.Local i (Completion.sequence ps)
  | [], _ => ⟨⟨fun _ _ _ => rfl⟩, fun h => h, fun _ => rfl⟩
  | p :: ps, h =>
      (h p List.mem_cons_self).andThen
        (local_sequence ps fun q hq => h q (List.mem_cons_of_mem p hq))

theorem Local.catching {i : ι} {p : σ → Completion σ} (h : P.Local i p) (caught : Thrown → Bool)
    (code : Int) : P.Local i fun s => (p s).catching caught code := by
  refine ⟨⟨fun s j hj => ?_⟩, fun {s t} hst => ?_, fun {s t} hst => ?_⟩
  · rw [Completion.state_catching, h.writes s j hj]
  · rw [Completion.state_catching, Completion.state_catching, h.view_eq hst]
  · rw [Completion.why?_catching, Completion.why?_catching, h.why?_eq hst]

/-- An expression over the part may come before a local statement. -/
theorem local_evalOf {α : Type} {i : ι} {x : σ → Except Abrupt α} {p : α → σ → Completion σ}
    (hx : ∀ {s t}, P.view i s = P.view i t → x s = x t) (hp : ∀ a, P.Local i (p a)) :
    P.Local i fun s => Completion.eval (x s) s fun a => p a s := by
  refine ⟨⟨fun s j hj => ?_⟩, fun {s t} hst => ?_, fun {s t} hst => ?_⟩
  · cases x s with
    | ok a => exact (hp a).writes s j hj
    | error why => rfl
  · rw [hx hst]
    cases x t with
    | ok a => exact (hp a).view_eq hst
    | error why => exact hst
  · rw [hx hst]
    cases x t with
    | ok a => exact (hp a).why?_eq hst
    | error why => rfl

theorem local_eval {α : Type} {i : ι} (x : Except Abrupt α) {p : α → σ → Completion σ}
    (hp : ∀ a, P.Local i (p a)) : P.Local i fun s => Completion.eval x s fun a => p a s :=
  local_evalOf (fun _ => rfl) hp

/-- A test of the part may choose between local statements. -/
theorem local_iteOf {i : ι} {c : σ → Prop} [DecidablePred c] {p q : σ → Completion σ}
    (hc : ∀ {s t}, P.view i s = P.view i t → (c s ↔ c t)) (hp : P.Local i p) (hq : P.Local i q) :
    P.Local i fun s => if c s then p s else q s := by
  refine ⟨⟨fun s j hj => ?_⟩, fun {s t} hst => ?_, fun {s t} hst => ?_⟩
  · split_ifs
    · exact hp.writes s j hj
    · exact hq.writes s j hj
  · simp only [hc hst]
    split_ifs
    · exact hp.view_eq hst
    · exact hq.view_eq hst
  · simp only [hc hst]
    split_ifs
    · exact hp.why?_eq hst
    · exact hq.why?_eq hst

theorem local_ite {i : ι} {c : Prop} [Decidable c] {p q : σ → Completion σ}
    (hp : P.Local i p) (hq : P.Local i q) : P.Local i fun s => if c then p s else q s :=
  local_iteOf (fun _ => Iff.rfl) hp hq

/-- An assignment to a part that does not read another one. -/
structure LocalMap (P : Parts ι σ) (i : ι) (f : σ → σ) : Prop where
  writes : ∀ s j, j ≠ i → P.view j (f s) = P.view j s
  view_eq : ∀ {s t}, P.view i s = P.view i t → P.view i (f s) = P.view i (f t)

theorem local_normal {i : ι} : P.Local i Completion.normal :=
  ⟨⟨fun _ _ _ => rfl⟩, fun h => h, fun _ => rfl⟩

theorem local_abrupt {i : ι} (why : Abrupt) : P.Local i (Completion.abrupt why) :=
  ⟨⟨fun _ _ _ => rfl⟩, fun h => h, fun _ => rfl⟩

theorem LocalMap.normal {i : ι} {f : σ → σ} (h : P.LocalMap i f) :
    P.Local i fun s => .normal (f s) :=
  ⟨⟨h.writes⟩, h.view_eq, fun _ => rfl⟩

theorem LocalMap.abrupt {i : ι} {f : σ → σ} (h : P.LocalMap i f) (why : Abrupt) :
    P.Local i fun s => .abrupt why (f s) :=
  ⟨⟨h.writes⟩, h.view_eq, fun _ => rfl⟩

theorem LocalMap.then {i : ι} {f : σ → σ} (h : P.LocalMap i f) {p : σ → Completion σ}
    (hp : P.Local i p) : P.Local i fun s => p (f s) :=
  h.normal.andThen hp

/-! ### Blocks of statements that are local to different parts -/

variable {statement : ι → σ → Completion σ}

/-- A block does not write the parts of statements that it does not contain. -/
theorem view_sequence_of_notMem {j : ι} : (is : List ι) →
    (∀ i ∈ is, P.Writes i (statement i)) → j ∉ is → ∀ s,
    P.view j (Completion.sequence (is.map statement) s).state = P.view j s
  | [], _, _, _ => rfl
  | i :: is, hwrites, hj, s => by
      obtain ⟨hji, hjis⟩ := not_or.mp (mt List.mem_cons.mpr hj)
      have hfirst := (hwrites i List.mem_cons_self).writes s j hji
      rw [List.map_cons, Completion.sequence_cons]
      cases h : statement i s with
      | normal s' =>
        rw [h] at hfirst
        rw [Completion.normal_andThen, view_sequence_of_notMem is
          (fun k hk => hwrites k (List.mem_cons_of_mem i hk)) hjis s']
        exact hfirst
      | abrupt why s' =>
        rw [h] at hfirst
        exact hfirst

/-- Each statement of a block completes as it would complete at any state `t` with the same parts
before it, so the block ends with the first of them that stops. -/
theorem why?_sequence : (is : List ι) → is.Nodup → (∀ i ∈ is, P.Local i (statement i)) → ∀ {s t},
    (∀ i ∈ is, P.view i s = P.view i t) →
    (Completion.sequence (is.map statement) s).why? = is.findSome? fun i => (statement i t).why?
  | [], _, _, _, _, _ => rfl
  | i :: is, hnodup, hlocal, s, t, hst => by
      obtain ⟨hi, hnodup⟩ := List.nodup_cons.mp hnodup
      have hwhy := (hlocal i List.mem_cons_self).why?_eq (hst i List.mem_cons_self)
      rw [List.map_cons, Completion.sequence_cons, List.findSome?_cons, ← hwhy]
      cases h : statement i s with
      | normal s' =>
        refine why?_sequence is hnodup (fun k hk => hlocal k (List.mem_cons_of_mem i hk))
          fun k hk => ?_
        have hki : k ≠ i := fun heq => hi (heq ▸ hk)
        have hwrites := (hlocal i List.mem_cons_self).writes s k hki
        rw [h] at hwrites
        exact hwrites.trans (hst k (List.mem_cons_of_mem i hk))
      | abrupt why s' => rfl

/-- **What becomes of a part.** The part `j` is what its own statement makes of it if the statements
before are not in the way, and otherwise as it was. -/
theorem view_sequence {j : ι} {post : List ι} : (pre : List ι) → (pre ++ j :: post).Nodup →
    (∀ i ∈ pre ++ j :: post, P.Local i (statement i)) → ∀ {s t},
    (∀ i ∈ pre ++ j :: post, P.view i s = P.view i t) →
    P.view j (Completion.sequence ((pre ++ j :: post).map statement) s).state =
      if ∀ i ∈ pre, (statement i t).why? = none then P.view j (statement j t).state
      else P.view j s
  | [], hnodup, hlocal, s, t, hst => by
      have hj := (List.nodup_cons.mp hnodup).1
      have hview := (hlocal j List.mem_cons_self).view_eq (hst j List.mem_cons_self)
      have hrest := view_sequence_of_notMem post
        (fun i hi => (hlocal i (List.mem_cons_of_mem j hi)).toWrites) hj
      rw [if_pos (fun _ hi => nomatch hi), List.nil_append, List.map_cons,
        Completion.sequence_cons, ← hview]
      cases h : statement j s with
      | normal s' => exact hrest s'
      | abrupt why s' => rfl
  | i :: pre, hnodup, hlocal, s, t, hst => by
      obtain ⟨hi, hnodup⟩ := List.nodup_cons.mp hnodup
      have hlocal' := fun k hk => hlocal k (List.mem_cons_of_mem i hk)
      have hlocali := hlocal i List.mem_cons_self
      have hwhy := hlocali.why?_eq (hst i List.mem_cons_self)
      have hji : j ≠ i := by
        rintro rfl
        exact hi (List.mem_append_right pre List.mem_cons_self)
      have hviewj := hlocali.writes s j hji
      rw [List.cons_append, List.map_cons, Completion.sequence_cons]
      simp only [List.forall_mem_cons, ← hwhy]
      cases h : statement i s with
      | abrupt why s' =>
        rw [h] at hviewj
        rw [if_neg (by simp)]
        exact hviewj
      | normal s' =>
        rw [h] at hviewj
        have ih := @view_sequence j post pre hnodup hlocal' s' t fun k hk => ?_
        · rw [Completion.normal_andThen, ih]
          simp only [Completion.why?_normal, true_and]
          rw [Completion.state_normal] at hviewj
          rw [hviewj]
        · have hki : k ≠ i := fun heq => hi (heq ▸ hk)
          have hwrites := hlocali.writes s k hki
          rw [h] at hwrites
          exact hwrites.trans (hst k (List.mem_cons_of_mem i hk))

/-- **A block leaves the state alone** if and only if each of its statements that is reached leaves
it alone. -/
theorem state_sequence_eq_iff : (is : List ι) → is.Nodup → (∀ i ∈ is, P.Writes i (statement i)) →
    ∀ s, (Completion.sequence (is.map statement) s).state = s ↔
      UpToStop (fun i => (statement i s).why? ≠ none) (fun i => (statement i s).state = s) is
  | [], _, _, _ => by simp [UpToStop]
  | i :: is, hnodup, hwrites, s => by
      obtain ⟨hi, hnodup⟩ := List.nodup_cons.mp hnodup
      have hwrites' := fun k hk => hwrites k (List.mem_cons_of_mem i hk)
      have ih := state_sequence_eq_iff is hnodup hwrites' s
      rw [List.map_cons, Completion.sequence_cons, UpToStop, not_not, ← ih]
      cases h : statement i s with
      | abrupt why s' => simp
      | normal s' =>
        rw [Completion.normal_andThen, Completion.state_normal, Completion.why?_normal]
        constructor
        · intro hstate
          have hs' : (statement i s).state = s := by
            have hview := view_sequence_of_notMem is hwrites' hi s'
            rw [hstate] at hview
            rw [(hwrites i List.mem_cons_self).state_eq_iff, h]
            exact hview.symm
          rw [h] at hs'
          obtain rfl : s' = s := hs'
          exact ⟨rfl, fun _ => hstate⟩
        · rintro ⟨rfl, hrest⟩
          exact hrest rfl

end Parts
