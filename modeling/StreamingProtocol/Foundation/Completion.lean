import Mathlib.Data.List.Forall2
import Mathlib.Logic.Basic

/-!
# How a statement completes

A statement of an imperative language either falls through to the next one or completes abruptly:
it returns from the function, throws an exception, or has no defined behaviour. In each case the
object it works on is left in some state, because neither a return nor an exception undoes the
writes made before it.

* `Fault` lists the undefined behaviours, `Thrown` the exceptions, `Abrupt` the abrupt completions.
* A `Completion σ` is the state in which a statement leaves an object of type `σ`, with the reason
  why the next statement is not reached, if it is not. `Completion.andThen` is sequencing and
  `Completion.sequence` the sequencing of a list of statements.
* `Completion.eval` evaluates an expression that may fail and passes its value on.
* `Completion.focus` runs a statement on a part of the object.
* `Completion.catching` is a `catch` clause that turns some exceptions into a return.

## Main definitions

* `Fault`, `Thrown`, `Abrupt`, `Completion`.
* `Completion.andThen`, `Completion.sequence`, `Completion.eval`, `Completion.catching`.

## Main results

* `Completion.sequence_state_induction`: what every statement preserves, a sequence preserves.
-/

/-- Undefined behaviour. -/
inductive Fault where
  | nullPointer
  | outOfBounds
  | missingMember
  | divisionByZero
deriving DecidableEq, Repr

/-- Exceptions: those of a JSON library, and those of the number conversions of strings. -/
inductive Thrown where
  | jsonTypeError
  | invalidArgument
  | outOfRange
deriving DecidableEq, Repr

/-- The abrupt completions of a statement. -/
inductive Abrupt where
  | ret (code : Int)
  | throw (e : Thrown)
  | undefined (f : Fault)
deriving DecidableEq, Repr

/-- The state in which a statement leaves an object, and the reason why the next statement is not
reached, if it is not. -/
inductive Completion (σ : Type) where
  | normal (s : σ)
  | abrupt (why : Abrupt) (s : σ)
deriving DecidableEq, Repr

namespace Completion

variable {σ α : Type}

/-- The state a statement leaves behind. -/
def state : Completion σ → σ
  | normal s => s
  | abrupt _ s => s

/-- The reason why the next statement is not reached. -/
def why? : Completion σ → Option Abrupt
  | normal _ => none
  | abrupt why _ => some why

@[simp] theorem state_normal (s : σ) : (normal s).state = s := rfl
@[simp] theorem state_abrupt (why : Abrupt) (s : σ) : (abrupt why s).state = s := rfl
@[simp] theorem why?_normal (s : σ) : (normal s).why? = none := rfl
@[simp] theorem why?_abrupt (why : Abrupt) (s : σ) : (abrupt why s).why? = some why := rfl

theorem eq_normal_of_why? {c : Completion σ} (h : c.why? = none) : c = normal c.state := by
  cases c with
  | normal s => rfl
  | abrupt why s => cases h

theorem eq_abrupt_of_why? {c : Completion σ} {why : Abrupt} (h : c.why? = some why) :
    c = abrupt why c.state := by
  cases c with
  | normal s => cases h
  | abrupt why' s => cases h; rfl

/-- One statement after another. -/
def andThen (c : Completion σ) (next : σ → Completion σ) : Completion σ :=
  match c with
  | normal s => next s
  | abrupt why s => abrupt why s

@[simp] theorem normal_andThen (s : σ) (next : σ → Completion σ) :
    (normal s).andThen next = next s := rfl

@[simp] theorem abrupt_andThen (why : Abrupt) (s : σ) (next : σ → Completion σ) :
    (abrupt why s).andThen next = abrupt why s := rfl

/-- The statements of a block, in order. -/
def sequence : List (σ → Completion σ) → σ → Completion σ
  | [], s => normal s
  | p :: ps, s => (p s).andThen (sequence ps)

@[simp] theorem sequence_nil (s : σ) : sequence [] s = normal s := rfl

@[simp] theorem sequence_cons (p : σ → Completion σ) (ps : List (σ → Completion σ)) (s : σ) :
    sequence (p :: ps) s = (p s).andThen (sequence ps) := rfl

theorem why?_sequence_cons (p : σ → Completion σ) (ps : List (σ → Completion σ)) (s : σ) :
    (sequence (p :: ps) s).why? = match (p s).why? with
      | none => (sequence ps (p s).state).why?
      | some why => some why := by
  rw [sequence_cons]
  cases p s <;> rfl

theorem state_sequence_cons (p : σ → Completion σ) (ps : List (σ → Completion σ)) (s : σ) :
    (sequence (p :: ps) s).state = match (p s).why? with
      | none => (sequence ps (p s).state).state
      | some _ => (p s).state := by
  rw [sequence_cons]
  cases p s <;> rfl

/-- A completion with another state. -/
def map {τ : Type} (f : σ → τ) : Completion σ → Completion τ
  | normal s => normal (f s)
  | abrupt why s => abrupt why (f s)

/-- Statements that commute with a change of the state. -/
theorem sequence_map {f : σ → σ} : (ps : List (σ → Completion σ)) →
    (∀ p ∈ ps, ∀ s, p (f s) = (p s).map f) → ∀ s, sequence ps (f s) = (sequence ps s).map f
  | [], _, _ => rfl
  | p :: ps, h, s => by
      have hrest := sequence_map ps fun q hq => h q (List.mem_cons_of_mem p hq)
      rw [sequence_cons, sequence_cons, h p List.mem_cons_self]
      cases p s with
      | normal s' => exact hrest s'
      | abrupt why s' => rfl

/-- Two blocks whose statements correspond to each other. -/
theorem sequence_map_of_forall₂ {f : σ → σ} {ps' ps : List (σ → Completion σ)}
    (h : List.Forall₂ (fun p' p => ∀ s, p' (f s) = (p s).map f) ps' ps) (s : σ) :
    sequence ps' (f s) = (sequence ps s).map f := by
  induction h generalizing s with
  | nil => rfl
  | @cons p' p ps' ps hp _ ih =>
    rw [sequence_cons, sequence_cons, hp]
    cases p s with
    | normal s' => exact ih s'
    | abrupt why s' => rfl

/-- A block that does not complete normally ends with one of its statements. -/
theorem exists_of_why?_sequence {why : Abrupt} : (ps : List (σ → Completion σ)) → {s : σ} →
    (sequence ps s).why? = some why → ∃ p ∈ ps, ∃ t, (p t).why? = some why
  | [], _, h => by cases h
  | p :: ps, s, h => by
      rw [why?_sequence_cons] at h
      cases hp : (p s).why? with
      | some why' =>
        rw [hp] at h
        exact ⟨p, List.mem_cons_self, s, hp.trans h⟩
      | none =>
        rw [hp] at h
        obtain ⟨q, hq, t, ht⟩ := exists_of_why?_sequence ps h
        exact ⟨q, List.mem_cons_of_mem p hq, t, ht⟩

/-- The value of an expression, passed on; an expression that fails leaves the object alone. -/
def eval (x : Except Abrupt α) (s : σ) (next : α → Completion σ) : Completion σ :=
  match x with
  | .ok a => next a
  | .error why => abrupt why s

@[simp] theorem eval_ok (a : α) (s : σ) (next : α → Completion σ) :
    eval (.ok a) s next = next a := rfl

@[simp] theorem eval_error (why : Abrupt) (s : σ) (next : α → Completion σ) :
    eval (.error why) s next = abrupt why s := rfl

theorem eval_eq_normal {x : Except Abrupt α} {s t : σ} {next : α → Completion σ} :
    eval x s next = normal t ↔ ∃ a, x = .ok a ∧ next a = normal t := by
  cases x with
  | ok a => simp
  | error why => simp

/-- An expression leaves the object alone: what holds of it, and of the state that is left behind
where the expression has a value, holds afterwards. -/
theorem state_eval {P : σ → Prop} {x : Except Abrupt α} {s : σ} {next : α → Completion σ}
    (hs : P s) (hnext : ∀ a, P (next a).state) : P (eval x s next).state := by
  cases x with
  | ok a => exact hnext a
  | error why => exact hs

theorem andThen_eq_normal {c : Completion σ} {next : σ → Completion σ} {t : σ} :
    c.andThen next = normal t ↔ ∃ s, c = normal s ∧ next s = normal t := by
  cases c with
  | normal s => simp
  | abrupt why s => simp

/-- A statement about a part of an object. -/
def focus {τ : Type} (get : σ → τ) (put : τ → σ → σ) (p : τ → Completion τ) (s : σ) :
    Completion σ :=
  match p (get s) with
  | normal t => normal (put t s)
  | abrupt why t => abrupt why (put t s)

@[simp] theorem state_focus {τ : Type} (get : σ → τ) (put : τ → σ → σ) (p : τ → Completion τ)
    (s : σ) : (focus get put p s).state = put (p (get s)).state s := by
  unfold focus
  cases p (get s) <;> rfl

theorem why?_focus {τ : Type} (get : σ → τ) (put : τ → σ → σ) (p : τ → Completion τ) (s : σ) :
    (focus get put p s).why? = (p (get s)).why? := by
  unfold focus
  cases p (get s) <;> rfl

/-- A block under a `catch` clause: an exception in `caught` becomes a return of `code`. -/
def catching (caught : Thrown → Bool) (code : Int) : Completion σ → Completion σ
  | normal s => normal s
  | abrupt (.throw e) s => abrupt (if caught e then .ret code else .throw e) s
  | abrupt why s => abrupt why s

@[simp] theorem state_catching (caught : Thrown → Bool) (code : Int) :
    (c : Completion σ) → (c.catching caught code).state = c.state
  | normal _ => rfl
  | abrupt (.ret _) _ => rfl
  | abrupt (.throw _) _ => rfl
  | abrupt (.undefined _) _ => rfl

@[simp] theorem catching_normal (caught : Thrown → Bool) (code : Int) (s : σ) :
    (normal s).catching caught code = normal s := rfl

theorem why?_catching (caught : Thrown → Bool) (code : Int) (c : Completion σ) :
    (c.catching caught code).why? = c.why?.map fun why => match why with
      | .throw e => if caught e then .ret code else .throw e
      | why => why := by
  cases c with
  | normal s => rfl
  | abrupt why s => cases why <;> rfl

theorem andThen_assoc (c : Completion σ) (p q : σ → Completion σ) :
    (c.andThen p).andThen q = c.andThen fun s => (p s).andThen q := by
  cases c <;> rfl

theorem sequence_append (ps qs : List (σ → Completion σ)) (s : σ) :
    sequence (ps ++ qs) s = (sequence ps s).andThen (sequence qs) := by
  induction ps generalizing s with
  | nil => rfl
  | cons p ps ih =>
    rw [List.cons_append, sequence_cons, sequence_cons, andThen_assoc]
    exact congrArg (p s).andThen (funext ih)

@[simp] theorem andThen_normal (c : Completion σ) : c.andThen normal = c := by
  cases c <;> rfl

theorem sequence_singleton (p : σ → Completion σ) : sequence [p] = p :=
  funext fun s => andThen_normal (p s)

/-- A block of blocks. -/
theorem sequence_flatten (pss : List (List (σ → Completion σ))) (s : σ) :
    sequence pss.flatten s = sequence (pss.map sequence) s := by
  induction pss generalizing s with
  | nil => rfl
  | cons ps pss ih =>
    rw [List.flatten_cons, sequence_append, List.map_cons, sequence_cons]
    exact congrArg (sequence ps s).andThen (funext ih)

/-- A `catch` clause around a block is one around each of its statements. -/
theorem catching_sequence (caught : Thrown → Bool) (code : Int)
    (ps : List (σ → Completion σ)) (s : σ) :
    (sequence ps s).catching caught code =
      sequence (ps.map fun p s => (p s).catching caught code) s := by
  induction ps generalizing s with
  | nil => rfl
  | cons p ps ih =>
    rw [List.map_cons, sequence_cons, sequence_cons]
    cases p s with
    | normal s' => exact ih s'
    | abrupt why s' => cases why <;> rfl

/-- What every statement of a block preserves, the block preserves. -/
theorem sequence_state_induction {P : σ → Prop} : (ps : List (σ → Completion σ)) →
    (∀ p ∈ ps, ∀ s, P s → P (p s).state) → ∀ s, P s → P (sequence ps s).state
  | [], _, _, hs => hs
  | p :: ps, hp, s, hs => by
      have hfirst := hp p List.mem_cons_self s hs
      have hrest := sequence_state_induction ps fun q hq => hp q (List.mem_cons_of_mem p hq)
      rw [sequence_cons]
      cases h : p s with
      | normal s' =>
        rw [h] at hfirst
        exact hrest s' hfirst
      | abrupt why s' =>
        rw [h] at hfirst
        exact hfirst

/-! ### How a statement may end -/

/-- A statement that completes abruptly does so in a way that has a property. -/
def Ends (P : Abrupt → Prop) (c : Completion σ) : Prop := ∀ why, c.why? = some why → P why

section Ends

variable {P : Abrupt → Prop}

theorem ends_normal (s : σ) : (normal s).Ends P := fun _ h => by cases h

theorem ends_abrupt {why : Abrupt} (h : P why) (s : σ) : (abrupt why s).Ends P :=
  fun _ hwhy => (Option.some.injEq ..).mp hwhy ▸ h

theorem ends_eval {x : Except Abrupt α} {s : σ} {next : α → Completion σ}
    (hx : ∀ why, x = .error why → P why) (hnext : ∀ a, (next a).Ends P) :
    (eval x s next).Ends P := by
  cases x with
  | ok a => exact hnext a
  | error why => exact ends_abrupt (hx why rfl) s

theorem ends_sequence (ps : List (σ → Completion σ)) (hps : ∀ p ∈ ps, ∀ s, (p s).Ends P) (s : σ) :
    (sequence ps s).Ends P := by
  intro why h
  obtain ⟨p, hp, t, ht⟩ := exists_of_why?_sequence ps h
  exact hps p hp t why ht

end Ends

/-- A statement falls through or returns: it neither throws nor has undefined behaviour. -/
def Returns (c : Completion σ) : Prop := c.Ends fun why => ∃ code, why = .ret code

theorem returns_normal (s : σ) : (normal s).Returns := ends_normal s

theorem returns_ret (code : Int) (s : σ) : (abrupt (.ret code) s).Returns :=
  ends_abrupt ⟨code, rfl⟩ s

/-- An expression that throws ends the statement. -/
theorem returns_eval {x : Except Abrupt α} {s : σ} {next : α → Completion σ}
    (hx : ∀ code, x ≠ .error (.ret code)) :
    (eval x s next).Returns ↔ ∃ a, x = .ok a ∧ (next a).Returns := by
  cases x with
  | ok a => exact ⟨fun h => ⟨a, rfl, h⟩, fun ⟨_, ha, h⟩ => by cases ha; exact h⟩
  | error why =>
    refine iff_of_false (fun h => ?_) fun ⟨_, ha, _⟩ => by cases ha
    obtain ⟨code, rfl⟩ := h why rfl
    exact hx code rfl

/-- A sequence returns if its first statement does and, where this falls through, the others do. -/
theorem returns_sequence_cons (p : σ → Completion σ) (ps : List (σ → Completion σ)) (s : σ) :
    (sequence (p :: ps) s).Returns ↔
      (p s).Returns ∧ ((p s).why? = none → (sequence ps (p s).state).Returns) := by
  rw [sequence_cons]
  cases h : p s with
  | normal t => exact ⟨fun hr => ⟨returns_normal t, fun _ => hr⟩, fun hr => hr.2 rfl⟩
  | abrupt why t => exact ⟨fun hr => ⟨hr, fun hn => by cases hn⟩, fun hr => hr.1⟩

end Completion
