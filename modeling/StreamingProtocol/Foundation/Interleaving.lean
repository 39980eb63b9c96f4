import Mathlib.Init

/-!
# Interleavings

Two parties send messages to one receiver. Those of each party arrive in the order in which they
were sent, and nothing is said about the order between the parties.

A receiver may serve each party from a part of its state that the other party does not change. Then
it answers each of them as if there were only this one.

## Main definitions

* `Interleaving`.
* `answers`: what a receiver answers to messages.
* `Party`: the messages of a party, and when two states are the same to it.

## Main results

* `Interleaving.eq_of_nil`, `Interleaving.exists_of_isPrefix`, `Interleaving.flatMap_eq`.
* `Party.interleaving_answers`.
-/

variable {α σ ι ο : Type}

/-- The third list holds the elements of the first two, those of each in their order. -/
inductive Interleaving : List α → List α → List α → Prop
  | nil : Interleaving [] [] []
  | left {as bs cs : List α} (a : α) (h : Interleaving as bs cs) :
      Interleaving (a :: as) bs (a :: cs)
  | right {as bs cs : List α} (b : α) (h : Interleaving as bs cs) :
      Interleaving as (b :: bs) (b :: cs)

namespace Interleaving

/-- With nothing from the first list, the second is left. -/
theorem eq_of_nil {bs cs : List α} (h : Interleaving [] bs cs) : bs = cs := by
  induction cs generalizing bs with
  | nil =>
    cases h
    rfl
  | cons b cs ih =>
    cases h with
    | right b h => rw [ih h]

theorem length_eq {as bs cs : List α} (h : Interleaving as bs cs) :
    cs.length = as.length + bs.length := by
  induction h with
  | nil => rfl
  | left a h ih =>
    rw [List.length_cons, List.length_cons, ih]
    omega
  | right b h ih =>
    rw [List.length_cons, List.length_cons, ih]
    rfl

/-- A first part of the third list holds first parts of the others. -/
theorem exists_of_isPrefix {as bs cs ds : List α} (h : Interleaving as bs cs) (hds : ds <+: cs) :
    ∃ as' bs', as' <+: as ∧ bs' <+: bs ∧ Interleaving as' bs' ds := by
  induction h generalizing ds with
  | nil =>
    obtain rfl := List.prefix_nil.mp hds
    exact ⟨[], [], List.prefix_rfl, List.prefix_rfl, .nil⟩
  | left a h ih =>
    rcases List.prefix_cons_iff.mp hds with rfl | ⟨rest, rfl, hrest⟩
    · exact ⟨[], [], List.nil_prefix, List.nil_prefix, .nil⟩
    · obtain ⟨as', bs', has, hbs, h'⟩ := ih hrest
      exact ⟨a :: as', bs', List.cons_prefix_cons.mpr ⟨rfl, has⟩, hbs, .left a h'⟩
  | right b h ih =>
    rcases List.prefix_cons_iff.mp hds with rfl | ⟨rest, rfl, hrest⟩
    · exact ⟨[], [], List.nil_prefix, List.nil_prefix, .nil⟩
    · obtain ⟨as', bs', has, hbs, h'⟩ := ih hrest
      exact ⟨as', b :: bs', has, List.cons_prefix_cons.mpr ⟨rfl, hbs⟩, .right b h'⟩

/-- If the elements of the second list yield nothing, the third yields what the first yields. -/
theorem flatMap_eq {β : Type} {f : α → List β} {as bs cs : List α} (h : Interleaving as bs cs)
    (hbs : ∀ b ∈ bs, f b = []) : cs.flatMap f = as.flatMap f := by
  induction h with
  | nil => rfl
  | left a h ih => rw [List.flatMap_cons, List.flatMap_cons, ih hbs]
  | right b h ih =>
    obtain ⟨hb, hbs⟩ := List.forall_mem_cons.mp hbs
    rw [List.flatMap_cons, hb, List.nil_append, ih hbs]

/-- A list, split by a property of its elements. -/
theorem of_filter (p : α → Bool) :
    ∀ cs : List α, Interleaving (cs.filter p) (cs.filter fun c => !p c) cs
  | [] => .nil
  | c :: cs => by
      cases hc : p c with
      | true =>
        rw [List.filter_cons_of_pos hc, List.filter_cons_of_neg (by simp [hc])]
        exact .left c (of_filter p cs)
      | false =>
        rw [List.filter_cons_of_neg (by simp [hc]), List.filter_cons_of_pos (by simp [hc])]
        exact .right c (of_filter p cs)

end Interleaving

/-- The messages that a receiver gets, each with the answer. -/
def answers (step : σ → ι → ο × σ) : σ → List ι → List (ι × ο)
  | _, [] => []
  | s, i :: inputs => (i, (step s i).1) :: answers step (step s i).2 inputs

/-- A party: the messages that it sends, and when two states of the receiver are the same to it. In
states that are the same to it, its messages are answered in the same way. -/
structure Party (step : σ → ι → ο × σ) where
  Sends : ι → Prop
  Same : σ → σ → Prop
  own {s t : σ} {i : ι} : Sends i → Same s t →
    (step s i).1 = (step t i).1 ∧ Same (step s i).2 (step t i).2

namespace Party

variable {step : σ → ι → ο × σ}

/-- The messages of the first party make no difference to the second. -/
def Spares (P Q : Party step) : Prop :=
  ∀ {s t u : σ} {i : ι}, P.Sends i → P.Same s t → Q.Same s u → Q.Same (step s i).2 u

/-- Two parties that spare each other are answered as if each of them were alone. -/
theorem interleaving_answers {P Q : Party step} (hPQ : P.Spares Q) (hQP : Q.Spares P)
    {as bs cs : List ι} (h : Interleaving as bs cs) (has : ∀ i ∈ as, P.Sends i)
    (hbs : ∀ i ∈ bs, Q.Sends i) {s t u : σ} (hP : P.Same s t) (hQ : Q.Same s u) :
    Interleaving (answers step t as) (answers step u bs) (answers step s cs) := by
  induction h generalizing s t u with
  | nil => exact .nil
  | left a h ih =>
    obtain ⟨ha, has⟩ := List.forall_mem_cons.mp has
    obtain ⟨hanswer, hP'⟩ := P.own ha hP
    rw [answers, answers, hanswer]
    exact .left _ (ih has hbs hP' (hPQ ha hP hQ))
  | right b h ih =>
    obtain ⟨hb, hbs⟩ := List.forall_mem_cons.mp hbs
    obtain ⟨hanswer, hQ'⟩ := Q.own hb hQ
    rw [answers, answers, hanswer]
    exact .right _ (ih has hbs (hQP hb hQ hP) hQ')

end Party
