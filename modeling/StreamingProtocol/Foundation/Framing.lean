import Mathlib.Data.List.Basic

/-!
# Blocks of a stream

A *block reader* takes one block off the front of a stream, or waits while the stream does not
hold a complete block. Taking blocks until the reader waits gives the blocks of a stream and the
part that is left (`BlockReader.all`).

Blocks are written by an encoder `enc` of values `x`, each standing for the block `val x`. If the
reader takes `val x` off `enc x` followed by anything, for every *good* `x`, and for the others
never takes `val x` off `enc x` followed by what is written next, then the blocks of a
concatenation of encodings are the values written exactly when all of them are good
(`BlockReader.all_fst_flatMap_iff`).

## Main definitions

* `BlockReader`, `BlockReader.all`.

## Main results

* `BlockReader.all_flatMap_append`: a concatenation of good encodings is read back in order.
* `BlockReader.all_fst_flatMap_iff`.
-/

/-- A reader of one block off the front of a stream, which consumes at least one symbol. -/
structure BlockReader (α β : Type*) where
  /-- The first block and what follows it, or `none` while the block is incomplete. -/
  next : List β → Option (α × List β)
  length_lt : ∀ {s a r}, next s = some (a, r) → r.length < s.length

namespace BlockReader

variable {α β γ : Type*} (R : BlockReader α β)

/-- The blocks of a stream, in order, and the part of it that holds no complete block. -/
def all (s : List β) : List α × List β :=
  match _h : R.next s with
  | none => ([], s)
  | some (a, r) => (a :: (all r).1, (all r).2)
termination_by s.length
decreasing_by all_goals exact R.length_lt ‹_›

theorem all_of_none {s : List β} (h : R.next s = none) : R.all s = ([], s) := by
  rw [all]
  split
  · rfl
  · simp_all

theorem all_of_some {s r : List β} {a : α} (h : R.next s = some (a, r)) :
    R.all s = (a :: (R.all r).1, (R.all r).2) := by
  rw [all]
  split
  · simp_all
  · rename_i b t hbt
    obtain ⟨rfl, rfl⟩ : b = a ∧ t = r := by simpa using hbt.symm.trans h
    rfl

variable {enc : γ → List β} {val : γ → α}

/-- A concatenation of encodings that the reader takes back one by one is read back in order, up
to the rest of the stream. -/
theorem all_flatMap_append (rest : List β) : (xs : List γ) →
    (∀ x ∈ xs, ∀ t, R.next (enc x ++ t) = some (val x, t)) →
    R.all (xs.flatMap enc ++ rest) = (xs.map val ++ (R.all rest).1, (R.all rest).2)
  | [], _ => rfl
  | x :: xs, h => by
      have hx := h x List.mem_cons_self (xs.flatMap enc ++ rest)
      have hxs := all_flatMap_append rest xs fun y hy => h y (List.mem_cons_of_mem x hy)
      rw [List.flatMap_cons, List.append_assoc, R.all_of_some hx, hxs]
      rfl

/-- **Exact round trip.** The blocks of a concatenation of encodings are the values written, in
order, if and only if every value is one the reader takes back. -/
theorem all_fst_flatMap_iff {good : γ → Prop} {rest : List β} (hrest : (R.all rest).1 = []) :
    (xs : List γ) → (∀ x ∈ xs, good x → ∀ t, R.next (enc x ++ t) = some (val x, t)) →
    (∀ x ys, x :: ys <:+ xs → ¬ good x → ∀ a r,
      R.next (enc x ++ (ys.flatMap enc ++ rest)) = some (a, r) → a ≠ val x) →
    ((R.all (xs.flatMap enc ++ rest)).1 = xs.map val ↔ ∀ x ∈ xs, good x)
  | [], _, _ => by simpa using hrest
  | x :: xs, hgood, hbad => by
      rw [List.flatMap_cons, List.append_assoc, List.forall_mem_cons, List.map_cons]
      by_cases hx : good x
      · have ih := all_fst_flatMap_iff hrest xs
          (fun y hy => hgood y (List.mem_cons_of_mem x hy))
          (fun y ys hys => hbad y ys (hys.trans (List.suffix_cons x xs)))
        rw [R.all_of_some (hgood x List.mem_cons_self hx _), List.cons.injEq]
        simpa [hx] using ih
      · refine iff_of_false (fun hall => ?_) fun h => hx h.1
        cases hnext : R.next (enc x ++ (xs.flatMap enc ++ rest)) with
        | none => simp [R.all_of_none hnext] at hall
        | some p =>
          obtain ⟨a, r⟩ := p
          rw [R.all_of_some hnext, List.cons.injEq] at hall
          exact hbad x xs (List.suffix_refl _) hx a r hnext hall.1

end BlockReader
