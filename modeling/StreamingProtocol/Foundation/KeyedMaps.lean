import Mathlib.Data.List.Nodup
import Mathlib.Data.List.Perm.Basic
import Mathlib.Logic.Function.Basic

/-!
# Maps that entries are put into

An entry is put into a map in one of two ways: it is inserted, which keeps an entry that is there
under its key, or assigned, which replaces it. Each way changes the map only at the key, by what is
there before. So entries with distinct keys do not interfere, in any order, and the two ways leave
the same map if and only if nothing is replaced.

## Main definitions

* `KeyedMap.insert`, `KeyedMap.assign`.

## Main results

* `KeyedMap.foldl_put_of_mem`: entries with distinct keys.
* `KeyedMap.foldl_insert_eq_foldl_assign_iff`.
-/

namespace KeyedMap

variable {κ α : Type} [DecidableEq κ]

/-- An entry is inserted unless there is one with its key. -/
def insert (m : κ → Option α) (entry : κ × α) : κ → Option α :=
  match m entry.1 with
  | none => Function.update m entry.1 (some entry.2)
  | some _ => m

/-- An entry is assigned. -/
def assign (m : κ → Option α) (entry : κ × α) : κ → Option α :=
  Function.update m entry.1 (some entry.2)

theorem insert_self (m : κ → Option α) (entry : κ × α) :
    insert m entry entry.1 = some ((m entry.1).getD entry.2) := by
  unfold insert
  cases h : m entry.1 with
  | none => exact Function.update_self ..
  | some value => exact h

theorem insert_of_ne (m : κ → Option α) {entry : κ × α} {key : κ} (h : key ≠ entry.1) :
    insert m entry key = m key := by
  unfold insert
  cases m entry.1 with
  | none => exact Function.update_of_ne h ..
  | some value => rfl

/-! ### Entries, one after the other -/

section Put

variable (put : (κ → Option α) → κ × α → κ → Option α)

omit [DecidableEq κ] in
/-- Other keys keep what they have. -/
theorem foldl_put_of_notMem (hput : ∀ m entry key, key ≠ entry.1 → put m entry key = m key)
    {entries : List (κ × α)} {key : κ} (hkey : key ∉ entries.map Prod.fst) (m : κ → Option α) :
    entries.foldl put m key = m key := by
  induction entries generalizing m with
  | nil => rfl
  | cons entry entries ih =>
    rw [List.map_cons, List.mem_cons, not_or] at hkey
    rw [List.foldl_cons, ih hkey.2, hput m entry key hkey.1]

omit [DecidableEq κ] in
/-- The key of an entry gets what it would get from this entry alone. -/
theorem foldl_put_of_mem (value : Option α → α → Option α)
    (hput : ∀ m entry key, key ≠ entry.1 → put m entry key = m key)
    (hself : ∀ m entry, put m entry entry.1 = value (m entry.1) entry.2)
    {entries : List (κ × α)} (hnodup : (entries.map Prod.fst).Nodup) {entry : κ × α}
    (hentry : entry ∈ entries) (m : κ → Option α) :
    entries.foldl put m entry.1 = value (m entry.1) entry.2 := by
  induction entries generalizing m with
  | nil => cases hentry
  | cons first entries ih =>
    rw [List.map_cons, List.nodup_cons] at hnodup
    obtain ⟨hfirst, hnodup⟩ := hnodup
    rw [List.foldl_cons]
    rcases List.mem_cons.mp hentry with rfl | hrest
    · rw [foldl_put_of_notMem put hput hfirst, hself]
    · have hne : entry.1 ≠ first.1 := fun heq =>
        hfirst (heq ▸ List.mem_map_of_mem hrest)
      rw [ih hnodup hrest, hput m first entry.1 hne]

end Put

section Entries

variable {entries : List (κ × α)} {m : κ → Option α}

theorem foldl_insert_of_mem (hnodup : (entries.map Prod.fst).Nodup) {entry : κ × α}
    (hentry : entry ∈ entries) :
    entries.foldl insert m entry.1 = some ((m entry.1).getD entry.2) :=
  foldl_put_of_mem insert (fun known value => some (known.getD value))
    (fun m _ _ h => insert_of_ne m h) insert_self hnodup hentry m

theorem foldl_assign_of_mem (hnodup : (entries.map Prod.fst).Nodup) {entry : κ × α}
    (hentry : entry ∈ entries) : entries.foldl assign m entry.1 = some entry.2 :=
  foldl_put_of_mem assign (fun _ value => some value) (fun _ _ _ h => Function.update_of_ne h ..)
    (fun _ _ => Function.update_self ..) hnodup hentry m

theorem foldl_insert_of_notMem {key : κ} (hkey : key ∉ entries.map Prod.fst) :
    entries.foldl insert m key = m key :=
  foldl_put_of_notMem insert (fun m _ _ h => insert_of_ne m h) hkey m

theorem foldl_assign_of_notMem {key : κ} (hkey : key ∉ entries.map Prod.fst) :
    entries.foldl assign m key = m key :=
  foldl_put_of_notMem assign (fun _ _ _ h => Function.update_of_ne h ..) hkey m

/-- Inserting and assigning, in any order, leave the same map if and only if no entry is replaced by
another one. -/
theorem foldl_insert_eq_foldl_assign_iff {order : List (κ × α)}
    (hnodup : (entries.map Prod.fst).Nodup) (horder : order.Perm entries) :
    entries.foldl insert m = order.foldl assign m ↔
      ∀ entry ∈ entries, m entry.1 = none ∨ m entry.1 = some entry.2 := by
  have hassigned (entry : κ × α) (hentry : entry ∈ entries) :
      order.foldl assign m entry.1 = some entry.2 :=
    foldl_assign_of_mem ((horder.map Prod.fst).nodup_iff.mpr hnodup) (horder.mem_iff.mpr hentry)
  have hsame (entry : κ × α) : some ((m entry.1).getD entry.2) = some entry.2 ↔
      m entry.1 = none ∨ m entry.1 = some entry.2 := by
    cases m entry.1 <;> simp
  constructor
  · intro h entry hentry
    rw [← hsame, ← hassigned entry hentry, ← h, foldl_insert_of_mem hnodup hentry]
  · intro h
    funext key
    by_cases hkey : key ∈ entries.map Prod.fst
    · obtain ⟨entry, hentry, rfl⟩ := List.mem_map.mp hkey
      rw [foldl_insert_of_mem hnodup hentry, hassigned entry hentry]
      exact (hsame entry).mpr (h entry hentry)
    · have hother : key ∉ order.map Prod.fst := fun hmem =>
        hkey ((horder.map Prod.fst).mem_iff.mp hmem)
      rw [foldl_insert_of_notMem hkey, foldl_assign_of_notMem hother]

end Entries

end KeyedMap
