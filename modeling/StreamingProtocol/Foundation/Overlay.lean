import StreamingProtocol.Foundation.Json

/-!
# Overlays of documents

A document laid over another one replaces it, but for objects, which are overlaid member by member.
Reading a scalar member after the overlay is reading it in the upper document and, if it is missing
there, in the lower one. The same holds of the members of a member, unless the upper document has a
value that is no object in place of this member: it hides what is below.

## Main definitions

* `Json.merge`: a document laid over another one.
* `Json.nested`, `Json.readIn`: the member of a member.
* `Json.hides`: the upper document has a value that is no object in the place of a member.

## Main results

* `Json.find?_merge`, `Json.nested_merge`.
* `Json.read_merge`, `Json.readIn_merge`.
-/

namespace Json

mutual

/-- A document with another one laid over it. -/
def merge : Json → Json → Json
  | object members, object members' => object (mergeMembers members members')
  | _, j => j

/-- The members of an object with those of another one laid over them. -/
def mergeMembers (members : List (String × Json)) : List (String × Json) → List (String × Json)
  | [] => members
  | (key, value) :: members' =>
      Members.set key (merge ((Members.find? key members).getD null) value)
        (mergeMembers members members')

end

/-- The member of a member. -/
def nested (key key' : String) (j : Json) : Option Json := (j.find? key).bind (find? key')

/-- A value that is no object is in the place of a member. -/
def hides (key : String) (j : Json) : Bool := (j.find? key).any fun value => !value.isObject

/-- The member of a member read at a type. One that is missing, or that cannot be read, leaves what
is there. -/
def readIn {α : Type} (get : Json → Except Abrupt α) (key key' : String) (current : α) (j : Json) :
    α :=
  match j.nested key key' with
  | none => current
  | some node =>
      match get node with
      | .ok a => a
      | .error _ => current

variable {i j : Json} {key key' : String}

/-! ### Members of an overlay -/

theorem merge_of_not_isObject (i : Json) (hj : j.isObject = false) : i.merge j = j := by
  cases j with
  | object members => cases hj
  | _ => cases i <;> simp only [merge]

theorem merge_of_not_isObject_left (hi : i.isObject = false) (j : Json) : i.merge j = j := by
  cases i with
  | object members => cases hi
  | _ => simp only [merge]

theorem find?_mergeMembers (key : String) (members : List (String × Json)) :
    (members' : List (String × Json)) → Members.find? key (mergeMembers members members') =
      match Members.find? key members' with
      | none => Members.find? key members
      | some value => some (merge ((Members.find? key members).getD null) value)
  | [] => by rw [mergeMembers, Members.find?_nil]
  | (k, value) :: members' => by
      rw [mergeMembers, Members.find?_set, Members.find?_cons]
      split_ifs with hk
      · rw [hk]
      · exact find?_mergeMembers key members members'

theorem find?_of_not_isObject (hj : j.isObject = false) (key : String) : j.find? key = none := by
  cases j with
  | object members => cases hj
  | _ => rfl

/-- A member of the upper document is laid over the one below. -/
theorem find?_merge (i j : Json) (key : String) :
    (i.merge j).find? key = match j.find? key with
      | none => if j.isObject then i.find? key else none
      | some value => some ((i.member key).merge value) := by
  cases hj : j.isObject with
  | false =>
    rw [merge_of_not_isObject i hj, find?_of_not_isObject hj]
    rfl
  | true =>
    cases hi : i.isObject with
    | false =>
      have hnone := find?_of_not_isObject hi key
      rw [merge_of_not_isObject_left hi, member, hnone]
      cases j.find? key with
      | none => rfl
      | some value => exact congrArg some (merge_of_not_isObject_left rfl value).symm
    | true =>
      cases i <;> cases hi
      cases j <;> cases hj
      rw [merge]
      exact find?_mergeMembers key _ _

theorem find?_merge_of_none (hj : j.isObject) (h : j.find? key = none) :
    (i.merge j).find? key = i.find? key := by
  rw [find?_merge, h]
  exact if_pos hj

/-- A member of the upper document that is no object. -/
theorem find?_merge_of_some {value : Json} (h : j.find? key = some value)
    (hvalue : value.isObject = false) : (i.merge j).find? key = some value := by
  rw [find?_merge, h]
  exact congrArg some (merge_of_not_isObject _ hvalue)

theorem hides_of_nested {value : Json} (h : j.nested key key' = some value) :
    j.hides key = false := by
  unfold nested at h
  unfold hides
  cases hupper : j.find? key with
  | none => rfl
  | some upper =>
    rw [hupper] at h
    simpa using isObject_of_find? h

theorem nested_of_hides (h : j.hides key) (key' : String) : j.nested key key' = none := by
  cases hnested : j.nested key key' with
  | none => rfl
  | some value =>
    rw [hides_of_nested hnested] at h
    cases h

/-- The member of a member, which may be hidden. -/
theorem nested_merge (i : Json) (hj : j.isObject) (key key' : String) :
    (i.merge j).nested key key' = match j.nested key key' with
      | none => if j.hides key then none else i.nested key key'
      | some value => some (((i.nested key key').getD null).merge value) := by
  have hbelow : (i.member key).find? key' = i.nested key key' := by
    unfold member nested
    cases i.find? key with
    | none => rfl
    | some lower => rfl
  unfold hides
  cases hupper : j.find? key with
  | none =>
    have hnone : j.nested key key' = none := by rw [nested, hupper, Option.bind_none]
    rw [hnone, nested, find?_merge_of_none hj hupper]
    rfl
  | some upper =>
    have hnested : j.nested key key' = upper.find? key' := by
      rw [nested, hupper, Option.bind_some]
    rw [hnested, nested, find?_merge, hupper]
    refine (find?_merge (i.member key) upper key').trans ?_
    rw [hbelow, member, hbelow]
    cases upper.find? key' with
    | none => cases hobject : upper.isObject <;> simp [hobject]
    | some value => rfl

/-! ### Reading in an overlay -/

section Read

variable {α : Type} {get : Json → Except Abrupt α}

theorem readIn_of_find? {node : Json} (h : j.find? key = some node) (key' : String) (current : α) :
    j.readIn get key key' current = node.read get key' current := by
  have hnested : j.nested key key' = node.find? key' := by rw [nested, h, Option.bind_some]
  unfold readIn read
  cases hvalue : node.find? key' with
  | none => simp only [hnested, hvalue]
  | some value => cases hget : get value <;> simp only [hnested, hvalue, hget]

theorem readIn_of_none (h : j.find? key = none) (key' : String) (current : α) :
    j.readIn get key key' current = current := by
  unfold readIn nested
  rw [h, Option.bind_none]

/-- A member that is read in the upper document, if it is there. -/
theorem read_merge (i : Json) (hj : j.isObject)
    (h : ∀ value, j.find? key = some value → value.isObject = false ∧ ∃ a, get value = .ok a)
    (current : α) :
    (i.merge j).read get key current = j.read get key (i.read get key current) := by
  cases hupper : j.find? key with
  | none => rw [read_of_none hupper, read, read, find?_merge_of_none hj hupper]
  | some value =>
    obtain ⟨hvalue, a, ha⟩ := h value hupper
    rw [read_of_find? hupper ha, read_of_find? (find?_merge_of_some hupper hvalue) ha]

theorem readIn_of_hides (h : j.hides key) (key' : String) (current : α) :
    j.readIn get key key' current = current := by
  rw [readIn, nested_of_hides h]

/-- The member of a member that is read in the upper document, if it is there. -/
theorem readIn_merge (i : Json) (hj : j.isObject)
    (h : ∀ value, j.nested key key' = some value →
      value.isObject = false ∧ ∃ a, get value = .ok a) (current : α) :
    (i.merge j).readIn get key key' current =
      if j.hides key then current
      else j.readIn get key key' (i.readIn get key key' current) := by
  have hmerge := nested_merge i hj key key'
  cases hupper : j.nested key key' with
  | none =>
    rw [hupper] at hmerge
    unfold readIn
    rw [hmerge, hupper]
    split_ifs <;> rfl
  | some value =>
    obtain ⟨hvalue, a, ha⟩ := h value hupper
    rw [hupper] at hmerge
    have hshown := hides_of_nested hupper
    have hreads : (i.merge j).nested key key' = some value := by
      rw [hmerge]
      exact congrArg some (merge_of_not_isObject _ hvalue)
    unfold readIn
    simp only [hreads, hupper, ha, hshown, Bool.false_eq_true, if_false]

/-- Reading two documents one after the other is reading their overlay if nothing is hidden. -/
theorem readIn_eq_readIn_merge_iff (i : Json) (hj : j.isObject)
    (h : ∀ value, j.nested key key' = some value →
      value.isObject = false ∧ ∃ a, get value = .ok a) (current : α) :
    j.readIn get key key' (i.readIn get key key' current) =
        (i.merge j).readIn get key key' current ↔
      (j.hides key → i.readIn get key key' current = current) := by
  rw [readIn_merge i hj h]
  by_cases hhides : j.hides key
  · rw [if_pos hhides, readIn_of_hides hhides]
    exact ⟨fun h _ => h, fun h => h hhides⟩
  · rw [if_neg hhides]
    exact iff_of_true rfl fun h => absurd h hhides

end Read

end Json
