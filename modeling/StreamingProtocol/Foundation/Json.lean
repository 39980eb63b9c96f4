import StreamingProtocol.Foundation.Bytes
import StreamingProtocol.Foundation.Completion
import Mathlib.Data.List.Basic
import Mathlib.Data.String.Basic

/-!
# JSON values

A JSON value as a dynamically typed document: numbers are kept as unsigned, signed or floating
point, strings are strings of octets (one character an octet), objects list their members in the
order of their keys, and binary strings are what a binary encoding adds. Reading a value at a type
it does not have throws.

What the library that owns such values does with floating point numbers and with text is not
spelled out here. `JsonRuntime` lists these operations: the conversions between floating point and
integer numbers, and the text of a document, which does not exist for a string that is not valid
UTF-8. `Msgpack` is a binary encoding of documents.

* `Members` are the members of an object, with `Members.find?` and `Members.set`.
* `Json.find?` looks up a member, in objects only; `Json.at?` demands it; `Json.set` assigns it.
* `Json.getString`, `Json.getUInt64`, `Json.getUInt32`, `Json.getInt32`, `Json.getDouble` read a
  value at a type, `Json.valueOr` a member with a default.
* `Json.elements` are the values a loop over a value visits.

## Main definitions

* `Double`, `Members`, `Json`, `JsonRuntime`, `Msgpack`.

## Main results

* `Members.find?_set_self`, `Members.find?_set_of_ne`, `Members.Ordered.foldl_set`.
* `Json.sizeOf_lt_of_find?`, `Json.sizeOf_lt_of_mem_elements`: members are smaller, so a recursion
  over a document ends.
-/

open ByteString

/-- A floating point number, by the bits of its representation. -/
structure Double where
  bits : UInt64
deriving DecidableEq, Repr

/-- Whether a number is 0; there are two zeros, which differ in the sign bit. -/
def Double.isZero (x : Double) : Bool := x.bits <<< 1 = 0

/-! ### Members of an object -/

/-- An ordered map from strings, by its entries in the order of the keys. -/
abbrev Members (α : Type) : Type := List (String × α)

namespace Members

variable {α : Type}

/-- The value of a key. -/
def find? (key : String) : Members α → Option α
  | [] => none
  | (k, v) :: ms => if k = key then some v else find? key ms

/-- The entries after an assignment to a key, which keeps them in the order of the keys. -/
def set (key : String) (value : α) : Members α → Members α
  | [] => [(key, value)]
  | (k, v) :: ms =>
      if k = key then (key, value) :: ms
      else if key < k then (key, value) :: (k, v) :: ms
      else (k, v) :: set key value ms

@[simp] theorem find?_nil (key : String) : find? key ([] : Members α) = none := rfl

@[simp] theorem find?_cons (key k : String) (v : α) (ms : Members α) :
    find? key ((k, v) :: ms) = if k = key then some v else find? key ms := rfl

@[simp] theorem find?_set_self (key : String) (value : α) :
    (ms : Members α) → find? key (set key value ms) = some value
  | [] => by simp [set]
  | (k, v) :: ms => by
      unfold set
      split_ifs with h₁ h₂
      · simp
      · simp
      · simp [h₁, find?_set_self key value ms]

theorem find?_set_of_ne {key key' : String} (h : key ≠ key') (value : α) :
    (ms : Members α) → find? key' (set key value ms) = find? key' ms
  | [] => by simp [set, h]
  | (k, v) :: ms => by
      unfold set
      split_ifs with h₁ h₂
      · subst h₁
        simp [h]
      · simp [h]
      · simp [find?_set_of_ne h value ms]

theorem find?_set (key key' : String) (value : α) (ms : Members α) :
    find? key' (set key value ms) = if key = key' then some value else find? key' ms := by
  split_ifs with h
  · rw [h, find?_set_self]
  · exact find?_set_of_ne h value ms

/-- The keys of a map are in their order, and pairwise different. -/
def Ordered (ms : Members α) : Prop := ms.Pairwise fun a b => a.1 < b.1

theorem ordered_nil : Ordered ([] : Members α) := List.Pairwise.nil

theorem set_of_forall_lt {key : String} (value : α) {ms : Members α} (h : ∀ m ∈ ms, m.1 < key) :
    set key value ms = ms ++ [(key, value)] := by
  induction ms with
  | nil => rfl
  | cons m ms ih =>
    have hlt : m.1 < key := h m List.mem_cons_self
    unfold set
    rw [if_neg (ne_of_lt hlt), if_neg (lt_asymm hlt),
      ih fun m' hm' => h m' (List.mem_cons_of_mem m hm'), List.cons_append]

/-- Assigning the entries of a map one after the other builds the map. -/
theorem Ordered.foldl_set {ms : Members α} (h : ms.Ordered) (start : Members α)
    (hstart : ∀ a ∈ start, ∀ b ∈ ms, a.1 < b.1) :
    ms.foldl (fun built m => set m.1 m.2 built) start = start ++ ms := by
  induction ms generalizing start with
  | nil => rw [List.foldl_nil, List.append_nil]
  | cons m ms ih =>
    obtain ⟨hfirst, hrest⟩ := List.pairwise_cons.mp h
    have hset : set m.1 m.2 start = start ++ [m] :=
      set_of_forall_lt m.2 fun a ha => hstart a ha m List.mem_cons_self
    rw [List.foldl_cons, hset, ih hrest, List.append_assoc, List.singleton_append]
    intro a ha b hb
    rcases List.mem_append.mp ha with ha | ha
    · exact hstart a ha b (List.mem_cons_of_mem m hb)
    · rw [List.mem_singleton.mp ha]
      exact hfirst b hb

theorem mem_of_find? {key : String} {value : α} :
    {ms : Members α} → find? key ms = some value → (key, value) ∈ ms
  | [], h => by cases h
  | (k, v) :: ms, h => by
      rw [find?_cons] at h
      split_ifs at h with hk
      · cases h
        exact hk ▸ List.mem_cons_self
      · exact List.mem_cons_of_mem _ (mem_of_find? h)

end Members

/-! ### Documents -/

/-- A JSON value. -/
inductive Json where
  | null
  | boolean (b : Bool)
  | numberUnsigned (n : UInt64)
  | numberInteger (n : Int64)
  | numberFloat (x : Double)
  | string (s : String)
  | array (elements : List Json)
  | object (members : List (String × Json))
  | binary (data : Bytes)
deriving Inhabited

/-- The operations of a JSON library on numbers and text that are left to it. -/
class JsonRuntime where
  /-- The text of a value; none if a string in it is not valid UTF-8. -/
  dump : Json → Option String
  dump_numberUnsigned : ∀ n, (dump (.numberUnsigned n)).isSome
  dump_numberInteger : ∀ n, (dump (.numberInteger n)).isSome
  dump_numberFloat : ∀ x, (dump (.numberFloat x)).isSome
  doubleToUInt64 : Double → UInt64
  doubleToUInt32 : Double → UInt32
  doubleToInt32 : Double → Int32
  doubleOfUInt64 : UInt64 → Double
  doubleOfInt64 : Int64 → Double
  /-- A single precision number, given by its bits. -/
  doubleOfSingle : UInt32 → Double

/-- A runtime for documents whose numbers are integers: these are written in decimal. The text of
other values and the conversions of floating point numbers are left empty. -/
@[reducible] def decimalRuntime : JsonRuntime where
  dump
    | .numberUnsigned n => some (toString n.toNat)
    | .numberInteger n => some (toString n.toInt)
    | _ => some ""
  dump_numberUnsigned _ := rfl
  dump_numberInteger _ := rfl
  dump_numberFloat _ := rfl
  doubleToUInt64 _ := 0
  doubleToUInt32 _ := 0
  doubleToInt32 _ := 0
  doubleOfUInt64 _ := ⟨0⟩
  doubleOfInt64 _ := ⟨0⟩
  doubleOfSingle _ := ⟨0⟩

/-- A binary encoding of documents; not every string of octets encodes one. -/
class Msgpack where
  toMsgpack : Json → Bytes
  fromMsgpack : Bytes → Option Json

namespace Json

/-! #### Types of values -/

def isNull : Json → Bool
  | null => true
  | _ => false

def isString : Json → Bool
  | string _ => true
  | _ => false

def isNumber : Json → Bool
  | numberUnsigned _ | numberInteger _ | numberFloat _ => true
  | _ => false

def isArray : Json → Bool
  | array _ => true
  | _ => false

def isObject : Json → Bool
  | object _ => true
  | _ => false

@[simp] theorem isNull_iff {j : Json} : j.isNull ↔ j = null := by
  cases j <;> simp [isNull]

theorem isString_of_isNumber {j : Json} (h : j.isNumber) : j.isString = false := by
  cases j with
  | string _ => cases h
  | _ => rfl

theorem isArray_iff {j : Json} : j.isArray ↔ ∃ elements, j = array elements := by
  cases j <;> simp [isArray]

/-- Whether a value may be read as a machine integer other than the widest ones. -/
def isArithmetic : Json → Bool
  | boolean _ | numberUnsigned _ | numberInteger _ | numberFloat _ => true
  | _ => false

theorem isSome_dump_of_isNumber [JsonRuntime] {j : Json} (h : j.isNumber) :
    (JsonRuntime.dump j).isSome := by
  cases j <;> simp [isNumber] at h
  · exact JsonRuntime.dump_numberUnsigned _
  · exact JsonRuntime.dump_numberInteger _
  · exact JsonRuntime.dump_numberFloat _

/-! #### Members and elements -/

/-- The member of an object; a value of another type has none. -/
def find? (key : String) : Json → Option Json
  | object members => Members.find? key members
  | _ => none

/-- The member of an object, and `null` where there is none. -/
def member (key : String) (j : Json) : Json := (j.find? key).getD null

@[simp] theorem find?_object (key : String) (members : Members Json) :
    (object members).find? key = Members.find? key members := rfl

@[simp] theorem find?_null (key : String) : null.find? key = none := rfl

theorem isObject_of_find? {key : String} {j v : Json} (h : j.find? key = some v) :
    j.isObject := by
  cases j <;> simp [find?, isObject] at h ⊢

/-- The member of a constant object that is known to be there: without it the access has no
defined behaviour, and on another type it throws. -/
def at? (key : String) : Json → Except Abrupt Json
  | object members =>
      match Members.find? key members with
      | some v => .ok v
      | none => .error (.undefined .missingMember)
  | _ => .error (.throw .jsonTypeError)

/-- The member of a modifiable object, which is inserted as `null` when it is missing: the value
after the access and the member. -/
def index (key : String) : Json → Except Abrupt (Json × Json)
  | object members =>
      match Members.find? key members with
      | some v => .ok (object members, v)
      | none => .ok (object (Members.set key null members), null)
  | null => .ok (object [(key, null)], null)
  | _ => .error (.throw .jsonTypeError)

/-- The value after an assignment to a member, of an object or of a value that is still `null`. -/
def set (j : Json) (key : String) (value : Json) : Json :=
  match j with
  | object members => object (Members.set key value members)
  | _ => object [(key, value)]

/-- The value after an assignment to a member of a member. -/
def setIn (j : Json) (key key' : String) (value : Json) : Json :=
  j.set key ((j.member key).set key' value)

/-- The value after an element is appended, to an array or to a value that is still `null`. -/
def pushBack (j : Json) (value : Json) : Json :=
  match j with
  | array xs => array (xs ++ [value])
  | _ => array [value]

/-- The value after an element is appended to a member. -/
def pushBackIn (j : Json) (key : String) (value : Json) : Json :=
  j.set key ((j.member key).pushBack value)

/-- The values that a loop over a value visits: the elements of an array, the members of an
object, nothing for `null`, and otherwise the value itself. -/
def elements : Json → List Json
  | null => []
  | array xs => xs
  | object members => members.map Prod.snd
  | j => [j]

@[simp] theorem find?_set_self (key : String) (value : Json) (j : Json) :
    (j.set key value).find? key = some value := by
  cases j <;> simp [set, find?]

theorem find?_set_of_ne {key key' : String} (h : key ≠ key') (value : Json) {j : Json}
    (hj : j.isObject ∨ j = null) : (j.set key value).find? key' = j.find? key' := by
  cases j <;> simp [isObject] at hj
  · simp [set, find?, h]
  · simp [set, find?, Members.find?_set_of_ne h]

@[simp] theorem isObject_set (j : Json) (key : String) (value : Json) :
    (j.set key value).isObject := by
  cases j <;> rfl

/-- The member after an assignment. -/
theorem find?_set (key key' : String) (value : Json) {j : Json} (hj : j.isObject ∨ j = null) :
    (j.set key value).find? key' = if key = key' then some value else j.find? key' := by
  split_ifs with h
  · rw [h, find?_set_self]
  · exact find?_set_of_ne h value hj

theorem member_set (key key' : String) (value : Json) {j : Json} (hj : j.isObject ∨ j = null) :
    (j.set key value).member key' = if key = key' then value else j.member key' := by
  rw [member, find?_set key key' value hj]
  split_ifs <;> rfl

/-- Elements appended to a member, one after the other. -/
theorem foldl_pushBackIn {α : Type} (key : String) (f : α → Json) (values : List α) {j : Json}
    (elements : List Json) (hj : j.isObject ∨ j = null)
    (hmember : ∀ value, (j.member key).pushBack value = array (elements ++ [value])) :
    let result := values.foldl (fun j value => j.pushBackIn key (f value)) j
    (result.isObject ∨ result = null) ∧
      (∀ key', key ≠ key' → result.find? key' = j.find? key') ∧
      result.find? key =
        if values = [] then j.find? key else some (array (elements ++ values.map f)) := by
  induction values generalizing j elements with
  | nil => exact ⟨hj, fun _ _ => rfl, rfl⟩
  | cons value values ih =>
    have hpush : j.pushBackIn key (f value) = j.set key (array (elements ++ [f value])) := by
      rw [pushBackIn, hmember]
    rw [List.foldl_cons, hpush]
    obtain ⟨hresult, hother, hself⟩ := ih (elements ++ [f value]) (.inl (isObject_set j key _))
      fun value' => by rw [member, find?_set_self, Option.getD_some, pushBack]
    refine ⟨hresult, fun key' hkey => ?_, ?_⟩
    · rw [hother key' hkey, find?_set_of_ne hkey _ hj]
    · have happend : elements ++ (value :: values).map f =
          elements ++ [f value] ++ values.map f := List.append_cons ..
      rw [hself, if_neg (List.cons_ne_nil value values), find?_set_self, happend]
      split_ifs with hlast
      · rw [hlast, List.map_nil, List.append_nil]
      · rfl

/-! #### Members of objects -/

/-- A value whose members are read is an object afterwards. -/
theorem isObject_of_index {key : String} {j : Json} {r : Json × Json} (h : j.index key = .ok r) :
    r.1.isObject := by
  cases j with
  | object members =>
    simp only [index] at h
    split at h <;> cases h <;> rfl
  | null =>
    cases h
    rfl
  | _ => cases h

theorem index_of_isObject (key : String) {j : Json} (h : j.isObject) :
    ∃ j', j.index key = .ok (j', (j.find? key).getD .null) := by
  cases j with
  | object members =>
    simp only [index, find?_object]
    cases Members.find? key members with
    | none => exact ⟨_, rfl⟩
    | some v => exact ⟨_, rfl⟩
  | _ => simp [isObject] at h

theorem at?_of_isObject {key : String} {j : Json} (h : j.isObject) :
    j.at? key = match j.find? key with
      | none => .error (.undefined .missingMember)
      | some v => .ok v := by
  cases j with
  | object members =>
    simp only [at?, find?_object]
    cases Members.find? key members <;> rfl
  | _ => simp [isObject] at h

/-- Reading a member leaves the other ones alone. -/
theorem find?_of_index {key key' : String} {j : Json} {r : Json × Json}
    (h : j.index key = .ok r) (hkey : key' ≠ key) : r.1.find? key' = j.find? key' := by
  cases j with
  | object members =>
    simp only [index] at h
    split at h
    · cases h
      rfl
    · cases h
      exact Members.find?_set_of_ne hkey.symm _ _
  | null =>
    cases h
    simp [hkey.symm]
  | _ => cases h

/-- Reading a member inserts `null` where it is missing, which leaves every member as it is. -/
theorem member_of_index {key : String} {j j' v : Json} (h : j.index key = .ok (j', v)) :
    v = j.member key ∧ ∀ key', j'.member key' = j.member key' := by
  have hother (key' : String) (hne : key' ≠ key) : j'.member key' = j.member key' :=
    congrArg (fun x => x.getD null) (find?_of_index h hne)
  have hself : v = j.member key ∧ j'.member key = j.member key := by
    cases j with
    | object members =>
      simp only [index] at h
      split at h
      · next v hv =>
        cases h
        simp [member, hv]
      · next hv =>
        cases h
        simp [member, hv]
    | null =>
      cases h
      simp [member]
    | _ => cases h
  refine ⟨hself.1, fun key' => ?_⟩
  by_cases hkey : key' = key
  · rw [hkey, hself.2]
  · exact hother key' hkey

/-- The members of objects can be read, and those of `null`. -/
theorem exists_index {key : String} {j : Json} :
    (∃ r, j.index key = .ok r) ↔ j.isObject ∨ j = null := by
  constructor
  · rintro ⟨r, h⟩
    cases j with
    | object members => exact .inl rfl
    | null => exact .inr rfl
    | _ => cases h
  · rintro (h | rfl)
    · obtain ⟨j', hj'⟩ := index_of_isObject key h
      exact ⟨_, hj'⟩
    · exact ⟨_, rfl⟩

/-! #### Reading at a type -/

variable [JsonRuntime]

def getString : Json → Except Abrupt String
  | string s => .ok s
  | _ => .error (.throw .jsonTypeError)

/-- A value read as a 64 bit unsigned integer, which a Boolean is not. -/
def getUInt64 : Json → Except Abrupt UInt64
  | numberUnsigned n => .ok n
  | numberInteger n => .ok n.toUInt64
  | numberFloat x => .ok (JsonRuntime.doubleToUInt64 x)
  | _ => .error (.throw .jsonTypeError)

/-- A value read as a 32 bit unsigned integer; a Boolean counts as a number here. -/
def getUInt32 : Json → Except Abrupt UInt32
  | numberUnsigned n => .ok n.toUInt32
  | numberInteger n => .ok n.toUInt64.toUInt32
  | numberFloat x => .ok (JsonRuntime.doubleToUInt32 x)
  | boolean b => .ok (if b then 1 else 0)
  | _ => .error (.throw .jsonTypeError)

/-- A value read as a 32 bit signed integer; a Boolean counts as a number here. -/
def getInt32 : Json → Except Abrupt Int32
  | numberUnsigned n => .ok n.toUInt32.toInt32
  | numberInteger n => .ok n.toInt32
  | numberFloat x => .ok (JsonRuntime.doubleToInt32 x)
  | boolean b => .ok (if b then 1 else 0)
  | _ => .error (.throw .jsonTypeError)

def getDouble : Json → Except Abrupt Double
  | numberUnsigned n => .ok (JsonRuntime.doubleOfUInt64 n)
  | numberInteger n => .ok (JsonRuntime.doubleOfInt64 n)
  | numberFloat x => .ok x
  | _ => .error (.throw .jsonTypeError)

omit [JsonRuntime] in
/-- A member of an object read at a type, or the default if it is missing. -/
def valueOr {α : Type} (get : Json → Except Abrupt α) (key : String) (default : α) :
    Json → Except Abrupt α
  | object members =>
      match Members.find? key members with
      | some v => get v
      | none => .ok default
  | _ => .error (.throw .jsonTypeError)

omit [JsonRuntime] in
theorem valueOr_of_find? {α : Type} {get : Json → Except Abrupt α} {key : String} {default : α}
    {j node : Json} (hobject : j.isObject) (hnode : j.find? key = some node) :
    j.valueOr get key default = get node := by
  cases j with
  | object members =>
    rw [find?_object] at hnode
    simp only [valueOr, hnode]
  | _ => simp [isObject] at hobject

omit [JsonRuntime] in
theorem valueOr_congr {α : Type} {get : Json → Except Abrupt α} {key : String} {default : α}
    {j j' : Json} (hobject : j.isObject) (hobject' : j'.isObject) (h : j.find? key = j'.find? key) :
    j.valueOr get key default = j'.valueOr get key default := by
  cases j with
  | object members =>
    cases j' with
    | object members' =>
      rw [find?_object, find?_object] at h
      rw [valueOr, valueOr, h]
    | _ => cases hobject'
  | _ => cases hobject

/-- The text of a value. -/
def text (j : Json) : Except Abrupt String :=
  match JsonRuntime.dump j with
  | some t => .ok t
  | none => .error (.throw .jsonTypeError)

theorem text_eq_error {j : Json} {why : Abrupt} (h : j.text = .error why) :
    why = .throw .jsonTypeError := by
  unfold text at h
  split at h <;> cases h
  rfl

omit [JsonRuntime] in
theorem getString_eq_error {j : Json} {why : Abrupt} (h : j.getString = .error why) :
    why = .throw .jsonTypeError := by
  unfold getString at h
  split at h <;> cases h
  rfl

omit [JsonRuntime] in
theorem eq_string_of_getString {j : Json} {s : String} (h : j.getString = .ok s) :
    j = .string s := by
  unfold getString at h
  split at h <;> cases h
  rfl

theorem exists_text_of_isNumber {j : Json} (h : j.isNumber) : ∃ t, j.text = .ok t := by
  obtain ⟨t, ht⟩ := Option.isSome_iff_exists.mp (isSome_dump_of_isNumber h)
  exact ⟨t, by rw [text, ht]⟩

/-! #### Failures -/

omit [JsonRuntime] in
theorem bind_eq_ok {α β : Type} {x : Except Abrupt α} {f : α → Except Abrupt β} {b : β} :
    x >>= f = .ok b ↔ ∃ a, x = .ok a ∧ f a = .ok b := by
  cases x with
  | ok a => simp [bind, Except.bind]
  | error why => simp [bind, Except.bind]

omit [JsonRuntime] in
/-- All failures of an expression are type errors or missing members. -/
def Reads {α : Type} (x : Except Abrupt α) : Prop :=
  ∀ why, x = .error why → why = .throw .jsonTypeError ∨ why = .undefined .missingMember

omit [JsonRuntime] in
theorem reads_pure {α : Type} (a : α) : Reads (pure a : Except Abrupt α) := by
  intro why h
  cases h

omit [JsonRuntime] in
theorem Reads.bind {α β : Type} {x : Except Abrupt α} {f : α → Except Abrupt β} (hx : Reads x)
    (hf : ∀ a, x = .ok a → Reads (f a)) : Reads (x >>= f) := by
  intro why h
  cases hval : x with
  | ok a => exact hf a hval why (by rwa [hval] at h)
  | error e =>
    rw [hval] at h
    cases h
    exact hx why hval

omit [JsonRuntime] in
theorem reads_getString (j : Json) : Reads j.getString := by
  intro why h
  cases j <;> cases h
  all_goals exact .inl rfl

theorem reads_getUInt64 (j : Json) : Reads j.getUInt64 := by
  intro why h
  cases j <;> cases h
  all_goals exact .inl rfl

theorem reads_getInt32 (j : Json) : Reads j.getInt32 := by
  intro why h
  cases j <;> cases h
  all_goals exact .inl rfl

theorem reads_getDouble (j : Json) : Reads j.getDouble := by
  intro why h
  cases j <;> cases h
  all_goals exact .inl rfl

omit [JsonRuntime] in
theorem reads_at? (key : String) (j : Json) : Reads (j.at? key) := by
  intro why h
  cases j with
  | object members =>
    simp only [at?] at h
    split at h <;> cases h
    exact .inr rfl
  | _ =>
    cases h
    exact .inl rfl

omit [JsonRuntime] in
theorem reads_index (key : String) (j : Json) : Reads (j.index key) := by
  intro why h
  cases j with
  | object members =>
    simp only [index] at h
    split at h <;> cases h
  | null => cases h
  | _ =>
    cases h
    exact .inl rfl

omit [JsonRuntime] in
theorem reads_valueOr {α : Type} {get : Json → Except Abrupt α} (hget : ∀ j, Reads (get j))
    (key : String) (default : α) (j : Json) : Reads (j.valueOr get key default) := by
  intro why h
  cases j with
  | object members =>
    simp only [valueOr] at h
    split at h
    · exact hget _ why h
    · cases h
  | _ =>
    cases h
    exact .inl rfl

/-! #### Assigning a member that is given -/

omit [JsonRuntime] in
/-- A statement that reads a member at a type, if it is there, and stores it. -/
def assign {σ α : Type} (j : Json) (key : String) (get : Json → Except Abrupt α)
    (store : α → σ → σ) (s : σ) : Completion σ :=
  match j.find? key with
  | none => .normal s
  | some node => .eval (get node) s fun a => .normal (store a s)

omit [JsonRuntime] in
theorem assign_of_find? {σ α : Type} {j node : Json} {key : String}
    {get : Json → Except Abrupt α} {a : α} (hnode : j.find? key = some node)
    (ha : get node = .ok a) (store : α → σ → σ) (s : σ) :
    j.assign key get store s = .normal (store a s) := by
  unfold assign
  simp only [hnode, ha, Completion.eval_ok]

omit [JsonRuntime] in
/-- A member that is there unless a condition holds. -/
theorem assign_of_ite {σ α : Type} {c : Prop} [Decidable c] {j node : Json} {key : String}
    {get : Json → Except Abrupt α} {a : α} (hnode : j.find? key = if c then none else some node)
    (ha : get node = .ok a) (store : α → σ → σ) (s : σ) :
    j.assign key get store s = .normal (if c then s else store a s) := by
  unfold assign
  rw [hnode]
  split_ifs
  · rfl
  · simp only [ha, Completion.eval_ok]

omit [JsonRuntime] in
/-- A member read at a type. One that is missing, or that cannot be read, leaves what is there. -/
def read {α : Type} (get : Json → Except Abrupt α) (key : String) (current : α) (j : Json) : α :=
  match j.find? key with
  | none => current
  | some node =>
      match get node with
      | .ok a => a
      | .error _ => current

omit [JsonRuntime] in
theorem read_of_find? {α : Type} {get : Json → Except Abrupt α} {key : String} {j node : Json}
    {a : α} (hnode : j.find? key = some node) (ha : get node = .ok a) (current : α) :
    j.read get key current = a := by
  simp only [read, hnode, ha]

omit [JsonRuntime] in
theorem read_of_none {α : Type} {key : String} {j : Json} (h : j.find? key = none)
    (get : Json → Except Abrupt α) (current : α) : j.read get key current = current := by
  simp only [read, h]

/-! #### Sizes -/

omit [JsonRuntime] in
theorem sizeOf_lt_of_mem {key : String} {v : Json} :
    {members : List (String × Json)} → (key, v) ∈ members → sizeOf v < sizeOf members
  | (k, w) :: ms, h => by
      rcases List.mem_cons.mp h with h | h
      · cases h
        simp
        omega
      · have := sizeOf_lt_of_mem h
        simp
        omega

omit [JsonRuntime] in
/-- A member is smaller than its object. -/
theorem sizeOf_lt_of_find? {key : String} {j v : Json} (h : j.find? key = some v) :
    sizeOf v < sizeOf j := by
  cases j <;> simp only [find?, reduceCtorEq] at h
  have := sizeOf_lt_of_mem (Members.mem_of_find? h)
  simp
  omega

omit [JsonRuntime] in
theorem at?_of_find? {key : String} {j v : Json} (h : j.find? key = some v) :
    j.at? key = .ok v := by
  rw [at?_of_isObject (isObject_of_find? h), h]

omit [JsonRuntime] in
theorem find?_of_at? {key : String} {j v : Json} (h : j.at? key = .ok v) :
    j.find? key = some v := by
  cases j <;> simp only [at?, reduceCtorEq] at h
  split at h
  · cases h
    assumption
  · cases h

omit [JsonRuntime] in
/-- A value that a loop over `j` visits is no larger than `j`. -/
theorem sizeOf_le_of_mem_elements {j v : Json} (h : v ∈ j.elements) : sizeOf v ≤ sizeOf j := by
  cases j <;> simp only [elements, List.mem_singleton, List.not_mem_nil] at h
  case array xs =>
    have := List.sizeOf_lt_of_mem h
    simp
    omega
  case object members =>
    obtain ⟨⟨k, w⟩, hmem, rfl⟩ := List.mem_map.mp h
    have := sizeOf_lt_of_mem hmem
    simp
    omega
  all_goals subst h; exact Nat.le_refl _

end Json
