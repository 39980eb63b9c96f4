import StreamingProtocol.Foundation.Json
import Mathlib.Tactic.Common

/-!
# Documents that are transported

A binary encoding of documents keeps the value of an integer, but not whether the integer was
unsigned or signed: one that is not negative is read back as an unsigned one. All else is read back
as it was written. Every way to look at a document finds the same in both, up to the documents that
it finds.

## Main definitions

* `Json.transported`: the document that is read back.
* `LawfulJsonRuntime`: the operations that do not tell the two apart.

## Main results

* `Json.find?_transported`, `Json.index_transported`, `Json.elements_transported`.
* `Json.getUInt64_transported`, `Json.getInt32_transported`, `Json.getDouble_transported`.
-/

namespace Json

mutual

/-- The document that is read back. -/
def transported : Json → Json
  | numberInteger n => if 0 ≤ n then numberUnsigned n.toUInt64 else numberInteger n
  | array elements => array (transportedElements elements)
  | object members => object (transportedMembers members)
  | j => j

def transportedElements : List Json → List Json
  | [] => []
  | j :: elements => transported j :: transportedElements elements

def transportedMembers : List (String × Json) → List (String × Json)
  | [] => []
  | m :: members => transportedMember m :: transportedMembers members

def transportedMember : String × Json → String × Json
  | (key, j) => (key, transported j)

end

theorem transportedElements_eq_map (elements : List Json) :
    transportedElements elements = elements.map transported := by
  induction elements with
  | nil => rfl
  | cons j elements ih => rw [transportedElements, ih, List.map_cons]

/-! ### Types, members and elements -/

/-- What does not tell an unsigned integer from a signed one with the same value. -/
theorem transported_numberInteger {α : Type} {f : Json → α} (n : Int64)
    (h : 0 ≤ n → f (numberUnsigned n.toUInt64) = f (numberInteger n)) :
    f (numberInteger n).transported = f (numberInteger n) := by
  rw [transported]
  split_ifs with hn
  · exact h hn
  · rfl

@[simp] theorem isNull_transported (j : Json) : j.transported.isNull = j.isNull := by
  cases j with
  | numberInteger n => exact transported_numberInteger n fun _ => rfl
  | _ => rfl

@[simp] theorem isString_transported (j : Json) : j.transported.isString = j.isString := by
  cases j with
  | numberInteger n => exact transported_numberInteger n fun _ => rfl
  | _ => rfl

@[simp] theorem isNumber_transported (j : Json) : j.transported.isNumber = j.isNumber := by
  cases j with
  | numberInteger n => exact transported_numberInteger n fun _ => rfl
  | _ => rfl

@[simp] theorem isObject_transported (j : Json) : j.transported.isObject = j.isObject := by
  cases j with
  | numberInteger n => exact transported_numberInteger n fun _ => rfl
  | _ => rfl

theorem find?_transportedMembers (key : String) (members : Members Json) :
    Members.find? key (transportedMembers members) =
      (Members.find? key members).map transported := by
  induction members with
  | nil => rfl
  | cons m members ih =>
    obtain ⟨k, j⟩ := m
    rw [transportedMembers, transportedMember, Members.find?_cons, Members.find?_cons, ih]
    split_ifs <;> rfl

/-- The members of a document. -/
@[simp] theorem find?_transported (key : String) (j : Json) :
    j.transported.find? key = (j.find? key).map transported := by
  cases j with
  | numberInteger n => exact transported_numberInteger n fun _ => rfl
  | object members => exact find?_transportedMembers key members
  | _ => rfl

theorem at?_transported (key : String) (j : Json) :
    j.transported.at? key = (j.at? key).map transported := by
  cases j with
  | numberInteger n => exact transported_numberInteger n fun _ => rfl
  | object members =>
    rw [transported, at?, at?, find?_transportedMembers]
    cases Members.find? key members <;> rfl
  | _ => rfl

theorem set_transportedMembers (key : String) (value : Json) (members : Members Json) :
    Members.set key value.transported (transportedMembers members) =
      transportedMembers (Members.set key value members) := by
  induction members with
  | nil => rfl
  | cons m members ih =>
    obtain ⟨k, j⟩ := m
    rw [transportedMembers, transportedMember, Members.set, Members.set, ih]
    split_ifs <;> rfl

theorem index_transported (key : String) (j : Json) :
    j.transported.index key =
      (j.index key).map fun read => (read.1.transported, read.2.transported) := by
  cases j with
  | numberInteger n => exact transported_numberInteger n fun _ => rfl
  | object members =>
    rw [transported, index, index, find?_transportedMembers]
    cases Members.find? key members with
    | some v => rfl
    | none =>
      show Except.ok (object (Members.set key null.transported _), _) = _
      rw [set_transportedMembers]
      rfl
  | _ => rfl

theorem elements_transported (j : Json) :
    j.transported.elements = j.elements.map transported := by
  cases j with
  | numberInteger n =>
    rw [transported]
    split_ifs with hn
    · exact congrArg (fun x => [x]) (if_pos hn).symm
    · exact congrArg (fun x => [x]) (if_neg hn).symm
  | array elements => exact transportedElements_eq_map elements
  | object members =>
    show (transportedMembers members).map Prod.snd = (members.map Prod.snd).map transported
    induction members with
    | nil => rfl
    | cons m members ih =>
      obtain ⟨k, j⟩ := m
      rw [transportedMembers, transportedMember, List.map_cons, ih]
      rfl
  | _ => rfl

/-! ### Reading at a type -/

@[simp] theorem getString_transported (j : Json) : j.transported.getString = j.getString := by
  cases j with
  | numberInteger n => exact transported_numberInteger n fun _ => rfl
  | _ => rfl

/-- The lower half of an integer. -/
theorem toInt32_toUInt64 (n : Int64) : n.toUInt64.toUInt32.toInt32 = n.toInt32 := by
  apply Int32.toBitVec_inj.mp
  show n.toBitVec.setWidth 32 = n.toBitVec.signExtend 32
  exact (BitVec.signExtend_eq_setWidth_of_le _ (by decide)).symm

section Numbers

variable [JsonRuntime]

@[simp] theorem getUInt64_transported (j : Json) : j.transported.getUInt64 = j.getUInt64 := by
  cases j with
  | numberInteger n => exact transported_numberInteger n fun _ => rfl
  | _ => rfl

@[simp] theorem getInt32_transported (j : Json) : j.transported.getInt32 = j.getInt32 := by
  cases j with
  | numberInteger n =>
    exact transported_numberInteger n fun _ => congrArg Except.ok (toInt32_toUInt64 n)
  | _ => rfl

end Numbers

theorem valueOr_transported {α : Type} {get : Json → Except Abrupt α}
    (hget : ∀ j : Json, get j.transported = get j) (key : String) (default : α) (j : Json) :
    j.transported.valueOr get key default = j.valueOr get key default := by
  cases j with
  | numberInteger n => exact transported_numberInteger n fun _ => rfl
  | object members =>
    rw [transported, valueOr, valueOr, find?_transportedMembers]
    cases Members.find? key members with
    | none => rfl
    | some v => exact hget v
  | _ => rfl

/-- A statement that reads a member at a type. -/
theorem assign_transported {σ α : Type} {get : Json → Except Abrupt α}
    (hget : ∀ j : Json, get j.transported = get j) (key : String) (store : α → σ → σ) (j : Json) :
    j.transported.assign key get store = j.assign key get store := by
  funext s
  unfold assign
  rw [find?_transported]
  cases j.find? key with
  | none => rfl
  | some node => simp only [Option.map_some, hget]

end Json

/-- The operations on integers do not tell an unsigned one from a signed one. -/
class LawfulJsonRuntime [JsonRuntime] : Prop where
  doubleOfInt64 (n : Int64) : 0 ≤ n →
    JsonRuntime.doubleOfInt64 n = JsonRuntime.doubleOfUInt64 n.toUInt64
  dump_transported (j : Json) : JsonRuntime.dump j.transported = JsonRuntime.dump j

theorem lawful_decimalRuntime : @LawfulJsonRuntime decimalRuntime := by
  let _ : JsonRuntime := decimalRuntime
  refine ⟨fun _ _ => rfl, fun j => ?_⟩
  cases j with
  | numberInteger n =>
    refine Json.transported_numberInteger n fun hn => congrArg some ?_
    have hvalue : n.toInt = (n.toUInt64.toNat : Int) := by
      rw [Int64.toNat_toUInt64_of_le hn, ← Int64.toNat_toInt]
      exact (Int.toNat_of_nonneg (Int64.le_iff_toInt_le.mp hn)).symm
    rw [hvalue]
    rfl
  | _ => rfl

namespace Json

variable [JsonRuntime] [LawfulJsonRuntime]

@[simp] theorem getDouble_transported (j : Json) : j.transported.getDouble = j.getDouble := by
  cases j with
  | numberInteger n =>
    exact transported_numberInteger n fun hn =>
      congrArg Except.ok (LawfulJsonRuntime.doubleOfInt64 n hn).symm
  | _ => rfl

@[simp] theorem text_transported (j : Json) : j.transported.text = j.text := by
  rw [text, text, LawfulJsonRuntime.dump_transported]

end Json
