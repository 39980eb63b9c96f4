import StreamingProtocol.Foundation.TransportedDocuments

/-!
# Packed documents

The MessagePack encoding of small documents: texts, arrays and objects whose sizes fit into
the octet of their type, and numbers. The runs of examples are carried by it.

## Main definitions

* `Json.packed`: the octets of a document.
* `packedMsgpack`: an encoding of the documents of a list.

## Main results

* `fromMsgpack_packed`: the documents are read back.
-/

open ByteString

namespace Json

/-- The octets of a number, the highest first. -/
def bigEndian (size n : ℕ) : Bytes := (leBytes size n).reverse

/-- The octets of an unsigned integer. -/
def packedUnsigned (n : UInt64) : Bytes :=
  if n < 128 then [n.toUInt8]
  else if n < 256 then 0xcc :: bigEndian 1 n.toNat
  else if n < 65536 then 0xcd :: bigEndian 2 n.toNat
  else if n < 4294967296 then 0xce :: bigEndian 4 n.toNat
  else 0xcf :: bigEndian 8 n.toNat

/-- The octets of a negative integer. -/
def packedNegative (n : Int64) : Bytes :=
  if -32 ≤ n then [n.toUInt64.toUInt8]
  else if -128 ≤ n then 0xd0 :: bigEndian 1 n.toUInt64.toNat
  else if -32768 ≤ n then 0xd1 :: bigEndian 2 n.toUInt64.toNat
  else if -2147483648 ≤ n then 0xd2 :: bigEndian 4 n.toUInt64.toNat
  else 0xd3 :: bigEndian 8 n.toUInt64.toNat

/-- The octets of a text of ASCII characters. -/
def packedText (s : String) : Bytes :=
  (if s.length < 32 then [UInt8.ofNat (0xa0 + s.length)] else [0xd9, UInt8.ofNat s.length]) ++
    s.toList.map fun c => UInt8.ofNat c.toNat

mutual

/-- The octets of a document. -/
def packed : Json → Bytes
  | null => [0xc0]
  | boolean b => [if b then 0xc3 else 0xc2]
  | numberUnsigned n => packedUnsigned n
  | numberInteger n => if 0 ≤ n then packedUnsigned n.toUInt64 else packedNegative n
  | numberFloat x => 0xcb :: bigEndian 8 x.bits.toNat
  | string s => packedText s
  | array elements => UInt8.ofNat (0x90 + elements.length) :: packedElements elements
  | object members => UInt8.ofNat (0x80 + members.length) :: packedMembers members
  | binary data => 0xc4 :: bigEndian 1 data.length ++ data

def packedElements : List Json → Bytes
  | [] => []
  | j :: elements => packed j ++ packedElements elements

def packedMembers : List (String × Json) → Bytes
  | [] => []
  | m :: members => packedMember m ++ packedMembers members

def packedMember : String × Json → Bytes
  | (key, j) => packedText key ++ packed j

end

end Json

/-- The encoding of the documents of a list. -/
@[reducible] def packedMsgpack (documents : List Json) : Msgpack where
  toMsgpack := Json.packed
  fromMsgpack data := (documents.find? fun doc => doc.packed = data).map Json.transported

/-- The documents of a list are read back if no two of them have the same octets. -/
theorem fromMsgpack_packed {documents : List Json} (hdistinct : (documents.map Json.packed).Nodup)
    {doc : Json} (hdoc : doc ∈ documents) :
    (packedMsgpack documents).fromMsgpack doc.packed = some doc.transported := by
  have hfind : (documents.find? fun d => d.packed = doc.packed) = some doc := by
    induction documents with
    | nil => cases hdoc
    | cons d documents ih =>
      rw [List.map_cons, List.nodup_cons] at hdistinct
      rcases List.mem_cons.mp hdoc with rfl | hdoc
      · exact List.find?_cons_of_pos (decide_eq_true rfl)
      · have hne : d.packed ≠ doc.packed := fun h =>
          hdistinct.1 (h ▸ List.mem_map_of_mem hdoc)
        rw [List.find?_cons_of_neg (by simpa using hne)]
        exact ih hdistinct.2 hdoc
  exact congrArg (Option.map Json.transported) hfind
