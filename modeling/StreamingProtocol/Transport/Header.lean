import StreamingProtocol.Foundation.BitFields
import StreamingProtocol.Foundation.Bytes

/-!
# The header of a block

A block on the transport layer starts with one word that holds the number of the signal in its 20
lowest bits, the length of the payload in the 8 bits above and the type of the payload in the 2
bits above these. A payload too long for the 8 bits has its length in an additional word, and the
field of the header is 0 then. The writer builds these words in
`StreamWriter::createTransportHeader` and the reader takes them apart in
`ProtocolHandler::onHeader`, with the masks and shifts of `Defines.h`.

A block without payload is where the two differ: the writer puts its length 0 into the header and
adds no word, the reader expects the additional word.

## Main definitions

* `TransportType`, `createTransportHeader`: what the writer puts in front of a payload.
* `headerSignalNumber`, `headerType`, `headerLength`: the fields the reader cuts out of a word.

## Main results

* `headerSignalNumber_toNat`, `headerType_toNat`, `headerLength_toNat`: the fields of any word.
* `createTransportHeader_short`, `createTransportHeader_long`: the words the writer builds.
-/

namespace StreamingProtocol

open ByteString

/-! ### Layout of the header word -/

def signalNumberMask : UInt32 := 0x000fffff
def typeMask : UInt32 := 0x30000000
def typeShift : UInt32 := 28
def sizeMask : UInt32 := 0x0ff00000
def sizeShift : UInt32 := 20

/-- The types of payload that are written. -/
inductive TransportType where
  | signalData
  | metaInformation
deriving DecidableEq, Repr

def TransportType.code : TransportType → UInt32
  | signalData => 1
  | metaInformation => 2

/-! ### Writing a header -/

/-- `StreamWriter::createTransportHeader`: the words in front of a payload of `size` octets. The
size is joined to the header in 64 bits and the result cut to 32. -/
def createTransportHeader (type : TransportType) (signalNumber : UInt32) (size : UInt64) :
    List UInt32 :=
  let header := signalNumber ||| (type.code <<< typeShift)
  if size ≤ 0xff then
    [(header.toUInt64 ||| (size <<< sizeShift.toUInt64)).toUInt32]
  else
    [header, size.toUInt32]

/-- The octets of a word, which is stored in little-endian byte order. -/
def wordBytes (w : UInt32) : Bytes := leBytes 4 w.toNat

@[simp] theorem length_wordBytes (w : UInt32) : (wordBytes w).length = 4 :=
  length_leBytes 4 _

/-- The word a string of octets holds. -/
def wordOfBytes (bs : Bytes) : UInt32 := UInt32.ofNat (leValue bs)

@[simp] theorem wordOfBytes_wordBytes (w : UInt32) : wordOfBytes (wordBytes w) = w := by
  have h : w.toNat < 256 ^ 4 := w.toNat_lt
  rw [wordOfBytes, wordBytes, leValue_leBytes_of_lt h, UInt32.ofNat_toNat]

/-! ### Reading a header -/

def headerSignalNumber (header : UInt32) : UInt32 := header &&& signalNumberMask

def headerType (header : UInt32) : UInt32 := (header &&& typeMask) >>> typeShift

def headerLength (header : UInt32) : UInt32 := (header &&& sizeMask) >>> sizeShift

theorem headerSignalNumber_toNat (header : UInt32) :
    (headerSignalNumber header).toNat = header.toNat % 2 ^ 20 := by
  have h : ((header &&& signalNumberMask) >>> 0).toNat = header.toNat / 2 ^ 0 % 2 ^ 20 :=
    header.toNat_field rfl rfl (by decide)
  simpa [headerSignalNumber] using h

theorem headerType_toNat (header : UInt32) :
    (headerType header).toNat = header.toNat / 2 ^ 28 % 2 ^ 2 :=
  header.toNat_field rfl rfl (by decide)

theorem headerLength_toNat (header : UInt32) :
    (headerLength header).toNat = header.toNat / 2 ^ 20 % 2 ^ 8 :=
  header.toNat_field rfl rfl (by decide)

/-! ### The words written -/

theorem TransportType.code_lt (type : TransportType) : type.code.toNat < 2 ^ 2 := by
  cases type <;> decide

theorem TransportType.code_ne_zero (type : TransportType) : type.code ≠ 0 := by
  cases type <;> decide

theorem TransportType.code_injective : Function.Injective TransportType.code := by
  intro a b h
  cases a <;> cases b <;> first | rfl | exact absurd h (by decide)

/-- The fields of a word in which a number below `2 ^ 20`, a size below `2 ^ 8` and a type are put
together. -/
theorem header_fields {header : UInt32} {n s : ℕ} (type : TransportType) (hn : n < 2 ^ 20)
    (hs : s < 2 ^ 8) (h : header.toNat = n + s * 2 ^ 20 + type.code.toNat * 2 ^ 28) :
    (headerSignalNumber header).toNat = n ∧ headerType header = type.code ∧
      (headerLength header).toNat = s := by
  have ht := type.code_lt
  refine ⟨?_, ?_, ?_⟩
  · rw [headerSignalNumber_toNat]
    omega
  · apply UInt32.toNat_inj.mp
    rw [headerType_toNat]
    omega
  · rw [headerLength_toNat]
    omega

theorem TransportType.toNat_code_shiftLeft (type : TransportType) :
    (type.code <<< typeShift).toNat = type.code.toNat <<< 28 := by
  cases type <;> rfl

/-- A payload of at most 255 octets has one header word, which holds its size. -/
theorem createTransportHeader_short (type : TransportType) {signalNumber : UInt32} {size : UInt64}
    (hn : signalNumber.toNat < 2 ^ 20) (hs : size.toNat < 2 ^ 8) :
    ∃ header : UInt32, createTransportHeader type signalNumber size = [header] ∧
      (headerSignalNumber header) = signalNumber ∧ headerType header = type.code ∧
      (headerLength header).toNat = size.toNat := by
  have hle : size ≤ 0xff := UInt64.le_iff_toNat_le.mpr (by change size.toNat ≤ 255; omega)
  have ht := type.code_lt
  have hshift : (size <<< sizeShift.toUInt64).toNat = size.toNat <<< 20 := by
    rw [UInt64.toNat_shiftLeft, Nat.mod_eq_of_lt]
    · rfl
    · change size.toNat <<< 20 < 2 ^ 64
      rw [Nat.shiftLeft_eq]
      omega
  have hlow : signalNumber.toNat ||| size.toNat <<< 20 =
      signalNumber.toNat + size.toNat * 2 ^ 20 := Nat.or_shiftLeft_eq_add hn _
  have hvalue : ((signalNumber ||| (type.code <<< typeShift)).toUInt64 |||
      (size <<< sizeShift.toUInt64)).toUInt32.toNat =
      signalNumber.toNat + size.toNat * 2 ^ 20 + type.code.toNat * 2 ^ 28 := by
    rw [UInt64.toNat_toUInt32, UInt64.toNat_or, hshift, UInt32.toNat_toUInt64, UInt32.toNat_or,
      type.toNat_code_shiftLeft, Nat.or_right_comm, hlow, Nat.or_shiftLeft_eq_add (by omega),
      Nat.mod_eq_of_lt (by omega)]
  obtain ⟨h₁, h₂, h₃⟩ := header_fields type hn hs hvalue
  exact ⟨_, by rw [createTransportHeader, if_pos hle], UInt32.toNat_inj.mp h₁, h₂, h₃⟩

/-- A payload of more than 255 octets has a header word with an empty size field, and its size in
the word that follows. -/
theorem createTransportHeader_long (type : TransportType) {signalNumber : UInt32} {size : UInt64}
    (hn : signalNumber.toNat < 2 ^ 20) (hs : 2 ^ 8 ≤ size.toNat) :
    ∃ header : UInt32, createTransportHeader type signalNumber size = [header, size.toUInt32] ∧
      (headerSignalNumber header) = signalNumber ∧ headerType header = type.code ∧
      headerLength header = 0 := by
  have hle : ¬ size ≤ 0xff := fun h => by
    have : size.toNat ≤ 255 := UInt64.le_iff_toNat_le.mp h
    omega
  have hvalue : (signalNumber ||| (type.code <<< typeShift)).toNat =
      signalNumber.toNat + 0 * 2 ^ 20 + type.code.toNat * 2 ^ 28 := by
    rw [UInt32.toNat_or, type.toNat_code_shiftLeft, Nat.or_shiftLeft_eq_add (by omega)]
    ring
  obtain ⟨h₁, h₂, h₃⟩ := header_fields type hn (by norm_num) hvalue
  exact ⟨_, by rw [createTransportHeader, if_neg hle], UInt32.toNat_inj.mp h₁, h₂,
    UInt32.toNat_inj.mp h₃⟩

end StreamingProtocol
