import StreamingProtocol.Foundation.Json
import StreamingProtocol.Transport.Header

/-!
# Writing blocks

The stream writer puts a transport header in front of every payload and hands the pieces to the
stream, which appends them. Meta information is a document encoded as MessagePack, behind one word
that names this encoding; signal data is any string of octets.

## Main definitions

* `Block`: the type, the signal number and the payload of one block.
* `writeMsgPackMetaInformation`, `writeSignalData`: the octets written for one block.
* `WriterCall`, `WriterCall.written`, `WriterCall.block`: a call of the writer, what it writes and
  the block it stands for.
-/

namespace StreamingProtocol

open ByteString

/-- One block as it enters the presentation layer. -/
structure Block where
  type : UInt32
  signalNumber : UInt32
  payload : Bytes
deriving DecidableEq, Repr

/-- The encoding of meta information: MessagePack. -/
def metainformationMsgpack : UInt32 := 2

/-- The transport header of a payload, as octets. -/
def headerBytes (type : TransportType) (signalNumber : UInt32) (length : ℕ) : Bytes :=
  (createTransportHeader type signalNumber (UInt64.ofNat length)).flatMap wordBytes

/-- `StreamWriter::writeMsgPackMetaInformation`: header, encoding and encoded document. -/
def writeMsgPackMetaInformation (signalNumber : UInt32) (data : Bytes) : Bytes :=
  headerBytes .metaInformation signalNumber (data.length + 4) ++
    (wordBytes metainformationMsgpack ++ data)

/-- `StreamWriter::writeMetaInformation`. -/
def writeMetaInformation [Msgpack] (signalNumber : UInt32) (doc : Json) : Bytes :=
  writeMsgPackMetaInformation signalNumber (Msgpack.toMsgpack doc)

/-- `StreamWriter::writeSignalData`: header and data. -/
def writeSignalData (signalNumber : UInt32) (data : Bytes) : Bytes :=
  headerBytes .signalData signalNumber data.length ++ data

/-- A call of the stream writer. -/
inductive WriterCall where
  | writeMetaInformation (signalNumber : UInt32) (doc : Json)
  | writeSignalData (signalNumber : UInt32) (data : Bytes)

namespace WriterCall

variable [Msgpack]

/-- The octets that a call appends to the stream. -/
def written : WriterCall → Bytes
  | writeMetaInformation n doc => StreamingProtocol.writeMetaInformation n doc
  | writeSignalData n data => StreamingProtocol.writeSignalData n data

omit [Msgpack] in
def type : WriterCall → TransportType
  | writeMetaInformation _ _ => .metaInformation
  | writeSignalData _ _ => .signalData

omit [Msgpack] in
def signalNumber : WriterCall → UInt32
  | writeMetaInformation n _ => n
  | writeSignalData n _ => n

/-- What a call puts behind the transport header. -/
def payload : WriterCall → Bytes
  | writeMetaInformation _ doc => wordBytes metainformationMsgpack ++ Msgpack.toMsgpack doc
  | writeSignalData _ data => data

/-- The block that a call stands for. -/
def block (c : WriterCall) : Block :=
  ⟨c.type.code, c.signalNumber, c.payload⟩

/-- A call writes the transport header of its payload and the payload. -/
theorem written_eq (c : WriterCall) :
    c.written = headerBytes c.type c.signalNumber c.payload.length ++ c.payload := by
  cases c with
  | writeMetaInformation n doc =>
    have hlength : (wordBytes metainformationMsgpack ++ Msgpack.toMsgpack doc).length =
        (Msgpack.toMsgpack doc).length + 4 := by
      rw [List.length_append, length_wordBytes, Nat.add_comm]
    change _ =
      headerBytes _ _ (wordBytes metainformationMsgpack ++ Msgpack.toMsgpack doc).length ++ _
    rw [hlength]
    rfl
  | writeSignalData n data => rfl

/-- Only signal data can have an empty payload. -/
theorem payload_eq_nil_iff (c : WriterCall) :
    c.payload = [] ↔ ∃ n, c = writeSignalData n [] := by
  cases c with
  | writeMetaInformation n doc =>
    refine iff_of_false (fun h => ?_) fun ⟨_, h⟩ => by cases h
    have hlength : (wordBytes metainformationMsgpack).length = 0 := by
      rw [(List.append_eq_nil_iff.mp h).1, List.length_nil]
    simp at hlength
  | writeSignalData n data =>
    constructor
    · rintro rfl
      exact ⟨n, rfl⟩
    · rintro ⟨m, h⟩
      cases h
      rfl

end WriterCall

end StreamingProtocol
