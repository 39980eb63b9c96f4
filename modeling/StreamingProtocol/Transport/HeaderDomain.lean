import StreamingProtocol.Transport.ReadLoop

/-!
# The domain of the transport header

The fields of a header word are joined without masks, and the writer checks neither the signal
number nor the size. This file determines the numbers and sizes for which the reader finds what was
written, and takes exactly the octets of the header off the stream: the numbers that fit to their
field, and the sizes other than 0 that fit to the additional word. Nothing else happens to work,
whatever follows the header.

## Main definitions

* `transportHeader`, `transportHeaderSize`: the octets of a header and their number.
* `readHeader`: the requests of the reader up to the one for the payload.
* `Recovers`: the reader finds the type, the signal number and the size.

## Main results

* `nextBlock_eq_readHeader`: the reader of a block begins with its header.
* `recovers_iff`.
-/

namespace StreamingProtocol

open ByteString

/-! ### The header on the stream -/

/-- The octets of the words that `StreamWriter::createTransportHeader` writes. -/
def transportHeader (type : TransportType) (signalNumber : UInt32) (size : UInt64) : Bytes :=
  (createTransportHeader type signalNumber size).flatMap wordBytes

/-- The number of octets that `StreamWriter::createTransportHeader` returns. -/
def transportHeaderSize (size : UInt64) : ℕ := if size ≤ 0xff then 4 else 2 * 4

theorem length_transportHeader (type : TransportType) (signalNumber : UInt32) (size : UInt64) :
    (transportHeader type signalNumber size).length = transportHeaderSize size := by
  unfold transportHeader createTransportHeader transportHeaderSize
  split_ifs <;> simp

/-- The handler when it requests the payload, and what is left of the stream. -/
def readHeader (stream : Bytes) : Option (Receiver × Bytes) := do
  let (data, stream) ← takeExact 4 stream
  let r := Receiver.initial.onHeader data
  if r.pending = .onAdditionalLength then
    let (data, stream) ← takeExact 4 stream
    return (r.onAdditionalLength data, stream)
  else
    return (r, stream)

/-! ### What is read -/

section ReadHeader

variable {stream data rest : Bytes} {r : Receiver}

/-- The handler waits for another word if the size field of the header is empty. -/
theorem pending_onHeader_eq_iff (data : Bytes) :
    (Receiver.initial.onHeader data).pending = .onAdditionalLength ↔
      headerLength (wordOfBytes data) = 0 := by
  by_cases hlength : headerLength (wordOfBytes data) = 0 <;> simp [Receiver.onHeader, hlength]

/-- A header whose size field is not empty is one word. -/
theorem readHeader_of_length_ne (h : takeExact 4 stream = some (data, rest))
    (hlength : headerLength (wordOfBytes data) ≠ 0) :
    readHeader stream = some (Receiver.initial.onHeader data, rest) := by
  have hpending := mt (pending_onHeader_eq_iff data).mp hlength
  simp only [readHeader, h, Option.bind_eq_bind, Option.bind_some, hpending, if_false]
  rfl

/-- A header whose size field is empty has another word. -/
theorem readHeader_of_length_eq (h : takeExact 4 stream = some (data, rest))
    (hlength : headerLength (wordOfBytes data) = 0) :
    readHeader stream = (takeExact 4 rest).map fun p =>
      ((Receiver.initial.onHeader data).onAdditionalLength p.1, p.2) := by
  have hpending := (pending_onHeader_eq_iff data).mpr hlength
  simp only [readHeader, h, Option.bind_eq_bind, Option.bind_some, hpending, if_true]
  cases takeExact 4 rest <;> rfl

/-- The reader of a block reads the header and then the payload. -/
theorem nextBlock_eq_readHeader (stream : Bytes) : nextBlock stream = do
    let (r, stream) ← readHeader stream
    let (payload, stream) ← takeExact r.length.toNat stream
    return (r.block payload, stream) := by
  cases hword : takeExact 4 stream with
  | none => simp only [nextBlock, readHeader, hword, Option.bind_eq_bind, Option.bind_none]
  | some p =>
    obtain ⟨data, rest⟩ := p
    simp only [nextBlock, nextLength, hword, Option.bind_eq_bind, Option.bind_some]
    by_cases hlength : headerLength (wordOfBytes data) = 0
    · rw [readHeader_of_length_eq hword hlength, if_pos hlength]
      cases takeExact 4 rest <;> rfl
    · rw [readHeader_of_length_ne hword hlength, if_neg hlength]
      rfl

/-- The signal number that is read fits to its field. -/
theorem signalNumber_lt_of_readHeader (h : readHeader stream = some (r, rest)) :
    r.signalNumber.toNat < 2 ^ 20 := by
  have hfield (word : UInt32) : (headerSignalNumber word).toNat < 2 ^ 20 := by
    rw [headerSignalNumber_toNat]
    exact Nat.mod_lt _ (by norm_num)
  cases hword : takeExact 4 stream with
  | none =>
    rw [readHeader, hword] at h
    cases h
  | some p =>
    obtain ⟨data, rest'⟩ := p
    by_cases hlength : headerLength (wordOfBytes data) = 0
    · rw [readHeader_of_length_eq hword hlength] at h
      obtain ⟨p, -, heq⟩ := Option.map_eq_some_iff.mp h
      cases heq
      exact hfield _
    · rw [readHeader_of_length_ne hword hlength] at h
      cases h
      exact hfield _

end ReadHeader

/-- The reader finds the type, the signal number and the size that were written, and takes the
octets of the header off the stream. -/
def Recovers (type : TransportType) (signalNumber : UInt32) (size : UInt64) (further : Bytes) :
    Prop :=
  let stream := transportHeader type signalNumber size ++ further
  ∃ r, readHeader stream = some (r, stream.drop (transportHeaderSize size)) ∧
    r.type = type.code ∧ r.signalNumber = signalNumber ∧ r.length.toNat = size.toNat

variable {type : TransportType} {signalNumber : UInt32} {size : UInt64} {further : Bytes}

/-- The words of a header are followed by what is behind the header. -/
theorem drop_transportHeader :
    (transportHeader type signalNumber size ++ further).drop (transportHeaderSize size) =
      further :=
  List.drop_left' (length_transportHeader ..)

/-- The first word of a header is read first. -/
theorem takeExact_transportHeader {header : UInt32} {words : List UInt32}
    (hwords : createTransportHeader type signalNumber size = header :: words) :
    takeExact 4 (transportHeader type signalNumber size ++ further) =
      some (wordBytes header, words.flatMap wordBytes ++ further) := by
  rw [transportHeader, hwords, List.flatMap_cons, List.append_assoc]
  exact takeExact_append (length_wordBytes header) _

/-- A size that fits to the field of the header. -/
theorem recovers_short (hn : signalNumber.toNat < 2 ^ 20) (hpos : 1 ≤ size.toNat)
    (hsize : size.toNat < 2 ^ 8) : Recovers type signalNumber size further := by
  obtain ⟨header, hwords, hnumber, htype, hlength⟩ := createTransportHeader_short type hn hsize
  have hne : headerLength (wordOfBytes (wordBytes header)) ≠ 0 := fun h => by
    rw [wordOfBytes_wordBytes] at h
    rw [h] at hlength
    change 0 = _ at hlength
    omega
  rw [Recovers, drop_transportHeader]
  refine ⟨_, readHeader_of_length_ne (takeExact_transportHeader hwords) hne, ?_, ?_, ?_⟩
  all_goals
    simp only [Receiver.onHeader, wordOfBytes_wordBytes]
    assumption

/-- A size that fits to the additional word. -/
theorem recovers_long (hn : signalNumber.toNat < 2 ^ 20) (hlong : 2 ^ 8 ≤ size.toNat)
    (hsize : size.toNat < 2 ^ 32) : Recovers type signalNumber size further := by
  obtain ⟨header, hwords, hnumber, htype, hlength⟩ := createTransportHeader_long type hn hlong
  have hzero : headerLength (wordOfBytes (wordBytes header)) = 0 := by
    rw [wordOfBytes_wordBytes, hlength]
  have hread : readHeader (transportHeader type signalNumber size ++ further) =
      some ((Receiver.initial.onHeader (wordBytes header)).onAdditionalLength
        (wordBytes size.toUInt32), further) := by
    rw [readHeader_of_length_eq (takeExact_transportHeader hwords) hzero, List.flatMap_singleton,
      takeExact_append (length_wordBytes size.toUInt32)]
    rfl
  rw [Recovers, drop_transportHeader]
  refine ⟨_, hread, ?_, ?_, ?_⟩
  · simp only [Receiver.onHeader, Receiver.onAdditionalLength, wordOfBytes_wordBytes]
    exact htype
  · simp only [Receiver.onHeader, Receiver.onAdditionalLength, wordOfBytes_wordBytes]
    exact hnumber
  · simp only [Receiver.onAdditionalLength, wordOfBytes_wordBytes]
    rw [UInt64.toNat_toUInt32, Nat.mod_eq_of_lt hsize]

/-- The header of an empty payload is read with four more octets. -/
theorem not_recovers_zero (hn : signalNumber.toNat < 2 ^ 20) (hsize : size.toNat = 0) :
    ¬ Recovers type signalNumber size further := by
  have hshort : size.toNat < 2 ^ 8 := by omega
  obtain ⟨header, hwords, -, -, hlength⟩ := createTransportHeader_short type hn hshort
  have hzero : headerLength (wordOfBytes (wordBytes header)) = 0 := by
    rw [wordOfBytes_wordBytes]
    exact UInt32.toNat_inj.mp (hlength.trans hsize)
  rw [Recovers, drop_transportHeader]
  rintro ⟨r, hread, -⟩
  rw [readHeader_of_length_eq (takeExact_transportHeader hwords) hzero, List.flatMap_nil,
    List.nil_append] at hread
  obtain ⟨⟨word, rest⟩, hword, heq⟩ := Option.map_eq_some_iff.mp hread
  obtain ⟨hfour, happend⟩ := takeExact_eq_some hword
  have hrest : rest = further := (Prod.ext_iff.mp heq).2
  have hlonger := congrArg List.length happend
  rw [hrest, List.length_append] at hlonger
  omega

/-- **The domain of the transport header.** The reader finds what was written, and takes the header
off the stream, if and only if the signal number has at most 20 bits and the size is not 0 and has
at most 32 bits, whatever follows the header. -/
theorem recovers_iff (type : TransportType) (signalNumber : UInt32) (size : UInt64)
    (further : Bytes) : Recovers type signalNumber size further ↔
      signalNumber.toNat < 2 ^ 20 ∧ 1 ≤ size.toNat ∧ size.toNat < 2 ^ 32 := by
  constructor
  · intro h
    obtain ⟨r, hread, -, hnumber, hlength⟩ := id h
    have hn : signalNumber.toNat < 2 ^ 20 := hnumber ▸ signalNumber_lt_of_readHeader hread
    refine ⟨hn, ?_, ?_⟩
    · by_contra hzero
      exact not_recovers_zero hn (by omega) h
    · rw [← hlength]
      exact r.length.toNat_lt
  · rintro ⟨hn, hpos, hsize⟩
    by_cases hshort : size.toNat < 2 ^ 8
    · exact recovers_short hn hpos hshort
    · exact recovers_long hn (by omega) hsize

end StreamingProtocol
