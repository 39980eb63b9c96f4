import StreamingProtocol.Transport.ReadLoop

/-!
# Round trip of the transport layer

What the stream writer appends to the stream, the read loop takes off again: a run of calls with
signal numbers below `2 ^ 20` and payloads below `2 ^ 32` octets is read back as the same sequence
of blocks, in order and with no octet left over, if and only if no call writes an empty payload.
The header of an empty payload has an empty size field, which the reader takes for an announcement
of the additional length; it then reads the next header as that length, so this block is lost with
all that follow it.

## Main definitions

* `ReadBack`: the blocks written by a run of calls enter `onPayload` one by one.

## Main results

* `nextBlock_written`: a payload that is not empty is taken back.
* `payload_ne_nil_of_nextBlock`: an empty payload is not.
* `readBack_iff`: the round trip of a run of calls.
-/

namespace StreamingProtocol

open ByteString

/-- The read loop, on what the calls write, enters `onPayload` with their blocks, in order, and
leaves no octet over. -/
def ReadBack [Msgpack] (calls : List WriterCall) : Prop :=
  (readLoop .initial (calls.flatMap WriterCall.written)).1 = calls.map WriterCall.block ∧
    (readLoop .initial (calls.flatMap WriterCall.written)).2.2 = []

/-! ### One block -/

theorem toNat_length_of_lt {length : ℕ} (h : length < 2 ^ 32) :
    (UInt64.ofNat length).toNat = length ∧ (UInt64.ofNat length).toUInt32.toNat = length := by
  have h64 : (UInt64.ofNat length).toNat = length := by
    rw [UInt64.toNat_ofNat']
    exact Nat.mod_eq_of_lt (by omega)
  refine ⟨h64, ?_⟩
  rw [UInt64.toNat_toUInt32, h64, Nat.mod_eq_of_lt h]

/-- A payload that is not empty is taken back from what is written for it. -/
theorem nextBlock_written [Msgpack] {c : WriterCall} (hnumber : c.signalNumber.toNat < 2 ^ 20)
    (hlength : c.payload.length < 2 ^ 32) (hne : c.payload ≠ []) (stream : Bytes) :
    nextBlock (c.written ++ stream) = some (c.block, stream) := by
  obtain ⟨h64, h32⟩ := toNat_length_of_lt hlength
  have hpos : 0 < c.payload.length := List.length_pos_iff.mpr hne
  rw [c.written_eq, List.append_assoc, headerBytes, nextBlock_eq_some]
  by_cases hshort : c.payload.length < 2 ^ 8
  · obtain ⟨header, hwords, hn, ht, hs⟩ :=
      createTransportHeader_short c.type hnumber (by rwa [h64])
    have hsize : headerLength header ≠ 0 := fun h0 => by
      rw [h0, h64] at hs
      change 0 = _ at hs
      omega
    refine ⟨wordBytes header, c.payload ++ stream, headerLength header, c.payload ++ stream,
      ?_, ?_, ?_, ?_, ?_⟩
    · rw [hwords, List.flatMap_singleton]
      exact takeExact_append (length_wordBytes header) _
    · rw [wordOfBytes_wordBytes, nextLength, if_neg hsize]
    · rw [hs, h64]
      exact takeExact_append rfl stream
    · rw [wordOfBytes_wordBytes, ht]
      rfl
    · rw [wordOfBytes_wordBytes, hn]
      rfl
  · obtain ⟨header, hwords, hn, ht, hs⟩ :=
      createTransportHeader_long c.type hnumber (by rw [h64]; omega)
    let length := (UInt64.ofNat c.payload.length).toUInt32
    refine ⟨wordBytes header, wordBytes length ++ (c.payload ++ stream), length,
      c.payload ++ stream, ?_, ?_, ?_, ?_, ?_⟩
    · rw [hwords, List.flatMap_cons, List.flatMap_singleton, List.append_assoc]
      exact takeExact_append (length_wordBytes header) _
    · rw [wordOfBytes_wordBytes, nextLength, if_pos hs, takeExact_append (length_wordBytes length),
        Option.map_some, wordOfBytes_wordBytes]
    · rw [h32]
      exact takeExact_append rfl stream
    · rw [wordOfBytes_wordBytes, ht]
      rfl
    · rw [wordOfBytes_wordBytes, hn]
      rfl

/-- The first word written by a call is not 0, because it holds the type of the payload. -/
theorem exists_header_of_written [Msgpack] {c : WriterCall}
    (hnumber : c.signalNumber.toNat < 2 ^ 20) (hlength : c.payload.length < 2 ^ 32) :
    ∃ header rest, c.written = wordBytes header ++ rest ∧ header ≠ 0 := by
  obtain ⟨h64, -⟩ := toNat_length_of_lt hlength
  have hzero (header : UInt32) (ht : headerType header = c.type.code) : header ≠ 0 := by
    rintro rfl
    exact c.type.code_ne_zero (ht.symm.trans rfl)
  rw [c.written_eq, headerBytes]
  by_cases hshort : c.payload.length < 2 ^ 8
  · obtain ⟨header, hwords, -, ht, -⟩ :=
      createTransportHeader_short c.type hnumber (by rwa [h64])
    exact ⟨header, c.payload, by rw [hwords, List.flatMap_singleton], hzero header ht⟩
  · obtain ⟨header, hwords, -, ht, -⟩ :=
      createTransportHeader_long c.type hnumber (by rw [h64]; omega)
    exact ⟨header, _, by rw [hwords, List.flatMap_cons, List.append_assoc], hzero header ht⟩

/-- No block is taken from what is written for an empty payload but with the header of the next
call for its length, which is not 0. -/
theorem payload_ne_nil_of_nextBlock [Msgpack] {c : WriterCall} {calls : List WriterCall}
    (hnumber : ∀ d ∈ c :: calls, d.signalNumber.toNat < 2 ^ 20)
    (hlength : ∀ d ∈ c :: calls, d.payload.length < 2 ^ 32) (hnil : c.payload = []) {b : Block}
    {rest : Bytes}
    (h : nextBlock (c.written ++ calls.flatMap WriterCall.written) = some (b, rest)) :
    b.payload ≠ [] := by
  have hwritten := c.written_eq
  rw [hnil, List.append_nil, headerBytes] at hwritten
  have hempty : (UInt64.ofNat 0).toNat < 2 ^ 8 := by decide
  obtain ⟨header, hwords, -, -, hs⟩ :=
    createTransportHeader_short c.type (hnumber c List.mem_cons_self) hempty
  have hsize : headerLength header = 0 := UInt32.toNat_inj.mp hs
  rw [hwritten, List.length_nil, hwords, List.flatMap_singleton] at h
  obtain ⟨data, s₁, length, s₂, h₁, h₂, h₃, -, -⟩ := nextBlock_eq_some.mp h
  rw [takeExact_append (length_wordBytes header)] at h₁
  obtain ⟨rfl, rfl⟩ : wordBytes header = data ∧ calls.flatMap WriterCall.written = s₁ := by
    simpa using h₁
  rw [wordOfBytes_wordBytes, nextLength, if_pos hsize] at h₂
  cases calls with
  | nil => simp [takeExact] at h₂
  | cons d calls =>
    obtain ⟨next, tail, hnext, hne⟩ := exists_header_of_written
      (hnumber d (List.mem_cons_of_mem c List.mem_cons_self))
      (hlength d (List.mem_cons_of_mem c List.mem_cons_self))
    rw [List.flatMap_cons, hnext, List.append_assoc, takeExact_append (length_wordBytes next),
      Option.map_some, wordOfBytes_wordBytes] at h₂
    obtain ⟨rfl, -⟩ : next = length ∧ _ = s₂ := by simpa using h₂
    intro hpayload
    have hlen := (takeExact_eq_some h₃).1
    rw [hpayload, List.length_nil] at hlen
    exact hne (UInt32.toNat_inj.mp hlen.symm)

/-! ### A run of calls -/

/-- **Framing round trip.** A run of calls with signal numbers below `2 ^ 20` and payloads below
`2 ^ 32` octets is read back if and only if it writes no empty payload. -/
theorem readBack_iff [Msgpack] (calls : List WriterCall)
    (hnumber : ∀ c ∈ calls, c.signalNumber.toNat < 2 ^ 20)
    (hlength : ∀ c ∈ calls, c.payload.length < 2 ^ 32) :
    ReadBack calls ↔ ∀ n, WriterCall.writeSignalData n [] ∉ calls := by
  have hgood : ∀ c ∈ calls, c.payload ≠ [] → ∀ t,
      blockReader.next (c.written ++ t) = some (c.block, t) :=
    fun c hc hne t => nextBlock_written (hnumber c hc) (hlength c hc) hne t
  have hbad : ∀ c rest, c :: rest <:+ calls → ¬ c.payload ≠ [] → ∀ b r,
      blockReader.next (c.written ++ (rest.flatMap WriterCall.written ++ [])) = some (b, r) →
      b ≠ c.block := by
    intro c rest hsuffix hnil b r hnext hblock
    rw [List.append_nil] at hnext
    refine payload_ne_nil_of_nextBlock (fun d hd => hnumber d (hsuffix.subset hd))
      (fun d hd => hlength d (hsuffix.subset hd)) (not_not.mp hnil) hnext ?_
    rw [hblock]
    exact not_not.mp hnil
  have hnone : blockReader.all ([] : Bytes) = ([], []) := blockReader.all_of_none rfl
  have hiff := blockReader.all_fst_flatMap_iff (by rw [hnone]) calls hgood hbad
  rw [List.append_nil] at hiff
  obtain ⟨hfst, hsnd⟩ := readLoop_eq_all (r := .initial) rfl (calls.flatMap WriterCall.written)
  have hcalls : (∀ c ∈ calls, c.payload ≠ []) ↔ ∀ n, WriterCall.writeSignalData n [] ∉ calls := by
    constructor
    · intro h n hn
      exact h _ hn rfl
    · intro h c hc hnil
      obtain ⟨n, rfl⟩ := c.payload_eq_nil_iff.mp hnil
      exact h n hc
  rw [ReadBack, hfst, hiff, ← hcalls]
  refine ⟨And.left, fun h => ⟨h, hsnd ?_⟩⟩
  have hall := blockReader.all_flatMap_append [] calls fun c hc => hgood c hc (h c hc)
  rw [List.append_nil, hnone] at hall
  rw [hall]

/-- MessagePack on the documents of the runs below: `null` is the octet `0xc0`. -/
@[reducible] def nilMsgpack : Msgpack where
  toMsgpack _ := [0xc0]
  fromMsgpack data := if data = [0xc0] then some .null else none

/-- A block of data of one octet and a block of meta information are read back. -/
theorem readBack_two_calls :
    @ReadBack nilMsgpack [.writeSignalData 1 [7], .writeMetaInformation 1 .null] := by
  refine (@readBack_iff nilMsgpack _ ?_ ?_).mpr ?_
  · decide
  · decide
  · simp

/-- An empty block of data, followed by one octet of data, is not read back. -/
theorem not_readBack_empty_block :
    ¬ ∀ (_ : Msgpack) (calls : List WriterCall),
      (∀ c ∈ calls, c.signalNumber.toNat < 2 ^ 20) →
      (∀ c ∈ calls, c.payload.length < 2 ^ 32) → ReadBack calls := by
  intro h
  have hback := @h nilMsgpack [.writeSignalData 1 [], .writeSignalData 1 [7]]
    (by simp [WriterCall.signalNumber]) (by simp [WriterCall.payload])
  have hblocks := hback.1
  rw [(readLoop_eq_all rfl _).1, blockReader.all_of_none (by decide)] at hblocks
  simp at hblocks

end StreamingProtocol
