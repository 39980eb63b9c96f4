import StreamingProtocol.Foundation.Framing
import StreamingProtocol.Transport.StreamWriter

/-!
# The read loop

The protocol handler requests the header word of a block, the word with the additional length if
the size field of the header is 0, and the payload, and then starts again. The stream completes a
request for `n` octets with the next `n` octets, once they have arrived. This file follows the
requests over a given stream; what the handler does with the content of a block is left to
`StreamingProtocol.Session.ProtocolHandler`, here every block is taken.

The blocks that enter `ProtocolHandler::onPayload` are those of a block reader (`blockReader`), so
that the round trip with the stream writer, in `StreamingProtocol.Transport.RoundTrip`, is an
instance of a general fact about block readers.

## Main definitions

* `Receiver`, `Receiver.onHeader`, `Receiver.onAdditionalLength`, `readLoop`.
* `blockReader`.

## Main results

* `readLoop_eq_all`: the read loop takes the blocks of `blockReader`.
-/

namespace StreamingProtocol

open ByteString

/-- The callback that the pending read request will run. -/
inductive PendingRead where
  | onHeader
  | onAdditionalLength
  | onPayload
deriving DecidableEq, Repr

/-- The transport related members of the protocol handler, with the pending read request. -/
structure Receiver where
  header : UInt32
  length : UInt32
  signalNumber : UInt32
  type : UInt32
  pending : PendingRead
deriving DecidableEq, Repr

namespace Receiver

/-- The handler after the initialisation of the stream: it has requested the first header. -/
def initial : Receiver := ⟨0, 0, 0, 0, .onHeader⟩

/-- The number of octets requested from the stream. -/
def requested (r : Receiver) : ℕ :=
  match r.pending with
  | .onHeader => 4
  | .onAdditionalLength => 4
  | .onPayload => r.length.toNat

/-- `ProtocolHandler::onHeader`. -/
def onHeader (_ : Receiver) (data : Bytes) : Receiver :=
  let header := wordOfBytes data
  let length := headerLength header
  { header := header
    signalNumber := headerSignalNumber header
    type := headerType header
    length := length
    pending := if length = 0 then .onAdditionalLength else .onPayload }

/-- `ProtocolHandler::onAdditionalLength`. -/
def onAdditionalLength (r : Receiver) (data : Bytes) : Receiver :=
  { r with length := wordOfBytes data, pending := .onPayload }

/-- The block with which `ProtocolHandler::onPayload` is entered. -/
def block (r : Receiver) (payload : Bytes) : Block := ⟨r.type, r.signalNumber, payload⟩

/-- The handler after a block it does not reject: it has requested the next header. -/
def nextHeader (r : Receiver) : Receiver := { r with pending := .onHeader }

end Receiver

/-- The blocks that enter `onPayload` while the requests are completed from a stream, the handler
when a request cannot be completed any more, and the octets left in the stream. -/
def readLoop (r : Receiver) (stream : Bytes) : List Block × Receiver × Bytes :=
  match _h : takeExact r.requested stream with
  | none => ([], r, stream)
  | some (data, rest) =>
      match _hp : r.pending with
      | .onHeader => readLoop (r.onHeader data) rest
      | .onAdditionalLength => readLoop (r.onAdditionalLength data) rest
      | .onPayload =>
          let after := readLoop r.nextHeader rest
          (r.block data :: after.1, after.2)
termination_by 2 * stream.length + if r.pending = .onPayload then 1 else 0
decreasing_by
  all_goals
    obtain ⟨hdata, rfl⟩ := takeExact_eq_some _h
    simp only [Receiver.requested, _hp] at hdata
    simp only [Receiver.nextHeader, List.length_append, reduceCtorEq, if_false]
    try split
    all_goals omega

/-! ### One request -/

section Requests

variable {r : Receiver} {stream data rest : Bytes}

theorem readLoop_of_none (h : takeExact r.requested stream = none) :
    readLoop r stream = ([], r, stream) := by
  rw [readLoop]
  split
  · rfl
  · simp_all

theorem readLoop_of_some (h : takeExact r.requested stream = some (data, rest)) :
    readLoop r stream = match r.pending with
      | .onHeader => readLoop (r.onHeader data) rest
      | .onAdditionalLength => readLoop (r.onAdditionalLength data) rest
      | .onPayload =>
          (r.block data :: (readLoop r.nextHeader rest).1, (readLoop r.nextHeader rest).2) := by
  rw [readLoop]
  split
  · simp_all
  · rename_i d t hdt
    obtain ⟨rfl, rfl⟩ : d = data ∧ t = rest := by simpa using hdt.symm.trans h
    split <;> simp_all

theorem readLoop_onHeader (hp : r.pending = .onHeader)
    (h : takeExact 4 stream = some (data, rest)) :
    readLoop r stream = readLoop (r.onHeader data) rest := by
  have hreq : takeExact r.requested stream = some (data, rest) := by rwa [Receiver.requested, hp]
  rw [readLoop_of_some hreq, hp]

theorem readLoop_onAdditionalLength (hp : r.pending = .onAdditionalLength)
    (h : takeExact 4 stream = some (data, rest)) :
    readLoop r stream = readLoop (r.onAdditionalLength data) rest := by
  have hreq : takeExact r.requested stream = some (data, rest) := by rwa [Receiver.requested, hp]
  rw [readLoop_of_some hreq, hp]

theorem readLoop_onPayload (hp : r.pending = .onPayload)
    (h : takeExact r.length.toNat stream = some (data, rest)) :
    readLoop r stream =
      (r.block data :: (readLoop r.nextHeader rest).1, (readLoop r.nextHeader rest).2) := by
  have hreq : takeExact r.requested stream = some (data, rest) := by rwa [Receiver.requested, hp]
  rw [readLoop_of_some hreq, hp]

end Requests

/-! ### The reader of one block -/

/-- The length of a payload and what follows it, given the header word: the size field of the
header, or the additional word if the field is 0. -/
def nextLength (header : UInt32) (stream : Bytes) : Option (UInt32 × Bytes) :=
  if headerLength header = 0 then
    (takeExact 4 stream).map fun p => (wordOfBytes p.1, p.2)
  else
    some (headerLength header, stream)

/-- The first block of a stream and what follows it. -/
def nextBlock (stream : Bytes) : Option (Block × Bytes) := do
  let (data, stream) ← takeExact 4 stream
  let header := wordOfBytes data
  let (length, stream) ← nextLength header stream
  let (payload, stream) ← takeExact length.toNat stream
  return (⟨headerType header, headerSignalNumber header, payload⟩, stream)

theorem nextBlock_eq_some {stream rest : Bytes} {b : Block} :
    nextBlock stream = some (b, rest) ↔ ∃ data s₁ length s₂, takeExact 4 stream = some (data, s₁) ∧
      nextLength (wordOfBytes data) s₁ = some (length, s₂) ∧
      takeExact length.toNat s₂ = some (b.payload, rest) ∧
      b.type = headerType (wordOfBytes data) ∧
      b.signalNumber = headerSignalNumber (wordOfBytes data) := by
  obtain ⟨type, signalNumber, payload⟩ := b
  simp only [nextBlock, Option.bind_eq_bind, Option.bind_eq_some_iff, Option.pure_def,
    Option.some.injEq, Prod.mk.injEq, Block.mk.injEq]
  constructor
  · rintro ⟨⟨data, s₁⟩, h₁, ⟨length, s₂⟩, h₂, ⟨payload', s₃⟩, h₃, ⟨rfl, rfl, rfl⟩, rfl⟩
    exact ⟨data, s₁, length, s₂, h₁, h₂, h₃, rfl, rfl⟩
  · rintro ⟨data, s₁, length, s₂, h₁, h₂, h₃, rfl, rfl⟩
    exact ⟨(data, s₁), h₁, (length, s₂), h₂, (payload, rest), h₃, ⟨rfl, rfl, rfl⟩, rfl⟩

theorem length_le_of_nextLength {header length : UInt32} {stream rest : Bytes}
    (h : nextLength header stream = some (length, rest)) : rest.length ≤ stream.length := by
  unfold nextLength at h
  split_ifs at h
  · obtain ⟨⟨data, s⟩, hs, heq⟩ := Option.map_eq_some_iff.mp h
    obtain ⟨-, rfl⟩ := takeExact_eq_some hs
    cases heq
    simp
  · cases h
    exact Nat.le_refl _

/-- The reader of one block. -/
def blockReader : BlockReader Block UInt8 where
  next := nextBlock
  length_lt := by
    intro s b rest h
    obtain ⟨data, s₁, length, s₂, h₁, h₂, h₃, -, -⟩ := nextBlock_eq_some.mp h
    obtain ⟨hdata, rfl⟩ := takeExact_eq_some h₁
    obtain ⟨-, hs₂⟩ := takeExact_eq_some h₃
    have hle := length_le_of_nextLength h₂
    rw [hs₂] at hle
    simp only [List.length_append] at hle ⊢
    omega

/-! ### The read loop takes the blocks of the reader -/

/-- From the request for a payload on, the loop takes the payload or waits for it. -/
theorem readLoop_payload_step {r : Receiver} (hp : r.pending = .onPayload) (stream : Bytes) :
    (takeExact r.length.toNat stream = none ∧ (readLoop r stream).1 = []) ∨
    ∃ payload rest, takeExact r.length.toNat stream = some (payload, rest) ∧
      readLoop r stream =
        (r.block payload :: (readLoop r.nextHeader rest).1, (readLoop r.nextHeader rest).2) := by
  cases h : takeExact r.length.toNat stream with
  | none =>
    have hreq : takeExact r.requested stream = none := by rwa [Receiver.requested, hp]
    exact Or.inl ⟨rfl, by rw [readLoop_of_none hreq]⟩
  | some p =>
    obtain ⟨payload, rest⟩ := p
    exact Or.inr ⟨payload, rest, rfl, readLoop_onPayload hp h⟩

/-- From the request for a header on, the loop takes the block that the reader takes, or no block
if the reader waits. -/
theorem readLoop_block_step {r : Receiver} (hp : r.pending = .onHeader) (stream : Bytes) :
    (nextBlock stream = none ∧ (readLoop r stream).1 = []) ∨
    ∃ b rest r', nextBlock stream = some (b, rest) ∧ r'.pending = .onHeader ∧
      readLoop r stream = (b :: (readLoop r' rest).1, (readLoop r' rest).2) := by
  cases h₁ : takeExact 4 stream with
  | none =>
    have hreq : takeExact r.requested stream = none := by rwa [Receiver.requested, hp]
    exact Or.inl ⟨by simp [nextBlock, h₁], by rw [readLoop_of_none hreq]⟩
  | some p =>
    obtain ⟨data, s₁⟩ := p
    rw [readLoop_onHeader hp h₁]
    by_cases hlength : headerLength (wordOfBytes data) = 0
    · have hpending : (r.onHeader data).pending = .onAdditionalLength := by
        simp [Receiver.onHeader, hlength]
      cases h₂ : takeExact 4 s₁ with
      | none =>
        have hreq : takeExact (r.onHeader data).requested s₁ = none := by
          rwa [Receiver.requested, hpending]
        exact Or.inl ⟨by simp [nextBlock, nextLength, h₁, h₂, hlength],
          by rw [readLoop_of_none hreq]⟩
      | some q =>
        obtain ⟨word, s₂⟩ := q
        rw [readLoop_onAdditionalLength hpending h₂]
        rcases readLoop_payload_step (r := (r.onHeader data).onAdditionalLength word) rfl s₂ with
          ⟨h₃, hnil⟩ | ⟨payload, rest, h₃, hcons⟩
        · refine Or.inl ⟨?_, hnil⟩
          simp only [Receiver.onAdditionalLength] at h₃
          simp [nextBlock, nextLength, h₁, h₂, hlength, h₃]
        · refine Or.inr ⟨_, rest, _, ?_, rfl, hcons⟩
          exact nextBlock_eq_some.mpr ⟨data, s₁, wordOfBytes word, s₂, h₁,
            by simp [nextLength, hlength, h₂], h₃, rfl, rfl⟩
    · have hpending : (r.onHeader data).pending = .onPayload := by
        simp [Receiver.onHeader, hlength]
      rcases readLoop_payload_step hpending s₁ with ⟨h₃, hnil⟩ | ⟨payload, rest, h₃, hcons⟩
      · refine Or.inl ⟨?_, hnil⟩
        simp only [Receiver.onHeader] at h₃
        simp [nextBlock, nextLength, h₁, hlength, h₃]
      · refine Or.inr ⟨_, rest, _, ?_, rfl, hcons⟩
        exact nextBlock_eq_some.mpr ⟨data, s₁, headerLength (wordOfBytes data), s₁, h₁,
          by simp [nextLength, hlength], h₃, rfl, rfl⟩

/-- The blocks that enter `onPayload` are those of the reader. If the reader leaves nothing, the
loop leaves nothing and waits for a header. -/
theorem readLoop_eq_all {r : Receiver} (hp : r.pending = .onHeader) (stream : Bytes) :
    (readLoop r stream).1 = (blockReader.all stream).1 ∧
      ((blockReader.all stream).2 = [] → (readLoop r stream).2.2 = []) := by
  induction hn : stream.length using Nat.strong_induction_on generalizing stream r with
  | _ n ih =>
    rcases readLoop_block_step hp stream with ⟨hnone, hnil⟩ | ⟨b, rest, r', hsome, hp', hcons⟩
    · have hall := blockReader.all_of_none (s := stream) hnone
      refine ⟨by rw [hnil, hall], fun hempty => ?_⟩
      rw [hall] at hempty
      change stream = [] at hempty
      subst hempty
      have hreq : takeExact r.requested ([] : Bytes) = none := by
        rw [Receiver.requested, hp]
        rfl
      rw [readLoop_of_none hreq]
    · have hlt : rest.length < n := hn ▸ blockReader.length_lt (s := stream) hsome
      obtain ⟨hfst, hsnd⟩ := ih rest.length hlt hp' rest rfl
      rw [blockReader.all_of_some (s := stream) hsome, hcons]
      exact ⟨by rw [hfst], hsnd⟩

end StreamingProtocol
