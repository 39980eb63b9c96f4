import StreamingProtocol.Session.SignalContainer
import StreamingProtocol.Session.StreamMeta
import StreamingProtocol.Transport.ReadLoop

/-!
# The protocol handler

What a consumer does with the blocks that the read loop delivers. Measured data goes to the signal
container, whatever it returns. Meta information is interpreted into one object, and then goes to
the stream meta object, if its signal number is 0, or to the signal container. A negative result
closes the session.

An exception that leaves `onPayload` leaves the read loop. The callbacks of the application are
assumed not to throw.

## Main definitions

* `ProtocolHandler`, `Reaction`, `Handled`.
* `ProtocolHandler.onPayload`.
-/

namespace StreamingProtocol

open ByteString

/-- The members of `ProtocolHandler` that blocks change, with the signal container. -/
structure ProtocolHandler where
  metaInformation : MetaInformation := {}
  streamMeta : StreamMeta := {}
  signalContainer : SignalContainer := .initial

/-- What follows a block: the next header is requested or the session is closed with a protocol
error, or `onPayload` is left in another way. -/
inductive Reaction where
  | nextHeader
  | closeSession
  | throw (e : Thrown)
  | undefined (f : Fault)
deriving DecidableEq, Repr

/-- The reaction to how a call ended. -/
def Reaction.ofAbrupt : Abrupt → Reaction
  | .ret code => if code < 0 then .closeSession else .nextHeader
  | .throw e => .throw e
  | .undefined f => .undefined f

/-- A block that has been handled: the reaction, the handler it leaves behind, and the callbacks
made by the container and for the stream. -/
structure Handled where
  reaction : Reaction
  state : ProtocolHandler
  callbacks : List Callback := []
  streamMeta : List (String × Json) := []

namespace ProtocolHandler

variable [JsonRuntime]

omit [JsonRuntime] in
/-- The branch of `onPayload` for measured data. A negative result is only logged. -/
def onSignalData (h : ProtocolHandler) (n : SignalNumber) (data : Bytes) : Handled :=
  let call := h.signalContainer.processMeasuredData n data
  let h := { h with signalContainer := call.state }
  match call.outcome with
  | .ret _ => ⟨.nextHeader, h, call.callbacks, []⟩
  | why => ⟨.ofAbrupt why, h, call.callbacks, []⟩

/-- The branch of `onPayload` for meta information about the stream. -/
def onStreamMeta (h : ProtocolHandler) : Handled :=
  match h.streamMeta.processMetaInformation h.metaInformation with
  | .abrupt why s => ⟨.ofAbrupt why, { h with streamMeta := s }, [], []⟩
  | .normal s =>
      let h := { h with streamMeta := s }
      if h.metaInformation.metaInformationType ≠ metainformationMsgpack then
        ⟨.closeSession, h, [], []⟩
      else
        match h.metaInformation.method with
        | .error why => ⟨.ofAbrupt why, h, [], []⟩
        | .ok method => ⟨.nextHeader, h, [], [(method, h.metaInformation.params)]⟩

/-- The branch of `onPayload` for meta information about a signal. -/
def onSignalMeta (h : ProtocolHandler) (n : SignalNumber) : Handled :=
  let call := h.signalContainer.processMetaInformation n h.metaInformation
  ⟨.ofAbrupt call.outcome, { h with signalContainer := call.state }, call.callbacks, []⟩

/-- The branch of `onPayload` for meta information. -/
def onMetaInformation [Msgpack] (h : ProtocolHandler) (n : SignalNumber) (data : Bytes) : Handled :=
  match h.metaInformation.interpret data with
  | .abrupt why m => ⟨.ofAbrupt why, { h with metaInformation := m }, [], []⟩
  | .normal m =>
      let h := { h with metaInformation := m }
      if n = 0 then h.onStreamMeta else h.onSignalMeta n

/-- `ProtocolHandler::onPayload`. -/
def onPayload [Msgpack] (h : ProtocolHandler) (b : Block) : Handled :=
  let n : SignalNumber := b.signalNumber.toNat
  if b.type = TransportType.signalData.code then h.onSignalData n b.payload
  else if b.type = TransportType.metaInformation.code then h.onMetaInformation n b.payload
  else ⟨.closeSession, h, [], []⟩

end ProtocolHandler

end StreamingProtocol
