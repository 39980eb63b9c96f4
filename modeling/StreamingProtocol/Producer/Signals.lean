import StreamingProtocol.Presentation.Types
import StreamingProtocol.Session.SignalContainer

/-!
# Signals of a producer

A producer describes each of its signals by a document, which it composes from the settings of the
signal, and sends data of the signal. There are two kinds of domain signals, which give the time,
and three kinds of value signals. What a signal sends are calls of the writer; a writer that fails
is not considered.

The elements of values are given by the octets of their memory. The sizes are those of the types in
C++, with single and double precision floating point numbers of 4 and 8 octets.

## Main definitions

* `DataType`: the types of the values of value signals.
* `BaseSignal`, `BaseDomainSignal`, `BaseValueSignal`, and the signals `LinearTimeSignal`,
  `ExplicitTimeSignal`, `SynchronousSignal`, `AsynchronousSignal`, `ConstantSignal`.
* `ProducerSignal`: a signal of any of these kinds, with `ProducerSignal.subscribe` and
  `ProducerSignal.unsubscribe`.
* `WriterCall.input`: what a call of the writer is for a consumer.
-/

namespace StreamingProtocol

open ByteString

/-! ### Types of values -/

/-- The types for which there are signals. -/
inductive DataType where
  | int8
  | uint8
  | int16
  | uint16
  | int32
  | uint32
  | int64
  | uint64
  | real32
  | real64
  | complex32
  | complex64
deriving DecidableEq, Repr

namespace DataType

/-- The name of the type in a description. -/
def name : DataType → String
  | int8 => dataTypeInt8
  | uint8 => dataTypeUint8
  | int16 => dataTypeInt16
  | uint16 => dataTypeUint16
  | int32 => dataTypeInt32
  | uint32 => dataTypeUint32
  | int64 => dataTypeInt64
  | uint64 => dataTypeUint64
  | real32 => dataTypeReal32
  | real64 => dataTypeReal64
  | complex32 => dataTypeComplex32
  | complex64 => dataTypeComplex64

/-- The number of octets of a value: `sizeof`. -/
def size : DataType → ℕ
  | int8 | uint8 => 1
  | int16 | uint16 => 2
  | int32 | uint32 | real32 => 4
  | int64 | uint64 | real64 | complex32 => 8
  | complex64 => 16

theorem size_pos (dataType : DataType) : 0 < dataType.size := by
  cases dataType <;> decide

/-- The size is one of a machine. -/
theorem toNat_size (dataType : DataType) :
    (UInt64.ofNat dataType.size).toNat = dataType.size := by
  cases dataType <;> rfl

/-- `getSampleType`, of all value signals. -/
def sampleType : DataType → SampleType
  | int8 => .s8
  | uint8 => .u8
  | int16 => .s16
  | uint16 => .u16
  | int32 => .s32
  | uint32 => .u32
  | int64 => .s64
  | uint64 => .u64
  | real32 => .real32
  | real64 => .real64
  | complex32 => .complex32
  | complex64 => .complex64

/-- A complex number. -/
def isComplex : DataType → Bool
  | complex32 | complex64 => true
  | _ => false

end DataType

/-! ### All signals -/

/-- The document with a method and its parameters. -/
def methodDocument (name : String) (parameters : Json) : Json :=
  (Json.null.set method (.string name)).set params parameters

/-- `BaseSignal::nextSignalNumber`: the counter and the number. The number 0 is left out. -/
def nextSignalNumber (counter : UInt32) : UInt32 × UInt32 :=
  let counter := counter + 1
  let counter := if counter &&& 0xfffff = 0 then counter + 1 else counter
  (counter, counter &&& 0xfffff)

theorem and_signalNumberMask_eq_zero_iff (x : UInt32) :
    x &&& 0xfffff = 0 ↔ x.toNat % 2 ^ 20 = 0 := by
  have hnumber : (x &&& 0xfffff).toNat = x.toNat % 2 ^ 20 := headerSignalNumber_toNat x
  rw [← UInt32.toNat_inj, hnumber]
  rfl

theorem nextSignalNumber_ne_zero (counter : UInt32) : (nextSignalNumber counter).2 ≠ 0 := by
  unfold nextSignalNumber
  dsimp only
  split_ifs with h
  · rw [and_signalNumberMask_eq_zero_iff] at h
    have hone : (1 : UInt32).toNat = 1 := rfl
    rw [ne_eq, and_signalNumberMask_eq_zero_iff, UInt32.toNat_add, hone]
    omega
  · exact h

/-- The numbers of the first signals. -/
theorem firstNumber_ne_zero : (1 : UInt32) ≠ 0 := by decide

theorem secondNumber_ne_zero : (2 : UInt32) ≠ 0 := by decide

theorem thirdNumber_ne_zero : (3 : UInt32) ≠ 0 := by decide

/-- `BaseSignal`. The number 0 stands for the stream. -/
structure BaseSignal where
  signalNumber : UInt32
  signalNumber_ne_zero : signalNumber ≠ 0 := by decide
  signalId : String
  tableId : String
  interpretationObject : Json := .null

namespace BaseSignal

/-- The first message of `BaseSignal::subscribe`. -/
def subscribeDocument (s : BaseSignal) : Json :=
  methodDocument metaMethodSubscribe (Json.null.set metaSignalid (.string s.signalId))

/-- The message of `BaseSignal::unsubscribe`. -/
def unsubscribeDocument : Json := Json.null.set method (.string metaMethodUnsubscribe)

/-- The interpretation object is left out if it is `null`. -/
def composeInterpretation (s : BaseSignal) (parameters : Json) : Json :=
  if s.interpretationObject.isNull then parameters
  else parameters.set metaInterpretation s.interpretationObject

end BaseSignal

/-! ### Domain signals -/

/-- `UNIX_EPOCH`. -/
def unixEpoch : String := "1970-01-01"

/-- `BaseDomainSignal`. -/
structure BaseDomainSignal extends BaseSignal where
  timeTicksPerSecond : UInt64
  epoch : String := unixEpoch

namespace BaseDomainSignal

/-- The member `m_resolution`. -/
def resolution (s : BaseDomainSignal) : Resolution := ⟨1, s.timeTicksPerSecond⟩

/-- The member `m_unitSecond`. -/
def unitSecond : SignalUnit := ⟨SignalUnit.unitIdSeconds, "s", metaTime⟩

/-- `BaseDomainSignal::setTimeStart`: an index of 0 and the time. -/
def setTimeStart (s : BaseDomainSignal) (timeTicks : UInt64) : WriterCall :=
  .writeSignalData s.signalNumber (leBytes 8 0 ++ leBytes 8 timeTicks.toNat)

/-- The parameters of the description of a domain signal. -/
def parameters (s : BaseDomainSignal) (definition : Json) : Json :=
  s.composeInterpretation
    ((Json.null.set metaTableid (.string s.tableId)).set metaDefinition definition)

end BaseDomainSignal

/-- `LinearTimeSignal`. -/
structure LinearTimeSignal extends BaseDomainSignal where
  outputRateInTicks : UInt64

namespace LinearTimeSignal

/-- `LinearTimeSignal::getMemberInformation`. -/
def memberInformation (s : LinearTimeSignal) : Json :=
  s.resolution.compose (BaseDomainSignal.unitSecond.compose
    (((((Json.null.set metaName (.string metaTime)).set metaRule (.string metaRuletypeLinear)).setIn
      metaRuletypeLinear metaDelta (.numberUnsigned s.outputRateInTicks)).set
      metaDatatype (.string dataTypeUint64)).set metaAbsoluteReference (.string s.epoch)))

/-- The document of `LinearTimeSignal::writeSignalMetaInformation`. -/
def description (s : LinearTimeSignal) : Json :=
  methodDocument metaMethodSignal (s.parameters s.memberInformation)

end LinearTimeSignal

/-- `ExplicitTimeSignal`. -/
structure ExplicitTimeSignal extends BaseDomainSignal

namespace ExplicitTimeSignal

/-- `ExplicitTimeSignal::getMemberInformation`. -/
def memberInformation (s : ExplicitTimeSignal) : Json :=
  s.resolution.compose ((BaseDomainSignal.unitSecond.compose
    (((Json.null.set metaName (.string metaTime)).set metaRule (.string metaRuletypeExplicit)).set
      metaDatatype (.string dataTypeUint64))).set metaAbsoluteReference (.string s.epoch))

/-- The document of `ExplicitTimeSignal::writeSignalMetaInformation`. -/
def description (s : ExplicitTimeSignal) : Json :=
  methodDocument metaMethodSignal (s.parameters s.memberInformation)

end ExplicitTimeSignal

/-! ### Value signals -/

/-- `BaseValueSignal`. The related signals are a map, whose keys are in their order. -/
structure BaseValueSignal extends BaseSignal where
  valueName : String := "value"
  unit : SignalUnit := {}
  postScaling : PostScaling := {}
  range : Range := {}
  relatedSignals : RelatedSignals := []
  ordered_relatedSignals : relatedSignals.Ordered := by exact Members.ordered_nil

namespace BaseValueSignal

/-- The description of a value. It is the same in all value signals, but for the rule. -/
def createMember (s : BaseValueSignal) (rule : String) (dataType : DataType) : Json :=
  s.postScaling.compose (s.range.compose (s.unit.compose
    (((Json.null.set metaName (.string s.valueName)).set metaDatatype (.string dataType.name)).set
      metaRule (.string rule))))

/-- One related signal. -/
def composeRelatedSignal (relatedSignal : String × String) : Json :=
  (Json.null.set metaType (.string relatedSignal.1)).set metaSignalid (.string relatedSignal.2)

/-- `BaseValueSignal::composeRelatedSignals`. -/
def composeRelatedSignals (s : BaseValueSignal) (composition : Json) : Json :=
  s.relatedSignals.foldl (fun composition relatedSignal =>
    composition.pushBackIn metaRelatedsignals (composeRelatedSignal relatedSignal)) composition

/-- The parameters of the description of a value signal, with those after the definition. -/
def parameters (s : BaseValueSignal) (definition : Json) (further : Json → Json := fun j => j) :
    Json :=
  s.composeRelatedSignals (further ((s.composeInterpretation
    (Json.null.set metaTableid (.string s.tableId))).set metaDefinition definition))

end BaseValueSignal

/-- `SynchronousSignal`, with the type of its values as a parameter of the signal. -/
structure SynchronousSignal extends BaseValueSignal where
  dataType : DataType
  valueIndex : UInt64 := 0

namespace SynchronousSignal

/-- `SynchronousSignal::getMemberInformation`, by `BaseSynchronousSignal::createMember`. -/
def memberInformation (s : SynchronousSignal) : Json :=
  s.createMember metaRuletypeExplicit s.dataType

/-- The document of `BaseSynchronousSignal::writeSignalMetaInformation`. -/
def description (s : SynchronousSignal) : Json :=
  methodDocument metaMethodSignal (s.parameters s.memberInformation fun parameters =>
    parameters.set metaValueindex (.numberUnsigned s.valueIndex))

/-- `SynchronousSignal::addData`: the values are counted and sent as one payload. -/
def addData (s : SynchronousSignal) (values : List Bytes) : SynchronousSignal × List WriterCall :=
  ({ s with valueIndex := s.valueIndex + UInt64.ofNat values.length },
    [.writeSignalData s.signalNumber values.flatten])

end SynchronousSignal

/-- `AsynchronousSignal`, with the type of its values as a parameter of the signal. -/
structure AsynchronousSignal extends BaseValueSignal where
  dataType : DataType

namespace AsynchronousSignal

/-- `AsynchronousSignal::getMemberInformation`, by `AsynchronousSignal::createMember`. -/
def memberInformation (s : AsynchronousSignal) : Json :=
  s.createMember metaRuletypeExplicit s.dataType

/-- The document of `AsynchronousSignal::writeSignalMetaInformation`. -/
def description (s : AsynchronousSignal) : Json :=
  methodDocument metaMethodSignal (s.parameters s.memberInformation)

/-- `AsynchronousSignal::createTuples`, to an empty buffer: the values with their time stamps. -/
def createTuples (data : List Bytes) (timestamps : List UInt64) : List (UInt64 × Bytes) :=
  timestamps.zip data

/-- `AsynchronousSignal::addData`: each value is sent as a payload of its own, its time stamp is
not sent. -/
def addData (s : AsynchronousSignal) (tuples : List (UInt64 × Bytes)) : List WriterCall :=
  tuples.map fun tuple => .writeSignalData s.signalNumber tuple.2

end AsynchronousSignal

/-- `ConstantSignal`, with the type of its values, which is not complex, as a parameter of the
signal. -/
structure ConstantSignal extends BaseValueSignal where
  dataType : DataType
  isComplex_dataType : dataType.isComplex = false
  defaultStartValue : Json

namespace ConstantSignal

/-- `ConstantSignal::getMemberInformation`, by `BaseConstantSignal::createMember`. -/
def memberInformation (s : ConstantSignal) : Json :=
  let memberInformation := s.createMember metaRuletypeConstant s.dataType
  if s.defaultStartValue.isNull then memberInformation
  else memberInformation.setIn metaRuletypeConstant metaStart s.defaultStartValue

/-- The document of `BaseConstantSignal::writeSignalMetaInformation`. -/
def description (s : ConstantSignal) : Json :=
  methodDocument metaMethodSignal (s.parameters s.memberInformation)

/-- `ConstantSignal::addData`: each value after its index. -/
def addData (s : ConstantSignal) (values : List Bytes) (indices : List UInt64) : WriterCall :=
  .writeSignalData s.signalNumber
    ((indices.zip values).flatMap fun entry => leBytes 8 entry.1.toNat ++ entry.2)

end ConstantSignal

/-! ### Signals of any kind -/

/-- A signal of a producer. -/
inductive ProducerSignal where
  | linearTime (s : LinearTimeSignal)
  | explicitTime (s : ExplicitTimeSignal)
  | synchronous (s : SynchronousSignal)
  | asynchronous (s : AsynchronousSignal)
  | constant (s : ConstantSignal)

namespace ProducerSignal

def base : ProducerSignal → BaseSignal
  | linearTime s => s.toBaseSignal
  | explicitTime s => s.toBaseSignal
  | synchronous s => s.toBaseSignal
  | asynchronous s => s.toBaseSignal
  | constant s => s.toBaseSignal

/-- `BaseSignal::getId`. -/
def id (s : ProducerSignal) : String := s.base.signalId

/-- `BaseSignal::getNumber`. -/
def number (s : ProducerSignal) : UInt32 := s.base.signalNumber

/-- `isDataSignal`. -/
def isDataSignal : ProducerSignal → Bool
  | linearTime _ | explicitTime _ => false
  | synchronous _ | asynchronous _ | constant _ => true

/-- The document that a signal is described by. -/
def description : ProducerSignal → Json
  | linearTime s => s.description
  | explicitTime s => s.description
  | synchronous s => s.description
  | asynchronous s => s.description
  | constant s => s.description

/-- `writeSignalMetaInformation`. -/
def writeSignalMetaInformation (s : ProducerSignal) : WriterCall :=
  .writeMetaInformation s.number s.description

/-- `BaseSignal::subscribe`. -/
def subscribe (s : ProducerSignal) : List WriterCall :=
  [.writeMetaInformation s.number s.base.subscribeDocument, s.writeSignalMetaInformation]

/-- `BaseSignal::unsubscribe`. -/
def unsubscribe (s : ProducerSignal) : WriterCall :=
  .writeMetaInformation s.number BaseSignal.unsubscribeDocument

end ProducerSignal

/-- What a call of the writer is for the container of a consumer. -/
def WriterCall.input : WriterCall → Input
  | writeMetaInformation n doc => .metaInformation n.toNat ⟨metainformationMsgpack, doc⟩
  | writeSignalData n data => .measuredData n.toNat data

end StreamingProtocol
