import Mathlib.Init

/-!
# Names of the presentation layer

The methods and member names of meta information, and the names of the data types, as in
`Defines.h`.
-/

namespace StreamingProtocol

/-! ### Meta information -/

def params : String := "params"
def method : String := "method"

def metaMethodApiversion : String := "apiVersion"
def version : String := "version"
def metaMethodInit : String := "init"
def metaMethodAvailable : String := "available"
def metaMethodUnavailable : String := "unavailable"
def metaMethodAlive : String := "alive"
def metaMethodSignal : String := "signal"
def metaMethodSubscribe : String := "subscribe"
def metaMethodUnsubscribe : String := "unsubscribe"

def metaFilllevel : String := "fillLevel"
def metaStreamid : String := "streamId"
def metaSignalid : String := "signalId"
def metaSignalids : String := "signalIds"
def metaTableid : String := "tableId"
def metaValueindex : String := "valueIndex"
def metaRelatedsignals : String := "relatedSignals"
def metaType : String := "type"
def metaInterpretation : String := "interpretation"
def metaDefinition : String := "definition"

/-! ### Signal definitions -/

def metaDatatype : String := "dataType"
def metaRule : String := "rule"
def metaRuletypeExplicit : String := "explicit"
def metaRuletypeLinear : String := "linear"
def metaRuletypeConstant : String := "constant"
def metaName : String := "name"
def metaTime : String := "time"
def metaResolution : String := "resolution"
def metaNumerator : String := "num"
def metaDenominator : String := "denom"
def metaAbsoluteReference : String := "absoluteReference"
def metaStart : String := "start"
def metaDelta : String := "delta"
def metaUnit : String := "unit"
def metaDisplayName : String := "displayName"
def metaUnitId : String := "unitId"
def metaQuantity : String := "quantity"
def metaPostscaling : String := "postScaling"
def metaScale : String := "scale"
def metaPoffset : String := "offset"
def metaRange : String := "range"
def metaLow : String := "low"
def metaHigh : String := "high"
def metaDimensions : String := "dimensions"
def metaSize : String := "size"
def metaCount : String := "count"
def metaBits : String := "bits"

/-! ### Data types -/

def dataTypeInt8 : String := "int8"
def dataTypeUint8 : String := "uint8"
def dataTypeInt16 : String := "int16"
def dataTypeUint16 : String := "uint16"
def dataTypeInt32 : String := "int32"
def dataTypeUint32 : String := "uint32"
def dataTypeInt64 : String := "int64"
def dataTypeUint64 : String := "uint64"
def dataTypeReal32 : String := "real32"
def dataTypeReal64 : String := "real64"
def dataTypeComplex32 : String := "complex32"
def dataTypeComplex64 : String := "complex64"
def dataTypeArray : String := "array"
def dataTypeDynamicArray : String := "dynamicArray"
def dataTypeStruct : String := "struct"
def dataTypeBitfield : String := "bitField"

/-! ### The methods of signals -/

theorem metaMethodSubscribe_ne_signal : metaMethodSubscribe ≠ metaMethodSignal := by decide

theorem metaMethodSubscribe_ne_unsubscribe : metaMethodSubscribe ≠ metaMethodUnsubscribe := by
  decide

theorem metaMethodSignal_ne_unsubscribe : metaMethodSignal ≠ metaMethodUnsubscribe := by decide

end StreamingProtocol
