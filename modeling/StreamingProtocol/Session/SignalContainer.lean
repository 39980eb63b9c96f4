import StreamingProtocol.Presentation.MeasuredData
import StreamingProtocol.Session.MetaInformation
import Mathlib.Data.Finset.Sort

/-!
# The signal container

The container owns the subscribed signals, by number, and the tables, by id. A table names a time
signal and the data signals that get their time from it. Meta information subscribes, describes and
unsubscribes a signal; a description registers its signal in the table it names. Measured data of a
time signal sets the time of the table, that of a data signal is handed to the signal together with
the time signal of its table.

Both maps are functions. `m_subscribedSignals` maps to pointers, and looking up a number with
`operator[]` inserts a null pointer for it (`SignalContainer.access`).

## Main definitions

* `Table`, `SignalContainer`.
* `SignalContainer.processMetaInformation`, `SignalContainer.processMeasuredData`.
* `Input`, `SignalContainer.process`: a call of one of the two.
-/

namespace StreamingProtocol

open ByteString

/-- `Table`. The number 0 stands for no time signal. -/
structure Table where
  timeSignalNumber : SignalNumber := 0
  dataSignalNumbers : Finset SignalNumber := ∅
deriving DecidableEq

/-- Whether a table names no signal at all. -/
def Table.isEmpty (table : Table) : Prop :=
  table.timeSignalNumber = 0 ∧ table.dataSignalNumbers = ∅

instance (table : Table) : Decidable table.isEmpty :=
  inferInstanceAs (Decidable (table.timeSignalNumber = 0 ∧ table.dataSignalNumbers = ∅))

/-- A table that a signal leaves. A time signal leaves it without a time signal. -/
def Table.without (table : Table) (n : SignalNumber) (isTimeSignal : Bool) : Table :=
  if isTimeSignal then { table with timeSignalNumber := 0 }
  else { table with dataSignalNumbers := table.dataSignalNumbers.erase n }

/-- A table that a signal joins. -/
def Table.with (table : Table) (n : SignalNumber) (isTimeSignal : Bool) : Table :=
  if isTimeSignal then { table with timeSignalNumber := n }
  else { table with dataSignalNumbers := insert n table.dataSignalNumbers }

/-- A table names a signal as its time signal or as one of its data signals. -/
def Table.Refers (table : Table) (n : SignalNumber) : Bool → Prop
  | true => table.timeSignalNumber = n ∧ n ≠ 0
  | false => n ∈ table.dataSignalNumbers

/-- The data signals of a table, in the order of their numbers. -/
def Table.dataSignals (table : Table) : List SignalNumber := table.dataSignalNumbers.sort

/-- `SignalContainer`: a number that is known maps to a pointer, which may be null. -/
@[ext]
structure SignalContainer where
  subscribedSignals : SignalNumber → Option (Option SubscribedSignal)
  tables : String → Option Table

/-- A call of the container. -/
inductive Input where
  | metaInformation (signalNumber : SignalNumber) (metaInformation : MetaInformation)
  | measuredData (signalNumber : SignalNumber) (data : Bytes)

namespace SignalContainer

/-- A container without signals. -/
def initial : SignalContainer := ⟨fun _ => none, fun _ => none⟩

/-- The signal with a number, if there is one and its pointer is not null. -/
def signal? (c : SignalContainer) (n : SignalNumber) : Option SubscribedSignal :=
  (c.subscribedSignals n).join

def setSignal (c : SignalContainer) (n : SignalNumber) (s : SubscribedSignal) : SignalContainer :=
  { c with subscribedSignals := Function.update c.subscribedSignals n (some (some s)) }

/-- A change of the signal with a number, if there is one. -/
def modifySignal (c : SignalContainer) (n : SignalNumber)
    (change : SubscribedSignal → SubscribedSignal) : SignalContainer :=
  match c.signal? n with
  | none => c
  | some s => c.setSignal n (change s)

def eraseSignal (c : SignalContainer) (n : SignalNumber) : SignalContainer :=
  { c with subscribedSignals := Function.update c.subscribedSignals n none }

def setTable (c : SignalContainer) (tableId : String) (table : Table) : SignalContainer :=
  { c with tables := Function.update c.tables tableId (some table) }

def eraseTable (c : SignalContainer) (tableId : String) : SignalContainer :=
  { c with tables := Function.update c.tables tableId none }

/-- The container after `m_subscribedSignals[n]`. -/
def access (c : SignalContainer) (n : SignalNumber) : SignalContainer :=
  match c.subscribedSignals n with
  | none => { c with subscribedSignals := Function.update c.subscribedSignals n (some none) }
  | some _ => c

/-! ### Meta information -/

section MetaInformation

variable [JsonRuntime]

/-- The tables after the unsubscription of a signal. -/
def unregister (c : SignalContainer) (n : SignalNumber) (s : SubscribedSignal) : SignalContainer :=
  match c.tables s.tableId with
  | none => c
  | some table =>
      let table := table.without n s.isTimeSignal
      if table.isEmpty then c.eraseTable s.tableId else c.setTable s.tableId table

/-- The tables after the description of a signal. -/
def register (c : SignalContainer) (n : SignalNumber) (s : SubscribedSignal) : SignalContainer :=
  c.setTable s.tableId (((c.tables s.tableId).getD {}).with n s.isTimeSignal)

/-- The part of `processMetaInformation` that follows the lookup of the signal. -/
def processSignalMetaInformation (c : SignalContainer) (n : SignalNumber) (method : String)
    (params : Json) (s : SubscribedSignal) : Call SignalContainer :=
  match s.processSignalMetaInformation method params with
  | .abrupt why s => ⟨why, c.setSignal n s, []⟩
  | .normal s =>
      let c := c.setSignal n s
      let c := if method = metaMethodSignal then c.register n s else c
      let c := if method = metaMethodUnsubscribe then c.eraseSignal n else c
      ⟨.ret 0, c, [.signalMeta s method params]⟩

/-- `SignalContainer::processMetaInformation`. -/
def processMetaInformation (c : SignalContainer) (n : SignalNumber) (m : MetaInformation) :
    Call SignalContainer :=
  match m.method with
  | .error why => ⟨why, c, []⟩
  | .ok method =>
      if method = metaMethodUnsubscribe then
        match c.subscribedSignals n with
        | none => ⟨.ret (-1), c, []⟩
        | some none => ⟨.undefined .nullPointer, c, []⟩
        | some (some s) => (c.unregister n s).processSignalMetaInformation n method m.params s
      else if method = metaMethodSubscribe then
        match m.params.find? metaSignalid with
        | none => ⟨.ret (-1), c, []⟩
        | some signalId =>
            match c.subscribedSignals n with
            | some _ => -- the signal id is logged as text
                match signalId.text with
                | .error why => ⟨why, c, []⟩
                | .ok _ => ⟨.ret (-1), c, []⟩
            | none =>
                let s : SubscribedSignal := { signalNumber := n }
                (c.setSignal n s).processSignalMetaInformation n method m.params s
      else
        match c.subscribedSignals n with
        | none => ⟨.ret (-1), c, []⟩
        | some none => ⟨.undefined .nullPointer, c, []⟩
        | some (some s) => c.processSignalMetaInformation n method m.params s

end MetaInformation

/-! ### Measured data -/

/-- A 64 bit word of a payload. -/
def word? (data : Bytes) (offset : ℕ) : Option UInt64 :=
  (read? data offset 8).map fun octets => .ofNat (leValue octets)

/-- One round of the loop over the data signals of a table: the time signal `n` is changed, the
data signal `m` is looked up and its id is logged. -/
def visitDataSignal (n : SignalNumber) (change : SubscribedSignal → SubscribedSignal)
    (m : SignalNumber) (c : SignalContainer) : Completion SignalContainer :=
  let c := (c.access m).modifySignal n change
  match c.signal? m with
  | none => .abrupt (.undefined .nullPointer) c
  | some _ => .normal c

/-- A time stamp for a time signal `s` with an explicit rule. -/
def processTimeStamp (c : SignalContainer) (n : SignalNumber) (s : SubscribedSignal)
    (data : Bytes) : Completion SignalContainer :=
  match c.tables s.tableId with
  | none => .normal c
  | some table =>
      match word? data 0 with
      | none => .abrupt (.undefined .outOfBounds) c
      | some timeStamp =>
          .sequence (table.dataSignals.map
            (visitDataSignal n fun s => { s with time := timeStamp })) c

/-- An indexed time stamp for a time signal `s` with another rule: the index comes first. The
words are read for each data signal of the table. -/
def processIndexedTimeStamp (c : SignalContainer) (n : SignalNumber) (s : SubscribedSignal)
    (data : Bytes) : Completion SignalContainer :=
  match c.tables s.tableId with
  | none => .normal c
  | some table =>
      .sequence (table.dataSignals.map fun m c =>
        match word? data 8, word? data 0 with
        | some value, some index =>
            visitDataSignal n (fun s => { s with time := value, linearValueIndex := index }) m c
        | _, _ => .abrupt (.undefined .outOfBounds) (c.access m)) c

/-- `SignalContainer::processMeasuredData` for a time signal. -/
def processTime (c : SignalContainer) (n : SignalNumber) (s : SubscribedSignal) (data : Bytes) :
    Call SignalContainer :=
  if s.ruleType = .explicit then
    match c.processTimeStamp n s data with
    | .abrupt why c => ⟨why, c, []⟩
    | .normal c =>
        match c.signal? n with
        | none => ⟨.undefined .nullPointer, c, []⟩
        | some s =>
            let call := s.processMeasuredData data none
            match call.outcome with
            | .ret _ => ⟨.ret data.length, c.setSignal n call.state, call.callbacks⟩
            | why => ⟨why, c.setSignal n call.state, call.callbacks⟩
  else
    match c.processIndexedTimeStamp n s data with
    | .abrupt why c => ⟨why, c, []⟩
    | .normal c => ⟨.ret data.length, c, []⟩

/-- `SignalContainer::processMeasuredData` for a data signal. -/
def processValues (c : SignalContainer) (n : SignalNumber) (s : SubscribedSignal) (data : Bytes) :
    Call SignalContainer :=
  match c.tables s.tableId with
  | none => ⟨.ret data.length, c, []⟩
  | some table =>
      if table.timeSignalNumber = 0 then ⟨.ret (-1), c, []⟩
      else
        let c := c.access table.timeSignalNumber
        let timeSignal := c.signal? table.timeSignalNumber
        let s := { s with timeSignal := timeSignal.map SubscribedSignal.signalNumber }
        let call := s.processMeasuredData data timeSignal
        ⟨call.outcome, c.setSignal n call.state, call.callbacks⟩

/-- `SignalContainer::processMeasuredData`. -/
def processMeasuredData (c : SignalContainer) (n : SignalNumber) (data : Bytes) :
    Call SignalContainer :=
  match c.subscribedSignals n with
  | none => ⟨.ret (-1), c, []⟩
  | some none => ⟨.undefined .nullPointer, c, []⟩
  | some (some s) => if s.isTimeSignal then c.processTime n s data else c.processValues n s data

/-- A call of the container. -/
def process [JsonRuntime] (c : SignalContainer) : Input → Call SignalContainer
  | .metaInformation n m => c.processMetaInformation n m
  | .measuredData n data => c.processMeasuredData n data

end SignalContainer

end StreamingProtocol
