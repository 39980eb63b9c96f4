import StreamingProtocol.Presentation.TransportedDescriptions
import StreamingProtocol.Session.ContainerRuns

/-!
# Meta information that is transported

A signal container that gets its meta information through a binary encoding does what it would do
with the documents that were written. It ends every call in the same way, holds the same signals and
tables and makes the same callbacks, up to the documents that are stored and passed on.

## Main definitions

* `Input.transported`, `SignalContainer.transported`, `Callback.transported`.

## Main results

* `SignalContainer.process_transported`: one call.
* `SignalContainer.run_transported`: runs.
-/

namespace StreamingProtocol

open ByteString

def MetaInformation.transported (m : MetaInformation) : MetaInformation :=
  { m with jsonContent := m.jsonContent.transported }

/-- A call of the container with the document that is read back. -/
def Input.transported : Input → Input
  | .metaInformation n m => .metaInformation n m.transported
  | .measuredData n data => .measuredData n data

def Callback.transported : Callback → Callback
  | .signalMeta s method params => .signalMeta s.transported method params.transported
  | .dataAsRaw s timeStamp data => .dataAsRaw s.transported timeStamp data
  | .dataAsValue s timeStamp data valueCount =>
      .dataAsValue s.transported timeStamp data valueCount

/-- A completed call with the documents that are read back. -/
def Call.transported {σ : Type} (f : σ → σ) (call : Call σ) : Call σ :=
  ⟨call.outcome, f call.state, call.callbacks.map Callback.transported⟩

namespace MetaInformation

theorem method_transported (m : MetaInformation) : m.transported.method = m.method := by
  unfold MetaInformation.method transported
  rw [Json.find?_transported]
  cases m.jsonContent.find? StreamingProtocol.method with
  | none => rfl
  | some node => exact Json.getString_transported node

theorem params_transported (m : MetaInformation) :
    m.transported.params = m.params.transported := by
  unfold MetaInformation.params transported
  rw [Json.find?_transported]
  cases m.jsonContent.find? StreamingProtocol.params <;> rfl

end MetaInformation

/-- Measured data of a signal. -/
theorem SubscribedSignal.processMeasuredData_transported (data : Bytes)
    (timeSignal : Option SubscribedSignal) (s : SubscribedSignal) :
    s.transported.processMeasuredData data (timeSignal.map transported) =
      (s.processMeasuredData data timeSignal).transported transported := by
  have hexplicit (time : UInt64) : s.transported.processExplicitTime data time =
      (s.processExplicitTime data time).transported transported := by
    unfold processExplicitTime
    show (if s.dataValueSize = 0 then _ else
      if data.length % s.dataValueSize.toNat ≠ 0 then _ else _) = _
    split_ifs <;> rfl
  have hlinear (t : SubscribedSignal) :
      processLinearTime data t.transported s.transported =
        (processLinearTime data t s).transported transported := by
    unfold processLinearTime
    dsimp only
    rw [show s.transported.ruleType = s.ruleType from rfl]
    cases s.ruleType with
    | explicit =>
      show (if s.dataValueSize = 0 then _ else _) = _
      dsimp only
      split_ifs <;> rfl
    | constant =>
      show (if 8 + s.dataValueSize = 0 then _ else _) = _
      dsimp only
      split_ifs <;> rfl
    | linear => rfl
    | unknown => rfl
  cases timeSignal with
  | none => exact hexplicit 0
  | some t =>
    unfold processMeasuredData
    dsimp only [Option.map_some]
    rw [show t.transported.ruleType = t.ruleType from rfl]
    cases t.ruleType with
    | linear => exact hlinear t
    | explicit => exact hexplicit t.time
    | constant => rfl
    | unknown => rfl

namespace SignalContainer

/-- A container with the documents that are read back. -/
def transported (c : SignalContainer) : SignalContainer where
  subscribedSignals n := (c.subscribedSignals n).map (Option.map SubscribedSignal.transported)
  tables := c.tables

theorem transported_initial : initial.transported = initial := rfl

variable (c : SignalContainer) (n : SignalNumber) (s : SubscribedSignal)

theorem subscribedSignals_transported :
    c.transported.subscribedSignals n =
      (c.subscribedSignals n).map (Option.map SubscribedSignal.transported) := rfl

theorem tables_transported :
    c.transported.tables s.transported.tableId = c.tables s.tableId := rfl

/-! ### Signals and tables -/

/-- An update of the signals. -/
theorem transported_update (signal : Option (Option SubscribedSignal)) :
    (⟨Function.update c.transported.subscribedSignals n
        (signal.map (Option.map SubscribedSignal.transported)), c.tables⟩ : SignalContainer) =
      transported ⟨Function.update c.subscribedSignals n signal, c.tables⟩ := by
  refine SignalContainer.ext (funext fun k => ?_) rfl
  rw [subscribedSignals_transported]
  dsimp only
  by_cases hk : k = n
  · rw [hk, Function.update_self, Function.update_self]
  · rw [Function.update_of_ne hk, Function.update_of_ne hk]
    rfl

theorem setSignal_transported :
    c.transported.setSignal n s.transported = (c.setSignal n s).transported :=
  transported_update c n (some (some s))

theorem eraseSignal_transported :
    c.transported.eraseSignal n = (c.eraseSignal n).transported :=
  transported_update c n none

theorem signal?_transported :
    c.transported.signal? n = (c.signal? n).map SubscribedSignal.transported := by
  unfold signal?
  rw [subscribedSignals_transported]
  rcases c.subscribedSignals n with _ | _ | s <;> rfl

theorem access_transported : c.transported.access n = (c.access n).transported := by
  unfold access
  rw [subscribedSignals_transported]
  cases c.subscribedSignals n with
  | none => exact transported_update c n (some none)
  | some p => rfl

theorem modifySignal_transported {change : SubscribedSignal → SubscribedSignal}
    (hchange : ∀ s, change (SubscribedSignal.transported s) = (change s).transported) :
    c.transported.modifySignal n change = (c.modifySignal n change).transported := by
  unfold modifySignal
  rw [signal?_transported]
  cases c.signal? n with
  | none => rfl
  | some s =>
    show c.transported.setSignal n (change s.transported) = _
    rw [hchange, setSignal_transported]

theorem unregister_transported :
    c.transported.unregister n s.transported = (c.unregister n s).transported := by
  unfold unregister
  rw [tables_transported]
  cases c.tables s.tableId with
  | none => rfl
  | some table =>
    show (if (table.without n s.isTimeSignal).isEmpty then _ else _) = _
    dsimp only
    split_ifs <;> rfl

theorem register_transported :
    c.transported.register n s.transported = (c.register n s).transported := rfl

/-! ### Measured data -/

/-- A round of a loop over the data signals of a table. -/
theorem visitDataSignal_transported (change : SubscribedSignal → SubscribedSignal)
    (hchange : ∀ s, change (SubscribedSignal.transported s) = (change s).transported)
    (m : SignalNumber) :
    visitDataSignal n change m c.transported = (visitDataSignal n change m c).map transported := by
  unfold visitDataSignal
  rw [access_transported, modifySignal_transported _ _ hchange]
  dsimp only
  rw [signal?_transported]
  cases ((c.access m).modifySignal n change).signal? m <;> rfl

theorem processTimeStamp_transported (data : Bytes) :
    c.transported.processTimeStamp n s.transported data =
      (c.processTimeStamp n s data).map transported := by
  unfold processTimeStamp
  rw [tables_transported]
  cases c.tables s.tableId with
  | none => rfl
  | some table =>
    dsimp only
    cases word? data 0 with
    | none => rfl
    | some timeStamp =>
      refine Completion.sequence_map _ (fun p hp c => ?_) c
      obtain ⟨m, -, rfl⟩ := List.mem_map.mp hp
      exact visitDataSignal_transported c n (fun s => { s with time := timeStamp })
        (fun _ => rfl) m

theorem processIndexedTimeStamp_transported (data : Bytes) :
    c.transported.processIndexedTimeStamp n s.transported data =
      (c.processIndexedTimeStamp n s data).map transported := by
  unfold processIndexedTimeStamp
  rw [tables_transported]
  cases c.tables s.tableId with
  | none => rfl
  | some table =>
    refine Completion.sequence_map _ (fun p hp c => ?_) c
    obtain ⟨m, -, rfl⟩ := List.mem_map.mp hp
    dsimp only
    cases word? data 8 with
    | none =>
      rw [access_transported]
      rfl
    | some value =>
      cases word? data 0 with
      | none =>
        rw [access_transported]
        rfl
      | some index =>
        exact visitDataSignal_transported c n
          (fun s => { s with time := value, linearValueIndex := index }) (fun _ => rfl) m

theorem processTime_transported (data : Bytes) :
    c.transported.processTime n s.transported data =
      (c.processTime n s data).transported transported := by
  unfold processTime
  show (if s.ruleType = .explicit then _ else _) = _
  split_ifs
  · rw [processTimeStamp_transported]
    cases c.processTimeStamp n s data with
    | abrupt why c => rfl
    | normal c =>
      simp only [Completion.map]
      rw [signal?_transported]
      cases c.signal? n with
      | none => rfl
      | some s =>
        have hcall := SubscribedSignal.processMeasuredData_transported data none s
        rw [Option.map_none] at hcall
        simp only [Option.map_some, hcall]
        cases houtcome : (s.processMeasuredData data none).outcome with
        | ret code =>
          simp only [Call.transported, houtcome, setSignal_transported]
        | throw e => simp only [Call.transported, houtcome, setSignal_transported]
        | undefined f => simp only [Call.transported, houtcome, setSignal_transported]
  · rw [processIndexedTimeStamp_transported]
    cases c.processIndexedTimeStamp n s data <;> rfl

/-- The call of the container in which a signal is called and stored. -/
def storeCall (call : Call SubscribedSignal) : Call SignalContainer :=
  ⟨call.outcome, c.setSignal n call.state, call.callbacks⟩

theorem storeCall_transported (call : Call SubscribedSignal) :
    c.transported.storeCall n (call.transported SubscribedSignal.transported) =
      (c.storeCall n call).transported transported := by
  unfold storeCall Call.transported
  rw [setSignal_transported]

theorem processValues_transported (data : Bytes) :
    c.transported.processValues n s.transported data =
      (c.processValues n s data).transported transported := by
  unfold processValues
  rw [tables_transported]
  cases c.tables s.tableId with
  | none => rfl
  | some table =>
    dsimp only
    split_ifs with hzero
    · rfl
    · rw [access_transported, signal?_transported]
      have hcall (c : SignalContainer) (timeSignal : Option SubscribedSignal)
          (s : SubscribedSignal) :
          c.transported.storeCall n (s.transported.processMeasuredData data
            (timeSignal.map SubscribedSignal.transported)) =
          (c.storeCall n (s.processMeasuredData data timeSignal)).transported transported := by
        rw [SubscribedSignal.processMeasuredData_transported, storeCall_transported]
      cases (c.access table.timeSignalNumber).signal? table.timeSignalNumber with
      | none => exact hcall _ none { s with timeSignal := none }
      | some time => exact hcall _ (some time) { s with timeSignal := some time.signalNumber }

theorem processMeasuredData_transported (data : Bytes) :
    c.transported.processMeasuredData n data =
      (c.processMeasuredData n data).transported transported := by
  unfold processMeasuredData
  rw [subscribedSignals_transported]
  rcases c.subscribedSignals n with _ | _ | s
  · rfl
  · rfl
  · show (if s.isTimeSignal then _ else _) = _
    dsimp only
    split_ifs
    · exact processTime_transported c n s data
    · exact processValues_transported c n s data

/-! ### Meta information -/

variable [JsonRuntime] [LawfulJsonRuntime]

theorem processSignalMetaInformation_transported (method : String) (params : Json) :
    c.transported.processSignalMetaInformation n method params.transported s.transported =
      (c.processSignalMetaInformation n method params s).transported transported := by
  unfold processSignalMetaInformation
  rw [SubscribedSignal.processSignalMetaInformation_transported]
  cases s.processSignalMetaInformation method params with
  | abrupt why s' =>
    dsimp only [Completion.map, Call.transported]
    rw [setSignal_transported]
    rfl
  | normal s' =>
    dsimp only [Completion.map, Call.transported]
    rw [setSignal_transported]
    by_cases hsignal : method = metaMethodSignal
    · by_cases hunsubscribe : method = metaMethodUnsubscribe
      · simp only [if_pos hsignal, if_pos hunsubscribe, register_transported,
          eraseSignal_transported]
        rfl
      · simp only [if_pos hsignal, if_neg hunsubscribe, register_transported]
        rfl
    · by_cases hunsubscribe : method = metaMethodUnsubscribe
      · simp only [if_neg hsignal, if_pos hunsubscribe, eraseSignal_transported]
        rfl
      · simp only [if_neg hsignal, if_neg hunsubscribe]
        rfl

theorem processMetaInformation_transported (m : MetaInformation) :
    c.transported.processMetaInformation n m.transported =
      (c.processMetaInformation n m).transported transported := by
  unfold processMetaInformation
  rw [MetaInformation.method_transported, MetaInformation.params_transported,
    subscribedSignals_transported]
  cases m.method with
  | error why => rfl
  | ok method =>
    dsimp only
    split_ifs
    · rcases c.subscribedSignals n with _ | _ | s
      · rfl
      · rfl
      · show (c.transported.unregister n s.transported).processSignalMetaInformation n method
          m.params.transported s.transported = _
        rw [unregister_transported, processSignalMetaInformation_transported]
    · rw [Json.find?_transported]
      cases m.params.find? metaSignalid with
      | none => rfl
      | some signalId =>
        rcases c.subscribedSignals n with _ | p
        · have hset := setSignal_transported c n { signalNumber := n }
          have hcall :=
            processSignalMetaInformation_transported (c.setSignal n { signalNumber := n }) n
              { signalNumber := n } method m.params
          rw [← hset] at hcall
          exact hcall
        · simp only [Option.map_some, Json.text_transported]
          cases signalId.text <;> rfl
    · rcases c.subscribedSignals n with _ | _ | s
      · rfl
      · rfl
      · exact processSignalMetaInformation_transported c n s method m.params

/-! ### Calls -/

/-- A container does the same with a document that is read back. -/
theorem process_transported (i : Input) :
    c.transported.process i.transported = (c.process i).transported transported := by
  cases i with
  | metaInformation n m => exact processMetaInformation_transported c n m
  | measuredData n data => exact processMeasuredData_transported c n data

theorem succeeds_transported (i : Input) :
    c.transported.Succeeds i.transported ↔ c.Succeeds i := by
  rw [Succeeds, process_transported]
  rfl

theorem foldl_transported (inputs : List Input) :
    (inputs.map Input.transported).foldl next c.transported =
      (inputs.foldl next c).transported := by
  induction inputs generalizing c with
  | nil => rfl
  | cons i inputs ih =>
    rw [List.map_cons, List.foldl_cons, List.foldl_cons, ← ih, next, process_transported]
    rfl

theorem callbacks_transported (inputs : List Input) :
    c.transported.callbacks (inputs.map Input.transported) =
      (c.callbacks inputs).map Callback.transported := by
  induction inputs generalizing c with
  | nil => rfl
  | cons i inputs ih =>
    rw [List.map_cons, callbacks, callbacks, List.map_append, ← ih, process_transported]
    rfl

theorem allowedAlong_transported (inputs : List Input) :
    ReachedBy.AllowedAlong next Succeeds c.transported (inputs.map Input.transported) ↔
      ReachedBy.AllowedAlong next Succeeds c inputs := by
  induction inputs generalizing c with
  | nil => exact Iff.rfl
  | cons i inputs ih =>
    have hnext : c.transported.next i.transported = (c.next i).transported := by
      rw [next, process_transported]
      rfl
    rw [List.map_cons, ReachedBy.AllowedAlong, ReachedBy.AllowedAlong, succeeds_transported, hnext,
      ih]

/-- A description with a linear rule, whose signed delta is read back as an unsigned one. -/
def signedDelta : List Input :=
  [.metaInformation 1 (.acknowledgement (.string "time")),
    .metaInformation 1 (.description "table" (.object
      [(metaRule, .string "linear"),
        (metaRuletypeLinear, .object [(metaDelta, .numberInteger 1000)])]))]

end SignalContainer

end StreamingProtocol
