import StreamingProtocol.Foundation.Interleaving
import StreamingProtocol.Session.Membership
import Mathlib.Order.CompletePartialOrder

/-!
# Signals and tables of different producers

All signals and all tables of a container lie in the same two maps. A group of signals that are
described with tables of their own does not use the rest of these maps: a container joined from the
part of the group and any other part processes the calls of the group as the part of the group alone
would, and leaves the other part as it is.

## Main definitions

* `SignalGroup`: numbers of signals and ids of tables.
* `SignalGroup.join`: the container with one part for the group and another part for the rest.
* `SignalGroup.Within`: the part of the group uses its own tables only.

## Main results

* `SignalGroup.process_join`: a call of the group.
* `SignalGroup.isolated_of_disjoint`: interleaved calls of two groups.
-/

namespace StreamingProtocol

open ByteString SignalContainer

/-- Numbers of signals, and ids of tables in which they are described. -/
structure SignalGroup where
  numbers : Set SignalNumber
  tableIds : Set String
  empty_notMem : "" ∉ tableIds

/-- A call that leaves another object behind. -/
def Call.map {σ τ : Type} (f : σ → τ) (call : Call σ) : Call τ :=
  ⟨call.outcome, f call.state, call.callbacks⟩

/-- `SignalContainer::process`, as a receiver that answers with the result and the callbacks. -/
def SignalContainer.answer [JsonRuntime] (c : SignalContainer) (i : Input) :
    (Abrupt × List Callback) × SignalContainer :=
  (((c.process i).outcome, (c.process i).callbacks), (c.process i).state)

namespace SignalGroup

variable (G : SignalGroup) (c d : SignalContainer)

open Classical in
/-- The container with the signals and tables of a group from one container and all others from
another one. -/
noncomputable def join : SignalContainer where
  subscribedSignals k :=
    if k ∈ G.numbers then c.subscribedSignals k else d.subscribedSignals k
  tables id := if id ∈ G.tableIds then c.tables id else d.tables id

/-- The part of a group uses its own tables only. -/
structure Within : Prop where
  signal : ∀ n ∈ G.numbers, ∀ s, c.subscribedSignals n = some (some s) →
    s.tableId ∈ G.tableIds ∨ s.tableId = ""
  table : ∀ id ∈ G.tableIds, ∀ table, c.tables id = some table → ∀ k time, table.Refers k time →
    k ∈ G.numbers
  noDefault : c.tables "" = none

variable {G c d} {n k : SignalNumber} {s : SubscribedSignal} {id : String}

/-! ### Parts of a container -/

theorem signals_join (hn : n ∈ G.numbers) :
    (G.join c d).subscribedSignals n = c.subscribedSignals n := if_pos hn

theorem signals_join_of_notMem (hn : n ∉ G.numbers) :
    (G.join c d).subscribedSignals n = d.subscribedSignals n := if_neg hn

theorem tables_join (hid : id ∈ G.tableIds) : (G.join c d).tables id = c.tables id := if_pos hid

theorem tables_join_of_notMem (hid : id ∉ G.tableIds) : (G.join c d).tables id = d.tables id :=
  if_neg hid

theorem signal?_join (hn : n ∈ G.numbers) : (G.join c d).signal? n = c.signal? n := by
  rw [signal?, signal?, signals_join hn]

/-- The part for the group replaces what was there before. -/
theorem join_join (c' : SignalContainer) : G.join c (G.join c' d) = G.join c d := by
  ext1
  · funext k
    by_cases hk : k ∈ G.numbers
    · rw [signals_join hk, signals_join hk]
    · rw [signals_join_of_notMem hk, signals_join_of_notMem hk, signals_join_of_notMem hk]
  · funext id
    by_cases hid : id ∈ G.tableIds
    · rw [tables_join hid, tables_join hid]
    · rw [tables_join_of_notMem hid, tables_join_of_notMem hid, tables_join_of_notMem hid]

/-- Parts for different groups are independent of each other. -/
theorem join_comm {H : SignalGroup} (hnumbers : Disjoint G.numbers H.numbers)
    (htableIds : Disjoint G.tableIds H.tableIds) (c' : SignalContainer) :
    G.join c (H.join c' d) = H.join c' (G.join c d) := by
  ext1
  · funext k
    by_cases hk : k ∈ G.numbers
    · have hk' := Set.disjoint_left.mp hnumbers hk
      rw [signals_join hk, signals_join_of_notMem hk', signals_join hk]
    · rw [signals_join_of_notMem hk]
      by_cases hk' : k ∈ H.numbers
      · rw [signals_join hk', signals_join hk']
      · rw [signals_join_of_notMem hk', signals_join_of_notMem hk', signals_join_of_notMem hk]
  · funext id
    by_cases hid : id ∈ G.tableIds
    · have hid' := Set.disjoint_left.mp htableIds hid
      rw [tables_join hid, tables_join_of_notMem hid', tables_join hid]
    · rw [tables_join_of_notMem hid]
      by_cases hid' : id ∈ H.tableIds
      · rw [tables_join hid', tables_join hid']
      · rw [tables_join_of_notMem hid', tables_join_of_notMem hid', tables_join_of_notMem hid]

theorem setSignal_join (hn : n ∈ G.numbers) (s : SubscribedSignal) :
    (G.join c d).setSignal n s = G.join (c.setSignal n s) d := by
  ext1
  · funext k
    by_cases hk : k ∈ G.numbers
    · rw [signals_join hk, subscribedSignals_setSignal, subscribedSignals_setSignal,
        signals_join hk]
    · rw [signals_join_of_notMem hk, subscribedSignals_setSignal,
        if_neg (ne_of_mem_of_not_mem hn hk).symm, signals_join_of_notMem hk]
  · rfl

theorem eraseSignal_join (hn : n ∈ G.numbers) :
    (G.join c d).eraseSignal n = G.join (c.eraseSignal n) d := by
  ext1
  · funext k
    by_cases hk : k ∈ G.numbers
    · rw [signals_join hk, subscribedSignals_eraseSignal, subscribedSignals_eraseSignal,
        signals_join hk]
    · rw [signals_join_of_notMem hk, subscribedSignals_eraseSignal,
        if_neg (ne_of_mem_of_not_mem hn hk).symm, signals_join_of_notMem hk]
  · rfl

theorem setTable_join (hid : id ∈ G.tableIds) (table : Table) :
    (G.join c d).setTable id table = G.join (c.setTable id table) d := by
  ext1
  · rfl
  · funext id'
    by_cases hid' : id' ∈ G.tableIds
    · rw [tables_join hid', tables_setTable, tables_setTable, tables_join hid']
    · rw [tables_join_of_notMem hid', tables_setTable, if_neg (ne_of_mem_of_not_mem hid hid').symm,
        tables_join_of_notMem hid']

theorem eraseTable_join (hid : id ∈ G.tableIds) :
    (G.join c d).eraseTable id = G.join (c.eraseTable id) d := by
  ext1
  · rfl
  · funext id'
    by_cases hid' : id' ∈ G.tableIds
    · rw [tables_join hid', tables_eraseTable, tables_eraseTable, tables_join hid']
    · rw [tables_join_of_notMem hid', tables_eraseTable,
        if_neg (ne_of_mem_of_not_mem hid hid').symm, tables_join_of_notMem hid']

theorem access_join (hn : n ∈ G.numbers) : (G.join c d).access n = G.join (c.access n) d := by
  ext1
  · funext k
    by_cases hk : k ∈ G.numbers
    · rw [signals_join hk, subscribedSignals_access, subscribedSignals_access, signals_join hk,
        signals_join hn]
    · rw [signals_join_of_notMem hk, subscribedSignals_access,
        if_neg fun h => ne_of_mem_of_not_mem hn hk h.1.symm, signals_join_of_notMem hk]
  · simp [join]

theorem modifySignal_join (hn : n ∈ G.numbers) (change : SubscribedSignal → SubscribedSignal) :
    (G.join c d).modifySignal n change = G.join (c.modifySignal n change) d := by
  unfold modifySignal
  rw [signal?_join hn]
  split
  · rfl
  · exact setSignal_join hn _

/-- The signals of the group look up its own tables, or the default one, which does not exist. -/
theorem Within.tables_join (hc : G.Within c) (hd : d.tables "" = none)
    (hid : id ∈ G.tableIds ∨ id = "") : (G.join c d).tables id = c.tables id := by
  obtain hid | rfl := hid
  · exact SignalGroup.tables_join hid
  · rw [tables_join_of_notMem G.empty_notMem, hd, hc.noDefault]

/-! ### Meta information -/

section MetaInformation

variable [JsonRuntime]

omit [JsonRuntime] in
theorem register_join (hs : s.tableId ∈ G.tableIds) (n : SignalNumber) :
    (G.join c d).register n s = G.join (c.register n s) d := by
  unfold register
  rw [tables_join hs, setTable_join hs]

omit [JsonRuntime] in
theorem unregister_join (hc : G.Within c) (hd : d.tables "" = none)
    (hs : s.tableId ∈ G.tableIds ∨ s.tableId = "") (n : SignalNumber) :
    (G.join c d).unregister n s = G.join (c.unregister n s) d := by
  unfold unregister
  rw [hc.tables_join hd hs]
  cases htable : c.tables s.tableId with
  | none => rfl
  | some table =>
    have hid : s.tableId ∈ G.tableIds := hs.resolve_right fun h => by
      cases (h ▸ hc.noDefault).symm.trans htable
    dsimp only
    split_ifs
    · exact eraseTable_join hid
    · exact setTable_join hid _

/-- A description names a table of the group, by a text or by a number. -/
def Names (G : SignalGroup) (params : Json) : Prop :=
  ∃ node, params.find? metaTableid = some node ∧
    ∃ id ∈ G.tableIds, node = .string id ∨ (node.isNumber ∧ node.text = .ok id)

theorem Names.tableId_mem {params : Json} (h : G.Names params) (s : SubscribedSignal) :
    (s.processSignal params).state.tableId ∈ G.tableIds := by
  obtain ⟨node, hnode, id, hid, hnamed⟩ := h
  rw [SubscribedSignal.tableId_processSignal, SubscribedSignal.tableNamed_of_id s hnode hnamed]
  exact hid

theorem processSignalMetaInformation_join (hn : n ∈ G.numbers) {method : String} {params : Json}
    (hnames : method = metaMethodSignal → G.Names params) (s : SubscribedSignal) :
    (G.join c d).processSignalMetaInformation n method params s =
      (c.processSignalMetaInformation n method params s).map fun c => G.join c d := by
  unfold SignalContainer.processSignalMetaInformation
  cases hprocessed : s.processSignalMetaInformation method params with
  | abrupt why s' =>
    dsimp only
    rw [setSignal_join hn]
    rfl
  | normal s' =>
    dsimp only
    rw [setSignal_join hn]
    by_cases hsignal : method = metaMethodSignal
    · subst hsignal
      have hid : s'.tableId ∈ G.tableIds := by
        have hs' := (hnames rfl).tableId_mem s
        rw [SubscribedSignal.processSignalMetaInformation, if_neg (by decide), if_pos rfl]
          at hprocessed
        rwa [hprocessed] at hs'
      simp only [if_true, if_neg metaMethodSignal_ne_unsubscribe, register_join hid]
      rfl
    · simp only [if_neg hsignal]
      split_ifs
      · rw [eraseSignal_join hn]
        rfl
      · rfl

/-- A call with meta information for a signal of the group. -/
theorem processMetaInformation_join (hc : G.Within c) (hd : d.tables "" = none)
    (hn : n ∈ G.numbers) {m : MetaInformation}
    (hnames : m.method = .ok metaMethodSignal → G.Names m.params) :
    (G.join c d).processMetaInformation n m =
      (c.processMetaInformation n m).map fun c => G.join c d := by
  unfold SignalContainer.processMetaInformation
  rw [signals_join hn]
  cases hmethod : m.method with
  | error why => rfl
  | ok method =>
    have hnames' (h : method = metaMethodSignal) : G.Names m.params := hnames (h ▸ hmethod)
    dsimp only
    split_ifs
    · rcases hs : c.subscribedSignals n with _ | _ | s
      · rfl
      · rfl
      · dsimp only
        rw [unregister_join hc hd (hc.signal n hn s hs)]
        exact processSignalMetaInformation_join hn hnames' s
    · cases m.params.find? metaSignalid with
      | none => rfl
      | some signalId =>
        cases c.subscribedSignals n with
        | some _ =>
          dsimp only
          cases signalId.text <;> rfl
        | none =>
          dsimp only
          rw [setSignal_join hn]
          exact processSignalMetaInformation_join hn hnames' _
    · rcases c.subscribedSignals n with _ | _ | s
      · rfl
      · rfl
      · exact processSignalMetaInformation_join hn hnames' s

end MetaInformation

/-! ### Measured data -/

theorem visitDataSignal_join (hn : n ∈ G.numbers) (hk : k ∈ G.numbers)
    (change : SubscribedSignal → SubscribedSignal) (c : SignalContainer) :
    visitDataSignal n change k (G.join c d) =
      (visitDataSignal n change k c).map fun c => G.join c d := by
  unfold visitDataSignal
  rw [access_join hk, modifySignal_join hn]
  dsimp only
  rw [signal?_join hk]
  split <;> rfl

/-- The rounds of a loop over the data signals of a table of the group. -/
theorem dataSignals_join (hc : G.Within c) (hid : id ∈ G.tableIds) {table : Table}
    (htable : c.tables id = some table)
    {visit : SignalNumber → SignalContainer → Completion SignalContainer}
    (hvisit : ∀ k ∈ G.numbers, ∀ c, visit k (G.join c d) = (visit k c).map fun c => G.join c d) :
    Completion.sequence (table.dataSignals.map visit) (G.join c d) =
      (Completion.sequence (table.dataSignals.map visit) c).map fun c => G.join c d := by
  refine @Completion.sequence_map _ (fun c => G.join c d) _ (fun p hp c' => ?_) c
  obtain ⟨k, hk, rfl⟩ := List.mem_map.mp hp
  exact hvisit k (hc.table id hid table htable k false ((Finset.mem_sort _).mp hk)) c'

/-- The table of a signal of the group is one of its own, if there is one. -/
theorem Within.tableId_mem (hc : G.Within c) (hn : n ∈ G.numbers)
    (hs : c.subscribedSignals n = some (some s)) {table : Table}
    (htable : c.tables s.tableId = some table) : s.tableId ∈ G.tableIds := by
  refine (hc.signal n hn s hs).resolve_right fun h => ?_
  cases (h ▸ hc.noDefault).symm.trans htable

section MeasuredData

variable (hc : G.Within c) (hd : d.tables "" = none) (hn : n ∈ G.numbers)
  (hs : c.subscribedSignals n = some (some s)) (data : Bytes)

include hc hd hn hs

theorem processTimeStamp_join :
    (G.join c d).processTimeStamp n s data =
      (c.processTimeStamp n s data).map fun c => G.join c d := by
  unfold processTimeStamp
  rw [hc.tables_join hd (hc.signal n hn s hs)]
  cases htable : c.tables s.tableId with
  | none => rfl
  | some table =>
    dsimp only
    cases word? data 0 with
    | none => rfl
    | some timeStamp =>
      exact dataSignals_join hc (hc.tableId_mem hn hs htable) htable fun k hk c =>
        visitDataSignal_join hn hk _ c

theorem processIndexedTimeStamp_join :
    (G.join c d).processIndexedTimeStamp n s data =
      (c.processIndexedTimeStamp n s data).map fun c => G.join c d := by
  unfold processIndexedTimeStamp
  rw [hc.tables_join hd (hc.signal n hn s hs)]
  cases htable : c.tables s.tableId with
  | none => rfl
  | some table =>
    dsimp only
    refine dataSignals_join hc (hc.tableId_mem hn hs htable) htable fun k hk c => ?_
    split
    · exact visitDataSignal_join hn hk _ c
    · rw [access_join hk]
      rfl

theorem processTime_join :
    (G.join c d).processTime n s data = (c.processTime n s data).map fun c => G.join c d := by
  unfold processTime
  rw [processTimeStamp_join hc hd hn hs, processIndexedTimeStamp_join hc hd hn hs]
  split_ifs
  · cases c.processTimeStamp n s data with
    | abrupt why c' => rfl
    | normal c' =>
      simp only [Completion.map]
      rw [signal?_join hn]
      cases c'.signal? n with
      | none => rfl
      | some s' =>
        dsimp only
        rw [setSignal_join hn]
        split <;> rfl
  · cases c.processIndexedTimeStamp n s data <;> rfl

theorem processValues_join :
    (G.join c d).processValues n s data = (c.processValues n s data).map fun c => G.join c d := by
  unfold processValues
  rw [hc.tables_join hd (hc.signal n hn s hs)]
  cases htable : c.tables s.tableId with
  | none => rfl
  | some table =>
    dsimp only
    split_ifs with hzero
    · rfl
    · have htime : table.timeSignalNumber ∈ G.numbers :=
        hc.table _ (hc.tableId_mem hn hs htable) table htable _ true ⟨rfl, hzero⟩
      rw [access_join htime, signal?_join htime, setSignal_join hn]
      rfl

end MeasuredData

/-- A call with measured data of a signal of the group. -/
theorem processMeasuredData_join (hc : G.Within c) (hd : d.tables "" = none) (hn : n ∈ G.numbers)
    (data : Bytes) :
    (G.join c d).processMeasuredData n data =
      (c.processMeasuredData n data).map fun c => G.join c d := by
  unfold processMeasuredData
  rw [signals_join hn]
  rcases hs : c.subscribedSignals n with _ | _ | s
  · rfl
  · rfl
  · dsimp only
    split_ifs
    · exact processTime_join hc hd hn hs data
    · exact processValues_join hc hd hn hs data

/-! ### Calls of a group -/

variable [JsonRuntime]

/-- A call for a signal of the group. Descriptions name tables of the group. -/
def Sends (G : SignalGroup) : Input → Prop
  | .metaInformation n m => n ∈ G.numbers ∧ (m.method = .ok metaMethodSignal → G.Names m.params)
  | .measuredData n _ => n ∈ G.numbers

/-- **Calls of a group.** They process the part of the group as if there were no other one, and
leave the other one alone. -/
theorem process_join (hc : G.Within c) (hd : d.tables "" = none) {i : Input} (hi : G.Sends i) :
    (G.join c d).process i = (c.process i).map fun c => G.join c d := by
  cases i with
  | metaInformation n m => exact processMetaInformation_join hc hd hi.1 hi.2
  | measuredData n data => exact processMeasuredData_join hc hd hi data

omit [JsonRuntime] in
theorem Within.setSignal (hc : G.Within c) (n : SignalNumber)
    (hs : s.tableId ∈ G.tableIds ∨ s.tableId = "") : G.Within (c.setSignal n s) where
  signal k hk t ht := by
    rw [subscribedSignals_setSignal] at ht
    split_ifs at ht
    · cases ht
      exact hs
    · exact hc.signal k hk t ht
  table := hc.table
  noDefault := hc.noDefault

omit [JsonRuntime] in
theorem Within.eraseSignal (hc : G.Within c) (n : SignalNumber) : G.Within (c.eraseSignal n) where
  signal k hk t ht := by
    rw [subscribedSignals_eraseSignal] at ht
    split_ifs at ht
    exact hc.signal k hk t ht
  table := hc.table
  noDefault := hc.noDefault

omit [JsonRuntime] in
theorem Within.register (hc : G.Within c) (hn : n ∈ G.numbers) (hs : s.tableId ∈ G.tableIds) :
    G.Within (c.register n s) where
  signal := hc.signal
  table id hid table htable k time hk := by
    unfold SignalContainer.register at htable
    rw [tables_setTable] at htable
    split_ifs at htable with h
    · cases htable
      obtain hk | ⟨rfl, -⟩ := Table.refers_of_with hk
      · cases hold : c.tables s.tableId with
        | none =>
          rw [hold] at hk
          have hempty : Table.isEmpty {} := ⟨rfl, rfl⟩
          exact absurd hk (Table.isEmpty_iff.mp hempty k time)
        | some old =>
          rw [hold] at hk
          exact hc.table _ hs old hold k time hk
      · exact hn
    · exact hc.table id hid table htable k time hk
  noDefault := by
    unfold SignalContainer.register
    rw [tables_setTable, if_neg (ne_of_mem_of_not_mem hs G.empty_notMem).symm]
    exact hc.noDefault

omit [JsonRuntime] in
theorem Within.unregister (hc : G.Within c) (n : SignalNumber) (s : SubscribedSignal) :
    G.Within (c.unregister n s) := by
  unfold SignalContainer.unregister
  cases htable : c.tables s.tableId with
  | none => exact hc
  | some table =>
    dsimp only
    have hid : s.tableId ≠ "" := by
      intro h
      cases (h ▸ hc.noDefault).symm.trans htable
    split_ifs
    · refine ⟨hc.signal, fun id hid table' htable' k time hk => ?_, ?_⟩
      · rw [tables_eraseTable] at htable'
        split_ifs at htable'
        exact hc.table id hid table' htable' k time hk
      · rw [tables_eraseTable, if_neg hid.symm]
        exact hc.noDefault
    · refine ⟨hc.signal, fun id hid table' htable' k time hk => ?_, ?_⟩
      · rw [tables_setTable] at htable'
        split_ifs at htable' with h
        · cases htable'
          exact hc.table id hid table (h ▸ htable) k time (Table.refers_of_without hk).1
        · exact hc.table id hid table' htable' k time hk
      · rw [tables_setTable, if_neg hid.symm]
        exact hc.noDefault

/-- Meta information for a signal of the group keeps to its tables. -/
theorem Within.processMetaInformation (hc : G.Within c) (hn : n ∈ G.numbers) {m : MetaInformation}
    (hnames : m.method = .ok metaMethodSignal → G.Names m.params) :
    G.Within (c.processMetaInformation n m).state := by
  have hstep := metaStep_processMetaInformation c n m
  generalize c.processMetaInformation n m = call at hstep ⊢
  cases hstep with
  | refused => exact hc
  | unsubscribed s => exact (hc.unregister n s).eraseSignal n
  | subscribed id => exact hc.setSignal n (.inr rfl)
  | subscribeRefused => exact hc.setSignal n (.inr rfl)
  | described s s' hs hmethod hdescribed =>
    have hid := (hnames hmethod).tableId_mem s
    rw [hdescribed] at hid
    exact (hc.setSignal n (.inl hid)).register hn hid
  | descriptionRefused s s' why hs hmethod hrefused =>
    have hid := (hnames hmethod).tableId_mem s
    rw [hrefused] at hid
    exact hc.setSignal n (.inl hid)
  | other => exact hc

omit [JsonRuntime] in
/-- Measured data changes no table and moves no signal to another one. -/
theorem Within.processMeasuredData (hc : G.Within c) (n : SignalNumber) (data : Bytes) :
    G.Within (c.processMeasuredData n data).state := by
  have hstep := dataStep_processMeasuredData c n data
  refine ⟨fun k hk s hs => ?_, ?_, ?_⟩
  · have hslot := hstep.slot k
    rw [hs] at hslot
    generalize hold : c.subscribedSignals k = old at hslot
    cases hslot with
    | kept h =>
      have hid := hc.signal k hk _ hold
      obtain ⟨_, _, _, _, rfl⟩ := h
      exact hid
  · rw [hstep.tables]
    exact hc.table
  · rw [hstep.tables]
    exact hc.noDefault

theorem Within.process (hc : G.Within c) {i : Input} (hi : G.Sends i) :
    G.Within (c.process i).state := by
  cases i with
  | metaInformation n m => exact hc.processMetaInformation hi.1 hi.2
  | measuredData n data => exact hc.processMeasuredData n data

/-! ### Two groups -/

/-- The producer of the signals of a group: its part of the container is what the container would
be without the others. -/
def party (G : SignalGroup) : Party SignalContainer.answer where
  Sends := G.Sends
  Same c a := G.join a c = c ∧ G.Within a ∧ c.tables "" = none
  own {c a i} hi hsame := by
    obtain ⟨hjoin, ha, hdefault⟩ := hsame
    have hcall := process_join ha hdefault hi
    rw [hjoin] at hcall
    have hstate : (c.process i).state = G.join (a.process i).state c := congrArg Call.state hcall
    refine ⟨?_, ?_, ha.process hi, ?_⟩
    · exact congrArg (fun call => (call.outcome, call.callbacks)) hcall
    · show G.join (a.process i).state (c.process i).state = (c.process i).state
      rw [hstate, join_join]
    · show (c.process i).state.tables "" = none
      rw [hstate, tables_join_of_notMem G.empty_notMem, hdefault]

/-- Groups without a common signal or table spare each other. -/
theorem spares_party {H : SignalGroup} (hnumbers : Disjoint G.numbers H.numbers)
    (htableIds : Disjoint G.tableIds H.tableIds) : G.party.Spares H.party := by
  intro c a b i hi ha hb
  obtain ⟨hjoin, hwithin, hdefault⟩ := ha
  have hcall := process_join hwithin hdefault hi
  rw [hjoin] at hcall
  have hstate : (c.process i).state = G.join (a.process i).state c := congrArg Call.state hcall
  refine ⟨?_, hb.2.1, ?_⟩
  · show H.join b (c.process i).state = (c.process i).state
    rw [hstate, ← join_comm hnumbers htableIds, hb.1]
  · show (c.process i).state.tables "" = none
    rw [hstate, tables_join_of_notMem G.empty_notMem, hdefault]

omit [JsonRuntime] in
theorem within_initial (G : SignalGroup) : G.Within initial where
  signal _ _ _ h := by cases h
  table _ _ _ h := by cases h
  noDefault := rfl

omit [JsonRuntime] in
theorem join_self (G : SignalGroup) (c : SignalContainer) : G.join c c = c := by
  ext1
  · exact funext fun k => ite_self _
  · exact funext fun id => ite_self _

/-- **Isolation.** If two groups have no common signal and no common table, all calls are answered
in an interleaving as they are answered without the calls of the other group. -/
theorem isolated_of_disjoint {H : SignalGroup} (hnumbers : Disjoint G.numbers H.numbers)
    (htableIds : Disjoint G.tableIds H.tableIds) {as bs cs : List Input}
    (has : ∀ i ∈ as, G.Sends i) (hbs : ∀ i ∈ bs, H.Sends i) (h : Interleaving as bs cs) :
    Interleaving (answers answer initial as) (answers answer initial bs)
      (answers answer initial cs) :=
  Party.interleaving_answers (spares_party hnumbers htableIds)
    (spares_party hnumbers.symm htableIds.symm) h has hbs
    ⟨join_self G initial, within_initial G, rfl⟩ ⟨join_self H initial, within_initial H, rfl⟩

omit [JsonRuntime]

/-- The group of a signal with a table of its own. -/
def single (n : SignalNumber) (id : String) (hid : "" ≠ id) : SignalGroup where
  numbers := {n}
  tableIds := {id}
  empty_notMem := hid

/-- A signal is subscribed and described, and gets a value. -/
def singleInputs (n : SignalNumber) (id : String) : List Input :=
  [.metaInformation n (.acknowledgement (.string id)),
    .metaInformation n (.description id (.object [(metaDatatype, .string dataTypeUint8)])),
    .measuredData n [5]]

theorem sends_singleInputs [JsonRuntime] (n : SignalNumber) (id : String) (hid : "" ≠ id) :
    ∀ i ∈ singleInputs n id, (single n id hid).Sends i := by
  intro i hi
  obtain rfl | rfl | rfl : i = _ ∨ i = _ ∨ i = _ := by simpa [singleInputs] using hi
  · exact ⟨rfl, fun h => absurd (Except.ok.inj h) (by decide)⟩
  · exact ⟨rfl, fun _ => ⟨.string id, rfl, id, rfl, .inl rfl⟩⟩
  · exact rfl

/-- Two signals with tables of their own, call by call in turns. -/
theorem isolated_singleInputs :
    let answer := @SignalContainer.answer decimalRuntime
    Interleaving (answers answer initial (singleInputs 1 "a"))
      (answers answer initial (singleInputs 2 "b"))
      (answers answer initial
        (((singleInputs 1 "a").zip (singleInputs 2 "b")).flatMap fun p => [p.1, p.2])) := by
  let _ : JsonRuntime := decimalRuntime
  have hid : "" ≠ "a" ∧ "" ≠ "b" ∧ "a" ≠ "b" := by decide
  have hnumbers : Disjoint (single 1 "a" hid.1).numbers (single 2 "b" hid.2.1).numbers :=
    Set.disjoint_singleton.mpr (by decide)
  have htableIds : Disjoint (single 1 "a" hid.1).tableIds (single 2 "b" hid.2.1).tableIds :=
    Set.disjoint_singleton.mpr hid.2.2
  exact isolated_of_disjoint hnumbers htableIds (sends_singleInputs 1 "a" hid.1)
    (sends_singleInputs 2 "b" hid.2.1)
    (.left _ (.right _ (.left _ (.right _ (.left _ (.right _ .nil))))))

end SignalGroup

end StreamingProtocol
