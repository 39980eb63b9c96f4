import StreamingProtocol.Presentation.AnnouncedTable
import StreamingProtocol.Session.ContainerRuns

/-!
# Tables and signals

The tables name signals by their numbers, and the signals name tables by their ids. Both are kept
in step as long as a signal that its table names stays in the table and stays what it is. Nothing
in the container takes a signal out of its old table when a description names another one, or when
a data signal becomes a time signal; the entry that is left behind outlives the signal, and a
lookup of it inserts a null pointer.

## Main definitions

* `SignalContainer.Consistent`: the tables and the signals are in step.
* `SignalContainer.KeepsMembership`: calls that keep them in step.
* `SignalContainer.History`: a container and which signals were described last.

## Main results

* `SignalContainer.consistent_of_reached`.
-/

namespace StreamingProtocol

open ByteString

namespace Table

variable {table : Table} {n k : SignalNumber} {isTimeSignal time : Bool}

theorem isEmpty_iff : table.isEmpty ↔ ∀ k time, ¬ table.Refers k time := by
  constructor
  · rintro ⟨hzero, hempty⟩ k time h
    cases time with
    | true => exact h.2 (h.1.symm.trans hzero)
    | false =>
      have hk : k ∈ table.dataSignalNumbers := h
      rw [hempty] at hk
      exact Finset.notMem_empty k hk
  · intro h
    refine ⟨?_, Finset.eq_empty_of_forall_notMem fun k => h k false⟩
    by_contra hne
    exact h table.timeSignalNumber true ⟨rfl, hne⟩

theorem not_isEmpty_of_refers (h : table.Refers k time) : ¬ table.isEmpty :=
  fun hempty => isEmpty_iff.mp hempty k time h

/-- A table that a signal leaves names the other signals only. -/
theorem refers_of_without (h : (table.without n isTimeSignal).Refers k time) :
    table.Refers k time ∧ ¬ (k = n ∧ time = isTimeSignal) := by
  cases isTimeSignal <;> cases time
  · have hk : k ∈ table.dataSignalNumbers.erase n := h
    rw [Finset.mem_erase] at hk
    exact ⟨hk.2, fun hn => hk.1 hn.1⟩
  · exact ⟨h, fun hn => nomatch hn.2⟩
  · exact ⟨h, fun hn => nomatch hn.2⟩
  · exact absurd h.1.symm h.2

theorem mem_without (h : k ∈ table.dataSignalNumbers) (hk : k ≠ n) :
    k ∈ (table.without n isTimeSignal).dataSignalNumbers := by
  cases isTimeSignal
  · exact Finset.mem_erase.mpr ⟨hk, h⟩
  · exact h

/-- A table that a signal joins names the signal and those it named before. -/
theorem refers_of_with (h : (table.with n isTimeSignal).Refers k time) :
    table.Refers k time ∨ (k = n ∧ time = isTimeSignal) := by
  cases isTimeSignal <;> cases time
  · have hk : k ∈ insert n table.dataSignalNumbers := h
    rcases Finset.mem_insert.mp hk with hn | hmem
    · exact .inr ⟨hn, rfl⟩
    · exact .inl hmem
  · exact .inl h
  · exact .inl h
  · exact .inr ⟨h.1.symm, rfl⟩

theorem mem_with (h : k ∈ table.dataSignalNumbers) :
    k ∈ (table.with n isTimeSignal).dataSignalNumbers := by
  cases isTimeSignal
  · exact Finset.mem_insert_of_mem h
  · exact h

theorem refers_with_self (hn : isTimeSignal = true → n ≠ 0) :
    (table.with n isTimeSignal).Refers n isTimeSignal := by
  cases isTimeSignal
  · exact Finset.mem_insert_self n _
  · exact ⟨rfl, hn rfl⟩

end Table

namespace SignalContainer

/-! ### Tables and signals in step -/

/-- The tables and the signals are in step. A table names subscribed signals only, its time signal
is one and its data signals are none, and all of them name the table. -/
structure Consistent (c : SignalContainer) : Prop where
  noNull : ∀ n, c.subscribedSignals n ≠ some none
  refers : ∀ id table, c.tables id = some table → ∀ n time, table.Refers n time →
    ∃ s, c.subscribedSignals n = some (some s) ∧ s.isTimeSignal = time ∧ s.tableId = id
  nonempty : ∀ id table, c.tables id = some table → ¬ table.isEmpty

/-- A table has a data signal. -/
def HasData (c : SignalContainer) (id : String) (n : SignalNumber) : Prop :=
  ∃ table, c.tables id = some table ∧ n ∈ table.dataSignalNumbers

theorem consistent_initial : Consistent initial :=
  ⟨fun _ h => (nomatch h), fun _ _ h => (nomatch h), fun _ _ h => (nomatch h)⟩

variable {c : SignalContainer} {n : SignalNumber} {s : SubscribedSignal}

/-- A signal may change in a way that agrees with the tables that name it. -/
theorem Consistent.setSignal (h : c.Consistent)
    (hs : ∀ id table, c.tables id = some table → ∀ time, table.Refers n time →
      s.isTimeSignal = time ∧ s.tableId = id) : (c.setSignal n s).Consistent where
  noNull k := by
    rw [subscribedSignals_setSignal]
    split_ifs
    · exact nofun
    · exact h.noNull k
  refers id table htable k time hk := by
    rw [subscribedSignals_setSignal]
    split_ifs with hkn
    · subst hkn
      exact ⟨s, rfl, hs id table htable time hk⟩
    · exact h.refers id table htable k time hk
  nonempty := h.nonempty

theorem Consistent.setSignal_fresh (h : c.Consistent) (hfresh : c.subscribedSignals n = none) :
    (c.setSignal n s).Consistent := by
  refine h.setSignal fun id table htable time hn => ?_
  obtain ⟨t, ht, -⟩ := h.refers id table htable n time hn
  rw [hfresh] at ht
  cases ht

/-- A described signal joins its table. A time signal with the number 0 needs data signals in the
table, which would be empty without them. -/
theorem Consistent.register (h : c.Consistent) (hs : c.subscribedSignals n = some (some s))
    (hzero : n = 0 → s.isTimeSignal = true → ∃ k, c.HasData s.tableId k) :
    (c.register n s).Consistent where
  noNull := h.noNull
  refers id table htable k time hk := by
    unfold SignalContainer.register at htable
    rw [tables_setTable] at htable
    split_ifs at htable with hid
    · cases htable
      rw [subscribedSignals_register]
      rcases Table.refers_of_with hk with hold | ⟨rfl, rfl⟩
      · cases htable' : c.tables s.tableId with
        | none =>
          rw [htable'] at hold
          exact absurd hold (Table.isEmpty_iff.mp ⟨rfl, rfl⟩ k time)
        | some table' =>
          rw [htable'] at hold
          obtain ⟨t, ht, htime, ht'⟩ := h.refers _ table' htable' k time hold
          exact ⟨t, ht, htime, ht'.trans hid.symm⟩
      · exact ⟨s, hs, rfl, hid.symm⟩
    · exact h.refers id table htable k time hk
  nonempty id table htable := by
    unfold SignalContainer.register at htable
    rw [tables_setTable] at htable
    split_ifs at htable with hid
    · cases htable
      by_cases hn : s.isTimeSignal = true → n ≠ 0
      · exact Table.not_isEmpty_of_refers (Table.refers_with_self hn)
      · obtain ⟨htime, hn⟩ := Classical.not_imp.mp hn
        obtain ⟨k, table', htable', hk⟩ := hzero (not_not.mp hn) htime
        rw [htable']
        have hrefers : (table'.with n s.isTimeSignal).Refers k false := Table.mem_with hk
        exact Table.not_isEmpty_of_refers hrefers
    · exact h.nonempty id table htable

/-- An unsubscribed signal leaves its table, and the table goes with its last signal. -/
theorem tables_unregister (c : SignalContainer) (n : SignalNumber) (s : SubscribedSignal)
    (id : String) : (c.unregister n s).tables id =
      if id = s.tableId then
        (c.tables id).bind fun table =>
          if (table.without n s.isTimeSignal).isEmpty then none
          else some (table.without n s.isTimeSignal)
      else c.tables id := by
  unfold unregister
  split_ifs with hid
  · subst hid
    cases htable : c.tables s.tableId with
    | none => exact htable
    | some table =>
      dsimp only [Option.bind_some]
      split_ifs
      · rw [tables_eraseTable, if_pos rfl]
      · rw [tables_setTable, if_pos rfl]
  · cases c.tables s.tableId with
    | none => rfl
    | some table =>
      dsimp only
      split_ifs
      · rw [tables_eraseTable, if_neg hid]
      · rw [tables_setTable, if_neg hid]

/-- A table after an unsubscription was there before, with at least its signals. -/
theorem exists_table_of_unregister {id : String} {table : Table}
    (h : (c.unregister n s).tables id = some table) : ¬ table.isEmpty ∧ id = s.tableId ∧
      (∃ old, c.tables id = some old ∧ table = old.without n s.isTimeSignal) ∨
      id ≠ s.tableId ∧ c.tables id = some table := by
  rw [tables_unregister] at h
  split_ifs at h with hid
  · left
    obtain ⟨old, hold, h⟩ := Option.bind_eq_some_iff.mp h
    split_ifs at h with hempty
    cases h
    exact ⟨hempty, hid, old, hold, rfl⟩
  · exact .inr ⟨hid, h⟩

/-- No table names an unsubscribed signal any more. -/
theorem Consistent.not_mentions_unregister (h : c.Consistent)
    (hs : c.subscribedSignals n = some (some s)) : ¬ (c.unregister n s).Mentions n := by
  rintro ⟨id, table, htable, time, hn⟩
  rcases exists_table_of_unregister htable with ⟨-, hid, old, hold, rfl⟩ | ⟨hid, hold⟩
  · obtain ⟨hn, hkind⟩ := Table.refers_of_without hn
    obtain ⟨t, ht, htime, -⟩ := h.refers id old hold n time hn
    cases hs.symm.trans ht
    exact hkind ⟨rfl, htime.symm⟩
  · obtain ⟨t, ht, -, hid'⟩ := h.refers id table hold n time hn
    cases hs.symm.trans ht
    exact hid hid'.symm

theorem Consistent.unsubscribe (h : c.Consistent) (hs : c.subscribedSignals n = some (some s)) :
    ((c.unregister n s).eraseSignal n).Consistent where
  noNull k := by
    rw [subscribedSignals_eraseSignal, subscribedSignals_unregister]
    split_ifs
    · exact nofun
    · exact h.noNull k
  refers id table htable k time hk := by
    have hkn : k ≠ n := by
      rintro rfl
      exact h.not_mentions_unregister hs ⟨id, table, htable, time, hk⟩
    rw [subscribedSignals_eraseSignal, subscribedSignals_unregister, if_neg hkn]
    rcases exists_table_of_unregister htable with ⟨-, hid, old, hold, rfl⟩ | ⟨hid, hold⟩
    · exact h.refers id old hold k time (Table.refers_of_without hk).1
    · exact h.refers id table hold k time hk
  nonempty id table htable := by
    rcases exists_table_of_unregister htable with ⟨hempty, -⟩ | ⟨-, hold⟩
    · exact hempty
    · exact h.nonempty id table hold

/-- Measured data looks up signals only that are there. -/
theorem Consistent.dataStep {c' : SignalContainer} (h : c.Consistent) (hstep : DataStep c c') :
    c'.Consistent where
  noNull k hnull := by
    have hslot := hstep.slot k
    rw [hnull] at hslot
    rcases hk : c.subscribedSignals k with _ | _ | s
    · obtain ⟨id, table, htable, time, hrefers⟩ := hstep.inserted k hk hnull
      obtain ⟨s, hs, -⟩ := h.refers id table htable k time hrefers
      rw [hk] at hs
      cases hs
    · exact h.noNull k hk
    · rw [hk] at hslot
      cases hslot
  refers id table htable k time hk := by
    rw [hstep.tables] at htable
    obtain ⟨s, hs, htime, hid⟩ := h.refers id table htable k time hk
    have hslot := hstep.slot k
    rw [hs] at hslot
    cases hk' : c'.subscribedSignals k with
    | none =>
      rw [hk'] at hslot
      cases hslot
    | some p =>
      rw [hk'] at hslot
      cases hslot with
      | kept hsame =>
        obtain ⟨_, _, _, _, rfl⟩ := hsame
        exact ⟨_, rfl, htime, hid⟩
  nonempty id table htable := by
    rw [hstep.tables] at htable
    exact h.nonempty id table htable

/-! ### Data signals stay in their tables -/

theorem hasData_register (id : String) {k : SignalNumber} (h : c.HasData id k) :
    (c.register n s).HasData id k := by
  obtain ⟨table, htable, hk⟩ := h
  unfold HasData SignalContainer.register
  rw [tables_setTable]
  split_ifs with hid
  · rw [← hid, htable]
    exact ⟨_, rfl, Table.mem_with hk⟩
  · exact ⟨table, htable, hk⟩

theorem hasData_register_self (htime : s.isTimeSignal = false) :
    (c.register n s).HasData s.tableId n := by
  refine ⟨_, Function.update_self .., ?_⟩
  rw [htime]
  exact Finset.mem_insert_self n _

theorem hasData_unregister {id : String} {k : SignalNumber} (h : c.HasData id k) (hk : k ≠ n) :
    (c.unregister n s).HasData id k := by
  obtain ⟨table, htable, hmem⟩ := h
  unfold HasData
  rw [tables_unregister]
  have hmem' : k ∈ (table.without n s.isTimeSignal).dataSignalNumbers := Table.mem_without hmem hk
  have hrefers : (table.without n s.isTimeSignal).Refers k false := hmem'
  split_ifs
  · rw [htable, Option.bind_some, if_neg (Table.not_isEmpty_of_refers hrefers)]
    exact ⟨_, rfl, hmem'⟩
  · exact ⟨table, htable, hmem⟩

/-! ### Runs -/

variable [JsonRuntime]

/-- Calls that keep the tables and the signals in step. A time signal is unsubscribed while its
table does not name another one. A description of a signal that its table names leaves it in the
table, and does not turn a data signal into a time signal. A signal with the number 0 does not
become the time signal of a table without data signals. -/
def KeepsMembership (c : SignalContainer) : Input → Prop
  | .metaInformation n m => ∀ s, c.subscribedSignals n = some (some s) →
      (m.method = .ok metaMethodUnsubscribe → s.isTimeSignal = true →
        ∀ table, c.tables s.tableId = some table →
          table.timeSignalNumber = 0 ∨ table.timeSignalNumber = n) ∧
      (m.method = .ok metaMethodSignal →
        (∀ table, c.tables s.tableId = some table → table.Refers n s.isTimeSignal →
          s.tableNamed m.params = s.tableId ∧ (s.GivesTime m.params → s.isTimeSignal = true)) ∧
        (n = 0 → s.Accepts m.params → s.isTimeSignal = true ∨ s.GivesTime m.params →
          ∃ k, c.HasData (s.tableNamed m.params) k))
  | .measuredData _ _ => True

/-- A container, and the signals whose last meta information was a description that was
accepted. -/
structure History where
  container : SignalContainer
  lastDescribed : SignalNumber → Prop

def History.initial : History := ⟨SignalContainer.initial, fun _ => False⟩

def History.process (h : History) : Input → History
  | .metaInformation n m =>
      let call := h.container.processMetaInformation n m
      ⟨call.state, Function.update h.lastDescribed n
        (m.method = .ok metaMethodSignal ∧ call.outcome = .ret 0)⟩
  | .measuredData n data => ⟨(h.container.processMeasuredData n data).state, h.lastDescribed⟩

/-- The tables and the signals are in step, and the data signals that were described last are in
their tables. -/
structure History.Consistent (h : History) : Prop where
  container : h.container.Consistent
  registered : ∀ n s, h.container.subscribedSignals n = some (some s) →
    s.isTimeSignal = false → h.lastDescribed n → h.container.HasData s.tableId n

/-- A description of a signal in step leaves it in step with the tables that name it. -/
theorem Consistent.describe (h : c.Consistent) (hs : c.subscribedSignals n = some (some s))
    {params : Json} (hkeeps : ∀ table, c.tables s.tableId = some table →
      table.Refers n s.isTimeSignal →
        s.tableNamed params = s.tableId ∧ (s.GivesTime params → s.isTimeSignal = true)) :
    (c.setSignal n (s.processSignal params).state).Consistent := by
  refine h.setSignal fun id table htable time hn => ?_
  obtain ⟨t, ht, htime, hid⟩ := h.refers id table htable n time hn
  cases hs.symm.trans ht
  subst htime hid
  obtain ⟨hnamed, hgives⟩ := hkeeps table htable hn
  rw [SubscribedSignal.tableId_processSignal, Bool.eq_iff_iff,
    SubscribedSignal.isTimeSignal_processSignal]
  exact ⟨⟨fun hor => hor.elim id hgives, .inl⟩, hnamed⟩

omit [JsonRuntime] in
/-- Meta information for a signal `n` concerns the registration of the others only as far as it
changes their tables. -/
theorem registered_update {c c' : SignalContainer} {last : SignalNumber → Prop} {p : Prop}
    (hold : ∀ k s, c.subscribedSignals k = some (some s) → s.isTimeSignal = false → last k →
      c.HasData s.tableId k)
    (hself : p → ∀ s, c'.subscribedSignals n = some (some s) → s.isTimeSignal = false →
      c'.HasData s.tableId n)
    (hsignals : ∀ k ≠ n, c'.subscribedSignals k = c.subscribedSignals k)
    (hdata : ∀ k ≠ n, ∀ id, c.HasData id k → c'.HasData id k) (k : SignalNumber)
    (s : SubscribedSignal) (hs : c'.subscribedSignals k = some (some s))
    (htime : s.isTimeSignal = false) (hlast : Function.update last n p k) :
    c'.HasData s.tableId k := by
  by_cases hk : k = n
  · subst hk
    rw [Function.update_self] at hlast
    exact hself hlast s hs htime
  · rw [Function.update_of_ne hk] at hlast
    exact hdata k hk _ (hold k s (hsignals k hk ▸ hs) htime hlast)

theorem consistent_metaInformation {h : History} (hc : h.Consistent) {m : MetaInformation}
    (hi : KeepsMembership h.container (.metaInformation n m)) :
    (h.process (.metaInformation n m)).Consistent := by
  have hstep := metaStep_processMetaInformation h.container n m
  change History.Consistent ⟨(h.container.processMetaInformation n m).state,
    Function.update h.lastDescribed n (m.method = .ok metaMethodSignal ∧
      (h.container.processMetaInformation n m).outcome = .ret 0)⟩
  generalize h.container.processMetaInformation n m = call at hstep
  have hset (s : SubscribedSignal) (k : SignalNumber) (hk : k ≠ n) :
      (h.container.setSignal n s).subscribedSignals k = h.container.subscribedSignals k := by
    rw [subscribedSignals_setSignal, if_neg hk]
  cases hstep with
  | refused why hwhy =>
    refine ⟨hc.container, registered_update hc.registered ?_ (fun _ _ => rfl)
      (fun _ _ _ hdata => hdata)⟩
    rintro ⟨-, rfl⟩
    cases hwhy
  | unsubscribed s hs hmethod =>
    refine ⟨hc.container.unsubscribe hs, registered_update hc.registered ?_ ?_ ?_⟩
    · rintro ⟨hsignal, -⟩
      exact absurd (hmethod.symm.trans hsignal) (by decide)
    · intro k hk
      dsimp only
      rw [subscribedSignals_eraseSignal, subscribedSignals_unregister, if_neg hk]
    · intro k hk id hdata
      exact hasData_unregister hdata hk
  | subscribed id hfresh hmethod hid =>
    refine ⟨hc.container.setSignal_fresh hfresh, registered_update hc.registered ?_ (hset _)
      (fun _ _ _ hdata => hdata)⟩
    rintro ⟨hsignal, -⟩
    exact absurd (hmethod.symm.trans hsignal) (by decide)
  | subscribeRefused hfresh hmethod hid =>
    refine ⟨hc.container.setSignal_fresh hfresh, registered_update hc.registered ?_ (hset _)
      (fun _ _ _ hdata => hdata)⟩
    rintro ⟨hsignal, -⟩
    exact absurd (hmethod.symm.trans hsignal) (by decide)
  | described s s' hs hmethod hdescribed =>
    obtain ⟨hkeeps, hzero⟩ := (hi s hs).2 hmethod
    have hset' := hc.container.describe hs hkeeps
    have hnamed := SubscribedSignal.tableId_processSignal m.params s
    have hkind := SubscribedSignal.isTimeSignal_processSignal m.params s
    rw [hdescribed] at hset' hnamed hkind
    refine ⟨hset'.register (subscribedSignals_setSignal_self ..) ?_, registered_update
      hc.registered ?_ (hset s') (fun _ _ _ => hasData_register _)⟩
    · intro hn htime
      obtain ⟨k, hk⟩ := hzero hn (SubscribedSignal.accepts_of_normal hdescribed) (hkind.mp htime)
      exact ⟨k, by rwa [← hnamed] at hk⟩
    · rintro - t ht htime
      cases (subscribedSignals_setSignal_self ..).symm.trans ht
      exact hasData_register_self htime
  | descriptionRefused s s' why hs hmethod hrefused =>
    have hset' := hc.container.describe hs ((hi s hs).2 hmethod).1
    rw [hrefused] at hset'
    refine ⟨hset', registered_update hc.registered ?_ (hset s') (fun _ _ _ hdata => hdata)⟩
    rintro ⟨-, hret⟩
    exact absurd hret (why_ne_of_processSignal hrefused)
  | other s method hs hmethod hunsubscribe hsubscribe hsignal =>
    refine ⟨hc.container, registered_update hc.registered ?_ (fun _ _ => rfl)
      (fun _ _ _ hdata => hdata)⟩
    rintro ⟨hsignal', -⟩
    cases hmethod.symm.trans hsignal'
    exact absurd rfl hsignal

theorem consistent_process {h : History} (hc : h.Consistent) {i : Input}
    (hi : KeepsMembership h.container i) : (h.process i).Consistent := by
  cases i with
  | metaInformation n m => exact consistent_metaInformation hc hi
  | measuredData n data =>
    have hstep := dataStep_processMeasuredData h.container n data
    refine ⟨hc.container.dataStep hstep, fun k s hs htime hlast => ?_⟩
    have hslot := hstep.slot k
    change (h.container.processMeasuredData n data).state.subscribedSignals k = _ at hs
    rw [hs] at hslot
    cases hk : h.container.subscribedSignals k with
    | none =>
      rw [hk] at hslot
      cases hslot
    | some p =>
      rw [hk] at hslot
      cases hslot with
      | kept hsame =>
        obtain ⟨_, _, _, _, rfl⟩ := hsame
        obtain ⟨table, htable, hmem⟩ := hc.registered k _ hk htime hlast
        exact ⟨table, hstep.tables ▸ htable, hmem⟩

/-- The signals and tables of a history, and what an unsubscription does to the tables. -/
structure History.Membership (h : History) : Prop where
  noNull : ∀ n, h.container.subscribedSignals n ≠ some none
  timeSignal : ∀ id table, h.container.tables id = some table → table.timeSignalNumber ≠ 0 →
    ∃ s, h.container.subscribedSignals table.timeSignalNumber = some (some s) ∧
      s.isTimeSignal = true ∧ s.tableId = id
  dataSignals : ∀ id table, h.container.tables id = some table → ∀ n ∈ table.dataSignalNumbers,
    ∃ s, h.container.subscribedSignals n = some (some s) ∧ s.isTimeSignal = false ∧ s.tableId = id
  nonempty : ∀ id table, h.container.tables id = some table → ¬ table.isEmpty
  registered : ∀ n s, h.container.subscribedSignals n = some (some s) →
    s.isTimeSignal = false → h.lastDescribed n → ∀ id, h.container.HasData id n ↔ id = s.tableId

omit [JsonRuntime] in
theorem History.Consistent.membership {h : History} (hc : h.Consistent) : h.Membership where
  noNull := hc.container.noNull
  timeSignal id table htable hne := hc.container.refers id table htable _ true ⟨rfl, hne⟩
  dataSignals id table htable n hn := hc.container.refers id table htable n false hn
  nonempty := hc.container.nonempty
  registered n s hs htime hlast id := by
    constructor
    · rintro ⟨table, htable, hn⟩
      obtain ⟨t, ht, -, hid⟩ := hc.container.refers id table htable n false hn
      cases hs.symm.trans ht
      exact hid.symm
    · rintro rfl
      exact hc.registered n s hs htime hlast

/-- An unsubscription leaves no reference to its signal, and leaves a time signal of a table alone
when it is another one. -/
def UnsubscribesOnly (c c' : SignalContainer) (n : SignalNumber) : Prop :=
  ¬ c'.Mentions n ∧ ∀ id table, c.tables id = some table → table.timeSignalNumber ≠ 0 →
    table.timeSignalNumber ≠ n →
      ∃ table', c'.tables id = some table' ∧ table'.timeSignalNumber = table.timeSignalNumber

theorem unsubscribesOnly (hc : c.Consistent) {m : MetaInformation}
    (hs : c.subscribedSignals n = some (some s)) (hmethod : m.method = .ok metaMethodUnsubscribe)
    (hi : KeepsMembership c (.metaInformation n m)) :
    UnsubscribesOnly c (c.process (.metaInformation n m)).state n := by
  have hcall : (c.process (.metaInformation n m)).state = (c.unregister n s).eraseSignal n := by
    change (c.processMetaInformation n m).state = _
    rw [processMetaInformation_unsubscribe hmethod hs]
  rw [hcall]
  refine ⟨hc.not_mentions_unregister hs, fun id table htable hne hother => ?_⟩
  rw [tables_eraseSignal, tables_unregister]
  split_ifs with hid
  · subst hid
    have hdata : s.isTimeSignal = false := by
      by_contra htime
      rcases (hi s hs).1 hmethod (Bool.not_eq_false _ ▸ htime) table htable with h | h
      · exact hne h
      · exact hother h
    rw [htable, Option.bind_some, hdata, if_neg]
    · exact ⟨_, rfl, rfl⟩
    · exact fun hempty => hne hempty.1
  · exact ⟨table, htable, rfl⟩

/-- **Table membership.** In a run of calls that keep the tables and the signals in step, they are
in step in every state that is reached, and an unsubscription does only what it should. -/
theorem membership_of_reached {h : History}
    (hreached : ReachedBy History.process (fun h i => KeepsMembership h.container i)
      History.initial h) :
    h.Membership ∧ ∀ n m, m.method = .ok metaMethodUnsubscribe →
      KeepsMembership h.container (.metaInformation n m) →
      (h.container.signal? n).isSome →
        UnsubscribesOnly h.container (h.process (.metaInformation n m)).container n := by
  have hc : h.Consistent := by
    refine ReachedBy.invariant ⟨consistent_initial, fun _ _ _ _ hlast => False.elim hlast⟩
      (fun h i hc hi => consistent_process hc hi) hreached
  refine ⟨hc.membership, fun n m hmethod hi hsome => ?_⟩
  obtain ⟨s, hs⟩ := Option.isSome_iff_exists.mp hsome
  exact unsubscribesOnly hc.container (signal?_eq_some.mp hs) hmethod hi

/-- The history of a run. -/
def History.run (inputs : List Input) : History := inputs.foldl History.process History.initial

/-- A definition of 8 octet values. -/
def plainValues : Json := .object [(metaDatatype, .string dataTypeUint64)]

omit [JsonRuntime] in
/-- A time signal is subscribed and described. -/
theorem membership_of_reached_time :
    let h := @History.run decimalRuntime (subscription 1 linearTime)
    h.Membership ∧ ∀ n m, m.method = .ok metaMethodUnsubscribe →
      @KeepsMembership decimalRuntime h.container (.metaInformation n m) →
      (h.container.signal? n).isSome → UnsubscribesOnly h.container
        (@History.process decimalRuntime h (.metaInformation n m)).container n := by
  let _ : JsonRuntime := decimalRuntime
  refine membership_of_reached (ReachedBy.foldl .init (subscription 1 linearTime) ⟨?_, ?_, trivial⟩)
  · exact fun s hs => nomatch hs
  · intro s hs
    have hsubscribed : (History.process .initial (.metaInformation 1
        (.acknowledgement (.string "id")))).container = SignalContainer.initial.setSignal 1
          { signalNumber := 1, signalId := "id" } :=
      processMetaInformation_acknowledgement rfl "id"
    rw [hsubscribed] at hs ⊢
    refine ⟨fun hmethod => ?_, fun _ => ⟨fun table htable => (nomatch htable), nofun⟩⟩
    rw [MetaInformation.description, MetaInformation.method_message, Except.ok.injEq] at hmethod
    exact absurd hmethod (by decide)

omit [JsonRuntime] in
/-- A data signal that is described again in another table stays in the table that it leaves. -/
theorem not_membership_of_move :
    let h := @History.run decimalRuntime (subscription 1 plainValues ++
      [.metaInformation 1 (.description "u" plainValues)])
    @ReachedBy History Input (@History.process decimalRuntime) (fun _ _ => True) History.initial h ∧
      ¬ h.Membership := by
  let _ : JsonRuntime := decimalRuntime
  refine ⟨ReachedBy.foldl .init _ (ReachedBy.allowedAlong_of_forall (fun _ _ => trivial) _ _),
    fun hmembership => ?_⟩
  have htable : (History.run (subscription 1 plainValues ++
      [.metaInformation 1 (.description "u" plainValues)])).container.tables "t" =
        some ⟨0, {1}⟩ := by decide +kernel
  have hsignal : ((History.run (subscription 1 plainValues ++
      [.metaInformation 1 (.description "u" plainValues)])).container.signal? 1).map
        SubscribedSignal.tableId = some "u" := by decide +kernel
  obtain ⟨s, hs, hid⟩ := Option.map_eq_some_iff.mp hsignal
  obtain ⟨s', hs', -, hid'⟩ := hmembership.dataSignals "t" _ htable 1 (Finset.mem_singleton_self 1)
  cases (signal?_eq_some.mp hs).symm.trans hs'
  exact absurd (hid.symm.trans hid') (by decide)

end SignalContainer

end StreamingProtocol
