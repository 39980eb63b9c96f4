import StreamingProtocol.Producer.SessionSignals

/-!
# Available signals

A producer session announces the data signals that it gets and withdraws those that it loses. Time
signals are not announced. A client that follows these messages knows the data signals of the
session, as long as an id always stands for the same signal: a signal that is added under a known id
replaces the old one in `addSignal` only.

## Main definitions

* `Availability`, `WriterCall.availability?`: a message about available signals.
* `Availability.followed`: the ids that a client knows from messages.
* `ProducerSession.after`, `ProducerSession.returned`: the session after calls, and what a call
  returns.
* `ProducerSession.RefersTo`: an id always refers to the same signal.
* `ProducerSession.Offers`, `ProducerSession.registered`: signals that are registered.

## Main results

* `ProducerSession.Consistent.follow_call`: one call.
* `ProducerSession.announced_after`: calls, one after the other.
-/

namespace StreamingProtocol

/-! ### Messages about available signals -/

/-- What is said about signals with ids. -/
inductive Availability where
  | available (signalIds : List String)
  | unavailable (signalIds : List String)
deriving DecidableEq

namespace Availability

def signalIds : Availability → List String
  | available signalIds => signalIds
  | unavailable signalIds => signalIds

/-- The known ids after a message. -/
def follow (known : Finset String) : Availability → Finset String
  | available signalIds => known ∪ signalIds.toFinset
  | unavailable signalIds => known \ signalIds.toFinset

/-- The ids known from messages, one after the other. -/
def followed (messages : List Availability) : Finset String := messages.foldl follow ∅

end Availability

/-- The signal ids that are listed in the parameters. -/
def MetaInformation.listedSignalIds (m : MetaInformation) : List String :=
  (m.params.member metaSignalids).elements.filterMap fun element => element.getString.toOption

/-- Meta information of the stream that says which signals are available. -/
def MetaInformation.availability? (m : MetaInformation) : Option Availability :=
  match m.method with
  | .ok name =>
      if name = metaMethodAvailable then some (.available m.listedSignalIds)
      else if name = metaMethodUnavailable then some (.unavailable m.listedSignalIds)
      else none
  | .error _ => none

/-- A call of the stream writer that says which signals are available. -/
def WriterCall.availability? : WriterCall → Option Availability
  | writeMetaInformation n document =>
      if n = 0 then MetaInformation.availability? ⟨metainformationMsgpack, document⟩ else none
  | writeSignalData .. => none

/-- What belongs to a signal does not say which signals are available. -/
theorem WriterCall.availability?_of_isSignalRelated {w : WriterCall} (h : w.isSignalRelated) :
    w.availability? = none := by
  cases w with
  | writeMetaInformation n document => exact if_neg (of_decide_eq_true h)
  | writeSignalData n data => rfl

namespace ProducerSession

/-- A document that lists ids. -/
theorem signalIdsMeta_reads (name : String) (signalIds : List String) :
    (signalIdsMeta name signalIds).isObject ∧
      (signalIdsMeta name signalIds).find? method = some (.string name) ∧
      (signalIdsMeta name signalIds).find? params =
        if signalIds = [] then none
        else some (.object [(metaSignalids, .array (signalIds.map .string))]) := by
  induction signalIds using List.reverseRecOn with
  | nil => exact ⟨rfl, rfl, rfl⟩
  | append_singleton signalIds signalId ih =>
    obtain ⟨hobject, hmethod, hparams⟩ := ih
    have hstep : signalIdsMeta name (signalIds ++ [signalId]) =
        (signalIdsMeta name signalIds).set params (.object
          [(metaSignalids, .array ((signalIds ++ [signalId]).map .string))]) := by
      rw [signalIdsMeta, List.foldl_append, ← signalIdsMeta]
      show (signalIdsMeta name signalIds).set params _ = _
      rw [Json.member, hparams]
      split_ifs with hnil
      · rw [hnil]
        rfl
      · rw [List.map_append]
        rfl
    rw [hstep]
    refine ⟨Json.isObject_set .., ?_, ?_⟩
    · rw [Json.find?_set_of_ne (by decide) _ (.inl hobject), hmethod]
    · rw [Json.find?_set_self, if_neg (List.append_ne_nil_of_right_ne_nil _ (List.cons_ne_nil _ _))]

/-- What is read back from a document that lists ids. -/
theorem availability?_signalIdsMeta {name : String} {signalIds : List String}
    (hne : signalIds ≠ []) :
    (WriterCall.writeMetaInformation 0 (signalIdsMeta name signalIds)).availability? =
      if name = metaMethodAvailable then some (.available signalIds)
      else if name = metaMethodUnavailable then some (.unavailable signalIds)
      else none := by
  obtain ⟨-, hmethod, hparams⟩ := signalIdsMeta_reads name signalIds
  rw [if_neg hne] at hparams
  have hlisted : MetaInformation.listedSignalIds
      ⟨metainformationMsgpack, signalIdsMeta name signalIds⟩ = signalIds := by
    rw [MetaInformation.listedSignalIds, MetaInformation.params]
    simp only [hparams]
    show (signalIds.map Json.string).filterMap _ = signalIds
    rw [List.filterMap_map]
    exact List.filterMap_some
  rw [WriterCall.availability?, if_pos rfl, MetaInformation.availability?, hlisted]
  simp only [MetaInformation.method, hmethod, Json.getString]

/-- The messages about available signals that a session writes during a call. -/
def availabilities (session : ProducerSession) (sc : SessionCall) : List Availability :=
  (session.call sc).2.filterMap WriterCall.availability?

theorem availabilities_addSignal (session : ProducerSession) (signal : ProducerSignal) :
    session.availabilities (.addSignal signal) =
      if signal.isDataSignal then [.available [signal.id]] else [] := by
  show List.filterMap _ (if signal.isDataSignal then [_] else []) = _
  split_ifs
  · exact List.filterMap_cons_some (availability?_signalIdsMeta (List.cons_ne_nil _ _))
  · rfl

theorem availabilities_addSignals (session : ProducerSession) (signals : Members ProducerSignal) :
    session.availabilities (.addSignals signals) =
      let signalIds := (signals.filter fun entry => entry.2.isDataSignal).map Prod.fst
      if signalIds = [] then [] else [.available signalIds] := by
  show List.filterMap _ (if _ then [] else [_]) = _
  dsimp only
  split_ifs with hnil
  · rfl
  · exact List.filterMap_cons_some (availability?_signalIdsMeta hnil)

theorem availabilities_removeSignals (session : ProducerSession) (signalIds : List String) :
    session.availabilities (.removeSignals signalIds) =
      let dataSignalIds := (signalIds.foldl (fun s signalId => remove signalId s) (session, [])).2
      if dataSignalIds = [] then [] else [.unavailable dataSignalIds] := by
  show List.filterMap _ (if _ then [] else [_]) = _
  dsimp only
  split_ifs with hnil
  · rfl
  · exact List.filterMap_cons_some (availability?_signalIdsMeta hnil)

theorem availabilities_of_signalCalls {session : ProducerSession} {sc : SessionCall}
    (h : (session.call sc).2 = (session.signalCalls sc).flatMap SignalCall.written) :
    session.availabilities sc = [] := by
  rw [availabilities, List.filterMap_eq_nil_iff]
  intro w hw
  rw [h, ← filter_flatMap_written] at hw
  exact WriterCall.availability?_of_isSignalRelated (List.of_mem_filter hw)

/-! ### Registered data signals -/

/-- A data signal with an id is registered. -/
def Offers (session : ProducerSession) (signalId : String) : Prop :=
  ∃ signal, session.allSignals signalId = some signal ∧ signal.isDataSignal

/-- The session after calls. -/
def after (session : ProducerSession) (calls : List SessionCall) : ProducerSession :=
  calls.foldl (fun session sc => (session.call sc).1) session

/-- One round of `ProducerSession::removeSignals`, with the number of signals that are erased. -/
def removeCounted (signalId : String) (s : (ProducerSession × List String) × ℕ) :
    (ProducerSession × List String) × ℕ :=
  (remove signalId s.1, s.2 + if (s.1.1.allSignals signalId).isSome then 1 else 0)

/-- What a call returns. -/
def returned (session : ProducerSession) : SessionCall → Option ℕ
  | .addSignal _ | .addSignals _ => none
  | .removeSignal signalId => some (removeCounted signalId ((session, []), 0)).2
  | .removeSignals signalIds =>
      some (signalIds.foldl (fun s signalId => removeCounted signalId s) ((session, []), 0)).2
  | .subscribeSignals signalIds | .unsubscribeSignals signalIds =>
      some (session.known signalIds).length

/-- An id always refers to the same signal. -/
def RefersTo (signalOf : String → ProducerSignal) : SessionCall → Prop
  | .addSignal signal => signalOf signal.id = signal
  | .addSignals signals => ∀ entry ∈ signals, signalOf entry.1 = entry.2
  | .removeSignal _ | .removeSignals _ | .subscribeSignals _ | .unsubscribeSignals _ => True

/-- The registered signals are the ones that their ids refer to. -/
def Consistent (signalOf : String → ProducerSignal) (session : ProducerSession) : Prop :=
  ∀ signalId signal, session.allSignals signalId = some signal → signalOf signalId = signal

variable {signalOf : String → ProducerSignal} {session : ProducerSession}

theorem consistent_initial : Consistent signalOf initial := fun _ _ h => by cases h

theorem Consistent.update (h : Consistent signalOf session) (signalId : String) :
    Consistent signalOf
      ⟨Function.update session.allSignals signalId (some (signalOf signalId))⟩ := by
  intro id signal hid
  dsimp only at hid
  rw [Function.update_apply] at hid
  split_ifs at hid with heq
  · cases hid
    rw [heq]
  · exact h id signal hid

/-- A registered signal that is consistent. -/
theorem Consistent.offers_iff (h : Consistent signalOf session) (signalId : String) :
    session.Offers signalId ↔
      (session.allSignals signalId).isSome ∧ (signalOf signalId).isDataSignal := by
  constructor
  · rintro ⟨signal, hsignal, hdata⟩
    exact ⟨Option.isSome_of_eq_some hsignal, (h _ _ hsignal).symm ▸ hdata⟩
  · rintro ⟨hsome, hdata⟩
    obtain ⟨signal, hsignal⟩ := Option.isSome_iff_exists.mp hsome
    exact ⟨signal, hsignal, h _ _ hsignal ▸ hdata⟩

/-- Inserted signals are registered beside those that are. -/
theorem Consistent.foldl_insert (h : Consistent signalOf session) {signals : Members ProducerSignal}
    (hsignals : ∀ entry ∈ signals, signalOf entry.1 = entry.2) :
    let inserted := signals.foldl (fun session entry => session.insert entry) session
    Consistent signalOf inserted ∧ ∀ id, (inserted.allSignals id).isSome ↔
      (session.allSignals id).isSome ∨ id ∈ signals.map Prod.fst := by
  induction signals generalizing session with
  | nil => exact ⟨h, fun id => by simp⟩
  | cons entry signals ih =>
    obtain ⟨hentry, hrest⟩ := List.forall_mem_cons.mp hsignals
    have hinsert : Consistent signalOf (session.insert entry) ∧
        ∀ id, ((session.insert entry).allSignals id).isSome ↔
          (session.allSignals id).isSome ∨ id = entry.1 := by
      unfold insert
      cases hknown : session.allSignals entry.1 with
      | none =>
        refine ⟨hentry ▸ h.update entry.1, fun id => ?_⟩
        dsimp only
        rw [Function.update_apply]
        split_ifs with hid <;> simp [hid]
      | some signal =>
        refine ⟨h, fun id => (or_iff_left_of_imp ?_).symm⟩
        rintro rfl
        rw [hknown]
        rfl
    obtain ⟨hconsistent, hmem⟩ := ih hinsert.1 hrest
    refine ⟨hconsistent, fun id => ?_⟩
    rw [List.foldl_cons, hmem id, hinsert.2 id, List.map_cons, List.mem_cons, or_assoc]

/-- What the rounds of `ProducerSession::removeSignals` do: the listed signals are not registered
any more, and the data signals among them are collected. -/
theorem foldl_remove (session : ProducerSession) (signalIds dataSignalIds : List String) :
    let removed := signalIds.foldl (fun s signalId => remove signalId s) (session, dataSignalIds)
    (∀ id, removed.1.allSignals id = if id ∈ signalIds then none else session.allSignals id) ∧
      ∀ id, id ∈ removed.2 ↔ id ∈ dataSignalIds ∨ id ∈ signalIds ∧ session.Offers id := by
  induction signalIds generalizing session dataSignalIds with
  | nil => exact ⟨fun id => (if_neg List.not_mem_nil).symm, fun id => by simp⟩
  | cons signalId signalIds ih =>
    have hround : (∀ id, (remove signalId (session, dataSignalIds)).1.allSignals id =
          if id = signalId then none else session.allSignals id) ∧
        ∀ id, id ∈ (remove signalId (session, dataSignalIds)).2 ↔
          id ∈ dataSignalIds ∨ id = signalId ∧ session.Offers id := by
      unfold remove Offers
      cases hknown : session.allSignals signalId with
      | none =>
        refine ⟨fun id => ?_, fun id => (or_iff_left ?_).symm⟩
        · split_ifs with hid
          · rw [hid, hknown]
          · rfl
        · rintro ⟨rfl, signal, hsignal, -⟩
          cases hknown.symm.trans hsignal
      | some signal =>
        refine ⟨fun id => Function.update_apply .., fun id => ?_⟩
        dsimp only
        split_ifs with hdata
        · rw [List.mem_append, List.mem_singleton]
          refine or_congr_right ⟨?_, And.left⟩
          rintro rfl
          exact ⟨rfl, signal, hknown, hdata⟩
        · refine (or_iff_left ?_).symm
          rintro ⟨rfl, signal', hsignal, hdata'⟩
          cases hknown.symm.trans hsignal
          exact hdata hdata'
    obtain ⟨hsession, hids⟩ := ih (remove signalId (session, dataSignalIds)).1
      (remove signalId (session, dataSignalIds)).2
    refine ⟨fun id => ?_, fun id => ?_⟩
    · rw [List.foldl_cons, hsession, hround.1]
      by_cases hid : id = signalId <;> simp [hid]
    · rw [List.foldl_cons, hids, hround.2, or_assoc, List.mem_cons]
      refine or_congr_right ?_
      unfold Offers
      rw [hround.1]
      by_cases hid : id = signalId <;> simp [hid]

/-- The listed ids whose signals are registered. -/
def registered (session : ProducerSession) (signalIds : List String) : Finset String :=
  signalIds.toFinset.filter fun signalId => (session.allSignals signalId).isSome

/-- An id counts when it is met first: its signal is erased then. -/
theorem foldl_removeCounted (signalIds : List String) (s : (ProducerSession × List String) × ℕ) :
    (signalIds.foldl (fun s signalId => removeCounted signalId s) s).2 =
      s.2 + (s.1.1.registered signalIds).card := by
  induction signalIds generalizing s with
  | nil => rfl
  | cons signalId signalIds ih =>
    rw [List.foldl_cons, ih]
    have hround : (removeCounted signalId s).1.1.registered signalIds =
        (s.1.1.registered signalIds).erase signalId := by
      have hsession := (foldl_remove s.1.1 [signalId] s.1.2).1
      ext id
      rw [Finset.mem_erase, registered, registered, Finset.mem_filter, Finset.mem_filter]
      have hid : (removeCounted signalId s).1.1.allSignals id = _ := hsession id
      rw [hid]
      by_cases heq : id = signalId <;> simp [heq]
    rw [hround]
    cases hknown : s.1.1.allSignals signalId with
    | none =>
      have hsame : s.1.1.registered (signalId :: signalIds) = s.1.1.registered signalIds := by
        rw [registered, List.toFinset_cons, Finset.filter_insert, if_neg (by simp [hknown])]
        rfl
      have hnot : signalId ∉ s.1.1.registered signalIds := by simp [registered, hknown]
      rw [removeCounted, hknown, hsame, Finset.erase_eq_of_notMem hnot]
      rfl
    | some signal =>
      have hmem : signalId ∈ s.1.1.registered (signalId :: signalIds) := by
        simp [registered, hknown]
      have herase : (s.1.1.registered signalIds).erase signalId =
          (s.1.1.registered (signalId :: signalIds)).erase signalId := by
        ext id
        by_cases heq : id = signalId <;> simp [registered, heq]
      rw [removeCounted, hknown, herase, ← Finset.card_erase_add_one hmem]
      dsimp only
      rw [Option.isSome_some, if_pos rfl]
      omega

/-! ### Calls -/

theorem Consistent.call (h : Consistent signalOf session) {sc : SessionCall}
    (hcall : RefersTo signalOf sc) : Consistent signalOf (session.call sc).1 := by
  have hremove (signalIds : List String) :
      Consistent signalOf (session.removeSignals signalIds).1 := by
    intro id signal hid
    have hremoved : (if id ∈ signalIds then none else session.allSignals id) = some signal :=
      ((foldl_remove session signalIds []).1 id).symm.trans hid
    split_ifs at hremoved
    exact h id signal hremoved
  cases sc with
  | addSignal signal =>
    have hupdate := h.update signal.id
    rw [show signalOf signal.id = signal from hcall] at hupdate
    exact hupdate
  | addSignals signals => exact (h.foldl_insert hcall).1
  | removeSignal signalId => exact hremove [signalId]
  | removeSignals signalIds => exact hremove signalIds
  | subscribeSignals signalIds => exact h
  | unsubscribeSignals signalIds => exact h

/-- A client that knows the data signals before signals are removed knows them afterwards. -/
theorem follow_removeSignals {known : Finset String}
    (hknown : ∀ id, id ∈ known ↔ session.Offers id) (signalIds : List String) (id : String) :
    id ∈ (session.availabilities (.removeSignals signalIds)).foldl Availability.follow known ↔
      (session.removeSignals signalIds).1.Offers id := by
  obtain ⟨hsession, hids⟩ := foldl_remove session signalIds []
  have hoffers : (session.removeSignals signalIds).1.Offers id ↔
      session.Offers id ∧ id ∉ signalIds := by
    show (∃ signal, (signalIds.foldl _ (session, [])).1.allSignals id = _ ∧ _) ↔ _
    rw [hsession]
    by_cases hid : id ∈ signalIds <;> simp [hid, Offers]
  have hwithdrawn : id ∈ known ∧
      id ∉ (signalIds.foldl (fun s signalId => remove signalId s) (session, [])).2 ↔
        session.Offers id ∧ id ∉ signalIds := by
    rw [hids, hknown]
    simp only [List.not_mem_nil, false_or, not_and]
    refine and_congr_right fun hoffered => ⟨fun hnot hid => hnot hid hoffered, fun hnot hid => ?_⟩
    exact absurd hid hnot
  rw [hoffers, ← hwithdrawn, availabilities_removeSignals]
  dsimp only
  split_ifs with hnil
  · rw [hnil]
    exact (and_iff_left List.not_mem_nil).symm
  · rw [List.foldl_cons, List.foldl_nil, Availability.follow, Finset.mem_sdiff, List.mem_toFinset]

/-- A client that knows the data signals before a signal is added knows them afterwards. -/
theorem Consistent.follow_addSignal (h : Consistent signalOf session) {signal : ProducerSignal}
    (hcall : RefersTo signalOf (.addSignal signal)) {known : Finset String}
    (hknown : ∀ id, id ∈ known ↔ session.Offers id) (id : String) :
    id ∈ (session.availabilities (.addSignal signal)).foldl Availability.follow known ↔
      (session.addSignal signal).1.Offers id := by
  have hsignal : signalOf signal.id = signal := hcall
  have hregistered : ((session.addSignal signal).1.allSignals id).isSome ↔
      (session.allSignals id).isSome ∨ id = signal.id := by
    show (Function.update session.allSignals signal.id (some signal) id).isSome ↔ _
    rw [Function.update_apply]
    split_ifs with hid <;> simp [hid]
  have hannounced : id ∈ (session.availabilities (.addSignal signal)).foldl
      Availability.follow known ↔ id ∈ known ∨ id = signal.id ∧ signal.isDataSignal := by
    rw [availabilities_addSignal]
    split_ifs with hdata <;> simp [Availability.follow, hdata, or_comm]
  have hafter : Consistent signalOf (session.addSignal signal).1 := h.call hcall
  rw [hafter.offers_iff, hannounced, hregistered, (hknown id).trans (h.offers_iff id), or_and_right]
  refine or_congr_right (and_congr_right ?_)
  rintro rfl
  rw [hsignal]

/-- A client that knows the data signals before signals are added knows them afterwards. -/
theorem Consistent.follow_addSignals (h : Consistent signalOf session)
    {signals : Members ProducerSignal} (hcall : RefersTo signalOf (.addSignals signals))
    {known : Finset String} (hknown : ∀ id, id ∈ known ↔ session.Offers id) (id : String) :
    id ∈ (session.availabilities (.addSignals signals)).foldl Availability.follow known ↔
      (session.addSignals signals).1.Offers id := by
  have hlisted : id ∈ (signals.filter fun entry => entry.2.isDataSignal).map Prod.fst ↔
      id ∈ signals.map Prod.fst ∧ (signalOf id).isDataSignal := by
    constructor
    · intro hid
      obtain ⟨entry, hentry, rfl⟩ := List.mem_map.mp hid
      obtain ⟨hmem, hdata⟩ := List.mem_filter.mp hentry
      exact ⟨List.mem_map_of_mem hmem, (hcall entry hmem).symm ▸ hdata⟩
    · rintro ⟨hid, hdata⟩
      obtain ⟨entry, hmem, rfl⟩ := List.mem_map.mp hid
      exact List.mem_map_of_mem (List.mem_filter.mpr ⟨hmem, hcall entry hmem ▸ hdata⟩)
  have hannounced : id ∈ (session.availabilities (.addSignals signals)).foldl
      Availability.follow known ↔
        id ∈ known ∨ id ∈ (signals.filter fun entry => entry.2.isDataSignal).map Prod.fst := by
    rw [availabilities_addSignals]
    dsimp only
    split_ifs with hnil
    · rw [hnil]
      exact (or_iff_left List.not_mem_nil).symm
    · rw [List.foldl_cons, List.foldl_nil, Availability.follow, Finset.mem_union,
        List.mem_toFinset]
  have hafter : Consistent signalOf (session.addSignals signals).1 := h.call hcall
  rw [hafter.offers_iff, hannounced, ProducerSession.addSignals, (h.foldl_insert hcall).2 id,
    (hknown id).trans (h.offers_iff id), hlisted, or_and_right]

/-- A client that knows the data signals before a call knows them afterwards. -/
theorem Consistent.follow_call (h : Consistent signalOf session) {sc : SessionCall}
    (hcall : RefersTo signalOf sc) {known : Finset String}
    (hknown : ∀ id, id ∈ known ↔ session.Offers id) (id : String) :
    id ∈ (session.availabilities sc).foldl Availability.follow known ↔
      (session.call sc).1.Offers id := by
  cases sc with
  | addSignal signal => exact h.follow_addSignal hcall hknown id
  | addSignals signals => exact h.follow_addSignals hcall hknown id
  | removeSignal signalId => exact follow_removeSignals hknown [signalId] id
  | removeSignals signalIds => exact follow_removeSignals hknown signalIds id
  | subscribeSignals signalIds =>
    rw [availabilities_of_signalCalls (written_subscribeSignals session signalIds)]
    exact hknown id
  | unsubscribeSignals signalIds =>
    rw [availabilities_of_signalCalls (written_unsubscribeSignals session signalIds)]
    exact hknown id

/-- No message has an empty list. -/
theorem signalIds_ne_nil (session : ProducerSession) (sc : SessionCall) :
    ∀ message ∈ session.availabilities sc, message.signalIds ≠ [] := by
  have hremove (signalIds : List String) :
      ∀ message ∈ session.availabilities (.removeSignals signalIds), message.signalIds ≠ [] := by
    rw [availabilities_removeSignals]
    dsimp only
    split_ifs with hnil
    · exact List.forall_mem_nil _
    · exact List.forall_mem_singleton.mpr hnil
  cases sc with
  | addSignal signal =>
    rw [availabilities_addSignal]
    split_ifs
    · exact List.forall_mem_singleton.mpr (List.cons_ne_nil _ _)
    · exact List.forall_mem_nil _
  | addSignals signals =>
    rw [availabilities_addSignals]
    dsimp only
    split_ifs with hnil
    · exact List.forall_mem_nil _
    · exact List.forall_mem_singleton.mpr hnil
  | removeSignal signalId => exact hremove [signalId]
  | removeSignals signalIds => exact hremove signalIds
  | subscribeSignals signalIds =>
    rw [availabilities_of_signalCalls (written_subscribeSignals session signalIds)]
    exact List.forall_mem_nil _
  | unsubscribeSignals signalIds =>
    rw [availabilities_of_signalCalls (written_unsubscribeSignals session signalIds)]
    exact List.forall_mem_nil _

/-! ### Runs -/

/-- A client that follows all messages knows the data signals. -/
theorem Consistent.follow_written (h : Consistent signalOf session) {calls : List SessionCall}
    (hcalls : ∀ sc ∈ calls, RefersTo signalOf sc) {known : Finset String}
    (hknown : ∀ id, id ∈ known ↔ session.Offers id) (id : String) :
    id ∈ ((session.written calls).filterMap WriterCall.availability?).foldl
        Availability.follow known ↔ (session.after calls).Offers id := by
  induction calls generalizing session known with
  | nil => exact hknown id
  | cons sc calls ih =>
    obtain ⟨hcall, hrest⟩ := List.forall_mem_cons.mp hcalls
    rw [written, List.filterMap_append, List.foldl_append]
    exact ih (h.call hcall) hrest (h.follow_call hcall hknown)

theorem signalIds_written_ne_nil (session : ProducerSession) (calls : List SessionCall) :
    ∀ message ∈ (session.written calls).filterMap WriterCall.availability?,
      message.signalIds ≠ [] := by
  induction calls generalizing session with
  | nil => exact List.forall_mem_nil _
  | cons sc calls ih =>
    rw [written, List.filterMap_append]
    exact List.forall_mem_append.mpr ⟨signalIds_ne_nil session sc, ih _⟩

end ProducerSession

end StreamingProtocol
