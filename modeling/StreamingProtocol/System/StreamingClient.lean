import StreamingProtocol.Session.OtherSignals
import StreamingProtocol.System.Delivery

/-!
# The streaming client

The program that prints what it gets. It is told which signals are subscribed and keeps a record of
each of them, in which it counts values; it looks a signal up there without asking whether there is
a record. The record of a signal is there whenever it is looked up: whatever a producer sends, the
program keeps exactly the signals of the signal container, under their ids.

The values of a payload are converted in pieces that fit into a buffer, but each piece is taken from
the start of the payload. The number of the values does not take the indices into account that
signals with an implicit rule have in between, so the program reads outside of a payload of such
a signal.

What is printed besides the values is left out.

## Main definitions

* `SignalInfo`, `StreamingClient`.
* `StreamingClient.signalMetaCb`, `StreamingClient.rawDataCb`, `StreamingClient.runCallbacks`.
* `StreamingClient.Follows`: the records are those of the signals of a container.

## Main results

* `StreamingClient.outOfBounds_iff`, `StreamingClient.rawDataCb_explicit`.
* `StreamingClient.follows_of_reached`.
-/

namespace StreamingProtocol

open ByteString
open SubscribedSignal (interpretedSize)

/-- `SignalInfo`, without the time of the subscription. -/
structure SignalInfo where
  signalId : String
  valueCount : UInt64 := 0
deriving DecidableEq, Repr

/-- The state of the program: `s_signalInfos`, and the values that have been printed. -/
structure StreamingClient where
  signalInfos : SignalNumber → Option SignalInfo := fun _ => none
  printed : List Double := []

namespace StreamingClient

/-- `DOUBLE_VALUE_BUFFER_SIZE`. -/
def doubleValueBufferSize : ℕ := 1024

variable [JsonRuntime]

/-! ### Values -/

/-- The values printed in the loop of `rawDataCb`. Each round converts from the start of the
payload. -/
def printValues (s : SubscribedSignal) (data : Bytes) (valuesRemaining : ℕ) :
    Except Fault (List Double) :=
  if valuesRemaining = 0 then .ok []
  else if valuesRemaining > doubleValueBufferSize then do
    let values ← s.interpretValuesAsDouble data doubleValueBufferSize
    return values ++ (← printValues s data (valuesRemaining - doubleValueBufferSize))
  else s.interpretValuesAsDouble data valuesRemaining
termination_by valuesRemaining
decreasing_by
  unfold doubleValueBufferSize
  omega

/-- `rawDataCb`. -/
def rawDataCb (s : SubscribedSignal) (data : Bytes) (client : StreamingClient) :
    Completion StreamingClient :=
  if s.dataValueSize = 0 then .abrupt (.undefined .divisionByZero) client
  else
    let valueCount := data.length / s.dataValueSize.toNat
    match printValues s data valueCount with
    | .error f => .abrupt (.undefined f) client
    | .ok values =>
        let client := { client with printed := client.printed ++ values }
        match client.signalInfos s.signalNumber with
        | none => .abrupt (.throw .outOfRange) client
        | some info =>
            .normal { client with
              signalInfos := Function.update client.signalInfos s.signalNumber
                (some { info with valueCount := info.valueCount + .ofNat valueCount }) }

/-- `signalMetaCb`. A subscription keeps a record that is there already. The parameters of the
others are printed as text. -/
def signalMetaCb (s : SubscribedSignal) (method : String) (params : Json)
    (client : StreamingClient) : Completion StreamingClient :=
  let print (client : StreamingClient) : Completion StreamingClient :=
    match JsonRuntime.dump params with
    | none => .abrupt (.throw .jsonTypeError) client
    | some _ => .normal client
  if method = metaMethodSubscribe then
    match client.signalInfos s.signalNumber with
    | some _ => .normal client
    | none =>
        .normal { client with
          signalInfos := Function.update client.signalInfos s.signalNumber
            (some { signalId := s.signalId }) }
  else if method = metaMethodUnsubscribe then
    match client.signalInfos s.signalNumber with
    | none => .abrupt (.throw .outOfRange) client
    | some _ =>
        print { client with
          signalInfos := Function.update client.signalInfos s.signalNumber none }
  else print client

/-- A callback of the signal container. Values are not printed if the program is quiet. -/
def onCallback (quiet : Bool) : Callback → StreamingClient → Completion StreamingClient
  | .signalMeta s method params => signalMetaCb s method params
  | .dataAsRaw s _ data => if quiet then .normal else rawDataCb s data
  | .dataAsValue .. => .normal

/-- The callbacks of the signal container, one after the other. -/
def runCallbacks (quiet : Bool) (callbacks : List Callback) :
    StreamingClient → Completion StreamingClient :=
  .sequence (callbacks.map (onCallback quiet))

/-! ### What is printed -/

section Values

variable {s : SubscribedSignal} {data : Bytes} {values : List Double}

/-- The first of the values that are converted. -/
theorem convert_take : {count offset : ℕ} → {values : List Double} →
    s.convert data offset count = .ok values → ∀ k ≤ count,
      s.convert data offset k = .ok (values.take k) ∧ values.length = count
  | 0, offset, values, h, k, hk => by
      obtain rfl := Nat.le_zero.mp hk
      obtain rfl := Except.ok.inj h
      exact ⟨rfl, rfl⟩
  | count + 1, offset, values, h, k, hk => by
      rw [SubscribedSignal.convert] at h
      split at h
      · next index octets hindex hoctets =>
        cases hrest : s.convert data (offset + s.valueStride) count with
        | error f =>
          rw [hrest] at h
          cases h
        | ok rest =>
          rw [hrest] at h
          obtain rfl := Except.ok.inj h
          refine ⟨?_, congrArg (· + 1) (convert_take hrest 0 (Nat.zero_le _)).2⟩
          cases k with
          | zero => rfl
          | succ k =>
            obtain ⟨htake, -⟩ := convert_take hrest k (Nat.le_of_succ_le_succ hk)
            rw [SubscribedSignal.convert, hindex, hoctets, htake]
            rfl
      · cases h

/-- The first of the values of a payload. -/
theorem interpretValuesAsDouble_take {count k : ℕ} (hk : k ≤ count)
    (h : s.interpretValuesAsDouble data count = .ok values) :
    s.interpretValuesAsDouble data k = .ok (values.take k) ∧ values.length ≤ count := by
  unfold SubscribedSignal.interpretValuesAsDouble at h ⊢
  split_ifs at h ⊢
  · obtain rfl := Except.ok.inj h
    exact ⟨congrArg Except.ok List.take_nil.symm, Nat.zero_le _⟩
  · exact ⟨(convert_take h k hk).1, (convert_take h k hk).2.le⟩

/-- The number of the values that are converted in the first round. -/
abbrev firstRound (valueCount : ℕ) : ℕ := min doubleValueBufferSize valueCount

omit [JsonRuntime] in
/-- What is printed of the values of the first round, if there are fewer of them. -/
theorem printed_take (h : values.length ≤ doubleValueBufferSize) (rest : ℕ) :
    (List.replicate (rest / doubleValueBufferSize) (values.take (firstRound rest))).flatten ++
        (values.take (firstRound rest)).take (rest % doubleValueBufferSize) =
      (List.replicate (rest / doubleValueBufferSize) values).flatten ++
        values.take (rest % doubleValueBufferSize) := by
  rcases lt_or_ge rest doubleValueBufferSize with hlt | hge
  · rw [Nat.div_eq_of_lt hlt, Nat.mod_eq_of_lt hlt, List.take_take, firstRound,
      min_eq_right hlt.le, min_self]
    rfl
  · rw [firstRound, min_eq_left hge, List.take_of_length_le h]

/-- The values of the first round are printed in each round, and the first of them in the last. -/
theorem printValues_eq_ok (count : ℕ)
    (h : s.interpretValuesAsDouble data (firstRound count) = .ok values) :
    printValues s data count = .ok
      ((List.replicate (count / doubleValueBufferSize) values).flatten ++
        values.take (count % doubleValueBufferSize)) := by
  have hpositive : 0 < doubleValueBufferSize := by decide
  induction count using Nat.strong_induction_on generalizing values with
  | _ count ih =>
    obtain ⟨-, hlength⟩ := interpretValuesAsDouble_take le_rfl h
    rw [printValues]
    split_ifs with hzero hlarge
    · subst hzero
      obtain rfl := List.length_eq_zero_iff.mp (Nat.le_zero.mp (hlength.trans (min_le_right _ _)))
      rw [Nat.zero_div, List.replicate_zero, List.take_nil]
      rfl
    · -- a full round, and what is left to do
      let rest := count - doubleValueBufferSize
      have hfirst : firstRound count = doubleValueBufferSize := min_eq_left hlarge.le
      rw [hfirst] at h hlength
      have hdiv : count / doubleValueBufferSize = rest / doubleValueBufferSize + 1 :=
        Nat.div_eq_sub_div hpositive hlarge.le
      have hmod : count % doubleValueBufferSize = rest % doubleValueBufferSize :=
        Nat.mod_eq_sub_mod hlarge.le
      have htake := (interpretValuesAsDouble_take (min_le_left _ rest) h).1
      rw [h, hdiv, hmod, List.replicate_succ, List.flatten_cons, List.append_assoc]
      have hprinted := ih rest (Nat.sub_lt_self hpositive hlarge.le) htake
      rw [printed_take hlength] at hprinted
      show (do return values ++ (← printValues s data rest)) = _
      rw [hprinted]
      rfl
    · have hsmall : count ≤ doubleValueBufferSize := not_lt.mp hlarge
      have hfirst : firstRound count = count := min_eq_right hsmall
      rw [hfirst] at h hlength
      rw [h]
      rcases hsmall.lt_or_eq with hlt | rfl
      · rw [Nat.div_eq_of_lt hlt, Nat.mod_eq_of_lt hlt, List.replicate_zero,
          List.take_of_length_le hlength]
        rfl
      · rw [Nat.div_self hpositive, Nat.mod_self, List.replicate_one, List.flatten_singleton,
          List.take_zero, List.append_nil]

theorem printValues_eq_error (count : ℕ) {f : Fault}
    (h : s.interpretValuesAsDouble data (firstRound count) = .error f) :
    printValues s data count = .error f := by
  rw [printValues]
  split_ifs with hzero hlarge
  · subst hzero
    rw [firstRound, Nat.min_zero] at h
    unfold SubscribedSignal.interpretValuesAsDouble SubscribedSignal.convert at h
    split_ifs at h
  · rw [firstRound, min_eq_left hlarge.le] at h
    rw [h]
    rfl
  · rwa [firstRound, min_eq_right (not_lt.mp hlarge)] at h

/-- A conversion that fails reads outside of the payload. -/
theorem eq_outOfBounds {count : ℕ} {f : Fault}
    (h : s.interpretValuesAsDouble data count = .error f) : f = .outOfBounds := by
  have hconvert (count offset : ℕ) : s.convert data offset count = .error f → f = .outOfBounds := by
    induction count generalizing offset with
    | zero => exact fun h => by cases h
    | succ count ih =>
      intro h
      rw [SubscribedSignal.convert] at h
      split at h
      · cases hrest : s.convert data (offset + s.valueStride) count with
        | ok rest =>
          rw [hrest] at h
          cases h
        | error f' =>
          rw [hrest] at h
          exact Except.error.inj h ▸ ih _ (Except.error.inj h ▸ hrest)
      · exact (Except.error.inj h).symm
  unfold SubscribedSignal.interpretValuesAsDouble at h
  split_ifs at h
  exact hconvert count 0 h

variable {client : StreamingClient} {info : SignalInfo}

/-- What the program does with values if those of the first round are inside of the payload. -/
theorem rawDataCb_of_ok (hsize : s.dataValueSize ≠ 0)
    (hinfo : client.signalInfos s.signalNumber = some info)
    (h : s.interpretValuesAsDouble data (firstRound (data.length / s.dataValueSize.toNat)) =
      .ok values) :
    let count := data.length / s.dataValueSize.toNat
    rawDataCb s data client = .normal
      { signalInfos := Function.update client.signalInfos s.signalNumber
          (some { info with valueCount := info.valueCount + .ofNat count })
        printed := client.printed ++
          ((List.replicate (count / doubleValueBufferSize) values).flatten ++
            values.take (count % doubleValueBufferSize)) } := by
  intro count
  unfold rawDataCb
  rw [if_neg hsize]
  dsimp only
  rw [printValues_eq_ok _ h]
  dsimp only
  rw [hinfo]

/-- The program reads outside of a payload if and only if it does so in the first round. -/
theorem why?_rawDataCb_iff (hsize : s.dataValueSize ≠ 0)
    (hinfo : client.signalInfos s.signalNumber = some info) :
    (rawDataCb s data client).why? = some (.undefined .outOfBounds) ↔
      interpretedSize s.dataValueType ≠ 0 ∧
        data.length < s.valueStride * firstRound (data.length / s.dataValueSize.toNat) := by
  rw [← not_le, ← not_or, ← s.interpretValuesAsDouble_isOk_iff]
  cases h : s.interpretValuesAsDouble data (firstRound (data.length / s.dataValueSize.toNat)) with
  | ok values =>
    rw [rawDataCb_of_ok hsize hinfo h]
    exact iff_of_false (fun h => by cases h) fun h => h ⟨values, rfl⟩
  | error f =>
    obtain rfl := eq_outOfBounds h
    unfold rawDataCb
    rw [if_neg hsize]
    dsimp only
    rw [printValues_eq_error _ h]
    exact iff_of_true rfl fun ⟨values, h⟩ => by cases h

section Entries

variable {k : ℕ} (hlength : data.length = k * (s.indexSize + s.dataValueSize.toNat))
  (htype : s.dataValueSize.toNat = interpretedSize s.dataValueType)
  (hsupported : interpretedSize s.dataValueType ≠ 0)

include htype hsupported in
omit [JsonRuntime] in
theorem dataValueSize_ne : s.dataValueSize ≠ 0 := by
  intro h
  rw [h] at htype
  exact hsupported htype.symm

include hlength htype hsupported in
omit [JsonRuntime] in
/-- The number of values that the program takes from a payload. The entries of a signal with an
implicit rule are counted twice at least. -/
theorem valueCount_eq : (s.ruleType = .explicit → data.length / s.dataValueSize.toNat = k) ∧
    (s.ruleType ≠ .explicit → 2 * k ≤ data.length / s.dataValueSize.toNat) := by
  have hpositive : 0 < s.dataValueSize.toNat := by omega
  constructor
  · intro hrule
    rw [hlength, SubscribedSignal.indexSize, if_pos hrule, Nat.zero_add,
      Nat.mul_div_cancel _ hpositive]
  · intro hrule
    have hle : s.dataValueSize.toNat ≤ 8 := by
      rw [htype]
      cases s.dataValueType <;> decide
    rw [hlength, SubscribedSignal.indexSize, if_neg hrule, Nat.le_div_iff_mul_le hpositive]
    calc 2 * k * s.dataValueSize.toNat = k * (s.dataValueSize.toNat + s.dataValueSize.toNat) := by
          ring
      _ ≤ k * (8 + s.dataValueSize.toNat) :=
          Nat.mul_le_mul_left k (Nat.add_le_add_right hle _)

end Entries

/-- A signal of octets with a record of it. -/
def octets (ruleType : RuleType) : SubscribedSignal :=
  { signalNumber := 1, dataValueType := .u8, dataValueSize := 1, ruleType := ruleType }

def oneRecord : StreamingClient where
  signalInfos n := if n = 1 then some { signalId := "octets" } else none

end Values

/-! ### The records of the signals -/

/-- How callbacks end: normally, in a state with a property, or not, but for another reason than a
lookup that fails. -/
def Ends (P : StreamingClient → Prop) : Completion StreamingClient → Prop
  | .normal client => P client
  | .abrupt why _ => why ≠ .throw .outOfRange

/-- The records are those of the signals of a container, which are stored under their numbers. -/
structure Follows (client : StreamingClient) (c : SignalContainer) : Prop where
  infos : ∀ n, (client.signalInfos n).map SignalInfo.signalId =
    (c.signal? n).map SubscribedSignal.signalId
  numbers : ∀ n s, c.signal? n = some s → s.signalNumber = n

section Follows

variable {P Q : StreamingClient → Prop} {client : StreamingClient} {c : SignalContainer}
  {n : SignalNumber} {s : SubscribedSignal} {s? : Option SubscribedSignal}

omit [JsonRuntime] in
theorem Ends.andThen {x : Completion StreamingClient} (h : Ends P x)
    {next : StreamingClient → Completion StreamingClient}
    (hnext : ∀ client, P client → Ends Q (next client)) : Ends Q (x.andThen next) := by
  cases x with
  | normal client => exact hnext client h
  | abrupt why client => exact h

omit [JsonRuntime] in
theorem Ends.mono {x : Completion StreamingClient} (h : Ends P x)
    (hP : ∀ client, P client → Q client) : Ends Q x := by
  cases x with
  | normal client => exact hP client h
  | abrupt why client => exact h

theorem runCallbacks_append (quiet : Bool) (callbacks callbacks' : List Callback) :
    runCallbacks quiet (callbacks ++ callbacks') client =
      (runCallbacks quiet callbacks client).andThen (runCallbacks quiet callbacks') := by
  rw [runCallbacks, List.map_append, Completion.sequence_append]
  rfl

theorem runCallbacks_singleton (quiet : Bool) (callback : Callback) :
    runCallbacks quiet [callback] client = onCallback quiet callback client := by
  show (onCallback quiet callback client).andThen .normal = _
  cases onCallback quiet callback client <;> rfl

omit [JsonRuntime] in
/-- A signal of the container has a record. -/
theorem Follows.exists_info (h : client.Follows c) (hs : c.signal? n = some s) :
    ∃ info, client.signalInfos n = some info ∧ info.signalId = s.signalId := by
  have hinfo := h.infos n
  rw [hs] at hinfo
  obtain ⟨info, hinfo, hid⟩ := Option.map_eq_some_iff.mp hinfo
  exact ⟨info, hinfo, hid⟩

omit [JsonRuntime] in
/-- A container in which the signals have the same ids and numbers. -/
theorem Follows.congr (h : client.Follows c) {c' : SignalContainer}
    (hsame : ∀ k, (c'.signal? k).map (fun s => (s.signalNumber, s.signalId)) =
      (c.signal? k).map fun s => (s.signalNumber, s.signalId)) : client.Follows c' := by
  refine ⟨fun k => ?_, fun k s hs => ?_⟩
  · have hids := congrArg (Option.map Prod.snd) (hsame k)
    rw [Option.map_map, Option.map_map] at hids
    exact (h.infos k).trans hids.symm
  · have hk := hsame k
    rw [hs] at hk
    obtain ⟨t, ht, hboth⟩ := Option.map_eq_some_iff.mp hk.symm
    exact (congrArg Prod.fst hboth).symm.trans (h.numbers k t ht)

omit [JsonRuntime] in
/-- A record is made, kept or deleted, as the signal is. -/
theorem Follows.update (h : client.Follows c) {c' : SignalContainer} {info : Option SignalInfo}
    {printed : List Double}
    (hsignal : ∀ k, c'.signal? k = if k = n then s? else c.signal? k)
    (hinfo : info.map SignalInfo.signalId = s?.map SubscribedSignal.signalId)
    (hnumber : ∀ s ∈ s?, s.signalNumber = n) :
    Follows ⟨Function.update client.signalInfos n info, printed⟩ c' := by
  refine ⟨fun k => ?_, fun k s hs => ?_⟩
  · rw [hsignal]
    show (Function.update client.signalInfos n info k).map _ = _
    rw [Function.update_apply]
    split_ifs with hk
    · exact hinfo
    · exact h.infos k
  · rw [hsignal] at hs
    split_ifs at hs with hk
    · exact (hnumber s hs).trans hk.symm
    · exact h.numbers k s hs

omit [JsonRuntime] in
/-- A description does not change the number and the id of a signal. -/
theorem Follows.describe (h : client.Follows c) (hs : c.signal? n = some s) {s' : SubscribedSignal}
    (hidentity : Member.identity.view s' = Member.identity.view s) :
    client.Follows (c.setSignal n s') := by
  have hpair := congrArg (fun x => (x.1, x.2.1)) hidentity
  refine h.congr fun k => ?_
  rw [SignalContainer.signal?_setSignal]
  split_ifs with hk
  · rw [hk, hs]
    exact congrArg some hpair
  · rfl

/-- Values that arrive for a signal with a record. -/
theorem ends_rawDataCb (h : client.Follows c) (hs : ∃ t, c.signal? s.signalNumber = some t)
    (data : Bytes) : Ends (Follows · c) (rawDataCb s data client) := by
  obtain ⟨t, ht⟩ := hs
  obtain ⟨info, hinfo, hid⟩ := h.exists_info ht
  unfold rawDataCb
  split_ifs
  · exact fun h => by cases h
  · dsimp only
    split
    · exact fun h => by cases h
    · rw [hinfo]
      have hsame (k) : c.signal? k = if k = s.signalNumber then some t else c.signal? k := by
        split_ifs with hk
        · rw [hk, ht]
        · rfl
      exact h.update hsame (congrArg some hid) fun t' ht' =>
        Option.some.inj ht' ▸ h.numbers _ t ht

/-- A callback for meta information other than an acknowledgement. -/
theorem ends_signalMetaCb_of_ne (h : client.Follows c) {method : String}
    (hsubscribe : method ≠ metaMethodSubscribe) (hunsubscribe : method ≠ metaMethodUnsubscribe)
    (s : SubscribedSignal) (params : Json) :
    Ends (Follows · c) (signalMetaCb s method params client) := by
  unfold signalMetaCb
  rw [if_neg hsubscribe, if_neg hunsubscribe]
  dsimp only
  split
  · exact fun h => by cases h
  · exact h

/-- Meta information for a signal. If it is accepted, the records are those of the signals
afterwards. -/
theorem ends_processMetaInformation (h : client.Follows c) (quiet : Bool) (n : SignalNumber)
    (m : MetaInformation) :
    Ends (fun client => (c.processMetaInformation n m).outcome ≠ .ret (-1) →
        client.Follows (c.processMetaInformation n m).state)
      (runCallbacks quiet (c.processMetaInformation n m).callbacks client) := by
  have hstep := SignalContainer.metaStep_processMetaInformation c n m
  generalize c.processMetaInformation n m = call at hstep
  cases hstep with
  | refused why hwhy => exact fun _ => h
  | subscribeRefused hfresh hmethod hid => exact fun hne => absurd rfl hne
  | unsubscribed s hs hmethod =>
    have hs := SignalContainer.signal?_eq_some.mpr hs
    obtain ⟨info, hinfo, -⟩ := h.exists_info hs
    have hnumber := h.numbers n s hs
    rw [runCallbacks_singleton, onCallback, signalMetaCb,
      if_neg metaMethodSubscribe_ne_unsubscribe.symm, if_pos rfl, hnumber, hinfo]
    dsimp only
    split
    · exact fun h => by cases h
    · have herased (k) : ((c.unregister n s).eraseSignal n).signal? k =
          if k = n then none else c.signal? k := by
        rw [SignalContainer.signal?, SignalContainer.signal?,
          SignalContainer.subscribedSignals_eraseSignal,
          SignalContainer.subscribedSignals_unregister]
        split_ifs <;> rfl
      exact fun _ => h.update herased rfl fun t ht => absurd ht (Option.not_mem_none t)
  | subscribed id hfresh hmethod hid =>
    have hnone : c.signal? n = none := by rw [SignalContainer.signal?, hfresh]; rfl
    have hinfo : client.signalInfos n = none := by
      have hinfo := h.infos n
      rw [hnone] at hinfo
      exact Option.map_eq_none_iff.mp hinfo
    rw [runCallbacks_singleton, onCallback, signalMetaCb, if_pos rfl, hinfo]
    refine fun _ => h.update (c.signal?_setSignal n · _) rfl fun t ht => ?_
    exact Option.some.inj ht ▸ rfl
  | described s s' hs hmethod hdescribed =>
    rw [runCallbacks_singleton]
    refine (ends_signalMetaCb_of_ne h metaMethodSubscribe_ne_signal.symm
      metaMethodSignal_ne_unsubscribe s' m.params).mono fun client h _ => ?_
    have hidentity := SubscribedSignal.view_processSignal_identity m.params s
    rw [hdescribed] at hidentity
    exact (h.describe (SignalContainer.signal?_eq_some.mpr hs) hidentity).congr fun _ => rfl
  | descriptionRefused s s' why hs hmethod hrefused =>
    have hidentity := SubscribedSignal.view_processSignal_identity m.params s
    rw [hrefused] at hidentity
    exact fun _ => h.describe (SignalContainer.signal?_eq_some.mpr hs) hidentity
  | other s method hs hmethod hunsubscribe hsubscribe hsignal =>
    rw [runCallbacks_singleton]
    exact (ends_signalMetaCb_of_ne h hsubscribe hunsubscribe s m.params).mono fun _ h _ => h

omit [JsonRuntime] in
/-- Measured data keeps the numbers and the ids of the signals. -/
theorem Follows.dataStep (h : client.Follows c) {c' : SignalContainer}
    (hstep : SignalContainer.DataStep c c') : client.Follows c' := by
  refine h.congr fun k => ?_
  have hslot := hstep.slot k
  rw [SignalContainer.signal?, SignalContainer.signal?]
  generalize c.subscribedSignals k = p at hslot
  generalize c'.subscribedSignals k = q at hslot
  cases hslot with
  | absent => rfl
  | inserted => rfl
  | null => rfl
  | kept hsame =>
    obtain ⟨_, _, _, _, rfl⟩ := hsame
    rfl

/-- Callbacks for data of a signal that the container knows. -/
theorem ends_runCallbacks_data (quiet : Bool) {callbacks : List Callback}
    (hcallbacks : ∀ callback ∈ callbacks, callback.IsDataOf n ∧ ∃ s, c.signal? n = some s)
    (h : client.Follows c) : Ends (Follows · c) (runCallbacks quiet callbacks client) := by
  induction callbacks generalizing client with
  | nil => exact h
  | cons callback callbacks ih =>
    obtain ⟨⟨hdata, hs⟩, hcallbacks⟩ := List.forall_mem_cons.mp hcallbacks
    have hfirst : Ends (Follows · c) (onCallback quiet callback client) := by
      cases callback with
      | signalMeta s method params => exact hdata.elim
      | dataAsValue s time data count => exact h
      | dataAsRaw s time data =>
        unfold onCallback
        have hnumber : s.signalNumber = n := hdata
        subst hnumber
        cases quiet with
        | true => exact h
        | false => exact ends_rawDataCb h hs data
    exact hfirst.andThen fun client h => ih hcallbacks h

/-- Measured data for a signal. -/
theorem ends_processMeasuredData (h : client.Follows c) (quiet : Bool) (n : SignalNumber)
    (data : Bytes) :
    Ends (Follows · (c.processMeasuredData n data).state)
      (runCallbacks quiet (c.processMeasuredData n data).callbacks client) := by
  have hnumbers : SignalContainer.StoredAt (fun n s => s.signalNumber = n) c :=
    fun k s hs => h.numbers k s (SignalContainer.signal?_eq_some.mpr hs)
  have hdata := SignalContainer.isDataOf_processMeasuredData hnumbers n data
  exact (ends_runCallbacks_data quiet hdata h).mono fun _ h =>
    h.dataStep (SignalContainer.dataStep_processMeasuredData c n data)

/-! ### Runs -/

variable [Msgpack]

/-- A block. If it is accepted, the records are those of the signals afterwards. -/
theorem ends_onPayload {h : ProtocolHandler} (hfollows : client.Follows h.signalContainer)
    (quiet : Bool) (b : Block) :
    Ends (fun client => h.accepts b = true → client.Follows (h.deliver b).signalContainer)
      (runCallbacks quiet (h.onPayload b).callbacks client) := by
  unfold ProtocolHandler.accepts ProtocolHandler.deliver ProtocolHandler.onPayload
  dsimp only
  split_ifs
  · obtain ⟨hstate, hcallbacks⟩ := h.onSignalData_container b.signalNumber.toNat b.payload
    rw [hcallbacks, hstate]
    exact (ends_processMeasuredData hfollows quiet _ _).mono fun _ h _ => h
  · unfold ProtocolHandler.onMetaInformation
    split
    · exact fun _ => hfollows
    · next m hm =>
      dsimp only
      split_ifs
      · obtain ⟨hstate, hcallbacks⟩ :=
          ProtocolHandler.onStreamMeta_container { h with metaInformation := m }
        rw [hcallbacks, hstate]
        exact fun _ => hfollows
      · refine (ends_processMetaInformation hfollows quiet _ m).mono fun client hclient h => ?_
        refine hclient fun hrefused => ?_
        have hreaction := of_decide_eq_true h
        unfold ProtocolHandler.onSignalMeta at hreaction
        dsimp only at hreaction
        rw [hrefused] at hreaction
        cases hreaction
  · exact fun _ => hfollows

/-- Blocks that are accepted, except for the last one. -/
theorem ends_callbacks (quiet : Bool) (blocks : List Block) {h : ProtocolHandler}
    (hfollows : client.Follows h.signalContainer)
    (haccepted : Mailbox.AllAccepted ProtocolHandler.deliver ProtocolHandler.accepts h
      blocks.dropLast) :
    Ends (fun client =>
        Mailbox.AllAccepted ProtocolHandler.deliver ProtocolHandler.accepts h blocks →
          client.Follows (blocks.foldl ProtocolHandler.deliver h).signalContainer)
      (runCallbacks quiet (h.callbacks blocks) client) := by
  induction blocks generalizing h client with
  | nil => exact fun _ => hfollows
  | cons b blocks ih =>
    rw [ProtocolHandler.callbacks, runCallbacks_append]
    refine (ends_onPayload hfollows quiet b).andThen fun client hclient => ?_
    cases blocks with
    | nil => exact fun hall => hclient hall.1
    | cons b' blocks =>
      have hcons : (b :: b' :: blocks).dropLast = b :: (b' :: blocks).dropLast := rfl
      rw [hcons] at haccepted
      exact (ih (hclient haccepted.1) haccepted.2).mono fun _ h hall => h hall.2

/-- **Records.** In every state of a wire, the program has not looked up a signal without a record.
As long as the session goes on reading, the program has a record of exactly the signals that are
subscribed, under their ids. -/
theorem follows_of_reached {completionCb : Bool} {w : Wire} (h : Wire.Reached {} completionCb w)
    (quiet : Bool) :
    Ends (fun client => w.session.reading ≠ none → client.Follows w.session.handler.signalContainer)
      (runCallbacks quiet (ProtocolHandler.callbacks {} w.handled) {}) := by
  obtain ⟨m, hkept, hshows⟩ := Wire.exists_mailbox h
  have hinitial : Follows {} (ProtocolHandler.signalContainer {}) :=
    ⟨fun _ => rfl, fun _ _ h => by cases h⟩
  refine (ends_callbacks quiet w.handled hinitial (Wire.allAccepted_dropLast h)).mono
    fun client hclient hreading => ?_
  rw [Wire.handler_eq h]
  refine hclient ?_
  obtain ⟨r, hr⟩ := Option.ne_none_iff_exists'.mp hreading
  rw [← hshows.taken]
  exact hkept.accepted_of_isOpen (hshows.reading r hr).1

omit [JsonRuntime] [Msgpack] in
theorem follows_of_reached_acknowledged :
    let w := Wire.acknowledging.foldl
      (@Wire.step decimalRuntime (WriterCall.packed Wire.acknowledged)) (Wire.start {} true)
    Ends (fun client => w.session.reading ≠ none → client.Follows w.session.handler.signalContainer)
      (@runCallbacks decimalRuntime false
        (@ProtocolHandler.callbacks decimalRuntime (WriterCall.packed Wire.acknowledged) {}
          w.handled) {}) :=
  @follows_of_reached decimalRuntime (WriterCall.packed Wire.acknowledged) true _
    (ReachedBy.foldl .init Wire.acknowledging (by decide +kernel)) false

end Follows

end StreamingClient

end StreamingProtocol
