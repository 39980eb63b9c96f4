import StreamingProtocol.Foundation.Json
import StreamingProtocol.Foundation.NumberText
import StreamingProtocol.Session.MetaInformation

/-!
# Meta information about the stream

What a consumer keeps of the meta information that is not about a signal: the version of the
protocol, the id of the stream and how commands are sent to the producer. All values are read from
the document of the producer as the source needs them, and a value of another type, a missing member
or a text that is no number ends the function by an exception or without a defined behaviour. The
`catch` clause around the function is for exceptions of the type `std::runtime_error`; neither
those of the JSON library nor those of the number conversions are of that type.

Features that are listed as supported are only logged; the loop over them runs over a new object
without members.

## Main definitions

* `StreamMeta`, `StreamMeta.processMetaInformation`.
* `StreamMeta.Readable`: the documents that are read without an exception.

## Main results

* `StreamMeta.ends_processMetaInformation`, `StreamMeta.returns_iff`.
-/

namespace StreamingProtocol

/-- `StreamMeta`. The source leaves the version of the control protocol without an initial value,
and does not read it before it is set here. -/
@[ext]
structure StreamMeta where
  apiVersion : String := ""
  streamId : String := ""
  httpControlPath : String := ""
  httpControlPort : String := ""
  httpVersion : UInt32 := 0
deriving DecidableEq, Repr

namespace StreamMeta

/-- An expression of the standard library that may throw. -/
def thrown {α : Type} : Except Thrown α → Except Abrupt α
  | .ok a => .ok a
  | .error e => .error (.throw e)

/-- The parts of a version, which dots separate, as numbers. -/
def versionTokens (apiVersion : String) : Except Abrupt (List UInt32) :=
  (apiVersion.toList.splitOn '.').mapM' fun part =>
    (thrown (NumberText.stoul part)).map UInt64.toUInt32

/-- A command interface is used if its method is `post`, up to upper and lower case. -/
def isPost (httpMethod : String) : Bool :=
  (httpMethod.toList.takeWhile (· ≠ '\x00')).map Char.toLower = "post".toList

/-- The version number without dots. -/
def withoutDots (httpVersion : String) : List Char := httpVersion.toList.filter (· ≠ '.')

variable [JsonRuntime]

def processApiVersion (params : Json) (s : StreamMeta) : Completion StreamMeta :=
  match params.find? version with
  | none => .abrupt (.ret (-1)) s
  | some node =>
      .eval node.getString s fun apiVersion =>
        let s := { s with apiVersion := apiVersion }
        .eval (versionTokens apiVersion) s fun
          | [major, minor, _] =>
              -- at least 0.6.0 is expected
              if major < 1 ∧ minor < 6 then .abrupt (.ret (-1)) s else .normal s
          | _ => .abrupt (.ret (-1)) s

/-- The port of a command interface, which does not overwrite one that is known. -/
def processPort (element : Json) (s : StreamMeta) : Completion StreamMeta :=
  if s.httpControlPort = "" then
    .eval (element.at? "port") s fun node => .eval node.getString s fun port =>
      .normal { s with httpControlPort := port }
  else .normal s

/-- The path, the version and the port of a command interface. -/
def processPost (element : Json) (s : StreamMeta) : Completion StreamMeta :=
  .eval (element.at? "httpPath") s fun node => .eval node.getString s fun path =>
    let s := { s with httpControlPath := path }
    .eval (element.at? "httpVersion") s fun node => .eval node.getString s fun httpVersion =>
      .eval (thrown (NumberText.stoi (withoutDots httpVersion))) s fun x =>
        processPort element { s with httpVersion := x.toUInt32 }

/-- One command interface. -/
def processCommandInterface (element : Json) (s : StreamMeta) : Completion StreamMeta :=
  .eval element.text s fun _ => -- for the log
    .eval (element.at? "httpMethod") s fun node => .eval node.getString s fun httpMethod =>
      if isPost httpMethod then processPost element s else .normal s

def processInit (params : Json) (s : StreamMeta) : Completion StreamMeta :=
  .eval (params.valueOr Json.getString metaStreamid "") s fun streamId =>
    let s := { s with streamId := streamId }
    match params.find? "commandInterfaces" with
    | none => .normal s
    | some interfaces => .sequence (interfaces.elements.map processCommandInterface) s

def processAlive (params : Json) (s : StreamMeta) : Completion StreamMeta :=
  match params.find? metaFilllevel with
  | none => .normal s
  | some node => .eval node.getUInt32 s fun _ => .normal s

/-- `StreamMeta::processMetaInformation`; falling through is the return of 0. -/
def processMetaInformation (m : MetaInformation) (s : StreamMeta) : Completion StreamMeta :=
  .eval m.method s fun method =>
    if method = metaMethodApiversion then processApiVersion m.params s
    else if method = metaMethodInit then processInit m.params s
    else if method = metaMethodAlive then processAlive m.params s
    else if method = metaMethodAvailable ∨ method = metaMethodUnavailable then .normal s
    else .eval m.jsonContent.text s fun _ => .normal s -- for the log

/-! ### Documents that can be read -/

omit [JsonRuntime] in
/-- The version, if there is one, is a text of numbers that dots separate. -/
def VersionReadable (params : Json) : Prop :=
  ∀ node, params.find? version = some node → ∃ apiVersion, node = .string apiVersion ∧
    ∀ part ∈ apiVersion.toList.splitOn '.', ∃ n, NumberText.stoul part = .ok n

/-- The members of a command interface that are needed are texts, and its version is a number. The
port is needed if it is not known. -/
def InterfaceReadable (port : String) (element : Json) : Prop :=
  (∃ text, element.text = .ok text) ∧
    ∃ httpMethod, element.find? "httpMethod" = some (.string httpMethod) ∧ (isPost httpMethod →
      (∃ path, element.find? "httpPath" = some (.string path)) ∧
      (∃ httpVersion, element.find? "httpVersion" = some (.string httpVersion) ∧
        ∃ x, NumberText.stoi (withoutDots httpVersion) = .ok x) ∧
      (port = "" → ∃ p, element.find? "port" = some (.string p)))

omit [JsonRuntime] in
/-- The port that is known after a command interface. -/
def portAfter (port : String) (element : Json) : String :=
  match element.find? "httpMethod", element.find? "port" with
  | some (.string httpMethod), some (.string p) =>
      if isPost httpMethod ∧ port = "" then p else port
  | _, _ => port

/-- The command interfaces, one after the other. -/
def InterfacesReadable : List Json → String → Prop
  | [], _ => True
  | element :: elements, port =>
      InterfaceReadable port element ∧ InterfacesReadable elements (portAfter port element)

/-- The parameters are an object, the stream id in them is a text, and so on. -/
def InitReadable (params : Json) (port : String) : Prop :=
  (params.isObject ∧ ∀ node, params.find? metaStreamid = some node → node.isString) ∧
    ∀ interfaces, params.find? "commandInterfaces" = some interfaces →
      InterfacesReadable interfaces.elements port

omit [JsonRuntime] in
/-- The fill level is a number or a Boolean. -/
def AliveReadable (params : Json) : Prop :=
  ∀ node, params.find? metaFilllevel = some node → node.isArithmetic

/-- The document can be read without an exception. -/
def Readable (m : MetaInformation) (s : StreamMeta) : Prop :=
  ∃ method, m.method = .ok method ∧
    if method = metaMethodApiversion then VersionReadable m.params
    else if method = metaMethodInit then InitReadable m.params s.httpControlPort
    else if method = metaMethodAlive then AliveReadable m.params
    else method = metaMethodAvailable ∨ method = metaMethodUnavailable ∨
      ∃ text, m.jsonContent.text = .ok text

open Completion

/-! ### How a document may fail -/

/-- A document fails by a return of -1, an exception or a missing member. -/
def Failure (why : Abrupt) : Prop :=
  why = .ret (-1) ∨ (∃ e, why = .throw e) ∨ why = .undefined .missingMember

omit [JsonRuntime] in
theorem failure_of_reads {α : Type} {x : Except Abrupt α} (hx : Json.Reads x) (why : Abrupt)
    (h : x = .error why) : Failure why :=
  (hx why h).elim (fun h => .inr (.inl ⟨_, h⟩)) fun h => .inr (.inr h)

omit [JsonRuntime] in
theorem failure_of_thrown {α : Type} {x : Except Thrown α} (why : Abrupt)
    (h : thrown x = .error why) : Failure why := by
  cases x <;> cases h
  exact .inr (.inl ⟨_, rfl⟩)

omit [JsonRuntime] in
theorem versionTokens_eq_error {apiVersion : String} {why : Abrupt}
    (h : versionTokens apiVersion = .error why) : ∃ e, why = .throw e := by
  unfold versionTokens at h
  generalize apiVersion.toList.splitOn '.' = parts at h
  induction parts with
  | nil => cases h
  | cons part parts ih =>
    rw [List.mapM'_cons] at h
    cases hpart : NumberText.stoul part with
    | error e =>
      rw [hpart] at h
      cases h
      exact ⟨e, rfl⟩
    | ok n =>
      rw [hpart] at h
      cases hparts : parts.mapM' fun part =>
          (thrown (NumberText.stoul part)).map UInt64.toUInt32 with
      | error why' =>
        rw [hparts] at h
        cases h
        exact ih hparts
      | ok tokens =>
        rw [hparts] at h
        cases h

/-- Meta information about the stream ends in one of these ways. -/
theorem ends_processMetaInformation (m : MetaInformation) (s : StreamMeta) :
    (processMetaInformation m s).Ends Failure := by
  have hstring (node : Json) := failure_of_reads (Json.reads_getString node)
  have hat (key : String) (j : Json) := failure_of_reads (Json.reads_at? key j)
  have htext (j : Json) (why : Abrupt) (h : j.text = .error why) : Failure why :=
    .inr (.inl ⟨_, Json.text_eq_error h⟩)
  have hrejected (s : StreamMeta) : (Completion.abrupt (.ret (-1)) s).Ends Failure :=
    ends_abrupt (.inl rfl) s
  have hapiVersion : (processApiVersion m.params s).Ends Failure := by
    unfold processApiVersion
    split
    · exact hrejected s
    · refine ends_eval (hstring _) fun apiVersion => ends_eval (fun why h => ?_) fun tokens => ?_
      · exact .inr (.inl (versionTokens_eq_error h))
      · split
        · split_ifs
          · exact hrejected _
          · exact ends_normal _
        · exact hrejected _
  have hport (element : Json) (s : StreamMeta) : (processPort element s).Ends Failure := by
    unfold processPort
    split_ifs
    · exact ends_eval (hat _ _) fun node => ends_eval (hstring node) fun port => ends_normal _
    · exact ends_normal s
  have hinterface (element : Json) (s : StreamMeta) :
      (processCommandInterface element s).Ends Failure := by
    refine ends_eval (htext element) fun _ => ends_eval (hat _ _) fun node =>
      ends_eval (hstring node) fun httpMethod => ?_
    split_ifs
    · exact ends_eval (hat _ _) fun node => ends_eval (hstring node) fun path =>
        ends_eval (hat _ _) fun node => ends_eval (hstring node) fun httpVersion =>
          ends_eval failure_of_thrown fun x => hport element _
    · exact ends_normal s
  have hinit : (processInit m.params s).Ends Failure := by
    refine ends_eval (failure_of_reads (Json.reads_valueOr Json.reads_getString _ _ _))
      fun streamId => ?_
    split
    · exact ends_normal _
    · refine ends_sequence _ (fun p hp s => ?_) _
      obtain ⟨element, -, rfl⟩ := List.mem_map.mp hp
      exact hinterface element s
  have halive : (processAlive m.params s).Ends Failure := by
    unfold processAlive
    split
    · exact ends_normal s
    · rename_i node _
      refine ends_eval (fun why h => ?_) fun _ => ends_normal s
      cases node <;> cases h
      all_goals exact .inr (.inl ⟨_, rfl⟩)
  refine ends_eval (fun why h => .inr (.inl ⟨_, MetaInformation.method_eq_error h⟩))
    fun method => ?_
  split_ifs
  · exact hapiVersion
  · exact hinit
  · exact halive
  · exact ends_normal s
  · exact ends_eval (htext _) fun _ => ends_normal s

/-! ### Returning -/

omit [JsonRuntime] in
theorem thrown_ne {α : Type} (x : Except Thrown α) (r : Int) : thrown x ≠ .error (.ret r) := by
  cases x <;> exact nofun

omit [JsonRuntime] in
theorem thrown_eq_ok {α : Type} {x : Except Thrown α} {a : α} : thrown x = .ok a ↔ x = .ok a := by
  cases x <;> simp [thrown]

omit [JsonRuntime] in
theorem mapM'_eq_ok_iff {α β : Type} {f : α → Except Abrupt β} (xs : List α) :
    (∃ ys, xs.mapM' f = .ok ys) ↔ ∀ x ∈ xs, ∃ y, f x = .ok y := by
  induction xs with
  | nil => exact iff_of_true ⟨[], rfl⟩ (List.forall_mem_nil _)
  | cons x xs ih =>
    rw [List.forall_mem_cons, ← ih, List.mapM'_cons]
    constructor
    · rintro ⟨ys, h⟩
      obtain ⟨y, hy, h⟩ := Json.bind_eq_ok.mp h
      obtain ⟨zs, hzs, -⟩ := Json.bind_eq_ok.mp h
      exact ⟨⟨y, hy⟩, zs, hzs⟩
    · rintro ⟨⟨y, hy⟩, zs, hzs⟩
      exact ⟨y :: zs, by rw [hy, hzs]; rfl⟩

omit [JsonRuntime] in
/-- A member that has to be a text. -/
theorem returns_text {key : String} {j : Json} (s : StreamMeta)
    (next : String → Completion StreamMeta) :
    (eval (j.at? key) s fun node => eval node.getString s next).Returns ↔
      ∃ text, j.find? key = some (.string text) ∧ (next text).Returns := by
  have hat (r : Int) : j.at? key ≠ .error (.ret r) := by
    intro h
    rcases Json.reads_at? key j _ h with h | h <;> cases h
  have hstring (node : Json) (r : Int) : node.getString ≠ .error (.ret r) := by
    intro h
    cases Json.getString_eq_error h
  rw [returns_eval hat]
  constructor
  · rintro ⟨node, hnode, h⟩
    obtain ⟨text, htext, h⟩ := (returns_eval (hstring node)).mp h
    cases node <;> cases htext
    exact ⟨_, Json.find?_of_at? hnode, h⟩
  · rintro ⟨text, htext, h⟩
    refine ⟨.string text, ?_, (returns_eval (hstring _)).mpr ⟨text, rfl, h⟩⟩
    rw [Json.at?_of_isObject (Json.isObject_of_find? htext), htext]

omit [JsonRuntime] in
theorem versionTokens_ne (apiVersion : String) (r : Int) :
    versionTokens apiVersion ≠ .error (.ret r) := by
  intro h
  obtain ⟨e, h⟩ := versionTokens_eq_error h
  cases h

omit [JsonRuntime] in
theorem versionTokens_isOk_iff (apiVersion : String) :
    (∃ tokens, versionTokens apiVersion = .ok tokens) ↔
      ∀ part ∈ apiVersion.toList.splitOn '.', ∃ n, NumberText.stoul part = .ok n := by
  unfold versionTokens
  rw [mapM'_eq_ok_iff]
  refine forall₂_congr fun part _ => ?_
  cases NumberText.stoul part <;> simp [thrown, Except.map]

omit [JsonRuntime] in
theorem returns_processApiVersion (params : Json) (s : StreamMeta) :
    (processApiVersion params s).Returns ↔ VersionReadable params := by
  unfold processApiVersion VersionReadable
  cases params.find? version with
  | none => exact iff_of_true (returns_ret _ s) nofun
  | some node =>
    have hstring (r : Int) : node.getString ≠ .error (.ret r) := by
      intro h
      cases Json.getString_eq_error h
    have hreturns (apiVersion : String) (tokens : List UInt32) (t : StreamMeta) :
        (match tokens with
          | [major, minor, _] =>
              if major < 1 ∧ minor < 6 then Completion.abrupt (.ret (-1)) t else .normal t
          | _ => .abrupt (.ret (-1)) t).Returns := by
      split
      · split_ifs
        · exact returns_ret _ t
        · exact returns_normal t
      · exact returns_ret _ t
    simp only [returns_eval hstring, returns_eval (versionTokens_ne _), Option.some.injEq,
      forall_eq']
    constructor
    · rintro ⟨apiVersion, hversion, tokens, htokens, -⟩
      cases node <;> cases hversion
      exact ⟨_, rfl, (versionTokens_isOk_iff _).mp ⟨tokens, htokens⟩⟩
    · rintro ⟨apiVersion, rfl, hparts⟩
      obtain ⟨tokens, htokens⟩ := (versionTokens_isOk_iff _).mpr hparts
      exact ⟨apiVersion, rfl, tokens, htokens, hreturns apiVersion tokens _⟩

omit [JsonRuntime] in
theorem returns_processPort (element : Json) (s : StreamMeta) :
    (processPort element s).Returns ↔
      (s.httpControlPort = "" → ∃ p, element.find? "port" = some (.string p)) := by
  unfold processPort
  split_ifs with hport
  · rw [returns_text]
    simp [hport, returns_normal]
  · exact iff_of_true (returns_normal s) fun h => absurd h hport

omit [JsonRuntime] in
theorem returns_processPost (element : Json) (s : StreamMeta) :
    (processPost element s).Returns ↔
      (∃ path, element.find? "httpPath" = some (.string path)) ∧
      (∃ httpVersion, element.find? "httpVersion" = some (.string httpVersion) ∧
        ∃ x, NumberText.stoi (withoutDots httpVersion) = .ok x) ∧
      (s.httpControlPort = "" → ∃ p, element.find? "port" = some (.string p)) := by
  unfold processPost
  simp only [returns_text, returns_eval (thrown_ne _), returns_processPort, thrown_eq_ok]
  constructor
  · rintro ⟨path, hpath, httpVersion, hversion, x, hx, hport⟩
    exact ⟨⟨path, hpath⟩, ⟨httpVersion, hversion, x, hx⟩, hport⟩
  · rintro ⟨⟨path, hpath⟩, ⟨httpVersion, hversion, x, hx⟩, hport⟩
    exact ⟨path, hpath, httpVersion, hversion, x, hx, hport⟩

theorem text_ne (j : Json) (r : Int) : j.text ≠ .error (.ret r) := by
  intro h
  cases Json.text_eq_error h

theorem returns_processCommandInterface (element : Json) (s : StreamMeta) :
    (processCommandInterface element s).Returns ↔
      InterfaceReadable s.httpControlPort element := by
  unfold processCommandInterface InterfaceReadable
  rw [returns_eval (text_ne element)]
  simp only [returns_text]
  constructor
  · rintro ⟨text, htext, httpMethod, hmethod, h⟩
    refine ⟨⟨text, htext⟩, httpMethod, hmethod, fun hpost => ?_⟩
    rw [if_pos hpost, returns_processPost] at h
    exact h
  · rintro ⟨⟨text, htext⟩, httpMethod, hmethod, h⟩
    refine ⟨text, htext, httpMethod, hmethod, ?_⟩
    split_ifs with hpost
    · exact (returns_processPost element s).mpr (h hpost)
    · exact returns_normal s

/-- A command interface that can be read falls through, and its port is known if none was. -/
theorem processCommandInterface_of_readable {element : Json} {s : StreamMeta}
    (h : InterfaceReadable s.httpControlPort element) :
    ∃ s', processCommandInterface element s = .normal s' ∧
      s'.httpControlPort = portAfter s.httpControlPort element := by
  obtain ⟨⟨text, htext⟩, httpMethod, hmethod, hpost⟩ := h
  have hobject := Json.isObject_of_find? hmethod
  unfold processCommandInterface portAfter
  simp only [htext, eval_ok, Json.at?_of_isObject hobject, hmethod, Json.getString]
  by_cases hused : isPost httpMethod
  · obtain ⟨⟨path, hpath⟩, ⟨httpVersion, hversion, x, hx⟩, hport⟩ := hpost hused
    unfold processPost processPort
    simp only [hused, if_true, Json.at?_of_isObject hobject, hpath, hversion, eval_ok,
      Json.getString, hx, thrown]
    by_cases hnone : s.httpControlPort = ""
    · obtain ⟨p, hp⟩ := hport hnone
      rw [if_pos hnone, hp]
      exact ⟨_, rfl, by simp [hnone, hused]⟩
    · rw [if_neg hnone]
      refine ⟨_, rfl, ?_⟩
      split <;> simp [hnone]
  · rw [if_neg hused]
    refine ⟨_, rfl, ?_⟩
    split
    · rename_i heq _
      cases heq
      simp [hused]
    · rfl

theorem returns_processCommandInterfaces (elements : List Json) (s : StreamMeta) :
    (sequence (elements.map processCommandInterface) s).Returns ↔
      InterfacesReadable elements s.httpControlPort := by
  induction elements generalizing s with
  | nil => exact iff_of_true (returns_normal s) trivial
  | cons element elements ih =>
    rw [List.map_cons, returns_sequence_cons, returns_processCommandInterface, InterfacesReadable]
    refine and_congr_right fun hreadable => ?_
    obtain ⟨s', hs', hport⟩ := processCommandInterface_of_readable hreadable
    rw [hs', ← hport, ← ih]
    exact ⟨fun h => h rfl, fun h _ => h⟩

theorem returns_processInit (params : Json) (s : StreamMeta) :
    (processInit params s).Returns ↔ InitReadable params s.httpControlPort := by
  have hvalue (r : Int) : params.valueOr Json.getString metaStreamid "" ≠ .error (.ret r) := by
    intro h
    rcases Json.reads_valueOr Json.reads_getString metaStreamid "" params _ h with h | h <;> cases h
  have hid : (∃ streamId, params.valueOr Json.getString metaStreamid "" = .ok streamId) ↔
      params.isObject ∧ ∀ node, params.find? metaStreamid = some node → node.isString := by
    cases params with
    | object members =>
      simp only [Json.valueOr, Json.find?_object, Json.isObject, true_and]
      cases Members.find? metaStreamid members with
      | none => simp
      | some node => cases node <;> simp [Json.getString, Json.isString]
    | _ => simp [Json.valueOr, Json.isObject]
  unfold processInit InitReadable
  rw [returns_eval hvalue, ← hid]
  have hinterfaces (streamId : String) :
      (match params.find? "commandInterfaces" with
        | none => Completion.normal { s with streamId := streamId }
        | some interfaces => .sequence (interfaces.elements.map processCommandInterface)
            { s with streamId := streamId }).Returns ↔
        ∀ interfaces, params.find? "commandInterfaces" = some interfaces →
          InterfacesReadable interfaces.elements s.httpControlPort := by
    cases params.find? "commandInterfaces" with
    | none => exact iff_of_true (returns_normal _) fun interfaces h => by cases h
    | some interfaces => simp [returns_processCommandInterfaces]
  constructor
  · rintro ⟨streamId, hstreamId, h⟩
    exact ⟨⟨streamId, hstreamId⟩, (hinterfaces streamId).mp h⟩
  · rintro ⟨⟨streamId, hstreamId⟩, h⟩
    exact ⟨streamId, hstreamId, (hinterfaces streamId).mpr h⟩

theorem returns_processAlive (params : Json) (s : StreamMeta) :
    (processAlive params s).Returns ↔ AliveReadable params := by
  unfold processAlive AliveReadable
  cases params.find? metaFilllevel with
  | none => exact iff_of_true (returns_normal s) nofun
  | some node =>
    have hne (r : Int) : node.getUInt32 ≠ .error (.ret r) := by
      cases node <;> exact nofun
    rw [returns_eval hne]
    cases node <;> simp [Json.getUInt32, Json.isArithmetic, returns_normal]

/-- **Meta information about the stream.** It is processed without an exception if and only if the
document is one that can be read. -/
theorem returns_iff (m : MetaInformation) (s : StreamMeta) :
    (processMetaInformation m s).Returns ↔ Readable m s := by
  have hmethod (r : Int) : m.method ≠ .error (.ret r) := by
    intro h
    cases MetaInformation.method_eq_error h
  unfold processMetaInformation Readable
  rw [returns_eval hmethod]
  refine exists_congr fun method => and_congr_right fun _ => ?_
  by_cases hversion : method = metaMethodApiversion
  · simp only [hversion, if_true, returns_processApiVersion]
  · simp only [hversion, if_false]
    by_cases hinit : method = metaMethodInit
    · simp only [hinit, if_true, returns_processInit]
    · simp only [hinit, if_false]
      by_cases halive : method = metaMethodAlive
      · simp only [halive, if_true, returns_processAlive]
      · simp only [halive, if_false]
        by_cases havailable : method = metaMethodAvailable ∨ method = metaMethodUnavailable
        · rw [if_pos havailable]
          exact iff_of_true (returns_normal s) (or_assoc.mp (.inl havailable))
        · rw [if_neg havailable, returns_eval (text_ne _), ← or_assoc]
          simp [havailable, returns_normal]

end StreamMeta

end StreamingProtocol
