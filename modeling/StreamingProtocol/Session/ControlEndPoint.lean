import StreamingProtocol.Session.UnknownTypes

/-!
# The end point of commands

A producer offers command interfaces in its initial meta information, and a consumer sends its
commands by one with the HTTP method `post`. It keeps the path, the version of HTTP and the port of
what it receives. Each command interface overwrites the path and the version, but a port is only
taken where none is known. So after several command interfaces the path and the version are those of
the last one, with the first port, which need not belong to them.

## Main definitions

* `EndPoint`, `EndPoint.update`: what is kept, and how it changes.
* `MetaInformation.offered`: the end points that meta information offers.
* `EndPoint.Matching`: the last path and version go with the first port.

## Main results

* `EndPoint.foldl_update`: what is known after end points.
* `StreamMeta.endPoint_mem_offered_iff`: when the end point that is kept was offered.
-/

namespace StreamingProtocol

open NumberText

/-- How commands are sent to a producer. -/
structure EndPoint where
  path : String
  httpVersion : UInt32
  port : String
deriving DecidableEq, Repr

/-! ### End points, one after the other -/

namespace EndPoint

/-- No end point is known. -/
def unknown : EndPoint := ⟨"", 0, ""⟩

/-- What is known after an end point. -/
def update (known e : EndPoint) : EndPoint :=
  ⟨e.path, e.httpVersion, if known.port = "" then e.port else known.port⟩

/-- The first port that is not empty. -/
def firstPort (endPoints : List EndPoint) : String :=
  ((endPoints.map port).find? (· ≠ "")).getD ""

/-- One of the end points has the path and the version of the last one, and the first port. -/
def Matching (endPoints : List EndPoint) : Prop :=
  ∃ last, endPoints.getLast? = some last ∧ ∃ e ∈ endPoints,
    e.path = last.path ∧ e.httpVersion = last.httpVersion ∧ e.port = firstPort endPoints

theorem firstPort_cons (e : EndPoint) (endPoints : List EndPoint) :
    firstPort (e :: endPoints) = if e.port = "" then firstPort endPoints else e.port := by
  unfold firstPort
  rw [List.map_cons, List.find?_cons]
  split_ifs with hport <;> simp [hport]

/-- The first port is kept. -/
theorem port_foldl_update (known : EndPoint) (endPoints : List EndPoint) :
    (endPoints.foldl update known).port = firstPort (known :: endPoints) := by
  induction endPoints generalizing known with
  | nil =>
    rw [firstPort_cons]
    split_ifs with hport
    · exact hport
    · rfl
  | cons e endPoints ih =>
    rw [List.foldl_cons, ih, firstPort_cons, firstPort_cons, firstPort_cons, update]
    by_cases hport : known.port = "" <;> simp [hport]

/-- What is known after end points: the path and the version of the last one, and the first port. -/
theorem foldl_update {endPoints : List EndPoint} {last : EndPoint}
    (hlast : endPoints.getLast? = some last) :
    endPoints.foldl update unknown = ⟨last.path, last.httpVersion, firstPort endPoints⟩ := by
  have hport := port_foldl_update unknown endPoints
  have hfirst : firstPort (unknown :: endPoints) = firstPort endPoints := firstPort_cons ..
  rw [hfirst] at hport
  obtain ⟨earlier, rfl⟩ := List.getLast?_eq_some_iff.mp hlast
  rw [← hport, List.foldl_append]
  rfl

/-- The end point that is known is one of those that were received if one of them matches. -/
theorem foldl_update_mem_iff {endPoints : List EndPoint} (hne : endPoints ≠ []) :
    endPoints.foldl update unknown ∈ endPoints ↔ Matching endPoints := by
  have hlast := List.getLast?_eq_some_getLast hne
  rw [foldl_update hlast]
  constructor
  · exact fun hmem => ⟨_, hlast, _, hmem, rfl, rfl, rfl⟩
  · rintro ⟨last, hlast', ⟨path, httpVersion, port⟩, hmem, hpath, hversion, hport⟩
    cases hlast.symm.trans hlast'
    dsimp only at hpath hversion hport
    rwa [← hpath, ← hversion, ← hport]

theorem firstPort_of_port {endPoints : List EndPoint} {port : String}
    (hne : endPoints ≠ []) (h : ∀ e ∈ endPoints, e.port = port) : firstPort endPoints = port := by
  induction endPoints with
  | nil => exact absurd rfl hne
  | cons e endPoints ih =>
    obtain ⟨he, hrest⟩ := List.forall_mem_cons.mp h
    rw [firstPort_cons]
    split_ifs with hempty
    · by_cases hnil : endPoints = []
      · rw [hnil, ← he, hempty]
        rfl
      · exact ih hnil hrest
    · exact he

/-- End points with the same port match. -/
theorem matching_of_port {endPoints : List EndPoint} (hne : endPoints ≠ []) {port : String}
    (h : ∀ e ∈ endPoints, e.port = port) : Matching endPoints := by
  refine ⟨_, List.getLast?_eq_some_getLast hne, _, List.getLast_mem hne, rfl, rfl, ?_⟩
  rw [firstPort_of_port hne h]
  exact h _ (List.getLast_mem hne)

end EndPoint

/-! ### Command interfaces -/

/-- The members of a command interface are texts, and its version is a number without the dots. -/
structure Describes (element : Json) (httpMethod : String) (e : EndPoint) : Prop where
  httpMethod : element.find? "httpMethod" = some (.string httpMethod)
  path : element.find? "httpPath" = some (.string e.path)
  version : ∃ httpVersion x, element.find? "httpVersion" = some (.string httpVersion) ∧
    stoi (StreamMeta.withoutDots httpVersion) = .ok x ∧ e.httpVersion = x.toUInt32
  port : element.find? "port" = some (.string e.port)

/-- A well-formed command interface. -/
def IsCommandInterface (element : Json) : Prop := ∃ httpMethod e, Describes element httpMethod e

/-- The end point of a command interface with the method `post`. -/
def endPoint? (element : Json) : Option EndPoint :=
  match element.find? "httpMethod", element.find? "httpPath", element.find? "httpVersion",
      element.find? "port" with
  | some (.string httpMethod), some (.string path), some (.string httpVersion),
      some (.string port) =>
      match stoi (StreamMeta.withoutDots httpVersion) with
      | .ok x => if StreamMeta.isPost httpMethod then some ⟨path, x.toUInt32, port⟩ else none
      | .error _ => none
  | _, _, _, _ => none

theorem Describes.endPoint? {element : Json} {httpMethod : String} {e : EndPoint}
    (h : Describes element httpMethod e) :
    endPoint? element = if StreamMeta.isPost httpMethod then some e else none := by
  obtain ⟨hmethod, hpath, ⟨httpVersion, x, hversion, hx, hnumber⟩, hport⟩ := h
  simp only [StreamingProtocol.endPoint?, hmethod, hpath, hversion, hport, hx, ← hnumber]

namespace MetaInformation

/-- The command interfaces in initial meta information. -/
def commandInterfaces (m : MetaInformation) : List Json :=
  match m.method with
  | .ok name =>
      if name = metaMethodInit then (m.params.member "commandInterfaces").elements else []
  | .error _ => []

/-- The end points that meta information offers. -/
def offered (m : MetaInformation) : List EndPoint := m.commandInterfaces.filterMap endPoint?

variable {m : MetaInformation}

theorem commandInterfaces_of_init (h : m.method = .ok metaMethodInit) :
    m.commandInterfaces = (m.params.member "commandInterfaces").elements := by
  rw [commandInterfaces, h]
  exact if_pos rfl

/-- Other meta information offers no end points. -/
theorem offered_of_not_init (h : m.method ≠ .ok metaMethodInit) : m.offered = [] := by
  unfold offered commandInterfaces
  split
  · rename_i name hname
    have hne : name ≠ metaMethodInit := fun heq => h (by rw [hname, heq])
    rw [if_neg hne]
    rfl
  · rfl

end MetaInformation

namespace StreamMeta

open Completion

/-- The end point that is kept. -/
def endPoint (s : StreamMeta) : EndPoint := ⟨s.httpControlPath, s.httpVersion, s.httpControlPort⟩

variable [JsonRuntime]

/-- One command interface. -/
theorem endPoint_processCommandInterface {element : Json} {s s' : StreamMeta}
    (helement : IsCommandInterface element)
    (h : processCommandInterface element s = .normal s') :
    s'.endPoint = (endPoint? element).toList.foldl EndPoint.update s.endPoint := by
  obtain ⟨httpMethod, e, hdescribes⟩ := helement
  rw [hdescribes.endPoint?]
  obtain ⟨hmethod, hpath, ⟨httpVersion, x, hversion, hx, hnumber⟩, hport⟩ := hdescribes
  have hobject := Json.isObject_of_find? hmethod
  unfold processCommandInterface at h
  obtain ⟨text, -, h⟩ := eval_eq_normal.mp h
  simp only [Json.at?_of_isObject hobject, hmethod, eval_ok, Json.getString] at h
  split_ifs at h ⊢ with hpost
  · simp only [processPost, processPort, Json.at?_of_isObject hobject, hpath, hversion, hport,
      eval_ok, Json.getString, hx, thrown] at h
    split_ifs at h with hempty
    · cases h
      simp [endPoint, EndPoint.update, hempty, hnumber]
    · cases h
      simp [endPoint, EndPoint.update, hempty, hnumber]
  · cases h
    rfl

/-- Command interfaces, one after the other. -/
theorem endPoint_processCommandInterfaces (elements : List Json) {s s' : StreamMeta}
    (helements : ∀ element ∈ elements, IsCommandInterface element)
    (h : sequence (elements.map processCommandInterface) s = .normal s') :
    s'.endPoint = (elements.filterMap endPoint?).foldl EndPoint.update s.endPoint := by
  induction elements generalizing s with
  | nil =>
    cases h
    rfl
  | cons element elements ih =>
    obtain ⟨hfirst, hrest⟩ := List.forall_mem_cons.mp helements
    obtain ⟨s₁, hs₁, h⟩ := andThen_eq_normal.mp h
    rw [ih hrest h, endPoint_processCommandInterface hfirst hs₁, ← List.foldl_append]
    congr 1
    rw [List.filterMap_cons]
    cases endPoint? element <;> rfl

omit [JsonRuntime] in
theorem endPoint_processApiVersion (params : Json) (s : StreamMeta) :
    (processApiVersion params s).state.endPoint = s.endPoint := by
  let P (t : StreamMeta) : Prop := t.endPoint = s.endPoint
  have hs : P s := rfl
  change P (processApiVersion params s).state
  unfold processApiVersion
  split
  · exact hs
  · refine state_eval hs fun apiVersion => state_eval hs fun tokens => ?_
    split
    · split_ifs <;> exact hs
    · exact hs

/-- The parameters of initial meta information. -/
theorem endPoint_processInit {params : Json} {s s' : StreamMeta}
    (hparams : ∀ element ∈ (params.member "commandInterfaces").elements, IsCommandInterface element)
    (h : processInit params s = .normal s') :
    s'.endPoint = ((params.member "commandInterfaces").elements.filterMap endPoint?).foldl
      EndPoint.update s.endPoint := by
  obtain ⟨streamId, -, h⟩ := eval_eq_normal.mp h
  rw [Json.member] at hparams ⊢
  cases hinterfaces : params.find? "commandInterfaces" with
  | none =>
    rw [hinterfaces] at h
    cases h
    rfl
  | some interfaces =>
    rw [hinterfaces] at hparams
    simp only [hinterfaces] at h
    exact endPoint_processCommandInterfaces (s := { s with streamId := streamId }) _ hparams h

/-- One message that is accepted. -/
theorem endPoint_processMetaInformation {m : MetaInformation} {s s' : StreamMeta}
    (hm : ∀ element ∈ m.commandInterfaces, IsCommandInterface element)
    (h : processMetaInformation m s = .normal s') :
    s'.endPoint = m.offered.foldl EndPoint.update s.endPoint := by
  by_cases hinit : m.method = .ok metaMethodInit
  · have hne : metaMethodInit ≠ metaMethodApiversion := by decide
    simp only [processMetaInformation, hinit, eval_ok, if_neg hne, if_true] at h
    rw [MetaInformation.commandInterfaces_of_init hinit] at hm
    rw [MetaInformation.offered, MetaInformation.commandInterfaces_of_init hinit]
    exact endPoint_processInit hm h
  · have hstate : (processMetaInformation m s).state = s' := by rw [h, state_normal]
    rw [MetaInformation.offered_of_not_init hinit, List.foldl_nil, ← hstate]
    by_cases hversion : m.method = .ok metaMethodApiversion
    · have hprocess : processMetaInformation m s = processApiVersion m.params s := by
        simp only [processMetaInformation, hversion, eval_ok, if_true]
      rw [hprocess, endPoint_processApiVersion]
    · rw [state_processMetaInformation_other s fun method hmethod =>
        ⟨fun heq => hversion (heq ▸ hmethod), fun heq => hinit (heq ▸ hmethod)⟩]

/-- Messages that are accepted, one after the other. -/
theorem endPoint_processMessages (messages : List MetaInformation) {s s' : StreamMeta}
    (hmessages : ∀ m ∈ messages, ∀ element ∈ m.commandInterfaces, IsCommandInterface element)
    (h : sequence (messages.map processMetaInformation) s = .normal s') :
    s'.endPoint = (messages.flatMap MetaInformation.offered).foldl EndPoint.update s.endPoint := by
  induction messages generalizing s with
  | nil =>
    cases h
    rfl
  | cons m messages ih =>
    obtain ⟨hfirst, hrest⟩ := List.forall_mem_cons.mp hmessages
    obtain ⟨s₁, hs₁, h⟩ := andThen_eq_normal.mp h
    rw [ih hrest h, endPoint_processMetaInformation hfirst hs₁, List.flatMap_cons,
      List.foldl_append]

/-- **The end point of commands.** After messages that are accepted and that offered an end point,
the end point that is kept is one of those that were offered, if and only if one of these has the
last path, the last version and the first port. -/
theorem endPoint_mem_offered_iff {messages : List MetaInformation} {s : StreamMeta}
    (hmessages : ∀ m ∈ messages, ∀ element ∈ m.commandInterfaces, IsCommandInterface element)
    (hpost : messages.flatMap MetaInformation.offered ≠ [])
    (h : sequence (messages.map processMetaInformation) {} = .normal s) :
    s.endPoint ∈ messages.flatMap MetaInformation.offered ↔
      EndPoint.Matching (messages.flatMap MetaInformation.offered) := by
  rw [endPoint_processMessages messages hmessages h]
  exact EndPoint.foldl_update_mem_iff hpost

/-- A command interface as a producer writes it. -/
def commandInterface (httpMethod httpPath httpVersion port : String) : Json :=
  .object [("httpMethod", .string httpMethod), ("httpPath", .string httpPath),
    ("httpVersion", .string httpVersion), ("port", .string port)]

/-- Initial meta information with command interfaces. -/
def initMessage (commandInterfaces : List (String × Json)) : MetaInformation :=
  .message metaMethodInit
    (.object [(metaStreamid, .string "stream"), ("commandInterfaces", .object commandInterfaces)])

/-- Meta information with one command interface. -/
def jsonrpcHttp : MetaInformation :=
  initMessage [("jsonrpc-http", commandInterface "POST" "/" "1.1" "7438")]

omit [JsonRuntime] in
/-- A single command interface is the end point. -/
theorem endPoint_mem_offered_jsonrpcHttp : ∃ s : StreamMeta,
    sequence ([jsonrpcHttp].map (@processMetaInformation decimalRuntime)) {} = .normal s ∧
      s.endPoint ∈ [jsonrpcHttp].flatMap MetaInformation.offered := by
  let _ : JsonRuntime := decimalRuntime
  have hrun : sequence ([jsonrpcHttp].map processMetaInformation) {} =
      .normal { streamId := "stream", httpControlPath := "/", httpControlPort := "7438",
                httpVersion := 11 } := by
    decide +kernel
  have hoffered : [jsonrpcHttp].flatMap MetaInformation.offered = [⟨"/", 11, "7438"⟩] := by
    decide +kernel
  have hdescribes : Describes (commandInterface "POST" "/" "1.1" "7438") "POST"
      ⟨"/", 11, "7438"⟩ :=
    ⟨rfl, rfl, ⟨"1.1", 11, rfl, by decide +kernel, rfl⟩, rfl⟩
  refine ⟨_, hrun, (endPoint_mem_offered_iff ?_ ?_ hrun).mpr ?_⟩
  · intro m hm element helement
    obtain rfl := List.mem_singleton.mp hm
    obtain rfl := List.mem_singleton.mp helement
    exact ⟨_, _, hdescribes⟩
  · rw [hoffered]
    exact List.cons_ne_nil _ _
  · rw [hoffered]
    exact ⟨⟨"/", 11, "7438"⟩, rfl, _, List.mem_cons_self, rfl, rfl, rfl⟩

/-- Meta information with two command interfaces. -/
def twoInterfaces : MetaInformation :=
  initMessage [("a", commandInterface "POST" "/a" "1.0" "7438"),
    ("b", commandInterface "POST" "/b" "1.1" "8080")]

omit [JsonRuntime] in
/-- The path and the version of the second command interface are kept with the port of the first
one. -/
theorem endPoint_notMem_offered_twoInterfaces : ∃ s : StreamMeta,
    sequence ([twoInterfaces].map (@processMetaInformation decimalRuntime)) {} = .normal s ∧
      s.endPoint = ⟨"/b", 11, "7438"⟩ ∧
      s.endPoint ∉ [twoInterfaces].flatMap MetaInformation.offered := by
  refine ⟨{ streamId := "stream", httpControlPath := "/b", httpControlPort := "7438",
            httpVersion := 11 }, by decide +kernel, rfl, ?_⟩
  have hoffered : [twoInterfaces].flatMap MetaInformation.offered =
      [⟨"/a", 10, "7438"⟩, ⟨"/b", 11, "8080"⟩] := by
    decide +kernel
  rw [hoffered]
  decide

end StreamMeta

end StreamingProtocol
