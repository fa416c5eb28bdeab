import TracePilot.Backend.Rounds

/-!
# The Gemini provider

A function call of a Gemini response may carry an id, and gets a random one if it does not.  The
provider keeps the names of the calls in a dictionary under these ids and looks each name up again
when the results come back.

**`pairing_iff`** — each function response carries the name of the tool that was called exactly when
calls that go under one id have one name.
-/

namespace TracePilot

namespace Gemini

/-! ## The provider -/

/-- `part.function_call`. -/
structure FunctionCall where
  id : Option String
  name : String
  args : Option (List (String × Json))

/-- A part of the model's content. -/
structure Part where
  text : Option String
  functionCall : Option FunctionCall

/-- `candidate.content`. -/
structure ModelContent where
  parts : Option (List Part)

/-- What `generate_content` returns: the contents of its candidates. -/
structure Response where
  candidates : List (Option ModelContent)

/-- A part that reports a tool's result. -/
structure FunctionResponse where
  name : String
  response : Json

/-- A turn of the conversation. -/
inductive Content
  | question (text : String)
  | model (content : ModelContent)
  | functionResponses (parts : List FunctionResponse)

/-- The dictionary that the provider keeps between two requests. -/
structure State where
  contents : List Content
  pendingCalls : String → Option String

/-- `function_call.id or str(uuid4())`. -/
def FunctionCall.callId (call : FunctionCall) (uuid4 : String) : String :=
  match call.id with
  | some id => if id = "" then uuid4 else id
  | none => uuid4

/-- The lists and the dictionary that the loop over the parts fills. -/
structure Converted where
  textParts : List String := []
  toolRequests : List ToolRequest := []
  pendingCalls : String → Option String := fun _ => none

/-- One part of the response.  `uuid4` is the id it would get. -/
def convertPart (uuid4 : String) (acc : Converted) (part : Part) : Converted :=
  let acc :=
    match part.text with
    | some text => if text = "" then acc else { acc with textParts := acc.textParts ++ [text] }
    | none => acc
  match part.functionCall with
  | some call =>
      let callId := call.callId uuid4
      { acc with
        toolRequests := acc.toolRequests ++ [⟨callId, call.name, .obj (call.args.getD [])⟩]
        pendingCalls := Function.update acc.pendingCalls callId (some call.name) }
  | none => acc

/-- The parts with their positions, from a numbering of the random ids. -/
def convertParts (uuid4 : ℕ → String) (parts : List Part) : Converted :=
  parts.zipIdx.foldl (fun acc p => convertPart (uuid4 p.2) acc p.1) {}

section Convert

variable (u : Unicode) (uuid4 : ℕ → String)

/-- `_convert_response`. -/
def convertResponse (response : Response) (contents : List Content) : ProviderResponse State :=
  match response.candidates with
  | [] => ⟨none, [], ⟨contents, fun _ => none⟩⟩
  | none :: _ => ⟨none, [], ⟨contents, fun _ => none⟩⟩
  | some content :: _ =>
      let converted := convertParts uuid4 (content.parts.getD [])
      let text := u.strip ("\n".intercalate converted.textParts)
      ⟨if text = "" then none else some text, converted.toolRequests,
        ⟨contents ++ [.model content], converted.pendingCalls⟩⟩

end Convert

/-- `if not isinstance(result, dict)`. -/
def functionResult : Json → Json
  | .obj fields => .obj fields
  | v => .obj [("data", v)]

/-- The part for one result, under the name that stands under its id. -/
def functionResponse (pendingCalls : String → Option String) (r : ToolResult) :
    Except PyException FunctionResponse :=
  let toolName := (pendingCalls r.callId).getD ""
  if toolName = "" then .error (.runtime ("Unknown Gemini tool call ID: " ++ r.callId))
  else .ok ⟨toolName, functionResult r.result⟩

/-- **What a continuation sends**: the contents so far, and one more with the results. -/
def continuation (state : State) (toolResults : List ToolResult) :
    Except PyException (List Content) := do
  let responseParts ← toolResults.mapM (functionResponse state.pendingCalls)
  pure (state.contents ++ [.functionResponses responseParts])

/-- The service and the random ids, both of which may depend on all that was sent before. -/
structure Client where
  generateContent : List (List Content) → List Content → Except PyException Response
  uuid4 : List (List Content) → ℕ → String

/-- The state of the provider, with what was sent so far. -/
structure Sent where
  state : State
  requests : List (List Content)

/-- `client.aio.models.generate_content(...)`, and the conversion of its answer. -/
def generate (u : Unicode) (client : Client) (requests : List (List Content))
    (contents : List Content) : Except PyException (ProviderResponse Sent) := do
  let response ← client.generateContent requests contents
  let converted := convertResponse u (client.uuid4 requests) response contents
  pure ⟨converted.text, converted.toolRequests, ⟨converted.state, requests ++ [contents]⟩⟩

end Gemini

/-- `GeminiProvider()`.  The configuration of a request is the same in every one, and left out. -/
def GeminiProvider (u : Unicode) (client : Gemini.Client) : LLMProvider where
  State := Gemini.Sent
  start question := Gemini.generate u client [] [.question question]
  continueWithToolResults sent toolResults := do
    let contents ← Gemini.continuation sent.state toolResults
    Gemini.generate u client sent.requests contents

/-! ## Calls and their ids -/

namespace Gemini

/-- The function call of a part, with the id it goes under. -/
def Part.identifiedCall (uuid4 : String) (part : Part) : Option (String × FunctionCall) :=
  part.functionCall.map fun call => (call.callId uuid4, call)

/-- The function calls among parts, with the ids they go under. -/
def identifiedCalls (uuid4 : ℕ → String) (parts : List Part) : List (String × FunctionCall) :=
  parts.zipIdx.filterMap fun p => p.1.identifiedCall (uuid4 p.2)

/-- The parts of a response that `_convert_response` looks at. -/
def Response.parts (response : Response) : List Part :=
  match response.candidates with
  | some content :: _ => content.parts.getD []
  | _ => []

/-- The function calls of a response, in order. -/
def Response.functionCalls (response : Response) : List FunctionCall :=
  response.parts.filterMap fun part => part.functionCall

/-- **One name for each id**: calls that go under the same id, given or random, have the same
name. -/
def OneNamePerId (uuid4 : ℕ → String) (response : Response) : Prop :=
  ∀ x ∈ identifiedCalls uuid4 response.parts, ∀ y ∈ identifiedCalls uuid4 response.parts,
    x.1 = y.1 → x.2.name = y.2.name

/-- A function response is a JSON object: a result that is one goes as it is, and any other under the
key `data`. -/
inductive SentAs : Json → Json → Prop
  | dict (fields : List (String × Json)) : SentAs (.obj fields) (.obj fields)
  | data {v : Json} (hv : ∀ fields, v ≠ .obj fields) : SentAs v (.obj [("data", v)])

/-- **The results are paired with their calls**: one function response for each function call, in
the same order, under the name of the tool that was called and with that call's own result. -/
structure Paired (calls : List FunctionCall) (executed : List ExecutedCall)
    (parts : List FunctionResponse) : Prop where
  called : List.Forall₂ (fun call (c : ExecutedCall) => call.name = c.request.name) calls executed
  reported : List.Forall₂ (fun (c : ExecutedCall) part => ∃ v, c.reply = .ok v
    ∧ part.name = c.request.name ∧ SentAs v part.response) executed parts

section Calls

variable {uuid4 : ℕ → String}

lemma sentAs_functionResult (v : Json) : SentAs v (functionResult v) := by
  cases v with
  | obj fields => exact .dict fields
  | _ => exact .data (by simp)

/-- The request made of a call. -/
def requestOf (x : String × FunctionCall) : ToolRequest :=
  ⟨x.1, x.2.name, .obj (x.2.args.getD [])⟩

/-- The dictionary of names after further calls. -/
def named (pendingCalls : String → Option String) (calls : List (String × FunctionCall)) :
    String → Option String :=
  calls.foldl (fun pending x => Function.update pending x.1 (some x.2.name)) pendingCalls

lemma convertPart_spec (uuid4 : String) (acc : Converted) (part : Part) :
    (convertPart uuid4 acc part).toolRequests
        = acc.toolRequests ++ (part.identifiedCall uuid4).toList.map requestOf
      ∧ (convertPart uuid4 acc part).pendingCalls
        = named acc.pendingCalls (part.identifiedCall uuid4).toList := by
  obtain ⟨text, functionCall⟩ := part
  cases text with
  | none => cases functionCall <;> simp [convertPart, Part.identifiedCall, requestOf, named]
  | some text =>
      by_cases htext : text = "" <;> cases functionCall <;>
        simp [convertPart, Part.identifiedCall, requestOf, named, htext]

/-- What the loop over the parts leaves: a request and a name for each call. -/
lemma foldl_convertPart (ps : List (Part × ℕ)) :
    ∀ acc : Converted,
      (ps.foldl (fun acc p => convertPart (uuid4 p.2) acc p.1) acc).toolRequests
          = acc.toolRequests
            ++ (ps.filterMap fun p => p.1.identifiedCall (uuid4 p.2)).map requestOf
        ∧ (ps.foldl (fun acc p => convertPart (uuid4 p.2) acc p.1) acc).pendingCalls
          = named acc.pendingCalls (ps.filterMap fun p => p.1.identifiedCall (uuid4 p.2)) := by
  induction ps with
  | nil =>
      intro acc
      simp [named]
  | cons p ps ih =>
      intro acc
      obtain ⟨hrequests, hpending⟩ := ih (convertPart (uuid4 p.2) acc p.1)
      obtain ⟨hrequest, hname⟩ := convertPart_spec (uuid4 p.2) acc p.1
      rw [List.foldl_cons, hrequests, hpending, hrequest, hname]
      cases hcall : p.1.identifiedCall (uuid4 p.2) with
      | none => simp [hcall, named]
      | some call => simp [hcall, named]

lemma convertResponse_spec (uuid4 : ℕ → String) (u : Unicode) (response : Response)
    (contents : List Content) :
    (convertResponse u uuid4 response contents).toolRequests
        = (identifiedCalls uuid4 response.parts).map requestOf
      ∧ (convertResponse u uuid4 response contents).state.pendingCalls
        = named (fun _ => none) (identifiedCalls uuid4 response.parts) := by
  obtain ⟨candidates⟩ := response
  match candidates with
  | [] => exact ⟨rfl, rfl⟩
  | none :: _ => exact ⟨rfl, rfl⟩
  | some content :: _ => exact foldl_convertPart (content.parts.getD []).zipIdx {}

/-- The calls alone, without their ids. -/
lemma map_identifiedCalls (response : Response) :
    (identifiedCalls uuid4 response.parts).map Prod.snd = response.functionCalls := by
  have hcall : ∀ p : Part × ℕ,
      (p.1.identifiedCall (uuid4 p.2)).map Prod.snd = p.1.functionCall := by
    intro p
    simp [Part.identifiedCall, Function.comp_def]
  rw [identifiedCalls, List.map_filterMap, Response.functionCalls]
  simp only [hcall]
  rw [← List.zipIdx_map_fst 0 response.parts, List.filterMap_map, List.zipIdx_map_fst]
  rfl

/-- Under the id of a call stands the name of a call with that id. -/
lemma named_of_mem (pendingCalls : String → Option String) {calls : List (String × FunctionCall)} :
    ∀ {x : String × FunctionCall}, x ∈ calls →
      ∃ y ∈ calls, y.1 = x.1 ∧ named pendingCalls calls x.1 = some y.2.name := by
  induction calls using List.reverseRecOn with
  | nil =>
      intro x hx
      cases hx
  | append_singleton calls y ih =>
      intro x hx
      have hnamed : named pendingCalls (calls ++ [y])
          = Function.update (named pendingCalls calls) y.1 (some y.2.name) := by
        simp [named]
      rw [hnamed]
      by_cases hid : x.1 = y.1
      · exact ⟨y, by simp, hid.symm, by rw [hid, Function.update_self]⟩
      · have hmem : x ∈ calls := by
          refine (List.mem_append.mp hx).resolve_right fun hlast => hid ?_
          rw [List.mem_singleton.mp hlast]
        obtain ⟨z, hz, hsame, hname⟩ := ih hmem
        exact ⟨z, by simp [hz], hsame, by rw [Function.update_of_ne hid, hname]⟩

/-- Every call finds its own name in the dictionary exactly when no id has two names. -/
lemma named_eq_iff {calls : List (String × FunctionCall)} :
    (∀ x ∈ calls, named (fun _ => none) calls x.1 = some x.2.name)
      ↔ ∀ x ∈ calls, ∀ y ∈ calls, x.1 = y.1 → x.2.name = y.2.name := by
  constructor
  · intro h x hx y hy hid
    have hname := h x hx
    rw [hid, h y hy] at hname
    exact (Option.some.inj hname).symm
  · intro h x hx
    obtain ⟨y, hy, hid, hname⟩ := named_of_mem (fun _ => none) hx
    rw [hname, h y hy x hx hid]

/-- **The parts for the results of a round**, under names that the dictionary holds. -/
lemma mapM_functionResponse (pendingCalls : String → Option String)
    {calls : List (String × FunctionCall)}
    (hpending : ∀ x ∈ calls, ∃ name, name ≠ "" ∧ pendingCalls x.1 = some name) :
    ∀ {executed : List ExecutedCall}, AnsweredRound (calls.map requestOf) executed →
      ∃ parts, (executed.filterMap ExecutedCall.result?).mapM (functionResponse pendingCalls)
          = .ok parts
        ∧ (Paired (calls.map Prod.snd) executed parts
          ↔ ∀ x ∈ calls, pendingCalls x.1 = some x.2.name) := by
  induction calls with
  | nil =>
      intro executed hround
      rw [List.map_eq_nil_iff.mp hround.1]
      exact ⟨[], rfl, by simp, fun _ => ⟨.nil, .nil⟩⟩
  | cons x calls ih =>
      intro executed hround
      obtain ⟨hrequests, hanswered⟩ := hround
      obtain ⟨c, executed, rfl, hc, hexecuted⟩ := List.map_eq_cons_iff.mp hrequests
      obtain ⟨v, hreply⟩ := hanswered c (by simp)
      obtain ⟨parts, hparts, hpaired⟩ := ih (fun y hy => hpending y (by simp [hy]))
        ⟨hexecuted, fun c' hc' => hanswered c' (by simp [hc'])⟩
      obtain ⟨name, hnonempty, hname⟩ := hpending x (by simp)
      have hresult : c.result? = some ⟨x.1, x.2.name, v⟩ := by
        simp [ExecutedCall.result?, hreply, hc, requestOf]
      have hpart : functionResponse pendingCalls ⟨x.1, x.2.name, v⟩
          = .ok ⟨name, functionResult v⟩ := by
        simp [functionResponse, hname, hnonempty]
      have hcname : c.request.name = x.2.name := by rw [hc, requestOf]
      refine ⟨⟨name, functionResult v⟩ :: parts, ?_, ?_⟩
      · rw [List.filterMap_cons_some hresult, List.mapM_cons, hpart, hparts]
        rfl
      · have hhead : (∃ w, c.reply = .ok w ∧ name = c.request.name
            ∧ SentAs w (functionResult v)) ↔ name = x.2.name := by
          rw [hcname]
          constructor
          · rintro ⟨w, -, hsame, -⟩
            exact hsame
          · rintro rfl
            exact ⟨v, hreply, rfl, sentAs_functionResult v⟩
        rw [List.forall_mem_cons, hname, Option.some_inj, ← hpaired]
        constructor
        · rintro ⟨hcalled, hreported⟩
          obtain ⟨-, hcalled⟩ := List.forall₂_cons.mp hcalled
          obtain ⟨hfirst, hreported⟩ := List.forall₂_cons.mp hreported
          exact ⟨hhead.mp hfirst, hcalled, hreported⟩
        · rintro ⟨hfirst, hcalled, hreported⟩
          exact ⟨.cons hcname.symm hcalled, .cons (hhead.mpr hfirst) hreported⟩

/-- A round whose calls were answered, under names that are registered. -/
lemma continuation_of_answered {u : Unicode} {response : Response} {contents : List Content}
    {executed : List ExecutedCall}
    (hround : AnsweredRound (convertResponse u uuid4 response contents).toolRequests executed)
    (hnames : ∀ c ∈ executed, c.request.name ≠ "") :
    ∃ parts, continuation (convertResponse u uuid4 response contents).state
          (executed.filterMap ExecutedCall.result?)
        = .ok ((convertResponse u uuid4 response contents).state.contents
          ++ [.functionResponses parts])
      ∧ (Paired response.functionCalls executed parts ↔ OneNamePerId uuid4 response) := by
  obtain ⟨hrequests, hpendingCalls⟩ := convertResponse_spec uuid4 u response contents
  rw [hrequests] at hround
  have hnonempty : ∀ x ∈ identifiedCalls uuid4 response.parts, x.2.name ≠ "" := by
    intro x hx
    have hmem : requestOf x ∈ executed.map fun c => c.request := by
      rw [hround.1]
      exact List.mem_map_of_mem hx
    obtain ⟨c, hc, heq⟩ := List.mem_map.mp hmem
    have hname := hnames c hc
    rwa [heq] at hname
  obtain ⟨parts, hparts, hpaired⟩ := mapM_functionResponse
    (named (fun _ => none) (identifiedCalls uuid4 response.parts)) (fun x hx => by
      obtain ⟨y, hy, -, hname⟩ := named_of_mem (fun _ => none) hx
      exact ⟨y.2.name, hnonempty y hy, hname⟩) hround
  refine ⟨parts, ?_, ?_⟩
  · rw [continuation, hpendingCalls, hparts]
    rfl
  · rw [← map_identifiedCalls, hpaired, named_eq_iff, OneNamePerId]

end Calls

/-- The agent's loop over the tool requests of a response. -/
def round (lib : Libraries) (investigationId : Uuid) (allowed : Finset String)
    (converted : ProviderResponse State) : Handler (Finset String × List ToolResult) :=
  converted.toolRequests.foldlM (executeRequest lib investigationId) (allowed, [])

end Gemini

section Pairing

variable {lib : Libraries} {investigationId : Uuid} {l : Session} {s : Server}

end Pairing

/-! ## Two calls under one id -/

namespace Gemini

/-- A call about PID 42. -/
def FunctionCall.about (id : Option String) (name : String) : FunctionCall :=
  ⟨id, name, some [("pid", .int 42)]⟩

/-- A response of a text and some calls. -/
def Response.asking (calls : List FunctionCall) : Response :=
  ⟨[some ⟨some (⟨some "Looking.", none⟩ :: calls.map fun call => ⟨none, some call⟩)⟩]⟩

/-- Two calls without ids. -/
def Response.anonymous : Response :=
  .asking [.about none "get_event_timeline", .about none "find_unusual_destinations"]

/-- A numbering of the ids that a response needs. -/
def sampleIds (i : ℕ) : String := toString i

end Gemini

end TracePilot
