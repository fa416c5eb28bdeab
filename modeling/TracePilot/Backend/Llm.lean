import TracePilot.Library.Scan
import TracePilot.Values.Text
import TracePilot.Backend.Session

/-!
# Language-model providers

A provider answers with a text or with tool requests, and threads an opaque state from each
answer to the next question.  `LLMProvider` is that interface over an arbitrary state type, so a
theorem about every `LLMProvider` covers every model behaviour, adversarial ones included: take
the state to be the number of the answer, and the provider is an arbitrary sequence.

`MockProvider` is the deterministic demo provider, and `createLlmProvider` the factory that
`run_investigation_agent` falls back on.  The tool schemas and the system prompt are constants
that every call passes along; the demo provider ignores them and they are left out here.
-/

namespace TracePilot

/-- A request for a tool call. -/
structure ToolRequest where
  callId : String
  name : String
  arguments : Json

/-- What a provider answers. -/
structure ProviderResponse (State : Type) where
  text : Option String
  toolRequests : List ToolRequest
  state : State

/-- What the agent reports back for one request. -/
structure ToolResult where
  callId : String
  toolName : String
  result : Json

/-- A language-model provider. -/
structure LLMProvider where
  State : Type
  start : String → Except PyException (ProviderResponse State)
  continueWithToolResults : State → List ToolResult →
    Except PyException (ProviderResponse State)

/-! ## Event ids under their keys

Both readers of tool results recognise an id by the key it stands under.
-/

/-- The strings of a list. -/
def stringItems (items : List Json) : List String :=
  items.filterMap fun
    | .str s => some s
    | _ => none

/-- The ids that a dictionary item holds by its key alone: `event_id` with a string, or
`event_ids` with a list.  `none` sends the reader into the child. -/
def idsUnderKey (key : String) : Json → Option (List String)
  | .str s => if key = "event_id" then some [s] else none
  | .arr items => if key = "event_ids" then some (stringItems items) else none
  | _ => none

/-! ## The demo provider -/

namespace MockProvider

mutual
/-- `extract_event_ids`: duplicates are removed at every level. -/
def extractEventIds : Json → List String
  | .obj fields => (extractFields fields).eraseDups
  | .arr items => (extractItems items).eraseDups
  | _ => []

/-- The loop over the items of a dictionary. -/
def extractFields : List (String × Json) → List String
  | [] => []
  | (key, child) :: rest =>
      (idsUnderKey key child).getD (extractEventIds child) ++ extractFields rest

/-- The loop over the items of a list. -/
def extractItems : List Json → List String
  | [] => []
  | item :: rest => extractEventIds item ++ extractItems rest
end

/-- `\bPID\s*[:#]?\s*(\d+)\b`, ignoring case. -/
def pidPattern (u : Unicode) : List (Scan.Piece Char) := [
  .boundary u.isWord,
  .one (u.sameLetter 'P'), .one (u.sameLetter 'I'), .one (u.sameLetter 'D'),
  .rep u.isSpace 0 none false,
  .rep (fun c => c = ':' || c = '#') 0 (some 1) false,
  .rep u.isSpace 0 none false,
  .rep (fun c => (u.digit c).isSome) 1 none true,
  .boundary u.isWord]

/-- The PID a question names. -/
def pidOf (u : Unicode) (question : String) : Option ℕ :=
  (Scan.search (pidPattern u) none question.toList).map (pyInt u)

/-- The three calls of the demo investigation. -/
def toolRequests (pid : ℕ) : List ToolRequest := [
  ⟨"mock-timeline", "get_event_timeline", .obj [("pid", .int pid)]⟩,
  ⟨"mock-bursts", "find_connection_bursts",
    .obj [("threshold", .int 100), ("minutes", .int 1440)]⟩,
  ⟨"mock-unusual", "find_unusual_destinations", .obj [("pid", .int pid)]⟩]

/-- `MockProvider.start`.  The state is the PID, or nothing. -/
def start (u : Unicode) (question : String) : ProviderResponse (Option ℕ) :=
  match pidOf u question with
  | none => ⟨some "Demo mode requires the question to include a PID.", [], none⟩
  | some pid => ⟨none, toolRequests pid, some pid⟩

/-- The report without evidence. -/
def emptyReport (pid : ℕ) : String :=
  "No supporting connection events were found for PID " ++ toString pid
    ++ ". No conclusion can be made from the available telemetry."

/-- The report that cites the first three events. -/
def report (pid : ℕ) (eventIds : List String) : String :=
  "PID " ++ toString pid ++ " produced network activity identified by TracePilot's deterministic "
    ++ "investigation tools. "
    ++ " ".intercalate ((eventIds.take 3).map fun id => "[event:" ++ id ++ "]")
    ++ "\n\nThis demo report does not determine that the process was malicious. Application "
    ++ "logs and process context would be required to establish the underlying cause."

/-- `MockProvider.continue_with_tool_results`. -/
def continueWithToolResults (state : Option ℕ) (toolResults : List ToolResult) :
    Except PyException (ProviderResponse (Option ℕ)) :=
  let eventIds := (toolResults.flatMap fun r => extractEventIds r.result).eraseDups
  match state with
  | none => .error (.value "'NoneType' object is not subscriptable")
  | some pid =>
      .ok ⟨some (if eventIds = [] then emptyReport pid else report pid eventIds), [], some pid⟩

end MockProvider

/-- `MockProvider()`. -/
def MockProvider (u : Unicode) : LLMProvider where
  State := Option ℕ
  start question := .ok (MockProvider.start u question)
  continueWithToolResults := MockProvider.continueWithToolResults

/-- A provider that makes one request and then reports. -/
def LLMProvider.scripted (request : ToolRequest) (report : String) : LLMProvider where
  State := Unit
  start _ := .ok ⟨none, [request], ()⟩
  continueWithToolResults _ _ := .ok ⟨some report, [], ()⟩

/-! ## The factory -/

/-- What the factory reads from outside the program: the environment variable, and what the
constructors of the two hosted providers return or raise. -/
structure Environment where
  llmProvider : Option String
  gemini : Except PyException LLMProvider
  openai : Except PyException LLMProvider

/-- `os.getenv("LLM_PROVIDER", "mock").strip().lower()`. -/
def Environment.providerName (u : Unicode) (env : Environment) : String :=
  u.lower (u.strip (env.llmProvider.getD "mock"))

/-- `create_llm_provider`.  The normalised name is bound to `provider`, and only the first test
reads that variable.  The tests for the mock and OpenAI providers read `provider_name`, which is
bound nowhere, so evaluating the first of them raises. -/
def createLlmProvider (u : Unicode) (env : Environment) : Except PyException LLMProvider :=
  if env.providerName u = "gemini" then env.gemini
  else .error (.nameError "name 'provider_name' is not defined")

end TracePilot
