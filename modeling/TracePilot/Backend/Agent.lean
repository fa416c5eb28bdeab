import TracePilot.Backend.AgentTools
import TracePilot.Backend.Llm

/-!
# The investigation agent

`runInvestigationAgent` lets a provider call tools for at most eight rounds and collects the
event ids their results contain.  A report is returned only if `validateReportEvidence` accepts
it against the ids collected so far.
-/

namespace TracePilot

open Resumption

/-! ## Evidence -/

mutual
/-- `extract_tool_event_ids`. -/
def extractToolEventIds : Json → Finset String
  | .obj fields => extractToolFields fields
  | .arr items => extractToolItems items
  | _ => ∅

/-- The loop over the items of a dictionary. -/
def extractToolFields : List (String × Json) → Finset String
  | [] => ∅
  | (key, child) :: rest =>
      ((idsUnderKey key child).map List.toFinset).getD (extractToolEventIds child)
        ∪ extractToolFields rest

/-- The loop over the items of a list. -/
def extractToolItems : List Json → Finset String
  | [] => ∅
  | item :: rest => extractToolEventIds item ∪ extractToolItems rest
end

/-- The class `[0-9a-fA-F-]`. -/
def isHexOrDash (c : Char) : Bool :=
  c.isDigit || ('a' ≤ c && c ≤ 'f') || ('A' ≤ c && c ≤ 'F') || c == '-'

/-- The opening of a citation. -/
def citationOpening : List Char := "[event:".toList

/-- `\[event:([0-9a-fA-F-]{36})\]`. -/
def citationPattern : List (Scan.Piece Char) :=
  citationOpening.map (fun a => .one (· == a))
    ++ [.rep isHexOrDash 36 (some 36) true, .one (· == ']')]

/-- `set(re.findall(...))`. -/
def citedEventIds (report : String) : List String :=
  ((Scan.findall citationPattern report.toList).map String.ofList).dedup

/-- `str` of a list of strings that need no escaping. -/
def pyList (items : List String) : String :=
  "[" ++ ", ".intercalate (items.map fun s => "'" ++ s ++ "'") ++ "]"

def validateReportEvidence (report : String) (allowedEventIds : Finset String) :
    Except PyException Unit :=
  let cited := citedEventIds report
  let invented := cited.filter fun id => id ∉ allowedEventIds
  if invented ≠ [] then
    .error (.evidence ("Report cited event IDs that were not returned by tools: "
      ++ pyList (Table.orderBy id invented)))
  else if allowedEventIds ≠ ∅ ∧ cited = [] then
    .error (.evidence "Report used event evidence without citing any returned event IDs.")
  else .ok ()

/-! ## The loop -/

section Loop

variable (lib : Libraries) (investigationId : Uuid)

/-- One request of a round: run the tool, collect its ids, keep its result. -/
def executeRequest (acc : Finset String × List ToolResult) (request : ToolRequest) :
    Handler (Finset String × List ToolResult) := do
  let result ← executeAgentTool lib request.name request.arguments investigationId
  pure (acc.1 ∪ extractToolEventIds result,
    acc.2 ++ [⟨request.callId, request.name, result⟩])

/-- `if not response.text: raise`. -/
def reportText (text : Option String) : Except PyException String :=
  match text with
  | some report =>
      if report = "" then .error (.runtime "Provider returned no investigation report.")
      else .ok report
  | none => .error (.runtime "Provider returned no investigation report.")

/-- The `for _ in range(rounds)` loop. -/
def agentLoop (provider : LLMProvider) :
    ℕ → Finset String → ProviderResponse provider.State → Handler String
  | 0, _, _ => throw (.runtime "Agent exceeded the maximum number of tool rounds.")
  | rounds + 1, allowed, response =>
      match response.toolRequests with
      | [] => do
          let report ← Task.ofExcept (reportText response.text)
          Task.ofExcept (validateReportEvidence report allowed)
          pure report
      | request :: requests => do
          let (allowed, toolResults) ←
            (request :: requests).foldlM (executeRequest lib investigationId) (allowed, [])
          let response ←
            Task.ofExcept (provider.continueWithToolResults response.state toolResults)
          agentLoop provider rounds allowed response

/-- `maximum_rounds`. -/
def maximumRounds : ℕ := 8

/-- The agent with a given provider. -/
def investigateWith (provider : LLMProvider) (question : String) : Handler String := do
  let response ← Task.ofExcept (provider.start question)
  agentLoop lib investigationId provider maximumRounds ∅ response

/-- `run_investigation_agent`. -/
def runInvestigationAgent (u : Unicode) (env : Environment) (question : String)
    (provider : Option LLMProvider) : Handler String :=
  match (provider.map Except.ok).getD (createLlmProvider u env) with
  | .error e => throw e
  | .ok provider => investigateWith lib investigationId provider question

end Loop

end TracePilot
