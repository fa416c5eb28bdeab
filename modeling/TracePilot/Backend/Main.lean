import TracePilot.Backend.Agent

/-!
# The investigation endpoint

`POST /investigations` records the question as a running investigation, runs the agent in the
same session, and records the answer or the failure.
-/

namespace TracePilot

/-- The answer of a failed investigation. -/
def failedAnswer : String := "The investigation could not be completed."

section CreateInvestigation

variable (lib : Libraries) (u : Unicode) (env : Environment)

/-- The body of the `try` block. -/
def completeInvestigation (investigation : Investigation) : Handler Investigation := do
  let answer ←
    runInvestigationAgent lib investigation.id u env investigation.question none
  let completedAt ← Handler.now
  Handler.change { investigation with
    answer := some answer
    status := "completed"
    completedAt := some completedAt.1 }
  Handler.commit
  Handler.refresh

/-- The body of the `except` block.  It commits on the session the failure left behind. -/
def failInvestigation (investigation : Investigation) : Handler Investigation := do
  let completedAt ← Handler.now
  Handler.change { investigation with
    status := "failed"
    answer := some failedAnswer
    completedAt := some completedAt.1 }
  Handler.commit
  throw (.http 502 "Investigation agent failed.")

def createInvestigation (investigationData : InvestigationCreate) : Handler Investigation := do
  Handler.add (.investigation investigationData.question "running")
  Handler.commit
  let investigation ← Handler.refresh
  tryCatch (completeInvestigation lib u env investigation)
    fun _ => failInvestigation investigation

end CreateInvestigation

/-- `get_investigation`. -/
def getInvestigation (db : Database) (investigationId : Uuid) : Except PyException Investigation :=
  match db.withId investigationId with
  | [] => .error (.http 404 "Investigation not found")
  | investigation :: _ => .ok investigation

end TracePilot
