import TracePilot.Backend.ToolRuns

/-!
# The audit record of a tool call

`CallOutcome` lists everything that can come of one `executeAgentTool` on a clean session.

* The call reached its audit record and the database took it: `recorded`.
* It reached its record and the database refused it, which leaves the session unusable:
  `refused`.
* The tool's query failed, and there is no record: `queryFailed`.

**`executeAgentTool_spec`** proves the list complete over all interleavings with other requests.
The theorems about runs use the list and never the text of the program.

The second part compares the list with what an audit trail should do: one committed record per
call, whatever came of it.  **`auditComplete_iff`** says which calls have one.
-/

namespace TracePilot

open Resumption

section CallOutcome

variable (lib : Libraries) (toolName : String) (raw : Json) (investigationId : Uuid)

/-- A call that is about to record: what it has observed so far, the arguments and the result of
the record, and the reply that it gives once the record is committed. -/
inductive Attempt :
    List Observation → Json → Json → Except PyException Json → Prop
  | unknownTool (hname : (toolRegistry lib.toPydantic).lookup toolName = none) :
      Attempt [] (lib.jsonableEncoder raw) (notAllowedResult toolName)
        (.error (.toolNotAllowed (notPermitted toolName)))
  | rejectedArguments {tool : ToolDefinition}
      (hname : (toolRegistry lib.toPydantic).lookup toolName = some tool)
      (hraw : tool.modelValidate raw = none) :
      Attempt [] (lib.jsonableEncoder raw)
        (invalidArgumentsResult (lib.errors tool.modelName raw))
        (.error (.validation (lib.errors tool.modelName raw)))
  | answered {tool : ToolDefinition} {c : AcceptedCall} {read : List Statement} {v : Json}
      (hname : (toolRegistry lib.toPydantic).lookup toolName = some tool)
      (hcall : acceptedCall lib.toPydantic toolName raw = some c)
      (hrange : c.inRange = true) (hanswer : c.Answer read v) :
      Attempt (.invoked toolName (c.arguments lib.toPydantic) :: read.map Statement.observation)
        (c.arguments lib.toPydantic) v (.ok v)

/-- The session after a flush of one audit record. -/
def Session.recording (l : Session) (db : Database) (record : AgentToolCall) : Session :=
  l.observing [.flushed db [.agentToolCall record] none]

/-- The session after a refused flush of one audit record. -/
def Session.failing (l : Session) (db : Database) (record : AgentToolCall) : Session :=
  { l.recording db record with unusable := true }

@[simp] lemma Session.recording_log (l : Session) (db : Database) (record : AgentToolCall) :
    (l.recording db record).log = l.log ++ [.flushed db [.agentToolCall record] none] := rfl

@[simp] lemma Session.failing_log (l : Session) (db : Database) (record : AgentToolCall) :
    (l.failing db record).log = l.log ++ [.flushed db [.agentToolCall record] none] := rfl

/-- Everything that was read is in the table. -/
def ReadFrom (observed : List Observation) (s : Server) : Prop :=
  ∀ clause table, .selected clause table ∈ observed → ∀ e ∈ table, e ∈ s.db.connectionEvents

/-- What a call on a clean session can come to. -/
inductive CallOutcome (l : Session) (s : Server) :
    Except PyException Json → Session → Server → Prop
  | recorded {observed : List Observation} {arguments result : Json}
      {reply : Except PyException Json} {s₁ : Server} {record : AgentToolCall}
      (attempt : Attempt lib toolName raw observed arguments result reply)
      (hs : Interference l s s₁) (hread : ReadFrom observed s₁)
      (hrecord : record = ⟨investigationId, toolName, arguments, result, s₁.clock.1⟩)
      (fits : record.fits = true) :
      CallOutcome l s reply ((l.observing observed).recording s₁.db record)
        { s₁ with db := s₁.db.withCall record }
  | refused {observed : List Observation} {arguments result : Json}
      {reply : Except PyException Json} {s₁ : Server} {record : AgentToolCall}
      (attempt : Attempt lib toolName raw observed arguments result reply)
      (hs : Interference l s s₁)
      (hrecord : record = ⟨investigationId, toolName, arguments, result, s₁.clock.1⟩)
      (unfit : record.fits = false) :
      CallOutcome l s (.error .database)
        ((l.observing observed).failing s₁.db record) s₁
  | queryFailed {tool : ToolDefinition} {c : AcceptedCall} {s₁ : Server}
      (hname : (toolRegistry lib.toPydantic).lookup toolName = some tool)
      (hcall : acceptedCall lib.toPydantic toolName raw = some c) (hrange : c.inRange = false)
      (hs : Interference l s s₁) :
      CallOutcome l s (.error .database)
        (l.note (.invoked toolName (c.arguments lib.toPydantic))) s₁

end CallOutcome

/-! ## The list is complete -/

section Spec

variable {lib : Libraries} {toolName : String} {raw : Json} {investigationId : Uuid}
  {l : Session} {s : Server}

/-- One audit record, flushed alone: it is taken exactly when it fits its columns. -/
lemma audit_spec {arguments result : Json} (hl : l.Clean)
    (hid : s.db.withId investigationId ≠ [])
    {Q : Except PyException Unit → Session → Server → Prop}
    (hok : ∀ s₁ record, Interference l s s₁ →
      record = ⟨investigationId, toolName, arguments, result, s₁.clock.1⟩ →
      record.fits = true →
      Q (.ok ()) (l.recording s₁.db record) { s₁ with db := s₁.db.withCall record })
    (herr : ∀ s₁ record, Interference l s s₁ →
      record = ⟨investigationId, toolName, arguments, result, s₁.clock.1⟩ →
      record.fits = false →
      Q (.error .database) (l.failing s₁.db record) s₁) :
    (audit investigationId toolName arguments result).wp Q l s := by
  obtain ⟨new, changed, own, unusable, log⟩ := l
  obtain ⟨rfl, rfl, rfl⟩ : new = [] ∧ changed = none ∧ unusable = false :=
    ⟨hl.new, hl.changed, hl.usable⟩
  refine Handler.wp_bind.mpr (wp_add.mpr fun s₁ h₁ => ?_)
  refine commit_of_usable rfl ?_ ?_
  · intro s₂ db h₂ hf
    simp only [Session.pending, List.nil_append, List.map_cons, List.map_nil, Draft.row,
      Database.flush_agentToolCall] at hf
    split_ifs at hf with hfits
    obtain rfl := Option.some.inj hf
    exact hok s₂ _ (h₁.trans h₂ rfl) rfl hfits.1
  · intro s₂ h₂ hf
    have hs := h₁.trans h₂ rfl
    simp only [Session.pending, List.nil_append, List.map_cons, List.map_nil, Draft.row,
      Database.flush_agentToolCall] at hf
    split_ifs at hf with hfits
    refine herr s₂ _ hs rfl ?_
    by_contra hne
    exact hfits ⟨by simpa using hne, hs.investigations _ hid⟩

/-- What was read stays in the table. -/
lemma ReadFrom.mono {observed : List Observation} {s' : Server} (h : ReadFrom observed s)
    (hs : Interference l s s') : ReadFrom observed s' :=
  fun clause table hmem e he => hs.events e (h clause table hmem e he)

/-- What a tool function read, after the call of the function itself. -/
lemma readFrom_statements {read : List Statement} (tool : String) (arguments : Json)
    (hread : ∀ q ∈ read, ∀ e ∈ q.table, e ∈ s.db.connectionEvents) :
    ReadFrom (.invoked tool arguments :: read.map Statement.observation) s := by
  intro clause table hmem e he
  simp only [List.mem_cons, reduceCtorEq, false_or, List.mem_map] at hmem
  obtain ⟨q, hq, hq'⟩ := hmem
  obtain ⟨rfl, rfl⟩ := Observation.selected.inj hq'
  exact hread q hq e he

/-- The end of a call: its audit record is taken or refused. -/
lemma record_spec {observed : List Observation} {arguments result : Json}
    {reply : Except PyException Json} {s₁ : Server}
    (attempt : Attempt lib toolName raw observed arguments result reply) (hl : l.Clean)
    (hid : s.db.withId investigationId ≠ []) (hs : Interference l s s₁)
    (hread : ReadFrom observed s₁) :
    (audit investigationId toolName arguments result).wp
      (Task.outcome (fun _ => CallOutcome lib toolName raw investigationId l s reply)
        fun e => CallOutcome lib toolName raw investigationId l s (.error e))
      (l.observing observed) s₁ := by
  refine audit_spec (hl.observing observed) (hs.investigations _ hid) ?_ ?_
  · intro s₂ record h₂ hrecord fits
    exact CallOutcome.recorded attempt (hs.trans h₂ rfl) (hread.mono h₂) hrecord fits
  · intro s₂ record h₂ hrecord unfit
    exact CallOutcome.refused attempt (hs.trans h₂ rfl) hrecord unfit

/-- **The list of outcomes is complete.** -/
theorem executeAgentTool_spec (hlib : lib.EncodesJson) (hl : l.Clean)
    (hid : s.db.withId investigationId ≠ []) :
    (executeAgentTool lib toolName raw investigationId).wp
      (CallOutcome lib toolName raw investigationId l s) l s := by
  have hempty : ReadFrom [] s := by simp [ReadFrom]
  have hrefl := Interference.refl l s
  unfold executeAgentTool
  split
  case h_1 hname =>
    have hattempt : Attempt lib toolName raw [] _ _ _ := .unknownTool hname
    have h := record_spec hattempt hl hid hrefl hempty
    rw [Session.observing_nil] at h
    exact Handler.wp_bind.mpr h
  case h_2 tool hname =>
    split
    case h_1 hraw =>
      have h := record_spec (.rejectedArguments hname hraw) hl hid hrefl hempty
      rw [Session.observing_nil] at h
      exact Handler.wp_bind.mpr h
    case h_2 a hraw =>
      obtain ⟨c, hcall, hfun, hdump⟩ := acceptedCall_eq_some hname hraw
      rw [hfun, hdump, encode_arguments c hlib]
      refine Handler.wp_bind.mpr (wp_invoke.mpr fun s₁ h₁ => ?_)
      refine Handler.wp_bind.mpr (Handler.wp_mono (function_spec c _ s₁ hl.usable) ?_)
      rintro r l₂ s₂ ⟨h₂, read, rfl, hread, hr⟩
      have hs := h₁.trans h₂ rfl
      rw [Session.note, Session.observing_observing]
      cases r with
      | error e =>
          obtain ⟨hrange, rfl, rfl⟩ := hr
          exact CallOutcome.queryFailed hname hcall hrange hs
      | ok v =>
          obtain ⟨hrange, hanswer⟩ := hr
          have h := record_spec (.answered hname hcall hrange hanswer) hl hid hs
            (readFrom_statements _ _ hread)
          rw [← hanswer.encode hlib] at h
          exact Handler.wp_bind.mpr h

end Spec

/-! ## One record per call -/

/-- The audit record of an `INSERT`. -/
def Row.agentToolCall? : Row → Option AgentToolCall
  | .agentToolCall c => some c
  | .investigation _ => none

/-- The audit records an observed flush committed. -/
def Observation.committed : Observation → List AgentToolCall
  | .flushed db rows changed =>
      if (db.flush rows changed).isSome then rows.filterMap Row.agentToolCall? else []
  | _ => []

/-- The audit records a session committed. -/
def committedCalls (observed : List Observation) : List AgentToolCall :=
  observed.flatMap Observation.committed

/-- The statement of an observation. -/
def Observation.statement? : Observation → Option Statement
  | .selected clause table => some ⟨clause, table⟩
  | _ => none

/-- The statements a session sent, with the tables they saw. -/
def statementsRead (observed : List Observation) : List Statement :=
  observed.filterMap Observation.statement?

/-- `Tells result reply`: an audit result from which the outcome of the call can be read.  A
success is recorded as the value it returned; the two refusals have their own marks; a failure
of any other kind would need a mark of its own. -/
def Tells (result : Json) : Except PyException Json → Prop
  | .ok v => result = v ∧ result.field "error" = none
  | .error (.toolNotAllowed _) => result.field "error" = some (.str "tool_not_allowed")
  | .error (.validation _) => result.field "error" = some (.str "invalid_arguments")
  | .error _ => ∃ mark, result.field "error" = some (.str mark)
      ∧ mark ≠ "tool_not_allowed" ∧ mark ≠ "invalid_arguments"

/-- What a session observed since it was `l`. -/
def observedSince (l l' : Session) : List Observation := l'.log.drop l.log.length

/-- **Audit completeness of one call**: when it is over, it has committed exactly one audit
record, for its investigation and under its tool name, which tells what came of it. -/
def AuditComplete (toolName : String) (investigationId : Uuid) (l : Session)
    (o : Except PyException Json × Session × Server) : Prop :=
  ∃ c, committedCalls (observedSince l o.2.1) = [c] ∧ c ∈ o.2.2.db.agentToolCalls
    ∧ c.investigationId = investigationId ∧ c.toolName = toolName ∧ Tells c.result o.1

/-- The calls that leave their record.  An unknown name must fit its column and the raw
arguments theirs; so must rejected arguments and the details of the rejection.  An accepted call
must bind parameters the driver can send, and report no duration that JSON cannot write. -/
def Auditable (lib : Libraries) (toolName : String) (raw : Json) (read : List Statement) : Prop :=
  match (toolRegistry lib.toPydantic).lookup toolName with
  | none => varchar 100 toolName = true ∧ jsonb (lib.jsonableEncoder raw) = true
  | some tool =>
      match acceptedCall lib.toPydantic toolName raw with
      | none => jsonb (lib.jsonableEncoder raw) = true
          ∧ jsonb (lib.errors tool.modelName raw) = true
      | some c => c.inRange = true ∧ ∀ x ∈ c.reportedDurations read, x.isFinite = true

section AuditComplete

variable {lib : Libraries} {toolName : String} {raw : Json} {investigationId : Uuid}
  {l : Session} {s : Server}

/-- The names of the five tools fit their column. -/
lemma varchar_of_registered {py : Pydantic} {tool : ToolDefinition}
    (h : (toolRegistry py).lookup toolName = some tool) : varchar 100 toolName = true := by
  rcases lookup_toolRegistry h with ⟨rfl, -⟩ | ⟨rfl, -⟩ | ⟨rfl, -⟩ | ⟨rfl, -⟩ | ⟨rfl, -⟩
  all_goals decide

lemma noNul_of_varchar {width : ℕ} {text : String} (h : varchar width text = true) :
    noNul text = true := by
  rw [varchar, Bool.and_eq_true] at h
  exact h.2

lemma jsonb_notAllowedResult (h : varchar 100 toolName = true) :
    jsonb (notAllowedResult toolName) = true := by
  have hname := noNul_of_varchar h
  have hlit : noNul "Tool '" = true ∧ noNul "' is not permitted." = true
    ∧ noNul "tool_not_allowed" = true ∧ noNul "error" = true ∧ noNul "message" = true := by decide
  simp [jsonb, notAllowedResult, notPermitted, jsonbLeaf, hname, hlit]

lemma jsonb_invalidArgumentsResult (details : Json) :
    jsonb (invalidArgumentsResult details) = jsonb details := by
  have hlit : noNul "invalid_arguments" = true ∧ noNul "error" = true ∧ noNul "details" = true := by
    decide
  simp [jsonb, invalidArgumentsResult, jsonbLeaf, hlit]

lemma statementsRead_append (observed observed' : List Observation) :
    statementsRead (observed ++ observed') = statementsRead observed ++ statementsRead observed' :=
  List.filterMap_append

lemma statementsRead_observations (read : List Statement) :
    statementsRead (read.map Statement.observation) = read := by
  rw [statementsRead, List.filterMap_map]
  induction read with
  | nil => rfl
  | cons q read ih =>
      rw [List.filterMap_cons]
      simp [Statement.observation, Observation.statement?, Function.comp_def]

lemma statementsRead_map (read : List Statement) (o : Observation) (ho : o.statement? = none) :
    statementsRead (o :: read.map Statement.observation) = read := by
  have h := statementsRead_observations read
  rw [statementsRead] at h ⊢
  rw [List.filterMap_cons, ho, h]

/-- What reaches its audit record fits the columns exactly when the call is `Auditable`. -/
lemma Attempt.fits_iff {observed : List Observation} {arguments result : Json}
    {reply : Except PyException Json}
    (attempt : Attempt lib toolName raw observed arguments result reply) (now : ℤ) :
    (⟨investigationId, toolName, arguments, result, now⟩ : AgentToolCall).fits = true
      ↔ Auditable lib toolName raw (statementsRead observed) := by
  cases attempt with
  | unknownTool hname =>
      simp only [AgentToolCall.fits, Auditable, hname, Bool.and_eq_true]
      exact ⟨fun h => h.1, fun h => ⟨h, jsonb_notAllowedResult h.1⟩⟩
  | rejectedArguments hname hraw =>
      simp only [AgentToolCall.fits, Auditable, hname, acceptedCall_eq_none hname hraw,
        Bool.and_eq_true, jsonb_invalidArgumentsResult, varchar_of_registered hname, true_and]
  | answered hname hcall hrange hanswer =>
      simp only [AgentToolCall.fits, Auditable, hname, hcall, hrange, Bool.and_eq_true, true_and,
        varchar_of_registered hname, statementsRead_map _ (.invoked _ _) rfl]
      rw [jsonb, every_arguments _ _ plain_jsonb, jsonb, hanswer.every_iff plain_jsonb]
      exact and_iff_right rfl

/-- A recorded call tells its outcome. -/
lemma Attempt.tells {observed : List Observation} {arguments result : Json}
    {reply : Except PyException Json}
    (attempt : Attempt lib toolName raw observed arguments result reply) : Tells result reply := by
  cases attempt with
  | unknownTool hname => rfl
  | rejectedArguments hname hraw => rfl
  | answered hname hcall hrange hanswer => exact ⟨rfl, hanswer.no_error⟩

/-- An attempt commits nothing before its record. -/
lemma Attempt.committedCalls_eq_nil {observed : List Observation} {arguments result : Json}
    {reply : Except PyException Json}
    (attempt : Attempt lib toolName raw observed arguments result reply) :
    committedCalls observed = [] := by
  cases attempt with
  | unknownTool hname => rfl
  | rejectedArguments hname hraw => rfl
  | answered hname hcall hrange hanswer =>
      simp [committedCalls, Observation.committed, Statement.observation]

lemma observedSince_observing (l : Session) (observed : List Observation) :
    observedSince l (l.observing observed) = observed := by
  simp [observedSince]

lemma observedSince_recording (l : Session) (observed : List Observation) (db : Database)
    (record : AgentToolCall) :
    observedSince l ((l.observing observed).recording db record)
      = observed ++ [.flushed db [.agentToolCall record] none] := by
  simp [observedSince]

lemma observedSince_failing (l : Session) (observed : List Observation) (db : Database)
    (record : AgentToolCall) :
    observedSince l ((l.observing observed).failing db record)
      = observed ++ [.flushed db [.agentToolCall record] none] := by
  simp [observedSince]

/-- Behind an attempt, the flush of its record reads nothing and commits what it is allowed to. -/
lemma Attempt.committedCalls_append {observed : List Observation} {arguments result : Json}
    {reply : Except PyException Json}
    (attempt : Attempt lib toolName raw observed arguments result reply) (db : Database)
    (record : AgentToolCall) :
    statementsRead (observed ++ [.flushed db [.agentToolCall record] none])
        = statementsRead observed
      ∧ committedCalls (observed ++ [.flushed db [.agentToolCall record] none])
        = if record.fits = true ∧ db.withId record.investigationId ≠ [] then [record] else [] := by
  constructor
  · simp [statementsRead, Observation.statement?]
  · have hnil := attempt.committedCalls_eq_nil
    rw [committedCalls] at hnil
    simp only [committedCalls, List.flatMap_append, hnil, List.nil_append, List.flatMap_cons,
      List.flatMap_nil, List.append_nil, Observation.committed, Database.flush_agentToolCall]
    split_ifs <;> simp_all [Row.agentToolCall?]

/-- **Which calls are audited.**  Of everything `executeAgentTool` can come to, over every
interleaving with other requests, exactly the `Auditable` calls leave their record. -/
theorem auditComplete_iff (hlib : lib.EncodesJson) (hl : l.Clean)
    (hid : s.db.withId investigationId ≠ [])
    {o : Except PyException Json × Session × Server}
    (ho : (executeAgentTool lib toolName raw investigationId).Reaches l s o) :
    AuditComplete toolName investigationId l o
      ↔ Auditable lib toolName raw (statementsRead (observedSince l o.2.1)) := by
  obtain ⟨reply, l', s'⟩ := o
  have h : CallOutcome lib toolName raw investigationId l s reply l' s' :=
    Handler.wp_iff_forall_reaches.mp (executeAgentTool_spec hlib hl hid) _ ho
  cases h with
  | @recorded observed _ _ _ s₁ record attempt hs hread hrecord fits =>
      have hid₁ : s₁.db.withId record.investigationId ≠ [] := by
        rw [hrecord]
        exact hs.investigations _ hid
      have hsince := observedSince_recording l observed s₁.db record
      obtain ⟨hread', hcalls⟩ := attempt.committedCalls_append s₁.db record
      rw [if_pos ⟨fits, hid₁⟩] at hcalls
      rw [hsince, hread', ← attempt.fits_iff s₁.clock.1, ← hrecord]
      refine iff_of_true ⟨record, ?_, ?_, ?_⟩ fits
      · rw [hsince, hcalls]
      · simp [Database.withCall]
      · rw [hrecord]
        exact ⟨rfl, rfl, attempt.tells⟩
  | @refused observed _ _ _ _ record attempt hs hrecord unfit =>
      have hsince := observedSince_failing l observed s'.db record
      obtain ⟨hread', hcalls⟩ := attempt.committedCalls_append s'.db record
      rw [if_neg (by simp [unfit])] at hcalls
      rw [hsince, hread', ← attempt.fits_iff s'.clock.1, ← hrecord]
      refine iff_of_false ?_ (by simp [unfit])
      rintro ⟨c, hc, -⟩
      rw [hsince, hcalls] at hc
      cases hc
  | queryFailed hname hcall hrange hs =>
      rw [Session.note, observedSince_observing]
      refine iff_of_false ?_ (by simp [Auditable, hname, hcall, hrange])
      rintro ⟨c, hc, -⟩
      rw [observedSince_observing] at hc
      cases hc

end AuditComplete

/-- A server with one running investigation and no events. -/
def Server.investigating (investigationId : Uuid) : Server where
  db := ⟨[], [⟨investigationId, "Why is PID 42 busy?", "running", none, 0, none⟩], []⟩
  clock := .sample
  uuid4 := 0

theorem auditComplete_iff_timeline :
    AuditComplete "get_event_timeline" 7 {}
      ((executeAgentTool .strict "get_event_timeline" (.obj [("pid", .int 42)]) 7).run {}
        (.investigating 7)) :=
  (auditComplete_iff Libraries.strict_encodesJson ⟨rfl, rfl, rfl⟩ (by decide)
    (Handler.reaches_run _ _ _)).mpr ⟨by decide, fun x hx => nomatch hx⟩

/-- A PID beyond 32 bits passes validation and fails in the driver, and nothing is recorded. -/
theorem not_auditComplete_largePid :
    ∃ o, (executeAgentTool .strict "get_event_timeline" (.obj [("pid", .int 2147483648)]) 7).Reaches
        {} (.investigating 7) o
      ∧ ¬ AuditComplete "get_event_timeline" 7 {} o := by
  refine ⟨_, Handler.reaches_run _ _ _, ?_⟩
  rintro ⟨c, hc, -⟩
  cases hc

end TracePilot
