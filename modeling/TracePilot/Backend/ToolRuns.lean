import TracePilot.Backend.ToolResults

/-!
# What a tool function does

An accepted call is an element of the sum type `AcceptedCall`, so that proofs about the five tools
go by cases on it instead of on the registry.

* **`function_spec`** — every tool function reads its statements and answers, or a parameter is
  out of the range of the driver and it raises before reading anything.
* **`AcceptedCall.Answer.ids`** — every id in an answer belongs to a row that was read.
* **`AcceptedCall.Answer.every_iff`** — an answer can be stored unless a duration it reports is
  not finite.
-/

namespace TracePilot

/-- A statement with the table it saw. -/
structure Statement where
  clause : EventWhere
  table : List StoredEvent

/-- The rows a statement returned. -/
def Statement.rows (q : Statement) : List StoredEvent := q.table.filter q.clause.holds

/-- A statement as the session observed it. -/
def Statement.observation (q : Statement) : Observation := .selected q.clause q.table

/-! ## Accepted calls -/

/-- A call whose name is registered and whose arguments passed validation. -/
inductive AcceptedCall
  | processConnections (a : ProcessConnectionsArguments)
  | topNetworkProcesses (a : TopNetworkProcessesArguments)
  | connectionBursts (a : ConnectionBurstsArguments)
  | unusualDestinations (a : UnusualDestinationsArguments)
  | eventTimeline (a : EventTimelineArguments)

namespace AcceptedCall

/-- The tool function applied to its arguments. -/
def function : AcceptedCall → Handler Json
  | processConnections a => getProcessConnections a
  | topNetworkProcesses a => getTopNetworkProcesses a
  | connectionBursts a => findConnectionBursts a
  | unusualDestinations a => findUnusualDestinations a
  | eventTimeline a => getEventTimeline a

variable (py : Pydantic)

/-- The registry entry of the called tool. -/
def tool : AcceptedCall → ToolDefinition
  | processConnections _ => processConnectionsTool py
  | topNetworkProcesses _ => topNetworkProcessesTool py
  | connectionBursts _ => connectionBurstsTool py
  | unusualDestinations _ => unusualDestinationsTool py
  | eventTimeline _ => eventTimelineTool py

/-- The validated arguments, at the type of the called tool. -/
def validated : (c : AcceptedCall) → (c.tool py).Arguments
  | processConnections a => a
  | topNetworkProcesses a => a
  | connectionBursts a => a
  | unusualDestinations a => a
  | eventTimeline a => a

/-- The arguments as the audit record reports them. -/
def arguments (c : AcceptedCall) : Json := (c.tool py).modelDump (c.validated py)

/-- The driver can send every parameter the tool binds. -/
def inRange : AcceptedCall → Bool
  | processConnections a => int4 a.pid && decide a.startTime.encodable && decide a.endTime.encodable
  | topNetworkProcesses _ => true
  | connectionBursts _ => true
  | unusualDestinations a => int4 a.pid
  | eventTimeline a => int4 a.pid

/-- `c.Answer read v`: the statements `read` are those of the tool, and `v` is what it makes of
their rows. -/
def Answer : AcceptedCall → List Statement → Json → Prop
  | processConnections a, read, v => ∃ q, read = [q]
      ∧ q.clause = processConnectionsClause a ∧ v = processConnectionsResult a q.rows
  | topNetworkProcesses a, read, v => ∃ now q, read = [q]
      ∧ q.clause = recentClause now a.minutes ∧ v = topNetworkProcessesResult a q.rows
  | connectionBursts a, read, v => ∃ now q, read = [q]
      ∧ q.clause = recentClause now a.minutes ∧ v = connectionBurstsResult a q.rows
  | unusualDestinations a, read, v => ∃ now q q', read = [q, q']
      ∧ q.clause = baselineClause a now ∧ q'.clause = lastHourClause a now
      ∧ v = unusualDestinationsResult a q.rows q'.rows
  | eventTimeline a, read, v => ∃ now q, read = [q]
      ∧ q.clause = eventTimelineClause a now ∧ v = eventTimelineResult a q.rows

/-- The durations the tool reports.  Only one tool reports any. -/
def reportedDurations : AcceptedCall → List Statement → List PyFloat
  | processConnections _, read =>
      read.flatMap fun q => (processConnectionsRows q.rows).filterMap fun e => e.durationMs
  | _, _ => []

end AcceptedCall

/-- The accepted call that a name and raw arguments stand for, if any. -/
def acceptedCall (py : Pydantic) (toolName : String) (raw : Json) : Option AcceptedCall :=
  if toolName = "get_process_connections" then
    (ProcessConnectionsArguments.validate py raw).map .processConnections
  else if toolName = "get_top_network_processes" then
    (TopNetworkProcessesArguments.validate py raw).map .topNetworkProcesses
  else if toolName = "find_connection_bursts" then
    (ConnectionBurstsArguments.validate py raw).map .connectionBursts
  else if toolName = "find_unusual_destinations" then
    (UnusualDestinationsArguments.validate py raw).map .unusualDestinations
  else if toolName = "get_event_timeline" then
    (EventTimelineArguments.validate py raw).map .eventTimeline
  else none

/-- A registered name is one of five. -/
lemma lookup_toolRegistry {py : Pydantic} {toolName : String} {tool : ToolDefinition}
    (h : (toolRegistry py).lookup toolName = some tool) :
    (toolName = "get_process_connections" ∧ tool = processConnectionsTool py)
      ∨ (toolName = "get_top_network_processes" ∧ tool = topNetworkProcessesTool py)
      ∨ (toolName = "find_connection_bursts" ∧ tool = connectionBurstsTool py)
      ∨ (toolName = "find_unusual_destinations" ∧ tool = unusualDestinationsTool py)
      ∨ (toolName = "get_event_timeline" ∧ tool = eventTimelineTool py) := by
  obtain ⟨before, after, hreg, -⟩ := List.lookup_eq_some_iff.mp h
  have hmem : (toolName, tool) ∈ toolRegistry py := by rw [hreg]; simp
  simpa [toolRegistry] using hmem

/-- The dispatcher and `acceptedCall` agree on what is rejected. -/
lemma acceptedCall_eq_none {py : Pydantic} {toolName : String} {tool : ToolDefinition} {raw : Json}
    (h : (toolRegistry py).lookup toolName = some tool) (hraw : tool.modelValidate raw = none) :
    acceptedCall py toolName raw = none := by
  rcases lookup_toolRegistry h with ⟨rfl, rfl⟩ | ⟨rfl, rfl⟩ | ⟨rfl, rfl⟩ | ⟨rfl, rfl⟩ | ⟨rfl, rfl⟩
  all_goals exact Option.map_eq_none_iff.mpr hraw

/-- The dispatcher runs the function of the accepted call and records its arguments. -/
lemma acceptedCall_eq_some {py : Pydantic} {toolName : String} {tool : ToolDefinition} {raw : Json}
    (h : (toolRegistry py).lookup toolName = some tool) {a : tool.Arguments}
    (hraw : tool.modelValidate raw = some a) :
    ∃ c : AcceptedCall, acceptedCall py toolName raw = some c
      ∧ tool.function a = c.function ∧ tool.modelDump a = c.arguments py := by
  rcases lookup_toolRegistry h with ⟨rfl, rfl⟩ | ⟨rfl, rfl⟩ | ⟨rfl, rfl⟩ | ⟨rfl, rfl⟩ | ⟨rfl, rfl⟩
  · exact ⟨.processConnections a, Option.map_eq_some_iff.mpr ⟨a, hraw, rfl⟩, rfl, rfl⟩
  · exact ⟨.topNetworkProcesses a, Option.map_eq_some_iff.mpr ⟨a, hraw, rfl⟩, rfl, rfl⟩
  · exact ⟨.connectionBursts a, Option.map_eq_some_iff.mpr ⟨a, hraw, rfl⟩, rfl, rfl⟩
  · exact ⟨.unusualDestinations a, Option.map_eq_some_iff.mpr ⟨a, hraw, rfl⟩, rfl, rfl⟩
  · exact ⟨.eventTimeline a, Option.map_eq_some_iff.mpr ⟨a, hraw, rfl⟩, rfl, rfl⟩

/-! ## Which statements the driver sends -/

/-- A window that reaches back at most eight days, which is the most a request can ask for, starts
at an instant a `datetime` can hold. -/
lemma representable_windowStart (now : Clock) {t : ℤ} (ht : 0 ≤ t) (ht' : t ≤ 11520 * 60000000) :
    Datetime.representable (now.1 - t) := by
  obtain ⟨now, hnow, hrep⟩ := now
  unfold Datetime.representable at hrep ⊢
  dsimp only
  omega

lemma recentClause_binds (now : Clock) {n : ℤ} (hn : 1 ≤ n ∧ n ≤ 1440) :
    (recentClause now n).binds = true := by
  have h := representable_windowStart now (t := minutes n)
    (by unfold minutes; omega) (by unfold minutes; omega)
  simpa [recentClause, EventWhere.binds] using h

lemma processConnectionsClause_binds (a : ProcessConnectionsArguments) :
    (processConnectionsClause a).binds = (AcceptedCall.processConnections a).inRange := by
  simp [processConnectionsClause, EventWhere.binds, AcceptedCall.inRange]

lemma baselineClause_binds (a : UnusualDestinationsArguments) (now : Clock) :
    (baselineClause a now).binds = int4 a.pid := by
  have h := representable_windowStart now (t := minutes 60) (by decide) (by decide)
  have h' := representable_windowStart now (t := minutes 60 + minutes 1440) (by decide) (by decide)
  rw [← sub_sub] at h'
  simp [baselineClause, EventWhere.binds, h, h']

lemma lastHourClause_binds (a : UnusualDestinationsArguments) (now : Clock) :
    (lastHourClause a now).binds = int4 a.pid := by
  have h := representable_windowStart now (t := minutes 60) (by decide) (by decide)
  simp [lastHourClause, EventWhere.binds, h, now.2.2]

lemma eventTimelineClause_binds (a : EventTimelineArguments) (now : Clock) :
    (eventTimelineClause a now).binds = int4 a.pid := by
  have h := representable_windowStart now (t := minutes 1440) (by decide) (by decide)
  simp [eventTimelineClause, EventWhere.binds, h]

/-! ## Running a tool function -/

/-- What a tool function leaves behind: it read its statements and answered, or a parameter was
out of range and it raised before reading anything. -/
def FunctionOutcome (c : AcceptedCall) (l : Session) (s : Server) (r : Except PyException Json)
    (l' : Session) (s' : Server) : Prop :=
  Interference l s s' ∧ ∃ read : List Statement,
    l' = l.observing (read.map Statement.observation)
    ∧ (∀ q ∈ read, ∀ e ∈ q.table, e ∈ s'.db.connectionEvents)
    ∧ match r with
      | .ok v => c.inRange = true ∧ c.Answer read v
      | .error e => c.inRange = false ∧ e = .database ∧ read = []

/-- A tool that sends one statement and formats its rows. -/
lemma readThenFormat_spec {c : AcceptedCall} {clause : EventWhere}
    {format : List StoredEvent → Json} {l : Session} {s₀ s : Server} (hl : l.unusable = false)
    (hs : Interference l s₀ s) (hbinds : clause.binds = c.inRange)
    (hanswer : ∀ q : Statement, q.clause = clause → c.Answer [q] (format q.rows)) :
    Handler.wp (do let rows ← Handler.select clause; pure (format rows))
      (FunctionOutcome c l s₀) l s := by
  rw [Handler.wp_bind]
  refine select_of_usable hl ?_ ?_
  · intro hb s' hR
    refine ⟨hs.trans hR rfl, [⟨clause, s'.db.connectionEvents⟩], rfl, ?_,
      hbinds.symm.trans hb, hanswer ⟨clause, s'.db.connectionEvents⟩ rfl⟩
    simp
  · intro hb s' hR
    exact ⟨hs.trans hR rfl, [], by simp, by simp, hbinds.symm.trans hb, rfl, rfl⟩

/-- **Every tool function reads, or raises before reading.** -/
theorem function_spec (c : AcceptedCall) (l : Session) (s : Server) (hl : l.unusable = false) :
    c.function.wp (FunctionOutcome c l s) l s := by
  cases c with
  | processConnections a =>
      refine readThenFormat_spec hl (Interference.refl l s) (processConnectionsClause_binds a) ?_
      exact fun q hq => ⟨q, rfl, hq, rfl⟩
  | topNetworkProcesses a =>
      refine Handler.wp_bind.mpr (wp_now.mpr fun s' hR => ?_)
      refine readThenFormat_spec hl hR (recentClause_binds _ a.minutes.2) ?_
      exact fun q hq => ⟨_, q, rfl, hq, rfl⟩
  | connectionBursts a =>
      refine Handler.wp_bind.mpr (wp_now.mpr fun s' hR => ?_)
      refine readThenFormat_spec hl hR (recentClause_binds _ a.minutes.2) ?_
      exact fun q hq => ⟨_, q, rfl, hq, rfl⟩
  | unusualDestinations a =>
      refine Handler.wp_bind.mpr (wp_now.mpr fun s₁ h₁ => ?_)
      refine Handler.wp_bind.mpr (select_of_usable hl ?_ ?_)
      · intro hb s₂ h₂
        refine Handler.wp_bind.mpr (select_of_usable hl ?_ ?_)
        · intro _ s₃ h₃
          rw [baselineClause_binds] at hb
          refine ⟨(h₁.trans h₂ rfl).trans h₃ rfl,
            [⟨baselineClause a s₁.clock, s₂.db.connectionEvents⟩,
              ⟨lastHourClause a s₁.clock, s₃.db.connectionEvents⟩], ?_, ?_, hb, ?_⟩
          · simp [Session.note, Statement.observation]
          · simpa using h₃.events
          · exact ⟨_, _, _, rfl, rfl, rfl, rfl⟩
        · intro hb'
          rw [lastHourClause_binds, ← baselineClause_binds a s₁.clock, hb] at hb'
          cases hb'
      · intro hb s₂ h₂
        rw [baselineClause_binds] at hb
        exact ⟨h₁.trans h₂ rfl, [], by simp, by simp, hb, rfl, rfl⟩
  | eventTimeline a =>
      refine Handler.wp_bind.mpr (wp_now.mpr fun s' hR => ?_)
      refine readThenFormat_spec hl hR (eventTimelineClause_binds a _) ?_
      exact fun q hq => ⟨_, q, rfl, hq, rfl⟩

/-! ## What an answer holds -/

section Answer

variable {c : AcceptedCall} {read : List Statement} {v : Json}

lemma mem_of_mem_topGroups {limit : ℤ} {rows : List StoredEvent} {g : (ℤ × String) × _}
    (hg : g ∈ topGroups limit rows) {e : StoredEvent} (he : e ∈ g.2) : e ∈ rows :=
  Table.mem_of_mem_groupBy (Table.mem_orderByDesc.mp (List.mem_of_mem_take hg)) he

lemma mem_of_mem_burstGroups {threshold : ℤ} {rows : List StoredEvent}
    {g : (ℤ × String × ℤ) × _} (hg : g ∈ burstGroups threshold rows) {e : StoredEvent}
    (he : e ∈ g.2) : e ∈ rows :=
  Table.mem_of_mem_groupBy (List.mem_of_mem_filter (Table.mem_orderByDesc.mp hg)) he

lemma mem_of_mem_unusualGroups {baseline recent : List StoredEvent}
    {g : (IpAddress × ℤ) × _} (hg : g ∈ unusualGroups baseline recent) {e : StoredEvent}
    (he : e ∈ g.2) : e ∈ recent :=
  Table.mem_of_mem_groupBy (Table.mem_orderBy.mp (List.mem_of_mem_filter hg)) he

/-- **Every id in an answer is the id of a row that one of its statements returned.** -/
theorem AcceptedCall.Answer.ids (h : c.Answer read v) {x : String}
    (hx : x ∈ extractToolEventIds v) : ∃ q ∈ read, ∃ e ∈ q.rows, e.id.str = x := by
  cases c with
  | processConnections a =>
      obtain ⟨q, rfl, -, rfl⟩ := h
      obtain ⟨e, he, rfl⟩ := (ids_processConnections a q.rows x).mp hx
      exact ⟨q, by simp, e, Table.mem_orderBy.mp (List.mem_of_mem_take he), rfl⟩
  | topNetworkProcesses a =>
      obtain ⟨_, q, rfl, -, rfl⟩ := h
      obtain ⟨g, hg, e, he, rfl⟩ := (ids_topNetworkProcesses a q.rows x).mp hx
      exact ⟨q, by simp, e, mem_of_mem_topGroups hg he, rfl⟩
  | connectionBursts a =>
      obtain ⟨_, q, rfl, -, rfl⟩ := h
      obtain ⟨g, hg, e, he, rfl⟩ := (ids_connectionBursts a q.rows x).mp hx
      exact ⟨q, by simp, e, mem_of_mem_burstGroups hg he, rfl⟩
  | unusualDestinations a =>
      obtain ⟨_, q, q', rfl, -, -, rfl⟩ := h
      obtain ⟨g, hg, e, he, rfl⟩ := (ids_unusualDestinations a q.rows q'.rows x).mp hx
      exact ⟨q', by simp, e, mem_of_mem_unusualGroups hg he, rfl⟩
  | eventTimeline a =>
      obtain ⟨_, q, rfl, -, rfl⟩ := h
      obtain ⟨e, he, rfl⟩ := (ids_eventTimeline a q.rows x).mp hx
      have hmem := List.mem_of_mem_take (List.mem_reverse.mp he)
      exact ⟨q, by simp, e, Table.mem_orderByDesc.mp hmem, rfl⟩

/-- An answer has no `error` item, so it cannot be mistaken for a refusal. -/
theorem AcceptedCall.Answer.no_error (h : c.Answer read v) : v.field "error" = none := by
  cases c with
  | processConnections a => obtain ⟨q, -, -, rfl⟩ := h; rfl
  | topNetworkProcesses a => obtain ⟨_, q, -, -, rfl⟩ := h; rfl
  | connectionBursts a => obtain ⟨_, q, -, -, rfl⟩ := h; rfl
  | unusualDestinations a => obtain ⟨_, q, q', -, -, -, rfl⟩ := h; rfl
  | eventTimeline a => obtain ⟨_, q, -, -, rfl⟩ := h; rfl

/-- An answer passes every `Plain` test but for the durations it reports. -/
theorem AcceptedCall.Answer.every_iff (h : c.Answer read v) {leaf : Json → Bool}
    {key : String → Bool} (hp : Plain leaf key) :
    v.every leaf key = true ↔ ∀ x ∈ c.reportedDurations read, leaf (.float x) = true := by
  cases c with
  | processConnections a =>
      obtain ⟨q, rfl, -, rfl⟩ := h
      rw [every_processConnections hp]
      simp only [reportedDurations, List.flatMap_cons, List.flatMap_nil, List.append_nil,
        List.mem_filterMap, List.all_eq_true, Option.all_eq_true]
      constructor
      · rintro hall x ⟨e, he, hx⟩
        exact hall e he x hx
      · intro hall e he x hx
        exact hall x ⟨e, he, hx⟩
  | topNetworkProcesses a =>
      obtain ⟨_, q, -, -, rfl⟩ := h
      simp [every_topNetworkProcesses hp, reportedDurations]
  | connectionBursts a =>
      obtain ⟨_, q, -, -, rfl⟩ := h
      simp [every_connectionBursts hp, reportedDurations]
  | unusualDestinations a =>
      obtain ⟨_, q, q', -, -, -, rfl⟩ := h
      simp [every_unusualDestinations hp, reportedDurations]
  | eventTimeline a =>
      obtain ⟨_, q, -, -, rfl⟩ := h
      simp [every_eventTimeline hp, reportedDurations]

/-- The reported arguments pass every `Plain` test. -/
theorem every_arguments (c : AcceptedCall) (py : Pydantic) {leaf : Json → Bool}
    {key : String → Bool} (hp : Plain leaf key) : (c.arguments py).every leaf key = true := by
  have hkeys := hp.keys
  simp only [resultKeys, List.all_cons, Bool.and_eq_true] at hkeys
  cases c <;>
    simp [AcceptedCall.arguments, AcceptedCall.tool, AcceptedCall.validated,
      processConnectionsTool, topNetworkProcessesTool, connectionBurstsTool,
      unusualDestinationsTool, eventTimelineTool, hkeys, hp.int,
      hp.str _ (Datetime.noNul_isoformat _)]

/-- `jsonable_encoder` returns an answer unchanged. -/
lemma AcceptedCall.Answer.encode (h : c.Answer read v) {lib : Libraries} (hlib : lib.EncodesJson) :
    lib.jsonableEncoder v = v :=
  hlib v ((h.every_iff plain_encoder).mpr fun _ _ => rfl)

lemma encode_arguments (c : AcceptedCall) {lib : Libraries} (hlib : lib.EncodesJson) :
    lib.jsonableEncoder (c.arguments lib.toPydantic) = c.arguments lib.toPydantic :=
  hlib _ (every_arguments c lib.toPydantic plain_encoder)

end Answer

end TracePilot
