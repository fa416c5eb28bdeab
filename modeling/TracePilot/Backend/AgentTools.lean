import Mathlib.Data.String.Basic
import TracePilot.Library.Table
import TracePilot.Backend.Session
import TracePilot.Backend.Schemas

/-!
# The five tools of the agent

Each tool reads `connection_events` with one or two statements and formats what it read.  The
statement's `WHERE` clause is an `EventWhere`; the grouping, ordering, limiting and formatting of
the rows it keeps is a pure function of them, `…Result`, so that a tool is "read, then format".

`toolRegistry` is the allowlist, and `executeAgentTool` the dispatcher: look the name up, validate
the arguments, call the function, write the audit record.
-/

namespace TracePilot

/-- The libraries under the agent: pydantic, and FastAPI's `jsonable_encoder`. -/
structure Libraries extends Pydantic where
  jsonableEncoder : Json → Json

/-- A key that `jsonable_encoder` keeps: it drops dictionary items under keys that begin with
`_sa`, where SQLAlchemy stores its own attributes. -/
def encodableKey (key : String) : Bool := key.toList.take 3 ≠ "_sa".toList

/-- The documented behaviour of `jsonable_encoder` on values that are JSON already. -/
def Libraries.EncodesJson (lib : Libraries) : Prop :=
  ∀ v : Json, v.every (fun _ => true) encodableKey = true → lib.jsonableEncoder v = v

/-- Libraries that take values of the target type and convert nothing. -/
def Libraries.strict : Libraries where
  int
    | .int n => some n
    | _ => none
  floatGe := floatAtLeast
  str
    | .str s => some s
    | _ => none
  literal := literalEqual
  ip _ := none
  datetime _ := none
  errors _ _ := .arr []
  jsonableEncoder v := v

lemma Libraries.strict_encodesJson : Libraries.strict.EncodesJson := fun _ _ => rfl

/-! ## Arguments -/

structure ProcessConnectionsArguments where
  pid : {n : ℤ // 1 ≤ n}
  startTime : Datetime
  endTime : Datetime

structure TopNetworkProcessesArguments where
  minutes : {n : ℤ // 1 ≤ n ∧ n ≤ 1440}
  limit : {n : ℤ // 1 ≤ n ∧ n ≤ 100}

structure ConnectionBurstsArguments where
  threshold : {n : ℤ // 1 ≤ n ∧ n ≤ 10000}
  minutes : {n : ℤ // 1 ≤ n ∧ n ≤ 1440}

structure UnusualDestinationsArguments where
  pid : {n : ℤ // 1 ≤ n}

structure EventTimelineArguments where
  pid : {n : ℤ // 1 ≤ n}

section Validation

variable (py : Pydantic)

/-- `int = Field(ge=lo)`, required. -/
def intAtLeast (lo : ℤ) (name : String) (raw : Json) : Option {n : ℤ // lo ≤ n} :=
  fieldOf (checked (fun n => lo ≤ n) py.int) none name raw

/-- `int = Field(default, ge=lo, le=hi)`. -/
def intBetween (lo hi : ℤ) (default : {n : ℤ // lo ≤ n ∧ n ≤ hi}) (name : String) (raw : Json) :
    Option {n : ℤ // lo ≤ n ∧ n ≤ hi} :=
  fieldOf (checked (fun n => lo ≤ n ∧ n ≤ hi) py.int) (some default) name raw

/-- `model_validate` takes a dictionary and nothing else. -/
def onDict {α : Type} (validate : Json → Option α) : Json → Option α
  | .obj fields => validate (.obj fields)
  | _ => none

def ProcessConnectionsArguments.validate : Json → Option ProcessConnectionsArguments :=
  onDict fun raw => do
    let pid ← intAtLeast py 1 "pid" raw
    let startTime ← fieldOf py.datetime none "start_time" raw
    let endTime ← fieldOf py.datetime none "end_time" raw
    pure ⟨pid, startTime, endTime⟩

def TopNetworkProcessesArguments.validate : Json → Option TopNetworkProcessesArguments :=
  onDict fun raw => do
    let minutes ← intBetween py 1 1440 ⟨60, by decide⟩ "minutes" raw
    let limit ← intBetween py 1 100 ⟨10, by decide⟩ "limit" raw
    pure ⟨minutes, limit⟩

def ConnectionBurstsArguments.validate : Json → Option ConnectionBurstsArguments :=
  onDict fun raw => do
    let threshold ← intBetween py 1 10000 ⟨100, by decide⟩ "threshold" raw
    let minutes ← intBetween py 1 1440 ⟨60, by decide⟩ "minutes" raw
    pure ⟨threshold, minutes⟩

def UnusualDestinationsArguments.validate : Json → Option UnusualDestinationsArguments :=
  onDict fun raw => return ⟨← intAtLeast py 1 "pid" raw⟩

def EventTimelineArguments.validate : Json → Option EventTimelineArguments :=
  onDict fun raw => return ⟨← intAtLeast py 1 "pid" raw⟩

end Validation

/-! ## Formatting -/

/-- `timedelta(minutes=n)`. -/
def minutes (n : ℤ) : ℤ := n * 60000000

/-- The start of the minute of an instant: `date_trunc('minute', ...)`, and
`.replace(second=0, microsecond=0)` in UTC. -/
def startOfMinute (instant : ℤ) : ℤ := instant - instant % 60000000

/-- `datetime.isoformat()` of an instant read from the database. -/
def isoText (instant : ℤ) : Json := .str (Datetime.utc instant).isoformat

/-- The ids of a group, as `array_agg` returns them and the tools format them. -/
def eventIds (events : List StoredEvent) : Json := .arr (events.map fun e => .str e.id.str)

/-- `func.min(timestamp)` of a group. -/
def firstSeen (events : List StoredEvent) : ℤ := ((events.map (·.timestamp)).min?).getD 0

/-! ## `get_process_connections` -/

def processConnectionsClause (a : ProcessConnectionsArguments) : EventWhere :=
  { pid := some a.pid, since := some a.startTime, upTo := some a.endTime }

/-- `ORDER BY timestamp LIMIT 500`. -/
def processConnectionsRows (rows : List StoredEvent) : List StoredEvent :=
  (Table.orderBy (·.timestamp) rows).take 500

def processConnection (e : StoredEvent) : Json :=
  .obj [
    ("event_id", .str e.id.str),
    ("timestamp", isoText e.timestamp),
    ("process_name", .str e.processName),
    ("uid", .int e.uid),
    ("destination_ip", .str e.destinationIp.str),
    ("destination_port", .int e.destinationPort),
    ("ip_version", .int e.ipVersion),
    ("duration_ms", (e.durationMs.map Json.float).getD .null)]

def processConnectionsResult (a : ProcessConnectionsArguments) (rows : List StoredEvent) : Json :=
  let events := processConnectionsRows rows
  .obj [
    ("pid", .int a.pid),
    ("event_count", .int events.length),
    ("events", .arr (events.map processConnection))]

def getProcessConnections (a : ProcessConnectionsArguments) : Handler Json := do
  let rows ← Handler.select (processConnectionsClause a)
  pure (processConnectionsResult a rows)

/-! ## `get_top_network_processes` -/

/-- `timestamp >= cutoff_time`, for a window that ends now. -/
def recentClause (now windowMinutes : ℤ) : EventWhere :=
  { since := some (.utc (now - minutes windowMinutes)) }

/-- The groups of one process and name with the most events. -/
def topGroups (limit : ℤ) (rows : List StoredEvent) : List ((ℤ × String) × List StoredEvent) :=
  (Table.orderByDesc (fun g => g.2.length)
    (Table.groupBy (fun e : StoredEvent => (e.pid, e.processName)) rows)).take limit.toNat

def topNetworkProcessesResult (a : TopNetworkProcessesArguments) (rows : List StoredEvent) :
    Json :=
  .obj [
    ("minutes", .int a.minutes),
    ("processes", .arr ((topGroups a.limit rows).map fun g => .obj [
      ("pid", .int g.1.1),
      ("process_name", .str g.1.2),
      ("connection_count", .int g.2.length),
      ("event_ids", eventIds g.2)]))]

def getTopNetworkProcesses (a : TopNetworkProcessesArguments) : Handler Json := do
  let now ← Handler.now
  let rows ← Handler.select (recentClause now.1 a.minutes)
  pure (topNetworkProcessesResult a rows)

/-! ## `find_connection_bursts` -/

/-- The groups of more than `threshold` events of one process in one minute. -/
def burstGroups (threshold : ℤ) (rows : List StoredEvent) :
    List ((ℤ × String × ℤ) × List StoredEvent) :=
  Table.orderByDesc (fun g => g.2.length)
    ((Table.groupBy
      (fun e : StoredEvent => (e.pid, e.processName, startOfMinute e.timestamp)) rows).filter
      fun g => threshold < g.2.length)

def connectionBurstsResult (a : ConnectionBurstsArguments) (rows : List StoredEvent) : Json :=
  .obj [
    ("threshold", .int a.threshold),
    ("minutes", .int a.minutes),
    ("bursts", .arr ((burstGroups a.threshold rows).map fun g => .obj [
      ("pid", .int g.1.1),
      ("process_name", .str g.1.2.1),
      ("window_start", isoText g.1.2.2),
      ("connection_count", .int g.2.length),
      ("event_ids", eventIds g.2)]))]

def findConnectionBursts (a : ConnectionBurstsArguments) : Handler Json := do
  let now ← Handler.now
  let rows ← Handler.select (recentClause now.1 a.minutes)
  pure (connectionBurstsResult a rows)

/-! ## `find_unusual_destinations` -/

/-- The day before the last hour. -/
def baselineClause (a : UnusualDestinationsArguments) (now : ℤ) : EventWhere :=
  { pid := some a.pid
    since := some (.utc (now - minutes 60 - minutes 1440))
    before := some (.utc (now - minutes 60)) }

/-- The last hour. -/
def lastHourClause (a : UnusualDestinationsArguments) (now : ℤ) : EventWhere :=
  { pid := some a.pid, since := some (.utc (now - minutes 60)), upTo := some (.utc now) }

/-- A destination as the Python side compares it: the text of the address, and the port. -/
def destinationKey (e : StoredEvent) : String × ℤ := (e.destinationIp.str, e.destinationPort)

/-- The groups of recent events whose destination is not in the baseline, first seen first. -/
def unusualGroups (baseline recent : List StoredEvent) :
    List ((IpAddress × ℤ) × List StoredEvent) :=
  (Table.orderBy (fun g => firstSeen g.2)
    (Table.groupBy (fun e : StoredEvent => (e.destinationIp, e.destinationPort)) recent)).filter
    fun g => (g.1.1.str, g.1.2) ∉ baseline.map destinationKey

def unusualDestinationsResult (a : UnusualDestinationsArguments)
    (baseline recent : List StoredEvent) : Json :=
  .obj [
    ("pid", .int a.pid),
    ("recent_minutes", .int 60),
    ("baseline_minutes", .int 1440),
    ("unusual_destinations", .arr ((unusualGroups baseline recent).map fun g => .obj [
      ("destination_ip", .str g.1.1.str),
      ("destination_port", .int g.1.2),
      ("first_seen", isoText (firstSeen g.2)),
      ("event_ids", eventIds g.2)]))]

def findUnusualDestinations (a : UnusualDestinationsArguments) : Handler Json := do
  let now ← Handler.now
  -- two statements: another request may commit between them
  let baseline ← Handler.select (baselineClause a now.1)
  let recent ← Handler.select (lastHourClause a now.1)
  pure (unusualDestinationsResult a baseline recent)

/-! ## `get_event_timeline` -/

/-- An entry of the timeline under construction.  `destinations` is a set. -/
structure TimelineEntry where
  windowStart : String
  connectionCount : ℕ
  destinations : List String
  eventIds : List String

/-- The minute an event falls into, as the key of the timeline dictionary. -/
def minuteKey (e : StoredEvent) : String :=
  (Datetime.utc (startOfMinute e.timestamp)).isoformat

/-- The three updates of an entry by one event. -/
def TimelineEntry.add (entry : TimelineEntry) (e : StoredEvent) : TimelineEntry :=
  { entry with
    connectionCount := entry.connectionCount + 1
    destinations :=
      entry.destinations.insert (e.destinationIp.str ++ ":" ++ toString e.destinationPort)
    eventIds := entry.eventIds ++ [e.id.str] }

/-- One round of the loop: make sure the minute has an entry, then update it. -/
def timelineStep (timeline : List TimelineEntry) (e : StoredEvent) : List TimelineEntry :=
  let timeline := if timeline.any (fun entry => entry.windowStart = minuteKey e) then timeline
    else timeline ++ [⟨minuteKey e, 0, [], []⟩]
  timeline.map fun entry => if entry.windowStart = minuteKey e then entry.add e else entry

/-- The newest 500 events, oldest first. -/
def timelineRows (rows : List StoredEvent) : List StoredEvent :=
  ((Table.orderByDesc (·.timestamp) rows).take 500).reverse

def timelineEntry (entry : TimelineEntry) : Json :=
  .obj [
    ("window_start", .str entry.windowStart),
    ("connection_count", .int entry.connectionCount),
    ("destinations", .arr ((Table.orderBy id entry.destinations).map Json.str)),
    ("event_ids", .arr (entry.eventIds.map Json.str))]

def eventTimelineResult (a : EventTimelineArguments) (rows : List StoredEvent) : Json :=
  let events := timelineRows rows
  .obj [
    ("pid", .int a.pid),
    ("lookback_hours", .int 24),
    ("returned_event_count", .int events.length),
    ("truncated", .bool (events.length = 500)),
    ("timeline", .arr ((events.foldl timelineStep []).map timelineEntry))]

def eventTimelineClause (a : EventTimelineArguments) (now : ℤ) : EventWhere :=
  { pid := some a.pid, since := some (.utc (now - minutes 1440)) }

def getEventTimeline (a : EventTimelineArguments) : Handler Json := do
  let now ← Handler.now
  let rows ← Handler.select (eventTimelineClause a now.1)
  pure (eventTimelineResult a rows)

/-! ## The registry and the dispatcher -/

/-- An entry of the registry: the arguments model and the function. -/
structure ToolDefinition where
  Arguments : Type
  modelName : String
  modelValidate : Json → Option Arguments
  modelDump : Arguments → Json
  function : Arguments → Handler Json

section Registry

variable (py : Pydantic)

def processConnectionsTool : ToolDefinition where
  Arguments := ProcessConnectionsArguments
  modelName := "ProcessConnectionsArguments"
  modelValidate := ProcessConnectionsArguments.validate py
  modelDump a := .obj [("pid", .int a.pid), ("start_time", .str a.startTime.isoformat),
    ("end_time", .str a.endTime.isoformat)]
  function := getProcessConnections

def topNetworkProcessesTool : ToolDefinition where
  Arguments := TopNetworkProcessesArguments
  modelName := "TopNetworkProcessesArguments"
  modelValidate := TopNetworkProcessesArguments.validate py
  modelDump a := .obj [("minutes", .int a.minutes), ("limit", .int a.limit)]
  function := getTopNetworkProcesses

def connectionBurstsTool : ToolDefinition where
  Arguments := ConnectionBurstsArguments
  modelName := "ConnectionBurstsArguments"
  modelValidate := ConnectionBurstsArguments.validate py
  modelDump a := .obj [("threshold", .int a.threshold), ("minutes", .int a.minutes)]
  function := findConnectionBursts

def unusualDestinationsTool : ToolDefinition where
  Arguments := UnusualDestinationsArguments
  modelName := "UnusualDestinationsArguments"
  modelValidate := UnusualDestinationsArguments.validate py
  modelDump a := .obj [("pid", .int a.pid)]
  function := findUnusualDestinations

def eventTimelineTool : ToolDefinition where
  Arguments := EventTimelineArguments
  modelName := "EventTimelineArguments"
  modelValidate := EventTimelineArguments.validate py
  modelDump a := .obj [("pid", .int a.pid)]
  function := getEventTimeline

/-- `TOOL_REGISTRY`. -/
def toolRegistry : List (String × ToolDefinition) := [
  ("get_process_connections", processConnectionsTool py),
  ("get_top_network_processes", topNetworkProcessesTool py),
  ("find_connection_bursts", connectionBurstsTool py),
  ("find_unusual_destinations", unusualDestinationsTool py),
  ("get_event_timeline", eventTimelineTool py)]

end Registry

/-- The message of a refused tool name. -/
def notPermitted (toolName : String) : String := "Tool '" ++ toolName ++ "' is not permitted."

/-- The audit result of a refused tool name. -/
def notAllowedResult (toolName : String) : Json :=
  .obj [("error", .str "tool_not_allowed"), ("message", .str (notPermitted toolName))]

/-- The audit result of refused arguments. -/
def invalidArgumentsResult (details : Json) : Json :=
  .obj [("error", .str "invalid_arguments"), ("details", details)]

/-- `session.add(AgentToolCall(...))` and `await session.commit()`. -/
def audit (investigationId : Uuid) (toolName : String) (arguments result : Json) :
    Handler Unit := do
  Handler.add (.agentToolCall investigationId toolName arguments result)
  Handler.commit

def executeAgentTool (lib : Libraries) (toolName : String) (rawArguments : Json)
    (investigationId : Uuid) : Handler Json :=
  match (toolRegistry lib.toPydantic).lookup toolName with
  | none => do
      audit investigationId toolName (lib.jsonableEncoder rawArguments)
        (notAllowedResult toolName)
      throw (.toolNotAllowed (notPermitted toolName))
  | some tool =>
      match tool.modelValidate rawArguments with
      | none => do
          let details := lib.errors tool.modelName rawArguments
          audit investigationId toolName (lib.jsonableEncoder rawArguments)
            (invalidArgumentsResult details)
          throw (.validation details)
      | some arguments => do
          Handler.invoke toolName (tool.modelDump arguments)
          -- an exception of the tool function passes through: nothing is recorded
          let toolResult ← tool.function arguments
          let serializableResult := lib.jsonableEncoder toolResult
          audit investigationId toolName (lib.jsonableEncoder (tool.modelDump arguments))
            serializableResult
          pure serializableResult

end TracePilot
