import TracePilot.Library.Table
import TracePilot.Backend.AgentTools

/-!
# The analytics endpoints

The dashboard asks the API the questions that the agent asks through its tools.  The two answers
are written separately, the endpoints in `main.py` and the tools in `agent_tools.py`, each with its
own queries; this file is the first of them.  One endpoint, `/analytics/high-unique-destinations`,
has no tool.

FastAPI checks the bounds of a query parameter before the handler runs, so a handler takes them as
subtypes.  A response is what the handler returns; instants stand for the `datetime` values in it.
-/

namespace TracePilot

/-! ## Responses -/

structure TopProcessResponse where
  pid : ℤ
  processName : String
  connectionCount : ℕ

structure ConnectionBurstResponse where
  pid : ℤ
  processName : String
  windowStart : ℤ
  connectionCount : ℕ
  eventIds : List Uuid

structure UnusualDestinationResponse where
  pid : ℤ
  destinationIp : IpAddress
  destinationPort : ℤ
  firstSeen : ℤ
  eventIds : List Uuid

structure HighUniqueDestinationsResponse where
  pid : ℤ
  processName : String
  uniqueDestinationCount : ℕ
  connectionCount : ℕ
  eventIds : List Uuid

/-! ## Query parameters -/

/-- The parameters of `/analytics/top-processes`. -/
structure TopProcessesQuery where
  minutes : {n : ℤ // 1 ≤ n ∧ n ≤ 1440} := ⟨60, by decide⟩
  limit : {n : ℤ // 1 ≤ n ∧ n ≤ 100} := ⟨10, by decide⟩

/-- The parameters of `/analytics/connection-bursts`. -/
structure ConnectionBurstsQuery where
  threshold : {n : ℤ // 1 ≤ n ∧ n ≤ 10000} := ⟨100, by decide⟩
  minutes : {n : ℤ // 1 ≤ n ∧ n ≤ 1440} := ⟨60, by decide⟩

/-- The parameters of `/analytics/unusual-destinations`. -/
structure UnusualDestinationsQuery where
  pid : {n : ℤ // 1 ≤ n}
  recentMinutes : {n : ℤ // 1 ≤ n ∧ n ≤ 1440} := ⟨60, by decide⟩
  baselineMinutes : {n : ℤ // 1 ≤ n ∧ n ≤ 10080} := ⟨1440, by decide⟩

/-- The parameters of `/analytics/high-unique-destinations`. -/
structure HighUniqueDestinationsQuery where
  threshold : {n : ℤ // 1 ≤ n ∧ n ≤ 10000} := ⟨20, by decide⟩
  minutes : {n : ℤ // 1 ≤ n ∧ n ≤ 1440} := ⟨60, by decide⟩

namespace Endpoint

/-- `timedelta(minutes=n)`, in microseconds. -/
def timedelta (minutes : ℤ) : ℤ := minutes * 60000000

/-! ## `/processes/{pid}/connections` -/

/-- `get_process_connections`. -/
def getProcessConnections (pid : ℤ) : Handler (List StoredEvent) := do
  let rows ← Handler.select { pid := some pid }
  pure (Table.orderByDesc (fun e => e.timestamp) rows)

/-! ## `/analytics/top-processes` -/

def topProcesses (q : TopProcessesQuery) (rows : List StoredEvent) : List TopProcessResponse :=
  let groups := Table.groupBy (fun e : StoredEvent => (e.pid, e.processName)) rows
  ((Table.orderByDesc (fun g => g.2.length) groups).take q.limit.1.toNat).map fun g => {
    pid := g.1.1
    processName := g.1.2
    connectionCount := g.2.length }

/-- `get_top_processes`. -/
def getTopProcesses (q : TopProcessesQuery) : Handler (List TopProcessResponse) := do
  let now ← Handler.now
  let cutoffTime := now.1 - timedelta q.minutes
  let rows ← Handler.select { since := some (.utc cutoffTime) }
  pure (topProcesses q rows)

/-! ## `/analytics/connection-bursts` -/

/-- `func.date_trunc("minute", ...)`, in a session whose time zone is whole minutes off UTC. -/
def dateTruncMinute (instant : ℤ) : ℤ := instant - instant % 60000000

def connectionBursts (q : ConnectionBurstsQuery) (rows : List StoredEvent) :
    List ConnectionBurstResponse :=
  let groups := Table.groupBy
    (fun e : StoredEvent => (e.pid, e.processName, dateTruncMinute e.timestamp)) rows
  let bursts := groups.filter fun g => q.threshold.1 < g.2.length
  (Table.orderByDesc (fun g => g.2.length) bursts).map fun g => {
    pid := g.1.1
    processName := g.1.2.1
    windowStart := g.1.2.2
    connectionCount := g.2.length
    eventIds := g.2.map fun e => e.id }

/-- `find_connection_bursts`. -/
def findConnectionBursts (q : ConnectionBurstsQuery) : Handler (List ConnectionBurstResponse) := do
  let now ← Handler.now
  let cutoffTime := now.1 - timedelta q.minutes
  let rows ← Handler.select { since := some (.utc cutoffTime) }
  pure (connectionBursts q rows)

/-! ## `/analytics/unusual-destinations` -/

/-- The rows of `baseline_query`. -/
def baselineClause (q : UnusualDestinationsQuery) (now : ℤ) : EventWhere :=
  let recentStart := now - timedelta q.recentMinutes
  { pid := some q.pid
    since := some (.utc (recentStart - timedelta q.baselineMinutes))
    before := some (.utc recentStart) }

/-- The rows of `recent_query`. -/
def recentClause (q : UnusualDestinationsQuery) (now : ℤ) : EventWhere :=
  { pid := some q.pid
    since := some (.utc (now - timedelta q.recentMinutes))
    upTo := some (.utc now) }

/-- `func.min(ConnectionEvent.timestamp)` of a group. -/
def minTimestamp (events : List StoredEvent) : ℤ := ((events.map fun e => e.timestamp).min?).getD 0

/-- The loop over the recent groups, after `baseline_destinations` is built. -/
def unusualDestinations (q : UnusualDestinationsQuery) (baseline recent : List StoredEvent) :
    List UnusualDestinationResponse :=
  let baselineDestinations :=
    (baseline.map fun e => (e.destinationIp, e.destinationPort)).dedup.map fun d => (d.1.str, d.2)
  let groups := Table.orderBy (fun g => minTimestamp g.2)
    (Table.groupBy (fun e : StoredEvent => (e.destinationIp, e.destinationPort)) recent)
  groups.filterMap fun g =>
    if baselineDestinations.contains (g.1.1.str, g.1.2) then none
    else some {
      pid := q.pid
      destinationIp := g.1.1
      destinationPort := g.1.2
      firstSeen := minTimestamp g.2
      eventIds := g.2.map fun e => e.id }

/-- `find_unusual_destinations`. -/
def findUnusualDestinations (q : UnusualDestinationsQuery) :
    Handler (List UnusualDestinationResponse) := do
  let now ← Handler.now
  let baseline ← Handler.select (baselineClause q now.1)
  let recent ← Handler.select (recentClause q now.1)
  pure (unusualDestinations q baseline recent)

/-! ## `/analytics/high-unique-destinations` -/

/-- `func.count(func.distinct(tuple_(...)))` of a group. -/
def uniqueDestinationCount (events : List StoredEvent) : ℕ :=
  (events.map fun e => (e.destinationIp, e.destinationPort)).dedup.length

def highUniqueDestinations (q : HighUniqueDestinationsQuery) (rows : List StoredEvent) :
    List HighUniqueDestinationsResponse :=
  let groups := Table.groupBy (fun e : StoredEvent => (e.pid, e.processName)) rows
  let high := groups.filter fun g => q.threshold.1 < uniqueDestinationCount g.2
  (Table.orderByDesc (fun g => uniqueDestinationCount g.2) high).map fun g => {
    pid := g.1.1
    processName := g.1.2
    uniqueDestinationCount := uniqueDestinationCount g.2
    connectionCount := g.2.length
    eventIds := g.2.map fun e => e.id }

/-- `find_high_unique_destinations`. -/
def findHighUniqueDestinations (q : HighUniqueDestinationsQuery) :
    Handler (List HighUniqueDestinationsResponse) := do
  let now ← Handler.now
  let cutoffTime := now.1 - timedelta q.minutes
  let rows ← Handler.select { since := some (.utc cutoffTime) }
  pure (highUniqueDestinations q rows)

end Endpoint

end TracePilot
