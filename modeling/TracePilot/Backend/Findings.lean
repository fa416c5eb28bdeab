import TracePilot.Backend.Analytics
import TracePilot.Backend.Bursts
import TracePilot.Backend.ToolRuns

/-!
# One analysis, two answers

Each analysis is written twice, as a tool of the agent and as an endpoint of the dashboard.
**`same_findings`** compares them on servers that show the same time and the same rows, in
whatever physical order.  The tool answers in JSON, so the comparison is between the responses
that the JSON describes (`toolItem`) and the responses of the endpoint, where the ids of a row
are a set (`finding`).
-/

namespace TracePilot

open Table

/-- Both answered, and alike, or both raised. -/
def BothAnswer {α β : Type} (alike : α → β → Prop) :
    Except PyException α → Except PyException β → Prop
  | .ok a, .ok b => alike a b
  | .error _, .error _ => True
  | _, _ => False

lemma BothAnswer.of_eq_ok {α β : Type} {alike : α → β → Prop} {r : Except PyException α}
    {r' : Except PyException β} {a : α} {b : β} (hr : r = .ok a) (hr' : r' = .ok b)
    (h : alike a b) : BothAnswer alike r r' := by
  rw [hr, hr']
  exact h

lemma BothAnswer.of_eq_error {α β : Type} {alike : α → β → Prop} {r : Except PyException α}
    {r' : Except PyException β} {e e' : PyException} (hr : r = .error e) (hr' : r' = .error e') :
    BothAnswer alike r r' := by
  rw [hr, hr']
  trivial

/-! ## What a tool reports of a response -/

/-- The ids of a row, as the tools write them. -/
def idItems (ids : List Uuid) : Json := .arr (ids.map fun id => .str id.str)

/-- A burst, as the tool reports it. -/
def ConnectionBurstResponse.toolItem (r : ConnectionBurstResponse) : Json :=
  .obj [
    ("pid", .int r.pid),
    ("process_name", .str r.processName),
    ("window_start", isoText r.windowStart),
    ("connection_count", .int r.connectionCount),
    ("event_ids", idItems r.eventIds)]

/-- A destination, as the tool reports it. -/
def UnusualDestinationResponse.toolItem (r : UnusualDestinationResponse) : Json :=
  .obj [
    ("destination_ip", .str r.destinationIp.str),
    ("destination_port", .int r.destinationPort),
    ("first_seen", isoText r.firstSeen),
    ("event_ids", idItems r.eventIds)]

/-- A process, as the tool reports it.  The endpoint does not report its ids. -/
def TopProcessResponse.toolItem (r : TopProcessResponse) (ids : List Uuid) : Json :=
  .obj [
    ("pid", .int r.pid),
    ("process_name", .str r.processName),
    ("connection_count", .int r.connectionCount),
    ("event_ids", idItems ids)]

/-- A connection, as the tool reports it.  The endpoint reports the stored row. -/
def StoredEvent.toolItem (e : StoredEvent) : Json :=
  .obj [
    ("event_id", .str e.id.str),
    ("timestamp", isoText e.timestamp),
    ("process_name", .str e.processName),
    ("uid", .int e.uid),
    ("destination_ip", .str e.destinationIp.str),
    ("destination_port", .int e.destinationPort),
    ("ip_version", .int e.ipVersion),
    ("duration_ms", match e.durationMs with
      | some x => .float x
      | none => .null)]

/-! ## What a response says, whatever the order of its ids -/

/-- A burst: process, name, window, count and the set of its ids. -/
def ConnectionBurstResponse.finding (r : ConnectionBurstResponse) :
    ℤ × String × ℤ × ℕ × Finset Uuid :=
  (r.pid, r.processName, r.windowStart, r.connectionCount, r.eventIds.toFinset)

/-- A destination: process, address, port, first sight and the set of its ids. -/
def UnusualDestinationResponse.finding (r : UnusualDestinationResponse) :
    ℤ × IpAddress × ℤ × ℤ × Finset Uuid :=
  (r.pid, r.destinationIp, r.destinationPort, r.firstSeen, r.eventIds.toFinset)

/-- **The same bursts**, the largest first. -/
def SameBursts (a : ConnectionBurstsArguments) (v : Json)
    (bursts : List ConnectionBurstResponse) : Prop :=
  ∃ found : List ConnectionBurstResponse,
    v = .obj [("threshold", .int a.threshold), ("minutes", .int a.minutes),
      ("bursts", .arr (found.map fun r => r.toolItem))]
    ∧ SameUpToOrder (fun x y => y.2.2.2.1 ≤ x.2.2.2.1) (found.map fun r => r.finding)
      (bursts.map fun r => r.finding)

/-- **The same unusual destinations**, the first seen first. -/
def SameDestinations (a : UnusualDestinationsArguments) (v : Json)
    (destinations : List UnusualDestinationResponse) : Prop :=
  ∃ found : List UnusualDestinationResponse,
    v = .obj [("pid", .int a.pid), ("recent_minutes", .int 60), ("baseline_minutes", .int 1440),
      ("unusual_destinations", .arr (found.map fun r => r.toolItem))]
    ∧ SameUpToOrder (fun x y => x.2.2.2.1 ≤ y.2.2.2.1) (found.map fun r => r.finding)
      (destinations.map fun r => r.finding)

/-- **The same top processes**, the busiest first, up to a choice among ties at the limit. -/
def SameProcesses (a : TopNetworkProcessesArguments) (v : Json)
    (processes : List TopProcessResponse) : Prop :=
  ∃ found : List (TopProcessResponse × List Uuid),
    v = .obj [("minutes", .int a.minutes),
      ("processes", .arr (found.map fun r => r.1.toolItem r.2))]
    ∧ SameUpToTies (fun x y => y.connectionCount ≤ x.connectionCount) a.limit.1.toNat
      (found.map fun r => r.1) processes

/-- **The same connections**: the listed ones inside the requested interval, the oldest first and
at most 500. -/
def SameConnections (a : ProcessConnectionsArguments) (v : Json) (listed : List StoredEvent) :
    Prop :=
  ∃ found : List StoredEvent,
    v = .obj [("pid", .int a.pid), ("event_count", .int found.length),
      ("events", .arr (found.map fun e => e.toolItem))]
    ∧ SameUpToTies (fun x y => x.timestamp ≤ y.timestamp) 500 found
      ((listed.filter fun e =>
        a.startTime.instant ≤ e.timestamp ∧ e.timestamp ≤ a.endTime.instant).reverse.take 500)

/-! ## One analysis of one list of rows -/

section Analyses

variable {rows rows' : List StoredEvent}

/-- The ids of a group, as a response lists them. -/
lemma eventIds_eq_idItems (events : List StoredEvent) :
    eventIds events = idItems (events.map fun e => e.id) := by
  simp [eventIds, idItems]

/-- The set of ids does not depend on the order of the rows. -/
lemma ids_toFinset_eq {group group' : List StoredEvent} (h : group.Perm group') :
    (group.map fun e => e.id).toFinset = (group'.map fun e => e.id).toFinset :=
  List.toFinset_eq_of_perm _ _ (h.map _)

/-- Nor does the first sight. -/
lemma firstSeen_eq {group group' : List StoredEvent} (h : group.Perm group') :
    firstSeen group = firstSeen group' := by
  have hmin : (group.map fun e => e.timestamp).min? = (group'.map fun e => e.timestamp).min? := by
    refine Option.ext fun t => ?_
    simp only [List.min?_eq_some_iff, (h.map _).mem_iff]
  rw [firstSeen, hmin, ← firstSeen]

/-- The response for a burst. -/
def burstResponse (g : (ℤ × String × ℤ) × List StoredEvent) : ConnectionBurstResponse where
  pid := g.1.1
  processName := g.1.2.1
  windowStart := g.1.2.2
  connectionCount := g.2.length
  eventIds := g.2.map fun e => e.id

/-- The tool reports the responses that the endpoint gives. -/
lemma connectionBurstsResult_eq (a : ConnectionBurstsArguments) (rows : List StoredEvent) :
    connectionBurstsResult a rows = .obj [
      ("threshold", .int a.threshold),
      ("minutes", .int a.minutes),
      ("bursts", .arr (((burstGroups a.threshold rows).map burstResponse).map
        fun r => r.toolItem))] := by
  simp only [connectionBurstsResult, List.map_map, Function.comp_def, burstResponse,
    ConnectionBurstResponse.toolItem, eventIds_eq_idItems]

lemma sameBursts (a : ConnectionBurstsArguments) (h : rows.Perm rows') :
    SameBursts a (connectionBurstsResult a rows)
      (Endpoint.connectionBursts ⟨a.threshold, a.minutes⟩ rows') := by
  refine ⟨(burstGroups a.threshold rows).map burstResponse, connectionBurstsResult_eq a rows, ?_⟩
  simp only [Endpoint.connectionBursts, List.map_map]
  refine sameUpToOrder_map_groups h (fun k _ _ hg => ?_) (fun _ => rfl) (fun k _ _ hg => ?_)
    (fun _ _ hle => hle) (arranged_orderByDesc _ _) (arranged_orderByDesc _ _)
  · rw [hg.length_eq]
  · simp only [Function.comp_apply, burstResponse, ConnectionBurstResponse.finding,
      hg.length_eq, ids_toFinset_eq hg]

/-- The response for a destination. -/
def destinationResponse (pid : ℤ) (g : (IpAddress × ℤ) × List StoredEvent) :
    UnusualDestinationResponse where
  pid := pid
  destinationIp := g.1.1
  destinationPort := g.1.2
  firstSeen := firstSeen g.2
  eventIds := g.2.map fun e => e.id

/-- The loop of the endpoint keeps the groups whose destination is new. -/
lemma unusualDestinations_eq (q : UnusualDestinationsQuery) (baseline recent : List StoredEvent) :
    Endpoint.unusualDestinations q baseline recent
      = (unusualGroups baseline recent).map (destinationResponse q.pid) := by
  have hmem : ∀ d : String × ℤ,
      d ∈ ((baseline.map fun e => (e.destinationIp, e.destinationPort)).dedup.map
        fun d => (d.1.str, d.2)) ↔ d ∈ baseline.map destinationKey := by
    intro d
    simp only [List.mem_map, List.mem_dedup, exists_exists_and_eq_and, destinationKey]
  rw [unusualGroups, ← List.filterMap_eq_map, List.filterMap_filter]
  simp only [Endpoint.unusualDestinations, List.contains_iff_mem, hmem, decide_eq_true_eq,
    ite_not]
  rfl

/-- The tool reports the responses that the endpoint gives. -/
lemma unusualDestinationsResult_eq (a : UnusualDestinationsArguments)
    (baseline recent : List StoredEvent) :
    unusualDestinationsResult a baseline recent = .obj [
      ("pid", .int a.pid),
      ("recent_minutes", .int 60),
      ("baseline_minutes", .int 1440),
      ("unusual_destinations", .arr (((unusualGroups baseline recent).map
        (destinationResponse a.pid)).map fun r => r.toolItem))] := by
  simp only [unusualDestinationsResult, List.map_map, Function.comp_def, destinationResponse,
    UnusualDestinationResponse.toolItem, eventIds_eq_idItems]

lemma sameDestinations (a : UnusualDestinationsArguments) {baseline baseline' : List StoredEvent}
    (hbaseline : baseline.Perm baseline') (h : rows.Perm rows') :
    SameDestinations a (unusualDestinationsResult a baseline rows)
      (Endpoint.unusualDestinations ⟨a.pid, ⟨60, by decide⟩, ⟨1440, by decide⟩⟩ baseline' rows') := by
  refine ⟨(unusualGroups baseline rows).map (destinationResponse a.pid),
    unusualDestinationsResult_eq a baseline rows, ?_⟩
  simp only [unusualDestinations_eq, List.map_map]
  refine sameUpToOrder_map_groups h (fun k _ _ hg => rfl) (fun g => ?_) (fun k _ _ hg => ?_)
    (fun _ _ hle => hle) ((arranged_orderBy _ _).filter _) ((arranged_orderBy _ _).filter _)
  · simp only [(hbaseline.map destinationKey).mem_iff]
  · simp only [Function.comp_apply, destinationResponse, UnusualDestinationResponse.finding,
      firstSeen_eq hg, ids_toFinset_eq hg]

/-- The response for a process, and the ids that only the tool reports. -/
def processResponse (g : (ℤ × String) × List StoredEvent) : TopProcessResponse × List Uuid :=
  (⟨g.1.1, g.1.2, g.2.length⟩, g.2.map fun e => e.id)

/-- The tool reports the responses that the endpoint gives, with their ids. -/
lemma topNetworkProcessesResult_eq (a : TopNetworkProcessesArguments) (rows : List StoredEvent) :
    topNetworkProcessesResult a rows = .obj [
      ("minutes", .int a.minutes),
      ("processes", .arr (((topGroups a.limit rows).map processResponse).map
        fun r => r.1.toolItem r.2))] := by
  simp only [topNetworkProcessesResult, List.map_map, Function.comp_def, processResponse,
    TopProcessResponse.toolItem, eventIds_eq_idItems]

lemma sameProcesses (a : TopNetworkProcessesArguments) (h : rows.Perm rows') :
    SameProcesses a (topNetworkProcessesResult a rows)
      (Endpoint.topProcesses ⟨a.minutes, a.limit⟩ rows') := by
  refine ⟨(topGroups a.limit rows).map processResponse, topNetworkProcessesResult_eq a rows, ?_⟩
  have hperm : ((groupBy (fun e : StoredEvent => (e.pid, e.processName)) rows).map
      fun g => (processResponse g).1).Perm
      ((groupBy (fun e : StoredEvent => (e.pid, e.processName)) rows').map
        fun g => (processResponse g).1) :=
    perm_map_groupBy h fun k _ _ hg => by simp only [processResponse, hg.length_eq]
  have harranged : ∀ groups : List ((ℤ × String) × List StoredEvent),
      Arranged (fun x y => y.connectionCount ≤ x.connectionCount)
        (groups.map fun g => (processResponse g).1)
        ((orderByDesc (fun g => g.2.length) groups).map fun g => (processResponse g).1) :=
    fun groups => (arranged_orderByDesc _ _).map fun _ _ hle => hle
  refine ⟨_, _, _, harranged _, (harranged _).perm_rows hperm.symm, ?_, ?_⟩
  · rw [topGroups, List.map_map, List.map_take]
    rfl
  · rw [Endpoint.topProcesses, List.map_take]
    rfl

/-- The tool reports the rows. -/
lemma processConnectionsResult_eq (a : ProcessConnectionsArguments) (rows : List StoredEvent) :
    processConnectionsResult a rows = .obj [
      ("pid", .int a.pid),
      ("event_count", .int (processConnectionsRows rows).length),
      ("events", .arr ((processConnectionsRows rows).map fun e => e.toolItem))] := by
  have hitem : processConnection = fun e => e.toolItem := by
    funext e
    rw [processConnection, StoredEvent.toolItem]
    cases e.durationMs <;> rfl
  rw [processConnectionsResult, hitem]

lemma sameConnections (a : ProcessConnectionsArguments) {table table' : List StoredEvent}
    (h : table.Perm table') :
    SameConnections a
      (processConnectionsResult a (table.filter (processConnectionsClause a).holds))
      (orderByDesc (fun e => e.timestamp)
        (table'.filter (EventWhere.holds { pid := some a.pid }))) := by
  refine ⟨processConnectionsRows (table.filter (processConnectionsClause a).holds),
    processConnectionsResult_eq a _, ?_⟩
  refine ⟨_, _, _, arranged_orderBy _ _, ?_, rfl, rfl⟩
  refine (((arranged_orderByDesc _ _).filter _).reverse).perm_rows ?_
  rw [List.filter_filter]
  refine (h.symm.filter _).trans (List.Perm.of_eq (List.filter_congr fun e _ => ?_))
  simp [processConnectionsClause, EventWhere.holds, Bool.and_comm, Bool.and_assoc]

end Analyses

/-! ## The tools and the endpoints -/

section Agreement

variable {l l' : Session} {s s' : Server}

variable (hl : l.unusable = false) (hl' : l'.unusable = false) (hclock : s.clock = s'.clock)
  (hrows : s.db.connectionEvents.Perm s'.db.connectionEvents)

include hl hl' hclock hrows

lemma sameBursts_run (a : ConnectionBurstsArguments) :
    BothAnswer (SameBursts a) ((findConnectionBursts a).run l s).1
      ((Endpoint.findConnectionBursts ⟨a.threshold, a.minutes⟩).run l' s').1 := by
  have hb : ∀ now : Clock, (recentClause now a.minutes).binds = true :=
    fun now => recentClause_binds now a.minutes.2
  have htool := run_now_select (fun now => recentClause now a.minutes) (connectionBurstsResult a)
    hl (hb s.clock)
  have hendpoint := run_now_select (fun now => recentClause now a.minutes)
    (Endpoint.connectionBursts ⟨a.threshold, a.minutes⟩) hl' (hb s'.clock)
  rw [← hclock] at hendpoint
  exact .of_eq_ok htool hendpoint (sameBursts a (hrows.filter _))

lemma sameProcesses_run (a : TopNetworkProcessesArguments) :
    BothAnswer (SameProcesses a) ((getTopNetworkProcesses a).run l s).1
      ((Endpoint.getTopProcesses ⟨a.minutes, a.limit⟩).run l' s').1 := by
  have hb : ∀ now : Clock, (recentClause now a.minutes).binds = true :=
    fun now => recentClause_binds now a.minutes.2
  have htool := run_now_select (fun now => recentClause now a.minutes)
    (topNetworkProcessesResult a) hl (hb s.clock)
  have hendpoint := run_now_select (fun now => recentClause now a.minutes)
    (Endpoint.topProcesses ⟨a.minutes, a.limit⟩) hl' (hb s'.clock)
  rw [← hclock] at hendpoint
  exact .of_eq_ok htool hendpoint (sameProcesses a (hrows.filter _))

lemma sameDestinations_run (a : UnusualDestinationsArguments) :
    BothAnswer (SameDestinations a) ((findUnusualDestinations a).run l s).1
      ((Endpoint.findUnusualDestinations ⟨a.pid, ⟨60, by decide⟩, ⟨1440, by decide⟩⟩).run
        l' s').1 := by
  have hbaseline := baselineClause_binds a
  have hrecent := lastHourClause_binds a
  cases hpid : int4 a.pid with
  | false =>
      rw [hpid] at hbaseline
      exact .of_eq_error (run_readInTwo_of_not_binds _ _ _ hl (hbaseline s.clock))
        (run_readInTwo_of_not_binds _ _ _ hl' (hbaseline s'.clock))
  | true =>
      rw [hpid] at hbaseline hrecent
      have htool := run_readInTwo (baselineClause a) (lastHourClause a)
        (unusualDestinationsResult a) hl (hbaseline s.clock) (hrecent s.clock)
      have hendpoint := run_readInTwo (baselineClause a) (lastHourClause a)
        (Endpoint.unusualDestinations ⟨a.pid, ⟨60, by decide⟩, ⟨1440, by decide⟩⟩) hl'
        (hbaseline s'.clock) (hrecent s'.clock)
      rw [← hclock] at hendpoint
      exact .of_eq_ok htool hendpoint (sameDestinations a (hrows.filter _) (hrows.filter _))

omit hclock in
lemma sameConnections_run (a : ProcessConnectionsArguments) :
    if (processConnectionsClause a).binds = true then
      BothAnswer (SameConnections a) ((getProcessConnections a).run l s).1
        ((Endpoint.getProcessConnections a.pid).run l' s').1
    else ((getProcessConnections a).run l s).1 = .error .database := by
  split_ifs with hb
  · have hpid : (EventWhere.binds { pid := some a.pid }) = true := by
      simp only [processConnectionsClause, EventWhere.binds, Bool.and_eq_true] at hb ⊢
      simp [hb.1.1.1]
    exact .of_eq_ok (congrArg Prod.fst (run_select_bind hl hb _))
      (congrArg Prod.fst (run_select_bind hl' hpid _)) (sameConnections a hrows)
  · exact congrArg Prod.fst (run_select_bind_of_not_binds hl (by simpa using hb) _)

end Agreement

/-- **The tools and the endpoints find the same**, on servers with the same clock and the same
rows.  A PID that the driver cannot send is refused by both; the tool for the connections of a
process also refuses an interval that it cannot send. -/
theorem same_findings {l l' : Session} {s s' : Server} (hl : l.unusable = false)
    (hl' : l'.unusable = false) (hclock : s.clock = s'.clock)
    (hrows : s.db.connectionEvents.Perm s'.db.connectionEvents) :
    (∀ a : ConnectionBurstsArguments, BothAnswer (SameBursts a)
        ((findConnectionBursts a).run l s).1
        ((Endpoint.findConnectionBursts ⟨a.threshold, a.minutes⟩).run l' s').1)
      ∧ (∀ a : UnusualDestinationsArguments, BothAnswer (SameDestinations a)
        ((findUnusualDestinations a).run l s).1
        ((Endpoint.findUnusualDestinations ⟨a.pid, ⟨60, by decide⟩, ⟨1440, by decide⟩⟩).run
          l' s').1)
      ∧ (∀ a : TopNetworkProcessesArguments, BothAnswer (SameProcesses a)
        ((getTopNetworkProcesses a).run l s).1
        ((Endpoint.getTopProcesses ⟨a.minutes, a.limit⟩).run l' s').1)
      ∧ ∀ a : ProcessConnectionsArguments,
        if (processConnectionsClause a).binds = true then
          BothAnswer (SameConnections a) ((getProcessConnections a).run l s).1
            ((Endpoint.getProcessConnections a.pid).run l' s').1
        else ((getProcessConnections a).run l s).1 = .error .database :=
  ⟨sameBursts_run hl hl' hclock hrows, sameDestinations_run hl hl' hclock hrows,
    sameProcesses_run hl hl' hclock hrows, sameConnections_run hl hl' hrows⟩

theorem same_findings_reversed :
    BothAnswer (SameProcesses ⟨⟨60, by decide⟩, ⟨10, by decide⟩⟩)
      ((getTopNetworkProcesses ⟨⟨60, by decide⟩, ⟨10, by decide⟩⟩).run {}
        (.holding aroundMinute)).1
      ((Endpoint.getTopProcesses {}).run {} (.holding aroundMinute.reverse)).1 := by
  have hclock : (Server.holding aroundMinute).clock
    = (Server.holding aroundMinute.reverse).clock := rfl
  exact (same_findings rfl rfl hclock (List.reverse_perm _).symm).2.2.1 _

end TracePilot
