import TracePilot.Library.Runs
import TracePilot.Values.Readback
import TracePilot.Backend.Destinations

/-!
# The timeline

`get_event_timeline` lists the newest 500 events of a process, oldest first, and collects them by
minute in a dictionary.  The rows come in the order of their minutes, so that the loop cuts them
into runs (`timeline_eq_runs`), and different minutes have different keys.

* **`eventTimeline_faithful`** — the entries partition the newest events chronologically.
* **`timeline_coversBursts`** — a timeline that is not truncated shows every burst of the process.
-/

namespace TracePilot

/-! ## The rows of the timeline -/

/-- The events of a process in the last 24 hours. -/
def eventsOfDay (events : List StoredEvent) (now pid : ℤ) : List StoredEvent :=
  events.filter fun e => e.pid = pid ∧ now - minutes 1440 ≤ e.timestamp

lemma filter_eventTimelineClause (a : EventTimelineArguments) (events : List StoredEvent) (now : ℤ) :
    events.filter (eventTimelineClause a now).holds = eventsOfDay events now a.pid := by
  refine List.filter_congr fun e _ => Bool.eq_iff_iff.mpr ?_
  simp [eventTimelineClause, EventWhere.holds]

section Rows

variable {rows : List StoredEvent}

lemma Keyed.newest (h : Keyed rows) : Keyed (timelineRows rows) := by
  have hperm := (Table.arranged_orderByDesc (fun e : StoredEvent => e.timestamp) rows).perm
  have hordered : Keyed (Table.orderByDesc (fun e => e.timestamp) rows) :=
    (hperm.map _).nodup_iff.mpr h
  exact (((List.reverse_perm _).map _).nodup_iff).mpr (hordered.sublist (List.take_sublist _ _))

lemma length_timelineRows (rows : List StoredEvent) :
    (timelineRows rows).length = min 500 rows.length := by
  have hperm := (Table.arranged_orderByDesc (fun e : StoredEvent => e.timestamp) rows).perm
  rw [timelineRows, List.length_reverse, List.length_take, hperm.length_eq]

/-- The listed rows are in chronological order. -/
lemma sorted_timelineRows (rows : List StoredEvent) :
    (timelineRows rows).Pairwise fun e e' => e.timestamp ≤ e'.timestamp := by
  rw [timelineRows, List.pairwise_reverse]
  exact (Table.arranged_orderByDesc _ _).sorted.sublist (List.take_sublist _ _)

/-- The rows that are left out are not newer. -/
lemma exists_omitted (rows : List StoredEvent) : ∃ omitted,
    (timelineRows rows ++ omitted).Perm rows
      ∧ ∀ e ∈ timelineRows rows, ∀ e' ∈ omitted, e'.timestamp ≤ e.timestamp := by
  have harranged := Table.arranged_orderByDesc (fun e : StoredEvent => e.timestamp) rows
  have hsplit := List.take_append_drop 500 (Table.orderByDesc (fun e => e.timestamp) rows)
  refine ⟨(Table.orderByDesc (fun e => e.timestamp) rows).drop 500, ?_, ?_⟩
  · refine ((List.reverse_perm _).append_right _).trans ?_
    rw [hsplit]
    exact harranged.perm
  · intro e he e' he'
    have hsorted := harranged.sorted
    rw [← hsplit, List.pairwise_append] at hsorted
    exact hsorted.2.2 e (List.mem_reverse.mp he) e' he'

end Rows

/-! ## The entries -/

/-- `f"{destination_ip}:{destination_port}"`. -/
def destinationText (e : StoredEvent) : String :=
  e.destinationIp.str ++ ":" ++ toString e.destinationPort

/-- The minute of an event. -/
def minuteOf (e : StoredEvent) : ℤ := startOfMinute e.timestamp

/-- The entry that a run of events leaves behind. -/
def runEntry (run : ℤ × List StoredEvent) : TimelineEntry :=
  run.2.foldl TimelineEntry.add ⟨(Datetime.utc run.1).isoformat, 0, [], []⟩

lemma runEntry_snoc (k : ℤ) (group : List StoredEvent) (e : StoredEvent) :
    runEntry (k, group ++ [e]) = (runEntry (k, group)).add e := by
  simp [runEntry]

/-- What the accumulators of an entry hold. -/
structure Accumulated (k : ℤ) (group : List StoredEvent) (entry : TimelineEntry) : Prop where
  windowStart : entry.windowStart = (Datetime.utc k).isoformat
  connectionCount : entry.connectionCount = group.length
  nodup : entry.destinations.Nodup
  mem_destinations : ∀ t, t ∈ entry.destinations ↔ ∃ e ∈ group, destinationText e = t
  eventIds : entry.eventIds = group.map fun e => e.id.str

lemma Accumulated.add {k : ℤ} {group : List StoredEvent} {entry : TimelineEntry}
    (h : Accumulated k group entry) (e : StoredEvent) :
    Accumulated k (group ++ [e]) (entry.add e) where
  windowStart := h.windowStart
  connectionCount := by simp [TimelineEntry.add, h.connectionCount]
  nodup := h.nodup.insert
  mem_destinations t := by
    have hmem : t ∈ (entry.add e).destinations ↔ t = destinationText e ∨ t ∈ entry.destinations :=
      List.mem_insert_iff
    rw [hmem, h.mem_destinations]
    simp [or_comm, or_and_right, exists_or, eq_comm]
  eventIds := by simp [TimelineEntry.add, h.eventIds]

lemma accumulated_runEntry (k : ℤ) (group : List StoredEvent) :
    Accumulated k group (runEntry (k, group)) := by
  induction group using List.reverseRecOn with
  | nil => exact ⟨rfl, rfl, List.nodup_nil, by simp [runEntry], rfl⟩
  | append_singleton group e ih =>
      rw [runEntry_snoc]
      exact ih.add e

/-! ## The loop -/

lemma representable_minuteOf (e : StoredEvent) : Datetime.representable (minuteOf e) := by
  have h := e.ok.1
  unfold minuteOf startOfMinute
  unfold Datetime.representable at h ⊢
  omega

/-- The key of a run of events, read from one of them. -/
lemma representable_run {seen : List StoredEvent} {runs : List (ℤ × List StoredEvent)}
    (h : Table.Runs minuteOf seen runs) {g : ℤ × List StoredEvent} (hg : g ∈ runs) :
    Datetime.representable g.1 := by
  obtain ⟨e, he⟩ := List.exists_mem_of_ne_nil _ (h.nonempty g hg)
  rw [← h.key_eq g hg e he]
  exact representable_minuteOf e

/-- An earlier minute has another key. -/
lemma windowStart_ne {seen : List StoredEvent} {runs : List (ℤ × List StoredEvent)}
    (h : Table.Runs minuteOf seen runs) {g : ℤ × List StoredEvent} (hg : g ∈ runs)
    {e : StoredEvent} (hlt : g.1 < minuteOf e) : (runEntry g).windowStart ≠ minuteKey e := by
  intro heq
  rw [(accumulated_runEntry g.1 g.2).windowStart] at heq
  exact hlt.ne (Datetime.isoformat_injective (representable_run h hg) (representable_minuteOf e) heq)

/-- A round leaves the entries of earlier minutes as they are. -/
lemma map_earlier {runs : List (ℤ × List StoredEvent)} {e : StoredEvent}
    (h : ∀ g ∈ runs, (runEntry g).windowStart ≠ minuteKey e) :
    (runs.map runEntry).map (fun entry =>
      if entry.windowStart = minuteKey e then entry.add e else entry) = runs.map runEntry := by
  rw [List.map_map]
  exact List.map_congr_left fun g hg => if_neg (h g hg)

/-- An event of the minute at hand. -/
lemma timelineStep_same {seen : List StoredEvent} {before : List (ℤ × List StoredEvent)}
    {group : List StoredEvent} {e : StoredEvent}
    (h : Table.Runs minuteOf seen (before ++ [(minuteOf e, group)]))
    (hlt : ∀ g ∈ before, g.1 < minuteOf e) :
    timelineStep ((before ++ [(minuteOf e, group)]).map runEntry) e
      = (before ++ [(minuteOf e, group ++ [e])]).map runEntry := by
  have hkey : (runEntry (minuteOf e, group)).windowStart = minuteKey e :=
    (accumulated_runEntry _ _).windowStart
  have hopen : ((before ++ [(minuteOf e, group)]).map runEntry).any
      (fun entry => entry.windowStart = minuteKey e) = true := by
    simp [hkey]
  rw [timelineStep, if_pos hopen, List.map_append, List.map_append,
    map_earlier fun g hg => windowStart_ne h (List.mem_append_left _ hg) (hlt g hg)]
  simp [hkey, runEntry_snoc]

/-- The first event of a minute. -/
lemma timelineStep_new {seen : List StoredEvent} {runs : List (ℤ × List StoredEvent)}
    {e : StoredEvent} (h : Table.Runs minuteOf seen runs) (hlt : ∀ g ∈ runs, g.1 < minuteOf e) :
    timelineStep (runs.map runEntry) e = (runs ++ [(minuteOf e, [e])]).map runEntry := by
  have hother : ∀ g ∈ runs, (runEntry g).windowStart ≠ minuteKey e :=
    fun g hg => windowStart_ne h hg (hlt g hg)
  have hopen : ¬ (runs.map runEntry).any (fun entry => entry.windowStart = minuteKey e) = true := by
    simpa using hother
  have hfirst : TimelineEntry.add ⟨minuteKey e, 0, [], []⟩ e = runEntry (minuteOf e, [e]) := rfl
  rw [timelineStep, if_neg hopen, List.map_append, List.map_append, map_earlier hother,
    List.map_singleton, List.map_singleton, if_pos rfl, hfirst]

/-- **The loop cuts rows in chronological order into runs**, one for each minute. -/
theorem timeline_eq_runs {rows : List StoredEvent}
    (hsorted : rows.Pairwise fun e e' => e.timestamp ≤ e'.timestamp) :
    ∃ runs, Table.Runs minuteOf rows runs ∧ rows.foldl timelineStep [] = runs.map runEntry := by
  refine Table.foldl_eq_runs timelineStep_same timelineStep_new (hsorted.imp fun {e e'} hle => ?_)
  unfold minuteOf startOfMinute
  omega

/-! ## What is reported -/

/-- A minute of the timeline, as it is reported. -/
structure TimelineMinute where
  windowStart : ℤ
  connectionCount : ℕ
  destinations : List String
  eventIds : List Uuid

/-- The minute, as the tool writes it. -/
def TimelineMinute.toolItem (m : TimelineMinute) : Json :=
  .obj [
    ("window_start", isoText m.windowStart),
    ("connection_count", .int m.connectionCount),
    ("destinations", .arr (m.destinations.map Json.str)),
    ("event_ids", idItems m.eventIds)]

/-- The report of a run. -/
def timelineMinute (run : ℤ × List StoredEvent) : TimelineMinute where
  windowStart := run.1
  connectionCount := run.2.length
  destinations := Table.orderBy id (runEntry run).destinations
  eventIds := run.2.map fun e => e.id

lemma timelineEntry_runEntry (run : ℤ × List StoredEvent) :
    timelineEntry (runEntry run) = (timelineMinute run).toolItem := by
  have h := accumulated_runEntry run.1 run.2
  rw [timelineEntry, h.windowStart, h.connectionCount, h.eventIds]
  simp [TimelineMinute.toolItem, timelineMinute, isoText, idItems]

/-- The answer of the tool. -/
def timelineAnswer (pid : ℤ) (returned : ℕ) (truncated : Bool) (found : List TimelineMinute) :
    Json :=
  .obj [
    ("pid", .int pid),
    ("lookback_hours", .int 24),
    ("returned_event_count", .int returned),
    ("truncated", .bool truncated),
    ("timeline", .arr (found.map fun m => m.toolItem))]

lemma eventTimelineResult_eq (a : EventTimelineArguments) (rows : List StoredEvent) :
    ∃ runs, Table.Runs minuteOf (timelineRows rows) runs
      ∧ eventTimelineResult a rows = timelineAnswer a.pid (timelineRows rows).length
        ((timelineRows rows).length = 500) (runs.map timelineMinute) := by
  obtain ⟨runs, hruns, hfold⟩ := timeline_eq_runs (sorted_timelineRows rows)
  refine ⟨runs, hruns, ?_⟩
  simp only [eventTimelineResult, timelineAnswer, hfold, List.map_map, Function.comp_def,
    timelineEntry_runEntry]

/-! ## What a faithful timeline is -/

/-- **A faithful timeline** of the events that match: its ids, put together, are those of the newest
500 of them, each once and in chronological order; the windows increase strictly and are whole
minutes of UTC, and the events of an entry lie in the 60 seconds from its window on; the counts count
the ids, and add up to what is returned; and the destinations of an entry are those of its events,
strictly sorted. -/
structure FaithfulTimeline (matching : List StoredEvent) (returned : ℕ)
    (found : List TimelineMinute) : Prop where
  nodup : (found.flatMap fun m => m.eventIds).Nodup
  listed : ∃ listed omitted : List StoredEvent, (listed ++ omitted).Perm matching
    ∧ found.flatMap (fun m => m.eventIds) = listed.map (fun e => e.id)
    ∧ listed.length = min 500 matching.length
    ∧ listed.Pairwise (fun e e' => e.timestamp ≤ e'.timestamp)
    ∧ ∀ e ∈ listed, ∀ e' ∈ omitted, e'.timestamp ≤ e.timestamp
  windows : (found.map fun m => m.windowStart).Pairwise (· < ·)
  whole : ∀ m ∈ found, m.windowStart % 60000000 = 0
  minute : ∀ m ∈ found, ∀ e ∈ matching, e.id ∈ m.eventIds →
    m.windowStart ≤ e.timestamp ∧ e.timestamp < m.windowStart + 60000000
  count : ∀ m ∈ found, m.connectionCount = m.eventIds.length
  sum : (found.map fun m => m.connectionCount).sum = returned
  destinations : ∀ m ∈ found, m.destinations.Pairwise (· < ·)
    ∧ ∀ t, t ∈ m.destinations ↔ ∃ e ∈ matching, e.id ∈ m.eventIds ∧ destinationText e = t

section Faithful

variable {rows : List StoredEvent} {runs : List (ℤ × List StoredEvent)}

/-- The rows of a run are the matching events with an id of its entry. -/
lemma mem_run_iff (hkeyed : Keyed rows) (h : Table.Runs minuteOf (timelineRows rows) runs)
    {run : ℤ × List StoredEvent} (hrun : run ∈ runs) {e : StoredEvent} :
    e ∈ run.2 ↔ e ∈ rows ∧ e.id ∈ (timelineMinute run).eventIds := by
  have hrows : ∀ e ∈ run.2, e ∈ rows := by
    intro e he
    have hlisted : e ∈ timelineRows rows := h.mem_rows.mpr ⟨run, hrun, he⟩
    exact Table.mem_orderByDesc.mp (List.mem_of_mem_take (List.mem_reverse.mp hlisted))
  constructor
  · intro he
    exact ⟨hrows e he, List.mem_map_of_mem he⟩
  · rintro ⟨he, hid⟩
    obtain ⟨e', he', heq⟩ := List.mem_map.mp hid
    rwa [← hkeyed.eq (hrows e' he') he (congrArg Uuid.str heq)]

/-- The ids of the entries, put together. -/
lemma flatMap_eventIds (h : Table.Runs minuteOf (timelineRows rows) runs) :
    (runs.map timelineMinute).flatMap (fun m => m.eventIds)
      = (timelineRows rows).map fun e => e.id := by
  rw [← h.rows_eq, List.map_flatMap, List.flatMap_map]
  rfl

/-- **The entries of the runs make a faithful timeline.** -/
lemma faithfulTimeline (hkeyed : Keyed rows) (h : Table.Runs minuteOf (timelineRows rows) runs) :
    FaithfulTimeline rows (timelineRows rows).length (runs.map timelineMinute) := by
  have hids := flatMap_eventIds h
  refine ⟨?_, ?_, ?_, ?_, ?_, ?_, ?_, ?_⟩
  · rw [hids]
    exact hkeyed.newest
  · obtain ⟨omitted, hperm, hnewer⟩ := exists_omitted rows
    exact ⟨timelineRows rows, omitted, hperm, hids, length_timelineRows rows,
      sorted_timelineRows rows, hnewer⟩
  · rw [List.map_map]
    exact h.increasing
  · rw [List.forall_mem_map]
    intro run hrun
    obtain ⟨e, he⟩ := List.exists_mem_of_ne_nil _ (h.nonempty run hrun)
    have hkey : startOfMinute e.timestamp = run.1 := h.key_eq run hrun e he
    change run.1 % 60000000 = 0
    unfold startOfMinute at hkey
    omega
  · rw [List.forall_mem_map]
    intro run hrun e he hid
    have hkey : startOfMinute e.timestamp = run.1 :=
      h.key_eq run hrun e ((mem_run_iff hkeyed h hrun).mpr ⟨he, hid⟩)
    change run.1 ≤ e.timestamp ∧ e.timestamp < run.1 + 60000000
    unfold startOfMinute at hkey
    omega
  · rw [List.forall_mem_map]
    exact fun run _ => (List.length_map _).symm
  · rw [← h.rows_eq, List.length_flatMap, List.map_map]
    rfl
  · rw [List.forall_mem_map]
    intro run hrun
    have hentry := accumulated_runEntry run.1 run.2
    refine ⟨?_, fun t => ?_⟩
    · have harranged := Table.arranged_orderBy id (runEntry run).destinations
      have hnodup := harranged.perm.nodup_iff.mpr hentry.nodup
      exact (harranged.sorted.and hnodup).imp fun h => lt_of_le_of_ne h.1 h.2
    · have hmem : t ∈ (timelineMinute run).destinations ↔ t ∈ (runEntry run).destinations :=
        Table.mem_orderBy
      rw [hmem, hentry.mem_destinations]
      simp only [mem_run_iff hkeyed h hrun, and_assoc]

end Faithful

section Runs

variable {l : Session} {s : Server}

/-- What the tool answers: the report of the runs. -/
lemma getEventTimeline_run (hl : l.unusable = false) (a : EventTimelineArguments)
    (hpid : int4 a.pid = true) :
    ∃ runs, Table.Runs minuteOf (timelineRows (eventsOfDay s.db.connectionEvents s.clock a.pid)) runs
      ∧ ((getEventTimeline a).run l s).1 = .ok (timelineAnswer a.pid
        (timelineRows (eventsOfDay s.db.connectionEvents s.clock a.pid)).length
        ((timelineRows (eventsOfDay s.db.connectionEvents s.clock a.pid)).length = 500)
        (runs.map timelineMinute)) := by
  obtain ⟨runs, hruns, heq⟩ :=
    eventTimelineResult_eq a (eventsOfDay s.db.connectionEvents s.clock a.pid)
  refine ⟨runs, hruns, (run_now_select (eventTimelineClause a) (eventTimelineResult a) hl
    ((eventTimelineClause_binds a s.clock).trans hpid)).trans ?_⟩
  rw [filter_eventTimelineClause, heq]

/-- A PID that the driver cannot send. -/
lemma getEventTimeline_run_of_not_int4 (hl : l.unusable = false) (a : EventTimelineArguments)
    (hpid : int4 a.pid = false) : ((getEventTimeline a).run l s).1 = .error .database := by
  have hb := (eventTimelineClause_binds a s.clock).trans hpid
  rw [getEventTimeline, run_now_bind, run_select_bind_of_not_binds hl hb]

/-- **The timeline is a faithful chronological partition**, on every table, at every instant and for
every process.  A PID that no event can have is refused by the driver. -/
theorem eventTimeline_faithful (hl : l.unusable = false) (hkeyed : Keyed s.db.connectionEvents)
    (a : EventTimelineArguments) :
    if int4 a.pid = true then ∃ returned truncated found,
      ((getEventTimeline a).run l s).1 = .ok (timelineAnswer a.pid returned truncated found)
        ∧ FaithfulTimeline (eventsOfDay s.db.connectionEvents s.clock a.pid) returned found
    else ((getEventTimeline a).run l s).1 = .error .database := by
  split_ifs with hpid
  · obtain ⟨runs, hruns, hrun⟩ := getEventTimeline_run hl a hpid
    have hday : Keyed (eventsOfDay s.db.connectionEvents s.clock a.pid) :=
      hkeyed.sublist List.filter_sublist
    exact ⟨_, _, _, hrun, faithfulTimeline hday hruns⟩
  · exact getEventTimeline_run_of_not_int4 hl a (by simpa using hpid)

end Runs

/-- The timeline of process 7. -/
def timelineOfSeven : EventTimelineArguments := ⟨⟨7, one_le_seven⟩⟩

theorem eventTimeline_faithful_curl :
    ∃ returned truncated found,
      ((getEventTimeline timelineOfSeven).run {} (.holding curlAndWget)).1
        = .ok (timelineAnswer 7 returned truncated found)
      ∧ FaithfulTimeline (eventsOfDay curlAndWget 1700000000000000 7) returned found := by
  have hkeyed : Keyed curlAndWget := by decide
  exact eventTimeline_faithful (s := .holding curlAndWget) rfl hkeyed timelineOfSeven

/-! ## The timeline and the bursts -/

/-- Exactly one entry has the window of the burst, and it lists the events of the burst. -/
def ShowsBurst (found : List TimelineMinute) (r : ConnectionBurstResponse) : Prop :=
  ∃ m, (found.filter fun m => m.windowStart = r.windowStart) = [m]
    ∧ ∀ x ∈ r.eventIds, x ∈ m.eventIds

/-- The ids that the detector counts for a process, a name and a minute. -/
def countedIds (events : List StoredEvent) (pid : ℤ) (processName : String) (minute : ℤ) : List Uuid :=
  (Table.groupOf burstKey events (pid, processName, minute)).map fun e => e.id

/-- The ids of an entry are the disjoint union, over the names, of what the detector counts. -/
def UnionOfNames (events : List StoredEvent) (pid : ℤ) (m : TimelineMinute) : Prop :=
  (∀ x, x ∈ m.eventIds ↔ ∃ processName, x ∈ countedIds events pid processName m.windowStart)
    ∧ ∀ processName processName', processName ≠ processName' →
      (countedIds events pid processName m.windowStart).Disjoint
        (countedIds events pid processName' m.windowStart)

section Agreement

variable {rows : List StoredEvent} {runs : List (ℤ × List StoredEvent)}

/-- Fewer than 500 rows are all listed. -/
lemma mem_timelineRows_of_not_truncated (h : (timelineRows rows).length ≠ 500) {e : StoredEvent} :
    e ∈ timelineRows rows ↔ e ∈ rows := by
  rw [length_timelineRows] at h
  have hperm := (Table.arranged_orderByDesc (fun e : StoredEvent => e.timestamp) rows).perm
  rw [timelineRows, List.mem_reverse,
    List.take_of_length_le (by rw [hperm.length_eq]; omega), Table.mem_orderByDesc]

/-- The entry of a minute in which the process has an event. -/
lemma filter_timelineMinutes (h : Table.Runs minuteOf (timelineRows rows) runs) {e : StoredEvent}
    (he : e ∈ timelineRows rows) : ∃ run ∈ runs, run.1 = minuteOf e
      ∧ ((runs.map timelineMinute).filter fun m => m.windowStart = minuteOf e)
        = [timelineMinute run] := by
  obtain ⟨run, hrun, hkey, hfilter⟩ := h.filter_key he
  refine ⟨run, hrun, hkey, ?_⟩
  rw [List.filter_map]
  exact congrArg (List.map timelineMinute) hfilter

/-- The events of an entry, when nothing was left out. -/
lemma mem_timelineMinute (hall : ∀ e, e ∈ timelineRows rows ↔ e ∈ rows)
    (h : Table.Runs minuteOf (timelineRows rows) runs) {run : ℤ × List StoredEvent}
    (hrun : run ∈ runs) {x : Uuid} :
    x ∈ (timelineMinute run).eventIds ↔ ∃ e ∈ rows, minuteOf e = run.1 ∧ e.id = x := by
  have hgroup := h.eq_groupOf hrun
  simp only [timelineMinute, List.mem_map]
  rw [hgroup]
  simp only [Table.mem_groupOf, hall, and_assoc]

variable {events : List StoredEvent} {now pid lookback : ℤ}

/-- The events that the detector counts for a process lie in the last day. -/
lemma mem_eventsOfDay_of_burst (hlookback : lookback ≤ 1440) {e : StoredEvent}
    {processName : String} {minute : ℤ}
    (he : e ∈ Table.groupOf burstKey (eventsSince events now lookback) (pid, processName, minute)) :
    e ∈ eventsOfDay events now pid ∧ minuteOf e = minute := by
  obtain ⟨hsince, hkey⟩ := Table.mem_groupOf.mp he
  simp only [burstKey, Prod.mk.injEq] at hkey
  rw [eventsSince, List.mem_filter, decide_eq_true_eq] at hsince
  rw [eventsOfDay, List.mem_filter, decide_eq_true_eq]
  refine ⟨⟨hsince.1, hkey.1, ?_⟩, hkey.2.2⟩
  have hday := hsince.2
  unfold minutes at hday ⊢
  omega

/-- **A timeline of all events shows every burst.** -/
lemma showsBurst (hall : ∀ e, e ∈ timelineRows (eventsOfDay events now pid)
      ↔ e ∈ eventsOfDay events now pid)
    (h : Table.Runs minuteOf (timelineRows (eventsOfDay events now pid)) runs)
    (hlookback : lookback ≤ 1440) {threshold : ℤ} (hthreshold : 1 ≤ threshold)
    {r : ConnectionBurstResponse} (hpid : r.pid = pid)
    (hfound : r.row ∈ (Table.detect burstKey List.length threshold
      (eventsSince events now lookback)).map (Table.finding List.length fun e => e.id)) :
    ShowsBurst (runs.map timelineMinute) r := by
  obtain ⟨g, hg, hrow⟩ := List.mem_map.mp hfound
  have hkey : g.1 = (pid, r.processName, r.windowStart) := by
    rw [← hpid]
    exact congrArg Table.Finding.key hrow
  obtain ⟨hrows, hlarge⟩ := (Table.mem_detect (length_nil_le hthreshold)).mp hg
  rw [hkey] at hrows hlarge
  have hids : r.eventIds = g.2.map fun e => e.id := (congrArg Table.Finding.ids hrow).symm
  -- the burst is not empty, so the process has an event in its minute
  obtain ⟨e, he⟩ := List.exists_mem_of_length_pos (l := Table.groupOf burstKey
    (eventsSince events now lookback) (pid, r.processName, r.windowStart)) (by omega)
  obtain ⟨hday, hminute⟩ := mem_eventsOfDay_of_burst hlookback he
  obtain ⟨run, hrun, hstart, hfilter⟩ := filter_timelineMinutes h ((hall e).mpr hday)
  rw [hminute] at hstart hfilter
  refine ⟨timelineMinute run, hfilter, fun x hx => ?_⟩
  rw [hids, hrows] at hx
  obtain ⟨e', he', rfl⟩ := List.mem_map.mp hx
  obtain ⟨hday', hminute'⟩ := mem_eventsOfDay_of_burst hlookback he'
  exact (mem_timelineMinute hall h hrun).mpr ⟨e', hday', hminute'.trans hstart.symm, rfl⟩

/-- **Over a whole day the entries are the unions of the groups.** -/
lemma unionOfNames (hkeyed : Keyed events)
    (hall : ∀ e, e ∈ timelineRows (eventsOfDay events now pid) ↔ e ∈ eventsOfDay events now pid)
    (h : Table.Runs minuteOf (timelineRows (eventsOfDay events now pid)) runs)
    {run : ℤ × List StoredEvent} (hrun : run ∈ runs) :
    UnionOfNames (eventsSince events now 1440) pid (timelineMinute run) := by
  refine ⟨fun x => ?_, fun processName processName' hne x hx hx' => hne ?_⟩
  · rw [mem_timelineMinute hall h hrun]
    constructor
    · rintro ⟨e, he, hminute, rfl⟩
      rw [eventsOfDay, List.mem_filter, decide_eq_true_eq] at he
      refine ⟨e.processName, List.mem_map_of_mem (Table.mem_groupOf.mpr ⟨?_, ?_⟩)⟩
      · rw [eventsSince, List.mem_filter, decide_eq_true_eq]
        exact ⟨he.1, he.2.2⟩
      · rw [burstKey, he.2.1]
        exact congrArg (fun w => (pid, e.processName, w)) hminute
    · rintro ⟨processName, hx⟩
      obtain ⟨e, he, rfl⟩ := List.mem_map.mp hx
      obtain ⟨hday, hminute⟩ := mem_eventsOfDay_of_burst le_rfl he
      exact ⟨e, hday, hminute, rfl⟩
  · obtain ⟨e, he, rfl⟩ := List.mem_map.mp hx
    obtain ⟨e', he', hid⟩ := List.mem_map.mp hx'
    obtain ⟨hsince, hkey⟩ := Table.mem_groupOf.mp he
    obtain ⟨hsince', hkey'⟩ := Table.mem_groupOf.mp he'
    obtain rfl := hkeyed.eq (List.mem_of_mem_filter hsince') (List.mem_of_mem_filter hsince)
      (congrArg Uuid.str hid)
    exact congrArg (fun k => k.2.1) (hkey.symm.trans hkey')

end Agreement

/-- **The timeline and the bursts agree**, at the same instant and on the same table: a timeline
that is not truncated shows every burst of the process, and its entries are the unions of the groups
that the detector counts over a day. -/
theorem timeline_agreesWithBursts {l l' : Session} {s : Server} (hl : l.unusable = false)
    (hl' : l'.unusable = false) (hkeyed : Keyed s.db.connectionEvents) (a : EventTimelineArguments)
    (b : ConnectionBurstsArguments) :
    if int4 a.pid = true then ∃ returned truncated found, ∃ bursts : List ConnectionBurstResponse,
      ((getEventTimeline a).run l s).1 = .ok (timelineAnswer a.pid returned truncated found)
        ∧ ((findConnectionBursts b).run l' s).1 = .ok (.obj [
          ("threshold", .int b.threshold),
          ("minutes", .int b.minutes),
          ("bursts", .arr (bursts.map fun r => r.toolItem))])
        ∧ (truncated = false →
          (∀ r ∈ bursts, r.pid = a.pid → ShowsBurst found r)
          ∧ (b.minutes.1 = 1440 → ∀ m ∈ found,
            UnionOfNames (eventsSince s.db.connectionEvents s.clock b.minutes) a.pid m))
    else ((getEventTimeline a).run l s).1 = .error .database := by
  split_ifs with hpid
  · obtain ⟨runs, hruns, hrun⟩ := getEventTimeline_run hl a hpid
    obtain ⟨bursts, hrun', hfound⟩ := findConnectionBursts_run hl' b
    refine ⟨_, _, _, bursts, hrun, hrun', fun hwhole => ?_⟩
    have hall := fun e => mem_timelineRows_of_not_truncated (e := e) (of_decide_eq_false hwhole)
    refine ⟨fun r hr hrpid => ?_, fun hday => ?_⟩
    · exact showsBurst hall hruns b.minutes.2.2 b.threshold.2.1 hrpid
        (hfound ▸ List.mem_map_of_mem hr)
    · rw [List.forall_mem_map, hday]
      exact fun run hrun => unionOfNames hkeyed hall hruns hrun
  · exact getEventTimeline_run_of_not_int4 hl a (by simpa using hpid)

/-- Process 7 connects twice as `curl` and once as `wget`, all in one minute. -/
def twoNames : List StoredEvent :=
  twoConnections ++ [{
    toConnectionEvent := { wgetConnection with id := 3 }
    ok := wgetConnection_fits }]

lemma one_le_day : (1 : ℤ) ≤ 1440 ∧ (1440 : ℤ) ≤ 1440 := by decide

/-- More than one connection in a minute, over a day. -/
def moreThanOneInADay : ConnectionBurstsArguments :=
  { moreThanOne with minutes := ⟨1440, one_le_day⟩ }

/-- The timeline has one entry, of three events, and there is one burst, of `curl`. -/
theorem timeline_agreesWithBursts_curl :
    ∃ found, ∃ bursts : List ConnectionBurstResponse,
      found.length = 1 ∧ bursts.length = 1
        ∧ ((getEventTimeline timelineOfSeven).run {} (.holding twoNames)).1
          = .ok (timelineAnswer 7 3 false found)
        ∧ ((findConnectionBursts moreThanOneInADay).run {} (.holding twoNames)).1 = .ok (.obj [
          ("threshold", .int 1),
          ("minutes", .int 1440),
          ("bursts", .arr (bursts.map fun r => r.toolItem))])
        ∧ (∀ r ∈ bursts, r.pid = 7 → ShowsBurst found r)
        ∧ ∀ m ∈ found, UnionOfNames (eventsSince twoNames 1700000000000000 1440) 7 m := by
  have hkeyed : Keyed twoNames := by decide
  have husable : ({} : Session).unusable = false := rfl
  obtain ⟨returned, truncated, found, bursts, htimeline, hbursts, hagree⟩ :=
    timeline_agreesWithBursts (s := .holding twoNames) husable husable hkeyed timelineOfSeven
      moreThanOneInADay
  have hentry : ∃ entry, ((getEventTimeline timelineOfSeven).run {} (.holding twoNames)).1
      = .ok (.obj [
        ("pid", .int 7),
        ("lookback_hours", .int 24),
        ("returned_event_count", .int 3),
        ("truncated", .bool false),
        ("timeline", .arr [entry])]) := ⟨_, rfl⟩
  have hburst : ∃ burst, ((findConnectionBursts moreThanOneInADay).run {} (.holding twoNames)).1
      = .ok (.obj [
        ("threshold", .int 1),
        ("minutes", .int 1440),
        ("bursts", .arr [burst])]) := ⟨_, rfl⟩
  obtain ⟨entry, hentry⟩ := hentry
  obtain ⟨burst, hburst⟩ := hburst
  have hanswer := Except.ok.inj (htimeline.symm.trans hentry)
  have hanswer' := Except.ok.inj (hbursts.symm.trans hburst)
  simp only [timelineAnswer, Json.obj.injEq, List.cons.injEq, Prod.mk.injEq, Json.int.injEq,
    Json.bool.injEq, Json.arr.injEq, true_and, and_true] at hanswer hanswer'
  obtain ⟨-, hreturned, rfl, hfound⟩ := hanswer
  obtain rfl : returned = 3 := by exact_mod_cast hreturned
  obtain ⟨-, -, hone⟩ := hanswer'
  obtain ⟨hshown, hunion⟩ := hagree rfl
  refine ⟨found, bursts, ?_, ?_, htimeline, hbursts, hshown, hunion rfl⟩
  · simpa using congrArg List.length hfound
  · simpa using congrArg List.length hone

end TracePilot
