import TracePilot.Library.Ranking
import TracePilot.Backend.Timeline

/-!
# Lookbacks without an end

`find_unusual_destinations` reads up to the present instant.  The other analyses read everything
since their cutoff, so that an event dated later than now, which the API accepts, is counted and
cited as well.  **`lookback_iff`** says when none is: when no such event is in a group that the
analysis reports.
-/

namespace TracePilot

/-! ## The lookback and what comes after it -/

/-- The events of a lookback that ends now. -/
def eventsUntilNow (events : List StoredEvent) (now lookback : ℤ) : List StoredEvent :=
  events.filter fun e => now - minutes lookback ≤ e.timestamp ∧ e.timestamp ≤ now

lemma eventsUntilNow_eq (events : List StoredEvent) (now lookback : ℤ) :
    eventsUntilNow events now lookback
      = (eventsSince events now lookback).filter fun e => e.timestamp ≤ now := by
  rw [eventsUntilNow, eventsSince, List.filter_filter]
  refine List.filter_congr fun e _ => ?_
  rw [Bool.decide_and, Bool.and_comm]

/-- No event of a group that exceeds the threshold is later than now. -/
def LargeGroupsPast {κ : Type} [DecidableEq κ] (key : StoredEvent → κ)
    (measure : List StoredEvent → ℕ) (threshold : ℤ) (events : List StoredEvent)
    (now lookback : ℤ) : Prop :=
  ∀ e ∈ eventsSince events now lookback,
    threshold < measure (Table.groupOf key (eventsSince events now lookback) (key e)) →
      e.timestamp ≤ now

/-- No event of a process and name that ranks below the limit is later than now. -/
def TopGroupsPast (limit : ℤ) (events : List StoredEvent) (now lookback : ℤ) : Prop :=
  ∀ e ∈ eventsSince events now lookback,
    Table.rank processKey (eventsSince events now lookback) (processKey e) < limit.toNat →
      e.timestamp ≤ now

/-- No event of the process is later than now. -/
def ProcessPast (events : List StoredEvent) (now pid : ℤ) : Prop :=
  ∀ e ∈ events, e.pid = pid → e.timestamp ≤ now

/-! ## The grouped queries -/

/-- A process among the top ones, as a finding with the ids that are reported with it. -/
def TopProcessResponse.row (r : TopProcessResponse) (ids : List Uuid) :
    Table.Finding (ℤ × String) Uuid where
  key := (r.pid, r.processName)
  measured := r.connectionCount
  count := r.connectionCount
  ids := ids

section Groups

variable {l : Session} {s : Server}

/-- A report of a detector is about the lookback when the groups that exceed the threshold are. -/
lemma detect_untilNow_iff {κ : Type} [DecidableEq κ] {key : StoredEvent → κ}
    {measure : List StoredEvent → ℕ} {threshold : ℤ} (h0 : (measure [] : ℤ) ≤ threshold)
    (events : List StoredEvent) (now lookback : ℤ) :
    (∀ f ∈ (Table.detect key measure threshold (eventsSince events now lookback)).map
          (Table.finding measure fun e => e.id),
        f.CountsOnly key measure (fun e => e.id) (eventsUntilNow events now lookback))
      ↔ LargeGroupsPast key measure threshold events now lookback := by
  rw [eventsUntilNow_eq, Table.detect_countsOnly_iff h0]
  simp only [decide_eq_true_eq]
  rfl

/-- The bursts of the tool. -/
lemma findConnectionBursts_untilNow (hl : l.unusable = false) (a : ConnectionBurstsArguments) :
    ∃ found : List ConnectionBurstResponse, ((findConnectionBursts a).run l s).1 = .ok (.obj [
        ("threshold", .int a.threshold),
        ("minutes", .int a.minutes),
        ("bursts", .arr (found.map fun r => r.toolItem))])
      ∧ ((∀ r ∈ found, r.row.CountsOnly burstKey List.length (fun e => e.id)
            (eventsUntilNow s.db.connectionEvents s.clock a.minutes))
        ↔ LargeGroupsPast burstKey List.length a.threshold s.db.connectionEvents s.clock
          a.minutes) := by
  obtain ⟨found, hrun, hfound⟩ := findConnectionBursts_run (s := s) hl a
  refine ⟨found, hrun, ?_⟩
  rw [← detect_untilNow_iff (length_nil_le a.threshold.2.1), ← hfound, List.forall_mem_map]

/-- The bursts of the endpoint. -/
lemma endpoint_findConnectionBursts_untilNow (hl : l.unusable = false)
    (q : ConnectionBurstsQuery) :
    ∃ found, ((Endpoint.findConnectionBursts q).run l s).1 = .ok found
      ∧ ((∀ r ∈ found, r.row.CountsOnly burstKey List.length (fun e => e.id)
            (eventsUntilNow s.db.connectionEvents s.clock q.minutes))
        ↔ LargeGroupsPast burstKey List.length q.threshold s.db.connectionEvents s.clock
          q.minutes) := by
  obtain ⟨found, hrun, hfound⟩ := endpoint_findConnectionBursts_run (s := s) hl q
  refine ⟨found, hrun, ?_⟩
  rw [← detect_untilNow_iff (length_nil_le q.threshold.2.1), ← hfound, List.forall_mem_map]

/-- The processes with many destinations. -/
lemma findHighUniqueDestinations_untilNow (hl : l.unusable = false)
    (q : HighUniqueDestinationsQuery) :
    ∃ found, ((Endpoint.findHighUniqueDestinations q).run l s).1 = .ok found
      ∧ ((∀ r ∈ found, r.row.CountsOnly processKey distinctDestinations (fun e => e.id)
            (eventsUntilNow s.db.connectionEvents s.clock q.minutes))
        ↔ LargeGroupsPast processKey distinctDestinations q.threshold s.db.connectionEvents s.clock
          q.minutes) := by
  obtain ⟨found, hrun, hfound⟩ := findHighUniqueDestinations_run (s := s) hl q
  refine ⟨found, hrun, ?_⟩
  rw [← detect_untilNow_iff (distinctDestinations_nil_le q.threshold.2.1), ← hfound,
    List.forall_mem_map]

/-- The largest groups are about the lookback when those that rank below the limit are. -/
lemma largest_untilNow_iff {limit : ℤ} (events : List StoredEvent) (now lookback : ℤ)
    (report : (ℤ × String) × List StoredEvent → Table.Finding (ℤ × String) Uuid)
    (hreport : ∀ k,
      (report (k, Table.groupOf processKey (eventsSince events now lookback) k)).CountsOnly
        processKey List.length (fun e => e.id) (eventsSince events now lookback))
    (hkey : ∀ g, (report g).key = g.1) :
    (∀ f ∈ (Table.largest processKey limit.toNat (eventsSince events now lookback)).map report,
        f.CountsOnly processKey List.length (fun e => e.id) (eventsUntilNow events now lookback))
      ↔ TopGroupsPast limit events now lookback := by
  rw [eventsUntilNow_eq, Table.largest_countsOnly_iff hreport hkey]
  simp only [decide_eq_true_eq]
  rfl

/-- The top processes of the tool. -/
lemma getTopNetworkProcesses_untilNow (hl : l.unusable = false)
    (a : TopNetworkProcessesArguments) :
    ∃ found : List (TopProcessResponse × List Uuid),
      ((getTopNetworkProcesses a).run l s).1 = .ok (.obj [
        ("minutes", .int a.minutes),
        ("processes", .arr (found.map fun r => r.1.toolItem r.2))])
      ∧ ((∀ r ∈ found, (r.1.row r.2).CountsOnly processKey List.length (fun e => e.id)
            (eventsUntilNow s.db.connectionEvents s.clock a.minutes))
        ↔ TopGroupsPast a.limit s.db.connectionEvents s.clock a.minutes) := by
  have hrun := run_now_select (s := s) (fun now => recentClause now a.minutes)
    (topNetworkProcessesResult a) hl (recentClause_binds _ a.minutes.2)
  rw [filter_recentClause, topNetworkProcessesResult_eq] at hrun
  refine ⟨_, hrun, ?_⟩
  rw [← largest_untilNow_iff s.db.connectionEvents s.clock a.minutes
    (fun g => (processResponse g).1.row (processResponse g).2)
    (fun k => Table.countsOnly_finding k) (fun _ => rfl), List.forall_mem_map, List.forall_mem_map]
  rfl

/-- The top processes of the endpoint, which cites nothing. -/
lemma getTopProcesses_untilNow (hl : l.unusable = false) (q : TopProcessesQuery) :
    ∃ found, ((Endpoint.getTopProcesses q).run l s).1 = .ok found
      ∧ ((∀ r ∈ found, (r.row []).CountsOnly processKey List.length (fun e => e.id)
            (eventsUntilNow s.db.connectionEvents s.clock q.minutes))
        ↔ TopGroupsPast q.limit s.db.connectionEvents s.clock q.minutes) := by
  have hrun := run_now_select (s := s) (fun now => recentClause now q.minutes)
    (Endpoint.topProcesses q) hl (recentClause_binds _ q.minutes.2)
  rw [filter_recentClause] at hrun
  refine ⟨_, hrun, ?_⟩
  rw [← largest_untilNow_iff s.db.connectionEvents s.clock q.minutes
    (fun g => (processResponse g).1.row [])
    (fun k => ⟨rfl, rfl, by simp [TopProcessResponse.row]⟩) (fun _ => rfl), List.forall_mem_map,
    Endpoint.topProcesses, List.forall_mem_map]
  rfl

end Groups

/-! ## The timeline -/

/-- An entry counts what it cites, and cites some of the events only. -/
def TimelineMinute.CountsOnly (events : List StoredEvent) (m : TimelineMinute) : Prop :=
  m.connectionCount = m.eventIds.length ∧ ∀ x ∈ m.eventIds, ∃ e ∈ events, e.id = x

section Timeline

variable {events : List StoredEvent} {now pid : ℤ}

/-- The newest event is listed, so that one event later than now makes a listed one so. -/
lemma exists_listed_later {e : StoredEvent} (he : e ∈ eventsOfDay events now pid)
    (hlater : now < e.timestamp) :
    ∃ e' ∈ timelineRows (eventsOfDay events now pid), now < e'.timestamp := by
  obtain ⟨omitted, hperm, hnewer⟩ := exists_omitted (eventsOfDay events now pid)
  rcases List.mem_append.mp (hperm.mem_iff.mpr he) with hlisted | homitted
  · exact ⟨e, hlisted, hlater⟩
  · have hpos : 0 < (timelineRows (eventsOfDay events now pid)).length := by
      have hday : 0 < (eventsOfDay events now pid).length := List.length_pos_of_mem he
      rw [length_timelineRows]
      omega
    obtain ⟨e', he'⟩ := List.exists_mem_of_length_pos hpos
    exact ⟨e', he', hlater.trans_le (hnewer e' he' e homitted)⟩

lemma mem_eventsOfDay_of_listed {e : StoredEvent}
    (he : e ∈ timelineRows (eventsOfDay events now pid)) :
    e ∈ events ∧ e.pid = pid ∧ now - minutes 1440 ≤ e.timestamp := by
  have hday := Table.mem_orderByDesc.mp (List.mem_of_mem_take (List.mem_reverse.mp he))
  rwa [eventsOfDay, List.mem_filter, decide_eq_true_eq] at hday

lemma timeline_untilNow_iff (hkeyed : Keyed events) {runs : List (ℤ × List StoredEvent)}
    (h : Table.Runs minuteOf (timelineRows (eventsOfDay events now pid)) runs) :
    (∀ m ∈ runs.map timelineMinute, m.CountsOnly (eventsUntilNow events now 1440))
      ↔ ProcessPast events now pid := by
  rw [List.forall_mem_map]
  constructor
  · intro hcounts e he hpid
    by_contra hlater
    rw [not_le] at hlater
    have hday : e ∈ eventsOfDay events now pid := by
      rw [eventsOfDay, List.mem_filter, decide_eq_true_eq]
      refine ⟨he, hpid, ?_⟩
      unfold minutes
      omega
    obtain ⟨e', hlisted, hlater'⟩ := exists_listed_later hday hlater
    obtain ⟨run, hrun, hmem⟩ := h.mem_rows.mp hlisted
    obtain ⟨e'', hwithin, hid⟩ := (hcounts run hrun).2 e'.id (List.mem_map_of_mem hmem)
    rw [eventsUntilNow, List.mem_filter, decide_eq_true_eq] at hwithin
    obtain rfl := hkeyed.eq hwithin.1 (mem_eventsOfDay_of_listed hlisted).1
      (congrArg Uuid.str hid)
    exact absurd hwithin.2.2 (not_le.mpr hlater')
  · intro hpast run hrun
    refine ⟨(List.length_map _).symm, fun x hx => ?_⟩
    obtain ⟨e, he, rfl⟩ := List.mem_map.mp hx
    obtain ⟨hmem, hpid, hsince⟩ := mem_eventsOfDay_of_listed (h.mem_rows.mpr ⟨run, hrun, he⟩)
    refine ⟨e, ?_, rfl⟩
    rw [eventsUntilNow, List.mem_filter, decide_eq_true_eq]
    exact ⟨hmem, hsince, hpast e hmem hpid⟩

lemma getEventTimeline_untilNow {l : Session} {s : Server} (hl : l.unusable = false)
    (hkeyed : Keyed s.db.connectionEvents) (a : EventTimelineArguments)
    (hpid : int4 a.pid = true) : ∃ returned truncated found,
      ((getEventTimeline a).run l s).1 = .ok (timelineAnswer a.pid returned truncated found)
        ∧ ((∀ m ∈ found, m.CountsOnly (eventsUntilNow s.db.connectionEvents s.clock 1440))
          ↔ ProcessPast s.db.connectionEvents s.clock a.pid) := by
  obtain ⟨runs, hruns, hrun⟩ := getEventTimeline_run (s := s) hl a hpid
  exact ⟨_, _, _, hrun, timeline_untilNow_iff hkeyed hruns⟩

end Timeline

/-! ## All of them -/

/-- **When a lookback ends now**: when no event later than now is in a group that is reported, and
for the timeline when the process has none. -/
theorem lookback_iff {l : Session} {s : Server} (hl : l.unusable = false)
    (hkeyed : Keyed s.db.connectionEvents) :
    (∀ a : ConnectionBurstsArguments, ∃ found : List ConnectionBurstResponse,
      ((findConnectionBursts a).run l s).1 = .ok (.obj [
        ("threshold", .int a.threshold),
        ("minutes", .int a.minutes),
        ("bursts", .arr (found.map fun r => r.toolItem))])
      ∧ ((∀ r ∈ found, r.row.CountsOnly burstKey List.length (fun e => e.id)
            (eventsUntilNow s.db.connectionEvents s.clock a.minutes))
        ↔ LargeGroupsPast burstKey List.length a.threshold s.db.connectionEvents s.clock
          a.minutes))
    ∧ (∀ q : ConnectionBurstsQuery, ∃ found,
      ((Endpoint.findConnectionBursts q).run l s).1 = .ok found
      ∧ ((∀ r ∈ found, r.row.CountsOnly burstKey List.length (fun e => e.id)
            (eventsUntilNow s.db.connectionEvents s.clock q.minutes))
        ↔ LargeGroupsPast burstKey List.length q.threshold s.db.connectionEvents s.clock
          q.minutes))
    ∧ (∀ a : TopNetworkProcessesArguments, ∃ found : List (TopProcessResponse × List Uuid),
      ((getTopNetworkProcesses a).run l s).1 = .ok (.obj [
        ("minutes", .int a.minutes),
        ("processes", .arr (found.map fun r => r.1.toolItem r.2))])
      ∧ ((∀ r ∈ found, (r.1.row r.2).CountsOnly processKey List.length (fun e => e.id)
            (eventsUntilNow s.db.connectionEvents s.clock a.minutes))
        ↔ TopGroupsPast a.limit s.db.connectionEvents s.clock a.minutes))
    ∧ (∀ q : TopProcessesQuery, ∃ found,
      ((Endpoint.getTopProcesses q).run l s).1 = .ok found
      ∧ ((∀ r ∈ found, (r.row []).CountsOnly processKey List.length (fun e => e.id)
            (eventsUntilNow s.db.connectionEvents s.clock q.minutes))
        ↔ TopGroupsPast q.limit s.db.connectionEvents s.clock q.minutes))
    ∧ (∀ q : HighUniqueDestinationsQuery, ∃ found,
      ((Endpoint.findHighUniqueDestinations q).run l s).1 = .ok found
      ∧ ((∀ r ∈ found, r.row.CountsOnly processKey distinctDestinations (fun e => e.id)
            (eventsUntilNow s.db.connectionEvents s.clock q.minutes))
        ↔ LargeGroupsPast processKey distinctDestinations q.threshold s.db.connectionEvents s.clock
          q.minutes))
    ∧ ∀ a : EventTimelineArguments,
      if int4 a.pid = true then ∃ returned truncated found,
        ((getEventTimeline a).run l s).1 = .ok (timelineAnswer a.pid returned truncated found)
          ∧ ((∀ m ∈ found, m.CountsOnly (eventsUntilNow s.db.connectionEvents s.clock 1440))
            ↔ ProcessPast s.db.connectionEvents s.clock a.pid)
      else ((getEventTimeline a).run l s).1 = .error .database := by
  refine ⟨findConnectionBursts_untilNow hl, endpoint_findConnectionBursts_untilNow hl,
    getTopNetworkProcesses_untilNow hl, getTopProcesses_untilNow hl,
    findHighUniqueDestinations_untilNow hl, fun a => ?_⟩
  split_ifs with hpid
  · exact getEventTimeline_untilNow hl hkeyed a hpid
  · exact getEventTimeline_run_of_not_int4 hl a (by simpa using hpid)

theorem lookback_iff_curl :
    ∃ found, ((Endpoint.findConnectionBursts moreThanOneQuery).run {}
        (.holding twoConnections)).1 = .ok found
      ∧ ((∀ r ∈ found, r.row.CountsOnly burstKey List.length (fun e => e.id)
            (eventsUntilNow twoConnections 1700000000000000 60))
        ↔ LargeGroupsPast burstKey List.length 1 twoConnections 1700000000000000 60) := by
  have hkeyed : Keyed twoConnections := by decide
  exact (lookback_iff (s := .holding twoConnections) rfl hkeyed).2.1 moreThanOneQuery

/-- An hour after the clock of the sample servers. -/
lemma representable_later : Datetime.representable 1700003600000000 := by decide

/-- A connection of process 7, an hour after the clock. -/
def laterConnection : StoredEvent := .curl 1 7 1700003600000000 int4_seven representable_later

/-- Another one, to port 80. -/
def laterToPort80 : ConnectionEvent :=
  { (StoredEvent.curl 2 7 1700003600000000 int4_seven representable_later).toConnectionEvent with
    destinationPort := 80 }

lemma laterToPort80_fits : laterToPort80.fits := by decide

/-- Both are in the table. -/
def laterConnections : List StoredEvent := [laterConnection, ⟨laterToPort80, laterToPort80_fits⟩]

lemma mem_later : laterConnection ∈ eventsSince laterConnections 1700000000000000 60 :=
  List.mem_filter.mpr ⟨List.mem_cons_self, by decide⟩

/-- It is later than now. -/
lemma not_past_later : ¬ laterConnection.timestamp ≤ 1700000000000000 := by decide

lemma one_le_hundred : (1 : ℤ) ≤ 1 ∧ (1 : ℤ) ≤ 100 := by decide

/-- The top process over an hour. -/
def topOfHour : TopNetworkProcessesArguments := ⟨⟨60, hour_le_day⟩, ⟨1, one_le_hundred⟩⟩

/-- **Events dated an hour after now are counted and cited.** -/
theorem not_lookback_later :
    (∃ found : List ConnectionBurstResponse,
      ((findConnectionBursts moreThanOne).run {} (.holding laterConnections)).1 = .ok (.obj [
        ("threshold", .int 1),
        ("minutes", .int 60),
        ("bursts", .arr (found.map fun r => r.toolItem))])
      ∧ ¬ ∀ r ∈ found, r.row.CountsOnly burstKey List.length (fun e => e.id)
        (eventsUntilNow laterConnections 1700000000000000 60))
    ∧ (∃ found : List (TopProcessResponse × List Uuid),
      ((getTopNetworkProcesses topOfHour).run {} (.holding laterConnections)).1 = .ok (.obj [
        ("minutes", .int 60),
        ("processes", .arr (found.map fun r => r.1.toolItem r.2))])
      ∧ ¬ ∀ r ∈ found, (r.1.row r.2).CountsOnly processKey List.length (fun e => e.id)
        (eventsUntilNow laterConnections 1700000000000000 60))
    ∧ (∃ found, ((Endpoint.findHighUniqueDestinations moreThanOneDestination).run {}
        (.holding laterConnections)).1 = .ok found
      ∧ ¬ ∀ r ∈ found, r.row.CountsOnly processKey distinctDestinations (fun e => e.id)
        (eventsUntilNow laterConnections 1700000000000000 60))
    ∧ ∃ returned truncated found,
      ((getEventTimeline timelineOfSeven).run {} (.holding laterConnections)).1
        = .ok (timelineAnswer 7 returned truncated found)
      ∧ ¬ ∀ m ∈ found, m.CountsOnly (eventsUntilNow laterConnections 1700000000000000 1440) := by
  have hkeyed : Keyed laterConnections := by decide
  obtain ⟨bursts, hbursts, hiff⟩ := findConnectionBursts_untilNow (l := {})
    (s := .holding laterConnections) rfl moreThanOne
  obtain ⟨top, htop, hiff'⟩ := getTopNetworkProcesses_untilNow (l := {})
    (s := .holding laterConnections) rfl topOfHour
  obtain ⟨high, hhigh, hiff''⟩ := findHighUniqueDestinations_untilNow (l := {})
    (s := .holding laterConnections) rfl moreThanOneDestination
  obtain ⟨returned, truncated, found, hfound, hiff'''⟩ := getEventTimeline_untilNow (l := {})
    (s := .holding laterConnections) rfl hkeyed timelineOfSeven rfl
  refine ⟨⟨bursts, hbursts, fun h => not_past_later ?_⟩, ⟨top, htop, fun h => not_past_later ?_⟩,
    ⟨high, hhigh, fun h => not_past_later ?_⟩, returned, truncated, found, hfound,
    fun h => not_past_later ?_⟩
  · exact hiff.mp h laterConnection mem_later (by decide)
  · exact hiff'.mp h laterConnection mem_later (by decide)
  · exact hiff''.mp h laterConnection mem_later (by decide)
  · exact hiff'''.mp h laterConnection List.mem_cons_self rfl

end TracePilot
