import TracePilot.Library.Detector
import TracePilot.Backend.Findings

/-!
# What the detectors find

The bursts and the processes with many destinations are found by grouped queries.  Each of them is a
`Table.detect`, so that what is proved there holds of all three, whatever is in the table.

* **`groupingDetectors_exact`** — the findings are exact, and the cited events are those of the
  group.
* **`detectsProcesses_iff`** — the groups carry a process name, and a process is found exactly when
  its events under a single name exceed the threshold.
-/

namespace TracePilot

/-! ## Groups -/

/-- The events of a lookback. -/
def eventsSince (events : List StoredEvent) (now lookback : ℤ) : List StoredEvent :=
  events.filter fun e => now - minutes lookback ≤ e.timestamp

/-- The group of an event among the bursts: its process, the name, and the calendar minute. -/
def burstKey (e : StoredEvent) : ℤ × String × ℤ :=
  (e.pid, e.processName, startOfMinute e.timestamp)

/-- The group of an event among the processes: the process and the name. -/
def processKey (e : StoredEvent) : ℤ × String := (e.pid, e.processName)

/-- The address and port an event went to. -/
def destination (e : StoredEvent) : IpAddress × ℤ := (e.destinationIp, e.destinationPort)

/-- The number of different destinations. -/
def distinctDestinations (events : List StoredEvent) : ℕ := (events.map destination).toFinset.card

/-- A threshold that is valid is not exceeded by nothing. -/
lemma length_nil_le {threshold : ℤ} (h : 1 ≤ threshold) :
    ((List.length ([] : List StoredEvent) : ℕ) : ℤ) ≤ threshold := by
  rw [List.length_nil]
  omega

lemma distinctDestinations_nil_le {threshold : ℤ} (h : 1 ≤ threshold) :
    ((distinctDestinations [] : ℕ) : ℤ) ≤ threshold := by
  have hnone : distinctDestinations [] = 0 := rfl
  rw [hnone]
  omega

/-- A burst, as a finding.  Its connections are what is counted. -/
def ConnectionBurstResponse.row (r : ConnectionBurstResponse) :
    Table.Finding (ℤ × String × ℤ) Uuid where
  key := (r.pid, r.processName, r.windowStart)
  measured := r.connectionCount
  count := r.connectionCount
  ids := r.eventIds

/-- A process with many destinations, as a finding. -/
def HighUniqueDestinationsResponse.row (r : HighUniqueDestinationsResponse) :
    Table.Finding (ℤ × String) Uuid where
  key := (r.pid, r.processName)
  measured := r.uniqueDestinationCount
  count := r.connectionCount
  ids := r.eventIds

section Runs

variable {l : Session} {s : Server}

lemma filter_recentClause (events : List StoredEvent) (now lookback : ℤ) :
    events.filter (recentClause now lookback).holds = eventsSince events now lookback := by
  refine List.filter_congr fun e _ => Bool.eq_iff_iff.mpr ?_
  simp [recentClause, EventWhere.holds]

lemma distinctDestinations_eq (events : List StoredEvent) :
    Endpoint.uniqueDestinationCount events = distinctDestinations events :=
  (List.card_toFinset _).symm

lemma distinctDestinations_le (events : List StoredEvent) :
    distinctDestinations events ≤ events.length :=
  (List.toFinset_card_le _).trans (List.length_map _).le

/-- The bursts of the tool. -/
lemma findConnectionBursts_run (hl : l.unusable = false) (a : ConnectionBurstsArguments) :
    ∃ found : List ConnectionBurstResponse, ((findConnectionBursts a).run l s).1 = .ok (.obj [
        ("threshold", .int a.threshold),
        ("minutes", .int a.minutes),
        ("bursts", .arr (found.map fun r => r.toolItem))])
      ∧ found.map (fun r => r.row)
        = (Table.detect burstKey List.length a.threshold
            (eventsSince s.db.connectionEvents s.clock a.minutes)).map
          (Table.finding List.length fun e => e.id) := by
  refine ⟨(burstGroups a.threshold (eventsSince s.db.connectionEvents s.clock a.minutes)).map
    burstResponse, ?_, ?_⟩
  · refine (run_now_select (fun now => recentClause now a.minutes) (connectionBurstsResult a) hl
      (recentClause_binds _ a.minutes.2)).trans ?_
    rw [filter_recentClause, connectionBurstsResult_eq]
  · rw [List.map_map]
    rfl

/-- The bursts of the endpoint. -/
lemma endpoint_findConnectionBursts_run (hl : l.unusable = false) (q : ConnectionBurstsQuery) :
    ∃ bursts, ((Endpoint.findConnectionBursts q).run l s).1 = .ok bursts
      ∧ bursts.map (fun r => r.row)
        = (Table.detect burstKey List.length q.threshold
            (eventsSince s.db.connectionEvents s.clock q.minutes)).map
          (Table.finding List.length fun e => e.id) := by
  refine ⟨_, run_now_select (fun now => recentClause now q.minutes) (Endpoint.connectionBursts q) hl
    (recentClause_binds _ q.minutes.2), ?_⟩
  rw [filter_recentClause, Endpoint.connectionBursts, List.map_map]
  rfl

/-- The processes with many destinations. -/
lemma findHighUniqueDestinations_run (hl : l.unusable = false) (q : HighUniqueDestinationsQuery) :
    ∃ found, ((Endpoint.findHighUniqueDestinations q).run l s).1 = .ok found
      ∧ found.map (fun r => r.row)
        = (Table.detect processKey distinctDestinations q.threshold
            (eventsSince s.db.connectionEvents s.clock q.minutes)).map
          (Table.finding distinctDestinations fun e => e.id) := by
  refine ⟨_, run_now_select (fun now => recentClause now q.minutes)
    (Endpoint.highUniqueDestinations q) hl (recentClause_binds _ q.minutes.2), ?_⟩
  rw [filter_recentClause, Endpoint.highUniqueDestinations, List.map_map]
  simp only [distinctDestinations_eq]
  rfl

/-- **The grouping detectors are exact**, on every table, at every instant, and for all
arguments. -/
theorem groupingDetectors_exact (hl : l.unusable = false) (hkeyed : Keyed s.db.connectionEvents) :
    (∀ a : ConnectionBurstsArguments, ∃ found : List ConnectionBurstResponse,
      ((findConnectionBursts a).run l s).1 = .ok (.obj [
        ("threshold", .int a.threshold),
        ("minutes", .int a.minutes),
        ("bursts", .arr (found.map fun r => r.toolItem))])
      ∧ Table.Exact burstKey List.length a.threshold (fun e => e.id)
        (eventsSince s.db.connectionEvents s.clock a.minutes) (found.map fun r => r.row))
    ∧ (∀ q : ConnectionBurstsQuery, ∃ found,
      ((Endpoint.findConnectionBursts q).run l s).1 = .ok found
      ∧ Table.Exact burstKey List.length q.threshold (fun e => e.id)
        (eventsSince s.db.connectionEvents s.clock q.minutes) (found.map fun r => r.row))
    ∧ ∀ q : HighUniqueDestinationsQuery, ∃ found,
      ((Endpoint.findHighUniqueDestinations q).run l s).1 = .ok found
      ∧ Table.Exact processKey distinctDestinations q.threshold (fun e => e.id)
        (eventsSince s.db.connectionEvents s.clock q.minutes) (found.map fun r => r.row) := by
  have hsince : ∀ lookback, Keyed (eventsSince s.db.connectionEvents s.clock lookback) :=
    fun lookback => hkeyed.sublist List.filter_sublist
  refine ⟨fun a => ?_, fun q => ?_, fun q => ?_⟩
  · obtain ⟨found, hrun, hfound⟩ := findConnectionBursts_run hl a
    refine ⟨found, hrun, ?_⟩
    rw [hfound]
    exact Table.exact_detect (hsince _) (fun _ => le_rfl) (zero_le_one.trans a.threshold.2.1)
  · obtain ⟨found, hrun, hfound⟩ := endpoint_findConnectionBursts_run hl q
    refine ⟨found, hrun, ?_⟩
    rw [hfound]
    exact Table.exact_detect (hsince _) (fun _ => le_rfl) (zero_le_one.trans q.threshold.2.1)
  · obtain ⟨found, hrun, hfound⟩ := findHighUniqueDestinations_run hl q
    refine ⟨found, hrun, ?_⟩
    rw [hfound]
    exact Table.exact_detect (hsince _) distinctDestinations_le
      (zero_le_one.trans q.threshold.2.1)

end Runs

/-- Two connections of process 7 in one minute, under one name. -/
def twoConnections : List StoredEvent :=
  [.curl 1 7 1699999990000000 int4_seven representable_recent,
    .curl 2 7 1699999990000000 int4_seven representable_recent]

lemma one_le_thresholds : (1 : ℤ) ≤ 1 ∧ (1 : ℤ) ≤ 10000 := by decide

lemma hour_le_day : (1 : ℤ) ≤ 60 ∧ (60 : ℤ) ≤ 1440 := by decide

/-- More than one connection in a minute, over an hour. -/
def moreThanOne : ConnectionBurstsArguments := ⟨⟨1, one_le_thresholds⟩, ⟨60, hour_le_day⟩⟩

theorem groupingDetectors_exact_curl :
    ∃ found : List ConnectionBurstResponse,
      ((findConnectionBursts moreThanOne).run {} (.holding twoConnections)).1 = .ok (.obj [
        ("threshold", .int 1),
        ("minutes", .int 60),
        ("bursts", .arr (found.map fun r => r.toolItem))])
      ∧ Table.Exact burstKey List.length 1 (fun e => e.id)
        (eventsSince twoConnections 1700000000000000 60) (found.map fun r => r.row) := by
  have hkeyed : Keyed twoConnections := by decide
  exact (groupingDetectors_exact (s := .holding twoConnections) rfl hkeyed).1 moreThanOne

/-! ## Processes and names -/

/-- More than `threshold` events of the process lie in one calendar minute. -/
def ProcessBurst (events : List StoredEvent) (threshold pid : ℤ) : Prop :=
  ∃ minute, threshold
    < (events.filter fun e => e.pid = pid ∧ startOfMinute e.timestamp = minute).length

/-- The same under one name. -/
def NamedBurst (events : List StoredEvent) (threshold pid : ℤ) : Prop :=
  ∃ processName minute, threshold
    < (events.filter fun e => e.pid = pid ∧ e.processName = processName
        ∧ startOfMinute e.timestamp = minute).length

/-- The events of the process go to more than `threshold` destinations. -/
def ProcessSpread (events : List StoredEvent) (threshold pid : ℤ) : Prop :=
  threshold < distinctDestinations (events.filter fun e => e.pid = pid)

/-- The same under one name. -/
def NamedSpread (events : List StoredEvent) (threshold pid : ℤ) : Prop :=
  ∃ processName, threshold
    < distinctDestinations (events.filter fun e => e.pid = pid ∧ e.processName = processName)

section Names

variable {ι : Type} {events : List StoredEvent} {threshold : ℤ} (ident : StoredEvent → ι) (pid : ℤ)

/-- Which processes have a burst among the findings. -/
lemma namedBurst_iff (hthreshold : 1 ≤ threshold) :
    (∃ f ∈ (Table.detect burstKey List.length threshold events).map
        (Table.finding List.length ident), f.key.1 = pid) ↔ NamedBurst events threshold pid := by
  have hgroup : ∀ processName minute, Table.groupOf burstKey events (pid, processName, minute)
      = events.filter fun e => e.pid = pid ∧ e.processName = processName
        ∧ startOfMinute e.timestamp = minute := by
    intro processName minute
    refine List.filter_congr fun e _ => ?_
    simp only [burstKey, Prod.mk.injEq]
  refine (Table.exists_finding_iff (length_nil_le hthreshold) ident
    (p := fun k : ℤ × String × ℤ => k.1 = pid)).trans ?_
  constructor
  · rintro ⟨⟨_, processName, minute⟩, hlarge, rfl⟩
    exact ⟨processName, minute, hgroup processName minute ▸ hlarge⟩
  · rintro ⟨processName, minute, hlarge⟩
    exact ⟨(pid, processName, minute), by rwa [hgroup], rfl⟩

/-- Which processes are among those with many destinations. -/
lemma namedSpread_iff (hthreshold : 1 ≤ threshold) :
    (∃ f ∈ (Table.detect processKey distinctDestinations threshold events).map
        (Table.finding distinctDestinations ident), f.key.1 = pid)
      ↔ NamedSpread events threshold pid := by
  have hgroup : ∀ processName, Table.groupOf processKey events (pid, processName)
      = events.filter fun e => e.pid = pid ∧ e.processName = processName := by
    intro processName
    refine List.filter_congr fun e _ => ?_
    simp only [processKey, Prod.mk.injEq]
  refine (Table.exists_finding_iff (distinctDestinations_nil_le hthreshold) ident
    (p := fun k : ℤ × String => k.1 = pid)).trans ?_
  constructor
  · rintro ⟨⟨_, processName⟩, hlarge, rfl⟩
    exact ⟨processName, hgroup processName ▸ hlarge⟩
  · rintro ⟨processName, hlarge⟩
    exact ⟨(pid, processName), by rwa [hgroup], rfl⟩

end Names

section Processes

variable {l : Session} {s : Server}

/-- **When a process is found whatever its names**: unless its events exceed the threshold only
under several names. -/
theorem detectsProcesses_iff (hl : l.unusable = false) (pid : ℤ) :
    (∀ a : ConnectionBurstsArguments, ∃ found : List ConnectionBurstResponse,
      ((findConnectionBursts a).run l s).1 = .ok (.obj [
        ("threshold", .int a.threshold),
        ("minutes", .int a.minutes),
        ("bursts", .arr (found.map fun r => r.toolItem))])
      ∧ ((ProcessBurst (eventsSince s.db.connectionEvents s.clock a.minutes) a.threshold pid →
            ∃ r ∈ found, r.pid = pid)
        ↔ ¬ ProcessBurst (eventsSince s.db.connectionEvents s.clock a.minutes) a.threshold pid
          ∨ NamedBurst (eventsSince s.db.connectionEvents s.clock a.minutes) a.threshold pid))
    ∧ (∀ q : ConnectionBurstsQuery, ∃ found,
      ((Endpoint.findConnectionBursts q).run l s).1 = .ok found
      ∧ ((ProcessBurst (eventsSince s.db.connectionEvents s.clock q.minutes) q.threshold pid →
            ∃ r ∈ found, r.pid = pid)
        ↔ ¬ ProcessBurst (eventsSince s.db.connectionEvents s.clock q.minutes) q.threshold pid
          ∨ NamedBurst (eventsSince s.db.connectionEvents s.clock q.minutes) q.threshold pid))
    ∧ ∀ q : HighUniqueDestinationsQuery, ∃ found,
      ((Endpoint.findHighUniqueDestinations q).run l s).1 = .ok found
      ∧ ((ProcessSpread (eventsSince s.db.connectionEvents s.clock q.minutes) q.threshold pid →
            ∃ r ∈ found, r.pid = pid)
        ↔ ¬ ProcessSpread (eventsSince s.db.connectionEvents s.clock q.minutes) q.threshold pid
          ∨ NamedSpread (eventsSince s.db.connectionEvents s.clock q.minutes) q.threshold pid) := by
  have hrow : ∀ found : List ConnectionBurstResponse, (∃ r ∈ found, r.pid = pid)
      ↔ ∃ f ∈ found.map fun r => r.row, f.key.1 = pid := by
    intro found
    simp [ConnectionBurstResponse.row]
  refine ⟨fun a => ?_, fun q => ?_, fun q => ?_⟩
  · obtain ⟨found, hrun, hfound⟩ := findConnectionBursts_run hl a
    refine ⟨found, hrun, ?_⟩
    rw [hrow, hfound, namedBurst_iff _ _ a.threshold.2.1, imp_iff_not_or]
  · obtain ⟨found, hrun, hfound⟩ := endpoint_findConnectionBursts_run hl q
    refine ⟨found, hrun, ?_⟩
    rw [hrow, hfound, namedBurst_iff _ _ q.threshold.2.1, imp_iff_not_or]
  · obtain ⟨found, hrun, hfound⟩ := findHighUniqueDestinations_run hl q
    have hspread : (∃ r ∈ found, r.pid = pid) ↔ ∃ f ∈ found.map fun r => r.row, f.key.1 = pid := by
      simp [HighUniqueDestinationsResponse.row]
    refine ⟨found, hrun, ?_⟩
    rw [hspread, hfound, namedSpread_iff _ _ q.threshold.2.1, imp_iff_not_or]

end Processes

/-- More than one connection in a minute, for the endpoint. -/
def moreThanOneQuery : ConnectionBurstsQuery := ⟨⟨1, one_le_thresholds⟩, ⟨60, hour_le_day⟩⟩

/-- More than one destination in an hour. -/
def moreThanOneDestination : HighUniqueDestinationsQuery :=
  ⟨⟨1, one_le_thresholds⟩, ⟨60, hour_le_day⟩⟩

theorem detectsProcesses_iff_curl :
    ∃ found, ((Endpoint.findConnectionBursts moreThanOneQuery).run {}
        (.holding twoConnections)).1 = .ok found
      ∧ ((ProcessBurst (eventsSince twoConnections 1700000000000000 60) 1 7 →
            ∃ r ∈ found, r.pid = 7)
        ↔ ¬ ProcessBurst (eventsSince twoConnections 1700000000000000 60) 1 7
          ∨ NamedBurst (eventsSince twoConnections 1700000000000000 60) 1 7) :=
  (detectsProcesses_iff (s := .holding twoConnections) rfl 7).2.1 moreThanOneQuery

/-- A connection of process 7 as `wget`, to port 80. -/
def wgetConnection : ConnectionEvent :=
  { (StoredEvent.curl 2 7 1699999990000000 int4_seven representable_recent).toConnectionEvent with
    processName := "wget"
    destinationPort := 80 }

lemma wgetConnection_fits : wgetConnection.fits := by decide

/-- Process 7 connects as `curl`, and at the same time as `wget`. -/
def curlAndWget : List StoredEvent :=
  [.curl 1 7 1699999990000000 int4_seven representable_recent,
    ⟨wgetConnection, wgetConnection_fits⟩]

theorem not_detectsProcesses_renamed :
    ProcessBurst (eventsSince curlAndWget 1700000000000000 60) 1 7
      ∧ ProcessSpread (eventsSince curlAndWget 1700000000000000 60) 1 7
      ∧ ((findConnectionBursts moreThanOne).run {} (.holding curlAndWget)).1 = .ok (.obj [
        ("threshold", .int 1),
        ("minutes", .int 60),
        ("bursts", .arr [])])
      ∧ ((Endpoint.findConnectionBursts moreThanOneQuery).run {} (.holding curlAndWget)).1 = .ok []
      ∧ ((Endpoint.findHighUniqueDestinations moreThanOneDestination).run {}
        (.holding curlAndWget)).1 = .ok [] := by
  refine ⟨⟨startOfMinute 1699999990000000, by decide⟩, ?_, rfl, rfl, rfl⟩
  unfold ProcessSpread
  decide

end TracePilot
