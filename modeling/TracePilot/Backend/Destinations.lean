import TracePilot.Values.Readback
import TracePilot.Backend.Detectors

/-!
# New destinations

`find_unusual_destinations` answers from two statements, one for each window, and a comparison of
texts in Python.  **`unusualDestinations_exact`** says what comes out: the destinations of the
recent window that are not in the baseline, whatever is in the table.  The comparison is right
because different addresses have different texts.
-/

namespace TracePilot

/-! ## The two windows -/

/-- The events of a process in the recent window. -/
def recentEvents (events : List StoredEvent) (now pid recentMinutes : ℤ) : List StoredEvent :=
  events.filter fun e =>
    e.pid = pid ∧ now - minutes recentMinutes ≤ e.timestamp ∧ e.timestamp ≤ now

/-- The events of a process in the baseline, which ends where the recent window starts. -/
def baselineEvents (events : List StoredEvent) (now pid recentMinutes baselineMinutes : ℤ) :
    List StoredEvent :=
  events.filter fun e =>
    e.pid = pid ∧ now - minutes recentMinutes - minutes baselineMinutes ≤ e.timestamp
      ∧ e.timestamp < now - minutes recentMinutes

/-- **The windows partition their union.** -/
lemma windows_partition {events : List StoredEvent} {now pid recentMinutes baselineMinutes : ℤ}
    {e : StoredEvent} (he : e ∈ events) (hpid : e.pid = pid)
    (hsince : now - minutes recentMinutes - minutes baselineMinutes ≤ e.timestamp)
    (hupTo : e.timestamp ≤ now) :
    Xor (e ∈ recentEvents events now pid recentMinutes)
      (e ∈ baselineEvents events now pid recentMinutes baselineMinutes) := by
  simp only [recentEvents, baselineEvents, List.mem_filter, decide_eq_true_eq, he, hpid, true_and,
    hsince, hupTo, and_true, Xor]
  omega

/-! ## What is found -/

/-- The destination of a response. -/
def UnusualDestinationResponse.destination (r : UnusualDestinationResponse) : IpAddress × ℤ :=
  (r.destinationIp, r.destinationPort)

/-- **An exact answer**: each destination that is new appears once and no other does, with its
recent events, each once, and the first of their timestamps; the first seen comes first. -/
structure ExactDestinations (pid : ℤ) (baseline recent : List StoredEvent)
    (found : List UnusualDestinationResponse) : Prop where
  pid_eq : ∀ r ∈ found, r.pid = pid
  once : (found.map fun r => r.destination).Nodup
  found_iff : ∀ d, (∃ r ∈ found, r.destination = d)
    ↔ d ∈ recent.map destination ∧ d ∉ baseline.map destination
  ids : ∀ r ∈ found, ∀ x, x ∈ r.eventIds ↔ ∃ e ∈ recent, destination e = r.destination ∧ e.id = x
  nodup : ∀ r ∈ found, r.eventIds.Nodup
  firstSeen : ∀ r ∈ found,
    IsLeast {t | ∃ e ∈ recent, destination e = r.destination ∧ e.timestamp = t} r.firstSeen
  sorted : found.Pairwise fun r r' => r.firstSeen ≤ r'.firstSeen

lemma firstSeen_isLeast {events : List StoredEvent} (hne : events ≠ []) :
    IsLeast {t | ∃ e ∈ events, e.timestamp = t} (firstSeen events) := by
  have hmin : ∃ t, (events.map fun e => e.timestamp).min? = some t := by
    rw [← Option.isSome_iff_exists, List.isSome_min?_iff]
    simpa using hne
  obtain ⟨t, ht⟩ := hmin
  obtain ⟨hmem, hle⟩ := List.min?_eq_some_iff.mp ht
  rw [firstSeen, ht]
  refine ⟨List.mem_map.mp hmem, ?_⟩
  rintro _ ⟨e, he, rfl⟩
  exact hle _ (List.mem_map_of_mem he)

section Groups

variable {baseline recent : List StoredEvent}

/-- The destinations are compared as texts, which is the same. -/
lemma destinationKey_mem_iff {d : IpAddress × ℤ} :
    (d.1.str, d.2) ∈ baseline.map destinationKey ↔ d ∈ baseline.map destination := by
  simp only [List.mem_map, destinationKey, destination, Prod.ext_iff,
    IpAddress.str_injective.eq_iff]

lemma mem_unusualGroups {g : (IpAddress × ℤ) × List StoredEvent} :
    g ∈ unusualGroups baseline recent
      ↔ g.2 = Table.groupOf destination recent g.1
        ∧ g.1 ∈ recent.map destination ∧ g.1 ∉ baseline.map destination := by
  rw [unusualGroups, List.mem_filter, Table.mem_orderBy, Table.mem_groupBy, decide_eq_true_eq,
    destinationKey_mem_iff]
  constructor
  · rintro ⟨⟨hrecent, hrows⟩, hnew⟩
    exact ⟨hrows, hrecent, hnew⟩
  · rintro ⟨hrows, hrecent, hnew⟩
    exact ⟨⟨hrecent, hrows⟩, hnew⟩

/-- The group of a destination that occurs is not empty. -/
lemma groupOf_ne_nil {d : IpAddress × ℤ} (hd : d ∈ recent.map destination) :
    Table.groupOf destination recent d ≠ [] := by
  obtain ⟨e, he, hde⟩ := List.mem_map.mp hd
  exact List.ne_nil_of_mem (Table.mem_groupOf.mpr ⟨he, hde⟩)

/-- **The groups that are kept make an exact answer.** -/
lemma exactDestinations (pid : ℤ) (hkeyed : Keyed recent) :
    ExactDestinations pid baseline recent
      ((unusualGroups baseline recent).map (destinationResponse pid)) := by
  have hgroup : ∀ r ∈ (unusualGroups baseline recent).map (destinationResponse pid),
      r = destinationResponse pid (r.destination, Table.groupOf destination recent r.destination)
        ∧ r.destination ∈ recent.map destination ∧ r.destination ∉ baseline.map destination := by
    intro r hr
    obtain ⟨g, hg, rfl⟩ := List.mem_map.mp hr
    obtain ⟨hrows, hnew⟩ := mem_unusualGroups.mp hg
    exact ⟨congrArg (destinationResponse pid) (Prod.ext rfl hrows), hnew⟩
  refine ⟨fun r hr => ?_, ?_, fun d => ⟨?_, ?_⟩, fun r hr x => ?_, fun r hr => ?_, fun r hr => ?_,
    ?_⟩
  · rw [(hgroup r hr).1]
    rfl
  · have hkept : ((unusualGroups baseline recent).map Prod.fst).Nodup :=
      ((((Table.arranged_orderBy _ _).perm.map _).nodup_iff).mpr
        Table.nodup_keys_groupBy).sublist (List.filter_sublist.map _)
    rw [List.map_map]
    exact hkept
  · rintro ⟨r, hr, rfl⟩
    exact (hgroup r hr).2
  · intro hnew
    have hkept : (d, Table.groupOf destination recent d) ∈ unusualGroups baseline recent :=
      mem_unusualGroups.mpr ⟨rfl, hnew⟩
    exact ⟨_, List.mem_map_of_mem hkept, rfl⟩
  · rw [(hgroup r hr).1]
    simp only [destinationResponse, List.mem_map, Table.mem_groupOf, and_assoc]
    rfl
  · rw [(hgroup r hr).1]
    exact hkeyed.sublist List.filter_sublist
  · have hleast := firstSeen_isLeast (groupOf_ne_nil (hgroup r hr).2.1)
    simp only [Table.mem_groupOf, and_assoc] at hleast
    rw [(hgroup r hr).1]
    exact hleast
  · exact List.pairwise_map.mpr ((Table.arranged_orderBy _ _).filter _).sorted

end Groups

/-! ## The tool and the endpoint -/

section Runs

variable {l : Session} {s : Server}

lemma endpoint_baselineClause_binds (q : UnusualDestinationsQuery) (now : Clock) :
    (Endpoint.baselineClause q now).binds = int4 q.pid := by
  have hrecent := q.recentMinutes.2
  have hbaseline := q.baselineMinutes.2
  have h := representable_windowStart now (t := Endpoint.timedelta q.recentMinutes)
    (by unfold Endpoint.timedelta; omega) (by unfold Endpoint.timedelta; omega)
  have h' := representable_windowStart now
    (t := Endpoint.timedelta q.recentMinutes + Endpoint.timedelta q.baselineMinutes)
    (by unfold Endpoint.timedelta; omega) (by unfold Endpoint.timedelta; omega)
  rw [← sub_sub] at h'
  simp [Endpoint.baselineClause, EventWhere.binds, h, h']

lemma endpoint_recentClause_binds (q : UnusualDestinationsQuery) (now : Clock) :
    (Endpoint.recentClause q now).binds = int4 q.pid := by
  have hrecent := q.recentMinutes.2
  have h := representable_windowStart now (t := Endpoint.timedelta q.recentMinutes)
    (by unfold Endpoint.timedelta; omega) (by unfold Endpoint.timedelta; omega)
  simp [Endpoint.recentClause, EventWhere.binds, h, now.2.2]

lemma filter_baselineClause (q : UnusualDestinationsQuery) (events : List StoredEvent) (now : ℤ) :
    events.filter (Endpoint.baselineClause q now).holds
      = baselineEvents events now q.pid q.recentMinutes q.baselineMinutes := by
  refine List.filter_congr fun e _ => Bool.eq_iff_iff.mpr ?_
  simp [Endpoint.baselineClause, EventWhere.holds, Endpoint.timedelta, minutes, and_assoc]

lemma filter_endpoint_recentClause (q : UnusualDestinationsQuery) (events : List StoredEvent)
    (now : ℤ) : events.filter (Endpoint.recentClause q now).holds
      = recentEvents events now q.pid q.recentMinutes := by
  refine List.filter_congr fun e _ => Bool.eq_iff_iff.mpr ?_
  simp [Endpoint.recentClause, EventWhere.holds, Endpoint.timedelta, minutes, and_assoc]

lemma day_le_week : (1 : ℤ) ≤ 1440 ∧ (1440 : ℤ) ≤ 10080 := by decide

/-- The tool asks what the endpoint asks by default. -/
def UnusualDestinationsArguments.query (a : UnusualDestinationsArguments) :
    UnusualDestinationsQuery := ⟨a.pid, ⟨60, hour_le_day⟩, ⟨1440, day_le_week⟩⟩

lemma baselineClause_eq (a : UnusualDestinationsArguments) :
    baselineClause a = Endpoint.baselineClause a.query := rfl

lemma lastHourClause_eq (a : UnusualDestinationsArguments) :
    lastHourClause a = Endpoint.recentClause a.query := rfl

/-- **The unusual destinations are exact**, for the tool and the endpoint, on every table, at every
instant and for all arguments; and each event of the process that is in one of the windows is in
one only.  A PID that no event can have is refused by the driver. -/
theorem unusualDestinations_exact (hl : l.unusable = false)
    (hkeyed : Keyed s.db.connectionEvents) :
    (∀ a : UnusualDestinationsArguments,
      if int4 a.pid = true then ∃ found : List UnusualDestinationResponse,
        ((findUnusualDestinations a).run l s).1 = .ok (.obj [
          ("pid", .int a.pid),
          ("recent_minutes", .int 60),
          ("baseline_minutes", .int 1440),
          ("unusual_destinations", .arr (found.map fun r => r.toolItem))])
        ∧ ExactDestinations a.pid (baselineEvents s.db.connectionEvents s.clock a.pid 60 1440)
          (recentEvents s.db.connectionEvents s.clock a.pid 60) found
      else ((findUnusualDestinations a).run l s).1 = .error .database)
    ∧ (∀ q : UnusualDestinationsQuery,
      if int4 q.pid = true then ∃ found : List UnusualDestinationResponse,
        ((Endpoint.findUnusualDestinations q).run l s).1 = .ok found
        ∧ ExactDestinations q.pid
          (baselineEvents s.db.connectionEvents s.clock q.pid q.recentMinutes q.baselineMinutes)
          (recentEvents s.db.connectionEvents s.clock q.pid q.recentMinutes) found
      else ((Endpoint.findUnusualDestinations q).run l s).1 = .error .database)
    ∧ ∀ (pid recentMinutes baselineMinutes : ℤ), ∀ e ∈ s.db.connectionEvents, e.pid = pid →
      s.clock.1 - minutes recentMinutes - minutes baselineMinutes ≤ e.timestamp →
      e.timestamp ≤ s.clock.1 →
      Xor (e ∈ recentEvents s.db.connectionEvents s.clock pid recentMinutes)
        (e ∈ baselineEvents s.db.connectionEvents s.clock pid recentMinutes baselineMinutes) := by
  have hrecent : ∀ pid n, Keyed (recentEvents s.db.connectionEvents s.clock pid n) :=
    fun _ _ => hkeyed.sublist List.filter_sublist
  refine ⟨fun a => ?_, fun q => ?_, fun _ _ _ e he => windows_partition he⟩
  · have hb := baselineClause_binds a s.clock
    split_ifs with hpid
    · have hb' := (lastHourClause_binds a s.clock).trans hpid
      have hrun := run_readInTwo (baselineClause a) (lastHourClause a)
        (unusualDestinationsResult a) hl (hb.trans hpid) hb'
      rw [unusualDestinationsResult_eq, baselineClause_eq, lastHourClause_eq,
        filter_baselineClause, filter_endpoint_recentClause] at hrun
      exact ⟨_, hrun, exactDestinations a.pid (hrecent _ _)⟩
    · rw [Bool.not_eq_true] at hpid
      exact run_readInTwo_of_not_binds _ _ _ hl (hb.trans hpid)
  · have hb := endpoint_baselineClause_binds q s.clock
    split_ifs with hpid
    · have hb' := (endpoint_recentClause_binds q s.clock).trans hpid
      refine ⟨_, run_readInTwo (Endpoint.baselineClause q) (Endpoint.recentClause q)
        (Endpoint.unusualDestinations q) hl (hb.trans hpid) hb', ?_⟩
      rw [unusualDestinations_eq, filter_baselineClause, filter_endpoint_recentClause]
      exact exactDestinations q.pid (hrecent _ _)
    · rw [Bool.not_eq_true] at hpid
      exact run_readInTwo_of_not_binds _ _ _ hl (hb.trans hpid)

end Runs

lemma one_le_seven : (1 : ℤ) ≤ 7 := by decide

/-- The unusual destinations of process 7. -/
def unusualOfSeven : UnusualDestinationsArguments := ⟨⟨7, one_le_seven⟩⟩

/-- Two hours before the clock of the sample servers. -/
lemma representable_earlier : Datetime.representable 1699992800000000 := by decide

/-- Process 7 connected as `curl` in the baseline, and now does so again and as `wget` to port 80. -/
def curlAgainAndWget : List StoredEvent :=
  .curl 3 7 1699992800000000 int4_seven representable_earlier :: curlAndWget

/-- Port 443 is in both windows, port 80 in the recent one alone. -/
theorem unusualDestinations_exact_curl :
    (baselineEvents curlAgainAndWget 1700000000000000 7 60 1440).map destination
        = [(.v4 0x08080808, 443)]
      ∧ (recentEvents curlAgainAndWget 1700000000000000 7 60).map destination
        = [(.v4 0x08080808, 443), (.v4 0x08080808, 80)]
      ∧ ∃ found : List UnusualDestinationResponse,
        ((findUnusualDestinations unusualOfSeven).run {} (.holding curlAgainAndWget)).1 = .ok (.obj [
          ("pid", .int 7),
          ("recent_minutes", .int 60),
          ("baseline_minutes", .int 1440),
          ("unusual_destinations", .arr (found.map fun r => r.toolItem))])
        ∧ (∃ r ∈ found, r.destination = (.v4 0x08080808, 80))
        ∧ (¬ ∃ r ∈ found, r.destination = (.v4 0x08080808, 443))
        ∧ ExactDestinations 7 (baselineEvents curlAgainAndWget 1700000000000000 7 60 1440)
          (recentEvents curlAgainAndWget 1700000000000000 7 60) found := by
  have hkeyed : Keyed curlAgainAndWget := by decide
  obtain ⟨found, hrun, hexact⟩ :=
    (unusualDestinations_exact (l := {}) (s := .holding curlAgainAndWget) rfl hkeyed).1
      unusualOfSeven
  refine ⟨by decide, by decide, found, hrun, ?_, ?_, hexact⟩
  · exact (hexact.found_iff _).mpr (by decide)
  · exact fun h => absurd ((hexact.found_iff _).mp h) (by decide)

end TracePilot
