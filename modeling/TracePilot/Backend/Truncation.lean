import TracePilot.Backend.Timeline

/-!
# What the limited tools say of what they left out

Two tools return at most 500 events.  The timeline derives its flag from the length of the list it
got, so that it also reports a list of exactly 500 as truncated, and the connections of a process
come without a flag.  **`truncationReported_iff`** says when the answers are right nevertheless.
-/

namespace TracePilot

/-- The answer says that events were left out. -/
def SignalsTruncation (answer : Json) : Prop := answer.field "truncated" = some (.bool true)

/-- The events of a process between two instants. -/
def eventsBetween (events : List StoredEvent) (pid startTime endTime : ℤ) : List StoredEvent :=
  events.filter fun e => e.pid = pid ∧ startTime ≤ e.timestamp ∧ e.timestamp ≤ endTime

lemma filter_processConnectionsClause (a : ProcessConnectionsArguments)
    (events : List StoredEvent) : events.filter (processConnectionsClause a).holds
      = eventsBetween events a.pid a.startTime.instant a.endTime.instant := by
  refine List.filter_congr fun e _ => Bool.eq_iff_iff.mpr ?_
  simp [processConnectionsClause, EventWhere.holds, and_assoc]

/-- The flag of the timeline. -/
lemma signalsTruncation_timelineAnswer {pid : ℤ} {returned : ℕ} {truncated : Bool}
    {found : List TimelineMinute} :
    SignalsTruncation (timelineAnswer pid returned truncated found) ↔ truncated = true := by
  have hfield : (timelineAnswer pid returned truncated found).field "truncated"
      = some (.bool truncated) := rfl
  rw [SignalsTruncation, hfield, Option.some_inj, Json.bool.injEq]

/-- The connections of a process come without one. -/
lemma not_signalsTruncation_processConnections (a : ProcessConnectionsArguments)
    (rows : List StoredEvent) : ¬ SignalsTruncation (processConnectionsResult a rows) := by
  have hfield : (processConnectionsResult a rows).field "truncated" = none := rfl
  intro h
  rw [SignalsTruncation, hfield] at h
  cases h

section Runs

variable {l : Session} {s : Server}

/-- A timeline signals truncation from 500 events on. -/
lemma getEventTimeline_signals (hl : l.unusable = false) (a : EventTimelineArguments)
    (hpid : int4 a.pid = true) : ∃ answer, ((getEventTimeline a).run l s).1 = .ok answer
      ∧ (SignalsTruncation answer
        ↔ 500 ≤ (eventsOfDay s.db.connectionEvents s.clock a.pid).length) := by
  obtain ⟨runs, -, hrun⟩ := getEventTimeline_run (s := s) hl a hpid
  refine ⟨_, hrun, ?_⟩
  rw [signalsTruncation_timelineAnswer, decide_eq_true_eq, length_timelineRows]
  omega

/-- The connections of a process are the matching events, whatever was left out. -/
lemma getProcessConnections_run (hl : l.unusable = false) (a : ProcessConnectionsArguments)
    (hb : (processConnectionsClause a).binds = true) :
    ((getProcessConnections a).run l s).1 = .ok (processConnectionsResult a
      (eventsBetween s.db.connectionEvents a.pid a.startTime.instant a.endTime.instant)) := by
  rw [← filter_processConnectionsClause]
  exact congrArg Prod.fst (run_select_bind hl hb _)

/-- **When truncation is reported exactly**: by the timeline unless exactly 500 events match, and by
the connections of a process unless more than 500 do.  Parameters that the driver cannot send are
refused. -/
theorem truncationReported_iff (hl : l.unusable = false) :
    (∀ a : EventTimelineArguments,
      if int4 a.pid = true then ∃ answer, ((getEventTimeline a).run l s).1 = .ok answer
        ∧ ((SignalsTruncation answer
            ↔ 500 < (eventsOfDay s.db.connectionEvents s.clock a.pid).length)
          ↔ (eventsOfDay s.db.connectionEvents s.clock a.pid).length ≠ 500)
      else ((getEventTimeline a).run l s).1 = .error .database)
    ∧ ∀ a : ProcessConnectionsArguments,
      if (processConnectionsClause a).binds = true then
        ∃ answer, ((getProcessConnections a).run l s).1 = .ok answer
          ∧ ((SignalsTruncation answer ↔ 500 < (eventsBetween s.db.connectionEvents a.pid
              a.startTime.instant a.endTime.instant).length)
            ↔ (eventsBetween s.db.connectionEvents a.pid
              a.startTime.instant a.endTime.instant).length ≤ 500)
      else ((getProcessConnections a).run l s).1 = .error .database := by
  refine ⟨fun a => ?_, fun a => ?_⟩
  · split_ifs with hpid
    · obtain ⟨answer, hrun, hsignals⟩ := getEventTimeline_signals (s := s) hl a hpid
      refine ⟨answer, hrun, ?_⟩
      rw [hsignals]
      omega
    · exact getEventTimeline_run_of_not_int4 hl a (by simpa using hpid)
  · split_ifs with hb
    · refine ⟨_, getProcessConnections_run hl a hb, ?_⟩
      rw [iff_false_left (not_signalsTruncation_processConnections a _), not_lt]
    · exact congrArg Prod.fst (run_select_bind_of_not_binds hl (by simpa using hb) _)

end Runs

theorem truncationReported_iff_curl :
    ∃ answer, ((getEventTimeline timelineOfSeven).run {} (.holding twoConnections)).1 = .ok answer
      ∧ ((SignalsTruncation answer
          ↔ 500 < (eventsOfDay twoConnections 1700000000000000 7).length)
        ↔ (eventsOfDay twoConnections 1700000000000000 7).length ≠ 500) :=
  (truncationReported_iff (s := .holding twoConnections) rfl).1 timelineOfSeven

/-- Some connections of process 7 at one instant. -/
def manyConnections (n : ℕ) : List StoredEvent :=
  (List.range n).map fun i =>
    .curl (BitVec.ofNat 128 i) 7 1699999990000000 int4_seven representable_recent

lemma length_eventsOfDay_many (n : ℕ) :
    (eventsOfDay (manyConnections n) 1700000000000000 7).length = n := by
  have hall : eventsOfDay (manyConnections n) 1700000000000000 7 = manyConnections n := by
    refine List.filter_eq_self.mpr fun e he => ?_
    obtain ⟨i, -, rfl⟩ := List.mem_map.mp he
    simp [StoredEvent.curl, minutes]
  rw [hall, manyConnections, List.length_map, List.length_range]

lemma length_eventsBetween_many (n : ℕ) :
    (eventsBetween (manyConnections n) 7 1699999990000000 1700000000000000).length = n := by
  have hall : eventsBetween (manyConnections n) 7 1699999990000000 1700000000000000
      = manyConnections n := by
    refine List.filter_eq_self.mpr fun e he => ?_
    obtain ⟨i, -, rfl⟩ := List.mem_map.mp he
    simp [StoredEvent.curl]
  rw [hall, manyConnections, List.length_map, List.length_range]

/-- The connections of process 7 in the ten seconds before the clock of the sample servers. -/
def connectionsOfSeven : ProcessConnectionsArguments :=
  ⟨⟨7, one_le_seven⟩, .utc 1699999990000000, .utc 1700000000000000⟩

/-- The timeline of at least 500 connections. -/
lemma manyConnections_signals {n : ℕ} (hn : 500 ≤ n) :
    ∃ answer, ((getEventTimeline timelineOfSeven).run {} (.holding (manyConnections n))).1
      = .ok answer ∧ SignalsTruncation answer := by
  obtain ⟨answer, hrun, hsignals⟩ := getEventTimeline_signals (l := {})
    (s := .holding (manyConnections n)) rfl timelineOfSeven rfl
  exact ⟨answer, hrun, hsignals.mpr ((length_eventsOfDay_many n).symm ▸ hn)⟩

/-- **Exactly 500 events are reported as truncated, and 501 are cut without a word.** -/
theorem not_truncationReported_atLimit :
    (∃ answer, ((getEventTimeline timelineOfSeven).run {} (.holding (manyConnections 500))).1
        = .ok answer ∧ SignalsTruncation answer
      ∧ (eventsOfDay (manyConnections 500) 1700000000000000 7).length = 500)
    ∧ ∃ answer, ((getProcessConnections connectionsOfSeven).run {}
        (.holding (manyConnections 501))).1 = .ok answer ∧ ¬ SignalsTruncation answer
      ∧ (eventsBetween (manyConnections 501) 7 1699999990000000 1700000000000000).length = 501 := by
  obtain ⟨answer, hrun, hsignals⟩ := manyConnections_signals (n := 500) le_rfl
  have hrun' := getProcessConnections_run (l := {}) (s := .holding (manyConnections 501)) rfl
    connectionsOfSeven (by decide)
  exact ⟨⟨answer, hrun, hsignals, length_eventsOfDay_many 500⟩, _, hrun',
    not_signalsTruncation_processConnections connectionsOfSeven _, length_eventsBetween_many 501⟩

end TracePilot
