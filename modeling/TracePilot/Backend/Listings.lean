import TracePilot.Backend.Snapshots
import TracePilot.Backend.Truncation

/-!
# The busiest processes and the connections of a process

Two analyses are listings: they count or list what is stored, without a rule about it.  Each reads
the table in one statement, so unlike `find_unusual_destinations` it answers as of one moment.

**`listings_exact`** — beside any commits of batches, the answers of the tools and of the endpoints
are exact for the table in one state that the call passed through.
-/

namespace TracePilot

open Resumption Table

/-- Every process and name in some rows, with the number of its events, and their ids. -/
def processesOf (rows : List StoredEvent) : List (TopProcessResponse × List Uuid) :=
  (rows.map processKey).dedup.map fun k =>
    (⟨k.1, k.2, (groupOf processKey rows k).length⟩, (groupOf processKey rows k).map fun e => e.id)

/-- **As of one moment**: right for the table in one of the states, and an instant that a clock
showed in one of them. -/
def AtOneMoment (states : List Server) (right : ℤ → List StoredEvent → Prop) : Prop :=
  ∃ start ∈ states, ∃ saw ∈ states, right start.clock saw.db.connectionEvents

/-! ## The answers for given rows -/

section Answers

variable {rows : List StoredEvent}

/-- The processes that are reported are the busiest, with what there is to report of each. -/
lemma foremost_topGroups (limit : ℤ) :
    Foremost (fun p p' => p'.1.connectionCount ≤ p.1.connectionCount) limit.toNat (processesOf rows)
      ((topGroups limit rows).map processResponse) := by
  have hall : processesOf rows = (groupBy processKey rows).map processResponse := by
    rw [groupBy, List.map_map]
    rfl
  have harranged := arranged_orderByDesc (fun g : (ℤ × String) × List StoredEvent => g.2.length)
    (groupBy processKey rows)
  rw [hall, topGroups, List.map_take]
  exact (harranged.map fun _ _ hle => hle).foremost_take _

/-- The endpoint reports them without the ids. -/
lemma foremost_topProcesses (q : TopProcessesQuery) :
    Foremost (fun p p' => p'.connectionCount ≤ p.connectionCount) q.limit.1.toNat
      ((processesOf rows).map fun p => p.1) (Endpoint.topProcesses q rows) := by
  have hsame : Endpoint.topProcesses q rows
      = ((topGroups q.limit rows).map processResponse).map fun p => p.1 := by
    rw [List.map_map]
    rfl
  rw [hsame]
  exact (foremost_topGroups q.limit).map fun _ _ hle => hle

end Answers

/-! ## One statement -/

section OneStatement

variable {α : Type} {py : Pydantic} {l l' : Session} {s s' : Server} {states : List Server}
  {r : Except PyException α} {answer : List StoredEvent → α}

/-- A select that the driver cannot send raises. -/
lemma passes_select_error {clause : EventWhere} {f : List StoredEvent → Handler α}
    (hl : l.unusable = false) (hb : clause.binds = false)
    (h : (Handler.select clause >>= f).Passes py l s states (r, l', s')) : r = .error .database := by
  obtain ⟨path, saw, rest, -, -, hrest⟩ := h
  change Proc.Passes backend (BatchCommit py) (ExceptT.bindCont f (selectStep clause l saw).1)
    (selectStep clause l saw).2.1 (selectStep clause l saw).2.2 rest _ at hrest
  simp only [selectStep, hl, hb, Bool.false_eq_true, if_false] at hrest
  obtain ⟨_, -, heq⟩ := hrest
  exact (Prod.ext_iff.mp heq).1

/-- **A call that sends one statement** answers for the table that the statement saw. -/
lemma passes_select_pure {clause : EventWhere} (hl : l.unusable = false)
    (h : (Handler.select clause >>= fun rows => pure (answer rows)).Passes py l s states (r, l', s')) :
    if clause.binds = true then
      ∃ saw ∈ states, r = .ok (answer (saw.db.connectionEvents.filter clause.holds))
    else r = .error .database := by
  split_ifs with hb
  · obtain ⟨path, saw, rest, rfl, hpath, _, -, heq⟩ := (passes_select_bind hl hb).mp h
    exact ⟨saw, List.mem_append_left _ (List.mem_of_getLast? hpath.last_eq),
      (Prod.ext_iff.mp heq).1⟩
  · exact passes_select_error hl (by simpa using hb) h

/-- The same after reading the clock. -/
lemma passes_now_select (clause : ℤ → EventWhere) (hl : l.unusable = false)
    (hb : ∀ now : Clock, (clause now).binds = true)
    (h : (do let now ← Handler.now
             let rows ← Handler.select (clause now.1)
             pure (answer rows) : Handler α).Passes py l s states (r, l', s')) :
    AtOneMoment states fun now events => r = .ok (answer (events.filter (clause now).holds)) := by
  obtain ⟨path, start, rest, rfl, hpath, h⟩ := passes_now_bind.mp h
  have h := passes_select_pure hl h
  rw [if_pos (hb start.clock)] at h
  obtain ⟨saw, hsaw, hr⟩ := h
  exact ⟨start, List.mem_append_left _ (List.mem_of_getLast? hpath.last_eq), saw,
    List.mem_append_right _ hsaw, hr⟩

end OneStatement

/-! ## The tools and the endpoints -/

/-- **The listings are exact as of one moment**, for the tools and the endpoints, over every
interleaving of a call with commits of batches: the busiest processes of the lookback, and the
oldest connections of a process in an interval, or all of them from the newest down.  An argument
that no row can match is refused by the driver. -/
theorem listings_exact {py : Pydantic} {l l' : Session} {s s' : Server} {states : List Server}
    (hl : l.unusable = false) :
    (∀ (a : TopNetworkProcessesArguments) r,
      (getTopNetworkProcesses a).Passes py l s states (r, l', s') →
        AtOneMoment states fun now events => ∃ found : List (TopProcessResponse × List Uuid),
          r = .ok (.obj [
            ("minutes", .int a.minutes),
            ("processes", .arr (found.map fun p => p.1.toolItem p.2))])
          ∧ Foremost (fun p p' => p'.1.connectionCount ≤ p.1.connectionCount) a.limit.1.toNat
            (processesOf (eventsSince events now a.minutes)) found)
    ∧ (∀ (q : TopProcessesQuery) r,
      (Endpoint.getTopProcesses q).Passes py l s states (r, l', s') →
        AtOneMoment states fun now events => ∃ found, r = .ok found
          ∧ Foremost (fun p p' => p'.connectionCount ≤ p.connectionCount) q.limit.1.toNat
            ((processesOf (eventsSince events now q.minutes)).map fun p => p.1) found)
    ∧ (∀ (a : ProcessConnectionsArguments) r,
      (getProcessConnections a).Passes py l s states (r, l', s') →
        if (AcceptedCall.processConnections a).inRange = true then
          AtOneMoment states fun _ events => ∃ found : List StoredEvent,
            r = .ok (.obj [
              ("pid", .int a.pid),
              ("event_count", .int found.length),
              ("events", .arr (found.map fun e => e.toolItem))])
            ∧ Foremost (fun e e' => e.timestamp ≤ e'.timestamp) 500
              (eventsBetween events a.pid a.startTime.instant a.endTime.instant) found
        else r = .error .database)
    ∧ ∀ (pid : ℤ) r, (Endpoint.getProcessConnections pid).Passes py l s states (r, l', s') →
        if int4 pid = true then
          AtOneMoment states fun _ events => ∃ found, r = .ok found
            ∧ Arranged (fun e e' => e'.timestamp ≤ e.timestamp)
              (events.filter fun e => e.pid = pid) found
        else r = .error .database := by
  refine ⟨fun a r h => ?_, fun q r h => ?_, fun a r h => ?_, fun pid r h => ?_⟩
  · obtain ⟨start, hstart, saw, hsaw, hr⟩ := passes_now_select
      (fun now => recentClause now a.minutes) hl (fun now => recentClause_binds now a.minutes.2) h
    rw [filter_recentClause, topNetworkProcessesResult_eq] at hr
    exact ⟨start, hstart, saw, hsaw, _, hr, foremost_topGroups _⟩
  · obtain ⟨start, hstart, saw, hsaw, hr⟩ := passes_now_select
      (fun now => recentClause now q.minutes) hl (fun now => recentClause_binds now q.minutes.2) h
    rw [filter_recentClause] at hr
    exact ⟨start, hstart, saw, hsaw, _, hr, foremost_topProcesses q⟩
  · have h := passes_select_pure hl h
    rw [processConnectionsClause_binds] at h
    split_ifs at h ⊢ with hrange
    · obtain ⟨saw, hsaw, hr⟩ := h
      rw [filter_processConnectionsClause, processConnectionsResult_eq] at hr
      exact ⟨saw, hsaw, saw, hsaw, _, hr, (arranged_orderBy _ _).foremost_take _⟩
    · exact h
  · have h := passes_select_pure hl h
    have hbinds : EventWhere.binds { pid := some pid } = int4 pid := by simp [EventWhere.binds]
    rw [hbinds] at h
    split_ifs at h ⊢ with hpid
    · obtain ⟨saw, hsaw, hr⟩ := h
      refine ⟨saw, hsaw, saw, hsaw, _, hr, (arranged_orderByDesc _ _).perm_rows ?_⟩
      exact List.Perm.of_eq (List.filter_congr fun e _ => by simp [EventWhere.holds])
    · exact h

/-! ## A batch that commits before the statement -/

/-- The states of a call that reads the clock before the batch commits, and the table after. -/
def oneCommit : List Server :=
  [.holding [], .holding [], .holding splitRows, .holding splitRows]

/-- A call that sends one statement saw the batch. -/
lemma passes_select_commit {α : Type} (clause : EventWhere) (answer : List StoredEvent → α)
    (hb : clause.binds = true) : ∃ l' s',
    (Handler.select clause >>= fun rows => pure (answer rows)).Passes Pydantic.numeric {}
      (.holding []) oneCommit.tail (.ok (answer (splitRows.filter clause.holds)), l', s') := by
  have hcommit := Proc.Path.cons batchCommit_splitRows (.done (Server.holding splitRows))
  refine ⟨({ } : Session).observing [.selected clause splitRows], .holding splitRows, ?_⟩
  exact (passes_select_bind rfl hb).mpr ⟨_, _, _, rfl, hcommit, _, .done _, rfl⟩

/-- So did one that reads the clock first. -/
lemma passes_now_select_commit {α : Type} (clause : ℤ → EventWhere)
    (answer : List StoredEvent → α) (hb : (clause Clock.sample).binds = true) : ∃ l' s',
    (do let now ← Handler.now
        let rows ← Handler.select (clause now.1)
        pure (answer rows) : Handler α).Passes Pydantic.numeric {} (.holding []) oneCommit
      (.ok (answer (splitRows.filter (clause Clock.sample).holds)), l', s') := by
  obtain ⟨l', s', h⟩ := passes_select_commit _ answer hb
  exact ⟨l', s', passes_now_bind.mpr ⟨_, _, _, rfl, .done _, h⟩⟩

lemma one_le_limit : (1 : ℤ) ≤ 1 ∧ (1 : ℤ) ≤ 100 := by decide

/-- The busiest process of a day. -/
def busiestOfDay : TopNetworkProcessesArguments := ⟨⟨1440, one_le_day⟩, ⟨1, one_le_limit⟩⟩

/-- The connections of PID 42 in the last hour. -/
def connectionsOfHour : ProcessConnectionsArguments :=
  ⟨sampleArguments.pid, .utc 1699996400000000, .utc 1700000000000000⟩

theorem listings_exact_splitBatch :
    (∃ r l' s', (getTopNetworkProcesses busiestOfDay).Passes Pydantic.numeric {} (.holding [])
        oneCommit (r, l', s')
      ∧ AtOneMoment oneCommit fun now events => ∃ found : List (TopProcessResponse × List Uuid),
        r = .ok (.obj [
          ("minutes", .int 1440),
          ("processes", .arr (found.map fun p => p.1.toolItem p.2))])
        ∧ Foremost (fun p p' => p'.1.connectionCount ≤ p.1.connectionCount) 1
          (processesOf (eventsSince events now 1440)) found)
    ∧ (∃ r l' s', (Endpoint.getTopProcesses {}).Passes Pydantic.numeric {} (.holding [])
        oneCommit (r, l', s')
      ∧ AtOneMoment oneCommit fun now events => ∃ found, r = .ok found
        ∧ Foremost (fun p p' => p'.connectionCount ≤ p.connectionCount) 10
          ((processesOf (eventsSince events now 60)).map fun p => p.1) found)
    ∧ (∃ r l' s', (getProcessConnections connectionsOfHour).Passes Pydantic.numeric {}
        (.holding []) oneCommit.tail (r, l', s')
      ∧ AtOneMoment oneCommit.tail fun _ events => ∃ found : List StoredEvent,
        r = .ok (.obj [
          ("pid", .int 42),
          ("event_count", .int found.length),
          ("events", .arr (found.map fun e => e.toolItem))])
        ∧ Foremost (fun e e' => e.timestamp ≤ e'.timestamp) 500
          (eventsBetween events 42 1699996400000000 1700000000000000) found)
    ∧ ∃ r l' s', (Endpoint.getProcessConnections 42).Passes Pydantic.numeric {} (.holding [])
        oneCommit.tail (r, l', s')
      ∧ AtOneMoment oneCommit.tail fun _ events => ∃ found, r = .ok found
        ∧ Arranged (fun e e' => e'.timestamp ≤ e.timestamp) (events.filter fun e => e.pid = 42)
          found := by
  refine ⟨?_, ?_, ?_, ?_⟩
  · obtain ⟨l', s', h⟩ := passes_now_select_commit (fun now => recentClause now 1440)
      (topNetworkProcessesResult busiestOfDay) (by decide)
    exact ⟨_, l', s', h, (listings_exact rfl).1 busiestOfDay _ h⟩
  · obtain ⟨l', s', h⟩ := passes_now_select_commit (fun now => recentClause now 60)
      (Endpoint.topProcesses {}) (by decide)
    exact ⟨_, l', s', h, (listings_exact rfl).2.1 {} _ h⟩
  · obtain ⟨l', s', h⟩ := passes_select_commit (processConnectionsClause connectionsOfHour)
      (processConnectionsResult connectionsOfHour) (by decide)
    have hexact := (listings_exact rfl).2.2.1 connectionsOfHour _ h
    rw [if_pos (show (AcceptedCall.processConnections connectionsOfHour).inRange = true by decide)]
      at hexact
    exact ⟨_, l', s', h, hexact⟩
  · obtain ⟨l', s', h⟩ := passes_select_commit { pid := some 42 }
      (orderByDesc fun e => e.timestamp) (by decide)
    have hexact := (listings_exact rfl).2.2.2 42 _ h
    rw [if_pos (show int4 42 = true from rfl)] at hexact
    exact ⟨_, l', s', h, hexact⟩

end TracePilot
