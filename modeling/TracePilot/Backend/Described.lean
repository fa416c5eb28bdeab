import TracePilot.Backend.Containment
import TracePilot.Backend.Timeline

/-!
# Which events a tool result describes

A result lists events, or groups of events under a key: a process, a process and a minute, a
destination, a minute.  `AcceptedCall.Describes` reads the described events off the rows and the
keys, and does not look at the ids that the result carries.

**`evidence_exact`** — the ids that the agent collects from a result are those of the described
events.
-/

namespace TracePilot

open Resumption

/-- **The events that a result describes**: the listed ones, and the rows under the keys of the
returned groups. -/
def AcceptedCall.Describes : AcceptedCall → List Statement → StoredEvent → Prop
  | processConnections _, read, e => ∃ q ∈ read, e ∈ processConnectionsRows q.rows
  | topNetworkProcesses a, read, e => ∃ q ∈ read, e ∈ q.rows
      ∧ (e.pid, e.processName) ∈ (topGroups a.limit q.rows).map Prod.fst
  | connectionBursts a, read, e => ∃ q ∈ read, e ∈ q.rows
      ∧ (e.pid, e.processName, startOfMinute e.timestamp)
        ∈ (burstGroups a.threshold q.rows).map Prod.fst
  | unusualDestinations _, read, e => ∃ q q', read = [q, q'] ∧ e ∈ q'.rows
      ∧ (e.destinationIp, e.destinationPort) ∈ (unusualGroups q.rows q'.rows).map Prod.fst
  | eventTimeline _, read, e => ∃ q ∈ read, e ∈ timelineRows q.rows
      ∧ minuteKey e ∈ ((timelineRows q.rows).foldl timelineStep []).map fun entry => entry.windowStart

section Groups

variable {κ : Type} [DecidableEq κ] {key : StoredEvent → κ} {rows : List StoredEvent}

/-- The members of some groups are the rows under their keys. -/
lemma exists_mem_groups_iff {groups : List (κ × List StoredEvent)}
    (hgroups : ∀ g ∈ groups, g ∈ Table.groupBy key rows) {x : String} :
    (∃ g ∈ groups, ∃ e ∈ g.2, e.id.str = x)
      ↔ ∃ e, (e ∈ rows ∧ key e ∈ groups.map Prod.fst) ∧ e.id.str = x := by
  constructor
  · rintro ⟨g, hg, e, he, rfl⟩
    rw [(Table.mem_groupBy.mp (hgroups g hg)).2, List.mem_filter] at he
    refine ⟨e, ⟨he.1, ?_⟩, rfl⟩
    rw [of_decide_eq_true he.2]
    exact List.mem_map_of_mem hg
  · rintro ⟨e, ⟨he, hkey⟩, rfl⟩
    obtain ⟨g, hg, hkey⟩ := List.mem_map.mp hkey
    refine ⟨g, hg, e, ?_, rfl⟩
    rw [(Table.mem_groupBy.mp (hgroups g hg)).2, List.mem_filter]
    exact ⟨he, decide_eq_true hkey.symm⟩

end Groups

/-- Every event of a timeline has the entry of its minute. -/
lemma minuteKey_mem_timeline {rows : List StoredEvent} {e : StoredEvent}
    (he : e ∈ timelineRows rows) :
    minuteKey e ∈ ((timelineRows rows).foldl timelineStep []).map fun entry => entry.windowStart := by
  obtain ⟨runs, hruns, hfold⟩ := timeline_eq_runs (sorted_timelineRows rows)
  obtain ⟨g, hg, hmem⟩ := hruns.mem_rows.mp he
  rw [hfold, List.map_map]
  refine List.mem_map.mpr ⟨g, hg, ?_⟩
  rw [Function.comp_apply, (accumulated_runEntry g.1 g.2).windowStart,
    ← hruns.key_eq g hg e hmem, minuteOf, minuteKey]

/-- **The ids in an answer are the ids of the events it describes.** -/
theorem AcceptedCall.Answer.mem_ids_iff {c : AcceptedCall} {read : List Statement} {v : Json}
    (h : c.Answer read v) (x : String) :
    x ∈ extractToolEventIds v ↔ ∃ e, c.Describes read e ∧ e.id.str = x := by
  cases c with
  | processConnections a =>
      obtain ⟨q, rfl, -, rfl⟩ := h
      rw [ids_processConnections]
      simp [Describes]
  | topNetworkProcesses a =>
      obtain ⟨_, q, rfl, -, rfl⟩ := h
      have hgroups : ∀ g ∈ topGroups a.limit q.rows,
          g ∈ Table.groupBy (fun e : StoredEvent => (e.pid, e.processName)) q.rows :=
        fun g hg => Table.mem_orderByDesc.mp (List.mem_of_mem_take hg)
      rw [ids_topNetworkProcesses, exists_mem_groups_iff hgroups]
      simp [Describes]
  | connectionBursts a =>
      obtain ⟨_, q, rfl, -, rfl⟩ := h
      have hgroups : ∀ g ∈ burstGroups a.threshold q.rows, g ∈ Table.groupBy
          (fun e : StoredEvent => (e.pid, e.processName, startOfMinute e.timestamp)) q.rows :=
        fun g hg => List.mem_of_mem_filter (Table.mem_orderByDesc.mp hg)
      rw [ids_connectionBursts, exists_mem_groups_iff hgroups]
      simp [Describes]
  | unusualDestinations a =>
      obtain ⟨_, q, q', rfl, -, -, rfl⟩ := h
      have hgroups : ∀ g ∈ unusualGroups q.rows q'.rows, g ∈ Table.groupBy
          (fun e : StoredEvent => (e.destinationIp, e.destinationPort)) q'.rows :=
        fun g hg => Table.mem_orderBy.mp (List.mem_of_mem_filter hg)
      rw [ids_unusualDestinations, exists_mem_groups_iff hgroups]
      simp [Describes]
  | eventTimeline a =>
      obtain ⟨_, q, rfl, -, rfl⟩ := h
      rw [ids_eventTimeline]
      constructor
      · rintro ⟨e, he, rfl⟩
        exact ⟨e, ⟨q, by simp, he, minuteKey_mem_timeline he⟩, rfl⟩
      · rintro ⟨e, ⟨q', hq', he, -⟩, rfl⟩
        obtain rfl := List.mem_singleton.mp hq'
        exact ⟨e, he, rfl⟩

/-! ## Runs -/

section Runs

variable {lib : Libraries} {investigationId : Uuid} {toolName : String} {raw : Json}
  {c : AcceptedCall} {l : Session} {s : Server}

/-- A call that was answered answers from the statements it sent. -/
lemma CallOutcome.answer {v : Json} {l' : Session} {s' : Server}
    (h : CallOutcome lib toolName raw investigationId l s (.ok v) l' s')
    (hcall : acceptedCall lib.toPydantic toolName raw = some c) :
    c.Answer (statementsRead (observedSince l l')) v := by
  cases h with
  | @recorded _ _ _ _ s₁ record attempt hs hread hrecord fits =>
      rw [observedSince_recording, (attempt.committedCalls_append s₁.db record).1]
      cases attempt with
      | @answered tool call read _ hname hcall' hrange hanswer =>
          obtain rfl : c = call := Option.some.inj (hcall.symm.trans hcall')
          rw [statementsRead_map _ _ rfl]
          exact hanswer

/-- **Evidence extraction is exact.**  For the accepted arguments of each of the five tools,
whatever the tables hold and other requests do, the ids in the serialised result of the tool are
those of the events that it describes; and so are the ids in what `execute_agent_tool` returns. -/
theorem evidence_exact (hlib : lib.EncodesJson) (hl : l.Clean)
    (hid : s.db.withId investigationId ≠ [])
    (hcall : acceptedCall lib.toPydantic toolName raw = some c) :
    (∀ o, c.function.Reaches l s o → ∀ v, o.1 = .ok v →
      c.Answer (statementsRead (observedSince l o.2.1)) v
      ∧ ∀ x, x ∈ extractToolEventIds (lib.jsonableEncoder v)
        ↔ ∃ e, c.Describes (statementsRead (observedSince l o.2.1)) e ∧ e.id.str = x)
    ∧ ∀ o, (executeAgentTool lib toolName raw investigationId).Reaches l s o → ∀ v, o.1 = .ok v →
      c.Answer (statementsRead (observedSince l o.2.1)) v
      ∧ ∀ x, x ∈ extractToolEventIds v
        ↔ ∃ e, c.Describes (statementsRead (observedSince l o.2.1)) e ∧ e.id.str = x := by
  constructor
  · intro o ho v hv
    obtain ⟨-, read, hlog, -, houtcome⟩ :=
      Handler.wp_iff_forall_reaches.mp (function_spec c l s hl.usable) o ho
    rw [hv] at houtcome
    obtain ⟨-, hanswer⟩ := houtcome
    rw [hlog, observedSince_observing, statementsRead_observations, hanswer.encode hlib]
    exact ⟨hanswer, hanswer.mem_ids_iff⟩
  · intro o ho v hv
    have houtcome := Handler.wp_iff_forall_reaches.mp
      (@executeAgentTool_spec lib toolName raw investigationId l s hlib hl hid) o ho
    rw [hv] at houtcome
    have hanswer := houtcome.answer hcall
    exact ⟨hanswer, hanswer.mem_ids_iff⟩

end Runs

/-- The server of `Server.investigating` with three events of process 7, two as `curl` and one as
`wget`. -/
def namesServer : Server :=
  let server := Server.investigating 7
  { server with db := { server.db with connectionEvents := twoNames } }

/-- The model asks for more than one connection in a minute, over an hour. -/
def burstArguments : Json := .obj [("threshold", .int 1), ("minutes", .int 60)]

/-- The answer describes the group of `curl`, and its ids are those of the two events. -/
theorem evidence_exact_sample :
    ∃ o v, (executeAgentTool .strict "find_connection_bursts" burstArguments 7).Reaches {}
        namesServer o
      ∧ o.1 = .ok v
      ∧ extractToolEventIds v
        = {"00000000-0000-0000-0000-000000000001", "00000000-0000-0000-0000-000000000002"}
      ∧ (AcceptedCall.connectionBursts moreThanOne).Answer
        (statementsRead (observedSince {} o.2.1)) v
      ∧ ∀ x, x ∈ extractToolEventIds v
        ↔ ∃ e, (AcceptedCall.connectionBursts moreThanOne).Describes
          (statementsRead (observedSince {} o.2.1)) e ∧ e.id.str = x := by
  have hrun := Handler.reaches_run
    (executeAgentTool .strict "find_connection_bursts" burstArguments 7) {} namesServer
  have hcall : acceptedCall Libraries.strict.toPydantic "find_connection_bursts" burstArguments
      = some (.connectionBursts moreThanOne) := rfl
  have hok : ((executeAgentTool .strict "find_connection_bursts" burstArguments 7).run {}
      namesServer).1 = .ok (connectionBurstsResult moreThanOne twoNames) := rfl
  obtain ⟨hanswer, hexact⟩ :=
    (evidence_exact Libraries.strict_encodesJson ⟨rfl, rfl, rfl⟩ (by decide) hcall).2 _ hrun _ hok
  exact ⟨_, _, hrun, hok, by decide +kernel, hanswer, hexact⟩

end TracePilot
