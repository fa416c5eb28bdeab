import TracePilot.Backend.AgentRuns
import TracePilot.Backend.DemoReports

/-!
# Runs of the demo investigation

What `DemoReports` proves about a reading is carried to the runs of the agent.  The runs go on
among other requests that keep an assertion `J` about the shared state, `Respecting J`; whatever
the agent reads, it reads in states that satisfy `J`.

* **`function_among`** — every tool function answers at the clock and from the tables of such
  states.
* **`demo_spec`** — a demo investigation of a PID the tools accept makes its three calls and
  returns the report on what they read.
* **`demoReport_rightlyAttributed_iff`** — so its report is rightly attributed exactly when the
  evidence is the process's own.
-/

namespace TracePilot

open Resumption

/-! ## Other requests that keep an assertion -/

section Respecting

variable (J : Server → Prop)

/-- Other requests that keep `J`. -/
def Respecting (l : Session) (s s' : Server) : Prop := Interference l s s' ∧ (J s → J s')

/-- The runs among such requests. -/
abbrev Handler.wpAmong {α : Type} (p : Handler α)
    (Q : Except PyException α → Session → Server → Prop) (l : Session) (s : Server) : Prop :=
  Task.wp backend (Respecting J) p Q l s

/-- `J` is about the events and the clock: what a session commits does not touch it. -/
def KeptByCommits : Prop :=
  ∀ s db, db.connectionEvents = s.db.connectionEvents → J s → J { s with db := db }

variable {J}

lemma Respecting.refl (l : Session) (s : Server) : Respecting J l s s :=
  ⟨Interference.refl l s, id⟩

lemma Respecting.trans {l l' : Session} {s s₁ s' : Server} (h : Respecting J l s s₁)
    (h' : Respecting J l' s₁ s') (hown : l'.own = l.own) : Respecting J l s s' :=
  ⟨h.1.trans h'.1 hown, fun hs => h'.2 (h.2 hs)⟩

variable {α β : Type} {l : Session} {s : Server}

/-- Sequencing behind a handler that always returns. -/
lemma wpAmong_bind_of_ok {p : Handler α} {f : α → Handler β} {P : α → Session → Server → Prop}
    {Q : Except PyException β → Session → Server → Prop}
    (hp : p.wpAmong J (Task.outcome P fun _ _ _ => False) l s)
    (hf : ∀ a l' s', P a l' s' → (f a).wpAmong J Q l' s') : Handler.wpAmong J (p >>= f) Q l s := by
  refine (Task.wp_bind _ _ _ _ _).mpr (Task.wp_mono hp ?_)
  intro r l' s' hr
  cases r with
  | ok a => exact hf a l' s' hr
  | error e => exact absurd hr id

/-- Sequencing behind a value that is already there. -/
lemma wpAmong_ofExcept_bind {r : Except PyException α} {a : α} {f : α → Handler β}
    {Q : Except PyException β → Session → Server → Prop} (hr : r = .ok a)
    (hf : (f a).wpAmong J Q l s) : Handler.wpAmong J (Task.ofExcept r >>= f) Q l s := by
  rw [hr]
  exact hf

/-- Reading the clock. -/
lemma wpAmong_now_bind {f : Clock → Handler β}
    {Q : Except PyException β → Session → Server → Prop}
    (h : ∀ s', Respecting J l s s' → (f s'.clock).wpAmong J Q l s') :
    Handler.wpAmong J (Handler.now >>= f) Q l s :=
  (Task.wp_bind _ _ _ _ _).mpr h

/-- A statement that the driver can send. -/
lemma wpAmong_select_bind {clause : EventWhere} {f : List StoredEvent → Handler β}
    {Q : Except PyException β → Session → Server → Prop} (hl : l.unusable = false)
    (hb : clause.binds = true)
    (h : ∀ s', Respecting J l s s' → (f (Statement.rows ⟨clause, s'.db.connectionEvents⟩)).wpAmong J Q
      (l.note (.selected clause s'.db.connectionEvents)) s') :
    Handler.wpAmong J (Handler.select clause >>= f) Q l s := by
  refine (Task.wp_bind _ _ _ _ _).mpr ?_
  rw [Handler.select, Task.wp_bind]
  intro s' hs
  have hreply : backend (.select clause) l s' = (.ok (Statement.rows ⟨clause, s'.db.connectionEvents⟩),
      l.note (.selected clause s'.db.connectionEvents), s') := by
    simp [backend, selectStep, hl, hb, Statement.rows]
  change Task.outcome _ _ (backend (.select clause) l s').1 (backend (.select clause) l s').2.1
    (backend (.select clause) l s').2.2
  rw [hreply]
  exact h s' hs

/-- An audit record that fits. -/
lemma wpAmong_audit {investigationId : Uuid} {toolName : String} {arguments result : Json}
    {Q : Except PyException Unit → Session → Server → Prop} (hl : l.Clean)
    (hid : s.db.withId investigationId ≠ [])
    (hfits : ∀ now,
      (⟨investigationId, toolName, arguments, result, now⟩ : AgentToolCall).fits = true)
    (h : ∀ s' record, Respecting J l s s' →
      Q (.ok ()) (l.recording s'.db record) { s' with db := s'.db.withCall record }) :
    (audit investigationId toolName arguments result).wpAmong J Q l s := by
  obtain ⟨new, changed, own, unusable, log⟩ := l
  obtain ⟨rfl, rfl, rfl⟩ : new = [] ∧ changed = none ∧ unusable = false :=
    ⟨hl.new, hl.changed, hl.usable⟩
  refine (Task.wp_bind _ _ _ _ _).mpr ?_
  intro s₁ h₁
  refine (Task.wp_bind _ _ _ _ _).mpr ?_
  intro s₂ h₂
  have hs := h₁.trans h₂ rfl
  have hflush : s₂.db.flush [.agentToolCall ⟨investigationId, toolName, arguments, result, s₂.clock⟩]
      none = some (s₂.db.withCall ⟨investigationId, toolName, arguments, result, s₂.clock⟩) := by
    rw [Database.flush_agentToolCall]
    exact if_pos ⟨hfits _, hs.1.investigations _ hid⟩
  have hreply : backend .commit (backend (.add (.agentToolCall investigationId toolName arguments
      result)) ⟨[], none, own, false, log⟩ s₁).2.1 s₂
      = (.ok (), (⟨[], none, own, false, log⟩ : Session).recording s₂.db
          ⟨investigationId, toolName, arguments, result, s₂.clock⟩,
        { s₂ with
          db := s₂.db.withCall ⟨investigationId, toolName, arguments, result, s₂.clock⟩ }) := by
    simp [backend, commitStep, Session.pending, Draft.row, hflush, Session.flushed,
      Session.recording, Session.observing]
  rw [hreply]
  exact h s₂ _ hs

/-- The call of a tool function. -/
lemma wpAmong_invoke_bind {tool : String} {arguments : Json} {f : Unit → Handler β}
    {Q : Except PyException β → Session → Server → Prop}
    (h : ∀ s', Respecting J l s s' → (f ()).wpAmong J Q (l.note (.invoked tool arguments)) s') :
    Handler.wpAmong J (Handler.invoke tool arguments >>= f) Q l s :=
  (Task.wp_bind _ _ _ _ _).mpr h

end Respecting

/-! ## Calls -/

/-- `c.AnswerAt now read v`: the answer of a call that read the clock at `now`. -/
def AcceptedCall.AnswerAt (now : ℤ) : AcceptedCall → List Statement → Json → Prop
  | processConnections a, read, v => ∃ q, read = [q]
      ∧ q.clause = processConnectionsClause a ∧ v = processConnectionsResult a q.rows
  | topNetworkProcesses a, read, v => ∃ q, read = [q]
      ∧ q.clause = recentClause now a.minutes ∧ v = topNetworkProcessesResult a q.rows
  | connectionBursts a, read, v => ∃ q, read = [q]
      ∧ q.clause = recentClause now a.minutes ∧ v = connectionBurstsResult a q.rows
  | unusualDestinations a, read, v => ∃ q q', read = [q, q']
      ∧ q.clause = baselineClause a now ∧ q'.clause = lastHourClause a now
      ∧ v = unusualDestinationsResult a q.rows q'.rows
  | eventTimeline a, read, v => ∃ q, read = [q]
      ∧ q.clause = eventTimelineClause a now ∧ v = eventTimelineResult a q.rows

lemma AcceptedCall.AnswerAt.answer {c : AcceptedCall} {now : ℤ} {read : List Statement} {v : Json}
    (h : c.AnswerAt now read v) : c.Answer read v := by
  cases c with
  | processConnections a => exact h
  | topNetworkProcesses a => exact ⟨now, h⟩
  | connectionBursts a => exact ⟨now, h⟩
  | unusualDestinations a => exact ⟨now, h⟩
  | eventTimeline a => exact ⟨now, h⟩

section Calls

variable (J : Server → Prop)

/-- What was read is the table of a state that satisfies `J`, and is still there. -/
def ReadAmong (read : List Statement) (s : Server) : Prop :=
  ∀ q ∈ read, (∃ s', J s' ∧ q.table = s'.db.connectionEvents)
    ∧ ∀ e ∈ q.table, e ∈ s.db.connectionEvents

/-- What a tool function leaves behind when it returns. -/
def Returned (c : AcceptedCall) (l : Session) (s : Server) (v : Json) (l' : Session) (s' : Server) :
    Prop :=
  Respecting J l s s' ∧ ∃ s₁ read, J s₁ ∧ c.AnswerAt s₁.clock.1 read v ∧ ReadAmong J read s'
    ∧ l' = l.observing (read.map Statement.observation)

/-- What a session read since it was `l₀`, in order. -/
def Collected (l₀ : Session) (s₀ : Server) (read : List Statement) (l : Session) (s : Server) :
    Prop :=
  Respecting J l₀ s₀ s ∧ ReadAmong J read s
    ∧ ∃ observed, l = l₀.observing observed ∧ statementsRead observed = read

variable {J} {l₀ : Session} {s₀ : Server}

lemma ReadAmong.mono {read : List Statement} {l : Session} {s s' : Server}
    (h : ReadAmong J read s) (hs : Interference l s s') : ReadAmong J read s' :=
  fun q hq => ⟨(h q hq).1, fun e he => hs.events e ((h q hq).2 e he)⟩

/-- A tool that sends one statement and formats its rows. -/
lemma readThenFormat_among {c : AcceptedCall} {clause : EventWhere}
    {format : List StoredEvent → Json} {l : Session} {s s₁ : Server} (hl : l.unusable = false)
    (hJ : J s) (hs : Respecting J l s s₁) (hbinds : clause.binds = true)
    (hanswer : ∀ q : Statement, q.clause = clause → c.AnswerAt s₁.clock.1 [q] (format q.rows)) :
    Handler.wpAmong J (do let rows ← Handler.select clause; pure (format rows))
      (Task.outcome (Returned J c l s) fun _ _ _ => False) l s₁ := by
  refine wpAmong_select_bind hl hbinds fun s₂ h₂ => ?_
  have hs₂ := hs.trans h₂ rfl
  refine ⟨hs₂, s₁, [⟨clause, s₂.db.connectionEvents⟩], hs.2 hJ, hanswer _ rfl, ?_, rfl⟩
  intro q hq
  obtain rfl := List.mem_singleton.mp hq
  exact ⟨⟨s₂, hs₂.2 hJ, rfl⟩, fun e he => he⟩

/-- **Every tool function answers at the clock and from the tables of states that satisfy `J`.** -/
theorem function_among {c : AcceptedCall} {l : Session} {s : Server} (hl : l.unusable = false)
    (hJ : J s) (hrange : c.inRange = true) :
    c.function.wpAmong J (Task.outcome (Returned J c l s) fun _ _ _ => False) l s := by
  cases c with
  | processConnections a =>
      exact readThenFormat_among hl hJ (Respecting.refl l s)
        ((processConnectionsClause_binds a).trans hrange) fun q hq => ⟨q, rfl, hq, rfl⟩
  | topNetworkProcesses a =>
      refine wpAmong_now_bind fun s₁ h₁ => ?_
      exact readThenFormat_among hl hJ h₁ (recentClause_binds _ a.minutes.2)
        fun q hq => ⟨q, rfl, hq, rfl⟩
  | connectionBursts a =>
      refine wpAmong_now_bind fun s₁ h₁ => ?_
      exact readThenFormat_among hl hJ h₁ (recentClause_binds _ a.minutes.2)
        fun q hq => ⟨q, rfl, hq, rfl⟩
  | unusualDestinations a =>
      refine wpAmong_now_bind fun s₁ h₁ => ?_
      refine wpAmong_select_bind hl ((baselineClause_binds a _).trans hrange) fun s₂ h₂ => ?_
      refine wpAmong_select_bind hl ((lastHourClause_binds a _).trans hrange) fun s₃ h₃ => ?_
      have hs₂ := h₁.trans h₂ rfl
      have hs₃ := hs₂.trans h₃ rfl
      refine ⟨hs₃, s₁, [⟨baselineClause a s₁.clock, s₂.db.connectionEvents⟩,
        ⟨lastHourClause a s₁.clock, s₃.db.connectionEvents⟩], h₁.2 hJ,
        ⟨_, _, rfl, rfl, rfl, rfl⟩, ?_, ?_⟩
      · intro q hq
        rcases List.mem_pair.mp hq with rfl | rfl
        · exact ⟨⟨s₂, hs₂.2 hJ, rfl⟩, h₃.1.events⟩
        · exact ⟨⟨s₃, hs₃.2 hJ, rfl⟩, fun e he => he⟩
      · simp [Session.note, Statement.observation]
  | eventTimeline a =>
      refine wpAmong_now_bind fun s₁ h₁ => ?_
      exact readThenFormat_among hl hJ h₁ ((eventTimelineClause_binds a _).trans hrange)
        fun q hq => ⟨q, rfl, hq, rfl⟩

/-- A committed audit record. -/
lemma Respecting.withCall (hkept : KeptByCommits J) {l : Session} {s s' : Server}
    (h : Respecting J l s s') (record : AgentToolCall) :
    Respecting J l s { s' with db := s'.db.withCall record } :=
  ⟨⟨h.1.events, fun c hc => List.mem_append_left _ (h.1.calls c hc), h.1.investigations, h.1.own⟩,
    fun hs => hkept s' _ rfl (h.2 hs)⟩

/-- A call that was answered and recorded adds its statements to what was read. -/
lemma Collected.answered (hkept : KeptByCommits J) {read read' : List Statement} {l : Session}
    {s s' : Server} (h : Collected J l₀ s₀ read l s) (hs : Respecting J l s s')
    (hread' : ReadAmong J read' s') (toolName : String) (arguments : Json)
    (record : AgentToolCall) :
    Collected J l₀ s₀ (read ++ read')
      (((l.note (.invoked toolName arguments)).observing
        (read'.map Statement.observation)).recording s'.db record)
      { s' with db := s'.db.withCall record } := by
  obtain ⟨hs₀, hread, observed, rfl, hobserved⟩ := h
  have hreadAll : ReadAmong J (read ++ read') s' := by
    intro q hq
    rcases List.mem_append.mp hq with hq | hq
    · exact hread.mono hs.1 q hq
    · exact hread' q hq
  refine ⟨(hs₀.trans hs rfl).withCall hkept record, hreadAll,
    observed ++ (.invoked toolName arguments :: read'.map Statement.observation
      ++ [.flushed s'.db [.agentToolCall record] none]), ?_, ?_⟩
  · simp [Session.recording, Session.note]
  · rw [statementsRead_append, statementsRead_append, hobserved,
      statementsRead_map _ (.invoked _ _) rfl]
    exact congrArg (read ++ ·) (List.append_nil _)

variable {lib : Libraries} {investigationId : Uuid} {tool : ToolDefinition} {c : AcceptedCall}

/-- A call whose arguments are valid and in range, and that reports no duration, is answered. -/
lemma executeAgentTool_among (hlib : lib.EncodesJson) (hkept : KeptByCommits J) (hJ : J s₀)
    (hl : l₀.Clean) (hid : s₀.db.withId investigationId ≠ []) {toolName : String} {raw : Json}
    (hname : (toolRegistry lib.toPydantic).lookup toolName = some tool)
    (hcall : acceptedCall lib.toPydantic toolName raw = some c)
    (hrange : c.inRange = true) (hdurations : ∀ read, c.reportedDurations read = [])
    {read : List Statement} {l : Session} {s : Server} (h : Collected J l₀ s₀ read l s) :
    (executeAgentTool lib toolName raw investigationId).wpAmong J
      (Task.outcome (fun v l' s' => ∃ s₁ read', J s₁ ∧ c.AnswerAt s₁.clock.1 read' v
          ∧ Collected J l₀ s₀ (read ++ read') l' s')
        fun _ _ _ => False) l s := by
  obtain ⟨a, hraw⟩ : ∃ a, tool.modelValidate raw = some a := by
    refine Option.ne_none_iff_exists'.mp fun hnone => ?_
    rw [acceptedCall_eq_none hname hnone] at hcall
    cases hcall
  obtain ⟨c', hcall', hfunction, hdump⟩ := acceptedCall_eq_some hname hraw
  obtain rfl := Option.some.inj (hcall'.symm.trans hcall)
  obtain ⟨hclean, hown⟩ : l.Clean ∧ l.own = l₀.own := by
    obtain ⟨-, -, observed, rfl, -⟩ := h
    exact ⟨hl.observing observed, rfl⟩
  unfold executeAgentTool
  rw [hname]
  dsimp only
  rw [hraw]
  dsimp only
  rw [hfunction, hdump, encode_arguments c' hlib]
  refine wpAmong_invoke_bind fun s₁ h₁ => ?_
  refine wpAmong_bind_of_ok (function_among hclean.usable (h₁.2 (h.1.2 hJ)) hrange) ?_
  rintro v l₂ s₂ ⟨h₂, s₃, read', hJ₃, hanswer, hread', rfl⟩
  have hs₂ := h₁.trans h₂ rfl
  have hid₂ := (h.1.trans hs₂ hown).1.investigations _ hid
  rw [hanswer.answer.encode hlib]
  refine wpAmong_bind_of_ok (P := fun _ l' s' => ∃ s₁ read', J s₁
    ∧ c'.AnswerAt s₁.clock.1 read' v ∧ Collected J l₀ s₀ (read ++ read') l' s') ?_
    fun _ _ _ h => h
  refine wpAmong_audit ⟨hclean.new, hclean.changed, hclean.usable⟩ hid₂ (fun now => ?_)
    fun s₄ record h₄ => ⟨s₃, read', hJ₃, hanswer, ?_⟩
  · have attempt : Attempt lib toolName raw _ _ v (.ok v) :=
      .answered hname hcall hrange hanswer.answer
    refine (attempt.fits_iff now).mpr ?_
    simp [Auditable, hname, hcall, hrange, hdurations]
  · exact h.answered hkept (hs₂.trans h₄ rfl) (hread'.mono h₄.1) toolName _ record

/-- The round of such a request: its result and its ids are added. -/
lemma executeRequest_among (hlib : lib.EncodesJson) (hkept : KeptByCommits J) (hJ : J s₀)
    (hl : l₀.Clean) (hid : s₀.db.withId investigationId ≠ []) {request : ToolRequest}
    (hname : (toolRegistry lib.toPydantic).lookup request.name = some tool)
    (hcall : acceptedCall lib.toPydantic request.name request.arguments = some c)
    (hrange : c.inRange = true) (hdurations : ∀ read, c.reportedDurations read = [])
    {acc : Finset String × List ToolResult} {read : List Statement} {l : Session} {s : Server}
    (h : Collected J l₀ s₀ read l s) :
    (executeRequest lib investigationId acc request).wpAmong J
      (Task.outcome (fun acc' l' s' => ∃ v s₁ read', J s₁ ∧ c.AnswerAt s₁.clock.1 read' v
          ∧ acc' = (acc.1 ∪ extractToolEventIds v,
            acc.2 ++ [⟨request.callId, request.name, v⟩])
          ∧ Collected J l₀ s₀ (read ++ read') l' s')
        fun _ _ _ => False) l s := by
  refine wpAmong_bind_of_ok
    (executeAgentTool_among hlib hkept hJ hl hid hname hcall hrange hdurations h) ?_
  rintro v l' s' ⟨s₁, read', hJ₁, hanswer, hcollected⟩
  exact ⟨v, s₁, read', hJ₁, hanswer, rfl, hcollected⟩

end Calls

section Requests

variable {py : Pydantic} (hpy : ∀ n, py.int (.int n) = some n) (pid : DemoPid)

include hpy

/-- The PID field of the first and the third request. -/
lemma intAtLeast_pid :
    intAtLeast py 1 "pid" (.obj [("pid", .int pid)]) = some pid.argument := by
  have hpos : (1 : ℤ) ≤ (pid.1 : ℤ) := Int.ofNat_le.mpr pid.2
  simp [intAtLeast, fieldOf, Json.field, checked, hpy, hpos, DemoPid.argument]

lemma acceptedCall_timeline :
    acceptedCall py "get_event_timeline" (.obj [("pid", .int pid)])
      = some (.eventTimeline ⟨pid.argument⟩) := by
  simp [acceptedCall, EventTimelineArguments.validate, onDict, intAtLeast_pid hpy]

lemma acceptedCall_unusual :
    acceptedCall py "find_unusual_destinations" (.obj [("pid", .int pid)])
      = some (.unusualDestinations ⟨pid.argument⟩) := by
  simp [acceptedCall, UnusualDestinationsArguments.validate, onDict, intAtLeast_pid hpy]

omit pid in
lemma acceptedCall_bursts :
    acceptedCall py "find_connection_bursts"
      (.obj [("threshold", .int 100), ("minutes", .int 1440)])
      = some (.connectionBursts demoBursts) := by
  have hminutes : [("threshold", Json.int 100), ("minutes", .int 1440)].lookup "minutes"
    = some (.int 1440) := rfl
  simp [acceptedCall, ConnectionBurstsArguments.validate, onDict, intBetween, fieldOf, Json.field,
    hminutes, checked, hpy, demoBursts]

end Requests

/-! ## The report passes the evidence check -/

namespace MockProvider

lemma mem_evidence {timeline bursts unusual : Json} {x : String} :
    x ∈ evidence timeline bursts unusual
      ↔ x ∈ extractToolEventIds timeline ∪ extractToolEventIds bursts
        ∪ extractToolEventIds unusual := by
  simp only [evidence, List.mem_eraseDups, List.mem_append, Finset.mem_union, mem_extractEventIds]

/-- **A report of the demo provider passes the evidence check** against the results it was made
from, when these hold well-formed ids. -/
theorem validate_reportOn {pid : ℕ} {timeline bursts unusual : Json}
    (hids : ∀ id ∈ evidence timeline bursts unusual, IsEventId id) :
    validateReportEvidence (reportOn pid (evidence timeline bursts unusual))
      (extractToolEventIds timeline ∪ extractToolEventIds bursts
        ∪ extractToolEventIds unusual) = .ok () :=
  validate_reportOn_of_mem hids fun _ => mem_evidence

/-- The provider's answer to three results. -/
lemma continueWithToolResults_three (pid : ℕ) (timeline bursts unusual : ToolResult) :
    continueWithToolResults (some pid) [timeline, bursts, unusual]
      = .ok ⟨some (reportOn pid (evidence timeline.result bursts.result unusual.result)), [],
        some pid⟩ := by
  simp only [continueWithToolResults, List.flatMap_cons, List.flatMap_nil, List.append_nil,
    ← List.append_assoc]
  rfl

lemma append_ne_empty {s : String} (hs : s ≠ "") (t : String) : s ++ t ≠ "" := by
  intro h
  have hlist := congrArg String.toList h
  rw [String.toList_append, String.toList_empty, List.append_eq_nil_iff] at hlist
  exact hs (String.toList_inj.mp (hlist.1.trans String.toList_empty.symm))

lemma reportOn_ne_empty (pid : ℕ) (ids : List String) : reportOn pid ids ≠ "" := by
  rw [reportOn]
  split_ifs
  · unfold emptyReport
    exact append_ne_empty (append_ne_empty (by decide) _) _
  · unfold report
    simp only [String.append_assoc]
    exact append_ne_empty (by decide) _

end MockProvider

/-! ## Whole runs -/

section Runs

variable {J : Server → Prop} {lib : Libraries} {investigationId : Uuid} {l₀ : Session}
  {s₀ : Server}

/-- The instants at which a reading was made. -/
def DemoReading.instants (r : DemoReading) : List ℤ := [r.timelineAt, r.burstsAt, r.unusualAt]

variable (J) in
/-- What a run of the demo investigation comes to: it returns the report on what it read, at the
clock and from the tables of states that satisfy `J`. -/
def DemoOutcome (pid : DemoPid) (l₀ : Session) (s₀ : Server) (r : Except PyException String)
    (l : Session) (s : Server) : Prop :=
  ∃ reading : DemoReading, r = .ok (reading.report pid)
    ∧ (∀ t ∈ reading.instants, ∃ s, J s ∧ s.clock.1 = t)
    ∧ Collected J l₀ s₀ (reading.statements pid) l s

/-- The last round: a report that passes the check is returned. -/
lemma agentLoop_report {provider : LLMProvider} {rounds : ℕ} {allowed : Finset String}
    {report : String} {state : provider.State} {l : Session} {s : Server}
    {Q : Except PyException String → Session → Server → Prop} (hnonempty : report ≠ "")
    (hvalid : validateReportEvidence report allowed = .ok ()) (hQ : Q (.ok report) l s) :
    (agentLoop lib investigationId provider (rounds + 1) allowed
      ⟨some report, [], state⟩).wpAmong J Q l s := by
  have htext : reportText (some report) = .ok report := if_neg hnonempty
  rw [agentLoop]
  exact wpAmong_ofExcept_bind htext (wpAmong_ofExcept_bind hvalid hQ)

/-- The first round: three calls, three answers. -/
lemma demo_calls (hlib : lib.EncodesJson) (hpy : ∀ n, lib.int (.int n) = some n)
    (hkept : KeptByCommits J)
    (hJ : J s₀) (hl : l₀.Clean) (hid : s₀.db.withId investigationId ≠ []) {pid : DemoPid}
    (hpid : pid.1 < 2147483648) :
    Handler.wpAmong J
      ((MockProvider.toolRequests pid).foldlM (executeRequest lib investigationId) (∅, []))
      (Task.outcome (fun acc l s => ∃ reading : DemoReading,
          acc = (extractToolEventIds (reading.timelineResult pid)
              ∪ extractToolEventIds reading.burstsResult
              ∪ extractToolEventIds (reading.unusualResult pid),
            [⟨"mock-timeline", "get_event_timeline", reading.timelineResult pid⟩,
              ⟨"mock-bursts", "find_connection_bursts", reading.burstsResult⟩,
              ⟨"mock-unusual", "find_unusual_destinations", reading.unusualResult pid⟩])
          ∧ (∀ t ∈ reading.instants, ∃ s, J s ∧ s.clock.1 = t)
          ∧ Collected J l₀ s₀ (reading.statements pid) l s)
        fun _ _ _ => False) l₀ s₀ := by
  have hint : int4 pid.argument = true := by
    have hpos := pid.2
    simp [int4, DemoPid.argument]
    omega
  have htimeline : (AcceptedCall.eventTimeline ⟨pid.argument⟩).inRange = true := hint
  have hunusual : (AcceptedCall.unusualDestinations ⟨pid.argument⟩).inRange = true := hint
  have hempty : Collected J l₀ s₀ [] l₀ s₀ :=
    ⟨Respecting.refl l₀ s₀, by simp [ReadAmong], [], by simp, rfl⟩
  rw [MockProvider.toolRequests, List.foldlM_cons]
  refine wpAmong_bind_of_ok (executeRequest_among hlib hkept hJ hl hid rfl
    (acceptedCall_timeline hpy pid) htimeline (fun _ => rfl) hempty) ?_
  rintro acc₁ l₁ s₁ ⟨_, t₁, _, hJ₁, ⟨q₁, rfl, hq₁, rfl⟩, rfl, h₁⟩
  rw [List.foldlM_cons]
  refine wpAmong_bind_of_ok (executeRequest_among hlib hkept hJ hl hid rfl
    (acceptedCall_bursts hpy) rfl (fun _ => rfl) h₁) ?_
  rintro acc₂ l₂ s₂ ⟨_, t₂, _, hJ₂, ⟨q₂, rfl, hq₂, rfl⟩, rfl, h₂⟩
  rw [List.foldlM_cons]
  refine wpAmong_bind_of_ok (executeRequest_among hlib hkept hJ hl hid rfl
    (acceptedCall_unusual hpy pid) hunusual (fun _ => rfl) h₂) ?_
  rintro acc₃ l₃ s₃ ⟨_, t₃, _, hJ₃, ⟨q₃, q₄, rfl, hq₃, hq₄, rfl⟩, rfl, h₃⟩
  obtain ⟨clause₁, timeline⟩ := q₁
  obtain ⟨clause₂, bursts⟩ := q₂
  obtain ⟨clause₃, baseline⟩ := q₃
  obtain ⟨clause₄, recent⟩ := q₄
  obtain ⟨rfl, rfl, rfl, rfl⟩ : clause₁ = _ ∧ clause₂ = _ ∧ clause₃ = _ ∧ clause₄ = _ :=
    ⟨hq₁, hq₂, hq₃, hq₄⟩
  refine ⟨⟨t₁.clock, t₂.clock, t₃.clock, timeline, bursts, baseline, recent⟩, ?_, ?_, h₃⟩
  · simp only [Finset.empty_union, List.nil_append, List.cons_append]
    rfl
  · simp only [DemoReading.instants, List.forall_mem_cons, List.not_mem_nil, IsEmpty.forall_iff,
      implies_true, and_true]
    exact ⟨⟨t₁, hJ₁, rfl⟩, ⟨t₂, hJ₂, rfl⟩, ⟨t₃, hJ₃, rfl⟩⟩

/-- **A demo investigation returns the report on what it read**, over all interleavings with other
requests that keep `J`. -/
theorem demo_spec (hlib : lib.EncodesJson) (hpy : ∀ n, lib.int (.int n) = some n)
    (hkept : KeptByCommits J)
    (hJ : J s₀) (hl : l₀.Clean) (hid : s₀.db.withId investigationId ≠ []) {u : Unicode}
    {question : String} {pid : DemoPid}
    (hquestion : MockProvider.pidOf u question = some pid.1) (hpid : pid.1 < 2147483648)
    (env : Environment) :
    (runInvestigationAgent lib investigationId u env question (some (MockProvider u))).wpAmong J
      (DemoOutcome J pid l₀ s₀) l₀ s₀ := by
  have hstart : (MockProvider u).start question
      = .ok ⟨none, MockProvider.toolRequests pid, some pid.1⟩ := by
    simp [MockProvider, MockProvider.start, hquestion]
  refine wpAmong_ofExcept_bind hstart ?_
  change Handler.wpAmong J (agentLoop lib investigationId (MockProvider u) (7 + 1) ∅ _) _ l₀ s₀
  rw [agentLoop]
  refine wpAmong_bind_of_ok (demo_calls hlib hpy hkept hJ hl hid hpid) ?_
  rintro acc l s ⟨reading, hacc, hinstants, hcollected⟩
  have hids : ∀ id ∈ reading.ids pid, IsEventId id := by
    intro id hid
    obtain ⟨q, -, e, -, rfl⟩ := DemoReading.row_of_mem_ids hid
    exact isEventId_str e.id
  have hresponse : (MockProvider u).continueWithToolResults (some pid.1)
      [⟨"mock-timeline", "get_event_timeline", reading.timelineResult pid⟩,
        ⟨"mock-bursts", "find_connection_bursts", reading.burstsResult⟩,
        ⟨"mock-unusual", "find_unusual_destinations", reading.unusualResult pid⟩]
      = .ok ⟨some (reading.report pid), [], some pid.1⟩ :=
    MockProvider.continueWithToolResults_three pid.1 _ _ _
  have hnonempty : reading.report pid ≠ "" := MockProvider.reportOn_ne_empty _ _
  have hvalid : validateReportEvidence (reading.report pid) _ = .ok () :=
    MockProvider.validate_reportOn hids
  -- the text of the report plays no part in what follows
  generalize hreport : reading.report pid = report at hresponse hnonempty hvalid
  have houtcome : DemoOutcome J pid l₀ s₀ (.ok report) l s :=
    ⟨reading, by rw [hreport], hinstants, hcollected⟩
  rw [hacc]
  exact wpAmong_ofExcept_bind hresponse (agentLoop_report hnonempty hvalid houtcome)

/-- The primary key, among the assertions that commits keep. -/
def KeyedServer (s : Server) : Prop := Keyed s.db.connectionEvents

lemma keptByCommits_keyedServer : KeptByCommits KeyedServer := by
  intro s db hdb hs
  rw [KeyedServer] at hs ⊢
  rwa [hdb]

/-- **When the demo report is rightly attributed.**  Among requests that keep the primary key, the
investigation of a PID returns the report on what it read, and the report is rightly attributed
exactly when its evidence is the process's own: on a table that nobody changes, when the process has
three events in its timeline or no other process has a burst. -/
theorem demoReport_rightlyAttributed_iff (hlib : lib.EncodesJson)
    (hpy : ∀ n, lib.int (.int n) = some n) (hkeyed : Keyed s₀.db.connectionEvents) (hl : l₀.Clean)
    (hid : s₀.db.withId investigationId ≠ []) {u : Unicode} {question : String} {pid : DemoPid}
    (hquestion : MockProvider.pidOf u question = some pid.1) (hpid : pid.1 < 2147483648)
    {env : Environment} {o : Except PyException String × Session × Server}
    (ho : Task.Reaches backend (Respecting KeyedServer)
      (runInvestigationAgent lib investigationId u env question (some (MockProvider u))) l₀ s₀ o) :
    ∃ r : DemoReading, o.1 = .ok (r.report pid)
      ∧ statementsRead (observedSince l₀ o.2.1) = r.statements pid
      ∧ (RightlyAttributed pid o.2.2.db.connectionEvents (r.statements pid) (r.report pid)
        ↔ r.OwnEvidence pid)
      ∧ (r.timeline.Perm r.bursts → r.timelineAt ≤ r.burstsAt →
        (r.OwnEvidence pid ↔ 3 ≤ (r.timelineStatement pid).rows.length
          ∨ ∀ other processName, CalendarBurst r.bursts r.burstsAt 1440 100 other processName →
            other = pid)) := by
  have h := Task.wp_iff_forall_reaches.mp (demo_spec hlib hpy keptByCommits_keyedServer hkeyed hl
    hid hquestion hpid env) o ho
  obtain ⟨r, hreport, -, hs, hread, observed, hlog, hstatements⟩ := h
  refine ⟨r, hreport, ?_, ?_, fun htable hclock => DemoReading.ownEvidence_iff htable hclock⟩
  · rw [hlog, observedSince_observing, hstatements]
  · refine DemoReading.rightlyAttributed_iff (hs.2 hkeyed) (fun q hq => ?_) fun q hq => (hread q hq).2
    obtain ⟨s', hkeyed', htable⟩ := (hread q hq).1
    exact htable ▸ hkeyed'

end Runs

/-- The demo investigation of PID 42. -/
def demoAgent : Handler String :=
  runInvestigationAgent .strict 7 .ascii ⟨none, .error .database, .error .database⟩ "PID 42?"
    (some (MockProvider .ascii))

lemma one_le_demoPid : 1 ≤ 42 := by norm_num

/-- PID 42. -/
def DemoPid.sample : DemoPid := ⟨42, one_le_demoPid⟩

lemma pidOf_sample : MockProvider.pidOf .ascii "PID 42?" = some DemoPid.sample.1 := by decide +kernel

theorem demoReport_rightlyAttributed_iff_sample :
    ∃ o, Task.Reaches backend (Respecting KeyedServer) demoAgent {} sampleServer o
      ∧ ∃ r : DemoReading, o.1 = .ok (r.report .sample)
        ∧ (RightlyAttributed 42 o.2.2.db.connectionEvents (r.statements .sample) (r.report .sample)
          ↔ r.OwnEvidence .sample) := by
  have hkeyed : Keyed sampleServer.db.connectionEvents := List.nodup_singleton _
  obtain ⟨o, ho⟩ : ∃ o, Task.Reaches backend (Respecting KeyedServer) demoAgent {} sampleServer o :=
    ⟨_, Task.reaches_run Respecting.refl demoAgent {} sampleServer⟩
  obtain ⟨r, hreport, -, hiff, -⟩ := demoReport_rightlyAttributed_iff Libraries.strict_encodesJson
    (fun _ => rfl) hkeyed ⟨rfl, rfl, rfl⟩ (by decide) pidOf_sample (by decide) ho
  exact ⟨o, ho, r, hreport, hiff⟩

/-- 101 connections of PID 7 in one minute, and none of PID 42. -/
def floodOfSeven : List StoredEvent :=
  (List.range 101).map fun i =>
    .curl (BitVec.ofNat 128 i) 7 1699999990000000 int4_seven representable_recent

/-- A server that holds them. -/
def floodedServer : Server :=
  let server := Server.investigating 7
  { server with db := { server.db with connectionEvents := floodOfSeven } }

lemma pid_floodOfSeven {e : StoredEvent} (he : e ∈ floodOfSeven) : e.pid = 7 := by
  obtain ⟨i, -, rfl⟩ := List.mem_map.mp he
  rfl

lemma keyed_floodOfSeven : Keyed floodOfSeven := by
  have hids : floodOfSeven.map (fun e => e.id) = (List.range 101).map (BitVec.ofNat 128) := by
    simp [floodOfSeven, StoredEvent.curl, Function.comp_def]
  rw [Keyed, hids]
  refine List.Nodup.map_on (fun i hi j hj h => ?_) List.nodup_range
  have hlt := List.mem_range.mp hi
  have hlt' := List.mem_range.mp hj
  have hval := congrArg BitVec.toNat h
  simp only [BitVec.toNat_ofNat] at hval
  omega

lemma calendarBurst_floodOfSeven :
    CalendarBurst floodOfSeven Clock.sample 1440 100 7 "curl" := by
  have hwindow : Clock.sample.1 - minutes 1440 ≤ 1699999990000000 := by decide
  refine ⟨startOfMinute 1699999990000000, ?_⟩
  rw [eventsInMinute, List.filter_eq_self.mpr]
  · simp [floodOfSeven]
  · intro e he
    obtain ⟨i, -, rfl⟩ := List.mem_map.mp he
    exact decide_eq_true ⟨hwindow, rfl, rfl, rfl⟩

/-- On that table the evidence for a report on PID 42 is not its own. -/
lemma not_ownEvidence_flooded {r : DemoReading} (hinstants : ∀ t ∈ r.instants, t = Clock.sample.1)
    (hread : ∀ q ∈ r.statements .sample, q.table = floodOfSeven) : ¬ r.OwnEvidence .sample := by
  have htimeline : r.timeline = floodOfSeven :=
    hread (r.timelineStatement .sample) (by simp [DemoReading.statements])
  have hbursts : r.bursts = floodOfSeven :=
    hread r.burstsStatement (by simp [DemoReading.statements])
  have hfirst : r.timelineAt = Clock.sample.1 := hinstants _ (by simp [DemoReading.instants])
  have hsecond : r.burstsAt = Clock.sample.1 := hinstants _ (by simp [DemoReading.instants])
  rw [DemoReading.ownEvidence_iff (by rw [htimeline, hbursts]) (by rw [hfirst, hsecond]), hbursts,
    hsecond]
  rintro (hmany | hnone)
  · have hrows : (r.timelineStatement .sample).rows = [] := by
      refine List.eq_nil_iff_forall_not_mem.mpr fun e he => ?_
      have hown : e.pid = 42 := DemoReading.pid_of_mem_rows rfl he
      have hmem : e ∈ r.timeline := List.mem_of_mem_filter he
      rw [htimeline] at hmem
      rw [pid_floodOfSeven hmem] at hown
      cases hown
    rw [hrows] at hmany
    cases hmany
  · cases hnone 7 "curl" calendarBurst_floodOfSeven

/-- The report on PID 42 cites events of PID 7. -/
theorem not_rightlyAttributed_flooded :
    ∃ o, Task.Reaches backend (Respecting KeyedServer) demoAgent {} floodedServer o
      ∧ ∃ report, o.1 = .ok report
        ∧ ¬ RightlyAttributed 42 o.2.2.db.connectionEvents
          (statementsRead (observedSince {} o.2.1)) report := by
  have hkept : KeptByCommits fun s => s.db.connectionEvents = floodOfSeven ∧ s.clock = .sample :=
    fun s db hdb hs => ⟨hdb.trans hs.1, hs.2⟩
  obtain ⟨o, ho, hundisturbed⟩ : ∃ o,
      Task.Reaches backend (Respecting KeyedServer) demoAgent {} floodedServer o
        ∧ Task.Reaches backend (Respecting _) demoAgent {} floodedServer o :=
    ⟨_, Task.reaches_run Respecting.refl demoAgent {} floodedServer,
      Task.reaches_run Respecting.refl demoAgent {} floodedServer⟩
  have h := Task.wp_iff_forall_reaches.mp (demo_spec Libraries.strict_encodesJson (fun _ => rfl) hkept
    ⟨rfl, rfl⟩ ⟨rfl, rfl, rfl⟩ (by decide) pidOf_sample (by decide) _) o hundisturbed
  obtain ⟨r, hreport, hinstants, hs, hread, observed, hlog, hstatements⟩ := h
  have hfinal : o.2.2.db.connectionEvents = floodOfSeven := (hs.2 ⟨rfl, rfl⟩).1
  have htables : ∀ q ∈ r.statements .sample, q.table = floodOfSeven := by
    intro q hq
    obtain ⟨s, hs, htable⟩ := (hread q hq).1
    exact htable.trans hs.1
  have hclocks : ∀ t ∈ r.instants, t = Clock.sample.1 := by
    intro t ht
    obtain ⟨s, hs, rfl⟩ := hinstants t ht
    rw [hs.2]
  refine ⟨o, ho, _, hreport, ?_⟩
  rw [hlog, observedSince_observing, hstatements, hfinal]
  refine fun h => not_ownEvidence_flooded hclocks htables
    ((DemoReading.rightlyAttributed_iff keyed_floodOfSeven (fun q hq => ?_) fun q hq => ?_).mp h)
  · rw [htables q hq]
    exact keyed_floodOfSeven
  · rw [htables q hq]
    exact fun e he => he

end TracePilot
