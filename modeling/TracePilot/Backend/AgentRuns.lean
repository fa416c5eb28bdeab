import TracePilot.Backend.AuditTrail
import TracePilot.Backend.Evidence

/-!
# Runs of the investigation agent

The agent's session observes one block per answered call: the tool was invoked, its statements
were read, its record was committed.  `AnsweredCall` is such a block, and the invariant of the
agent loop says that the session has observed nothing but blocks, and that the allowed ids are
exactly the ids in their recorded results.

* **`agent_spec`** — what is left of a session when the agent returns or raises, over all
  interleavings and for every provider.
* **`report_evidence`** — every id a returned report cites is backed by a row that a tool read in
  the same run and by a committed record, and evidence that was found is cited.
-/

namespace TracePilot

open Resumption

/-! ## Answered calls -/

/-- A call that was answered and recorded. -/
structure AnsweredCall where
  toolName : String
  call : AcceptedCall
  read : List Statement
  /-- the database its record was added to -/
  db : Database
  record : AgentToolCall

namespace AnsweredCall

/-- What the session observed of the call. -/
def observed (py : Pydantic) (c : AnsweredCall) : List Observation :=
  .invoked c.toolName (c.call.arguments py) :: c.read.map Statement.observation
    ++ [.flushed c.db [.agentToolCall c.record] none]

/-- The ids in the recorded result. -/
def ids (c : AnsweredCall) : Finset String := extractToolEventIds c.record.result

/-- The call was made to a registered tool for this investigation, its record is committed, and
the ids in the record belong to rows that its statements returned. -/
structure Supported (py : Pydantic) (investigationId : Uuid) (c : AnsweredCall) (s : Server) :
    Prop where
  registered : c.toolName ∈ (toolRegistry py).map Prod.fst
  investigation : c.record.investigationId = investigationId
  name : c.record.toolName = c.toolName
  flushed : (c.db.flush [.agentToolCall c.record] none).isSome = true
  committed : c.record ∈ s.db.agentToolCalls
  rows : ∀ x ∈ c.ids, ∃ q ∈ c.read, ∃ e ∈ q.rows, e.id.str = x
  stored : ∀ q ∈ c.read, ∀ e ∈ q.table, e ∈ s.db.connectionEvents

lemma Supported.mono {py : Pydantic} {investigationId : Uuid} {c : AnsweredCall} {l : Session}
    {s s' : Server} (h : c.Supported py investigationId s) (hs : Interference l s s') :
    c.Supported py investigationId s' :=
  { h with
    committed := hs.calls _ h.committed
    stored := fun q hq e he => hs.events e (h.stored q hq e he) }

end AnsweredCall

/-- The ids that a list of calls has returned. -/
def idsOf (calls : List AnsweredCall) : Finset String :=
  calls.foldr (fun c ids => c.ids ∪ ids) ∅

lemma mem_idsOf {calls : List AnsweredCall} {x : String} :
    x ∈ idsOf calls ↔ ∃ c ∈ calls, x ∈ c.ids := by
  induction calls with
  | nil => simp [idsOf]
  | cons c calls ih =>
      rw [idsOf, List.foldr_cons, Finset.mem_union, ← idsOf, ih]
      simp only [List.mem_cons, exists_eq_or_imp]

lemma idsOf_append (calls : List AnsweredCall) (c : AnsweredCall) :
    idsOf (calls ++ [c]) = idsOf calls ∪ c.ids := by
  ext x
  simp only [mem_idsOf, Finset.mem_union, List.mem_append, List.mem_singleton, or_and_right,
    exists_or, exists_eq_left]

/-- A flush that the database accepts.  Other observations are not flushes. -/
def Observation.accepted : Observation → Bool
  | .flushed db rows changed => (db.flush rows changed).isSome
  | _ => true

/-! ## The loop -/

section AgentRuns

variable (lib : Libraries) (investigationId : Uuid) (l₀ : Session) (s₀ : Server)

/-- **The invariant of the agent loop.**  Since `l₀` the session has observed nothing but
answered calls, each supported by what it read and committed, and the allowed ids are theirs. -/
def AgentInvariant (allowed : Finset String) (l : Session) (s : Server) : Prop :=
  Interference l₀ s₀ s ∧ ∃ calls : List AnsweredCall,
    l = l₀.observing (calls.flatMap (AnsweredCall.observed lib.toPydantic))
    ∧ (∀ c ∈ calls, c.Supported lib.toPydantic investigationId s) ∧ allowed = idsOf calls

/-- What the agent leaves behind when it raises: every flush was accepted and the session is
still clean, or the last one was refused and the session is unusable. -/
def AgentFailure (l : Session) (s : Server) : Prop :=
  Interference l₀ s₀ s ∧ l.own = l₀.own ∧ ∃ observed, l.log = l₀.log ++ observed
    ∧ (l.Clean ∧ (∀ o ∈ observed, o.accepted = true)
      ∨ l.unusable = true ∧ ∃ o ∈ observed, o.accepted = false)

/-- What a run of the agent comes to. -/
def AgentOutcome : Except PyException String → Session → Server → Prop
  | .ok report, l, s => ∃ allowed, AgentInvariant lib investigationId l₀ s₀ allowed l s
      ∧ validateReportEvidence report allowed = .ok ()
  | .error _, l, s => AgentFailure l₀ s₀ l s

variable {lib investigationId l₀ s₀}

lemma accepted_observed {py : Pydantic} {calls : List AnsweredCall} {s : Server}
    (h : ∀ c ∈ calls, c.Supported py investigationId s) :
    ∀ o ∈ calls.flatMap (AnsweredCall.observed py), o.accepted = true := by
  intro o ho
  obtain ⟨c, hc, ho⟩ := List.mem_flatMap.mp ho
  simp only [AnsweredCall.observed, List.cons_append, List.mem_cons, List.mem_append,
    List.mem_map, List.not_mem_nil, or_false] at ho
  rcases ho with rfl | ⟨q, -, rfl⟩ | rfl
  · rfl
  · rfl
  · exact (h c hc).flushed

/-- A call that fails after the invariant held fails the run. -/
lemma AgentInvariant.failure {allowed : Finset String} {l l' : Session} {s s' : Server}
    (h : AgentInvariant lib investigationId l₀ s₀ allowed l s) (h' : AgentFailure l s l' s') :
    AgentFailure l₀ s₀ l' s' := by
  obtain ⟨hs, calls, rfl, hcalls, -⟩ := h
  obtain ⟨hs', hown, observed, hlog, hend⟩ := h'
  have hbefore := accepted_observed hcalls
  refine ⟨hs.trans hs' rfl, hown, _, hlog.trans (List.append_assoc _ _ _), ?_⟩
  rcases hend with ⟨hclean, hafter⟩ | ⟨hbroken, o, ho, hrefused⟩
  · refine Or.inl ⟨hclean, fun o ho => ?_⟩
    rcases List.mem_append.mp ho with ho | ho
    · exact hbefore o ho
    · exact hafter o ho
  · exact Or.inr ⟨hbroken, o, List.mem_append_right _ ho, hrefused⟩

/-- Raising without another operation. -/
lemma AgentFailure.refl {l : Session} (hl : l.Clean) (s : Server) : AgentFailure l s l s :=
  ⟨Interference.refl l s, rfl, [], by simp, Or.inl ⟨hl, by simp⟩⟩

lemma AgentInvariant.clean {allowed : Finset String} {l : Session} {s : Server}
    (h : AgentInvariant lib investigationId l₀ s₀ allowed l s) (hl : l₀.Clean) : l.Clean := by
  obtain ⟨-, calls, rfl, -⟩ := h
  exact hl.observing _

/-- What an attempt observed before its record holds no flush. -/
lemma Attempt.accepted {toolName : String} {raw arguments result : Json}
    {observed : List Observation} {reply : Except PyException Json}
    (attempt : Attempt lib toolName raw observed arguments result reply) :
    ∀ o ∈ observed, o.accepted = true := by
  cases attempt with
  | unknownTool hname => simp
  | rejectedArguments hname hraw => simp
  | answered hname hcall hrange hanswer =>
      intro o ho
      rcases List.mem_cons.mp ho with rfl | ho
      · rfl
      · obtain ⟨q, -, rfl⟩ := List.mem_map.mp ho
        rfl

section Call

variable {toolName : String} {raw : Json} {l l' : Session} {s s' : Server}

/-- A call that replied with a value is an answered call. -/
lemma CallOutcome.answered {v : Json}
    (h : CallOutcome lib toolName raw investigationId l s (.ok v) l' s')
    (hid : s.db.withId investigationId ≠ []) :
    Interference l s s' ∧ ∃ c : AnsweredCall, l' = l.observing (c.observed lib.toPydantic)
      ∧ c.Supported lib.toPydantic investigationId s' ∧ c.ids = extractToolEventIds v := by
  cases h with
  | @recorded _ _ _ _ s₁ record attempt hs hread hrecord fits =>
      cases attempt with
      | @answered tool call read _ hname hcall hrange hanswer =>
          have hid₁ : s₁.db.withId record.investigationId ≠ [] := by
            rw [hrecord]
            exact hs.investigations _ hid
          refine ⟨⟨hs.events, fun c hc => List.mem_append_left _ (hs.calls c hc),
            hs.investigations, hs.own⟩, ⟨toolName, call, read, s₁.db, record⟩, ?_, ?_, ?_⟩
          · simp [AnsweredCall.observed, Session.recording]
          · refine ⟨?_, by rw [hrecord], by rw [hrecord], ?_, ?_, ?_, ?_⟩
            · rcases lookup_toolRegistry hname with
                ⟨h, -⟩ | ⟨h, -⟩ | ⟨h, -⟩ | ⟨h, -⟩ | ⟨h, -⟩ <;> simp [h, toolRegistry]
            · rw [Database.flush_agentToolCall, if_pos ⟨fits, hid₁⟩]
              rfl
            · exact List.mem_append_right _ (List.mem_singleton_self record)
            · intro x hx
              rw [AnsweredCall.ids, hrecord] at hx
              exact hanswer.ids hx
            · intro q hq
              exact hread q.clause q.table (List.mem_cons_of_mem _ (List.mem_map_of_mem hq))
          · rw [AnsweredCall.ids, hrecord]

/-- A call that raised left the session clean, or unusable after a refused flush. -/
lemma CallOutcome.failure {e : PyException}
    (h : CallOutcome lib toolName raw investigationId l s (.error e) l' s') (hl : l.Clean)
    (hid : s.db.withId investigationId ≠ []) : AgentFailure l s l' s' := by
  cases h with
  | @recorded observed _ _ _ s₁ record attempt hs hread hrecord fits =>
      have hid₁ : s₁.db.withId record.investigationId ≠ [] := by
        rw [hrecord]
        exact hs.investigations _ hid
      refine ⟨⟨hs.events, fun c hc => List.mem_append_left _ (hs.calls c hc),
        hs.investigations, hs.own⟩, rfl,
        observed ++ [.flushed s₁.db [.agentToolCall record] none],
        by simp, Or.inl ⟨⟨hl.new, hl.changed, hl.usable⟩, ?_⟩⟩
      intro o ho
      rcases List.mem_append.mp ho with ho | ho
      · exact attempt.accepted o ho
      · rw [List.mem_singleton.mp ho, Observation.accepted, Database.flush_agentToolCall,
          if_pos ⟨fits, hid₁⟩]
        rfl
  | @refused observed _ _ _ _ record attempt hs hrecord unfit =>
      refine ⟨hs, rfl, observed ++ [.flushed s'.db [.agentToolCall record] none],
        by simp, Or.inr ⟨rfl, _, List.mem_append_right _ (List.mem_singleton_self _), ?_⟩⟩
      rw [Observation.accepted, Database.flush_agentToolCall, if_neg (by simp [unfit])]
      rfl
  | queryFailed hname hcall hrange hs =>
      exact ⟨hs, rfl, _, rfl, Or.inl ⟨hl.observing _, by simp [Observation.accepted]⟩⟩

end Call

/-- One request keeps the invariant, or fails the run. -/
lemma executeRequest_spec (hlib : lib.EncodesJson) (hl : l₀.Clean)
    (hid : s₀.db.withId investigationId ≠ []) (request : ToolRequest)
    {acc : Finset String × List ToolResult} {l : Session} {s : Server}
    (h : AgentInvariant lib investigationId l₀ s₀ acc.1 l s) :
    (executeRequest lib investigationId acc request).wp
      (Task.outcome (fun acc => AgentInvariant lib investigationId l₀ s₀ acc.1)
        fun _ => AgentFailure l₀ s₀) l s := by
  have hid' := h.1.investigations _ hid
  refine Handler.wp_bind.mpr
    (Handler.wp_mono (executeAgentTool_spec hlib (h.clean hl) hid') ?_)
  intro reply l' s' hreply
  cases reply with
  | error e => exact h.failure (hreply.failure (h.clean hl) hid')
  | ok v =>
      obtain ⟨hs', c, rfl, hc, hids⟩ := hreply.answered hid'
      obtain ⟨hs, calls, rfl, hcalls, hallowed⟩ := h
      refine ⟨hs.trans hs' rfl, calls ++ [c], ?_, ?_, ?_⟩
      · simp
      · intro c' hc'
        rcases List.mem_append.mp hc' with hc' | hc'
        · exact (hcalls c' hc').mono hs'
        · rw [List.mem_singleton.mp hc']
          exact hc
      · rw [idsOf_append, hids, ← hallowed]

/-- The loop over rounds: the induction is on the rounds left, and every round keeps the
invariant by the loop rule for its requests. -/
lemma agentLoop_spec (hlib : lib.EncodesJson) (hl : l₀.Clean)
    (hid : s₀.db.withId investigationId ≠ []) (provider : LLMProvider) (rounds : ℕ) :
    ∀ (allowed : Finset String) (response : ProviderResponse provider.State) (l : Session)
      (s : Server), AgentInvariant lib investigationId l₀ s₀ allowed l s →
      (agentLoop lib investigationId provider rounds allowed response).wp
        (AgentOutcome lib investigationId l₀ s₀) l s := by
  induction rounds with
  | zero =>
      intro allowed response l s h
      exact h.failure (AgentFailure.refl (h.clean hl) s)
  | succ rounds ih =>
      intro allowed response l s h
      have hraise := h.failure (AgentFailure.refl (h.clean hl) s)
      rw [agentLoop]
      cases hrequests : response.toolRequests with
      | nil =>
          cases hreport : reportText response.text with
          | error e => exact hraise
          | ok report =>
              refine Handler.wp_bind.mpr (Handler.wp_bind.mpr ?_)
              change Task.outcome _ _ (validateReportEvidence report allowed) l s
              cases hvalid : validateReportEvidence report allowed with
              | error e => exact hraise
              | ok u => exact ⟨allowed, h, hvalid⟩
      | cons request requests =>
          refine Handler.wp_bind.mpr (Handler.wp_mono (Task.wp_foldlM _
            (fun acc => AgentInvariant lib investigationId l₀ s₀ acc.1)
            (fun _ => AgentFailure l₀ s₀) _
            (fun r _ acc l s => executeRequest_spec hlib hl hid r) (allowed, []) l s h) ?_)
          intro r l' s' hr
          cases r with
          | error e => exact hr
          | ok acc =>
              have hraise' := AgentInvariant.failure hr (AgentFailure.refl (hr.clean hl) s')
              refine Handler.wp_bind.mpr ?_
              change Task.outcome _ _ (provider.continueWithToolResults response.state acc.2) l' s'
              cases provider.continueWithToolResults response.state acc.2 with
              | error e => exact hraise'
              | ok response' => exact ih acc.1 response' l' s' hr

/-- **What a run of the agent comes to**, over all interleavings and for every provider. -/
theorem agent_spec (hlib : lib.EncodesJson) (hl : l₀.Clean)
    (hid : s₀.db.withId investigationId ≠ []) (u : Unicode) (env : Environment)
    (question : String) (provider : Option LLMProvider) :
    (runInvestigationAgent lib investigationId u env question provider).wp
      (AgentOutcome lib investigationId l₀ s₀) l₀ s₀ := by
  have hstart : AgentInvariant lib investigationId l₀ s₀ ∅ l₀ s₀ :=
    ⟨Interference.refl l₀ s₀, [], by simp, by simp, rfl⟩
  have hraise := AgentFailure.refl hl s₀
  unfold runInvestigationAgent
  cases (provider.map Except.ok).getD (createLlmProvider u env) with
  | error e => exact hraise
  | ok provider =>
      refine Handler.wp_bind.mpr ?_
      change Task.outcome _ _ (provider.start question) l₀ s₀
      cases provider.start question with
      | error e => exact hraise
      | ok response => exact agentLoop_spec hlib hl hid provider maximumRounds ∅ response _ _ hstart

end AgentRuns

/-! ## Reports -/

/-- What backs the id `x` in a report: a call of a registered tool in this run, a row in the
table that one of its statements matched, and the committed record of the call. -/
structure AnsweredCall.Backs (py : Pydantic) (investigationId : Uuid) (s : Server) (x : String)
    (c : AnsweredCall) : Prop where
  registered : c.toolName ∈ (toolRegistry py).map Prod.fst
  row : ∃ q ∈ c.read, ∃ e ∈ s.db.connectionEvents,
    e ∈ q.table ∧ q.clause.holds e = true ∧ e.id.str = x
  record : c.record ∈ s.db.agentToolCalls ∧ c.record.investigationId = investigationId
    ∧ c.record.toolName = c.toolName ∧ x ∈ extractToolEventIds c.record.result

lemma AnsweredCall.Supported.backs {py : Pydantic} {investigationId : Uuid} {c : AnsweredCall}
    {s : Server} (h : c.Supported py investigationId s) {x : String} (hx : x ∈ c.ids) :
    c.Backs py investigationId s x := by
  obtain ⟨q, hq, e, he, hex⟩ := h.rows x hx
  obtain ⟨htable, hholds⟩ := List.mem_filter.mp he
  exact ⟨h.registered, ⟨q, hq, e, h.stored q hq e htable, htable, hholds, hex⟩,
    h.committed, h.investigation, h.name, hx⟩

/-- **Every citation of a returned report is backed, and evidence that was found is cited.**  The
session observed nothing but answered calls, and the calls it observed are the witnesses. -/
theorem report_evidence {lib : Libraries} {investigationId : Uuid} {u : Unicode}
    {env : Environment} {question report : String} {provider : Option LLMProvider}
    {l l' : Session} {s s' : Server} (hlib : lib.EncodesJson) (hl : l.Clean)
    (hid : s.db.withId investigationId ≠ [])
    (hrun : (runInvestigationAgent lib investigationId u env question provider).Reaches l s
      (.ok report, l', s')) :
    ∃ calls : List AnsweredCall,
      l'.log = l.log ++ calls.flatMap (AnsweredCall.observed lib.toPydantic)
      ∧ (∀ x, IsEventId x → Cites report x →
          ∃ c ∈ calls, c.Backs lib.toPydantic investigationId s' x)
      ∧ ((∃ c ∈ calls, extractToolEventIds c.record.result ≠ ∅) →
          ∃ x, IsEventId x ∧ Cites report x
            ∧ ∃ c ∈ calls, c.Backs lib.toPydantic investigationId s' x) := by
  obtain ⟨allowed, ⟨-, calls, rfl, hcalls, rfl⟩, hvalid⟩ :=
    Handler.wp_iff_forall_reaches.mp (agent_spec hlib hl hid u env question provider) _ hrun
  obtain ⟨hids, hsome⟩ := (validateReportEvidence_eq_ok report _).mp hvalid
  have hbacked : ∀ x, IsEventId x → Cites report x →
      ∃ c ∈ calls, c.Backs lib.toPydantic investigationId s' x := by
    intro x hx hcites
    obtain ⟨c, hc, hxc⟩ := mem_idsOf.mp (hids x hx hcites)
    exact ⟨c, hc, (hcalls c hc).backs hxc⟩
  refine ⟨calls, rfl, hbacked, ?_⟩
  rintro ⟨c, hc, hne⟩
  obtain ⟨x, hx⟩ := Finset.nonempty_iff_ne_empty.mpr hne
  have hallowed : idsOf calls ≠ ∅ :=
    Finset.nonempty_iff_ne_empty.mp ⟨x, mem_idsOf.mpr ⟨c, hc, hx⟩⟩
  obtain ⟨y, hy, hcites⟩ := hsome hallowed
  exact ⟨y, hy, hcites, hbacked y hy hcites⟩

/-- One connection of PID 42, ten seconds before the clock of `Server.investigating`. -/
def sampleEvent : StoredEvent where
  id := 5
  timestamp := 1699999990000000
  pid := 42
  processName := "curl"
  uid := 1000
  destinationIp := .v4 0x08080808
  destinationPort := 443
  ipVersion := 4
  durationMs := none
  source := "ebpf"
  createdAt := 1699999991000000
  ok := by decide

/-- The server of `Server.investigating` with that event. -/
def sampleServer : Server :=
  let server := Server.investigating 7
  { server with db := { server.db with connectionEvents := [sampleEvent] } }

/-- An agent whose model asks for the timeline of PID 42 and reports the event. -/
def sampleAgent : Handler String :=
  runInvestigationAgent .strict 7 .ascii ⟨none, .error .database, .error .database⟩ "PID 42?"
    (some (.scripted ⟨"call", "get_event_timeline", .obj [("pid", .int 42)]⟩
      "Seen once: [event:00000000-0000-0000-0000-000000000005]."))

theorem report_evidence_sample :
    ∃ calls : List AnsweredCall, ∃ c ∈ calls,
      c.Backs Libraries.strict.toPydantic 7 (sampleAgent.run {} sampleServer).2.2
        "00000000-0000-0000-0000-000000000005" := by
  have hrun := Handler.reaches_run sampleAgent {} sampleServer
  have hok : sampleAgent.run {} sampleServer
      = (.ok "Seen once: [event:00000000-0000-0000-0000-000000000005].",
        (sampleAgent.run {} sampleServer).2.1, (sampleAgent.run {} sampleServer).2.2) :=
    Prod.ext rfl rfl
  rw [hok] at hrun
  obtain ⟨calls, -, hids, -⟩ := report_evidence Libraries.strict_encodesJson ⟨rfl, rfl, rfl⟩
    (by decide) hrun
  exact ⟨calls, hids _ ⟨by decide, forall_mem_toList (by decide)⟩
    ⟨"Seen once: ".toList, ".".toList, by decide⟩⟩

end TracePilot
