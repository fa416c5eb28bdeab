import TracePilot.Backend.InvestigationRuns

/-!
# What the agent can do

The provider is the adversary: it may ask for any tool, with any arguments, as often as it likes.

* `AgentOp` lists the operations that an agent performs whatever the provider does, and
  **`agent_moves`** says what follows for the database: its own steps only append audit records of
  its investigation.
* `Conversation` is the order in which requests are executed, and **`agent_conversation`** says that
  the session observed the executed calls and nothing else.
* **`agent_contained`** puts both together: only registered functions are invoked, within the bounds
  of their models, and the first refused request is the last one that is executed.
-/

namespace TracePilot

open Resumption

/-! ## Operations -/

/-- The operations of an agent: reading, and recording the calls of its investigation. -/
def AgentOp (investigationId : Uuid) : DbOp → Prop
  | .now | .invoke _ _ | .select _ | .commit => True
  | .add (.agentToolCall id _ _ _) => id = investigationId
  | .add (.investigation _ _) | .change _ | .refresh => False

/-- Audit records of one investigation were appended, and nothing else changed. -/
def AddsRecords (investigationId : Uuid) (s s' : Server) : Prop :=
  ∃ records : List AgentToolCall, (∀ c ∈ records, c.investigationId = investigationId)
    ∧ s' = { s with db := { s.db with agentToolCalls := s.db.agentToolCalls ++ records } }

/-- The session holds nothing but audit records of one investigation to flush. -/
structure Auditing (investigationId : Uuid) (l : Session) : Prop where
  new : ∀ d ∈ l.new, ∃ toolName arguments result,
    d = .agentToolCall investigationId toolName arguments result
  changed : l.changed = none

section Operations

variable {lib : Libraries} {investigationId : Uuid}

lemma AddsRecords.refl (s : Server) : AddsRecords investigationId s s := ⟨[], by simp, by simp⟩

/-- Inserting audit records appends them. -/
lemma foldlM_insert_records {rows : List Row} {db db' : Database}
    (hrows : ∀ row ∈ rows, ∃ c : AgentToolCall, row = .agentToolCall c
      ∧ c.investigationId = investigationId)
    (h : rows.foldlM Database.insert db = some db') :
    ∃ records : List AgentToolCall, (∀ c ∈ records, c.investigationId = investigationId)
      ∧ db' = { db with agentToolCalls := db.agentToolCalls ++ records } := by
  induction rows generalizing db with
  | nil =>
      obtain rfl := Option.some.inj h
      exact ⟨[], by simp, by simp⟩
  | cons row rows ih =>
      rw [List.foldlM_cons] at h
      obtain ⟨db₁, hinsert, h⟩ := Option.bind_eq_some_iff.mp h
      obtain ⟨c, rfl, hc⟩ := hrows row (by simp)
      rw [Database.insert] at hinsert
      split_ifs at hinsert
      obtain rfl := Option.some.inj hinsert
      obtain ⟨records, hrecords, rfl⟩ := ih (fun row hrow => hrows row (by simp [hrow])) h
      refine ⟨c :: records, List.forall_mem_cons.mpr ⟨hc, hrecords⟩, ?_⟩
      simp [Database.withCall]

/-- Each operation of an agent leaves its session auditing, and appends audit records at most. -/
lemma agentOp_step (op : DbOp) (l : Session) (s : Server) (hop : AgentOp investigationId op)
    (hl : Auditing investigationId l) :
    Auditing investigationId (backend op l s).2.1
      ∧ AddsRecords investigationId s (backend op l s).2.2 := by
  cases op with
  | now => exact ⟨hl, .refl s⟩
  | invoke toolName arguments => exact ⟨⟨hl.new, hl.changed⟩, .refl s⟩
  | select clause =>
      change Auditing _ (selectStep clause l s).2.1 ∧ AddsRecords _ s (selectStep clause l s).2.2
      unfold selectStep
      split_ifs
      · exact ⟨hl, .refl s⟩
      · exact ⟨⟨hl.new, hl.changed⟩, .refl s⟩
      · exact ⟨hl, .refl s⟩
  | add draft =>
      cases draft with
      | investigation question status => cases hop
      | agentToolCall id toolName arguments result =>
          obtain rfl : id = investigationId := hop
          refine ⟨⟨fun d hd => ?_, hl.changed⟩, .refl s⟩
          rcases List.mem_append.mp hd with hd | hd
          · exact hl.new d hd
          · exact ⟨toolName, arguments, result, List.mem_singleton.mp hd⟩
  | change investigation => cases hop
  | refresh => cases hop
  | commit =>
      change Auditing _ (commitStep l s).2.1 ∧ AddsRecords _ s (commitStep l s).2.2
      unfold commitStep
      split_ifs
      · exact ⟨hl, .refl s⟩
      · cases hflush : s.db.flush (l.pending s) l.changed with
        | none => exact ⟨⟨by simp [Session.rolledBack], rfl⟩, .refl s⟩
        | some db =>
            rw [hl.changed, Database.flush] at hflush
            obtain ⟨db', hinsert, hdb⟩ := Option.bind_eq_some_iff.mp hflush
            obtain rfl := Option.some.inj hdb
            have hrows : ∀ row ∈ l.pending s, ∃ c : AgentToolCall, row = .agentToolCall c
                ∧ c.investigationId = investigationId := by
              intro row hrow
              obtain ⟨d, hd, rfl⟩ := List.mem_map.mp hrow
              obtain ⟨toolName, arguments, result, rfl⟩ := hl.new d hd
              exact ⟨_, rfl, rfl⟩
            obtain ⟨records, hrecords, rfl⟩ := foldlM_insert_records hrows hinsert
            exact ⟨⟨by simp [Session.flushed], rfl⟩, records, hrecords, rfl⟩

lemma only_now : Handler.now.Only (AgentOp investigationId) := Task.only_perform trivial

lemma only_select (clause : EventWhere) :
    (Handler.select clause).Only (AgentOp investigationId) :=
  (Task.only_perform (I := backendInterface) trivial).bind fun r => Task.only_ofExcept _ r

lemma only_invoke (toolName : String) (arguments : Json) :
    (Handler.invoke toolName arguments).Only (AgentOp investigationId) :=
  Task.only_perform (I := backendInterface) trivial

lemma only_add (toolName : String) (arguments result : Json) :
    (Handler.add (.agentToolCall investigationId toolName arguments result)).Only
      (AgentOp investigationId) :=
  Task.only_perform (I := backendInterface) rfl

lemma only_commit : Handler.commit.Only (AgentOp investigationId) :=
  (Task.only_perform (I := backendInterface) trivial).bind fun r => Task.only_ofExcept _ r

lemma only_audit (toolName : String) (arguments result : Json) :
    (audit investigationId toolName arguments result).Only (AgentOp investigationId) :=
  (only_add _ _ _).bind fun _ => only_commit

/-- Tool functions only read. -/
lemma only_function (c : AcceptedCall) : c.function.Only (AgentOp investigationId) := by
  cases c with
  | processConnections a => exact (only_select _).bind fun _ => Task.only_pure _ _
  | topNetworkProcesses a =>
      exact only_now.bind fun _ => (only_select _).bind fun _ => Task.only_pure _ _
  | connectionBursts a =>
      exact only_now.bind fun _ => (only_select _).bind fun _ => Task.only_pure _ _
  | unusualDestinations a =>
      exact only_now.bind fun _ => (only_select _).bind fun _ => (only_select _).bind fun _ =>
        Task.only_pure _ _
  | eventTimeline a =>
      exact only_now.bind fun _ => (only_select _).bind fun _ => Task.only_pure _ _

lemma only_executeAgentTool (toolName : String) (raw : Json) :
    (executeAgentTool lib toolName raw investigationId).Only (AgentOp investigationId) := by
  unfold executeAgentTool
  split
  · exact (only_audit _ _ _).bind fun _ => Task.only_throw _ _
  case h_2 tool hname =>
    split
    · exact (only_audit _ _ _).bind fun _ => Task.only_throw _ _
    case h_2 a hraw =>
      obtain ⟨c, -, hfun, -⟩ := acceptedCall_eq_some hname hraw
      rw [hfun]
      exact (only_invoke _ _).bind fun _ => (only_function c).bind fun _ =>
        (only_audit _ _ _).bind fun _ => Task.only_pure _ _

lemma only_agentLoop (provider : LLMProvider) (rounds : ℕ) :
    ∀ (allowed : Finset String) (response : ProviderResponse provider.State),
      (agentLoop lib investigationId provider rounds allowed response).Only
        (AgentOp investigationId) := by
  induction rounds with
  | zero => exact fun _ _ => Task.only_throw _ _
  | succ rounds ih =>
      intro allowed response
      rw [agentLoop]
      split
      · exact (Task.only_ofExcept _ _).bind fun _ => (Task.only_ofExcept _ _).bind fun _ =>
          Task.only_pure _ _
      · refine Task.Only.bind (Task.Only.foldlM (fun acc request => ?_) _ _) fun acc =>
          (Task.only_ofExcept _ _).bind fun response' => ih _ _
        exact (only_executeAgentTool _ _).bind fun _ => Task.only_pure _ _

lemma only_runInvestigationAgent (u : Unicode) (env : Environment) (question : String)
    (provider : Option LLMProvider) :
    (runInvestigationAgent lib investigationId u env question provider).Only
      (AgentOp investigationId) := by
  unfold runInvestigationAgent
  split
  · exact Task.only_throw _ _
  · exact (Task.only_ofExcept _ _).bind fun _ => only_agentLoop _ _ _ _

/-- **What a run of the agent does to the database**, in any environment at all: its own steps only
append audit records of its investigation. -/
theorem agent_moves {R : Session → Server → Server → Prop} {u : Unicode} {env : Environment}
    {question : String} {provider : Option LLMProvider} {l l' : Session} {s s' : Server}
    {r : Except PyException String} (hl : l.Clean)
    (hrun : Task.Reaches backend R
      (runInvestigationAgent lib investigationId u env question provider) l s (r, l', s')) :
    Relation.ReflTransGen (Proc.Moves R (AddsRecords investigationId)) s s' :=
  ((Proc.wp_iff_forall_reaches _ _ _ _).mp (Proc.wp_of_only agentOp_step
    (only_runInvestigationAgent u env question provider)
    ⟨by simp [hl.new], hl.changed⟩) _ hrun).2

end Operations

/-! ## Executed calls -/

/-- A request that the agent executed, what the session observed of it, and the reply. -/
structure ExecutedCall where
  request : ToolRequest
  observed : List Observation
  reply : Except PyException Json

/-- What the agent reports back to the provider. -/
def ExecutedCall.result? (c : ExecutedCall) : Option ToolResult :=
  match c.reply with
  | .ok v => some ⟨c.request.callId, c.request.name, v⟩
  | .error _ => none

/-- `allowed_event_ids` after a list of results. -/
def allowedAfter (allowed : Finset String) (toolResults : List ToolResult) : Finset String :=
  toolResults.foldl (fun ids r => ids ∪ extractToolEventIds r.result) allowed

section Execution

variable (lib : Libraries) (investigationId : Uuid) (request : ToolRequest)

/-- The traces that one call leaves in the log, with its reply. -/
inductive Execution : List Observation → Except PyException Json → Prop
  | recorded {observed : List Observation} {arguments result : Json}
      {reply : Except PyException Json} {db : Database} {now : ℤ}
      (attempt : Attempt lib request.name request.arguments observed arguments result reply)
      (accepted : (db.flush
        [.agentToolCall ⟨investigationId, request.name, arguments, result, now⟩] none).isSome = true) :
      Execution (observed ++ [.flushed db
        [.agentToolCall ⟨investigationId, request.name, arguments, result, now⟩] none]) reply
  | refused {observed : List Observation} {arguments result : Json}
      {reply : Except PyException Json} {db : Database} {now : ℤ}
      (attempt : Attempt lib request.name request.arguments observed arguments result reply)
      (unfit : (⟨investigationId, request.name, arguments, result, now⟩ : AgentToolCall).fits
        = false) :
      Execution (observed ++ [.flushed db
        [.agentToolCall ⟨investigationId, request.name, arguments, result, now⟩] none])
        (.error .database)
  | queryFailed {c : AcceptedCall}
      (hname : request.name ∈ (toolRegistry lib.toPydantic).map Prod.fst)
      (hcall : acceptedCall lib.toPydantic request.name request.arguments = some c) :
      Execution [.invoked request.name (c.arguments lib.toPydantic)] (.error .database)

end Execution

/-- The bounds of the arguments models. -/
def AcceptedCall.InBounds : AcceptedCall → Prop
  | processConnections a => 1 ≤ a.pid.1
  | topNetworkProcesses a => (1 ≤ a.minutes.1 ∧ a.minutes.1 ≤ 1440) ∧ 1 ≤ a.limit.1 ∧ a.limit.1 ≤ 100
  | connectionBursts a =>
      (1 ≤ a.threshold.1 ∧ a.threshold.1 ≤ 10000) ∧ 1 ≤ a.minutes.1 ∧ a.minutes.1 ≤ 1440
  | unusualDestinations a => 1 ≤ a.pid.1
  | eventTimeline a => 1 ≤ a.pid.1

lemma AcceptedCall.inBounds (c : AcceptedCall) : c.InBounds := by
  cases c with
  | processConnections a => exact a.pid.2
  | topNetworkProcesses a => exact ⟨a.minutes.2, a.limit.2⟩
  | connectionBursts a => exact ⟨a.threshold.2, a.minutes.2⟩
  | unusualDestinations a => exact a.pid.2
  | eventTimeline a => exact a.pid.2

/-- **Containment of one call**: a refused request invokes nothing and fails; an accepted one
invokes the registered function of its name, once, with arguments within bounds. -/
def ExecutedCall.Contained (py : Pydantic) (c : ExecutedCall) : Prop :=
  match acceptedCall py c.request.name c.request.arguments with
  | none => invokedTools c.observed = [] ∧ ∃ e, c.reply = .error e
  | some call => invokedTools c.observed = [(c.request.name, call.arguments py)]
      ∧ c.request.name ∈ (toolRegistry py).map Prod.fst ∧ call.InBounds

section Calls

variable {lib : Libraries} {investigationId : Uuid} {request : ToolRequest}

/-- A name that is not registered stands for no accepted call. -/
lemma acceptedCall_eq_none_of_unknown {py : Pydantic} {toolName : String}
    (h : (toolRegistry py).lookup toolName = none) (raw : Json) :
    acceptedCall py toolName raw = none := by
  have hnames : ∀ p ∈ toolRegistry py, toolName ≠ p.1 := by
    intro p hp heq
    exact absurd (List.lookup_eq_none_iff.mp h p hp) (by simp [heq])
  simp only [toolRegistry, List.forall_mem_cons] at hnames
  obtain ⟨h₁, h₂, h₃, h₄, h₅, -⟩ := hnames
  simp only [acceptedCall, h₁, h₂, h₃, h₄, h₅, if_false]

/-- A call that was answered was accepted, and the driver could send its parameters. -/
lemma Execution.accepted (h : Execution lib investigationId request observed (.ok v)) :
    ∃ c, acceptedCall lib.toPydantic request.name request.arguments = some c
      ∧ c.inRange = true := by
  cases h with
  | recorded attempt accepted =>
      cases attempt with
      | answered hname hcall hrange hanswer => exact ⟨_, hcall, hrange⟩

/-- What the session observed before the record holds the invocation of an accepted call. -/
lemma Attempt.invokedTools_eq {toolName : String} {raw arguments result : Json}
    {observed : List Observation} {reply : Except PyException Json}
    (attempt : Attempt lib toolName raw observed arguments result reply) :
    match acceptedCall lib.toPydantic toolName raw with
    | none => invokedTools observed = [] ∧ ∃ e, reply = .error e
    | some call => invokedTools observed = [(toolName, call.arguments lib.toPydantic)]
        ∧ toolName ∈ (toolRegistry lib.toPydantic).map Prod.fst := by
  cases attempt with
  | unknownTool hname =>
      rw [acceptedCall_eq_none_of_unknown hname]
      exact ⟨rfl, _, rfl⟩
  | rejectedArguments hname hraw =>
      rw [acceptedCall_eq_none hname hraw]
      exact ⟨rfl, _, rfl⟩
  | answered hname hcall hrange hanswer =>
      rw [hcall]
      refine ⟨?_, ?_⟩
      · simp [invokedTools, Statement.observation, List.filterMap_map, Function.comp_def]
      · obtain ⟨before, after, hreg, -⟩ := List.lookup_eq_some_iff.mp hname
        rw [hreg]
        simp

/-- **Every executed call is contained.** -/
theorem Execution.contained {observed : List Observation} {reply : Except PyException Json}
    (h : Execution lib investigationId request observed reply) :
    ExecutedCall.Contained lib.toPydantic ⟨request, observed, reply⟩ := by
  have hflush : ∀ (observed : List Observation) db rows changed,
      invokedTools (observed ++ [.flushed db rows changed]) = invokedTools observed := by
    intro observed db rows changed
    simp [invokedTools]
  unfold ExecutedCall.Contained
  cases h with
  | recorded attempt accepted =>
      have hattempt := attempt.invokedTools_eq
      rw [hflush]
      split at hattempt
      case h_1 hcall => simpa only [hcall] using hattempt
      case h_2 call hcall => simpa only [hcall] using ⟨hattempt.1, hattempt.2, call.inBounds⟩
  | refused attempt unfit =>
      have hattempt := attempt.invokedTools_eq
      rw [hflush]
      split at hattempt
      case h_1 hcall => simpa only [hcall] using ⟨hattempt.1, _, rfl⟩
      case h_2 call hcall => simpa only [hcall] using ⟨hattempt.1, hattempt.2, call.inBounds⟩
  | queryFailed hname hcall =>
      simp only [hcall]
      exact ⟨rfl, hname, AcceptedCall.inBounds _⟩

/-- Every outcome of a call leaves the traces of an execution. -/
lemma CallOutcome.execution {reply : Except PyException Json} {l l' : Session} {s s' : Server}
    (h : CallOutcome lib request.name request.arguments investigationId l s reply l' s')
    (hid : s.db.withId investigationId ≠ []) :
    s'.db.withId investigationId ≠ [] ∧ ∃ observed, l'.log = l.log ++ observed
      ∧ Execution lib investigationId request observed reply
      ∧ (l.Clean → ∀ v, reply = .ok v → l'.Clean) := by
  cases h with
  | @recorded observed _ _ _ s₁ record attempt hs hread hrecord fits =>
      have accepted : (s₁.db.flush [.agentToolCall record] none).isSome = true := by
        rw [Database.flush_agentToolCall,
          if_pos ⟨fits, by rw [hrecord]; exact hs.investigations _ hid⟩]
        rfl
      subst hrecord
      refine ⟨hs.investigations _ hid, _, ?_, .recorded attempt accepted, fun hl v hv => ?_⟩
      · exact List.append_assoc _ _ _
      · exact (hl.observing _).observing _
  | @refused observed _ _ _ _ record attempt hs hrecord unfit =>
      subst hrecord
      exact ⟨hs.investigations _ hid, _, List.append_assoc _ _ _, .refused attempt unfit,
        fun hl v hv => nomatch hv⟩
  | queryFailed hname hcall hrange hs =>
      refine ⟨hs.investigations _ hid, _, rfl, .queryFailed ?_ hcall, fun hl v hv => nomatch hv⟩
      obtain ⟨before, after, hreg, -⟩ := List.lookup_eq_some_iff.mp hname
      rw [hreg]
      simp

end Calls

/-! ## Conversations -/

/-- Every request of a round was executed and answered. -/
def AnsweredRound (requests : List ToolRequest) (executed : List ExecutedCall) : Prop :=
  executed.map (fun c => c.request) = requests ∧ ∀ c ∈ executed, ∃ v, c.reply = .ok v

/-- The requests of a round were executed up to the first that failed. -/
def InterruptedRound (requests : List ToolRequest) (executed : List ExecutedCall)
    (e : PyException) : Prop :=
  ∃ answered last rest, executed = answered ++ [last]
    ∧ requests = answered.map (fun c => c.request) ++ last.request :: rest
    ∧ (∀ c ∈ answered, ∃ v, c.reply = .ok v) ∧ last.reply = .error e

/-- **The conversation of an agent with its provider**, from one of the provider's responses on: the
calls that are executed, and what the agent comes to. -/
inductive Conversation (provider : LLMProvider) :
    ProviderResponse provider.State → List ExecutedCall → Except PyException String → Prop
  | report {response : ProviderResponse provider.State} (hsilent : response.toolRequests = [])
      (r : Except PyException String) : Conversation provider response [] r
  | exhausted (response : ProviderResponse provider.State) (e : PyException) :
      Conversation provider response [] (.error e)
  | interrupted {response : ProviderResponse provider.State} {executed : List ExecutedCall}
      {e : PyException} (hround : InterruptedRound response.toolRequests executed e) :
      Conversation provider response executed (.error e)
  | broken {response : ProviderResponse provider.State} {executed : List ExecutedCall}
      {e : PyException} (hround : AnsweredRound response.toolRequests executed)
      (hnext : provider.continueWithToolResults response.state
        (executed.filterMap ExecutedCall.result?) = .error e) :
      Conversation provider response executed (.error e)
  | round {response response' : ProviderResponse provider.State}
      {executed executed' : List ExecutedCall} {r : Except PyException String}
      (hround : AnsweredRound response.toolRequests executed)
      (hnext : provider.continueWithToolResults response.state
        (executed.filterMap ExecutedCall.result?) = .ok response')
      (rest : Conversation provider response' executed' r) :
      Conversation provider response (executed ++ executed') r

section Conversations

variable (lib : Libraries) (investigationId : Uuid)

/-- Between `l` and `l'` the session observed the executed calls and nothing else. -/
structure Observes (executed : List ExecutedCall) (l l' : Session) (s' : Server) : Prop where
  log : l'.log = l.log ++ executed.flatMap fun c => c.observed
  executions : ∀ c ∈ executed, Execution lib investigationId c.request c.observed c.reply
  stored : s'.db.withId investigationId ≠ []

variable {lib investigationId} {l l₁ l' : Session} {s s₁ s' : Server}

lemma Observes.refl (hid : s.db.withId investigationId ≠ []) :
    Observes lib investigationId [] l l s :=
  ⟨by simp, by simp, hid⟩

lemma Observes.trans {executed executed' : List ExecutedCall}
    (h : Observes lib investigationId executed l l₁ s₁)
    (h' : Observes lib investigationId executed' l₁ l' s') :
    Observes lib investigationId (executed ++ executed') l l' s' where
  log := by rw [h'.log, h.log, List.flatMap_append, List.append_assoc]
  executions c hc := (List.mem_append.mp hc).elim (h.executions c) (h'.executions c)
  stored := h'.stored

/-- One request is executed. -/
lemma executeRequest_observes (hlib : lib.EncodesJson) (hl : l.Clean)
    (hid : s.db.withId investigationId ≠ []) (acc : Finset String × List ToolResult)
    (request : ToolRequest) :
    (executeRequest lib investigationId acc request).wp
      (fun r l' s' => ∃ c, Observes lib investigationId [c] l l' s' ∧ c.request = request
        ∧ match r with
          | .ok acc' => l'.Clean ∧ (∃ v, c.reply = .ok v)
              ∧ acc' = (allowedAfter acc.1 ([c].filterMap ExecutedCall.result?),
                acc.2 ++ [c].filterMap ExecutedCall.result?)
          | .error e => c.reply = .error e) l s := by
  refine Handler.wp_bind.mpr (Handler.wp_mono (executeAgentTool_spec hlib hl hid) ?_)
  intro reply l' s' h
  obtain ⟨hid', observed, hlog, hexecution, hclean⟩ := h.execution hid
  have hobserves : Observes lib investigationId [⟨request, observed, reply⟩] l l' s' :=
    ⟨by simpa using hlog, by simpa using hexecution, hid'⟩
  cases reply with
  | ok v => exact ⟨_, hobserves, rfl, hclean hl v rfl, ⟨v, rfl⟩, rfl⟩
  | error e => exact ⟨_, hobserves, rfl, rfl⟩

/-- The requests of a round are executed in their order, up to the first that fails. -/
lemma executeRequests_observes (hlib : lib.EncodesJson) (requests : List ToolRequest) :
    ∀ (acc : Finset String × List ToolResult) (l : Session) (s : Server), l.Clean →
      s.db.withId investigationId ≠ [] →
      Handler.wp (requests.foldlM (executeRequest lib investigationId) acc)
        (fun r l' s' => ∃ executed, Observes lib investigationId executed l l' s'
          ∧ match r with
            | .ok acc' => l'.Clean ∧ AnsweredRound requests executed
                ∧ acc' = (allowedAfter acc.1 (executed.filterMap ExecutedCall.result?),
                  acc.2 ++ executed.filterMap ExecutedCall.result?)
            | .error e => InterruptedRound requests executed e) l s := by
  induction requests with
  | nil =>
      intro acc l s hl hid
      exact ⟨[], Observes.refl hid, hl, ⟨rfl, by simp⟩, by simp [allowedAfter]⟩
  | cons request requests ih =>
      intro acc l s hl hid
      rw [List.foldlM_cons]
      refine Handler.wp_bind.mpr
        (Handler.wp_mono (executeRequest_observes hlib hl hid acc request) ?_)
      rintro (e | acc₁) l₁ s₁ ⟨c, hc, rfl, hr⟩
      · exact ⟨[c], hc, [], c, requests, rfl, rfl, by simp, hr⟩
      · obtain ⟨hl₁, hreply, hacc₁⟩ := hr
        refine Handler.wp_mono (ih acc₁ l₁ s₁ hl₁ hc.stored) ?_
        rintro (e | acc') l' s' ⟨executed, hexecuted, hr⟩
        · obtain ⟨answered, last, rest, rfl, rfl, hanswered, hlast⟩ := hr
          refine ⟨[c] ++ (answered ++ [last]), hc.trans hexecuted, c :: answered, last, rest, rfl,
            rfl, ?_, hlast⟩
          exact List.forall_mem_cons.mpr ⟨hreply, hanswered⟩
        · obtain ⟨hl', ⟨rfl, hanswered⟩, hacc'⟩ := hr
          refine ⟨[c] ++ executed, hc.trans hexecuted, hl', ⟨rfl, ?_⟩, ?_⟩
          · exact List.forall_mem_cons.mpr ⟨hreply, hanswered⟩
          · rw [hacc', hacc₁, List.filterMap_append, List.append_assoc, allowedAfter, allowedAfter,
              ← List.foldl_append, ← allowedAfter]

/-- The loop over rounds: the induction is on the rounds left. -/
lemma agentLoop_observes (hlib : lib.EncodesJson) (provider : LLMProvider) (rounds : ℕ) :
    ∀ (allowed : Finset String) (response : ProviderResponse provider.State) (l : Session)
      (s : Server), l.Clean → s.db.withId investigationId ≠ [] →
      (agentLoop lib investigationId provider rounds allowed response).wp
        (fun r l' s' => ∃ executed, Observes lib investigationId executed l l' s'
          ∧ Conversation provider response executed r) l s := by
  induction rounds with
  | zero => exact fun allowed response l s _ hid => ⟨[], Observes.refl hid, .exhausted _ _⟩
  | succ rounds ih =>
      intro allowed response l s hl hid
      rw [agentLoop]
      cases hrequests : response.toolRequests with
      | nil =>
          cases hreport : reportText response.text with
          | error e => exact ⟨[], Observes.refl hid, .report hrequests _⟩
          | ok report =>
              refine Handler.wp_bind.mpr (Handler.wp_bind.mpr ?_)
              change Task.outcome _ _ (validateReportEvidence report allowed) l s
              cases validateReportEvidence report allowed with
              | error e => exact ⟨[], Observes.refl hid, .report hrequests _⟩
              | ok _ => exact ⟨[], Observes.refl hid, .report hrequests _⟩
      | cons request requests =>
          refine Handler.wp_bind.mpr (Handler.wp_mono
            (executeRequests_observes hlib (request :: requests) (allowed, []) l s hl hid) ?_)
          rintro (e | acc) l₁ s₁ ⟨executed, hexecuted, hr⟩
          · exact ⟨executed, hexecuted, .interrupted (hrequests ▸ hr)⟩
          · obtain ⟨hl₁, hround, hacc⟩ := hr
            rw [← hrequests] at hround
            refine Handler.wp_bind.mpr ?_
            change Task.outcome _ _ (provider.continueWithToolResults response.state acc.2) l₁ s₁
            rw [show acc.2 = executed.filterMap ExecutedCall.result? from congrArg Prod.snd hacc]
            cases hnext : provider.continueWithToolResults response.state
                (executed.filterMap ExecutedCall.result?) with
            | error e => exact ⟨executed, hexecuted, .broken hround hnext⟩
            | ok response' =>
                refine Handler.wp_mono (ih acc.1 response' l₁ s₁ hl₁ hexecuted.stored) ?_
                rintro r l' s' ⟨executed', hexecuted', hrest⟩
                exact ⟨executed ++ executed', hexecuted.trans hexecuted', .round hround hnext hrest⟩

/-- A call that failed is the last of its round. -/
lemma InterruptedRound.last_of_error {requests : List ToolRequest}
    {executed before after : List ExecutedCall} {c : ExecutedCall} {e e' : PyException}
    (h : InterruptedRound requests executed e)
    (hsplit : executed = before ++ c :: after) (hc : c.reply = .error e') :
    after = [] ∧ e' = e := by
  obtain ⟨answered, last, rest, rfl, -, hanswered, hlast⟩ := h
  rcases List.eq_nil_or_concat after with rfl | ⟨after, z, rfl⟩
  · obtain ⟨-, hcons⟩ := List.append_inj' hsplit rfl
    obtain rfl : last = c := List.singleton_inj.mp hcons
    exact ⟨rfl, Except.error.inj (hc.symm.trans hlast)⟩
  · rw [List.concat_eq_append, ← List.cons_append, ← List.append_assoc] at hsplit
    obtain ⟨rfl, -⟩ := List.append_inj' hsplit rfl
    obtain ⟨v, hv⟩ := hanswered c (by simp)
    rw [hc] at hv
    cases hv

/-- **The first failed call is the last of the run**, and the run fails as it did. -/
theorem Conversation.stops {provider : LLMProvider} {response : ProviderResponse provider.State}
    {executed : List ExecutedCall} {r : Except PyException String}
    (h : Conversation provider response executed r) {c : ExecutedCall} {e : PyException}
    (hc : c.reply = .error e) :
    ∀ {before after : List ExecutedCall}, executed = before ++ c :: after →
      after = [] ∧ r = .error e := by
  have hnot : ∀ {requests : List ToolRequest} {executed : List ExecutedCall},
      AnsweredRound requests executed → c ∉ executed := by
    intro requests executed hround hmem
    obtain ⟨v, hv⟩ := hround.2 c hmem
    rw [hc] at hv
    cases hv
  induction h with
  | report hsilent r => intro before after hsplit; simp at hsplit
  | exhausted response e' => intro before after hsplit; simp at hsplit
  | interrupted hround =>
      intro before after hsplit
      obtain ⟨hafter, rfl⟩ := hround.last_of_error hsplit hc
      exact ⟨hafter, rfl⟩
  | broken hround hnext =>
      intro before after hsplit
      exact absurd (by rw [hsplit]; simp) (hnot hround)
  | round hround hnext rest ih =>
      intro before after hsplit
      rcases List.append_eq_append_iff.mp hsplit with ⟨between, rfl, hrest⟩ | ⟨between, rfl, hrest⟩
      · exact ih hrest
      · cases between with
        | nil => exact ih (show _ = [] ++ c :: after from hrest.symm)
        | cons d between =>
            obtain ⟨rfl, -⟩ := List.cons.inj hrest
            exact absurd (by simp) (hnot hround)

end Conversations

/-! ## Runs of the agent -/

/-- The calls a run executed are those that its provider asked for. -/
def Converses (u : Unicode) (env : Environment) (question : String)
    (provider : Option LLMProvider) (executed : List ExecutedCall)
    (r : Except PyException String) : Prop :=
  match (provider.map Except.ok).getD (createLlmProvider u env) with
  | .error e => executed = [] ∧ r = .error e
  | .ok provider =>
      match provider.start question with
      | .error e => executed = [] ∧ r = .error e
      | .ok response => Conversation provider response executed r

section Runs

variable {lib : Libraries} {investigationId : Uuid} {u : Unicode} {env : Environment}
  {question : String} {provider : Option LLMProvider}

/-- **What a run executes**: what its provider asked for, up to the first call that failed, and the
session observed nothing else. -/
theorem agent_conversation (hlib : lib.EncodesJson) {l : Session} {s : Server} (hl : l.Clean)
    (hid : s.db.withId investigationId ≠ []) :
    (runInvestigationAgent lib investigationId u env question provider).wp
      (fun r l' s' => ∃ executed, Observes lib investigationId executed l l' s'
        ∧ Converses u env question provider executed r) l s := by
  unfold runInvestigationAgent Converses
  cases (provider.map Except.ok).getD (createLlmProvider u env) with
  | error e => exact ⟨[], Observes.refl hid, rfl, rfl⟩
  | ok provider =>
      refine Handler.wp_bind.mpr ?_
      change Task.outcome _ _ (provider.start question) l s
      cases hstart : provider.start question with
      | error e => exact ⟨[], Observes.refl hid, by simp [hstart]⟩
      | ok response =>
          refine Handler.wp_mono
            (agentLoop_observes hlib provider maximumRounds ∅ response l s hl hid) ?_
          rintro r l' s' ⟨executed, hobserves, hconversation⟩
          exact ⟨executed, hobserves, by simpa [hstart] using hconversation⟩

lemma Converses.stops {executed : List ExecutedCall} {r : Except PyException String}
    (h : Converses u env question provider executed r) {c : ExecutedCall} {e : PyException}
    (hc : c.reply = .error e) {before after : List ExecutedCall}
    (hsplit : executed = before ++ c :: after) : after = [] ∧ r = .error e := by
  unfold Converses at h
  split at h
  · simp [h.1] at hsplit
  · split at h
    · simp [h.1] at hsplit
    · exact h.stops hc hsplit

end Runs

/-- **Containment of the agent**, for every question, every provider and every environment that
keeps to what other requests may do.

The run executed the calls that its provider asked for, and the session observed nothing else.  Each
call is contained, and a refused one is the last and fails the run.  The run's own steps append
audit records of its investigation and change nothing else. -/
theorem agent_contained {lib : Libraries} {investigationId : Uuid} {u : Unicode}
    {env : Environment} {question : String} {provider : Option LLMProvider}
    {R : Session → Server → Server → Prop} {l l' : Session} {s s' : Server}
    {r : Except PyException String} (hlib : lib.EncodesJson) (hl : l.Clean)
    (hid : s.db.withId investigationId ≠ [])
    (hR : ∀ l s s', R l s s' → Interference l s s')
    (hrun : Task.Reaches backend R
      (runInvestigationAgent lib investigationId u env question provider) l s (r, l', s')) :
    (∃ executed : List ExecutedCall,
      l'.log = l.log ++ executed.flatMap (fun c => c.observed)
      ∧ Converses u env question provider executed r
      ∧ (∀ c ∈ executed, c.Contained lib.toPydantic)
      ∧ ∀ before c after, executed = before ++ c :: after →
          acceptedCall lib.toPydantic c.request.name c.request.arguments = none →
          after = [] ∧ ∃ e, r = .error e)
    ∧ Relation.ReflTransGen (Proc.Moves R (AddsRecords investigationId)) s s' := by
  refine ⟨?_, agent_moves hl hrun⟩
  obtain ⟨executed, hobserves, hconverses⟩ :=
    Handler.wp_iff_forall_reaches.mp (agent_conversation hlib hl hid) _ (hrun.mono hR)
  have hcontained : ∀ c ∈ executed, c.Contained lib.toPydantic :=
    fun c hc => (hobserves.executions c hc).contained
  refine ⟨executed, hobserves.log, hconverses, hcontained, ?_⟩
  intro before c after hsplit hrefused
  have hc := hcontained c (by rw [hsplit]; simp)
  simp only [ExecutedCall.Contained, hrefused] at hc
  obtain ⟨-, e, he⟩ := hc
  obtain ⟨hafter, hr⟩ := hconverses.stops he hsplit
  exact ⟨hafter, e, hr⟩

/-- The sample agent, while no other request is active. -/
theorem agent_contained_sample :
    (∃ executed : List ExecutedCall,
      (sampleAgent.run {} sampleServer).2.1.log = executed.flatMap (fun c => c.observed)
      ∧ ∀ c ∈ executed, c.Contained Libraries.strict.toPydantic)
    ∧ Relation.ReflTransGen (Proc.Moves (fun (_ : Session) s s' => s = s') (AddsRecords 7))
      sampleServer (sampleAgent.run {} sampleServer).2.2 := by
  obtain ⟨⟨executed, hlog, -, hcontained, -⟩, hmoves⟩ :=
    agent_contained Libraries.strict_encodesJson ⟨rfl, rfl, rfl⟩ (by decide)
      (by rintro l s _ rfl; exact Interference.refl l s)
      (Task.reaches_run (fun _ _ => rfl) sampleAgent {} sampleServer)
  exact ⟨⟨executed, hlog, hcontained⟩, hmoves⟩

end TracePilot
