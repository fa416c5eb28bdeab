import TracePilot.Library.Pool
import TracePilot.Backend.Containment
import TracePilot.Backend.Snapshots

/-!
# Requests at work

Investigation requests, debug tool executions and the ingestion of events run side by side on one
database.  Whatever waits for the database may fail, a commit may take effect although its answer is
lost, a failed session may still work or not, and a request may be cancelled between two operations.

* `Investigation.Coupled` and `Investigation.Evidenced` say what a stored investigation owes its
  readers: its three fields change together, and a completed one rests on its own audit records.
* **`investigations_consistent`** — every stored investigation does, in every reachable state.

The rely and the guarantee of all requests are the same: audit records are never lost (`Keeping`).
What a session has still to flush is good at any later time (`Session.Sound`), so that the commits
of the tool calls publish nothing by accident.
-/

namespace TracePilot

open Resumption

/-! ## Failures -/

/-- What an exception leaves of a session: its objects wait for the next flush, or are lost. -/
structure Session.AfterFailure (l l' : Session) : Prop where
  new : l'.new = l.new ∨ l'.new = []
  changed : l'.changed = l.changed ∨ l'.changed = none

/-- How an operation may fail.  A commit may have taken effect. -/
def Fails : Behaviour backendInterface Session Server
  | .select _, l, s, r, l', s' => (∃ e, r = .error e) ∧ l.AfterFailure l' ∧ s' = s
  | .commit, l, s, r, l', s' => (∃ e, r = .error e) ∧ l.AfterFailure l'
      ∧ (s' = s ∨ ∃ db, s.db.flush (l.pending s) l.changed = some db ∧ s' = { s with db := db })
  | .refresh, l, s, r, l', s' => (∃ e, r = .error e) ∧ l.AfterFailure l' ∧ s' = s
  | _, _, _, _, _, _ => False

/-- The operations on a database that may fail. -/
def faultyBackend : Behaviour backendInterface Session Server := fun op l s r l' s' =>
  (r, l', s') = backend op l s ∨ Fails op l s r l' s'

/-! ## The requests -/

/-- `AgentToolExecutionRequest`. -/
structure AgentToolExecutionRequest where
  toolName : {name : String // 1 ≤ name.length ∧ name.length ≤ 100}
  arguments : List (String × Json)

/-- The response of the debug endpoint, raised or returned. -/
inductive DebugReply
  | notFound (detail : String)
  | forbidden (detail : String)
  | unprocessable (detail : Json)
  | result (v : Json)

/-- `debug_execute_agent_tool`, after `session.get` has found the investigation or not. -/
def debugExecuteAgentTool (lib : Libraries) (investigationId : Uuid) (found : Bool)
    (request : AgentToolExecutionRequest) : Handler DebugReply :=
  if found then
    tryCatch (do
      let v ← executeAgentTool lib request.toolName (.obj request.arguments) investigationId
      pure (.result v))
      fun
      | .toolNotAllowed message => pure (.forbidden message)
      | .validation details => pure (.unprocessable details)
      | e => throw e
  else pure (.notFound "Investigation not found")

section System

variable (lib : Libraries) (u : Unicode)

/-- The requests that may start, each in a session of its own. -/
inductive Starts (s : Server) : Worker backendInterface Session → Prop
  | createInvestigation (env : Environment) (investigationData : InvestigationCreate) :
      Starts s (.ofTask (createInvestigation lib u env investigationData) {})
  | debugExecuteAgentTool (investigationId : Uuid) (request : AgentToolExecutionRequest) :
      Starts s (.ofTask (debugExecuteAgentTool lib investigationId
        (decide (s.db.withId investigationId ≠ [])) request) {})

/-- What happens beside them: events are ingested, time passes, and random numbers are drawn. -/
inductive Elsewhere (s : Server) : Server → Prop
  | createEvent {event : Json} {default : Uuid × ℤ} {row : StoredEvent}
      (h : createEvent lib.toPydantic event default s.db.connectionEvents = some row) :
      Elsewhere s { s with db :=
        { s.db with connectionEvents := s.db.connectionEvents ++ [row] } }
  | createEventBatch {s' : Server} (h : BatchCommit lib.toPydantic s s') (clock : s'.clock = s.clock)
      (uuid4 : s'.uuid4 = s.uuid4) : Elsewhere s s'
  | ticks (clock : Clock) (uuid4 : Uuid) : Elsewhere s { s with clock := clock, uuid4 := uuid4 }

/-- The states that the system reaches. -/
abbrev SystemReaches : Pool backendInterface Session Server → Pool backendInterface Session Server →
    Prop :=
  Pool.Reaches faultyBackend (Starts lib u) (Elsewhere lib)

end System

/-! ## What a stored investigation owes its readers -/

/-- The ids in the results of some audit records. -/
def resultIds (calls : List AgentToolCall) : Finset String :=
  calls.foldr (fun c ids => extractToolEventIds c.result ∪ ids) ∅

/-- **The report passed the evidence check** against the ids in committed audit records of its own
investigation, and says something. -/
def EvidenceChecked (db : Database) (investigationId : Uuid) (report : String) : Prop :=
  report ≠ "" ∧ ∃ calls : List AgentToolCall,
    (∀ c ∈ calls, c ∈ db.agentToolCalls ∧ c.investigationId = investigationId)
      ∧ validateReportEvidence report (resultIds calls) = .ok ()

/-- The three fields change together. -/
structure Investigation.Coupled (i : Investigation) : Prop where
  answer : i.status = "running" ↔ i.answer = none
  completedAt : i.answer = none ↔ i.completedAt = none

/-- A completed investigation has a report that passed the evidence check. -/
def Investigation.Evidenced (db : Database) (i : Investigation) : Prop :=
  i.status = "completed" → ∃ report, i.answer = some report ∧ EvidenceChecked db i.id report

/-- A row that keeps both promises. -/
structure Investigation.Sound (db : Database) (i : Investigation) : Prop where
  coupled : i.Coupled
  evidenced : i.Evidenced db

/-- The stored investigations keep their promises. -/
def Consistent (s : Server) : Prop := ∀ i ∈ s.db.investigations, i.Sound s.db

/-- No audit record is lost. -/
def Keeping (s s' : Server) : Prop := ∀ c ∈ s.db.agentToolCalls, c ∈ s'.db.agentToolCalls

instance : Std.Refl Keeping := ⟨fun _ _ h => h⟩

instance : IsTrans Server Keeping := ⟨fun _ _ _ h h' c hc => h' c (h c hc)⟩

/-- A new investigation is running. -/
def Draft.Sound : Draft → Prop
  | .investigation _ status => status = "running"
  | .agentToolCall _ _ _ _ => True

/-- **What a session has still to flush** keeps the promises whenever it is flushed. -/
structure Session.Sound (l : Session) (s : Server) : Prop where
  new : ∀ d ∈ l.new, d.Sound
  changed : ∀ i, l.changed = some i → i.Sound s.db

section Consistency

variable {s s' : Server} {db db' : Database}

lemma EvidenceChecked.mono (h : ∀ c ∈ db.agentToolCalls, c ∈ db'.agentToolCalls)
    {investigationId : Uuid} {report : String} (hr : EvidenceChecked db investigationId report) :
    EvidenceChecked db' investigationId report := by
  obtain ⟨hne, calls, hcalls, hvalid⟩ := hr
  exact ⟨hne, calls, fun c hc => ⟨h c (hcalls c hc).1, (hcalls c hc).2⟩, hvalid⟩

lemma Investigation.Sound.mono (h : ∀ c ∈ db.agentToolCalls, c ∈ db'.agentToolCalls)
    {i : Investigation} (hi : i.Sound db) : i.Sound db' := by
  refine ⟨hi.coupled, fun hstatus => ?_⟩
  obtain ⟨report, hanswer, hreport⟩ := hi.evidenced hstatus
  exact ⟨report, hanswer, hreport.mono h⟩

lemma Session.Sound.mono {l : Session} (hl : l.Sound s) (h : Keeping s s') : l.Sound s' :=
  ⟨hl.new, fun i hi => (hl.changed i hi).mono h⟩

/-- A failure loses some of it at most. -/
lemma Session.Sound.afterFailure {l l' : Session} (hl : l.Sound s) (h : l.AfterFailure l') :
    l'.Sound s := by
  constructor
  · rcases h.new with hnew | hnew
    · rw [hnew]; exact hl.new
    · simp [hnew]
  · rcases h.changed with hchanged | hchanged
    · rw [hchanged]; exact hl.changed
    · simp [hchanged]

/-- A new row is running, so it promises nothing yet. -/
lemma sound_of_running {i : Investigation} (hstatus : i.status = "running") (ha : i.answer = none)
    (hc : i.completedAt = none) : i.Sound db := by
  refine ⟨⟨by simp [hstatus, ha], by simp [ha, hc]⟩, fun hcompleted => ?_⟩
  rw [hstatus] at hcompleted
  exact absurd hcompleted (by decide)

/-- One `INSERT` of a sound object. -/
lemma insert_sound {d : Draft} (hd : d.Sound) {id : Uuid} {now : ℤ}
    (hdb : ∀ i ∈ db.investigations, i.Sound db) (hinsert : db.insert (d.row id now) = some db') :
    (∀ c ∈ db.agentToolCalls, c ∈ db'.agentToolCalls)
      ∧ (∀ i ∈ db'.investigations, i.Sound db')
      ∧ ∀ c, .agentToolCall c = d.row id now → c ∈ db'.agentToolCalls := by
  cases d with
  | investigation question status =>
      rw [Draft.row, Database.insert] at hinsert
      split_ifs at hinsert
      obtain rfl := Option.some.inj hinsert
      refine ⟨fun c hc => hc, fun i hi => ?_, by simp [Draft.row]⟩
      rcases List.mem_append.mp hi with hi | hi
      · refine (hdb i hi).mono ?_
        exact fun c hc => hc
      · obtain rfl := List.mem_singleton.mp hi
        exact sound_of_running hd rfl rfl
  | agentToolCall investigationId toolName arguments result =>
      rw [Draft.row, Database.insert] at hinsert
      split_ifs at hinsert
      obtain rfl := Option.some.inj hinsert
      have hkeep : ∀ c ∈ db.agentToolCalls, c ∈ (db.withCall
          ⟨investigationId, toolName, arguments, result, now⟩).agentToolCalls :=
        fun c hc => List.mem_append_left _ hc
      refine ⟨hkeep, fun i hi => (hdb i hi).mono hkeep, ?_⟩
      rintro c hc
      obtain rfl := Row.agentToolCall.inj hc
      exact List.mem_append_right _ (List.mem_singleton_self _)

/-- The `INSERT`s of sound objects, one after the other. -/
lemma foldlM_insert_sound {drafts : List Draft} (hdrafts : ∀ d ∈ drafts, d.Sound) {id : Uuid}
    {now : ℤ} (hdb : ∀ i ∈ db.investigations, i.Sound db)
    (hinsert : (drafts.map fun d => d.row id now).foldlM Database.insert db = some db') :
    (∀ c ∈ db.agentToolCalls, c ∈ db'.agentToolCalls)
      ∧ (∀ i ∈ db'.investigations, i.Sound db')
      ∧ ∀ c, .agentToolCall c ∈ drafts.map (fun d => d.row id now) → c ∈ db'.agentToolCalls := by
  induction drafts generalizing db with
  | nil =>
      obtain rfl := Option.some.inj hinsert
      exact ⟨fun c hc => hc, hdb, by simp⟩
  | cons d drafts ih =>
      rw [List.map_cons, List.foldlM_cons] at hinsert
      obtain ⟨db₁, hfirst, hrest⟩ := Option.bind_eq_some_iff.mp hinsert
      obtain ⟨hkeep, hsound, hstored⟩ := insert_sound (hdrafts d List.mem_cons_self) hdb hfirst
      obtain ⟨hkeep', hsound', hstored'⟩ :=
        ih (fun d hd => hdrafts d (List.mem_cons_of_mem _ hd)) hsound hrest
      refine ⟨fun c hc => hkeep' c (hkeep c hc), hsound', fun c hc => ?_⟩
      rcases List.mem_cons.mp hc with hc | hc
      · exact hkeep' c (hstored c hc)
      · exact hstored' c hc

/-- A flush of sound rows keeps every promise, loses no record and stores the new ones. -/
lemma flush_sound {l : Session} (hl : l.Sound s) (hs : Consistent s)
    (hflush : s.db.flush (l.pending s) l.changed = some db') :
    Keeping s { s with db := db' } ∧ Consistent { s with db := db' }
      ∧ ∀ c, .agentToolCall c ∈ l.pending s → c ∈ db'.agentToolCalls := by
  obtain ⟨db₁, hinsert, hupdate⟩ := Option.bind_eq_some_iff.mp hflush
  obtain ⟨hkeep, hsound, hstored⟩ := foldlM_insert_sound hl.new hs hinsert
  cases hchanged : l.changed with
  | none =>
      rw [hchanged] at hupdate
      obtain rfl := Option.some.inj hupdate
      exact ⟨hkeep, hsound, hstored⟩
  | some i =>
      rw [hchanged] at hupdate
      change db₁.update i = some db' at hupdate
      rw [Database.update] at hupdate
      split_ifs at hupdate
      obtain rfl := Option.some.inj hupdate
      refine ⟨hkeep, fun j hj => ?_, hstored⟩
      obtain ⟨k, hk, rfl⟩ := List.mem_map.mp hj
      split_ifs
      · refine (hl.changed i hchanged).mono ?_
        exact hkeep
      · refine (hsound k hk).mono ?_
        exact fun c hc => hc

/-! ## Every operation -/

/-- The operations that a session may perform without breaking a promise: what it adds and what it
changes is sound. -/
def SoundOp (s : Server) : DbOp → Prop
  | .add d => d.Sound
  | .change i => i.Sound s.db
  | _ => True

/-- An operation that works. -/
lemma working_step (op : DbOp) {l : Session} (hop : SoundOp s op) (hl : l.Sound s)
    (hs : Consistent s) : Keeping s (backend op l s).2.2 ∧ Consistent (backend op l s).2.2
      ∧ (backend op l s).2.1.Sound (backend op l s).2.2 := by
  have hsame : Keeping s s := Std.Refl.refl s
  cases op with
  | now => exact ⟨hsame, hs, hl⟩
  | invoke tool arguments => exact ⟨hsame, hs, ⟨hl.new, hl.changed⟩⟩
  | add d =>
      refine ⟨hsame, hs, ⟨fun d' hd' => ?_, hl.changed⟩⟩
      rcases List.mem_append.mp hd' with hd' | hd'
      · exact hl.new d' hd'
      · obtain rfl := List.mem_singleton.mp hd'
        exact hop
  | change i =>
      refine ⟨hsame, hs, ⟨hl.new, fun j hj => ?_⟩⟩
      obtain rfl := Option.some.inj hj
      exact hop
  | select clause =>
      change Keeping s (selectStep clause l s).2.2 ∧ Consistent (selectStep clause l s).2.2
        ∧ (selectStep clause l s).2.1.Sound (selectStep clause l s).2.2
      unfold selectStep
      split_ifs
      · exact ⟨hsame, hs, hl⟩
      · exact ⟨hsame, hs, ⟨hl.new, hl.changed⟩⟩
      · exact ⟨hsame, hs, hl⟩
  | refresh =>
      change Keeping s (refreshStep l s).2.2 ∧ Consistent (refreshStep l s).2.2
        ∧ (refreshStep l s).2.1.Sound (refreshStep l s).2.2
      unfold refreshStep
      split_ifs
      · exact ⟨hsame, hs, hl⟩
      · cases l.own.bind fun id => (s.db.withId id).head? with
        | none => exact ⟨hsame, hs, hl⟩
        | some i => exact ⟨hsame, hs, hl⟩
  | commit =>
      change Keeping s (commitStep l s).2.2 ∧ Consistent (commitStep l s).2.2
        ∧ (commitStep l s).2.1.Sound (commitStep l s).2.2
      unfold commitStep
      split_ifs
      · exact ⟨hsame, hs, hl⟩
      · cases hflush : s.db.flush (l.pending s) l.changed with
        | none => exact ⟨hsame, hs, ⟨by simp [Session.rolledBack], by simp [Session.rolledBack]⟩⟩
        | some db =>
            obtain ⟨hkeep, hdb, -⟩ := flush_sound hl hs hflush
            exact ⟨hkeep, hdb, ⟨by simp [Session.flushed], by simp [Session.flushed]⟩⟩

/-- An operation that fails, after a commit or before it. -/
lemma failing_step (op : DbOp) {l l' : Session} {r : op.Reply} (hl : l.Sound s) (hs : Consistent s)
    (h : Fails op l s r l' s') : Keeping s s' ∧ Consistent s' ∧ l'.Sound s' := by
  cases op with
  | select clause =>
      obtain ⟨-, hafter, rfl⟩ := h
      exact ⟨Std.Refl.refl s', hs, hl.afterFailure hafter⟩
  | refresh =>
      obtain ⟨-, hafter, rfl⟩ := h
      exact ⟨Std.Refl.refl s', hs, hl.afterFailure hafter⟩
  | commit =>
      obtain ⟨-, hafter, rfl | ⟨db, hflush, rfl⟩⟩ := h
      · exact ⟨Std.Refl.refl s', hs, hl.afterFailure hafter⟩
      · obtain ⟨hkeep, hdb, -⟩ := flush_sound hl hs hflush
        exact ⟨hkeep, hdb, (hl.afterFailure hafter).mono hkeep⟩
  | now => exact h.elim
  | invoke tool arguments => exact h.elim
  | add d => exact h.elim
  | change i => exact h.elim

/-- **Every operation**, whether it works or fails. -/
lemma faulty_step (op : DbOp) {l l' : Session} {r : op.Reply} (hop : SoundOp s op)
    (hl : l.Sound s) (hs : Consistent s) (h : faultyBackend op l s r l' s') :
    Keeping s s' ∧ Consistent s' ∧ l'.Sound s' := by
  rcases h with h | h
  · have hworks := working_step op hop hl hs
    rwa [← h] at hworks
  · exact failing_step op hl hs h

end Consistency

/-! ## Handlers -/

section Handlers

variable {α : Type} {l : Session} {s : Server}

/-- The handler keeps every promise and loses no record, and it ends with `Q`. -/
abbrev Handler.Keeps (p : Handler α) (Q : Except PyException α → Session → Server → Prop)
    (l : Session) (s : Server) : Prop :=
  Task.Keeps faultyBackend Consistent Keeping p Q l s

lemma Handler.Keeps.mono {p : Handler α} {Q Q' : Except PyException α → Session → Server → Prop}
    (h : p.Keeps Q l s) (hQ : ∀ r l' s', Keeping s s' → Q r l' s' → Q' r l' s') : p.Keeps Q' l s :=
  Proc.Keeps.mono h hQ

/-- What raised has not returned. -/
lemma error_ne_ok {P : Prop} {e : PyException} {v : α}
    (h : (.error e : Except PyException α) = .ok v) : P := by
  cases h

/-- Sequencing, with an obligation for each way the first handler may end. -/
lemma Handler.Keeps.bind {β : Type} {p : Handler α} {f : α → Handler β}
    {P : Except PyException α → Session → Server → Prop}
    {Q : Except PyException β → Session → Server → Prop} (hp : p.Keeps P l s)
    (herror : ∀ e l' s', P (.error e) l' s' → Q (.error e) l' s')
    (hok : ∀ a l' s', Keeping s s' → P (.ok a) l' s' → (f a).Keeps Q l' s') :
    (p >>= f).Keeps Q l s := by
  refine (Task.keeps_bind _ _ _ _ _).mpr (hp.mono ?_)
  intro r l' s' hkeep hr
  cases r with
  | ok a => exact hok a l' s' hkeep hr
  | error e => exact herror e l' s' hr

/-- A reader or writer of audit records needs no promise of its own. -/
lemma keeps_of_agentOps (investigationId : Uuid) {p : Handler α}
    (hp : p.Only (AgentOp investigationId)) (hl : l.Sound s) :
    p.Keeps (fun _ l' s' => l'.Sound s') l s := by
  refine Proc.keeps_of_only (P := Session.Sound) (fun _ _ _ h hkeep => h.mono hkeep) ?_ hp hl
  intro op l s r l' s' hop hl hs h
  refine faulty_step op ?_ hl hs h
  cases op with
  | add d =>
      cases d with
      | investigation question status => exact hop.elim
      | agentToolCall id toolName arguments result => trivial
  | change i => exact hop.elim
  | _ => trivial

/-- An audit record with a given result is stored. -/
def Recorded (investigationId : Uuid) (result : Json) (s : Server) : Prop :=
  ∃ c ∈ s.db.agentToolCalls, c.investigationId = investigationId ∧ c.result = result

lemma keeps_add {d : Draft} (hd : d.Sound) (hl : l.Sound s) :
    (Handler.add d).Keeps (fun r l' s' => r = .ok () ∧ l' = { l with new := l.new ++ [d] }
      ∧ l'.Sound s') l s := by
  intro s₁ h₁ hs₁ v l' s' h
  obtain ⟨hkeep, hs', hl'⟩ := faulty_step (.add d) hd (hl.mono h₁) hs₁ h
  refine ⟨hkeep, hs', rfl, ?_, hl'⟩
  rcases h with h | h
  · exact congrArg (fun o => o.2.1) h
  · exact h.elim

lemma keeps_change {i : Investigation} (hi : i.Sound s.db) (hl : l.Sound s) :
    (Handler.change i).Keeps (fun _ l' s' => l'.Sound s') l s := by
  intro s₁ h₁ hs₁ v l' s' h
  obtain ⟨hkeep, hs', hl'⟩ := faulty_step (.change i) (hi.mono h₁) (hl.mono h₁) hs₁ h
  exact ⟨hkeep, hs', hl'⟩

lemma keeps_refresh (hl : l.Sound s) :
    Handler.refresh.Keeps (fun _ l' s' => l'.Sound s') l s := by
  refine (Task.keeps_bind _ _ _ _ _).mpr ?_
  intro s₁ h₁ hs₁ v l' s' h
  obtain ⟨hkeep, hs', hl'⟩ := faulty_step .refresh trivial (hl.mono h₁) hs₁ h
  exact ⟨hkeep, hs', hl'⟩

/-- A commit that returns has stored every audit record of its session. -/
lemma keeps_commit (hl : l.Sound s) :
    Handler.commit.Keeps (fun r l' s' => l'.Sound s' ∧ (r = .ok () →
      ∀ investigationId toolName arguments result,
        .agentToolCall investigationId toolName arguments result ∈ l.new →
          Recorded investigationId result s')) l s := by
  refine (Task.keeps_bind _ _ _ _ _).mpr ?_
  intro s₁ h₁ hs₁ v l' s' h
  obtain ⟨hkeep, hs', hl'⟩ := faulty_step .commit trivial (hl.mono h₁) hs₁ h
  refine ⟨hkeep, hs', hl', ?_⟩
  rintro rfl investigationId toolName arguments result hmem
  rcases h with h | ⟨⟨e, he⟩, -⟩
  · change _ = commitStep l s₁ at h
    unfold commitStep at h
    split_ifs at h
    · cases h
    · cases hflush : s₁.db.flush (l.pending s₁) l.changed with
      | none => rw [hflush] at h; cases h
      | some db =>
          rw [hflush] at h
          obtain ⟨rfl, rfl⟩ := Prod.mk.inj (Prod.mk.inj h).2
          obtain ⟨-, -, hstored⟩ := flush_sound (hl.mono h₁) hs₁ hflush
          refine ⟨_, hstored ⟨investigationId, toolName, arguments, result, s₁.clock.1⟩ ?_, rfl, rfl⟩
          exact List.mem_map.mpr ⟨_, hmem, rfl⟩
  · cases he

/-- A record that was added and committed is stored. -/
lemma keeps_audit {investigationId : Uuid} {toolName : String} {arguments result : Json}
    (hl : l.Sound s) : (audit investigationId toolName arguments result).Keeps
      (fun r l' s' => l'.Sound s' ∧ (r = .ok () → Recorded investigationId result s')) l s := by
  have hd : (Draft.agentToolCall investigationId toolName arguments result).Sound := trivial
  refine (keeps_add hd hl).bind (fun e l' s' h => error_ne_ok h.1) ?_
  rintro - l₁ s₁ - ⟨-, rfl, hl₁⟩
  refine (keeps_commit hl₁).mono ?_
  rintro r l' s' - ⟨hl', hstored⟩
  exact ⟨hl', fun hr => hstored hr _ _ _ _ (List.mem_append_right _ (List.mem_singleton_self _))⟩

variable {lib : Libraries} {u : Unicode} {investigationId : Uuid}

/-- A refused call is recorded, or that fails too. -/
lemma keeps_refusal {toolName : String} {arguments result : Json} {e : PyException}
    (hl : l.Sound s) :
    Handler.Keeps (α := Json) (do audit investigationId toolName arguments result; throw e)
      (fun r l' s' => l'.Sound s' ∧ ∀ v, r = .ok v → Recorded investigationId v s') l s := by
  refine (keeps_audit hl).bind (fun _ _ _ h => ⟨h.1, fun v hv => error_ne_ok hv⟩) ?_
  intro _ l' s' _ h
  exact ⟨h.1, fun v hv => error_ne_ok hv⟩

/-- **A tool execution that answers** has stored its answer. -/
lemma keeps_executeAgentTool (toolName : String) (raw : Json) (hl : l.Sound s) :
    (executeAgentTool lib toolName raw investigationId).Keeps
      (fun r l' s' => l'.Sound s' ∧ ∀ v, r = .ok v → Recorded investigationId v s') l s := by
  unfold executeAgentTool
  split
  · exact keeps_refusal hl
  case h_2 tool hname =>
    split
    · exact keeps_refusal hl
    case h_2 a hraw =>
      obtain ⟨c, -, hfun, -⟩ := acceptedCall_eq_some hname hraw
      rw [hfun]
      have hinvoke := keeps_of_agentOps investigationId (only_invoke toolName (tool.modelDump a)) hl
      refine hinvoke.bind (fun _ _ _ h => ⟨h, fun v hv => error_ne_ok hv⟩) ?_
      intro _ l₁ s₁ _ hl₁
      have hfunction := keeps_of_agentOps investigationId (only_function c) hl₁
      refine hfunction.bind (fun _ _ _ h => ⟨h, fun v hv => error_ne_ok hv⟩) ?_
      intro toolResult l₂ s₂ _ hl₂
      refine (keeps_audit hl₂).bind (fun _ _ _ h => ⟨h.1, fun v hv => error_ne_ok hv⟩) ?_
      intro _ l₃ s₃ _ h
      refine ⟨h.1, fun v hv => ?_⟩
      obtain rfl := Except.ok.inj hv
      exact h.2 rfl

/-- The ids are those in stored audit records of the investigation. -/
def Answered (investigationId : Uuid) (allowed : Finset String) (s : Server) : Prop :=
  ∃ calls : List AgentToolCall,
    (∀ c ∈ calls, c ∈ s.db.agentToolCalls ∧ c.investigationId = investigationId)
      ∧ allowed = resultIds calls

lemma Answered.mono {allowed : Finset String} {s s' : Server}
    (h : Answered investigationId allowed s) (hkeep : Keeping s s') :
    Answered investigationId allowed s' := by
  obtain ⟨calls, hcalls, hallowed⟩ := h
  exact ⟨calls, fun c hc => ⟨hkeep c (hcalls c hc).1, (hcalls c hc).2⟩, hallowed⟩

/-- One request of a round keeps the ids answered. -/
lemma keeps_executeRequest (request : ToolRequest) {acc : Finset String × List ToolResult}
    (hl : l.Sound s) (hacc : Answered investigationId acc.1 s) :
    (executeRequest lib investigationId acc request).Keeps
      (Task.outcome (fun acc l' s' => l'.Sound s' ∧ Answered investigationId acc.1 s')
        fun _ l' s' => l'.Sound s') l s := by
  refine (keeps_executeAgentTool request.name request.arguments hl).bind (fun _ _ _ h => h.1) ?_
  rintro v l' s' hkeep ⟨hl', hrecorded⟩
  obtain ⟨c, hc, hid, rfl⟩ := hrecorded v rfl
  obtain ⟨calls, hcalls, hallowed⟩ := hacc.mono hkeep
  refine ⟨hl', c :: calls, List.forall_mem_cons.mpr ⟨⟨hc, hid⟩, hcalls⟩, ?_⟩
  rw [resultIds, List.foldr_cons, Finset.union_comm, ← resultIds, hallowed]

lemma reportText_ne {text : Option String} {report : String} (h : reportText text = .ok report) :
    report ≠ "" := by
  cases text with
  | none => cases h
  | some t =>
      rw [reportText] at h
      split_ifs at h with ht
      obtain rfl := Except.ok.inj h
      exact ht

/-- The loop over rounds: the induction is on the rounds left. -/
lemma keeps_agentLoop (provider : LLMProvider) (rounds : ℕ) :
    ∀ (allowed : Finset String) (response : ProviderResponse provider.State) (l : Session)
      (s : Server), l.Sound s → Answered investigationId allowed s →
      (agentLoop lib investigationId provider rounds allowed response).Keeps
        (fun r l' s' => l'.Sound s'
          ∧ ∀ report, r = .ok report → EvidenceChecked s'.db investigationId report) l s := by
  induction rounds with
  | zero => exact fun allowed response l s hl _ => ⟨hl, fun report hr => error_ne_ok hr⟩
  | succ rounds ih =>
      intro allowed response l s hl hallowed
      rw [agentLoop]
      cases hrequests : response.toolRequests with
      | nil =>
          cases hreport : reportText response.text with
          | error e => exact ⟨hl, fun report hr => error_ne_ok hr⟩
          | ok report =>
              refine (Task.keeps_bind _ _ _ _ _).mpr ((Task.keeps_bind _ _ _ _ _).mpr ?_)
              change Task.outcome _ _ (validateReportEvidence report allowed) l s
              cases hvalid : validateReportEvidence report allowed with
              | error e => exact ⟨hl, fun report hr => error_ne_ok hr⟩
              | ok _ =>
                  refine ⟨hl, fun report' hr => ?_⟩
                  obtain rfl := Except.ok.inj hr
                  obtain ⟨calls, hcalls, rfl⟩ := hallowed
                  exact ⟨reportText_ne hreport, calls, hcalls, hvalid⟩
      | cons request requests =>
          refine (Task.keeps_bind _ _ _ _ _).mpr (Handler.Keeps.mono (Task.keeps_foldlM _
            (fun acc l s => l.Sound s ∧ Answered investigationId acc.1 s)
            (fun _ l s => l.Sound s) _
            (fun r _ acc l s h => keeps_executeRequest r h.1 h.2) (allowed, []) l s
            ⟨hl, hallowed⟩) ?_)
          intro r l' s' _ hr
          cases r with
          | error e => exact ⟨hr, fun report hr => error_ne_ok hr⟩
          | ok acc =>
              refine (Task.keeps_bind _ _ _ _ _).mpr ?_
              change Task.outcome _ _ (provider.continueWithToolResults response.state acc.2) l' s'
              cases provider.continueWithToolResults response.state acc.2 with
              | error e => exact ⟨hr.1, fun report hr => error_ne_ok hr⟩
              | ok response' => exact ih acc.1 response' l' s' hr.1 hr.2

/-- **A report that the agent returns** has passed the evidence check against stored records. -/
lemma keeps_agent (env : Environment) (question : String) (provider : Option LLMProvider)
    (hl : l.Sound s) :
    (runInvestigationAgent lib investigationId u env question provider).Keeps
      (fun r l' s' => l'.Sound s'
        ∧ ∀ report, r = .ok report → EvidenceChecked s'.db investigationId report) l s := by
  unfold runInvestigationAgent
  cases (provider.map Except.ok).getD (createLlmProvider u env) with
  | error e => exact ⟨hl, fun report hr => error_ne_ok hr⟩
  | ok provider =>
      refine (Task.keeps_bind _ _ _ _ _).mpr ?_
      change Task.outcome _ _ (provider.start question) l s
      cases provider.start question with
      | error e => exact ⟨hl, fun report hr => error_ne_ok hr⟩
      | ok response =>
          exact keeps_agentLoop provider maximumRounds ∅ response l s hl ⟨[], by simp, rfl⟩

/-! ## The endpoints -/

/-- The `try` block completes its investigation with what the agent returned. -/
lemma keeps_completeInvestigation (env : Environment) (i : Investigation) (hl : l.Sound s) :
    (completeInvestigation lib u env i).Keeps (fun _ l' s' => l'.Sound s') l s := by
  refine (keeps_agent env i.question none hl).bind (fun _ _ _ h => h.1) ?_
  rintro answer l₁ s₁ - ⟨hl₁, hanswer⟩
  have hchecked := hanswer answer rfl
  refine (keeps_of_agentOps i.id only_now hl₁).bind (fun _ _ _ h => h) ?_
  intro completedAt l₂ s₂ hkeep hl₂
  have hsound : Investigation.Sound s₂.db { i with
      answer := some answer
      status := "completed"
      completedAt := some completedAt.1 } := by
    refine ⟨⟨by simp, by simp⟩, fun _ => ⟨answer, rfl, ?_⟩⟩
    exact hchecked.mono hkeep
  refine (keeps_change hsound hl₂).bind (fun _ _ _ h => h) ?_
  intro _ l₃ s₃ _ hl₃
  refine (keeps_commit hl₃).bind (fun _ _ _ h => h.1) ?_
  intro _ l₄ s₄ _ h
  exact keeps_refresh h.1

/-- The `except` block marks it as failed, with an answer and a time. -/
lemma keeps_failInvestigation (i : Investigation) (hl : l.Sound s) :
    (failInvestigation i).Keeps (fun _ l' s' => l'.Sound s') l s := by
  refine (keeps_of_agentOps i.id only_now hl).bind (fun _ _ _ h => h) ?_
  intro completedAt l₁ s₁ _ hl₁
  have hsound : Investigation.Sound s₁.db { i with
      status := "failed"
      answer := some failedAnswer
      completedAt := some completedAt.1 } :=
    ⟨⟨by simp, by simp⟩, fun hstatus => absurd hstatus (by simp)⟩
  refine (keeps_change hsound hl₁).bind (fun _ _ _ h => h) ?_
  intro _ l₂ s₂ _ hl₂
  refine (keeps_commit hl₂).bind (fun _ _ _ h => h.1) ?_
  intro _ l₃ s₃ _ h
  exact h.1

/-- A session without work is sound. -/
lemma Session.sound_empty (s : Server) : Session.Sound {} s := ⟨by simp, by simp⟩

lemma keeps_createInvestigation (env : Environment) (investigationData : InvestigationCreate)
    (s : Server) :
    (createInvestigation lib u env investigationData).Keeps (fun _ l' s' => l'.Sound s') {} s := by
  have hd : (Draft.investigation investigationData.question "running").Sound := rfl
  refine (keeps_add hd (Session.sound_empty s)).bind (fun _ _ _ h => h.2.2) ?_
  rintro _ l₁ s₁ _ ⟨-, -, hl₁⟩
  refine (keeps_commit hl₁).bind (fun _ _ _ h => h.1) ?_
  intro _ l₂ s₂ _ h
  refine (keeps_refresh h.1).bind (fun _ _ _ h => h) ?_
  intro i l₃ s₃ _ hl₃
  refine (Task.keeps_tryCatch _ _ _ _ _).mpr ((keeps_completeInvestigation env i hl₃).mono ?_)
  intro r l₄ s₄ _ hl₄
  cases r with
  | ok answer => exact hl₄
  | error e => exact keeps_failInvestigation i hl₄

lemma keeps_debugExecuteAgentTool (found : Bool) (request : AgentToolExecutionRequest)
    (s : Server) :
    (debugExecuteAgentTool lib investigationId found request).Keeps (fun _ _ _ => True) {} s := by
  rw [debugExecuteAgentTool]
  cases found with
  | false => trivial
  | true =>
      refine (Task.keeps_tryCatch _ _ _ _ _).mpr ?_
      refine (keeps_executeAgentTool request.toolName (.obj request.arguments)
        (Session.sound_empty s)).bind ?_ fun _ _ _ _ _ => trivial
      intro e l' s' _
      cases e <;> trivial

/-- A request that keeps the promises to its end keeps them as a worker. -/
lemma keeps_ofTask {p : Handler α} {Q : Except PyException α → Session → Server → Prop}
    (h : p.Keeps Q l s) :
    Proc.Keeps faultyBackend Consistent Keeping (Worker.ofTask p l).rest (fun _ _ _ => True)
      (Worker.ofTask p l).state s :=
  (Proc.keeps_bind _ _ _ _ _).mpr (Proc.Keeps.mono h fun _ _ _ _ _ => trivial)

/-- Ingestion and time touch neither investigations nor audit records. -/
lemma consistent_elsewhere {s' : Server} (hs : Consistent s) (h : Elsewhere lib s s') :
    Keeping s s' ∧ Consistent s' := by
  have hsame : s'.db.investigations = s.db.investigations
      ∧ s'.db.agentToolCalls = s.db.agentToolCalls := by
    cases h with
    | createEvent h => exact ⟨rfl, rfl⟩
    | createEventBatch h =>
        obtain ⟨_, _, _, -, hdb⟩ := h
        rw [hdb]
        exact ⟨rfl, rfl⟩
    | ticks clock uuid4 => exact ⟨rfl, rfl⟩
  have hkeep : Keeping s s' := fun c hc => hsame.2 ▸ hc
  refine ⟨hkeep, fun i hi => ?_⟩
  rw [hsame.1] at hi
  exact (hs i hi).mono hkeep

end Handlers

/-- **Every reachable state**: whatever requests run, in whatever order, and whatever fails, each
stored investigation is running exactly while it has no answer and no time of completion, and a
completed one has a report that passed the evidence check against its own audit records. -/
theorem investigations_consistent {lib : Libraries} {u : Unicode} {s₀ : Server}
    (hinit : s₀.db.investigations = []) {x : Pool backendInterface Session Server}
    (h : SystemReaches lib u ⟨[], s₀⟩ x) :
    ∀ i ∈ x.shared.db.investigations, i.Coupled ∧ i.Evidenced x.shared.db := by
  have hinit' : Consistent s₀ := by simp [Consistent, hinit]
  have hinv : Consistent x.shared := by
    refine (Pool.invariant (T := Keeping) (fun s s' => consistent_elsewhere) ?_ hinit' h).1
    intro s w _ hw
    cases hw with
    | createInvestigation env investigationData =>
        exact keeps_ofTask (keeps_createInvestigation env investigationData s)
    | debugExecuteAgentTool investigationId request =>
        exact keeps_ofTask (keeps_debugExecuteAgentTool _ request s)
  exact fun i hi => ⟨(hinv i hi).coupled, (hinv i hi).evidenced⟩

/-- One request to a server without any row, whose model asks for the bursts. -/
def sampleRequest : Worker backendInterface Session :=
  .ofTask (createInvestigation .strict .ascii (.hosted "find_connection_bursts") sampleQuestion) {}

/-- The database when it is through. -/
def afterRequest : Server := (sampleRequest.rest.run backend {} .empty).2.2

theorem investigations_consistent_sample :
    (∃ i ∈ afterRequest.db.investigations, i.status = "completed")
      ∧ ∀ i ∈ afterRequest.db.investigations, i.Coupled ∧ i.Evidenced afterRequest.db := by
  have hstart : SystemReaches .strict .ascii ⟨[], .empty⟩ ⟨[] ++ [sampleRequest], .empty⟩ :=
    .single (.start (.createInvestigation _ _))
  have hrun : SystemReaches .strict .ascii ⟨[] ++ [sampleRequest], .empty⟩
      ⟨[] ++ [⟨.ret (), (sampleRequest.rest.run backend {} .empty).2.1⟩], afterRequest⟩ :=
    Pool.reaches_run (fun _ _ _ => Or.inl rfl) [] _ _ _
  exact ⟨by decide +kernel, investigations_consistent rfl (hstart.trans hrun)⟩

end TracePilot
