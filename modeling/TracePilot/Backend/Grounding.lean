import TracePilot.Backend.Requests

/-!
# Citations of stored events

A completed investigation cites events by their ids, in the text of its answer, and no foreign key
refers from there to `connection_events`.  The ids come from rows that a tool has read, and rows are
never removed.

* `Database.Flushed` — everything that a flush may write.  **`faulty_inv`** says the same of an
  operation and of what is left for the next flush, whether it works or fails.
* **`citations_stored`** — in every reachable state, each event that a completed investigation cites
  is stored.
-/

namespace TracePilot

open Resumption

/-! ## Everything that an operation may do -/

/-- What a flush of these objects may write: the rows of the new investigations, and the changed
one.  Events are not touched. -/
structure Database.Flushed (new : List Draft) (changed : Option Investigation)
    (db db' : Database) : Prop where
  events : db'.connectionEvents = db.connectionEvents
  investigations : ∀ i ∈ db'.investigations, i ∈ db.investigations
    ∨ .investigation i.question i.status ∈ new ∨ changed = some i

section Inversion

variable {db db' : Database} {l l' : Session} {s s' : Server}

lemma flushed_insert {d : Draft} {id : Uuid} {now : ℤ}
    (hinsert : db.insert (d.row id now) = some db') : db.Flushed [d] none db' := by
  cases d with
  | investigation question status =>
      rw [Draft.row, Database.insert] at hinsert
      split_ifs at hinsert
      obtain rfl := Option.some.inj hinsert
      refine ⟨rfl, fun i hi => ?_⟩
      rcases List.mem_append.mp hi with hi | hi
      · exact Or.inl hi
      · obtain rfl := List.mem_singleton.mp hi
        exact Or.inr (Or.inl (List.mem_singleton_self _))
  | agentToolCall investigationId toolName arguments result =>
      rw [Draft.row, Database.insert] at hinsert
      split_ifs at hinsert
      obtain rfl := Option.some.inj hinsert
      exact ⟨rfl, fun i hi => Or.inl hi⟩

lemma flushed_inserts {drafts : List Draft} {id : Uuid} {now : ℤ} :
    ∀ {db db' : Database},
      (drafts.map fun d => d.row id now).foldlM Database.insert db = some db' →
        db.Flushed drafts none db' := by
  induction drafts with
  | nil =>
      intro db db' hinsert
      obtain rfl := Option.some.inj hinsert
      exact ⟨rfl, fun i hi => Or.inl hi⟩
  | cons d drafts ih =>
      intro db db' hinsert
      rw [List.map_cons, List.foldlM_cons] at hinsert
      obtain ⟨db₁, hfirst, hrest⟩ := Option.bind_eq_some_iff.mp hinsert
      have h := flushed_insert hfirst
      have h' := ih hrest
      refine ⟨h'.events.trans h.events, fun i hi => ?_⟩
      rcases h'.investigations i hi with hi | hi | hi
      · rcases h.investigations i hi with hi | hi | hi
        · exact Or.inl hi
        · exact Or.inr (Or.inl (List.mem_singleton.mp hi ▸ List.mem_cons_self))
        · cases hi
      · exact Or.inr (Or.inl (List.mem_cons_of_mem _ hi))
      · cases hi

/-- **What a flush writes.** -/
lemma flushed_of_flush (hflush : s.db.flush (l.pending s) l.changed = some db') :
    s.db.Flushed l.new l.changed db' := by
  obtain ⟨db₁, hinsert, hupdate⟩ := Option.bind_eq_some_iff.mp hflush
  have h := flushed_inserts hinsert
  cases hchanged : l.changed with
  | none =>
      rw [hchanged] at hupdate
      obtain rfl := Option.some.inj hupdate
      exact h
  | some c =>
      rw [hchanged] at hupdate
      change db₁.update c = some db' at hupdate
      rw [Database.update] at hupdate
      split_ifs at hupdate
      obtain rfl := Option.some.inj hupdate
      refine ⟨h.events, fun i hi => ?_⟩
      obtain ⟨j, hj, rfl⟩ := List.mem_map.mp hi
      split_ifs
      · exact Or.inr (Or.inr rfl)
      · rcases h.investigations j hj with hj | hj | hj
        · exact Or.inl hj
        · exact Or.inr (Or.inl hj)
        · cases hj

/-- What an operation leaves for the next flush, and what it writes. -/
structure OpDone (op : DbOp) (l : Session) (s : Server) (l' : Session) (s' : Server) : Prop where
  new : ∀ d ∈ l'.new, d ∈ l.new ∨ op = .add d
  changed : ∀ i, l'.changed = some i → l.changed = some i ∨ op = .change i
  written : s'.db = s.db ∨ s.db.Flushed l.new l.changed s'.db

lemma Session.AfterFailure.opDone {op : DbOp} (h : l.AfterFailure l')
    (hwritten : s'.db = s.db ∨ s.db.Flushed l.new l.changed s'.db) : OpDone op l s l' s' := by
  refine ⟨fun d hd => Or.inl ?_, fun i hi => Or.inl ?_, hwritten⟩
  · rcases h.new with hnew | hnew
    · exact hnew ▸ hd
    · rw [hnew] at hd
      cases hd
  · rcases h.changed with hchanged | hchanged
    · exact hchanged ▸ hi
    · rw [hchanged] at hi
      cases hi

/-- An operation that works. -/
lemma backend_opDone (op : DbOp) (l : Session) (s : Server) :
    OpDone op l s (backend op l s).2.1 (backend op l s).2.2 := by
  cases op with
  | now => exact ⟨fun d hd => Or.inl hd, fun i hi => Or.inl hi, Or.inl rfl⟩
  | invoke tool arguments => exact ⟨fun d hd => Or.inl hd, fun i hi => Or.inl hi, Or.inl rfl⟩
  | add d =>
      refine ⟨fun d' hd' => ?_, fun i hi => Or.inl hi, Or.inl rfl⟩
      rcases List.mem_append.mp hd' with hd' | hd'
      · exact Or.inl hd'
      · exact Or.inr (congrArg DbOp.add (List.mem_singleton.mp hd').symm)
  | change c =>
      exact ⟨fun d hd => Or.inl hd, fun i hi => Or.inr (congrArg DbOp.change (Option.some.inj hi)),
        Or.inl rfl⟩
  | select clause =>
      change OpDone _ l s (selectStep clause l s).2.1 (selectStep clause l s).2.2
      unfold selectStep
      split_ifs <;> exact ⟨fun d hd => Or.inl hd, fun i hi => Or.inl hi, Or.inl rfl⟩
  | refresh =>
      change OpDone _ l s (refreshStep l s).2.1 (refreshStep l s).2.2
      unfold refreshStep
      split_ifs
      · exact ⟨fun d hd => Or.inl hd, fun i hi => Or.inl hi, Or.inl rfl⟩
      · cases l.own.bind fun id => (s.db.withId id).head? <;>
          exact ⟨fun d hd => Or.inl hd, fun i hi => Or.inl hi, Or.inl rfl⟩
  | commit =>
      change OpDone _ l s (commitStep l s).2.1 (commitStep l s).2.2
      unfold commitStep
      split_ifs
      · exact ⟨fun d hd => Or.inl hd, fun i hi => Or.inl hi, Or.inl rfl⟩
      · cases hflush : s.db.flush (l.pending s) l.changed with
        | none => exact ⟨nofun, nofun, Or.inl rfl⟩
        | some db => exact ⟨nofun, nofun, Or.inr (flushed_of_flush hflush)⟩

/-- **Everything that an operation may do**, whether it works or fails. -/
lemma faulty_inv {op : DbOp} {r : op.Reply} (h : faultyBackend op l s r l' s') :
    OpDone op l s l' s' := by
  rcases h with h | h
  · have hdone := backend_opDone op l s
    rwa [← h] at hdone
  · cases op with
    | select clause => exact h.2.1.opDone (Or.inl (congrArg Server.db h.2.2))
    | refresh => exact h.2.1.opDone (Or.inl (congrArg Server.db h.2.2))
    | commit =>
        obtain ⟨-, hafter, rfl | ⟨db, hflush, rfl⟩⟩ := h
        · exact hafter.opDone (Or.inl rfl)
        · exact hafter.opDone (Or.inr (flushed_of_flush hflush))
    | now => exact h.elim
    | invoke tool arguments => exact h.elim
    | add d => exact h.elim
    | change c => exact h.elim

end Inversion

/-! ## Cited events -/

/-- An event is stored under this id. -/
def Database.HasEvent (db : Database) (id : String) : Prop :=
  ∃ e ∈ db.connectionEvents, e.id.str = id

/-- A completed investigation cites stored events only. -/
def Investigation.Grounded (db : Database) (i : Investigation) : Prop :=
  i.status = "completed" → ∃ report, i.answer = some report
    ∧ ∀ id, IsEventId id → Cites report id → db.HasEvent id

/-- So do all stored ones. -/
def Grounded (s : Server) : Prop := ∀ i ∈ s.db.investigations, i.Grounded s.db

/-- No event is lost. -/
def EventsKept (s s' : Server) : Prop :=
  ∀ e ∈ s.db.connectionEvents, e ∈ s'.db.connectionEvents

instance : Std.Refl EventsKept := ⟨fun _ _ h => h⟩

instance : IsTrans Server EventsKept := ⟨fun _ _ _ h h' e he => h' e (h e he)⟩

/-- What a session has still to flush cites stored events only. -/
structure Session.Grounded (l : Session) (s : Server) : Prop where
  new : ∀ d ∈ l.new, d.Sound
  changed : ∀ i, l.changed = some i → i.Grounded s.db

section Invariant

variable {s s' : Server} {l l' : Session}

lemma Investigation.Grounded.mono {i : Investigation} (hi : i.Grounded s.db)
    (h : EventsKept s s') : i.Grounded s'.db := by
  intro hstatus
  obtain ⟨report, hanswer, hcited⟩ := hi hstatus
  refine ⟨report, hanswer, fun id hid hcites => ?_⟩
  obtain ⟨e, he, heid⟩ := hcited id hid hcites
  exact ⟨e, h e he, heid⟩

lemma Session.Grounded.mono (hl : l.Grounded s) (h : EventsKept s s') : l.Grounded s' :=
  ⟨hl.new, fun i hi => (hl.changed i hi).mono h⟩

/-- The operations that cite stored events only. -/
def GroundedOp (s : Server) : DbOp → Prop
  | .add d => d.Sound
  | .change i => i.Grounded s.db
  | _ => True

/-- **Every operation** of this kind keeps the citations grounded. -/
lemma grounded_step {op : DbOp} {r : op.Reply} (hop : GroundedOp s op) (hl : l.Grounded s)
    (hs : Grounded s) (h : faultyBackend op l s r l' s') :
    EventsKept s s' ∧ Grounded s' ∧ l'.Grounded s' := by
  obtain ⟨hnew, hchanged, hwritten⟩ := faulty_inv h
  have hevents : s'.db.connectionEvents = s.db.connectionEvents :=
    hwritten.elim (congrArg _) fun hflushed => hflushed.events
  have hkept : EventsKept s s' := fun e he => hevents ▸ he
  refine ⟨hkept, fun i hi => ?_, fun d hd => ?_, fun i hi => ?_⟩
  · rcases hwritten with hsame | hflushed
    · exact (hs i (hsame ▸ hi)).mono hkept
    · rcases hflushed.investigations i hi with hi | hi | hi
      · exact (hs i hi).mono hkept
      · intro hstatus
        exact absurd ((hl.new _ hi).symm.trans hstatus) (by decide)
      · exact (hl.changed i hi).mono hkept
  · rcases hnew d hd with hd | rfl
    · exact hl.new d hd
    · exact hop
  · rcases hchanged i hi with hi | rfl
    · exact (hl.changed i hi).mono hkept
    · exact Investigation.Grounded.mono hop hkept

end Invariant

/-! ## Handlers -/

section Handlers

variable {α : Type} {l : Session} {s : Server}

/-- The handler keeps the citations grounded and loses no event, and it ends with `Q`. -/
abbrev Handler.Grounds (p : Handler α) (Q : Except PyException α → Session → Server → Prop)
    (l : Session) (s : Server) : Prop :=
  Task.Keeps faultyBackend Grounded EventsKept p Q l s

lemma Handler.Grounds.mono {p : Handler α} {Q Q' : Except PyException α → Session → Server → Prop}
    (h : p.Grounds Q l s) (hQ : ∀ r l' s', EventsKept s s' → Q r l' s' → Q' r l' s') :
    p.Grounds Q' l s :=
  Proc.Keeps.mono h hQ

/-- A handler that ends with `Q`, and with `V` of what it returned. -/
abbrev Handler.Returns (p : Handler α) (V : α → Server → Prop) (l : Session) (s : Server) : Prop :=
  p.Grounds (fun r l' s' => l'.Grounded s' ∧ ∀ a, r = .ok a → V a s') l s

/-- Sequencing: what is returned last counts. -/
lemma Handler.Returns.bind {β : Type} {p : Handler α} {f : α → Handler β} {V : α → Server → Prop}
    {W : β → Server → Prop} (hp : p.Returns V l s)
    (hf : ∀ a l' s', EventsKept s s' → l'.Grounded s' → V a s' → (f a).Returns W l' s') :
    (p >>= f).Returns W l s := by
  refine (Task.keeps_bind _ _ _ _ _).mpr (hp.mono ?_)
  rintro r l' s' hkept ⟨hl', hr⟩
  cases r with
  | ok a => exact hf a l' s' hkept hl' (hr a rfl)
  | error e => exact ⟨hl', fun b hb => error_ne_ok hb⟩

lemma returns_pure {a : α} {V : α → Server → Prop} (hl : l.Grounded s) (ha : V a s) :
    (pure a : Handler α).Returns V l s :=
  ⟨hl, fun _ hb => Except.ok.inj hb ▸ ha⟩

lemma returns_throw {e : PyException} {V : α → Server → Prop} (hl : l.Grounded s) :
    (throw e : Handler α).Returns V l s :=
  ⟨hl, fun _ hb => error_ne_ok hb⟩

lemma returns_ofExcept {r : Except PyException α} {V : α → Server → Prop} (hl : l.Grounded s)
    (hr : ∀ a, r = .ok a → V a s) : Handler.Returns (Task.ofExcept r) V l s :=
  ⟨hl, hr⟩

/-- One operation, with what its replies say. -/
lemma returns_perform (op : DbOp) {V : op.Reply → Server → Prop} (hl : l.Grounded s)
    (hop : ∀ s₁, EventsKept s s₁ → GroundedOp s₁ op)
    (hreply : ∀ s₁ r l' s', faultyBackend op l s₁ r l' s' → EventsKept s₁ s' → V r s') :
    Handler.Returns (Task.perform (I := backendInterface) op) V l s := by
  intro s₁ h₁ hs₁ r l' s' h
  obtain ⟨hkept, hs', hl'⟩ := grounded_step (hop s₁ h₁) (hl.mono h₁) hs₁ h
  refine ⟨hkept, hs', hl', fun a ha => ?_⟩
  obtain rfl := Except.ok.inj ha
  exact hreply s₁ r l' s' h hkept

lemma returns_now (hl : l.Grounded s) : Handler.now.Returns (fun _ _ => True) l s :=
  returns_perform .now hl (fun _ _ => trivial) fun _ _ _ _ _ _ => trivial

lemma returns_add {d : Draft} (hd : d.Sound) (hl : l.Grounded s) :
    (Handler.add d).Returns (fun _ _ => True) l s :=
  returns_perform (.add d) hl (fun _ _ => hd) fun _ _ _ _ _ _ => trivial

lemma returns_change {i : Investigation} (hi : i.Grounded s.db) (hl : l.Grounded s) :
    (Handler.change i).Returns (fun _ _ => True) l s :=
  returns_perform (.change i) hl (fun _ h => hi.mono h) fun _ _ _ _ _ _ => trivial

lemma returns_commit (hl : l.Grounded s) : Handler.commit.Returns (fun _ _ => True) l s :=
  (returns_perform .commit (V := fun _ _ => True) hl (fun _ _ => trivial)
    fun _ _ _ _ _ _ => trivial).bind fun _ _ _ _ hl' _ => returns_ofExcept hl' fun _ _ => trivial

lemma returns_refresh (hl : l.Grounded s) : Handler.refresh.Returns (fun _ _ => True) l s :=
  (returns_perform .refresh (V := fun _ _ => True) hl (fun _ _ => trivial)
    fun _ _ _ _ _ _ => trivial).bind fun _ _ _ _ hl' _ => returns_ofExcept hl' fun _ _ => trivial

/-- The rows of a statement are stored ones. -/
def ReadBy (clause : EventWhere) (rows : List StoredEvent) (s : Server) : Prop :=
  ∃ q : Statement, q.clause = clause ∧ rows = q.rows ∧ ∀ e ∈ q.table, e ∈ s.db.connectionEvents

lemma returns_select (clause : EventWhere) (hl : l.Grounded s) :
    (Handler.select clause).Returns (ReadBy clause) l s := by
  refine (returns_perform (.select clause)
    (V := fun r s' => ∀ rows, r = .ok rows → ReadBy clause rows s') hl
    (fun _ _ => trivial) ?_).bind fun r l' s' _ hl' hr => returns_ofExcept hl' hr
  intro s₁ r l' s' h hkept rows hr
  rcases h with h | ⟨⟨e, he⟩, -⟩
  · have hreply : r = (selectStep clause l s₁).1 := congrArg Prod.fst h
    rw [hr] at hreply
    unfold selectStep at hreply
    split_ifs at hreply
    obtain rfl := Except.ok.inj hreply
    exact ⟨⟨clause, s₁.db.connectionEvents⟩, rfl, rfl, hkept⟩
  · exact error_ne_ok (he.symm.trans hr)

/-! ## The tools -/

/-- What a tool answers from stored rows. -/
def AnswersFrom (c : AcceptedCall) (v : Json) (s : Server) : Prop :=
  ∃ read, c.Answer read v ∧ ∀ q ∈ read, ∀ e ∈ q.table, e ∈ s.db.connectionEvents

/-- A tool that sends one statement and formats its rows. -/
lemma returns_readThenFormat {c : AcceptedCall} {clause : EventWhere}
    {format : List StoredEvent → Json} (hl : l.Grounded s)
    (hanswer : ∀ q : Statement, q.clause = clause → c.Answer [q] (format q.rows)) :
    Handler.Returns (do let rows ← Handler.select clause; pure (format rows)) (AnswersFrom c)
      l s := by
  refine (returns_select clause hl).bind ?_
  rintro _ l' s' _ hl' ⟨q, hclause, rfl, htable⟩
  exact returns_pure hl' ⟨[q], hanswer q hclause, by simpa using htable⟩

/-- **Every tool function** answers from stored rows. -/
lemma returns_function (c : AcceptedCall) (hl : l.Grounded s) :
    c.function.Returns (AnswersFrom c) l s := by
  cases c with
  | processConnections a =>
      exact returns_readThenFormat hl fun q hq => ⟨q, rfl, hq, rfl⟩
  | topNetworkProcesses a =>
      exact (returns_now hl).bind fun _ _ _ _ hl' _ =>
        returns_readThenFormat hl' fun q hq => ⟨_, q, rfl, hq, rfl⟩
  | connectionBursts a =>
      exact (returns_now hl).bind fun _ _ _ _ hl' _ =>
        returns_readThenFormat hl' fun q hq => ⟨_, q, rfl, hq, rfl⟩
  | unusualDestinations a =>
      refine (returns_now hl).bind fun now l₁ s₁ _ hl₁ _ => (returns_select _ hl₁).bind ?_
      rintro _ l₂ s₂ _ hl₂ ⟨q, hclause, rfl, htable⟩
      refine (returns_select _ hl₂).bind ?_
      rintro _ l₃ s₃ hkept hl₃ ⟨q', hclause', rfl, htable'⟩
      refine returns_pure hl₃ ⟨[q, q'], ⟨now, q, q', rfl, hclause, hclause', rfl⟩, ?_⟩
      simp only [List.mem_cons, List.not_mem_nil, or_false, forall_eq_or_imp, forall_eq]
      exact ⟨fun e he => hkept e (htable e he), htable'⟩
  | eventTimeline a =>
      exact (returns_now hl).bind fun _ _ _ _ hl' _ =>
        returns_readThenFormat hl' fun q hq => ⟨_, q, rfl, hq, rfl⟩

variable {lib : Libraries} {u : Unicode} {investigationId : Uuid}

/-- Events are stored under these ids. -/
def IdsStored (ids : Finset String) (s : Server) : Prop := ∀ id ∈ ids, s.db.HasEvent id

lemma IdsStored.mono {ids : Finset String} {s s' : Server} (h : IdsStored ids s)
    (hkept : EventsKept s s') : IdsStored ids s' := by
  intro id hid
  obtain ⟨e, he, heid⟩ := h id hid
  exact ⟨e, hkept e he, heid⟩

lemma AnswersFrom.idsStored {c : AcceptedCall} {v : Json} {s : Server} (h : AnswersFrom c v s) :
    IdsStored (extractToolEventIds v) s := by
  intro id hid
  obtain ⟨read, hanswer, htable⟩ := h
  obtain ⟨q, hq, e, he, heid⟩ := hanswer.ids hid
  exact ⟨e, htable q hq e (List.mem_of_mem_filter he), heid⟩

lemma returns_audit {toolName : String} {arguments result : Json} (hl : l.Grounded s) :
    (audit investigationId toolName arguments result).Returns (fun _ _ => True) l s := by
  have hd : (Draft.agentToolCall investigationId toolName arguments result).Sound := trivial
  exact (returns_add hd hl).bind fun _ _ _ _ hl' _ => returns_commit hl'

/-- **A tool execution that answers** names stored events only. -/
lemma returns_executeAgentTool (hlib : lib.EncodesJson) (toolName : String) (raw : Json)
    (hl : l.Grounded s) : (executeAgentTool lib toolName raw investigationId).Returns
      (fun v s' => IdsStored (extractToolEventIds v) s') l s := by
  have hrefusal : ∀ {arguments result : Json} {e : PyException},
      Handler.Returns (do audit investigationId toolName arguments result; throw e)
        (fun v s' => IdsStored (extractToolEventIds v) s') l s :=
    (returns_audit hl).bind fun _ _ _ _ hl' _ => returns_throw hl'
  unfold executeAgentTool
  split
  · exact hrefusal
  case h_2 tool hname =>
    split
    · exact hrefusal
    case h_2 a hraw =>
      obtain ⟨c, -, hfun, -⟩ := acceptedCall_eq_some hname hraw
      rw [hfun]
      refine (returns_perform (.invoke toolName (tool.modelDump a)) (V := fun _ _ => True) hl
        (fun _ _ => trivial) fun _ _ _ _ _ _ => trivial).bind fun _ l₁ s₁ _ hl₁ _ => ?_
      refine (returns_function c hl₁).bind fun v l₂ s₂ _ hl₂ hv => ?_
      have hencoded : lib.jsonableEncoder v = v := hv.choose_spec.1.encode hlib
      refine (returns_audit hl₂).bind fun _ l₃ s₃ hkept hl₃ _ => returns_pure hl₃ ?_
      rw [hencoded]
      exact hv.idsStored.mono hkept

/-! ## The agent -/

/-- One request of a round adds ids of stored events. -/
lemma returns_executeRequest (hlib : lib.EncodesJson) (request : ToolRequest)
    {acc : Finset String × List ToolResult} (hl : l.Grounded s) (hacc : IdsStored acc.1 s) :
    (executeRequest lib investigationId acc request).Returns
      (fun acc s' => IdsStored acc.1 s') l s := by
  refine (returns_executeAgentTool hlib request.name request.arguments hl).bind ?_
  intro v l' s' hkept hl' hv
  refine returns_pure hl' fun id hid => ?_
  rcases Finset.mem_union.mp hid with hid | hid
  · exact hacc.mono hkept id hid
  · exact hv id hid

/-- A report that passes the evidence check against stored ids. -/
def CitesStored (report : String) (s : Server) : Prop :=
  ∀ id, IsEventId id → Cites report id → s.db.HasEvent id

lemma returns_judged {allowed : Finset String} (hl : l.Grounded s) (hallowed : IdsStored allowed s)
    (text : Option String) :
    Handler.Returns (do
      let report ← Task.ofExcept (reportText text)
      Task.ofExcept (validateReportEvidence report allowed)
      pure report) CitesStored l s := by
  refine (returns_ofExcept (V := fun _ _ => True) hl fun _ _ => trivial).bind ?_
  intro report l₁ s₁ hkept hl₁ _
  refine (returns_ofExcept (V := fun _ _ => validateReportEvidence report allowed = .ok ()) hl₁
    fun _ h => h).bind ?_
  intro _ l₂ s₂ hkept' hl₂ hvalid
  have hcited := ((validateReportEvidence_eq_ok report allowed).mp hvalid).1
  exact returns_pure hl₂ fun id hid hcites =>
    (hallowed.mono hkept).mono hkept' id (hcited id hid hcites)

/-- The loop over rounds: the induction is on the rounds left. -/
lemma returns_agentLoop (hlib : lib.EncodesJson) (provider : LLMProvider) (rounds : ℕ) :
    ∀ (allowed : Finset String) (response : ProviderResponse provider.State) (l : Session)
      (s : Server), l.Grounded s → IdsStored allowed s →
      (agentLoop lib investigationId provider rounds allowed response).Returns CitesStored l s := by
  induction rounds with
  | zero => exact fun allowed response l s hl _ => returns_throw hl
  | succ rounds ih =>
      intro allowed response l s hl hallowed
      rw [agentLoop]
      cases hrequests : response.toolRequests with
      | nil => exact returns_judged hl hallowed response.text
      | cons request requests =>
          have hround : Handler.Returns ((request :: requests).foldlM
              (executeRequest lib investigationId) (allowed, []))
              (fun acc s' => IdsStored acc.1 s') l s := by
            refine (Task.keeps_foldlM _
              (fun acc l s => l.Grounded s ∧ IdsStored acc.1 s) (fun _ l s => l.Grounded s) _
              (fun r _ acc l s h => ?_) (allowed, []) l s ⟨hl, hallowed⟩).mono ?_
            · refine (returns_executeRequest hlib r h.1 h.2).mono fun o l' s' _ ho => ?_
              cases o with
              | ok acc => exact ⟨ho.1, ho.2 acc rfl⟩
              | error e => exact ho.1
            · intro o l' s' _ ho
              cases o with
              | ok acc => exact ⟨ho.1, fun _ ha => Except.ok.inj ha ▸ ho.2⟩
              | error e => exact ⟨ho, fun _ ha => error_ne_ok ha⟩
          refine hround.bind fun acc l₁ s₁ _ hl₁ hacc => ?_
          refine (returns_ofExcept (V := fun _ _ => True) hl₁ fun _ _ => trivial).bind ?_
          intro response' l₂ s₂ hkept hl₂ _
          exact ih acc.1 response' l₂ s₂ hl₂ (hacc.mono hkept)

/-- **A report that the agent returns** cites stored events only. -/
lemma returns_agent (hlib : lib.EncodesJson) (env : Environment) (question : String)
    (provider : Option LLMProvider) (hl : l.Grounded s) :
    (runInvestigationAgent lib investigationId u env question provider).Returns CitesStored
      l s := by
  unfold runInvestigationAgent
  cases (provider.map Except.ok).getD (createLlmProvider u env) with
  | error e => exact returns_throw hl
  | ok provider =>
      refine (returns_ofExcept (V := fun _ _ => True) hl fun _ _ => trivial).bind ?_
      intro response l₁ s₁ _ hl₁ _
      refine returns_agentLoop hlib provider maximumRounds ∅ response l₁ s₁ hl₁ ?_
      simp [IdsStored]

/-! ## The endpoints -/

lemma returns_completeInvestigation (hlib : lib.EncodesJson) (env : Environment)
    (i : Investigation) (hl : l.Grounded s) :
    (completeInvestigation lib u env i).Returns (fun _ _ => True) l s := by
  refine (returns_agent hlib env i.question none hl).bind fun answer l₁ s₁ _ hl₁ hcited => ?_
  refine (returns_now hl₁).bind fun completedAt l₂ s₂ hkept hl₂ _ => ?_
  have hgrounded : Investigation.Grounded s₂.db { i with
      answer := some answer
      status := "completed"
      completedAt := some completedAt.1 } := by
    refine fun _ => ⟨answer, rfl, fun id hid hcites => ?_⟩
    obtain ⟨e, he, heid⟩ := hcited id hid hcites
    exact ⟨e, hkept e he, heid⟩
  refine (returns_change hgrounded hl₂).bind fun _ l₃ s₃ _ hl₃ _ => ?_
  exact (returns_commit hl₃).bind fun _ _ _ _ hl₄ _ => returns_refresh hl₄

lemma returns_failInvestigation (i : Investigation) (hl : l.Grounded s) :
    (failInvestigation i).Returns (fun _ _ => True) l s := by
  refine (returns_now hl).bind fun completedAt l₁ s₁ _ hl₁ _ => ?_
  have hgrounded : Investigation.Grounded s₁.db { i with
      status := "failed"
      answer := some failedAnswer
      completedAt := some completedAt.1 } := fun hstatus => absurd hstatus (by simp)
  refine (returns_change hgrounded hl₁).bind fun _ l₂ s₂ _ hl₂ _ => ?_
  exact (returns_commit hl₂).bind fun _ _ _ _ hl₃ _ => returns_throw hl₃

/-- A session without work. -/
lemma Session.grounded_empty (s : Server) : Session.Grounded {} s := ⟨by simp, by simp⟩

/-- `try p except: h`, for a handler of any exception. -/
lemma Handler.Returns.tryCatch {p : Handler α} {h : PyException → Handler α}
    (hp : p.Returns (fun _ _ => True) l s)
    (hh : ∀ e l' s', l'.Grounded s' → (h e).Returns (fun _ _ => True) l' s') :
    Handler.Returns (MonadExcept.tryCatch p h) (fun _ _ => True) l s := by
  refine (Task.keeps_tryCatch _ _ _ _ _).mpr (hp.mono ?_)
  rintro r l' s' - ⟨hl', -⟩
  cases r with
  | ok a => exact ⟨hl', fun _ _ => trivial⟩
  | error e => exact hh e l' s' hl'

lemma returns_createInvestigation (hlib : lib.EncodesJson) (env : Environment)
    (investigationData : InvestigationCreate) (s : Server) :
    (createInvestigation lib u env investigationData).Returns (fun _ _ => True) {} s := by
  have hd : (Draft.investigation investigationData.question "running").Sound := rfl
  refine (returns_add hd (Session.grounded_empty s)).bind fun _ l₁ s₁ _ hl₁ _ => ?_
  refine (returns_commit hl₁).bind fun _ l₂ s₂ _ hl₂ _ => ?_
  refine (returns_refresh hl₂).bind fun i l₃ s₃ _ hl₃ _ => ?_
  exact (returns_completeInvestigation hlib env i hl₃).tryCatch fun _ _ _ hl₄ =>
    returns_failInvestigation i hl₄

lemma returns_debugExecuteAgentTool (hlib : lib.EncodesJson) (found : Bool)
    (request : AgentToolExecutionRequest) (s : Server) :
    (debugExecuteAgentTool lib investigationId found request).Returns (fun _ _ => True) {} s := by
  have hl := Session.grounded_empty s
  rw [debugExecuteAgentTool]
  cases found with
  | false => exact returns_pure hl trivial
  | true =>
      refine Handler.Returns.tryCatch ((returns_executeAgentTool hlib request.toolName
        (.obj request.arguments) hl).bind fun _ _ _ _ hl' _ => returns_pure hl' trivial) ?_
      intro e l' s' hl'
      cases e <;> first | exact returns_pure hl' trivial | exact returns_throw hl'

/-- A request that keeps the citations grounded does so as a worker. -/
lemma grounds_ofTask {p : Handler α} {V : α → Server → Prop} (h : p.Returns V l s) :
    Proc.Keeps faultyBackend Grounded EventsKept (Worker.ofTask p l).rest (fun _ _ _ => True)
      (Worker.ofTask p l).state s :=
  (Proc.keeps_bind _ _ _ _ _).mpr (Handler.Grounds.mono h fun _ _ _ _ _ => trivial)

/-- Ingestion adds events, and touches no investigation. -/
lemma grounded_elsewhere {s' : Server} (hs : Grounded s) (h : Elsewhere lib s s') :
    EventsKept s s' ∧ Grounded s' := by
  obtain ⟨hkept, hinvestigations⟩ : EventsKept s s'
      ∧ s'.db.investigations = s.db.investigations := by
    cases h with
    | createEvent h => exact ⟨fun e he => List.mem_append_left _ he, rfl⟩
    | createEventBatch h =>
        obtain ⟨_, _, _, -, hdb⟩ := h
        exact ⟨fun e he => hdb ▸ List.mem_append_left _ he, by rw [hdb]⟩
    | ticks clock uuid4 => exact ⟨fun e he => he, rfl⟩
  exact ⟨hkept, fun i hi => (hs i (hinvestigations ▸ hi)).mono hkept⟩

end Handlers

/-- **Cited events are stored**: whatever requests run, in whatever order, and whatever fails, every
event that the answer of a completed investigation cites is a row of `connection_events`, in every
reachable state. -/
theorem citations_stored {lib : Libraries} (hlib : lib.EncodesJson) {u : Unicode} {s₀ : Server}
    (hinit : s₀.db.investigations = []) {x : Pool backendInterface Session Server}
    (h : SystemReaches lib u ⟨[], s₀⟩ x) :
    ∀ i ∈ x.shared.db.investigations, i.status = "completed" → ∃ report, i.answer = some report
      ∧ ∀ id, IsEventId id → Cites report id →
        ∃ e ∈ x.shared.db.connectionEvents, e.id.str = id := by
  have hinit' : Grounded s₀ := by simp [Grounded, hinit]
  refine (Pool.invariant (T := EventsKept) (fun s s' => grounded_elsewhere) ?_ hinit' h).1
  intro s w _ hw
  cases hw with
  | createInvestigation env investigationData =>
      exact grounds_ofTask (returns_createInvestigation hlib env investigationData s)
  | debugExecuteAgentTool investigationId request =>
      exact grounds_ofTask (returns_debugExecuteAgentTool hlib _ request s)

/-- A request to a server with one event, whose model asks for the timeline and cites the event. -/
def citingRequest : Worker backendInterface Session :=
  .ofTask (createInvestigation .strict .ascii {
    llmProvider := some "gemini"
    gemini := .ok (.scripted ⟨"call", "get_event_timeline", .obj [("pid", .int 42)]⟩
      "Seen once: [event:00000000-0000-0000-0000-000000000005].")
    openai := .error .database } sampleQuestion) {}

/-- The database when it is through. -/
def afterCitingRequest : Server :=
  (citingRequest.rest.run backend {} (.holding [sampleEvent])).2.2

theorem citations_stored_sample :
    (∃ i ∈ afterCitingRequest.db.investigations, i.status = "completed")
      ∧ ∀ i ∈ afterCitingRequest.db.investigations, i.status = "completed" →
        ∃ report, i.answer = some report ∧ ∀ id, IsEventId id → Cites report id →
          ∃ e ∈ afterCitingRequest.db.connectionEvents, e.id.str = id := by
  have hstart : SystemReaches .strict .ascii ⟨[], .holding [sampleEvent]⟩
      ⟨[] ++ [citingRequest], .holding [sampleEvent]⟩ :=
    .single (.start (.createInvestigation _ _))
  have hrun : SystemReaches .strict .ascii ⟨[] ++ [citingRequest], .holding [sampleEvent]⟩
      ⟨[] ++ [⟨.ret (), (citingRequest.rest.run backend {} (.holding [sampleEvent])).2.1⟩],
        afterCitingRequest⟩ :=
    Pool.reaches_run (fun _ _ _ => Or.inl rfl) [] _ _ _
  exact ⟨by decide +kernel, citations_stored Libraries.strict_encodesJson rfl (hstart.trans hrun)⟩

end TracePilot
