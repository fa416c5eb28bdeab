import TracePilot.Library.Resumption
import TracePilot.Backend.Models

/-!
# One request, its session, and the database it shares

A request handler is a coroutine over one `AsyncSession`.  At every `await` other requests may
commit, so a handler is a `Task`: a tree of atomic operations on its own `Session` and the shared
`Server`.

What is assumed of the libraries is written into `backend`, the meaning of the operations:

* a statement sees what was committed when it started (READ COMMITTED);
* a bound `pid` outside 32 bits, an instant outside the years 1 to 9999, or a naive `datetime` on
  the first day of these, raises in the driver before anything is sent;
* a commit flushes every added or changed object in one transaction.  A refused statement rolls
  it back and leaves the session unusable: every later statement or commit raises until
  `rollback()`, which no handler of this program calls.

`Session.log` records what the session did, as a witness for statements about runs.  Nothing in
the program reads it.  `Interference` is what other requests may do in between.
-/

namespace TracePilot

open Resumption

/-- The exceptions the handlers raise or pass on. -/
inductive PyException
  | toolNotAllowed (message : String)
  | validation (details : Json)
  | evidence (message : String)
  | runtime (message : String)
  | nameError (message : String)
  | value (message : String)
  | database
  | pendingRollback
  | provider (message : String)
  | http (status : ℕ) (detail : String)

/-- The `WHERE` clause of a statement over `connection_events`: a conjunction of the comparisons
the program uses. -/
structure EventWhere where
  pid : Option ℤ := none
  /-- `timestamp >= since` -/
  since : Option Datetime := none
  /-- `timestamp < before` -/
  before : Option Datetime := none
  /-- `timestamp <= upTo` -/
  upTo : Option Datetime := none
  deriving DecidableEq

namespace EventWhere

/-- The rows the clause keeps. -/
def holds (w : EventWhere) (e : StoredEvent) : Bool :=
  w.pid.all (fun p => e.pid = p) && w.since.all (fun t => t.instant ≤ e.timestamp)
    && w.before.all (fun t => e.timestamp < t.instant)
    && w.upTo.all (fun t => e.timestamp ≤ t.instant)

/-- The driver can encode every bound parameter. -/
def binds (w : EventWhere) : Bool :=
  w.pid.all int4 && w.since.all (fun t => t.encodable) && w.before.all (fun t => t.encodable)
    && w.upTo.all (fun t => t.encodable)

end EventWhere

/-- What a session did: called a tool function, read the table, or tried to flush. -/
inductive Observation
  | invoked (tool : String) (arguments : Json)
  | selected (clause : EventWhere) (table : List StoredEvent)
  | flushed (db : Database) (rows : List Row) (changed : Option Investigation)

/-- The session of one request. -/
structure Session where
  new : List Draft := []
  changed : Option Investigation := none
  /-- the primary key of the investigation this session inserted -/
  own : Option Uuid := none
  unusable : Bool := false
  log : List Observation := []

/-- A reading of `datetime.now(timezone.utc)`: an instant after the epoch that a `datetime` can
hold. -/
abbrev Clock := {instant : ℤ // 0 ≤ instant ∧ Datetime.representable instant}

/-- A November night of 2023, the clock of the sample servers. -/
def Clock.sample : Clock := ⟨1700000000000000, by decide⟩

/-- The state all requests share: what is committed, the clock, and the next random UUID. -/
structure Server where
  db : Database
  clock : Clock
  uuid4 : Uuid

/-- A server with some events and nothing else. -/
def Server.holding (events : List StoredEvent) : Server := ⟨⟨events, [], []⟩, .sample, 7⟩

/-- The operations of a handler. -/
inductive DbOp
  | now
  | invoke (tool : String) (arguments : Json)
  | select (clause : EventWhere)
  | add (draft : Draft)
  | change (investigation : Investigation)
  | commit
  | refresh

/-- What each operation answers. -/
abbrev DbOp.Reply : DbOp → Type
  | .now => Clock
  | .invoke _ _ | .add _ | .change _ => Unit
  | .select _ => Except PyException (List StoredEvent)
  | .commit => Except PyException Unit
  | .refresh => Except PyException Investigation

/-- The operations with their replies. -/
abbrev backendInterface : Interface := ⟨DbOp, DbOp.Reply⟩

/-- A coroutine of the backend. -/
abbrev Handler (α : Type) := Task backendInterface PyException α

namespace Session

/-- The session with more observations. -/
def observing (l : Session) (observed : List Observation) : Session :=
  { l with log := l.log ++ observed }

/-- The session with one more observation. -/
def note (l : Session) (o : Observation) : Session := l.observing [o]

/-- Nothing waits for a flush, and the last flush went through. -/
structure Clean (l : Session) : Prop where
  new : l.new = []
  changed : l.changed = none
  usable : l.unusable = false

/-- The rows a flush would insert now. -/
def pending (l : Session) (s : Server) : List Row := l.new.map fun d => d.row s.uuid4 s.clock

/-- The session after a flush that went through. -/
def flushed (l : Session) (s : Server) : Session where
  new := []
  changed := none
  own := ((l.pending s).findSome? fun
    | .investigation i => some i.id
    | .agentToolCall _ => none).or l.own
  unusable := false
  log := l.log ++ [.flushed s.db (l.pending s) l.changed]

/-- The session after a flush that was refused: its transaction is gone and it is unusable. -/
def rolledBack (l : Session) (s : Server) : Session where
  new := []
  changed := none
  own := l.own
  unusable := true
  log := l.log ++ [.flushed s.db (l.pending s) l.changed]

@[simp] lemma observing_nil (l : Session) : l.observing [] = l := by simp [observing]

@[simp] lemma observing_observing (l : Session) (observed observed' : List Observation) :
    (l.observing observed).observing observed' = l.observing (observed ++ observed') := by
  simp [observing]

@[simp] lemma observing_log (l : Session) (observed : List Observation) :
    (l.observing observed).log = l.log ++ observed := rfl
@[simp] lemma observing_own (l : Session) (observed : List Observation) :
    (l.observing observed).own = l.own := rfl

lemma Clean.observing {l : Session} (hl : l.Clean) (observed : List Observation) :
    (l.observing observed).Clean :=
  ⟨hl.new, hl.changed, hl.usable⟩

end Session

/-- `session.commit()`. -/
def commitStep (l : Session) (s : Server) : Except PyException Unit × Session × Server :=
  if l.unusable then (.error .pendingRollback, l, s)
  else match s.db.flush (l.pending s) l.changed with
    | some db => (.ok (), l.flushed s, { s with db := db })
    | none => (.error .database, l.rolledBack s, s)

/-- `session.execute(select(...))`, up to the clauses after `WHERE`. -/
def selectStep (clause : EventWhere) (l : Session) (s : Server) :
    Except PyException (List StoredEvent) × Session × Server :=
  if l.unusable then (.error .pendingRollback, l, s)
  else if clause.binds then
    (.ok (s.db.connectionEvents.filter clause.holds),
      l.note (.selected clause s.db.connectionEvents), s)
  else (.error .database, l, s)

/-- `session.refresh(investigation)`: read back the row the session inserted. -/
def refreshStep (l : Session) (s : Server) : Except PyException Investigation × Session × Server :=
  if l.unusable then (.error .pendingRollback, l, s)
  else match l.own.bind fun id => (s.db.withId id).head? with
    | some i => (.ok i, l, s)
    | none => (.error .database, l, s)

/-- The meaning of the operations. -/
def backend : Machine backendInterface Session Server
  | .now, l, s => (s.clock, l, s)
  | .invoke tool arguments, l, s => ((), l.note (.invoked tool arguments), s)
  | .select clause, l, s => selectStep clause l s
  | .add draft, l, s => ((), { l with new := l.new ++ [draft] }, s)
  | .change investigation, l, s => ((), { l with changed := some investigation }, s)
  | .commit, l, s => commitStep l s
  | .refresh, l, s => refreshStep l s

/-! ## What other requests may do -/

/-- Between two operations of a session, other requests may insert events, audit records and
investigations, and finish their own investigations.  They delete nothing, and they leave the
investigation of this session alone: only the request that created one writes to it.  The clock
and the generator of random UUIDs are free, and so is the physical order of a table. -/
structure Interference (l : Session) (s s' : Server) : Prop where
  events : ∀ e ∈ s.db.connectionEvents, e ∈ s'.db.connectionEvents
  calls : ∀ c ∈ s.db.agentToolCalls, c ∈ s'.db.agentToolCalls
  investigations : ∀ id, s.db.withId id ≠ [] → s'.db.withId id ≠ []
  own : ∀ id, l.own = some id → s'.db.withId id = s.db.withId id

lemma Interference.refl (l : Session) (s : Server) : Interference l s s :=
  ⟨fun _ h => h, fun _ h => h, fun _ h => h, fun _ _ => rfl⟩

lemma Interference.trans {l l' : Session} {s s₁ s₂ : Server} (h : Interference l s s₁)
    (h' : Interference l' s₁ s₂) (hown : l'.own = l.own) : Interference l s s₂ where
  events e he := h'.events e (h.events e he)
  calls c hc := h'.calls c (h.calls c hc)
  investigations id hid := h'.investigations id (h.investigations id hid)
  own id hid := (h'.own id (hown.trans hid)).trans (h.own id hid)

namespace Handler

/-- `datetime.now(timezone.utc)`. -/
def now : Handler Clock := Task.perform (I := backendInterface) DbOp.now

/-- A tool function is called. -/
def invoke (tool : String) (arguments : Json) : Handler Unit :=
  Task.perform (I := backendInterface) (DbOp.invoke tool arguments)

/-- `await session.execute(select(...).where(...))`. -/
def select (clause : EventWhere) : Handler (List StoredEvent) := do
  Task.ofExcept (← Task.perform (I := backendInterface) (DbOp.select clause))

/-- `session.add(...)`. -/
def add (draft : Draft) : Handler Unit := Task.perform (I := backendInterface) (DbOp.add draft)

/-- Assignments to the attributes of a persistent investigation. -/
def change (investigation : Investigation) : Handler Unit :=
  Task.perform (I := backendInterface) (DbOp.change investigation)

/-- `await session.commit()`. -/
def commit : Handler Unit := do
  Task.ofExcept (← Task.perform (I := backendInterface) DbOp.commit)

/-- `await session.refresh(investigation)`. -/
def refresh : Handler Investigation := do
  Task.ofExcept (← Task.perform (I := backendInterface) DbOp.refresh)

end Handler

/-! ## One rule per operation

With these the proofs about handlers never open `backend` again.
-/

section Rules

variable {α : Type} {l : Session} {s : Server}

/-- The weakest precondition of a handler against other requests. -/
abbrev Handler.wp (p : Handler α) (Q : Except PyException α → Session → Server → Prop)
    (l : Session) (s : Server) : Prop :=
  Task.wp backend Interference p Q l s

/-- The outcomes of a handler over all interleavings with other requests. -/
abbrev Handler.Reaches (p : Handler α) (l : Session) (s : Server)
    (o : Except PyException α × Session × Server) : Prop :=
  Task.Reaches backend Interference p l s o

/-- The run of a handler while no other request is active. -/
abbrev Handler.run (p : Handler α) (l : Session) (s : Server) :
    Except PyException α × Session × Server :=
  Task.run backend p l s

/-- Sequencing. -/
lemma Handler.wp_bind {β : Type} {p : Handler α} {f : α → Handler β}
    {Q : Except PyException β → Session → Server → Prop} :
    Handler.wp (p >>= f) Q l s
      ↔ p.wp (Task.outcome (fun a => (f a).wp Q) fun e => Q (.error e)) l s :=
  Task.wp_bind p f Q l s

/-- `try p except: h`. -/
lemma Handler.wp_tryCatch {p : Handler α} {h : PyException → Handler α}
    {Q : Except PyException α → Session → Server → Prop} :
    Handler.wp (tryCatch p h) Q l s
      ↔ p.wp (Task.outcome (fun a => Q (.ok a)) fun e => (h e).wp Q) l s :=
  Task.wp_tryCatch p h Q l s

lemma Handler.wp_mono {p : Handler α} {Q Q' : Except PyException α → Session → Server → Prop}
    (h : p.wp Q l s) (hQ : ∀ r l s, Q r l s → Q' r l s) : p.wp Q' l s :=
  Task.wp_mono h hQ

lemma Handler.wp_iff_forall_reaches {p : Handler α}
    {Q : Except PyException α → Session → Server → Prop} :
    p.wp Q l s ↔ ∀ o, p.Reaches l s o → Q o.1 o.2.1 o.2.2 :=
  Task.wp_iff_forall_reaches

lemma Handler.reaches_run (p : Handler α) (l : Session) (s : Server) :
    p.Reaches l s (p.run l s) :=
  Task.reaches_run Interference.refl p l s

variable {Q : Except PyException Clock → Session → Server → Prop}

lemma wp_now : Handler.now.wp Q l s ↔ ∀ s', Interference l s s' → Q (.ok s'.clock) l s' :=
  Iff.rfl

lemma wp_invoke {tool : String} {arguments : Json}
    {Q : Except PyException Unit → Session → Server → Prop} :
    (Handler.invoke tool arguments).wp Q l s
      ↔ ∀ s', Interference l s s' → Q (.ok ()) (l.note (.invoked tool arguments)) s' :=
  Iff.rfl

lemma wp_add {draft : Draft} {Q : Except PyException Unit → Session → Server → Prop} :
    (Handler.add draft).wp Q l s
      ↔ ∀ s', Interference l s s' → Q (.ok ()) { l with new := l.new ++ [draft] } s' :=
  Iff.rfl

lemma wp_change {i : Investigation} {Q : Except PyException Unit → Session → Server → Prop} :
    (Handler.change i).wp Q l s
      ↔ ∀ s', Interference l s s' → Q (.ok ()) { l with changed := some i } s' :=
  Iff.rfl

lemma wp_select {clause : EventWhere}
    {Q : Except PyException (List StoredEvent) → Session → Server → Prop} :
    (Handler.select clause).wp Q l s ↔ ∀ s', Interference l s s' →
      Q (selectStep clause l s').1 (selectStep clause l s').2.1 (selectStep clause l s').2.2 := by
  rw [Handler.wp, Handler.select, Task.wp_bind]
  exact Iff.rfl

lemma wp_commit {Q : Except PyException Unit → Session → Server → Prop} :
    Handler.commit.wp Q l s ↔ ∀ s', Interference l s s' →
      Q (commitStep l s').1 (commitStep l s').2.1 (commitStep l s').2.2 := by
  rw [Handler.wp, Handler.commit, Task.wp_bind]
  exact Iff.rfl

lemma wp_refresh {Q : Except PyException Investigation → Session → Server → Prop} :
    Handler.refresh.wp Q l s ↔ ∀ s', Interference l s s' →
      Q (refreshStep l s').1 (refreshStep l s').2.1 (refreshStep l s').2.2 := by
  rw [Handler.wp, Handler.refresh, Task.wp_bind]
  exact Iff.rfl

/-- On a usable session a select either reads the whole table once or raises before sending. -/
lemma select_of_usable {clause : EventWhere}
    {Q : Except PyException (List StoredEvent) → Session → Server → Prop}
    (hl : l.unusable = false)
    (hok : clause.binds = true → ∀ s', Interference l s s' →
      Q (.ok (s'.db.connectionEvents.filter clause.holds))
        (l.note (.selected clause s'.db.connectionEvents)) s')
    (herr : clause.binds = false → ∀ s', Interference l s s' → Q (.error .database) l s') :
    (Handler.select clause).wp Q l s := by
  rw [wp_select]
  intro s' hR
  simp only [selectStep, hl]
  cases hb : clause.binds with
  | true => exact hok hb s' hR
  | false => exact herr hb s' hR

lemma run_now_bind (f : Clock → Handler α) :
    (Handler.now >>= f).run l s = (f s.clock).run l s := rfl

lemma run_select (clause : EventWhere) :
    (Handler.select clause).run l s = selectStep clause l s := rfl

/-- A select that the driver can send. -/
lemma run_select_bind (hl : l.unusable = false) {clause : EventWhere} (hb : clause.binds = true)
    (f : List StoredEvent → Handler α) :
    (Handler.select clause >>= f).run l s
      = (f (s.db.connectionEvents.filter clause.holds)).run
        (l.note (.selected clause s.db.connectionEvents)) s := by
  refine Task.run_bind_of_ok ((run_select clause).trans ?_)
  simp only [selectStep, hl, hb, if_true, Bool.false_eq_true, if_false]

/-- A select whose parameters the driver cannot encode. -/
lemma run_select_bind_of_not_binds (hl : l.unusable = false) {clause : EventWhere}
    (hb : clause.binds = false) (f : List StoredEvent → Handler α) :
    (Handler.select clause >>= f).run l s = (.error .database, l, s) := by
  refine Task.run_bind_of_error ((run_select clause).trans ?_)
  simp only [selectStep, hl, hb, Bool.false_eq_true, if_false]

/-- Reading the clock, sending one statement and answering with its rows. -/
lemma run_now_select (clause : ℤ → EventWhere) (answer : List StoredEvent → α)
    (hl : l.unusable = false) (hb : (clause s.clock).binds = true) :
    ((do let now ← Handler.now
         let rows ← Handler.select (clause now.1)
         pure (answer rows) : Handler α).run l s).1
      = .ok (answer (s.db.connectionEvents.filter (clause s.clock).holds)) := by
  rw [run_now_bind]
  exact congrArg Prod.fst (run_select_bind hl hb _)

variable (baseline recent : ℤ → EventWhere) (answer : List StoredEvent → List StoredEvent → α)

/-- Read the clock and two windows, and answer. -/
def Handler.readInTwo : Handler α := do
  let now ← Handler.now
  let before ← Handler.select (baseline now.1)
  let after ← Handler.select (recent now.1)
  pure (answer before after)

/-- On a single state both statements read the same table. -/
lemma run_readInTwo (hl : l.unusable = false) (hb : (baseline s.clock).binds = true)
    (hb' : (recent s.clock).binds = true) :
    ((Handler.readInTwo baseline recent answer).run l s).1
      = .ok (answer (s.db.connectionEvents.filter (baseline s.clock).holds)
        (s.db.connectionEvents.filter (recent s.clock).holds)) := by
  rw [Handler.readInTwo, run_now_bind, run_select_bind hl hb]
  exact congrArg Prod.fst (run_select_bind (by exact hl) hb' _)

lemma run_readInTwo_of_not_binds (hl : l.unusable = false)
    (hb : (baseline s.clock).binds = false) :
    ((Handler.readInTwo baseline recent answer).run l s).1 = .error .database := by
  rw [Handler.readInTwo, run_now_bind, run_select_bind_of_not_binds hl hb]

/-- On a usable session a commit flushes, or is refused and leaves the session unusable. -/
lemma commit_of_usable {Q : Except PyException Unit → Session → Server → Prop}
    (hl : l.unusable = false)
    (hok : ∀ s' db, Interference l s s' → s'.db.flush (l.pending s') l.changed = some db →
      Q (.ok ()) (l.flushed s') { s' with db := db })
    (herr : ∀ s', Interference l s s' → s'.db.flush (l.pending s') l.changed = none →
      Q (.error .database) (l.rolledBack s') s') :
    Handler.commit.wp Q l s := by
  rw [wp_commit]
  intro s' hR
  simp only [commitStep, hl]
  cases hf : s'.db.flush (l.pending s') l.changed with
  | some db => exact hok s' db hR hf
  | none => exact herr s' hR hf

end Rules

end TracePilot
