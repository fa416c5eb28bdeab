import TracePilot.Values.Json
import TracePilot.Values.Wire

/-!
# The three tables and what their columns hold

`connection_events`, `investigations` and `agent_tool_calls`, with the domains PostgreSQL
enforces on their columns: `Integer` is 32 bits wide, `String(n)` counts characters, no text
holds NUL, and `JSONB` refuses NUL and the float values JSON has no notation for.

A `StoredEvent` carries the proof that it passed its columns, so a table cannot hold a row the
database would have refused.
-/

namespace TracePilot

/-! ## Column domains -/

/-- `Integer`. -/
def int4 (n : ℤ) : Bool := -2147483648 ≤ n && n ≤ 2147483647

/-- `String(width)`. -/
def varchar (width : ℕ) (s : String) : Bool := s.length ≤ width && noNul s

/-- The scalars `JSONB` stores. -/
def jsonbLeaf : Json → Bool
  | .str s => noNul s
  | .float x => x.isFinite
  | _ => true

/-- `JSONB`: no NUL in a text or a key, no `NaN` and no infinity. -/
def jsonb (v : Json) : Bool := v.every jsonbLeaf noNul

/-! ## `connection_events` -/

/-- A row of `connection_events`.  Timestamps are microseconds since the epoch. -/
structure ConnectionEvent where
  id : Uuid
  timestamp : ℤ
  pid : ℤ
  processName : String
  uid : ℤ
  destinationIp : IpAddress
  destinationPort : ℤ
  ipVersion : ℤ
  durationMs : Option PyFloat
  source : String
  createdAt : ℤ

/-- The column domains of `connection_events`. -/
def ConnectionEvent.fits (e : ConnectionEvent) : Prop :=
  Datetime.representable e.timestamp ∧ int4 e.pid = true ∧ varchar 64 e.processName = true
    ∧ int4 e.uid = true ∧ int4 e.destinationPort = true ∧ int4 e.ipVersion = true
    ∧ varchar 20 e.source = true

instance (e : ConnectionEvent) : Decidable e.fits := by
  unfold ConnectionEvent.fits
  infer_instance

/-- A row that is in the table: its columns accepted it. -/
structure StoredEvent extends ConnectionEvent where
  ok : toConnectionEvent.fits

/-- The name of a stored event has no NUL. -/
lemma StoredEvent.noNul_processName (e : StoredEvent) : noNul e.processName = true := by
  have h := e.ok.2.2.1
  rw [varchar, Bool.and_eq_true] at h
  exact h.2

/-- A connection of `curl` to port 443 of a public address, the event of the sample tables. -/
def StoredEvent.curl (id : Uuid) (pid timestamp : ℤ) (hpid : int4 pid = true)
    (htimestamp : Datetime.representable timestamp) : StoredEvent where
  id := id
  timestamp := timestamp
  pid := pid
  processName := "curl"
  uid := 1000
  destinationIp := .v4 0x08080808
  destinationPort := 443
  ipVersion := 4
  durationMs := none
  source := "ebpf"
  createdAt := timestamp
  ok := ⟨htimestamp, hpid, (by decide : varchar 64 "curl" = true), rfl, rfl, rfl,
    (by decide : varchar 20 "ebpf" = true)⟩

lemma int4_seven : int4 7 = true := rfl

/-- Ten seconds before the clock of the sample servers. -/
lemma representable_recent : Datetime.representable 1699999990000000 := by decide

/-- The primary key: no two rows share an id. -/
def Keyed (rows : List StoredEvent) : Prop := (rows.map fun e => e.id).Nodup

instance (rows : List StoredEvent) : Decidable (Keyed rows) := by
  unfold Keyed
  infer_instance

namespace Keyed

variable {rows rows' : List StoredEvent}

lemma sublist (h : Keyed rows) (hsub : rows'.Sublist rows) : Keyed rows' :=
  List.Nodup.sublist (hsub.map _) h

lemma eq (h : Keyed rows) {e e' : StoredEvent} (he : e ∈ rows) (he' : e' ∈ rows)
    (hid : e.id.str = e'.id.str) : e = e' :=
  List.inj_on_of_nodup_map h he he' (Uuid.str_injective hid)

/-- The texts of the keys differ as well. -/
lemma nodup_str (h : Keyed rows) : (rows.map fun e => e.id.str).Nodup := by
  have hids : (rows.map fun e => e.id.str) = (rows.map fun e => e.id).map Uuid.str := by
    simp [Function.comp_def]
  rw [hids]
  exact h.map Uuid.str_injective

end Keyed

/-! ## `investigations` and `agent_tool_calls` -/

/-- A row of `investigations`. -/
structure Investigation where
  id : Uuid
  question : String
  status : String
  answer : Option String
  createdAt : ℤ
  completedAt : Option ℤ
  deriving DecidableEq

/-- The column domains of `investigations`. -/
def Investigation.fits (i : Investigation) : Bool :=
  noNul i.question && varchar 20 i.status && (i.answer.map noNul).getD true

/-- A row of `agent_tool_calls`, without its surrogate key. -/
structure AgentToolCall where
  investigationId : Uuid
  toolName : String
  arguments : Json
  result : Json
  createdAt : ℤ

/-- The column domains of `agent_tool_calls`. -/
def AgentToolCall.fits (c : AgentToolCall) : Bool :=
  varchar 100 c.toolName && jsonb c.arguments && jsonb c.result

/-! ## The committed state -/

/-- What is committed. -/
structure Database where
  connectionEvents : List StoredEvent
  investigations : List Investigation
  agentToolCalls : List AgentToolCall

/-- An object added to a session, with the values its constructor was called with. -/
inductive Draft
  | investigation (question status : String)
  | agentToolCall (investigationId : Uuid) (toolName : String) (arguments result : Json)

/-- A row that an `INSERT` carries. -/
inductive Row
  | investigation (row : Investigation)
  | agentToolCall (row : AgentToolCall)

/-- The column defaults are evaluated when the object is flushed. -/
def Draft.row (id : Uuid) (now : ℤ) : Draft → Row
  | .investigation question status => .investigation ⟨id, question, status, none, now, none⟩
  | .agentToolCall investigationId toolName arguments result =>
      .agentToolCall ⟨investigationId, toolName, arguments, result, now⟩

namespace Database

/-- The rows of `investigations` with a given key. -/
def withId (db : Database) (id : Uuid) : List Investigation :=
  db.investigations.filter fun i => i.id = id

/-- The database with one more audit record. -/
def withCall (db : Database) (c : AgentToolCall) : Database :=
  { db with agentToolCalls := db.agentToolCalls ++ [c] }

/-- The database with one more investigation. -/
def withInvestigation (db : Database) (i : Investigation) : Database :=
  { db with investigations := db.investigations ++ [i] }

/-- The database with every row under the key of `i` replaced by `i`. -/
def replacing (db : Database) (i : Investigation) : Database :=
  { db with investigations := db.investigations.map fun j => if j.id = i.id then i else j }

/-- One `INSERT`, refused on a domain, primary key or foreign key violation. -/
def insert (db : Database) : Row → Option Database
  | .investigation i =>
      if i.fits = true ∧ db.withId i.id = [] then some (db.withInvestigation i) else none
  | .agentToolCall c =>
      if c.fits = true ∧ db.withId c.investigationId ≠ [] then some (db.withCall c) else none

/-- The `UPDATE` of a changed investigation. -/
def update (db : Database) (i : Investigation) : Option Database :=
  if i.fits = true ∧ db.withId i.id ≠ [] then some (db.replacing i) else none

/-- A flush: every `INSERT`, then the `UPDATE` if an object changed.  One refused statement
refuses all of them. -/
def flush (db : Database) (rows : List Row) (changed : Option Investigation) : Option Database :=
  (rows.foldlM Database.insert db).bind fun db =>
    match changed with
    | some i => db.update i
    | none => some db

/-- An audit record alone: it must fit its columns and refer to an investigation. -/
lemma flush_agentToolCall (db : Database) (c : AgentToolCall) :
    db.flush [.agentToolCall c] none
      = if c.fits = true ∧ db.withId c.investigationId ≠ [] then some (db.withCall c)
        else none := by
  simp only [flush, List.foldlM_cons, List.foldlM_nil, insert]
  split_ifs <;> rfl

/-- An investigation alone: it must fit its columns and have a fresh key. -/
lemma flush_investigation (db : Database) (i : Investigation) :
    db.flush [.investigation i] none
      = if i.fits = true ∧ db.withId i.id = [] then some (db.withInvestigation i) else none := by
  simp only [flush, List.foldlM_cons, List.foldlM_nil, insert]
  split_ifs <;> rfl

/-- A change alone. -/
lemma flush_changed (db : Database) (i : Investigation) :
    db.flush [] (some i)
      = if i.fits = true ∧ db.withId i.id ≠ [] then some (db.replacing i) else none := rfl

lemma withId_withInvestigation {db : Database} {i : Investigation} (h : db.withId i.id = []) :
    (db.withInvestigation i).withId i.id = [i] := by
  rw [withId] at h
  simp [withId, withInvestigation, h]

/-- Replacing the only row under a key leaves one row under it, the new one. -/
lemma withId_replacing {db : Database} {i j : Investigation} (h : db.withId i.id = [j]) :
    (db.replacing i).withId i.id = [i] := by
  have hkey : ∀ k : Investigation, (if k.id = i.id then i else k).id = i.id ↔ k.id = i.id := by
    intro k
    split_ifs with hk <;> simp [hk]
  have hj : j.id = i.id := by
    have hmem : j ∈ db.withId i.id := by rw [h]; simp
    simpa [withId] using (List.mem_filter.mp hmem).2
  have hfilter : (db.replacing i).withId i.id
      = (db.withId i.id).map fun k => if k.id = i.id then i else k := by
    simp only [withId, replacing, List.filter_map, Function.comp_def, hkey]
  rw [hfilter, h]
  simp [hj]

end Database

end TracePilot
