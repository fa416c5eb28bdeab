import TracePilot.Library.Table
import TracePilot.Backend.Schemas

/-!
# The ingestion endpoints

`POST /events/batch` validates the whole body, builds one row for each event and inserts the rows
in one transaction: either every event is stored or none is.  Key and creation time of a row are
defaults that its `ConnectionEvent` draws on insertion.  `POST /events` does the same for one event.

* **`createEventBatch_rows`** — what it stores are the rows of the posted events, in their order.
-/

namespace TracePilot

/-- The row of an event, if every column takes it. -/
def ConnectionEventCreate.storedRow (c : ConnectionEventCreate) (id : Uuid) (now : ℤ) :
    Option StoredEvent :=
  (c.row id now).bind fun row => if h : row.fits then some ⟨row, h⟩ else none

/-- The rows of a batch, with their defaults. -/
def batchRows : List ConnectionEventCreate → List (Uuid × ℤ) → Option (List StoredEvent)
  | [], _ => some []
  | _ :: _, [] => none
  | c :: batch, (id, now) :: defaults => do
      let row ← c.storedRow id now
      let rows ← batchRows batch defaults
      pure (row :: rows)

/-- `create_event_batch` on a table: the rows it inserts, or `none` where it answers with an
error.  The primary key admits no identifier twice. -/
def createEventBatch (py : Pydantic) (events : List Json) (defaults : List (Uuid × ℤ))
    (stored : List StoredEvent) : Option (List StoredEvent) := do
  let batch ← ConnectionEventBatch.validate py events
  let rows ← batchRows batch defaults
  if ((stored ++ rows).map fun row => row.id).Nodup then some rows else none

/-- `create_event` on a table: the row it inserts, or `none` where it answers with an error. -/
def createEvent (py : Pydantic) (event : Json) (default : Uuid × ℤ) (stored : List StoredEvent) :
    Option StoredEvent := do
  let c ← ConnectionEventCreate.validate py event
  let row ← c.storedRow default.1 default.2
  if ((stored ++ [row]).map fun row => row.id).Nodup then some row else none

/-- Conversions that take values of the target type, an instant in seconds and an address as a
number. -/
def Pydantic.numeric : Pydantic where
  int
    | .int n => some n
    | _ => none
  floatGe := floatAtLeast
  str
    | .str s => some s
    | _ => none
  literal := literalEqual
  ip
    | .int n => some (.v4 (BitVec.ofInt 32 n), "")
    | _ => none
  datetime
    | .int n => some (Datetime.utc (n * 1000000))
    | _ => none
  errors _ _ := .arr []

/-- A connection of `curl` to port 443 of 8.8.8.8, as it is posted. -/
def postedEvent (pid seconds : ℤ) : Json :=
  .obj [("timestamp", .int seconds), ("pid", .int pid), ("process_name", .str "curl"),
    ("uid", .int 1000), ("destination_ip", .int 0x08080808), ("destination_port", .int 443),
    ("ip_version", .int 4)]

/-- `row` is what the API makes of the posted value. -/
def IsRowOf (py : Pydantic) (event : Json) (row : StoredEvent) : Prop :=
  ∃ c id now, ConnectionEventCreate.validate py event = some c
    ∧ c.row id now = some row.toConnectionEvent

variable {py : Pydantic}

lemma storedRow_eq_some {c : ConnectionEventCreate} {id : Uuid} {now : ℤ} {row : StoredEvent}
    (h : c.storedRow id now = some row) : c.row id now = some row.toConnectionEvent := by
  obtain ⟨row', hrow, hfits⟩ := Option.bind_eq_some_iff.mp h
  split_ifs at hfits
  rw [hrow, ← Option.some.inj hfits]

lemma batchRows_spec {events : List Json} {batch : List ConnectionEventCreate}
    (hvalidate : List.Forall₂ (fun event c => ConnectionEventCreate.validate py event = some c)
      events batch) :
    ∀ {defaults : List (Uuid × ℤ)} {rows : List StoredEvent},
      batchRows batch defaults = some rows → List.Forall₂ (IsRowOf py) events rows := by
  induction hvalidate with
  | nil =>
      intro defaults rows hrows
      obtain rfl : [] = rows := by simpa [batchRows] using hrows
      exact .nil
  | cons hc _ ih =>
      intro defaults rows hrows
      cases defaults with
      | nil => cases hrows
      | cons default defaults =>
          obtain ⟨id, now⟩ := default
          obtain ⟨row, hrow, hrows⟩ := Option.bind_eq_some_iff.mp hrows
          obtain ⟨rows', hrows', hrows⟩ := Option.bind_eq_some_iff.mp hrows
          obtain rfl := Option.some.inj hrows
          exact .cons ⟨_, id, now, hc, storedRow_eq_some hrow⟩ (ih hrows')

/-- **What the endpoint stores**: one row for each posted event, in their order. -/
theorem createEventBatch_rows {events : List Json} {defaults : List (Uuid × ℤ)}
    {stored rows : List StoredEvent}
    (h : createEventBatch py events defaults stored = some rows) :
    List.Forall₂ (IsRowOf py) events rows := by
  obtain ⟨batch, hbatch, h⟩ := Option.bind_eq_some_iff.mp h
  obtain ⟨rows', hrows, h⟩ := Option.bind_eq_some_iff.mp h
  split_ifs at h
  obtain rfl := Option.some.inj h
  rw [ConnectionEventBatch.validate] at hbatch
  split_ifs at hbatch
  exact batchRows_spec (Table.mapM_eq_some_iff.mp hbatch) hrows

end TracePilot
