import TracePilot.Values.Schema
import TracePilot.Backend.Models

/-!
# Request schemas

Pydantic coerces a JSON value to the type of a field and then checks the field's bounds.  The
coercions are the library's and stay a parameter, `Pydantic`; the fields, defaults and bounds
are the program's, and a validated model carries its bounds as fields, so that no code past the
validation can hold a value outside them.  Two checks are left to the library as well, since they
are no comparisons of the coerced value: which values a `Literal` takes, and whether `NaN` passes
the bound of a float.

`Pydantic.Lawful` lists the documented coercions that the program relies on.
-/

namespace TracePilot

/-- The conversions of pydantic's lax mode, and the texts of its errors. -/
structure Pydantic where
  int : Json → Option ℤ
  /-- `float` under `Field(ge=bound)`, with the check of the bound -/
  floatGe : (bound : ℚ) → Json → Option {x : PyFloat // x.lt bound = false}
  str : Json → Option String
  /-- `Literal[...]`: the expected integer that a value is taken for -/
  literal : (expected : List ℤ) → Json → Option {n : ℤ // n ∈ expected}
  /-- `IPvAnyAddress`: the address and its zone id, empty when there is none -/
  ip : Json → Option (IpAddress × String)
  datetime : Json → Option Datetime
  /-- `jsonable_encoder(error.errors())` for the named model and its input -/
  errors : String → Json → Json

/-- The documented conversions: a value of the target type is taken as it is, `NaN` passes no bound,
a float is the literal that it equals, the ISO 8601 text of an instant is an aware `datetime`, and
the text of an address is an address without a zone. -/
structure Pydantic.Lawful (py : Pydantic) : Prop where
  int_int : ∀ n, py.int (.int n) = some n
  floatGe_finite : ∀ bound q, py.floatGe bound (.float (.finite q))
    = if h : (PyFloat.finite q).lt bound = false then some ⟨.finite q, h⟩ else none
  floatGe_nan : ∀ bound, py.floatGe bound (.float .nan) = none
  str_str : ∀ s, py.str (.str s) = some s
  literal_int : ∀ expected n, py.literal expected (.int n)
    = if h : n ∈ expected then some ⟨n, h⟩ else none
  literal_float : ∀ expected (n : ℤ),
    py.literal expected (.float (.finite n)) = py.literal expected (.int n)
  datetime_iso : ∀ instant, Datetime.representable instant →
    ∃ d, py.datetime (.str (Datetime.utc instant).isoformat) = some d
      ∧ d.offset ≠ none ∧ Datetime.representable d.instant
  ip_text : ∀ address : IpAddress, ∃ address', py.ip (.str address.inetText) = some (address', "")

/-- `Literal[...]` by the equality of numbers. -/
def literalEqual (expected : List ℤ) (v : Json) : Option {n : ℤ // n ∈ expected} :=
  v.integer?.bind fun n => if h : n ∈ expected then some ⟨n, h⟩ else none

lemma literalEqual_float (expected : List ℤ) (n : ℤ) :
    literalEqual expected (.float (.finite n)) = literalEqual expected (.int n) := by
  simp [literalEqual, Json.integer?]

/-- The check of a bound that `NaN` does not pass. -/
def floatAtLeast (bound : ℚ) : Json → Option {x : PyFloat // x.lt bound = false}
  | .float .nan => none
  | .float x => if h : x.lt bound = false then some ⟨x, h⟩ else none
  | _ => none

/-! ## Fields -/

section Fields

variable {α : Type}

/-- A field of a model: the value under its name, or the default. -/
def fieldOf (convert : Json → Option α) (default : Option α) (name : String) (raw : Json) :
    Option α :=
  match raw.field name with
  | some v => convert v
  | none => default

/-- A conversion followed by the check of a bound, which the result carries. -/
def checked (ok : α → Prop) [DecidablePred ok] (convert : Json → Option α) (v : Json) :
    Option {x : α // ok x} :=
  (convert v).bind fun x => if h : ok x then some ⟨x, h⟩ else none

end Fields

/-! ## Ingestion -/

/-- A validated `ConnectionEventCreate`. -/
structure ConnectionEventCreate where
  timestamp : Datetime
  pid : {n : ℤ // 1 ≤ n}
  processName : {s : String // 1 ≤ s.length ∧ s.length ≤ 64}
  uid : {n : ℤ // 0 ≤ n}
  destinationIp : IpAddress × String
  destinationPort : {n : ℤ // 1 ≤ n ∧ n ≤ 65535}
  ipVersion : {n : ℤ // n ∈ [4, 6]}
  durationMs : Option {x : PyFloat // x.lt 0 = false}
  source : {s : String // s.length ≤ 20}

/-- `float | None = Field(default=None, ge=0)`, when there is a value. -/
def optionalFloatGe (py : Pydantic) (bound : ℚ) :
    Json → Option (Option {x : PyFloat // x.lt bound = false})
  | .null => some none
  | v => (py.floatGe bound v).map some

/-- `ConnectionEventCreate.model_validate`. -/
def ConnectionEventCreate.validate (py : Pydantic) (raw : Json) :
    Option ConnectionEventCreate := do
  let timestamp ← fieldOf py.datetime none "timestamp" raw
  let pid ← fieldOf (checked (fun n => 1 ≤ n) py.int) none "pid" raw
  let processName ←
    fieldOf (checked (fun s => 1 ≤ s.length ∧ s.length ≤ 64) py.str) none "process_name" raw
  let uid ← fieldOf (checked (fun n => 0 ≤ n) py.int) none "uid" raw
  let destinationIp ← fieldOf py.ip none "destination_ip" raw
  let destinationPort ←
    fieldOf (checked (fun n => 1 ≤ n ∧ n ≤ 65535) py.int) none "destination_port" raw
  let ipVersion ← fieldOf (py.literal [4, 6]) none "ip_version" raw
  let durationMs ← fieldOf (optionalFloatGe py 0) (some none) "duration_ms" raw
  let source ← fieldOf (checked (fun s => s.length ≤ 20) py.str) (some ⟨"ebpf", by decide⟩)
    "source" raw
  pure ⟨timestamp, pid, processName, uid, destinationIp, destinationPort, ipVersion, durationMs,
    source⟩

/-- The row that `create_event` and `create_event_batch` build from a validated event.  `INET`
has no notation for a zone, and the driver does not send every naive timestamp. -/
def ConnectionEventCreate.row (e : ConnectionEventCreate) (id : Uuid) (now : ℤ) :
    Option ConnectionEvent :=
  if e.destinationIp.2 = "" ∧ e.timestamp.encodable then
    some {
      id := id
      timestamp := e.timestamp.instant
      pid := e.pid
      processName := e.processName
      uid := e.uid
      destinationIp := e.destinationIp.1
      destinationPort := e.destinationPort
      ipVersion := e.ipVersion
      durationMs := e.durationMs.map Subtype.val
      source := e.source
      createdAt := now }
  else none

/-- `ConnectionEventBatch` requires 1 to 500 events. -/
def batchMinLength : ℕ := 1
@[inherit_doc batchMinLength] def batchMaxLength : ℕ := 500

/-- `ConnectionEventBatch.model_validate` on the list under `events`. -/
def ConnectionEventBatch.validate (py : Pydantic) (events : List Json) :
    Option (List ConnectionEventCreate) :=
  if batchMinLength ≤ events.length ∧ events.length ≤ batchMaxLength then
    events.mapM (ConnectionEventCreate.validate py)
  else none

/-! ## Investigations -/

/-- A validated `InvestigationCreate`. -/
structure InvestigationCreate where
  question : {s : String // 5 ≤ s.length ∧ s.length ≤ 2000}

end TracePilot
