import TracePilot.Values.Schema
import TracePilot.Backend.AgentRuns

/-!
# The published schemas of the tools

Each argument of a tool is declared three times: in the JSON schema that the model is given, in the
pydantic model that validates a call, and in the column that the query compares it with.
`TOOLS` is the first declaration.

**`honoured_iff`** compares the three: over all interleavings with other requests, exactly the
objects whose values the columns have room for are taken as they are and answered, among those that
their schema accepts.
-/

namespace TracePilot

open Rfc3339 Resumption

/-! ## The schemas -/

/-- A tool as the model is told of it. -/
structure FunctionTool where
  name : String
  parameters : ObjectSchema

/-- A schema that requires all its properties and allows no others. -/
def closedSchema (properties : List (String × PropertySchema)) : ObjectSchema where
  properties := properties
  required := properties.map Prod.fst
  additionalProperties := false

/-- `TOOLS`. -/
def TOOLS : List FunctionTool := [
  ⟨"get_process_connections", closedSchema [
    ("pid", .integer 1 none),
    ("start_time", .dateTime),
    ("end_time", .dateTime)]⟩,
  ⟨"get_top_network_processes", closedSchema [
    ("minutes", .integer 1 (some 1440)),
    ("limit", .integer 1 (some 100))]⟩,
  ⟨"find_connection_bursts", closedSchema [
    ("threshold", .integer 1 (some 10000)),
    ("minutes", .integer 1 (some 1440))]⟩,
  ⟨"find_unusual_destinations", closedSchema [
    ("pid", .integer 1 none)]⟩,
  ⟨"get_event_timeline", closedSchema [
    ("pid", .integer 1 none)]⟩]

/-- Every tool that is published is registered. -/
lemma registered_of_published {tool : FunctionTool} (htool : tool ∈ TOOLS) (py : Pydantic) :
    ∃ definition, (toolRegistry py).lookup tool.name = some definition := by
  simp only [TOOLS, List.mem_cons, List.not_mem_nil, or_false] at htool
  rcases htool with rfl | rfl | rfl | rfl | rfl
  · exact ⟨processConnectionsTool py, rfl⟩
  · exact ⟨topNetworkProcessesTool py, rfl⟩
  · exact ⟨connectionBurstsTool py, rfl⟩
  · exact ⟨unusualDestinationsTool py, rfl⟩
  · exact ⟨eventTimelineTool py, rfl⟩

/-! ## Reading the values of a schema -/

/-- The `datetime` of a timestamp: its fraction is cut to microseconds, and there is none in the
year zero or for a leap second. -/
def Datetime.ofTimestamp (t : Timestamp) : Option Datetime :=
  if 1 ≤ t.year ∧ t.second ≤ 59 then
    some ⟨t.seconds * 1000000 + t.microsecond, some (t.offset * 60)⟩
  else none

/-- The documented conversions of JSON numbers and RFC 3339 texts: an integer is taken as it is, a
float without a fraction as the integer it is or, when a float no longer tells it from its
neighbours, perhaps not at all, and the text of a timestamp is a `datetime`. -/
structure Pydantic.ReadsJson (py : Pydantic) : Prop where
  int_int : ∀ n, py.int (.int n) = some n
  int_float : ∀ q : ℚ, q.den = 1 → |q.num| < 9007199254740992 →
    py.int (.float (.finite q)) = some q.num
  int_eq : ∀ v n m, v.integer? = some n → py.int v = some m → m = n
  datetime_timestamp : ∀ text t, Rfc3339.parse text = some t →
    py.datetime (.str text) = Datetime.ofTimestamp t

/-- Libraries that read the integers and the timestamps of JSON, and nothing else. -/
def Libraries.exact : Libraries :=
  { Libraries.strict with
    int := Json.integer?
    datetime := fun v => v.timestamp?.bind Datetime.ofTimestamp }

lemma Libraries.exact_encodesJson : Libraries.exact.EncodesJson := fun _ _ => rfl

lemma Libraries.exact_readsJson : Libraries.exact.ReadsJson where
  int_int _ := rfl
  int_float q hq _ := if_pos hq
  int_eq _ _ _ hn hm := Option.some.inj (hm.symm.trans hn)
  datetime_timestamp text t ht := by
    change (Rfc3339.parse text).bind Datetime.ofTimestamp = _
    rw [ht, Option.bind_some]

/-- The integers a column can hold are taken as they are, however they are written. -/
lemma Pydantic.ReadsJson.int_of_small {py : Pydantic} (hpy : py.ReadsJson) {v : Json} {n : ℤ}
    (hv : v.integer? = some n) (hn : |n| < 9007199254740992) : py.int v = some n := by
  cases v with
  | int m => exact (hpy.int_int m).trans hv
  | float x =>
      cases x with
      | finite q =>
          rw [Json.integer?] at hv
          split_ifs at hv with hden
          obtain rfl := Option.some.inj hv
          exact hpy.int_float q hden hn
      | _ => cases hv
  | _ => cases hv

section Fields

variable {py : Pydantic} {raw : Json} {name : String}

/-- A bounded field, from an object that has an integer there. -/
lemma fieldOf_checked (hpy : py.ReadsJson) {n : ℤ} (hn : raw.integerAt name = some n)
    (ok : ℤ → Prop) [DecidablePred ok] (default : Option {n : ℤ // ok n}) :
    (∀ m, fieldOf (checked ok py.int) default name raw = some m → m.1 = n)
      ∧ ∀ hok : ok n, |n| < 9007199254740992 →
        fieldOf (checked ok py.int) default name raw = some ⟨n, hok⟩ := by
  obtain ⟨v, hv, hn⟩ := Option.bind_eq_some_iff.mp hn
  simp only [fieldOf, hv, checked]
  constructor
  · intro m hm
    obtain ⟨k, hk, hm⟩ := Option.bind_eq_some_iff.mp hm
    split_ifs at hm
    obtain rfl := Option.some.inj hm
    exact hpy.int_eq v n k hn hk
  · intro hok hsmall
    rw [hpy.int_of_small hn hsmall, Option.bind_some, dif_pos hok]

/-- A field with a timestamp. -/
lemma fieldOf_datetime (hpy : py.ReadsJson) {t : Timestamp} (ht : raw.timestampAt name = some t) :
    fieldOf py.datetime none name raw = Datetime.ofTimestamp t := by
  obtain ⟨v, hv, ht⟩ := Option.bind_eq_some_iff.mp ht
  cases v with
  | str text =>
      rw [fieldOf, hv]
      exact hpy.datetime_timestamp text t ht
  | _ => cases ht

end Fields

/-! ## The same values -/

/-- A `datetime` is the instant of the timestamp in a field. -/
def SameInstant (raw : Json) (name : String) (d : Datetime) : Prop :=
  ∃ t, raw.timestampAt name = some t ∧ (d.instant : ℚ) = t.instant * 1000000

/-- The validated arguments are the values of the object. -/
def AcceptedCall.SameValues (raw : Json) : AcceptedCall → Prop
  | processConnections a => raw.integerAt "pid" = some a.pid.1
      ∧ SameInstant raw "start_time" a.startTime ∧ SameInstant raw "end_time" a.endTime
  | topNetworkProcesses a => raw.integerAt "minutes" = some a.minutes.1
      ∧ raw.integerAt "limit" = some a.limit.1
  | connectionBursts a => raw.integerAt "threshold" = some a.threshold.1
      ∧ raw.integerAt "minutes" = some a.minutes.1
  | unusualDestinations a => raw.integerAt "pid" = some a.pid.1
  | eventTimeline a => raw.integerAt "pid" = some a.pid.1

/-- **A published schema is honoured** by a call: the tool is found, its arguments model accepts the
object with the same values, and the call returns a result. -/
def Honoured (lib : Libraries) (toolName : String) (raw : Json)
    (o : Except PyException Json × Session × Server) : Prop :=
  (∃ definition, (toolRegistry lib.toPydantic).lookup toolName = some definition)
    ∧ (∃ c, acceptedCall lib.toPydantic toolName raw = some c ∧ c.SameValues raw)
    ∧ ∃ v, o.1 = .ok v

/-- A timestamp that a `timestamptz` column can be compared with: a second of the common calendar,
in whole microseconds, within the years 1 to 9999 of UTC. -/
structure Comparable (t : Timestamp) : Prop where
  year : 1 ≤ t.year
  second : t.second ≤ 59
  microseconds : t.WholeMicroseconds
  instant : -62135596800 ≤ t.instant ∧ t.instant < 253402300800

/-- The columns have room for the values of the object. -/
structure FitsColumns (raw : Json) : Prop where
  pid : ∀ n ∈ raw.integerAt "pid", n < 2147483648
  startTime : ∀ t ∈ raw.timestampAt "start_time", Comparable t
  endTime : ∀ t ∈ raw.timestampAt "end_time", Comparable t

/-- The durations among the rows of `get_process_connections` are finite. -/
def FiniteDurations (toolName : String) (read : List Statement) : Prop :=
  toolName = "get_process_connections" → ∀ q ∈ read, ∀ e ∈ processConnectionsRows q.rows,
    ∀ x ∈ e.durationMs, x.isFinite = true

/-- What becomes of a timestamp is the same instant, and one that the driver can send, exactly when
the timestamp is `Comparable`. -/
lemma comparable_iff {t : Timestamp} :
    Comparable t ↔ ∃ d, Datetime.ofTimestamp t = some d ∧ (d.instant : ℚ) = t.instant * 1000000
      ∧ d.encodable := by
  have hinstant : (⟨t.seconds * 1000000 + t.microsecond, some (t.offset * 60)⟩ : Datetime).instant
      = t.seconds * 1000000 + t.microsecond - t.offset * 60 * 1000000 := rfl
  have hrange : ∀ n : ℤ, (n : ℚ) = t.instant * 1000000 →
      (Datetime.representable n ↔ -62135596800 ≤ t.instant ∧ t.instant < 253402300800) := by
    intro n hn
    rw [Datetime.representable, ← Int.cast_le (R := ℚ), ← Int.cast_lt (R := ℚ), hn]
    push_cast
    constructor
    · rintro ⟨h, h'⟩
      constructor <;> linarith
    · rintro ⟨h, h'⟩
      constructor <;> linarith
  constructor
  · intro h
    have hsame := t.floor_eq_iff.mpr h.microseconds
    refine ⟨_, if_pos ⟨h.year, h.second⟩, ?_, ?_⟩
    · rw [hinstant]
      exact hsame
    · rw [Datetime.encodable_iff_of_offset (by simp), hinstant]
      exact (hrange _ hsame).mpr h.instant
  · rintro ⟨d, hd, hsame, hrep⟩
    rw [Datetime.ofTimestamp] at hd
    split_ifs at hd with hcalendar
    obtain rfl := Option.some.inj hd
    exact ⟨hcalendar.1, hcalendar.2, t.floor_eq_iff.mp hsame, (hrange _ hsame).mp hrep.1⟩

section Values

variable {py : Pydantic} {raw : Json} {name : String} {n : ℤ} {t : Timestamp}

/-- A PID is taken as it is, and fits its column, exactly when it is below `2 ^ 31`. -/
lemma pid_taken_iff (hpy : py.ReadsJson) (hn : raw.integerAt name = some n) (hlo : 1 ≤ n) :
    (∃ p, intAtLeast py 1 name raw = some p ∧ raw.integerAt name = some p.1 ∧ int4 p.1 = true)
      ↔ n < 2147483648 := by
  obtain ⟨heq, htaken⟩ := fieldOf_checked hpy hn (fun n => 1 ≤ n) none
  constructor
  · rintro ⟨p, hp, -, hint4⟩
    rw [heq p hp] at hint4
    simp only [int4, Bool.and_eq_true, decide_eq_true_eq] at hint4
    omega
  · intro hlt
    refine ⟨⟨n, hlo⟩, htaken hlo (by rw [abs_lt]; omega), hn, ?_⟩
    simp only [int4, Bool.and_eq_true, decide_eq_true_eq]
    omega

/-- An integer between two bounds that a float can tell apart is taken as it is. -/
lemma between_taken (hpy : py.ReadsJson) {hi : ℤ} (hhi : hi < 9007199254740992)
    (hn : raw.integerAt name = some n) (hbounds : 1 ≤ n ∧ n ≤ hi)
    (default : {n : ℤ // 1 ≤ n ∧ n ≤ hi}) :
    intBetween py 1 hi default name raw = some ⟨n, hbounds⟩ :=
  (fieldOf_checked hpy hn _ _).2 hbounds (by rw [abs_lt]; omega)

/-- A timestamp is taken as the same instant, and fits its column, exactly when it is
`Comparable`. -/
lemma timestamp_taken_iff (hpy : py.ReadsJson) (ht : raw.timestampAt name = some t) :
    (∃ d, fieldOf py.datetime none name raw = some d ∧ SameInstant raw name d
        ∧ d.encodable) ↔ Comparable t := by
  rw [fieldOf_datetime hpy ht, comparable_iff]
  have hsame : ∀ d, SameInstant raw name d ↔ (d.instant : ℚ) = t.instant * 1000000 := by
    intro d
    simp only [SameInstant, ht, Option.some.injEq, exists_eq_left']
  simp only [hsame]

end Values

/-! ## What an accepted object stands for -/

section Accepted

variable {py : Pydantic} {fields : List (String × Json)} {c : AcceptedCall}

lemma accepted_processConnections :
    acceptedCall py "get_process_connections" (.obj fields) = some c
      ↔ ∃ pid startTime endTime, intAtLeast py 1 "pid" (.obj fields) = some pid
        ∧ fieldOf py.datetime none "start_time" (.obj fields) = some startTime
        ∧ fieldOf py.datetime none "end_time" (.obj fields) = some endTime
        ∧ .processConnections ⟨pid, startTime, endTime⟩ = c := by
  simp [acceptedCall, ProcessConnectionsArguments.validate, onDict, Option.bind_eq_some_iff]

lemma accepted_topNetworkProcesses :
    acceptedCall py "get_top_network_processes" (.obj fields) = some c
      ↔ ∃ minutes limit,
        intBetween py 1 1440 ⟨60, by decide⟩ "minutes" (.obj fields) = some minutes
        ∧ intBetween py 1 100 ⟨10, by decide⟩ "limit" (.obj fields) = some limit
        ∧ .topNetworkProcesses ⟨minutes, limit⟩ = c := by
  simp [acceptedCall, TopNetworkProcessesArguments.validate, onDict, Option.bind_eq_some_iff]

lemma accepted_connectionBursts :
    acceptedCall py "find_connection_bursts" (.obj fields) = some c
      ↔ ∃ threshold minutes,
        intBetween py 1 10000 ⟨100, by decide⟩ "threshold" (.obj fields) = some threshold
        ∧ intBetween py 1 1440 ⟨60, by decide⟩ "minutes" (.obj fields) = some minutes
        ∧ .connectionBursts ⟨threshold, minutes⟩ = c := by
  simp [acceptedCall, ConnectionBurstsArguments.validate, onDict, Option.bind_eq_some_iff]

lemma accepted_unusualDestinations :
    acceptedCall py "find_unusual_destinations" (.obj fields) = some c
      ↔ ∃ pid, intAtLeast py 1 "pid" (.obj fields) = some pid ∧ .unusualDestinations ⟨pid⟩ = c := by
  simp [acceptedCall, UnusualDestinationsArguments.validate, onDict, Option.bind_eq_some_iff]

lemma accepted_eventTimeline :
    acceptedCall py "get_event_timeline" (.obj fields) = some c
      ↔ ∃ pid, intAtLeast py 1 "pid" (.obj fields) = some pid ∧ .eventTimeline ⟨pid⟩ = c := by
  simp [acceptedCall, EventTimelineArguments.validate, onDict, Option.bind_eq_some_iff]

end Accepted

section Taken

variable {py : Pydantic} {raw : Json} {tool : FunctionTool}

/-- Without a PID and without timestamps there is nothing that could fail to fit. -/
lemma fitsColumns_of_absent (hpid : raw.field "pid" = none) (hstart : raw.field "start_time" = none)
    (hend : raw.field "end_time" = none) : FitsColumns raw where
  pid := by simp [Json.integerAt, hpid]
  startTime := by simp [Json.timestampAt, hstart]
  endTime := by simp [Json.timestampAt, hend]

/-- Without timestamps, the PID decides. -/
lemma fitsColumns_iff_pid {n : ℤ} (hn : raw.integerAt "pid" = some n)
    (hstart : raw.field "start_time" = none) (hend : raw.field "end_time" = none) :
    FitsColumns raw ↔ n < 2147483648 := by
  constructor
  · intro h
    exact h.pid n hn
  · intro h
    refine ⟨?_, ?_, ?_⟩
    · rw [hn]
      rintro m ⟨⟩
      exact h
    · simp [Json.timestampAt, hstart]
    · simp [Json.timestampAt, hend]

/-- `get_process_connections`: each of the three fields is taken as it is exactly when it fits. -/
lemma taken_processConnections (hpy : py.ReadsJson) {n : ℤ} {t u : Timestamp}
    {fields : List (String × Json)} (hn : (Json.obj fields).integerAt "pid" = some n) (hlo : 1 ≤ n)
    (ht : (Json.obj fields).timestampAt "start_time" = some t)
    (hu : (Json.obj fields).timestampAt "end_time" = some u) :
    (∃ c, acceptedCall py "get_process_connections" (.obj fields) = some c
        ∧ c.SameValues (.obj fields) ∧ c.inRange = true)
      ↔ FitsColumns (.obj fields) := by
  have hpid := pid_taken_iff hpy hn hlo
  have hstart := timestamp_taken_iff hpy ht
  have hend := timestamp_taken_iff hpy hu
  simp only [accepted_processConnections]
  constructor
  · rintro ⟨c, ⟨p, d, d', hp, hd, hd', rfl⟩, ⟨hsame, hsame', hsame''⟩, hrange⟩
    simp only [AcceptedCall.inRange, Bool.and_eq_true, decide_eq_true_eq] at hrange
    obtain ⟨⟨hint4, hrep⟩, hrep'⟩ := hrange
    refine ⟨?_, ?_, ?_⟩
    · rw [hn]
      rintro m ⟨⟩
      exact hpid.mp ⟨p, hp, hsame, hint4⟩
    · rw [ht]
      rintro t' ⟨⟩
      exact hstart.mp ⟨d, hd, hsame', hrep⟩
    · rw [hu]
      rintro u' ⟨⟩
      exact hend.mp ⟨d', hd', hsame'', hrep'⟩
  · intro h
    obtain ⟨p, hp, hsame, hint4⟩ := hpid.mpr (h.pid n hn)
    obtain ⟨d, hd, hsame', hrep⟩ := hstart.mpr (h.startTime t ht)
    obtain ⟨d', hd', hsame'', hrep'⟩ := hend.mpr (h.endTime u hu)
    refine ⟨_, ⟨p, d, d', hp, hd, hd', rfl⟩, ⟨hsame, hsame', hsame''⟩, ?_⟩
    simp only [AcceptedCall.inRange, hint4, hrep, hrep', decide_true, Bool.and_true]

/-- A tool whose only argument is a PID. -/
lemma taken_pid (hpy : py.ReadsJson)
    (hraw : (closedSchema [("pid", .integer 1 none)]).accepts raw = true) {toolName : String}
    {call : {n : ℤ // 1 ≤ n} → AcceptedCall}
    (hcall : ∀ c, acceptedCall py toolName raw = some c
      ↔ ∃ p, intAtLeast py 1 "pid" raw = some p ∧ call p = c)
    (hsame : ∀ p, (call p).SameValues raw ↔ raw.integerAt "pid" = some p.1)
    (hrange : ∀ p, (call p).inRange = int4 p.1) :
    (∃ c, acceptedCall py toolName raw = some c ∧ c.SameValues raw ∧ c.inRange = true)
      ↔ FitsColumns raw := by
  obtain ⟨n, hn, hlo, -⟩ := ObjectSchema.integerAt_of_accepts "pid" hraw (by decide) rfl
  rw [fitsColumns_iff_pid hn (ObjectSchema.field_eq_none _ hraw rfl rfl)
    (ObjectSchema.field_eq_none _ hraw rfl rfl), ← pid_taken_iff hpy hn hlo]
  simp only [hcall]
  constructor
  · rintro ⟨c, ⟨p, hp, rfl⟩, hvalues, hsent⟩
    exact ⟨p, hp, (hsame p).mp hvalues, (hrange p).symm.trans hsent⟩
  · rintro ⟨p, hp, hvalues, hsent⟩
    exact ⟨_, ⟨p, hp, rfl⟩, (hsame p).mpr hvalues, (hrange p).trans hsent⟩

/-- **What is taken as it is and can be sent.**  Of the objects that the schema of a tool accepts,
exactly those that fit the columns are accepted by its arguments model with the same values, all of
which the driver can send. -/
theorem taken_iff (hpy : py.ReadsJson) (htool : tool ∈ TOOLS)
    (hraw : tool.parameters.accepts raw = true) :
    (∃ c, acceptedCall py tool.name raw = some c ∧ c.SameValues raw ∧ c.inRange = true)
      ↔ FitsColumns raw := by
  obtain ⟨fields, rfl⟩ := ObjectSchema.eq_obj_of_accepts hraw
  simp only [TOOLS, List.mem_cons, List.not_mem_nil, or_false] at htool
  rcases htool with rfl | rfl | rfl | rfl | rfl
  · obtain ⟨n, hn, hlo, -⟩ := ObjectSchema.integerAt_of_accepts "pid" hraw (by decide) rfl
    obtain ⟨t, ht⟩ := ObjectSchema.timestampAt_of_accepts "start_time" hraw (by decide) rfl
    obtain ⟨u, hu⟩ := ObjectSchema.timestampAt_of_accepts "end_time" hraw (by decide) rfl
    exact taken_processConnections hpy hn hlo ht hu
  -- the bounds of the next two tools lie within what a float can tell apart
  · obtain ⟨n, hn, hlo, hhi⟩ := ObjectSchema.integerAt_of_accepts "minutes" hraw (by decide) rfl
    obtain ⟨m, hm, hlo', hhi'⟩ := ObjectSchema.integerAt_of_accepts "limit" hraw (by decide) rfl
    refine iff_of_true ?_ (fitsColumns_of_absent (ObjectSchema.field_eq_none _ hraw rfl rfl)
      (ObjectSchema.field_eq_none _ hraw rfl rfl) (ObjectSchema.field_eq_none _ hraw rfl rfl))
    simp only [accepted_topNetworkProcesses]
    exact ⟨_, ⟨_, _, between_taken hpy (by decide) hn ⟨hlo, hhi _ rfl⟩ _,
      between_taken hpy (by decide) hm ⟨hlo', hhi' _ rfl⟩ _, rfl⟩, ⟨hn, hm⟩, rfl⟩
  · obtain ⟨n, hn, hlo, hhi⟩ := ObjectSchema.integerAt_of_accepts "threshold" hraw (by decide) rfl
    obtain ⟨m, hm, hlo', hhi'⟩ := ObjectSchema.integerAt_of_accepts "minutes" hraw (by decide) rfl
    refine iff_of_true ?_ (fitsColumns_of_absent (ObjectSchema.field_eq_none _ hraw rfl rfl)
      (ObjectSchema.field_eq_none _ hraw rfl rfl) (ObjectSchema.field_eq_none _ hraw rfl rfl))
    simp only [accepted_connectionBursts]
    exact ⟨_, ⟨_, _, between_taken hpy (by decide) hn ⟨hlo, hhi _ rfl⟩ _,
      between_taken hpy (by decide) hm ⟨hlo', hhi' _ rfl⟩ _, rfl⟩, ⟨hn, hm⟩, rfl⟩
  · exact taken_pid hpy hraw (fun _ => accepted_unusualDestinations) (fun _ => Iff.rfl)
      fun _ => rfl
  · exact taken_pid hpy hraw (fun _ => accepted_eventTimeline) (fun _ => Iff.rfl) fun _ => rfl

/-- Only `get_process_connections` reports durations. -/
lemma finiteDurations_iff {toolName : String} {c : AcceptedCall} {read : List Statement}
    (hcall : acceptedCall py toolName raw = some c) :
    (∀ x ∈ c.reportedDurations read, x.isFinite = true) ↔ FiniteDurations toolName read := by
  rw [acceptedCall] at hcall
  split_ifs at hcall with h₁
  all_goals obtain ⟨a, -, rfl⟩ := Option.map_eq_some_iff.mp hcall
  · simp only [AcceptedCall.reportedDurations, FiniteDurations, h₁, List.mem_flatMap,
      List.mem_filterMap, forall_exists_index, and_imp, true_implies]
    constructor
    · intro h q hq e he x hx
      exact h x q hq e he hx
    · intro h x q hq e he hx
      exact h q hq e he x hx
  all_goals simp [AcceptedCall.reportedDurations, FiniteDurations, h₁]

end Taken

/-! ## Calls -/

section Honoured

variable {lib : Libraries} {toolName : String} {raw : Json} {investigationId : Uuid}
  {tool : FunctionTool} {c : AcceptedCall} {l : Session} {s : Server}

/-- An accepted call returns a result exactly when it can be audited. -/
lemma CallOutcome.ok_iff {definition : ToolDefinition}
    (hname : (toolRegistry lib.toPydantic).lookup toolName = some definition)
    (hcall : acceptedCall lib.toPydantic toolName raw = some c)
    {reply : Except PyException Json} {l' : Session} {s' : Server}
    (h : CallOutcome lib toolName raw investigationId l s reply l' s') :
    (∃ v, reply = .ok v) ↔ Auditable lib toolName raw (statementsRead (observedSince l l')) := by
  cases h with
  | @recorded observed _ _ _ s₁ record attempt hs hread hrecord fits =>
      rw [observedSince_recording, (attempt.committedCalls_append s₁.db record).1,
        ← attempt.fits_iff s₁.clock.1, ← hrecord]
      refine iff_of_true ?_ fits
      cases attempt with
      | unknownTool hunknown =>
          rw [hunknown] at hname
          cases hname
      | rejectedArguments hname' hraw =>
          rw [acceptedCall_eq_none hname' hraw] at hcall
          cases hcall
      | answered => exact ⟨_, rfl⟩
  | @refused observed _ _ _ _ record attempt hs hrecord unfit =>
      rw [observedSince_failing, (attempt.committedCalls_append s'.db record).1,
        ← attempt.fits_iff s'.clock.1, ← hrecord]
      refine iff_of_false ?_ (by simp [unfit])
      rintro ⟨v, hv⟩
      cases hv
  | queryFailed hname' hcall' hrange hs =>
      refine iff_of_false ?_ (by simp [Auditable, hname', hcall', hrange])
      rintro ⟨v, hv⟩
      cases hv

/-- **Which calls honour the published schemas.** -/
theorem honoured_iff (hlib : lib.EncodesJson) (hpy : lib.ReadsJson) (htool : tool ∈ TOOLS)
    (hraw : tool.parameters.accepts raw = true) (hl : l.Clean)
    (hid : s.db.withId investigationId ≠ []) {o : Except PyException Json × Session × Server}
    (ho : (executeAgentTool lib tool.name raw investigationId).Reaches l s o) :
    Honoured lib tool.name raw o ↔ FitsColumns raw
      ∧ FiniteDurations tool.name (statementsRead (observedSince l o.2.1)) := by
  obtain ⟨definition, hname⟩ := registered_of_published htool lib.toPydantic
  have houtcome : CallOutcome lib tool.name raw investigationId l s o.1 o.2.1 o.2.2 :=
    Handler.wp_iff_forall_reaches.mp (executeAgentTool_spec hlib hl hid) _ ho
  have hok : ∀ c, acceptedCall lib.toPydantic tool.name raw = some c →
      ((∃ v, o.1 = .ok v) ↔ c.inRange = true
        ∧ FiniteDurations tool.name (statementsRead (observedSince l o.2.1))) := by
    intro c hcall
    rw [houtcome.ok_iff hname hcall, ← finiteDurations_iff hcall]
    simp only [Auditable, hname, hcall]
  rw [← taken_iff hpy htool hraw]
  constructor
  · rintro ⟨-, ⟨c, hcall, hsame⟩, hanswered⟩
    obtain ⟨hrange, hfinite⟩ := (hok c hcall).mp hanswered
    exact ⟨⟨c, hcall, hsame, hrange⟩, hfinite⟩
  · rintro ⟨⟨c, hcall, hsame, hrange⟩, hfinite⟩
    exact ⟨⟨definition, hname⟩, ⟨c, hcall, hsame⟩, (hok c hcall).mpr ⟨hrange, hfinite⟩⟩

end Honoured

/-- PID 42, written as a float, and two instants of one night in different time zones. -/
def nightArguments : Json := .obj [
  ("pid", .float (.finite 42)),
  ("start_time", .str "2023-11-14T22:00:00Z"),
  ("end_time", .str "2023-11-15T00:00:00.25+01:00")]

theorem honoured_iff_sample :
    ∃ o, (executeAgentTool .exact "get_process_connections" nightArguments 7).Reaches {}
        sampleServer o
      ∧ Honoured .exact "get_process_connections" nightArguments o := by
  have hrun := Handler.reaches_run
    (executeAgentTool .exact "get_process_connections" nightArguments 7) {} sampleServer
  have hstart : Comparable ⟨2023, 11, 14, 22, 0, 0, [], 0⟩ :=
    ⟨by decide, by decide, by decide +kernel, by decide +kernel⟩
  have hend : Comparable ⟨2023, 11, 15, 0, 0, 0, [2, 5], 60⟩ :=
    ⟨by decide, by decide, by decide +kernel, by decide +kernel⟩
  have hfits : FitsColumns nightArguments := by
    refine ⟨by decide +kernel, ?_, ?_⟩
    · have h : nightArguments.timestampAt "start_time"
          = some ⟨2023, 11, 14, 22, 0, 0, [], 0⟩ := by decide +kernel
      rw [h]
      rintro t ⟨⟩
      exact hstart
    · have h : nightArguments.timestampAt "end_time"
          = some ⟨2023, 11, 15, 0, 0, 0, [2, 5], 60⟩ := by decide +kernel
      rw [h]
      rintro t ⟨⟩
      exact hend
  have htool : FunctionTool.mk "get_process_connections" _ ∈ TOOLS := List.mem_cons_self
  refine ⟨_, hrun, (honoured_iff Libraries.exact_encodesJson Libraries.exact_readsJson htool
    (by decide +kernel) ⟨rfl, rfl, rfl⟩ (by decide) hrun).mpr ⟨hfits, ?_⟩⟩
  unfold FiniteDurations
  decide +kernel

/-- A schema without a `maximum` for the PID, and a column with 32 bits. -/
theorem not_honoured_largePid :
    ∃ tool ∈ TOOLS, tool.parameters.accepts (.obj [("pid", .int 2147483648)]) = true
      ∧ ∃ o, (executeAgentTool .exact tool.name (.obj [("pid", .int 2147483648)]) 7).Reaches {}
          (.investigating 7) o
        ∧ ¬ Honoured .exact tool.name (.obj [("pid", .int 2147483648)]) o := by
  refine ⟨⟨"get_event_timeline", closedSchema [("pid", .integer 1 none)]⟩, ?_, ?_,
    _, Handler.reaches_run _ _ _, ?_⟩
  · simp [TOOLS]
  · decide
  · rintro ⟨-, -, v, hv⟩
    cases hv

end TracePilot
