import Mathlib.Data.List.TakeWhile
import TracePilot.Backend.Schemas
import TracePilot.Collector.Capture

/-!
# What the API takes of the collected events

The kernel's field ranges, the schema's bounds and the columns' domains were written separately.
Times always fit: a 64-bit time since boot, doubled by the roundings on its way, is still before
the year 9999.  Names, ports and numbers need not.

* **`accepted_apiEvent`** — an event passes the schema and fits its row exactly when it is
  `Storable`.
* **`accepted_batch`** — the same for what the callbacks append, one by one and in batches.
-/

namespace TracePilot

open Layout

variable {cfg : CollectorConfig}

/-- A clock offset of the present era: the host booted between 1970 and 2100. -/
def PresentEra (wallClockOffsetNs : ℤ) : Prop :=
  0 ≤ wallClockOffsetNs ∧ wallClockOffsetNs < 4102444800000000000

/-- Any 64-bit time since boot is an instant that a `datetime` can hold: even doubled by the
roundings it stays before the year 9999. -/
lemma kernelTimeToDatetime_ok {wallClockOffsetNs : ℤ} (hera : PresentEra wallClockOffsetNs)
    (timestampNs : BitVec 64) :
    ∃ instant, Datetime.representable instant
      ∧ kernelTimeToDatetime timestampNs.toNat wallClockOffsetNs = .ok (.utc instant) := by
  obtain ⟨hlo, hhi⟩ := hera
  have hts : timestampNs.toNat < 18446744073709551616 := timestampNs.isLt
  -- the exact number of seconds, and the double nearest to it
  have hsum : (0 : ℚ) ≤ ((wallClockOffsetNs + timestampNs.toNat : ℤ) : ℚ) / 1000000000 := by
    have : (0 : ℤ) ≤ wallClockOffsetNs + timestampNs.toNat := by omega
    positivity
  have hsum' : ((wallClockOffsetNs + timestampNs.toNat : ℤ) : ℚ) / 1000000000 ≤ 23000000000 := by
    have : wallClockOffsetNs + timestampNs.toNat ≤ 23000000000 * 1000000000 := by omega
    rw [div_le_iff₀ (by norm_num)]
    exact_mod_cast this
  have hx := Binary64.nearest_nonneg hsum
  have hx' := (Binary64.nearest_le_two_mul hsum).trans
    (mul_le_mul_of_nonneg_left hsum' (by norm_num))
  rw [kernelTimeToDatetime, fromtimestamp]
  generalize Binary64.nearest (((wallClockOffsetNs + timestampNs.toNat : ℤ) : ℚ) / 1000000000) = x
    at hx hx'
  have hwhole : truncate x = ⌊x⌋ := if_pos hx
  have hfloor : 0 ≤ ⌊x⌋ := Int.floor_nonneg.mpr hx
  have hfloor' : ⌊x⌋ ≤ 46000000000 := by
    have : (⌊x⌋ : ℚ) ≤ 46000000000 := (Int.floor_le x).trans (hx'.trans (by norm_num))
    exact_mod_cast this
  -- the fraction in microseconds, rounded twice
  have hfrac : 0 ≤ (x - ⌊x⌋) * 1000000 := mul_nonneg (sub_nonneg.mpr (Int.floor_le x)) (by norm_num)
  have hfrac' : (x - ⌊x⌋) * 1000000 ≤ 1000000 := by
    have := (Int.lt_floor_add_one x).le
    linarith
  have hy := Binary64.nearest_nonneg hfrac
  have hus := Binary64.roundHalfEven_nonneg hy
  have hus' : Binary64.roundHalfEven (Binary64.nearest ((x - ⌊x⌋) * 1000000)) ≤ 4000000 := by
    have h₁ := Binary64.roundHalfEven_le_two_mul hy
    have h₂ := Binary64.nearest_le_two_mul hfrac
    have : (Binary64.roundHalfEven (Binary64.nearest ((x - ⌊x⌋) * 1000000)) : ℚ) ≤ 4000000 := by
      linarith
    exact_mod_cast this
  have hrep : Datetime.representable
      (⌊x⌋ * 1000000 + Binary64.roundHalfEven (Binary64.nearest ((x - ⌊x⌋) * 1000000))) := by
    unfold Datetime.representable
    omega
  simp only [hwhole]
  rw [if_pos hrep]
  exact ⟨_, hrep, rfl⟩

/-- The name of a process that has one is a text of 1 to 16 characters without NUL. -/
lemma decodeProcessName_spec {name : List Byte} (hlength : name.length = 16)
    (hname : name.head? ≠ some 0) :
    1 ≤ (decodeProcessName name).length ∧ (decodeProcessName name).length ≤ 16
      ∧ noNul (decodeProcessName name) = true := by
  have hne : name.takeWhile (· ≠ 0) ≠ [] := by
    cases name with
    | nil => simp at hlength
    | cons b name =>
        have hb : b ≠ 0 := by simpa using hname
        rw [List.takeWhile_cons_of_pos (by simpa using hb)]
        exact List.cons_ne_nil _ _
  have hnonzero : ∀ b ∈ name.takeWhile (· ≠ 0), b ≠ 0 := by
    intro b hb
    simpa using List.mem_takeWhile_imp hb
  have hle := (Utf8.length_decodeReplace_le (name.takeWhile (· ≠ 0))).trans
    (List.takeWhile_prefix _).length_le
  have hpos := List.length_pos_iff.mpr (Utf8.decodeReplace_ne_nil hne)
  refine ⟨?_, ?_, ?_⟩
  · simpa [decodeProcessName] using Nat.succ_le_of_lt hpos
  · rw [hlength] at hle
    simpa [decodeProcessName] using hle
  · simpa [decodeProcessName, noNul] using Utf8.ne_nul_of_mem_decodeReplace hnonzero

/-- A process without a name. -/
lemma decodeProcessName_eq_empty {name : List Byte} (hname : name.head? = some 0) :
    decodeProcessName name = "" := by
  cases name with
  | nil => cases hname
  | cons b name =>
      have hb : b = 0 := by simpa using hname
      simp [decodeProcessName, hb, Utf8.decodeReplace, Utf8.decodeFrom]

/-- A process with a name, a port, and numbers that fit a 32-bit column. -/
structure KernelEvent.Storable (v : KernelEvent) : Prop where
  name : v.processName.1.head? ≠ some 0
  port : v.port ≠ 0
  pid : 1 ≤ v.pid.toNat ∧ v.pid.toNat < 2147483648
  uid : v.uid.toNat < 2147483648

/-- The API's schema accepts the event, and its columns the row built from it. -/
def Accepted (py : Pydantic) (e : ApiEvent) : Prop :=
  ∃ c, ConnectionEventCreate.validate py e.json = some c
    ∧ ∀ id now, ∃ row, c.row id now = some row ∧ row.fits

lemma checked_eq_some {α : Type} {ok : α → Prop} [DecidablePred ok] {convert : Json → Option α}
    {v : Json} {x : {x : α // ok x}} : checked ok convert v = some x ↔ convert v = some x.1 := by
  obtain ⟨x, hx⟩ := x
  unfold checked
  cases convert v with
  | none => simp
  | some y =>
      by_cases hy : ok y
      · simp [hy]
      · simp only [Option.bind_some, hy, dite_false, reduceCtorEq, Option.some.injEq, false_iff]
        rintro rfl
        exact hy hx

lemma fieldOf_json {α : Type} (convert : Json → Option α) (default : Option α) (e : ApiEvent) :
    fieldOf convert default "timestamp" e.json = convert (.str e.timestamp)
      ∧ fieldOf convert default "pid" e.json = convert (.int e.pid)
      ∧ fieldOf convert default "process_name" e.json = convert (.str e.processName)
      ∧ fieldOf convert default "uid" e.json = convert (.int e.uid)
      ∧ fieldOf convert default "destination_ip" e.json = convert (.str e.destinationIp)
      ∧ fieldOf convert default "destination_port" e.json = convert (.int e.destinationPort)
      ∧ fieldOf convert default "ip_version" e.json = convert (.int e.ipVersion)
      ∧ fieldOf convert default "duration_ms" e.json = convert (.float (.finite e.durationMs))
      ∧ fieldOf convert default "source" e.json = convert (.str e.source) := by
  refine ⟨rfl, rfl, rfl, rfl, rfl, rfl, rfl, rfl, rfl⟩

lemma Pydantic.Lawful.literal_eq_some {py : Pydantic} (hpy : py.Lawful) {expected : List ℤ} {n : ℤ}
    {x : {n : ℤ // n ∈ expected}} : py.literal expected (.int n) = some x ↔ n = x.1 := by
  obtain ⟨x, hx⟩ := x
  rw [hpy.literal_int]
  by_cases hn : n ∈ expected
  · simp [hn]
  · simp only [hn, dite_false, reduceCtorEq, false_iff]
    rintro rfl
    exact hn hx

lemma Pydantic.Lawful.optionalFloatGe_eq_some {py : Pydantic} (hpy : py.Lawful) {bound q : ℚ}
    {d : Option {x : PyFloat // x.lt bound = false}} :
    optionalFloatGe py bound (.float (.finite q)) = some d
      ↔ some (.finite q) = d.map Subtype.val := by
  rw [optionalFloatGe, hpy.floatGe_finite]
  · by_cases hq : (PyFloat.finite q).lt bound = false
    · rcases d with _ | ⟨x, hx⟩ <;> simp [hq]
    · rcases d with _ | ⟨x, hx⟩
      · simp [hq]
      · simp only [hq, dite_false, Option.map_none, reduceCtorEq, Option.map_some,
          Option.some.injEq, false_iff]
        rintro rfl
        exact hq hx
  · simp

/-- What a lawful schema makes of the dictionary: its own values, within the schema's bounds. -/
lemma validate_json {py : Pydantic} (hpy : py.Lawful) {e : ApiEvent} {d : Datetime}
    {address : IpAddress × String} (htime : py.datetime (.str e.timestamp) = some d)
    (hip : py.ip (.str e.destinationIp) = some address) (c : ConnectionEventCreate) :
    ConnectionEventCreate.validate py e.json = some c
      ↔ c.timestamp = d ∧ c.pid.1 = e.pid ∧ c.processName.1 = e.processName ∧ c.uid.1 = e.uid
        ∧ c.destinationIp = address ∧ c.destinationPort.1 = e.destinationPort
        ∧ c.ipVersion.1 = e.ipVersion
        ∧ c.durationMs.map Subtype.val = some (.finite e.durationMs)
        ∧ c.source.1 = e.source := by
  obtain ⟨timestamp, pid, processName, uid, destinationIp, port, version, duration, source⟩ := c
  simp only [ConnectionEventCreate.validate, fieldOf_json, htime, hip, Option.bind_eq_bind,
    Option.bind_some, Option.bind_eq_some_iff, checked_eq_some, Option.pure_def,
    Option.some.injEq, ConnectionEventCreate.mk.injEq, hpy.int_int, hpy.str_str,
    hpy.literal_eq_some, hpy.optionalFloatGe_eq_some]
  constructor
  · rintro ⟨pid', hpid, name', hname, uid', huid, port', hport, version', hversion, duration',
      hduration, source', hsource, rfl, rfl, rfl, rfl, rfl, rfl, rfl, rfl, rfl⟩
    exact ⟨rfl, hpid.symm, hname.symm, huid.symm, rfl, hport.symm, hversion.symm, hduration.symm,
      hsource.symm⟩
  · rintro ⟨rfl, hpid, hname, huid, rfl, hport, hversion, hduration, hsource⟩
    exact ⟨pid, hpid.symm, processName, hname.symm, uid, huid.symm, port, hport.symm, version,
      hversion.symm, duration, hduration.symm, source, hsource.symm,
      rfl, rfl, rfl, rfl, rfl, rfl, rfl, rfl, rfl⟩

/-- The columns take the row of an event whose address has no zone, if its numbers fit and its
timestamp can be sent. -/
lemma row_fits_iff {c : ConnectionEventCreate} (hzone : c.destinationIp.2 = "") :
    (∀ id now, ∃ row, c.row id now = some row ∧ row.fits)
      ↔ c.timestamp.encodable ∧ int4 c.pid = true
        ∧ varchar 64 c.processName = true ∧ int4 c.uid = true ∧ int4 c.destinationPort = true
        ∧ int4 c.ipVersion = true ∧ varchar 20 c.source = true := by
  by_cases hsent : c.timestamp.encodable
  · simp [ConnectionEventCreate.row, hzone, hsent, ConnectionEvent.fits, hsent.1]
  · simp [ConnectionEventCreate.row, hzone, hsent]

/-- **Which events the API takes**: the values of a kernel event pass every bound of the schema and
of the columns exactly when it is storable. -/
theorem accepted_apiEvent {py : Pydantic} (hpy : py.Lawful) (v : KernelEvent)
    {instant : ℤ} (hinstant : Datetime.representable instant) :
    Accepted py (v.apiEvent (.utc instant)) ↔ v.Storable := by
  obtain ⟨d, hd, hoffset, hrep⟩ := hpy.datetime_iso instant hinstant
  obtain ⟨address, haddress⟩ := hpy.ip_text v.address
  have hvalidate := validate_json (e := v.apiEvent (.utc instant)) hpy hd haddress
  have hportLt : v.port.toNat < 65536 := v.port.isLt
  constructor
  · rintro ⟨c, hc, hfits⟩
    obtain ⟨-, hpid, hname, huid, hip, hport, -, -, -⟩ := (hvalidate c).mp hc
    obtain ⟨-, hfitsPid, -, hfitsUid, -, -, -⟩ := (row_fits_iff (by rw [hip])).mp hfits
    have hpidLo := c.pid.2
    have hportLo := c.destinationPort.2
    simp only [int4, hpid, huid, Bool.and_eq_true, decide_eq_true_eq, KernelEvent.apiEvent]
      at hfitsPid hfitsUid hpidLo hportLo hport
    refine ⟨fun hempty => ?_, fun hzero => ?_, by omega, by omega⟩
    · have hpos := c.processName.2.1
      rw [hname] at hpos
      change 1 ≤ (decodeProcessName v.processName).length at hpos
      rw [decodeProcessName_eq_empty hempty] at hpos
      exact absurd hpos (by decide)
    · have hport' : v.port.toNat = 0 := congrArg BitVec.toNat hzero
      omega
  · intro hv
    obtain ⟨hname, hname', hnul⟩ := decodeProcessName_spec v.processName.2 hv.name
    have hport : 1 ≤ v.port.toNat := Nat.one_le_iff_ne_zero.mpr fun h =>
      hv.port (BitVec.eq_of_toNat_eq h)
    have hversion : (v.address.version.toNat : ℤ) ∈ [4, 6] := by
      cases v.address <;> simp [IpAddress.version]
    have hduration : (PyFloat.finite (durationMs v.durationNs.toNat)).lt 0 = false :=
      decide_eq_false (not_lt.mpr (Binary64.nearest_nonneg (by positivity)))
    obtain ⟨hpid, hpid'⟩ := hv.pid
    have huid := hv.uid
    refine ⟨{
      timestamp := d
      pid := ⟨v.pid.toNat, by omega⟩
      processName := ⟨decodeProcessName v.processName, hname, by omega⟩
      uid := ⟨v.uid.toNat, by omega⟩
      destinationIp := (address, "")
      destinationPort := ⟨v.port.toNat, by omega⟩
      ipVersion := ⟨v.address.version.toNat, hversion⟩
      durationMs := some ⟨.finite (durationMs v.durationNs.toNat), hduration⟩
      source := ⟨"ebpf", by decide⟩ }, ?_, ?_⟩
    · exact (hvalidate _).mpr ⟨rfl, rfl, rfl, rfl, rfl, rfl, rfl, rfl, rfl⟩
    · refine (row_fits_iff rfl).mpr ⟨(Datetime.encodable_iff_of_offset hoffset).mpr hrep,
        ?_, ?_, ?_, ?_, ?_, show varchar 20 "ebpf" = true by decide⟩
      · simp only [int4, Bool.and_eq_true, decide_eq_true_eq]
        omega
      · simp only [varchar, hnul, Bool.and_true, decide_eq_true_eq]
        omega
      · simp only [int4, Bool.and_eq_true, decide_eq_true_eq]
        omega
      · simp only [int4, Bool.and_eq_true, decide_eq_true_eq]
        omega
      · simp only [int4, Bool.and_eq_true, decide_eq_true_eq]
        simp only [List.mem_cons, List.not_mem_nil, or_false] at hversion
        omega

/-- The schema of a batch asks nothing beyond the schema of its events and the length. -/
lemma validate_batch {py : Pydantic} {events : List ApiEvent} (hpos : 1 ≤ events.length)
    (hle : events.length ≤ 500) (h : ∀ e ∈ events, Accepted py e) :
    ∃ batch, ConnectionEventBatch.validate py (events.map ApiEvent.json) = some batch
      ∧ ∀ c ∈ batch, ∀ id now, ∃ row, c.row id now = some row ∧ row.fits := by
  have hlength : batchMinLength ≤ (events.map ApiEvent.json).length
      ∧ (events.map ApiEvent.json).length ≤ batchMaxLength := by
    rw [List.length_map]
    exact ⟨hpos, hle⟩
  rw [ConnectionEventBatch.validate, if_pos hlength]
  clear hlength hpos hle
  induction events with
  | nil => exact ⟨[], rfl, by simp⟩
  | cons e events ih =>
      obtain ⟨c, hc, hfits⟩ := h e (by simp)
      obtain ⟨batch, hbatch, hbatchFits⟩ := ih fun e' he' => h e' (by simp [he'])
      refine ⟨c :: batch, ?_, ?_⟩
      · rw [List.map_cons, List.mapM_cons, hc, hbatch]
        rfl
      · intro c' hc'
        rcases List.mem_cons.mp hc' with rfl | hc'
        · exact hfits
        · exact hbatchFits c' hc'

/-- What a callback appended carries the values of the event whose bytes it was given. -/
lemma eq_apiEvent_of_append (hera : PresentEra cfg.wallClockOffsetNs) {v : KernelEvent}
    {pad : ℕ → Byte}
    {pendingEvents : List ApiEvent} {e : ApiEvent}
    (happend : callback cfg v.address (v.bytes cfg.host pad) pendingEvents
      = .ok (pendingEvents ++ [e])) :
    ∃ instant, Datetime.representable instant ∧ e = v.apiEvent (.utc instant) := by
  obtain ⟨instant, hrep, htime⟩ := kernelTimeToDatetime_ok hera v.timestampNs
  refine ⟨instant, hrep, ?_⟩
  rw [callback_eq, appendEvent, KernelEvent.parse_bytes, htime] at happend
  change Except.ok (if passesFilters cfg (v.apiEvent (.utc instant)) then
    pendingEvents ++ [v.apiEvent (.utc instant)] else pendingEvents) = _ at happend
  split at happend
  · simpa [eq_comm] using happend
  · simp at happend

/-- **Which collected events the API takes.**  Of the events whose numbers fit 32 bits with sign, it
takes those whose process has a name and whose port is not zero, and it takes every batch of 1 to
500 of these. -/
theorem accepted_batch {py : Pydantic} (hpy : py.Lawful) (hera : PresentEra cfg.wallClockOffsetNs) :
    (∀ (v : KernelEvent) (pad : ℕ → Byte) (pendingEvents : List ApiEvent) (e : ApiEvent),
      1 ≤ v.pid.toNat → v.pid.toNat < 2147483648 → v.uid.toNat < 2147483648 →
      callback cfg v.address (v.bytes cfg.host pad) pendingEvents = .ok (pendingEvents ++ [e]) →
      (Accepted py e ↔ v.processName.1.head? ≠ some 0 ∧ v.port ≠ 0))
    ∧ ∀ events : List ApiEvent, 1 ≤ events.length → events.length ≤ 500 →
      (∀ e ∈ events, ∃ v : KernelEvent, v.Storable ∧ ∃ pad pendingEvents,
        callback cfg v.address (v.bytes cfg.host pad) pendingEvents = .ok (pendingEvents ++ [e])) →
      ∃ batch, ConnectionEventBatch.validate py (events.map ApiEvent.json) = some batch
        ∧ ∀ c ∈ batch, ∀ id now, ∃ row, c.row id now = some row ∧ row.fits := by
  constructor
  · intro v pad pendingEvents e hpid hpid' huid happend
    obtain ⟨instant, hrep, rfl⟩ := eq_apiEvent_of_append hera happend
    rw [accepted_apiEvent hpy v hrep]
    exact ⟨fun hv => ⟨hv.name, hv.port⟩, fun ⟨hname, hport⟩ => ⟨hname, hport, ⟨hpid, hpid'⟩, huid⟩⟩
  · intro events hpos hle hevents
    refine validate_batch hpos hle fun e he => ?_
    obtain ⟨v, hv, pad, pendingEvents, happend⟩ := hevents e he
    obtain ⟨instant, hrep, rfl⟩ := eq_apiEvent_of_append hera happend
    exact (accepted_apiEvent hpy v hrep).mpr hv

/-- Conversions that take values of the target type, and the texts of `curl`'s events, which are a
second apart. -/
def Pydantic.curl : Pydantic where
  int
    | .int n => some n
    | _ => none
  floatGe := floatAtLeast
  str
    | .str s => some s
    | _ => none
  literal := literalEqual
  ip
    | .str s => some (if s = "8.8.8.8" then .v4 0x08080808 else .v6 0, "")
    | _ => none
  datetime
    | .str s => some (.utc (
        if s = "2023-11-14T22:13:25+00:00" then 1700000005000000
        else if s = "2023-11-14T22:13:26+00:00" then 1700000006000000
        else if s = "2023-11-14T22:13:27+00:00" then 1700000007000000
        else 0))
    | _ => none
  errors _ _ := .arr []

lemma Pydantic.curl_lawful : Pydantic.curl.Lawful where
  int_int _ := rfl
  floatGe_finite _ _ := rfl
  floatGe_nan _ := rfl
  str_str _ := rfl
  literal_int _ _ := rfl
  literal_float := literalEqual_float
  datetime_iso _ _ := ⟨_, rfl, by simp [Datetime.utc], by split_ifs <;> decide⟩
  ip_text _ := ⟨_, rfl⟩

lemma KernelEvent.callback_curl :
    callback .sample KernelEvent.curl.address KernelEvent.curl.zeroed []
      = .ok [KernelEvent.curl.apiEvent (.utc 1700000005000000)] := by
  have htime : kernelTimeToDatetime 5000000000 1700000000000000000
      = .ok (.utc 1700000005000000) := by decide +kernel
  have hdelivers : Delivers .sample .curl KernelEvent.curl.zeroed [] :=
    delivers_bytes .curl (fun _ => 0) [] htime rfl
  obtain ⟨time, htime', happend⟩ := hdelivers
  obtain rfl : time = .utc 1700000005000000 := Except.ok.inj (htime'.symm.trans htime)
  exact happend

theorem accepted_batch_curl :
    ∃ batch, ConnectionEventBatch.validate .curl
        ([KernelEvent.curl.apiEvent (.utc 1700000005000000)].map ApiEvent.json) = some batch
      ∧ ∀ c ∈ batch, ∀ id now, ∃ row, c.row id now = some row ∧ row.fits := by
  have hera : PresentEra CollectorConfig.sample.wallClockOffsetNs := by
    constructor <;> decide
  refine (accepted_batch Pydantic.curl_lawful hera).2 _ (by simp) (by simp) fun e he => ?_
  obtain rfl := List.mem_singleton.mp he
  exact ⟨.curl, ⟨by decide, by decide, by decide, by decide⟩, fun _ => 0, [],
    KernelEvent.callback_curl⟩

/-- The event of `v` is appended, and no lawful schema and table would take it. -/
def KernelEvent.Refused (v : KernelEvent) : Prop :=
  ∃ e, callback .sample v.address v.zeroed [] = .ok [e]
    ∧ ∀ py : Pydantic, py.Lawful → ¬ Accepted py e

lemma KernelEvent.refused {v : KernelEvent} (hv : ¬ v.Storable)
    (hpass : ∀ time, passesFilters .sample (v.apiEvent time) = true) : v.Refused := by
  have hera : PresentEra 1700000000000000000 := by constructor <;> decide
  obtain ⟨instant, hrep, htime⟩ := kernelTimeToDatetime_ok hera v.timestampNs
  have hdelivers : Delivers .sample v v.zeroed [] :=
    delivers_bytes v (fun _ => 0) [] htime (hpass (.utc instant))
  obtain ⟨time, htime', happend⟩ := hdelivers
  obtain rfl : time = .utc instant := Except.ok.inj (htime'.symm.trans htime)
  exact ⟨_, happend, fun py hpy haccepted => hv ((accepted_apiEvent hpy v hrep).mp haccepted)⟩

/-- A process that cleared its name, a connection to port 0, and a user id above 2³¹. -/
theorem refused_curl_variants :
    KernelEvent.Refused { KernelEvent.curl with processName := ⟨List.replicate 16 0, by decide⟩ }
      ∧ KernelEvent.Refused { KernelEvent.curl with port := 0 }
      ∧ KernelEvent.Refused { KernelEvent.curl with uid := 4294967294 } := by
  refine ⟨KernelEvent.refused (fun h => h.name rfl) fun _ => rfl,
    KernelEvent.refused (fun h => h.port rfl) fun _ => rfl,
    KernelEvent.refused (fun h => absurd h.uid (by decide)) fun _ => rfl⟩

end TracePilot
