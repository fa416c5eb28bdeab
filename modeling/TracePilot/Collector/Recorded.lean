import TracePilot.Backend.ToolSchemas
import TracePilot.Collector.Provenance
import TracePilot.Values.AddressText
import TracePilot.Values.Timestamps

/-!
# What a row records of its connect

The values of a connect are written down five times on their way: as bytes in host or network order,
as Python numbers and texts, as JSON, as the fields of a validated model, and as columns.

* **`kernelTimeToDatetime_accurate`** — the time goes through three roundings, which together move
  it by less than a microsecond.
* **`kernelTimeToDatetime_mono`** — they never swap two times.
* **`Host.stored_records`** — over every interleaving, every stored row has the values of a connect
  that returned zero, and the rows are in the order of time of their connects.
-/

namespace TracePilot

open Layout Rfc3339
open Outbox (captured)

/-! ## Times -/

section Times

open Binary64

/-- The microseconds that are added to the whole seconds. -/
def fractionMicroseconds (seconds : ℚ) : ℤ :=
  roundHalfEven (nearest ((seconds - ⌊seconds⌋) * 1000000))

lemma fromtimestamp_eq {seconds : ℚ} (h : 0 ≤ seconds) {d : Datetime}
    (hd : fromtimestamp seconds = .ok d) :
    d = .utc (⌊seconds⌋ * 1000000 + fractionMicroseconds seconds)
      ∧ Datetime.representable (⌊seconds⌋ * 1000000 + fractionMicroseconds seconds) := by
  have hwhole : truncate seconds = ⌊seconds⌋ := if_pos h
  simp only [fromtimestamp, hwhole] at hd
  split_ifs at hd with hrep
  exact ⟨(Except.ok.inj hd).symm, hrep⟩

/-- The fraction of a number of seconds, in microseconds. -/
lemma fraction_bounds (seconds : ℚ) :
    0 ≤ (seconds - ⌊seconds⌋) * 1000000 ∧ (seconds - ⌊seconds⌋) * 1000000 ≤ 1000000 := by
  have hlo := Int.floor_le seconds
  have hhi := Int.lt_floor_add_one seconds
  constructor <;> linarith

lemma fractionMicroseconds_bounds (seconds : ℚ) :
    0 ≤ fractionMicroseconds seconds ∧ fractionMicroseconds seconds ≤ 1000000 := by
  obtain ⟨hlo, hhi⟩ := fraction_bounds seconds
  refine ⟨roundHalfEven_nonneg (nearest_nonneg hlo), ?_⟩
  have hmillion : nearest ((1000000 : ℤ) : ℚ) = (1000000 : ℤ) := nearest_intCast (by norm_num)
  have hround := roundHalfEven_mono
    (nearest_mono (q := ((1000000 : ℤ) : ℚ)) hlo (by exact_mod_cast hhi))
  rwa [hmillion, roundHalfEven_intCast] at hround

/-- Scaling and rounding a fraction moves it by little more than half a microsecond. -/
lemma abs_fractionMicroseconds_sub_le (seconds : ℚ) :
    |(⌊seconds⌋ * 1000000 + fractionMicroseconds seconds : ℚ) - seconds * 1000000|
      ≤ 1 / 2 + 2 ^ (-34 : ℤ) := by
  obtain ⟨hlo, hhi⟩ := fraction_bounds seconds
  have hscale := abs_nearest_sub_le (q := (seconds - ⌊seconds⌋) * 1000000) (k := 20)
    (by rw [abs_of_nonneg hlo]; linarith) (by norm_num)
  have hround := abs_roundHalfEven_sub_le (nearest ((seconds - ⌊seconds⌋) * 1000000))
  have hsplit : (⌊seconds⌋ * 1000000 + fractionMicroseconds seconds : ℚ) - seconds * 1000000
      = (roundHalfEven (nearest ((seconds - ⌊seconds⌋) * 1000000))
          - nearest ((seconds - ⌊seconds⌋) * 1000000))
        + (nearest ((seconds - ⌊seconds⌋) * 1000000) - (seconds - ⌊seconds⌋) * 1000000) := by
    rw [fractionMicroseconds]
    ring
  rw [hsplit]
  exact (abs_add_le _ _).trans (add_le_add hround hscale)

lemma fractionMicroseconds_mono {s t : ℚ} (h : s ≤ t) :
    ⌊s⌋ * 1000000 + fractionMicroseconds s ≤ ⌊t⌋ * 1000000 + fractionMicroseconds t := by
  rcases (Int.floor_le_floor h).eq_or_lt with heq | hlt
  · have hfraction : (s - ⌊s⌋) * 1000000 ≤ (t - ⌊t⌋) * 1000000 := by
      rw [heq]
      linarith
    have hmono : fractionMicroseconds s ≤ fractionMicroseconds t :=
      roundHalfEven_mono (nearest_mono (fraction_bounds s).1 hfraction)
    omega
  · have hs := (fractionMicroseconds_bounds s).2
    have ht := (fractionMicroseconds_bounds t).1
    omega

section Kernel

variable {timestampNs timestampNs' : ℕ} {wallClockOffsetNs instant instant' : ℤ}

/-- A kernel time becomes an instant in UTC that a `datetime` can hold. -/
lemma utc_of_kernelTime (hclock : 0 ≤ wallClockOffsetNs) {time : Datetime}
    (h : kernelTimeToDatetime timestampNs wallClockOffsetNs = .ok time) :
    ∃ instant, time = .utc instant ∧ Datetime.representable instant := by
  have hseconds : (0 : ℚ) ≤ ((wallClockOffsetNs + timestampNs : ℤ) : ℚ) / 1000000000 := by
    have : (0 : ℤ) ≤ wallClockOffsetNs + timestampNs := by omega
    positivity
  exact ⟨_, fromtimestamp_eq (nearest_nonneg hseconds) h⟩

/-- The instant of a kernel time is built from the double nearest to its seconds. -/
lemma instant_of_kernelTime (hclock : 0 ≤ wallClockOffsetNs)
    (h : kernelTimeToDatetime timestampNs wallClockOffsetNs = .ok (.utc instant)) :
    Datetime.representable instant ∧ ∃ seconds,
      seconds = nearest (((wallClockOffsetNs + timestampNs : ℤ) : ℚ) / 1000000000)
        ∧ instant = ⌊seconds⌋ * 1000000 + fractionMicroseconds seconds := by
  have hseconds : (0 : ℚ) ≤ ((wallClockOffsetNs + timestampNs : ℤ) : ℚ) / 1000000000 := by
    have : (0 : ℤ) ≤ wallClockOffsetNs + timestampNs := by omega
    positivity
  obtain ⟨heq, hrep⟩ := fromtimestamp_eq (nearest_nonneg hseconds) h
  obtain rfl : instant = _ := congrArg Datetime.wall heq
  exact ⟨hrep, _, rfl, rfl⟩

/-- **The recorded time is right to the microsecond**, for every time before the year 2106. -/
theorem kernelTimeToDatetime_accurate (hclock : 0 ≤ wallClockOffsetNs)
    (h : kernelTimeToDatetime timestampNs wallClockOffsetNs = .ok (.utc instant))
    (hera : wallClockOffsetNs + timestampNs < 4294967296000000000) :
    |instant * 1000 - (wallClockOffsetNs + timestampNs)| < 1000 := by
  obtain ⟨-, seconds, hseconds, rfl⟩ := instant_of_kernelTime hclock h
  have hnonneg : (0 : ℤ) ≤ wallClockOffsetNs + timestampNs := by omega
  generalize wallClockOffsetNs + (timestampNs : ℤ) = unixNs at *
  -- the exact number of seconds, in double precision
  have hexact : |(unixNs : ℚ) / 1000000000| < 2 ^ (32 : ℤ) := by
    have hlt : (unixNs : ℚ) < 4294967296000000000 := by exact_mod_cast hera
    have hle : (0 : ℚ) ≤ unixNs := by exact_mod_cast hnonneg
    rw [abs_of_nonneg (by positivity), div_lt_iff₀ (by norm_num)]
    norm_num
    exact hlt
  have hnearest := abs_nearest_sub_le hexact (by norm_num)
  rw [← hseconds] at hnearest
  -- and its fraction, in microseconds
  have hfraction := abs_fractionMicroseconds_sub_le seconds
  have hpow : (2 : ℚ) ^ (32 - 54 : ℤ) = 1 / 4194304 ∧ (2 : ℚ) ^ (-34 : ℤ) = 1 / 17179869184 := by
    constructor <;> norm_num
  rw [hpow.1] at hnearest
  rw [hpow.2] at hfraction
  have htotal : |((⌊seconds⌋ * 1000000 + fractionMicroseconds seconds : ℤ) : ℚ) * 1000 - unixNs|
      < 1000 := by
    push_cast
    rw [abs_le] at hnearest hfraction
    rw [abs_lt]
    constructor <;> linarith [hnearest.1, hnearest.2, hfraction.1, hfraction.2]
  exact_mod_cast htotal

/-- **The recorded times are in order.** -/
theorem kernelTimeToDatetime_mono (hclock : 0 ≤ wallClockOffsetNs)
    (h : kernelTimeToDatetime timestampNs wallClockOffsetNs = .ok (.utc instant))
    (h' : kernelTimeToDatetime timestampNs' wallClockOffsetNs = .ok (.utc instant'))
    (hle : timestampNs ≤ timestampNs') : instant ≤ instant' := by
  obtain ⟨-, seconds, rfl, rfl⟩ := instant_of_kernelTime hclock h
  obtain ⟨-, seconds', rfl, rfl⟩ := instant_of_kernelTime hclock h'
  refine fractionMicroseconds_mono (nearest_mono ?_ ?_)
  · have : (0 : ℤ) ≤ wallClockOffsetNs + timestampNs := by omega
    positivity
  · refine div_le_div_of_nonneg_right ?_ (by norm_num)
    have : wallClockOffsetNs + timestampNs ≤ wallClockOffsetNs + (timestampNs' : ℤ) := by omega
    exact_mod_cast this

end Kernel

end Times

/-! ## Values -/

/-- The bytes of an address, in network order. -/
def IpAddress.packed : IpAddress → List Byte
  | .v4 bits => Endian.big.bytes 4 bits.toNat
  | .v6 bits => Endian.big.bytes 16 bits.toNat

lemma IpAddress.packed_injective : Function.Injective IpAddress.packed := by
  intro a b h
  have hlength := congrArg List.length h
  have hvalue := congrArg Endian.big.value h
  cases a with
  | v4 a =>
      cases b with
      | v4 b =>
          simp only [packed] at hvalue
          rw [Endian.value_bytes _ a.isLt, Endian.value_bytes _ b.isLt] at hvalue
          exact congrArg _ (BitVec.eq_of_toNat_eq hvalue)
      | v6 b => simp [packed] at hlength
  | v6 a =>
      cases b with
      | v4 b => simp [packed] at hlength
      | v6 b =>
          simp only [packed] at hvalue
          rw [Endian.value_bytes _ a.isLt, Endian.value_bytes _ b.isLt] at hvalue
          exact congrArg _ (BitVec.eq_of_toNat_eq hvalue)

lemma addressBytes_inetText (address : IpAddress) :
    addressBytes address.inetText = address.packed := by
  cases address with
  | v4 bits => exact addressBytes_ipv4Text bits.toNat
  | v6 bits => exact addressBytes_inetText_v6 bits

/-- The documented readings of the texts that are sent: a timestamp is its `datetime`, and a text
that is taken as an address without a zone is the address of the bytes that it denotes. -/
structure Pydantic.ReadsTexts (py : Pydantic) : Prop where
  datetime_timestamp : ∀ text t, Rfc3339.parse text = some t →
    py.datetime (.str text) = Datetime.ofTimestamp t
  ip_bytes : ∀ text address, py.ip (.str text) = some (address, "") →
    address.packed = addressBytes text

/-- The text of an instant is read as the instant. -/
lemma Pydantic.ReadsTexts.datetime_isoformat {py : Pydantic} (hread : py.ReadsTexts) {instant : ℤ}
    (h : Datetime.representable instant) :
    py.datetime (.str (Datetime.utc instant).isoformat) = some (.utc instant) := by
  obtain ⟨hyear, -⟩ := Datetime.civil_inRange (Datetime.civilRange_of_representable h)
  have hsecond : (Datetime.fields instant).second ≤ 59 := by
    change (instant % 86400000000).toNat / 1000000 % 60 ≤ 59
    omega
  rw [hread.datetime_timestamp _ _ (Datetime.parse_isoformat h), Datetime.ofTimestamp,
    if_pos ⟨hyear, hsecond⟩, Datetime.fields_seconds h, Datetime.fields_microsecond]
  have hwall : instant / 1000000 * 1000000 + instant % 1000000 = instant := by omega
  rw [hwall]
  rfl

/-- **What a row records of a kernel event**, which is never one of the collector's own connections
or of a connection to the API or the database. -/
structure KernelEvent.RecordedBy (cfg : CollectorConfig) (v : KernelEvent) (row : ConnectionEvent) :
    Prop where
  timestamp : kernelTimeToDatetime v.timestampNs.toNat cfg.wallClockOffsetNs
    = .ok (.utc row.timestamp)
  pid : row.pid = v.pid.toNat
  processName : row.processName = decodeProcessName v.processName
  uid : row.uid = v.uid.toNat
  destinationIp : row.destinationIp = v.address
  destinationPort : row.destinationPort = v.port.toNat
  ipVersion : row.ipVersion = v.address.version
  durationMs : row.durationMs = some (.finite (TracePilot.durationMs v.durationNs.toNat))
  source : row.source = "ebpf"
  foreign : row.pid ≠ cfg.collectorPid
  outward : row.destinationPort ∉ [8000, 5432]

section Rows

variable {py : Pydantic} {cfg : CollectorConfig}

/-- Every column of a row that was made from the event's dictionary. -/
lemma KernelEvent.recordedBy_row (hpy : py.Lawful) (hread : py.ReadsTexts)
    (hclock : 0 ≤ cfg.wallClockOffsetNs) {v : KernelEvent} {e : ApiEvent} {row : StoredEvent}
    (hreports : Reports cfg v e) (h : IsRowOf py e.json row) :
    v.RecordedBy cfg row.toConnectionEvent := by
  obtain ⟨time, htime, rfl, hpass⟩ := hreports
  rw [passesFilters, Bool.and_eq_true, decide_eq_true_eq, decide_eq_true_eq] at hpass
  obtain ⟨hforeign, houtward⟩ : v.pid.toNat ≠ cfg.collectorPid ∧ v.port.toNat ∉ [8000, 5432] :=
    hpass
  obtain ⟨c, id, now, hvalidate, hrow⟩ := h
  obtain ⟨instant, rfl, hrep⟩ := utc_of_kernelTime hclock htime
  obtain ⟨address, haddress⟩ := hpy.ip_text v.address
  obtain rfl : address = v.address :=
    IpAddress.packed_injective ((hread.ip_bytes _ _ haddress).trans (addressBytes_inetText _))
  have htext := hread.datetime_isoformat hrep
  have hvalues := (validate_json (e := v.apiEvent (.utc instant)) hpy htext haddress c).mp hvalidate
  obtain ⟨htimestamp, hpid, hname, huid, hip, hport, hversion, hduration, hsource⟩ := hvalues
  rw [ConnectionEventCreate.row] at hrow
  split_ifs at hrow
  have hrow := Option.some.inj hrow
  refine ⟨?_, ?_, ?_, ?_, ?_, ?_, ?_, ?_, ?_, ?_, ?_⟩ <;> rw [← hrow]
  · rw [htimestamp, Datetime.instant_utc]
    exact htime
  · exact hpid
  · exact hname
  · exact huid
  · exact congrArg Prod.fst hip
  · exact hport
  · have hcast : ((v.address.version.toNat : ℕ) : ℤ) = v.address.version := by
      cases v.address <;> rfl
    exact hversion.trans hcast
  · exact hduration
  · exact hsource
  · exact fun hown => hforeign (Int.ofNat.inj (hpid.symm.trans hown))
  · intro hservice
    rw [hport] at hservice
    change ((v.port.toNat : ℕ) : ℤ) ∈ [8000, 5432] at hservice
    simp only [List.mem_cons, List.not_mem_nil, or_false] at hservice houtward
    omega

end Rows

namespace Host

variable {capacity : ℕ} {py : Pydantic} {cfg : CollectorConfig} {h : Host capacity}

/-- The row has the values of the event of the call. -/
def RecordOfCall (cfg : CollectorConfig) (c : Call) (row : StoredEvent) : Prop :=
  ∃ ret v, c.Returning ret ∧ c.event ret = some v ∧ v.RecordedBy cfg row.toConnectionEvent

lemma recordOfCall (hpy : py.Lawful) (hread : py.ReadsTexts)
    (hclock : 0 ≤ cfg.wallClockOffsetNs) {c : Call} {e : ApiEvent} {row : StoredEvent}
    (hcaptured : c.Captured cfg e) (hrow : IsRowOf py e.json row) : RecordOfCall cfg c row := by
  obtain ⟨ret, v, hreturning, hevent, hreports⟩ := hcaptured
  exact ⟨ret, v, hreturning, hevent, v.recordedBy_row hpy hread hclock hreports hrow⟩

/-- The time of the row is that of the call. -/
lemma RecordOfCall.timestamp {c : Call} {row : StoredEvent} (hrow : RecordOfCall cfg c row) :
    kernelTimeToDatetime c.entry.ktimeNs.toNat cfg.wallClockOffsetNs
      = .ok (.utc row.timestamp) := by
  obtain ⟨ret, v, -, hevent, hrecorded⟩ := hrow
  rw [Call.event] at hevent
  split_ifs at hevent
  obtain rfl := Option.some.inj hevent
  exact hrecorded.timestamp

/-- **From a connect to its row**: every row that is ever stored has the values of a call that
returned zero, its time is right to the microsecond, and the times of the rows are in the order of
their calls.  This is about rings that may hand over a submission without further bytes; with the
framing of the kernel there are no rows (`nothing_posted`). -/
theorem stored_records (hpy : py.Lawful) (hread : py.ReadsTexts)
    (hclock : 0 ≤ cfg.wallClockOffsetNs) {time : ℚ} {moves : List HostMove}
    (hrun : (initial time).run py cfg moves = some h) :
    ∃ source : {row // row ∈ h.system.stored} → Call,
      (∀ row, source row ∈ h.tracing.calls ∧ RecordOfCall cfg (source row) row.1
        ∧ (cfg.wallClockOffsetNs + (source row).entry.ktimeNs.toNat < 4294967296000000000 →
          |row.1.timestamp * 1000 - (cfg.wallClockOffsetNs + (source row).entry.ktimeNs.toNat)|
            < 1000))
      ∧ ∀ row row', (source row).entry.ktimeNs.toNat ≤ (source row').entry.ktimeNs.toNat →
          row.1.timestamp ≤ row'.1.timestamp := by
  have hok : h.Ok py cfg := (ok_initial time).run hrun
  choose source hcalls e hcaptured hrows using
    fun row : {row // row ∈ h.system.stored} => hok.exists_call row.2
  have hrecords := fun row => recordOfCall hpy hread hclock (hcaptured row) (hrows row)
  refine ⟨source, fun row => ⟨hcalls row, hrecords row, ?_⟩, fun row row' hle => ?_⟩
  · exact kernelTimeToDatetime_accurate hclock (hrecords row).timestamp
  · exact kernelTimeToDatetime_mono hclock (hrecords row).timestamp (hrecords row').timestamp hle

end Host

/-- The address of the bytes. -/
def IpAddress.ofPacked (bytes : List Byte) : Option IpAddress :=
  if bytes.length = 4 then some (.v4 (BitVec.ofNat 32 (Endian.big.value bytes)))
  else if bytes.length = 16 then some (.v6 (BitVec.ofNat 128 (Endian.big.value bytes)))
  else none

lemma IpAddress.packed_ofPacked {bytes : List Byte} {address : IpAddress}
    (h : ofPacked bytes = some address) : address.packed = bytes := by
  have hvalue := Endian.value_lt .big bytes
  have hbytes := Endian.bytes_value .big bytes
  rw [ofPacked] at h
  split_ifs at h with h4 h16
  · obtain rfl := Option.some.inj h
    rw [h4] at hvalue hbytes
    rw [packed, BitVec.toNat_ofNat, Nat.mod_eq_of_lt (by omega), hbytes]
  · obtain rfl := Option.some.inj h
    rw [h16] at hvalue hbytes
    rw [packed, BitVec.toNat_ofNat, Nat.mod_eq_of_lt (by omega), hbytes]

/-- Libraries that read the texts of addresses and of timestamps. -/
def Pydantic.reading : Pydantic :=
  { Libraries.exact.toPydantic with
    ip
      | .str text => (IpAddress.ofPacked (addressBytes text)).map fun address => (address, "")
      | _ => none }

lemma Pydantic.reading_readsTexts : Pydantic.reading.ReadsTexts where
  datetime_timestamp := Libraries.exact_readsJson.datetime_timestamp
  ip_bytes text address h := by
    obtain ⟨a, ha, heq⟩ := Option.map_eq_some_iff.mp h
    obtain rfl : a = address := congrArg Prod.fst heq
    exact IpAddress.packed_ofPacked ha

lemma Pydantic.reading_lawful : Pydantic.reading.Lawful where
  int_int _ := rfl
  floatGe_finite _ _ := rfl
  floatGe_nan _ := rfl
  str_str _ := rfl
  literal_int _ _ := rfl
  literal_float := literalEqual_float
  datetime_iso instant h := by
    refine ⟨.utc instant, Pydantic.reading_readsTexts.datetime_isoformat h, ?_, ?_⟩
    · simp [Datetime.utc]
    · rwa [Datetime.instant_utc]
  ip_text address := by
    have hlength : address.packed.length = 4 ∨ address.packed.length = 16 := by
      cases address <;> simp [IpAddress.packed]
    obtain ⟨a, ha⟩ : ∃ a, IpAddress.ofPacked address.packed = some a := by
      rcases hlength with h | h <;> simp [IpAddress.ofPacked, h]
    refine ⟨a, ?_⟩
    change (IpAddress.ofPacked (addressBytes address.inetText)).map _ = _
    rw [addressBytes_inetText, ha]
    rfl

theorem Host.stored_records_curl :
    ∃ h, (initial 0 : Host 10240).run .reading .sample twoConnects = some h
      ∧ h.system.stored.length = 2
      ∧ ∃ source : {row // row ∈ h.system.stored} → Call,
          ∀ row, RecordOfCall .sample (source row) row.1 := by
  have hlength : ((initial 0 : Host 10240).run .reading .sample twoConnects).map
      (fun h => h.system.stored.length) = some 2 := by decide +kernel
  obtain ⟨h, hrun, hstored⟩ := Option.map_eq_some_iff.mp hlength
  obtain ⟨source, hsource, -⟩ :=
    stored_records Pydantic.reading_lawful Pydantic.reading_readsTexts (by decide) hrun
  exact ⟨h, hrun, hstored, source, fun row => (hsource row).2.1⟩

end TracePilot
