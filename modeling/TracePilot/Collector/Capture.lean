import TracePilot.Collector.EventParser

/-!
# From the perf ring into the queue

`handle_event` and `handle_ipv6_event` parse a sample and append it to `pending_events`, unless
the collector itself opened the connection or it leads to TracePilot's own API or database.

* **`not_delivers_perfSample`** — the samples that the perf ring delivers are four bytes longer
  than the structures, so the parser refuses every one of them and nothing is ever appended.
* **`delivers_bytes`** — without the framing every event that passes the filters would be
  appended with its values.
-/

namespace TracePilot

open Layout

/-- The globals that the callbacks read. -/
structure CollectorConfig where
  host : Endian
  collectorPid : ℕ
  wallClockOffsetNs : ℤ

variable (cfg : CollectorConfig)

/-- The filters of the callbacks. -/
def passesFilters (e : ApiEvent) : Bool :=
  e.pid ≠ cfg.collectorPid && e.destinationPort ∉ [8000, 5432]

/-- The body the two callbacks share. -/
def appendEvent (parse : List Byte → ℤ → Except EventError ApiEvent) (rawEvent : List Byte)
    (pendingEvents : List ApiEvent) : Except EventError (List ApiEvent) := do
  let apiEvent ← parse rawEvent cfg.wallClockOffsetNs
  pure (if passesFilters cfg apiEvent then pendingEvents ++ [apiEvent] else pendingEvents)

/-- `handle_event`. -/
def handleEvent : List Byte → List ApiEvent → Except EventError (List ApiEvent) :=
  appendEvent cfg (parseIpv4Event cfg.host)

/-- `handle_ipv6_event`. -/
def handleIpv6Event : List Byte → List ApiEvent → Except EventError (List ApiEvent) :=
  appendEvent cfg (parseIpv6Event cfg.host)

/-- The callback of the ring that events of a family are submitted to. -/
def callback : IpAddress → List Byte → List ApiEvent → Except EventError (List ApiEvent)
  | .v4 _ => handleEvent cfg
  | .v6 _ => handleIpv6Event cfg

lemma callback_eq (address : IpAddress) :
    callback cfg address = appendEvent cfg (KernelEvent.parser cfg.host address) := by
  cases address <;> rfl

/-! ## Delivery -/

/-- **The callback delivers `v`** when it is given `raw`: it appends exactly one event, which
carries the field values of `v` and its time on the wall clock. -/
def Delivers (v : KernelEvent) (raw : List Byte) (pendingEvents : List ApiEvent) : Prop :=
  ∃ time, kernelTimeToDatetime v.timestampNs.toNat cfg.wallClockOffsetNs = .ok time
    ∧ callback cfg v.address raw pendingEvents = .ok (pendingEvents ++ [v.apiEvent time])

variable {cfg}

/-- A sample is four bytes longer than its structure. -/
lemma length_perfSample_bytes (host : Endian) (v : KernelEvent) (pad : ℕ → Byte)
    (trailing : ℕ → Byte) :
    (perfSample (v.bytes host pad) trailing).length
      = sizeof (KernelEvent.fieldsOf v.address) + 4 := by
  have hv4 : sizeof connectionEventFields = 48 := by decide
  have hv6 : sizeof connectionEventV6Fields = 64 := by decide
  rw [length_perfSample, KernelEvent.bytes, length_image, KernelEvent.shape_members]
  cases v.address <;> simp [KernelEvent.fieldsOf, hv4, hv6, perfSize]

/-- The parser raises on every sample, and what a callback raises its caller drops. -/
lemma callback_perfSample (v : KernelEvent) (pad : ℕ → Byte) (trailing : ℕ → Byte)
    (pendingEvents : List ApiEvent) :
    ∃ message, callback cfg v.address (perfSample (v.bytes cfg.host pad) trailing) pendingEvents
      = .error (.valueError message) := by
  have hlength : (perfSample (v.bytes cfg.host pad) trailing).length
      ≠ sizeof (KernelEvent.fieldsOf v.address) := by
    rw [length_perfSample_bytes]
    omega
  obtain ⟨message, hraise⟩ :=
    KernelEvent.parse_length cfg.host v.address hlength cfg.wallClockOffsetNs
  exact ⟨message, by rw [callback_eq, appendEvent, hraise]; rfl⟩

/-- **The perf ring delivers nothing.** -/
theorem not_delivers_perfSample (v : KernelEvent) (pad : ℕ → Byte) (trailing : ℕ → Byte)
    (pendingEvents : List ApiEvent) :
    ¬ Delivers cfg v (perfSample (v.bytes cfg.host pad) trailing) pendingEvents := by
  rintro ⟨time, -, happend⟩
  obtain ⟨message, hraise⟩ := callback_perfSample v pad trailing pendingEvents
  rw [hraise] at happend
  cases happend

/-- The bytes on a little-endian host of a structure that is zeroed before it is filled. -/
def KernelEvent.zeroed (v : KernelEvent) : List Byte := v.bytes .little fun _ => 0

/-- `curl` connects to port 443 of a public address. -/
def KernelEvent.curl : KernelEvent where
  timestampNs := 5000000000
  durationNs := 1250000
  pid := 4242
  uid := 1000
  address := .v4 0x08080808
  port := 443
  processName := ⟨[0x63, 0x75, 0x72, 0x6c] ++ List.replicate 12 0, by decide⟩

/-- The same connection at another time. -/
def KernelEvent.curlAt (timestampNs : BitVec 64) : KernelEvent :=
  { KernelEvent.curl with timestampNs := timestampNs }

/-- A collector on a little-endian host that booted in November 2023. -/
def CollectorConfig.sample : CollectorConfig := ⟨.little, 99, 1700000000000000000⟩

theorem not_delivers_curl :
    KernelEvent.curl.pid.toNat ≠ CollectorConfig.sample.collectorPid
      ∧ KernelEvent.curl.port.toNat ∉ [8000, 5432]
      ∧ ¬ Delivers .sample .curl (perfSample KernelEvent.curl.zeroed fun _ => 0) [] := by
  refine ⟨by decide, by decide, ?_⟩
  rintro ⟨time, -, happend⟩
  have hraise : ∃ message, callback .sample KernelEvent.curl.address
      (perfSample KernelEvent.curl.zeroed fun _ => 0) [] = .error (.valueError message) :=
    callback_perfSample .curl (fun _ => 0) (fun _ => 0) []
  obtain ⟨message, hraise⟩ := hraise
  rw [hraise] at happend
  cases happend

/-- Given the bytes alone, the callback would deliver every event that passes the filters. -/
theorem delivers_bytes (v : KernelEvent) (pad : ℕ → Byte) (pendingEvents : List ApiEvent)
    {time : Datetime}
    (htime : kernelTimeToDatetime v.timestampNs.toNat cfg.wallClockOffsetNs = .ok time)
    (hpass : passesFilters cfg (v.apiEvent time) = true) :
    Delivers cfg v (v.bytes cfg.host pad) pendingEvents := by
  refine ⟨time, htime, ?_⟩
  rw [callback_eq, appendEvent, KernelEvent.parse_bytes, htime]
  change Except.ok (if passesFilters cfg (v.apiEvent time) then _ else _) = _
  rw [if_pos hpass]

end TracePilot
