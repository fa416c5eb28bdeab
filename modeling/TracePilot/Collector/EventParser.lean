import TracePilot.Library.Binary64
import TracePilot.Library.Utf8
import TracePilot.Values.Json
import TracePilot.Collector.KernelEvents

/-!
# The event parser of the collector

`parse_ipv4_event` and `parse_ipv6_event` read a structure through `ctypes` and turn it into the
dictionary that the API takes.  The byte order of the host is a parameter.

* **`parse_bytes`** — on the bytes of a kernel event, and nothing but these, the parser returns
  the event's own values.
* **`parse_length`** — on any other number of bytes it raises.
-/

namespace TracePilot

open Layout

/-- What the parser raises. -/
inductive EventError
  | valueError (message : String)
  | outOfRange
  deriving DecidableEq

/-! ## The structures of `ctypes` -/

/-- `ConnectionEvent._fields_`. -/
def connectionEventFields : List Member := [
  ⟨8, 8⟩, ⟨8, 8⟩, ⟨4, 4⟩, ⟨4, 4⟩, ⟨4, 4⟩, ⟨2, 2⟩, ⟨1, 1⟩, ⟨16, 1⟩]

/-- `ConnectionEventV6._fields_`. -/
def connectionEventV6Fields : List Member := [
  ⟨8, 8⟩, ⟨8, 8⟩, ⟨4, 4⟩, ⟨4, 4⟩, ⟨16, 1⟩, ⟨2, 2⟩, ⟨1, 1⟩, ⟨16, 1⟩]

example : sizeof connectionEventFields = 48 ∧ sizeof connectionEventV6Fields = 64 := by decide

/-- `_read_structure`: the bytes of the members. -/
def readStructure (fields : List Member) (raw : List Byte) : Except EventError (List (List Byte)) :=
  if raw.length ≠ sizeof fields then
    .error (.valueError ("Invalid event size: expected " ++ toString (sizeof fields)
      ++ ", received " ++ toString raw.length))
  else .ok (readMembers fields raw)

/-! ## The conversions -/

/-- `socket.ntohs`: a native 16-bit integer read as network order. -/
def ntohs (host : Endian) (n : ℕ) : ℕ := Endian.big.value (host.bytes 2 n)

/-- `socket.inet_ntoa`. -/
def inetNtoa (bytes : List Byte) : String :=
  (IpAddress.v4 (BitVec.ofNat 32 (Endian.big.value bytes))).inetText

/-- `socket.inet_ntop(socket.AF_INET6, ...)`. -/
def inetNtop (bytes : List Byte) : String :=
  (IpAddress.v6 (BitVec.ofNat 128 (Endian.big.value bytes))).inetText

/-- The whole part that `modf` splits off. -/
def truncate (q : ℚ) : ℤ := if 0 ≤ q then ⌊q⌋ else ⌈q⌉

/-- `datetime.fromtimestamp(seconds, tz=timezone.utc)`: the fraction is scaled to microseconds in
double precision and rounded half to even. -/
def fromtimestamp (seconds : ℚ) : Except EventError Datetime :=
  let whole := truncate seconds
  let microseconds := Binary64.roundHalfEven (Binary64.nearest ((seconds - whole) * 1000000))
  let instant := whole * 1000000 + microseconds
  if Datetime.representable instant then .ok (.utc instant) else .error .outOfRange

/-- `kernel_time_to_datetime`. -/
def kernelTimeToDatetime (timestampNs : ℕ) (wallClockOffsetNs : ℤ) : Except EventError Datetime :=
  let unixTimestampNs := wallClockOffsetNs + timestampNs
  fromtimestamp (Binary64.nearest (unixTimestampNs / 1000000000))

/-- `decode_process_name`. -/
def decodeProcessName (rawName : List Byte) : String :=
  String.ofList (Utf8.decodeReplace (rawName.takeWhile (· ≠ 0)))

/-- `duration_ns / 1_000_000`. -/
def durationMs (durationNs : ℕ) : ℚ := Binary64.nearest (durationNs / 1000000)

/-! ## The events -/

/-- The dictionary that a callback appends. -/
structure ApiEvent where
  timestamp : String
  pid : ℕ
  processName : String
  uid : ℕ
  destinationIp : String
  destinationPort : ℕ
  ipVersion : ℕ
  durationMs : ℚ
  source : String
  deriving DecidableEq

/-- The dictionary as `json.dumps` sends it and the API reads it.  The shortest decimal text of a
double reads back as the same double. -/
def ApiEvent.json (e : ApiEvent) : Json :=
  .obj [
    ("timestamp", .str e.timestamp),
    ("pid", .int e.pid),
    ("process_name", .str e.processName),
    ("uid", .int e.uid),
    ("destination_ip", .str e.destinationIp),
    ("destination_port", .int e.destinationPort),
    ("ip_version", .int e.ipVersion),
    ("duration_ms", .float (.finite e.durationMs)),
    ("source", .str e.source)]

/-- The body the two parsers share: they differ in the structure, in the version they expect, and
in how the address member is written. -/
def parseEvent (host : Endian) (fields : List Member) (version : ℕ)
    (addressText : List Byte → String) (rawEvent : List Byte) (wallClockOffsetNs : ℤ) :
    Except EventError ApiEvent := do
  let event ← readStructure fields rawEvent
  let number := fun i => host.value (event.getD i [])
  if number 6 ≠ version then
    .error (.valueError ("Expected IPv" ++ toString version ++ " event, got version "
      ++ toString (number 6)))
  else
    let timestamp ← kernelTimeToDatetime (number 0) wallClockOffsetNs
    pure {
      timestamp := timestamp.isoformat
      pid := number 2
      processName := decodeProcessName (event.getD 7 [])
      uid := number 3
      destinationIp := addressText (event.getD 4 [])
      destinationPort := ntohs host (number 5)
      ipVersion := version
      durationMs := durationMs (number 1)
      source := "ebpf" }

/-- `parse_ipv4_event`.  The address is read as a native integer and written back to bytes. -/
def parseIpv4Event (host : Endian) : List Byte → ℤ → Except EventError ApiEvent :=
  parseEvent host connectionEventFields 4 fun bytes => inetNtoa (host.bytes 4 (host.value bytes))

/-- `parse_ipv6_event`. -/
def parseIpv6Event (host : Endian) : List Byte → ℤ → Except EventError ApiEvent :=
  parseEvent host connectionEventV6Fields 6 inetNtop

/-! ## Reading kernel events -/

namespace KernelEvent

variable (host : Endian) (v : KernelEvent)

/-- The structure the collector declares for the family of an address. -/
def fieldsOf : IpAddress → List Member
  | .v4 _ => connectionEventFields
  | .v6 _ => connectionEventV6Fields

/-- The parser for the family of an address. -/
def parser (host : Endian) : IpAddress → List Byte → ℤ → Except EventError ApiEvent
  | .v4 _ => parseIpv4Event host
  | .v6 _ => parseIpv6Event host

/-- **The event that carries the field values of `v`**, observed at `time`. -/
def apiEvent (time : Datetime) : ApiEvent where
  timestamp := time.isoformat
  pid := v.pid.toNat
  processName := decodeProcessName v.processName
  uid := v.uid.toNat
  destinationIp := v.address.inetText
  destinationPort := v.port.toNat
  ipVersion := v.address.version.toNat
  durationMs := TracePilot.durationMs v.durationNs.toNat
  source := "ebpf"

/-- The collector and the kernel agree on the members. -/
lemma shape_members : shape (v.members host) = fieldsOf v.address := by
  obtain ⟨name, hname⟩ := v.processName
  cases haddress : v.address <;>
    simp [members, addressMember, shape, fieldsOf, connectionEventFields,
      connectionEventV6Fields, haddress, v.processName.2]

lemma inetNtoa_address (bits : BitVec 32) :
    inetNtoa (host.bytes 4 (host.value (Endian.big.bytes 4 bits.toNat)))
      = (IpAddress.v4 bits).inetText := by
  have hbytes := host.bytes_value (Endian.big.bytes 4 bits.toNat)
  rw [Endian.length_bytes] at hbytes
  rw [hbytes, inetNtoa, Endian.value_bytes _ bits.isLt, BitVec.ofNat_toNat, BitVec.setWidth_eq]

lemma inetNtop_address (bits : BitVec 128) :
    inetNtop (Endian.big.bytes 16 bits.toNat) = (IpAddress.v6 bits).inetText := by
  rw [inetNtop, Endian.value_bytes _ bits.isLt, BitVec.ofNat_toNat, BitVec.setWidth_eq]

lemma ntohs_port (port : BitVec 16) :
    ntohs host (host.value (Endian.big.bytes 2 port.toNat)) = port.toNat := by
  have hbytes := host.bytes_value (Endian.big.bytes 2 port.toNat)
  rw [Endian.length_bytes] at hbytes
  rw [ntohs, hbytes, Endian.value_bytes _ port.isLt]

/-- `_read_structure` on the bytes of an event returns the contents of its members. -/
lemma readStructure_bytes (pad : ℕ → Byte) :
    readStructure (fieldsOf v.address) (v.bytes host pad)
      = .ok ((v.members host).map Prod.snd) := by
  have hshape := v.shape_members host
  have hlength : (v.bytes host pad).length = sizeof (fieldsOf v.address) := by
    rw [bytes, length_image, hshape]
  rw [readStructure, if_neg (by simp [hlength]), bytes, ← hshape, readMembers_image]

/-- The shared body on the members of an event of the expected version. -/
lemma parseEvent_members {fields : List Member} {version : ℕ} (addressText : List Byte → String)
    {raw timestampNs durationNs pid uid address port ipVersion name : List Byte}
    (hread : readStructure fields raw
      = .ok [timestampNs, durationNs, pid, uid, address, port, ipVersion, name])
    (hversion : host.value ipVersion = version) (wallClockOffsetNs : ℤ) :
    parseEvent host fields version addressText raw wallClockOffsetNs
      = (kernelTimeToDatetime (host.value timestampNs) wallClockOffsetNs).map fun time => {
          timestamp := time.isoformat
          pid := host.value pid
          processName := decodeProcessName name
          uid := host.value uid
          destinationIp := addressText address
          destinationPort := ntohs host (host.value port)
          ipVersion := version
          durationMs := TracePilot.durationMs (host.value durationNs)
          source := "ebpf" } := by
  rw [parseEvent, hread]
  change (if host.value ipVersion ≠ version then _ else _) = _
  rw [if_neg (not_not.mpr hversion)]
  rfl

/-- **On the bytes of a kernel event the parser returns the event's own values.** -/
theorem parse_bytes (pad : ℕ → Byte) (wallClockOffsetNs : ℤ) :
    parser host v.address (v.bytes host pad) wallClockOffsetNs
      = (kernelTimeToDatetime v.timestampNs.toNat wallClockOffsetNs).map v.apiEvent := by
  have hread := v.readStructure_bytes host pad
  have hts : host.value (host.bytes 8 v.timestampNs.toNat) = v.timestampNs.toNat :=
    host.value_bytes v.timestampNs.isLt
  have hduration : host.value (host.bytes 8 v.durationNs.toNat) = v.durationNs.toNat :=
    host.value_bytes v.durationNs.isLt
  have hpid : host.value (host.bytes 4 v.pid.toNat) = v.pid.toNat := host.value_bytes v.pid.isLt
  have huid : host.value (host.bytes 4 v.uid.toNat) = v.uid.toNat := host.value_bytes v.uid.isLt
  cases haddress : v.address with
  | v4 bits =>
      simp only [haddress, members, addressMember, List.map_cons, List.map_nil] at hread
      have hversion : host.value (host.bytes 1 (IpAddress.v4 bits).version.toNat) = 4 :=
        host.value_bytes (show 4 < 256 ^ 1 by norm_num)
      have hparse := parseEvent_members host
        (fun bytes => inetNtoa (host.bytes 4 (host.value bytes))) hread hversion wallClockOffsetNs
      simp only [hts, hduration, hpid, huid, inetNtoa_address, ntohs_port] at hparse
      rw [parser, parseIpv4Event]
      refine hparse.trans ?_
      unfold apiEvent
      rw [haddress]
      rfl
  | v6 bits =>
      simp only [haddress, members, addressMember, List.map_cons, List.map_nil] at hread
      have hversion : host.value (host.bytes 1 (IpAddress.v6 bits).version.toNat) = 6 :=
        host.value_bytes (show 6 < 256 ^ 1 by norm_num)
      have hparse := parseEvent_members host inetNtop hread hversion wallClockOffsetNs
      simp only [hts, hduration, hpid, huid, inetNtop_address, ntohs_port] at hparse
      rw [parser, parseIpv6Event]
      refine hparse.trans ?_
      unfold apiEvent
      rw [haddress]
      rfl

/-- **On any other number of bytes it raises.** -/
theorem parse_length (address : IpAddress) {raw : List Byte}
    (hlength : raw.length ≠ sizeof (fieldsOf address)) (wallClockOffsetNs : ℤ) :
    ∃ message, parser host address raw wallClockOffsetNs = .error (.valueError message) := by
  have hread : readStructure (fieldsOf address) raw = .error (.valueError _) := if_pos hlength
  cases address with
  | v4 bits =>
      simp only [fieldsOf] at hread
      exact ⟨_, by rw [parser, parseIpv4Event, parseEvent, hread]; rfl⟩
  | v6 bits =>
      simp only [fieldsOf] at hread
      exact ⟨_, by rw [parser, parseIpv6Event, parseEvent, hread]; rfl⟩

end KernelEvent

end TracePilot
