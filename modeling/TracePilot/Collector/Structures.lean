import TracePilot.Collector.Acceptance
import TracePilot.Values.AddressText

/-!
# The parsers on every structure and on every byte string

A structure in memory need not come from a probe: any value of its members is laid out here, on
either byte order and with any padding.  The address and the port are stored as the kernel keeps
them, in network order, and a C compiler sees the IPv4 address and the port as integers of the host.

**`parse_structures`** — on the bytes of a structure of its version a parser returns the members,
and it does not see the padding; of all byte strings it refuses those of another size or version.
-/

namespace TracePilot

open Layout

/-- A value of `connection_event_t` or `connection_event_v6_t`, which differ in the type of
`destination_ip`. -/
structure EventStruct (α : Type) where
  timestampNs : BitVec 64
  durationNs : BitVec 64
  pid : BitVec 32
  uid : BitVec 32
  destinationIp : α
  destinationPort : BitVec 16
  ipVersion : BitVec 8
  /-- `char process_name[TASK_COMM_LEN]` -/
  processName : {name : List Byte // name.length = 16}

/-- `struct connection_event_t`: `u32 destination_ip`. -/
abbrev ConnectionEventT := EventStruct (BitVec 32)

/-- `struct connection_event_v6_t`: `unsigned char destination_ip[16]`. -/
abbrev ConnectionEventV6T := EventStruct {address : List Byte // address.length = 16}

namespace EventStruct

variable {α : Type} (host : Endian) (pad : ℕ → Byte)

/-- The members in order, with the alignment and the bytes of the address given. -/
def members (address : ℕ × List Byte) (v : EventStruct α) : List (ℕ × List Byte) := [
  (8, host.bytes 8 v.timestampNs.toNat),
  (8, host.bytes 8 v.durationNs.toNat),
  (4, host.bytes 4 v.pid.toNat),
  (4, host.bytes 4 v.uid.toNat),
  address,
  (2, host.bytes 2 v.destinationPort.toNat),
  (1, host.bytes 1 v.ipVersion.toNat),
  (1, v.processName)]

/-- The bytes at `destination_ip` in a `connection_event_t`. -/
def addressMemory (v : ConnectionEventT) : List Byte := host.bytes 4 v.destinationIp.toNat

/-- A `connection_event_t` in memory. -/
def bytes (v : ConnectionEventT) : List Byte := image pad (v.members host (4, v.addressMemory host))

/-- A `connection_event_v6_t` in memory. -/
def bytesV6 (v : ConnectionEventV6T) : List Byte := image pad (v.members host (1, v.destinationIp))

/-- What a parsed event says of the structure whose address stands in memory as `address`. -/
structure ReadBack (v : EventStruct α) (address : List Byte) (e : ApiEvent) : Prop where
  pid : e.pid = v.pid.toNat
  uid : e.uid = v.uid.toNat
  destinationIp : addressBytes e.destinationIp = address
  destinationPort : e.destinationPort < 65536
    ∧ Endian.big.bytes 2 e.destinationPort = host.bytes 2 v.destinationPort.toNat
  processName : e.processName
    = String.ofList (Utf8.decodeReplace (v.processName.1.takeWhile (· ≠ 0)))

/-! ## Reading a structure -/

variable {host pad}

lemma readStructure_image {fields : List Member} {members : List (ℕ × List Byte)}
    (hshape : shape members = fields) :
    readStructure fields (image pad members) = .ok (members.map Prod.snd) := by
  rw [readStructure, if_neg (by rw [length_image, hshape, not_not]), ← hshape, readMembers_image]

lemma shape_members (v : EventStruct α) (address : ℕ × List Byte) :
    shape (v.members host address)
      = [⟨8, 8⟩, ⟨8, 8⟩, ⟨4, 4⟩, ⟨4, 4⟩, ⟨address.2.length, address.1⟩, ⟨2, 2⟩, ⟨1, 1⟩, ⟨16, 1⟩] := by
  simp [members, shape, v.processName.2]

lemma readStructure_bytes (v : ConnectionEventT) :
    readStructure connectionEventFields (bytes host pad v)
    = .ok ((v.members host (4, v.addressMemory host)).map Prod.snd) :=
  readStructure_image ((v.shape_members _).trans (by simp [addressMemory, connectionEventFields]))

lemma readStructure_bytesV6 (v : ConnectionEventV6T) :
    readStructure connectionEventV6Fields (bytesV6 host pad v)
      = .ok ((v.members host (1, v.destinationIp)).map Prod.snd) :=
  readStructure_image ((v.shape_members _).trans
    (by simp [v.destinationIp.2, connectionEventV6Fields]))

/-- The port as the parser returns it has the stored bytes as its big-endian encoding. -/
lemma ntohs_bytes (port : BitVec 16) : ntohs host (host.value (host.bytes 2 port.toNat)) < 65536
    ∧ Endian.big.bytes 2 (ntohs host (host.value (host.bytes 2 port.toNat)))
      = host.bytes 2 port.toNat := by
  rw [host.value_bytes port.isLt, ntohs]
  have hback := Endian.big.bytes_value (host.bytes 2 port.toNat)
  have hlt := Endian.big.value_lt (host.bytes 2 port.toNat)
  rw [Endian.length_bytes] at hback hlt
  exact ⟨hlt, hback⟩

/-- The IPv4 address: an integer written back to the bytes it was read from. -/
lemma addressBytes_inetNtoa (address : BitVec 32) :
    addressBytes (inetNtoa (host.bytes 4 (host.value (host.bytes 4 address.toNat))))
      = host.bytes 4 address.toNat := by
  have hlt : Endian.big.value (host.bytes 4 address.toNat) < 2 ^ 32 :=
    (Endian.big.value_lt _).trans_eq (by rw [Endian.length_bytes]; norm_num)
  have hback := Endian.big.bytes_value (host.bytes 4 address.toNat)
  rw [Endian.length_bytes] at hback
  rw [host.value_bytes address.isLt, inetNtoa, IpAddress.inetText, addressBytes_ipv4Text,
    BitVec.toNat_ofNat, Nat.mod_eq_of_lt hlt, hback]

lemma addressBytes_inetNtop {address : List Byte} (hlength : address.length = 16) :
    addressBytes (inetNtop address) = address := by
  have hlt : Endian.big.value address < 2 ^ 128 :=
    (Endian.big.value_lt _).trans_eq (by rw [hlength]; norm_num)
  have hback := Endian.big.bytes_value address
  rw [hlength] at hback
  rw [inetNtop, addressBytes_inetText_v6, BitVec.toNat_ofNat, Nat.mod_eq_of_lt hlt, hback]

/-- **A structure of the expected version is read back**, at any time of the present era. -/
lemma parseEvent_readBack {wallClockOffsetNs : ℤ} (hera : PresentEra wallClockOffsetNs)
    {fields : List Member} {version : ℕ} {addressText : List Byte → String} {raw : List Byte}
    {v : EventStruct α} {address : ℕ × List Byte}
    (hread : readStructure fields raw = .ok ((v.members host address).map Prod.snd))
    (hversion : v.ipVersion.toNat = version)
    (haddress : addressBytes (addressText address.2) = address.2) :
    ∃ e, parseEvent host fields version addressText raw wallClockOffsetNs = .ok e
      ∧ v.ReadBack host address.2 e := by
  obtain ⟨instant, -, htime⟩ := kernelTimeToDatetime_ok hera v.timestampNs
  have hstored : host.value (host.bytes 1 v.ipVersion.toNat) = version :=
    (host.value_bytes v.ipVersion.isLt).trans hversion
  have htimestamp : host.value (host.bytes 8 v.timestampNs.toNat) = v.timestampNs.toNat :=
    host.value_bytes v.timestampNs.isLt
  have hparse := KernelEvent.parseEvent_members host addressText hread hstored wallClockOffsetNs
  rw [htimestamp, htime] at hparse
  refine ⟨_, hparse, ?_, ?_, haddress, ntohs_bytes v.destinationPort, rfl⟩
  · exact host.value_bytes v.pid.isLt
  · exact host.value_bytes v.uid.isLt

/-! ## Reading any bytes -/

lemma readMembers_connectionEventFields (raw : List Byte) : readMembers connectionEventFields raw
    = [raw.take 8, (raw.drop 8).take 8, (raw.drop 16).take 4, (raw.drop 20).take 4,
      (raw.drop 24).take 4, (raw.drop 28).take 2, (raw.drop 30).take 1, (raw.drop 31).take 16] := by
  simp [readMembers, readFrom, gap, connectionEventFields]

lemma readMembers_connectionEventV6Fields (raw : List Byte) :
    readMembers connectionEventV6Fields raw
      = [raw.take 8, (raw.drop 8).take 8, (raw.drop 16).take 4, (raw.drop 20).take 4,
        (raw.drop 24).take 16, (raw.drop 40).take 2, (raw.drop 42).take 1,
        (raw.drop 43).take 16] := by
  simp [readMembers, readFrom, gap, connectionEventV6Fields]

/-- A structure of the right size is refused for its version alone. -/
lemma parseEvent_valueError_iff {wallClockOffsetNs : ℤ} (hera : PresentEra wallClockOffsetNs)
    {fields : List Member} {version : ℕ} {addressText : List Byte → String}
    {raw timestampNs durationNs pid uid address port name : List Byte} {ipVersion : Byte}
    (hread : readStructure fields raw
      = .ok [timestampNs, durationNs, pid, uid, address, port, [ipVersion], name])
    (hlength : timestampNs.length = 8) :
    (∃ message, parseEvent host fields version addressText raw wallClockOffsetNs
      = .error (.valueError message)) ↔ ipVersion.toNat ≠ version := by
  have hvalue := host.value_singleton ipVersion
  by_cases hversion : ipVersion.toNat = version
  · have hlt : host.value timestampNs < 2 ^ 64 :=
      (host.value_lt timestampNs).trans_eq (by rw [hlength]; norm_num)
    obtain ⟨instant, -, htime⟩ :=
      kernelTimeToDatetime_ok hera (BitVec.ofNat 64 (host.value timestampNs))
    have hparse := KernelEvent.parseEvent_members host addressText hread (hvalue.trans hversion)
      wallClockOffsetNs
    rw [BitVec.toNat_ofNat, Nat.mod_eq_of_lt hlt] at htime
    rw [htime] at hparse
    simp [hparse, hversion, Except.map]
  · refine iff_of_true ?_ hversion
    rw [parseEvent, hread]
    change ∃ message, (if host.value [ipVersion] ≠ version then _ else _) = _
    rw [if_pos (by rwa [hvalue])]
    exact ⟨_, rfl⟩

/-- One byte of a memory that is long enough. -/
lemma take_one_drop {raw : List Byte} {i : ℕ} {b : Byte} (h : raw[i]? = some b) :
    (raw.drop i).take 1 = [b] := by
  obtain ⟨hi, rfl⟩ := List.getElem?_eq_some_iff.mp h
  rw [List.drop_eq_getElem_cons hi, List.take_succ_cons, List.take_zero]

/-- Which byte strings a parser refuses, by the size of its structure and the place of the
version. -/
lemma refuses_iff {wallClockOffsetNs : ℤ} (hera : PresentEra wallClockOffsetNs)
    {fields : List Member} {version : ℕ} {addressText : List Byte → String}
    {size offset : ℕ} (hsize : sizeof fields = size) (hoffset : offset < size) (hlong : 8 ≤ size)
    (hread : ∀ raw, ∃ durationNs pid uid address port name, readMembers fields raw
      = [raw.take 8, durationNs, pid, uid, address, port, (raw.drop offset).take 1, name])
    (raw : List Byte) :
    (∃ message, parseEvent host fields version addressText raw wallClockOffsetNs
      = .error (.valueError message))
      ↔ raw.length ≠ size ∨ ∀ b, raw[offset]? = some b → b.toNat ≠ version := by
  by_cases hlength : raw.length = size
  · obtain ⟨durationNs, pid, uid, address, port, name, hmembers⟩ := hread raw
    have hb : raw[offset]? = some raw[offset] := List.getElem?_eq_getElem (hlength ▸ hoffset)
    have hstructure : readStructure fields raw = .ok _ := if_neg (by rw [hlength, hsize, not_not])
    rw [hmembers, take_one_drop hb] at hstructure
    rw [parseEvent_valueError_iff hera hstructure (by rw [List.length_take]; omega), hb]
    simp [hlength]
  · refine iff_of_true ?_ (.inl hlength)
    have hstructure : readStructure fields raw = .error (.valueError _) :=
      if_pos (by rwa [hsize])
    rw [parseEvent, hstructure]
    exact ⟨_, rfl⟩

end EventStruct

section Parsers

open EventStruct

/-- **Parsing inverts the kernel structures**, on either byte order and with any padding, and the
parsers raise `ValueError` on exactly the byte strings of another size or version. -/
theorem parse_structures (host : Endian) {wallClockOffsetNs : ℤ}
    (hera : PresentEra wallClockOffsetNs) :
    (∀ (v : ConnectionEventT) (pad : ℕ → Byte), v.ipVersion = 4 →
      ∃ e, parseIpv4Event host (bytes host pad v) wallClockOffsetNs = .ok e
        ∧ v.ReadBack host (v.addressMemory host) e)
    ∧ (∀ (v : ConnectionEventV6T) (pad : ℕ → Byte), v.ipVersion = 6 →
      ∃ e, parseIpv6Event host (bytesV6 host pad v) wallClockOffsetNs = .ok e
        ∧ v.ReadBack host v.destinationIp e)
    ∧ (∀ (v : ConnectionEventT) (pad pad' : ℕ → Byte),
      parseIpv4Event host (bytes host pad v) wallClockOffsetNs
        = parseIpv4Event host (bytes host pad' v) wallClockOffsetNs)
    ∧ (∀ (v : ConnectionEventV6T) (pad pad' : ℕ → Byte),
      parseIpv6Event host (bytesV6 host pad v) wallClockOffsetNs
        = parseIpv6Event host (bytesV6 host pad' v) wallClockOffsetNs)
    ∧ (∀ raw : List Byte,
      (∃ message, parseIpv4Event host raw wallClockOffsetNs = .error (.valueError message))
        ↔ raw.length ≠ 48 ∨ ∀ b, raw[30]? = some b → b ≠ 4)
    ∧ (∀ raw : List Byte,
      (∃ message, parseIpv6Event host raw wallClockOffsetNs = .error (.valueError message))
        ↔ raw.length ≠ 64 ∨ ∀ b, raw[42]? = some b → b ≠ 6) := by
  have hbyte : ∀ b n : Byte, b.toNat ≠ n.toNat ↔ b ≠ n := fun b n => BitVec.toNat_inj.not
  refine ⟨fun v pad hversion => ?_, fun v pad hversion => ?_, fun v pad pad' => ?_,
    fun v pad pad' => ?_, fun raw => ?_, fun raw => ?_⟩
  · exact parseEvent_readBack hera (readStructure_bytes v) (congrArg BitVec.toNat hversion)
      (addressBytes_inetNtoa v.destinationIp)
  · exact parseEvent_readBack hera (readStructure_bytesV6 v) (congrArg BitVec.toNat hversion)
      (addressBytes_inetNtop v.destinationIp.2)
  · rw [parseIpv4Event, parseEvent, readStructure_bytes, parseEvent, readStructure_bytes]
  · rw [parseIpv6Event, parseEvent, readStructure_bytesV6, parseEvent, readStructure_bytesV6]
  · rw [parseIpv4Event, refuses_iff hera (show sizeof connectionEventFields = 48 by decide)
      (show 30 < 48 by norm_num) (by norm_num)
      fun raw => ⟨_, _, _, _, _, _, readMembers_connectionEventFields raw⟩]
    simp only [← hbyte]
    rfl
  · rw [parseIpv6Event, refuses_iff hera (show sizeof connectionEventV6Fields = 64 by decide)
      (show 42 < 64 by norm_num) (by norm_num)
      fun raw => ⟨_, _, _, _, _, _, readMembers_connectionEventV6Fields raw⟩]
    simp only [← hbyte]
    rfl

/-- The saved IPv4 event of the parser's tests. -/
def EventStruct.saved : ConnectionEventT where
  timestampNs := 5000000000
  durationNs := 12500000
  pid := 4242
  uid := 1000
  destinationIp := 0x0a7100cb
  destinationPort := 0xbb01
  ipVersion := 4
  processName := ⟨[0x70, 0x79, 0x74, 0x68, 0x6f, 0x6e] ++ List.replicate 10 0, by decide⟩

theorem parse_structures_saved : ∃ e,
    parseIpv4Event .little (EventStruct.bytes .little (fun _ => 0) .saved) 1700000000000000000 = .ok e
      ∧ EventStruct.saved.ReadBack .little [203, 0, 113, 10] e :=
  (parse_structures .little (by constructor <;> norm_num)).1 .saved (fun _ => 0) rfl

end Parsers

end TracePilot
