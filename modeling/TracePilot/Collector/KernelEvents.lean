import TracePilot.Library.Layout
import TracePilot.Values.Wire

/-!
# What the BPF program submits

The kernel probes fill one structure per successful connect, `connection_event_t` for IPv4 and
`connection_event_v6_t` for IPv6, and submit its bytes to a perf ring.  The two structures differ
only in the address member.  Address and port are copied from the socket address and keep their
network byte order; everything else is in the byte order of the host.

The perf ring frames a submission: a record is a multiple of eight bytes including a length word
of four, so what user space receives has up to seven further bytes at its end.
-/

namespace TracePilot

open Layout

/-- A connection as a probe recorded it. -/
structure KernelEvent where
  timestampNs : BitVec 64
  durationNs : BitVec 64
  pid : BitVec 32
  uid : BitVec 32
  address : IpAddress
  port : BitVec 16
  /-- `char process_name[TASK_COMM_LEN]` -/
  processName : {name : List Byte // name.length = 16}

namespace KernelEvent

/-- The address member: alignment and content. -/
def addressMember : IpAddress → ℕ × List Byte
  | .v4 bits => (4, Endian.big.bytes 4 bits.toNat)
  | .v6 bits => (1, Endian.big.bytes 16 bits.toNat)

/-- The members of `connection_event_t` and `connection_event_v6_t`, in order. -/
def members (host : Endian) (v : KernelEvent) : List (ℕ × List Byte) := [
  (8, host.bytes 8 v.timestampNs.toNat),
  (8, host.bytes 8 v.durationNs.toNat),
  (4, host.bytes 4 v.pid.toNat),
  (4, host.bytes 4 v.uid.toNat),
  addressMember v.address,
  (2, Endian.big.bytes 2 v.port.toNat),
  (1, host.bytes 1 v.address.version.toNat),
  (1, v.processName)]

/-- The bytes that `perf_submit` is given. -/
def bytes (host : Endian) (pad : ℕ → Byte) (v : KernelEvent) : List Byte := image pad (v.members host)

end KernelEvent

/-- The size of a perf sample for a submission of `n` bytes: `roundup(n + 4, 8) - 4`. -/
def perfSize (n : ℕ) : ℕ := (n + 4 + 7) / 8 * 8 - 4

/-- What the callback receives: the submission, and bytes of unspecified content. -/
def perfSample (payload : List Byte) (trailing : ℕ → Byte) : List Byte :=
  payload ++ (List.range (perfSize payload.length - payload.length)).map trailing

lemma length_perfSample (payload : List Byte) (trailing : ℕ → Byte) :
    (perfSample payload trailing).length = perfSize payload.length := by
  have h : payload.length ≤ perfSize payload.length := by
    unfold perfSize
    omega
  rw [perfSample, List.length_append, List.length_map, List.length_range]
  omega

end TracePilot
