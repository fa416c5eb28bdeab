import TracePilot.Library.BoundedMap
import TracePilot.Library.Resumption
import TracePilot.Collector.KernelEvents

/-!
# The probes on the connect functions of the kernel

Two probes watch each of `tcp_v4_connect` and `tcp_v6_connect`.  The one on entry remembers the
destination and the time in a hash map under the id of the thread, the one on return takes it out
again and submits an event when the call succeeded.  All threads share the maps, and the probes of
different threads run at the same time: only a single operation on a map or a ring is atomic.
-/

namespace TracePilot

open Resumption Layout

/-- The kernel functions that are probed. -/
inductive ConnectFunction
  | tcpV4Connect
  | tcpV6Connect
  deriving DecidableEq

/-- `struct pending_connection_t` and `struct pending_connection_v6_t`. -/
structure PendingConnection where
  startNs : BitVec 64
  pid : BitVec 32
  uid : BitVec 32
  destinationIp : IpAddress
  destinationPort : BitVec 16
  /-- `char process_name[TASK_COMM_LEN]` -/
  processName : {name : List Byte // name.length = 16}

/-- The hash maps and the perf rings, one of each for a function: `pending_connections` and
`connection_events`, `pending_connections_v6` and `connection_events_v6`. -/
structure BpfState (capacity : ℕ) where
  pendingConnections : ConnectFunction → BoundedMap (BitVec 64) PendingConnection capacity
  connectionEvents : ConnectFunction → List KernelEvent

/-- The atomic operations of a probe.  `lookup` answers with a pointer, through which the program
reads the value that this answer is a copy of. -/
inductive BpfOp
  | lookup (fn : ConnectFunction) (key : BitVec 64)
  | update (fn : ConnectFunction) (key : BitVec 64) (leaf : PendingConnection)
  | delete (fn : ConnectFunction) (key : BitVec 64)
  | perfSubmit (fn : ConnectFunction) (event : KernelEvent)

/-- What each operation answers. -/
abbrev BpfOp.Reply : BpfOp → Type
  | .lookup _ _ => Option PendingConnection
  | .update _ _ _ | .delete _ _ | .perfSubmit _ _ => Unit

/-- The operations with their replies. -/
abbrev bpfInterface : Interface := ⟨BpfOp, BpfOp.Reply⟩

/-- A program that runs in a probe. -/
abbrev BpfProgram := Proc bpfInterface Unit

namespace BpfState

variable {capacity : ℕ}

/-- The maps and rings before the first probe. -/
def initial : BpfState capacity := ⟨fun _ => .empty, fun _ => []⟩

/-- The state with another map for one function. -/
def withMap (s : BpfState capacity) (fn : ConnectFunction)
    (pending : BoundedMap (BitVec 64) PendingConnection capacity) : BpfState capacity :=
  { s with pendingConnections := Function.update s.pendingConnections fn pending }

/-- `map.update(&key, &leaf)`. -/
def update (s : BpfState capacity) (fn : ConnectFunction) (key : BitVec 64)
    (leaf : PendingConnection) : BpfState capacity :=
  s.withMap fn ((s.pendingConnections fn).update key leaf)

/-- `map.delete(&key)`. -/
def delete (s : BpfState capacity) (fn : ConnectFunction) (key : BitVec 64) : BpfState capacity :=
  s.withMap fn ((s.pendingConnections fn).delete key)

/-- `ring.perf_submit(ctx, &event, sizeof(event))`. -/
def perfSubmit (s : BpfState capacity) (fn : ConnectFunction) (event : KernelEvent) :
    BpfState capacity :=
  { s with connectionEvents :=
      Function.update s.connectionEvents fn (s.connectionEvents fn ++ [event]) }

/-- What the map of a function holds for a thread. -/
def slot (s : BpfState capacity) (fn : ConnectFunction) (key : BitVec 64) :
    Option PendingConnection :=
  (s.pendingConnections fn).lookup key

variable {s : BpfState capacity} {fn fn' : ConnectFunction} {key key' : BitVec 64}

@[simp] lemma slot_initial : (initial : BpfState capacity).slot fn key = none := rfl

lemma slot_withMap {pending : BoundedMap (BitVec 64) PendingConnection capacity} :
    (s.withMap fn pending).slot fn key = pending.lookup key := by
  simp only [slot, withMap, Function.update_self]

/-- A map that differs from the old one at `key` alone leaves every other slot alone. -/
lemma slot_withMap_of_ne {pending : BoundedMap (BitVec 64) PendingConnection capacity}
    (hsame : ∀ j, j ≠ key → pending.lookup j = s.slot fn j) (h : (fn', key') ≠ (fn, key)) :
    (s.withMap fn pending).slot fn' key' = s.slot fn' key' := by
  by_cases hfn : fn' = fn
  · subst hfn
    rw [slot_withMap]
    exact hsame key' fun hkey => h (by rw [hkey])
  · simp only [slot, withMap, Function.update_of_ne hfn]

lemma slot_update {leaf : PendingConnection} (h : (s.pendingConnections fn).HasRoom key) :
    (s.update fn key leaf).slot fn key = some leaf := by
  rw [update, slot_withMap, BoundedMap.lookup_update h]

lemma slot_update_of_ne {leaf : PendingConnection} (h : (fn', key') ≠ (fn, key)) :
    (s.update fn key leaf).slot fn' key' = s.slot fn' key' :=
  slot_withMap_of_ne (fun _ hj => BoundedMap.lookup_update_of_ne _ hj leaf) h

lemma slot_delete : (s.delete fn key).slot fn key = none := by
  rw [delete, slot_withMap, BoundedMap.lookup_delete]

lemma slot_delete_of_ne (h : (fn', key') ≠ (fn, key)) :
    (s.delete fn key).slot fn' key' = s.slot fn' key' :=
  slot_withMap_of_ne (fun _ hj => BoundedMap.lookup_delete_of_ne _ hj) h

@[simp] lemma slot_perfSubmit {event : KernelEvent} :
    (s.perfSubmit fn event).slot fn' key' = s.slot fn' key' := rfl

lemma connectionEvents_perfSubmit {event : KernelEvent} :
    (s.perfSubmit fn event).connectionEvents fn'
      = s.connectionEvents fn' ++ if fn = fn' then [event] else [] := by
  by_cases h : fn' = fn
  · subst h
    simp only [perfSubmit, Function.update_self, if_true]
  · simp only [perfSubmit, Function.update_of_ne h, if_neg (Ne.symm h), List.append_nil]

end BpfState

/-- The meaning of the operations.  The local state lists what a program submitted; no program
reads it. -/
def bpf {capacity : ℕ} : Machine bpfInterface (List KernelEvent) (BpfState capacity)
  | .lookup fn key, emitted, s => ((s.pendingConnections fn).lookup key, emitted, s)
  | .update fn key leaf, emitted, s => ((), emitted, s.update fn key leaf)
  | .delete fn key, emitted, s => ((), emitted, s.delete fn key)
  | .perfSubmit fn event, emitted, s => ((), emitted ++ [event], s.perfSubmit fn event)

/-! ## The programs -/

/-- The memory behind `uaddr`: the members of `sockaddr_in` and `sockaddr_in6`, which share the
first two. -/
structure Sockaddr where
  family : BitVec 16
  port : BitVec 16
  sinAddr : BitVec 32
  sin6Addr : BitVec 128

/-- What the helpers answer in the probe on entry. -/
structure EntryContext where
  pidTgid : BitVec 64
  uidGid : BitVec 64
  uaddr : Sockaddr
  ktimeNs : BitVec 64
  comm : {name : List Byte // name.length = 16}

/-- What the helpers answer in the probe on return. -/
structure ReturnContext where
  pidTgid : BitVec 64
  /-- `PT_REGS_RC(ctx)` -/
  rc : BitVec 64
  ktimeNs : BitVec 64

/-- `int return_value = PT_REGS_RC(ctx)`. -/
def ReturnContext.returnValue (ctx : ReturnContext) : BitVec 32 := ctx.rc.setWidth 32

namespace ConnectFunction

/-- `AF_INET` and `AF_INET6`. -/
def addressFamily : ConnectFunction → BitVec 16
  | tcpV4Connect => 2
  | tcpV6Connect => 10

/-- The address member that the function's own family has. -/
def address : ConnectFunction → Sockaddr → IpAddress
  | tcpV4Connect, uaddr => .v4 uaddr.sinAddr
  | tcpV6Connect, uaddr => .v6 uaddr.sin6Addr

end ConnectFunction

namespace BpfProgram

/-- `map.lookup(&key)`. -/
def lookup (fn : ConnectFunction) (key : BitVec 64) :
    Proc bpfInterface (Option PendingConnection) :=
  Proc.perform (I := bpfInterface) (BpfOp.lookup fn key)

/-- `map.update(&key, &leaf)`. -/
def update (fn : ConnectFunction) (key : BitVec 64) (leaf : PendingConnection) : BpfProgram :=
  Proc.perform (I := bpfInterface) (BpfOp.update fn key leaf)

/-- `map.delete(&key)`. -/
def delete (fn : ConnectFunction) (key : BitVec 64) : BpfProgram :=
  Proc.perform (I := bpfInterface) (BpfOp.delete fn key)

/-- `ring.perf_submit(ctx, &event, sizeof(event))`. -/
def perfSubmit (fn : ConnectFunction) (event : KernelEvent) : BpfProgram :=
  Proc.perform (I := bpfInterface) (BpfOp.perfSubmit fn event)

end BpfProgram

open BpfProgram

/-- The fields that the probe on entry fills. -/
def EntryContext.pending (fn : ConnectFunction) (ctx : EntryContext) : PendingConnection where
  startNs := ctx.ktimeNs
  pid := (ctx.pidTgid >>> 32).setWidth 32
  uid := ctx.uidGid.setWidth 32
  destinationIp := fn.address ctx.uaddr
  destinationPort := ctx.uaddr.port
  processName := ctx.comm

/-- The fields that the probe on return fills. -/
def PendingConnection.event (pending : PendingConnection) (currentTime : BitVec 64) :
    KernelEvent where
  timestampNs := pending.startNs
  durationNs := currentTime - pending.startNs
  pid := pending.pid
  uid := pending.uid
  address := pending.destinationIp
  port := pending.destinationPort
  processName := pending.processName

/-- The body the two probes on entry share. -/
def traceConnectEntry (fn : ConnectFunction) (ctx : EntryContext) : BpfProgram :=
  if ctx.uaddr.family ≠ fn.addressFamily then pure ()
  else update fn ctx.pidTgid (ctx.pending fn)

/-- The probe on return, once it has looked its thread up. -/
def reportConnection (fn : ConnectFunction) (ctx : ReturnContext) :
    Option PendingConnection → BpfProgram
  | none => pure ()
  | some pending =>
      if ctx.returnValue ≠ 0 then delete fn ctx.pidTgid
      else do
        perfSubmit fn (pending.event ctx.ktimeNs)
        delete fn ctx.pidTgid

/-- The body the two probes on return share. -/
def traceConnectReturn (fn : ConnectFunction) (ctx : ReturnContext) : BpfProgram := do
  let pending ← lookup fn ctx.pidTgid
  reportConnection fn ctx pending

/-- `trace_tcp_v4_connect_entry`. -/
def traceTcpV4ConnectEntry : EntryContext → BpfProgram := traceConnectEntry .tcpV4Connect

/-- `trace_tcp_v4_connect_return`. -/
def traceTcpV4ConnectReturn : ReturnContext → BpfProgram := traceConnectReturn .tcpV4Connect

/-- `trace_tcp_v6_connect_entry`. -/
def traceTcpV6ConnectEntry : EntryContext → BpfProgram := traceConnectEntry .tcpV6Connect

/-- `trace_tcp_v6_connect_return`. -/
def traceTcpV6ConnectReturn : ReturnContext → BpfProgram := traceConnectReturn .tcpV6Connect

/-- What `main` attaches with `attach_kprobe`. -/
def ConnectFunction.kprobe : ConnectFunction → EntryContext → BpfProgram
  | tcpV4Connect => traceTcpV4ConnectEntry
  | tcpV6Connect => traceTcpV6ConnectEntry

/-- What `main` attaches with `attach_kretprobe`. -/
def ConnectFunction.kretprobe : ConnectFunction → ReturnContext → BpfProgram
  | tcpV4Connect => traceTcpV4ConnectReturn
  | tcpV6Connect => traceTcpV6ConnectReturn

lemma kprobe_eq (fn : ConnectFunction) : fn.kprobe = traceConnectEntry fn := by
  cases fn <;> rfl

lemma kretprobe_eq (fn : ConnectFunction) : fn.kretprobe = traceConnectReturn fn := by
  cases fn <;> rfl

end TracePilot
