import TracePilot.Collector.Acceptance
import TracePilot.Collector.Probes

/-!
# One event for a connection

An application calls `connect()` on an IPv4 or an IPv6 socket.  The kernel runs the connect
function of the socket's family, and `tcp_v6_connect` runs `tcp_v4_connect` inside itself when the
destination is an IPv4 address in IPv6 form.  Each run meets its probes, and what they submit
reaches the callbacks of the collector through the rings.

* **`oneEventEach_iff`** — exactly one event is appended for each successful connection if and
  only if none of them has a mapped destination and the ring hands over the bytes of a structure
  and nothing else.
* **`not_oneEventEach_mapped`** — a connection to `::ffff:8.8.8.8` is submitted twice, once by each
  pair of probes.
-/

namespace TracePilot

open Resumption Layout

/-! ## Connecting -/

/-- `BPF_HASH` without a size. -/
def bpfHashSize : ℕ := 10240

/-- A `connect()` of an application on a socket of the destination's family.  The two inner times
are read when `tcp_v6_connect` calls `tcp_v4_connect`. -/
structure Connect where
  destination : IpAddress
  port : BitVec 16
  pidTgid : BitVec 64
  uidGid : BitVec 64
  comm : {name : List Byte // name.length = 16}
  enteredNs : BitVec 64
  innerEnteredNs : BitVec 64
  innerReturnedNs : BitVec 64
  returnedNs : BitVec 64
  /-- the register with the result of the connect function -/
  rc : BitVec 64

/-- The IPv4 address in an address of `::ffff:0:0/96`. -/
def embeddedIpv4 (bits : BitVec 128) : Option (BitVec 32) :=
  if bits >>> 32 = 0xffff then some (bits.setWidth 32) else none

/-- A connect function with its probes around it. -/
def ConnectFunction.probed (fn : ConnectFunction) (entry : EntryContext) (ret : ReturnContext)
    (body : BpfProgram) : BpfProgram := do
  fn.kprobe entry
  body
  fn.kretprobe ret

namespace Connect

variable (c : Connect)

/-- What the probe on entry of a function sees. -/
def entry (uaddr : Sockaddr) (ktimeNs : BitVec 64) : EntryContext :=
  ⟨c.pidTgid, c.uidGid, uaddr, ktimeNs, c.comm⟩

/-- What the probe on return of a function sees. -/
def ret (ktimeNs : BitVec 64) : ReturnContext := ⟨c.pidTgid, c.rc, ktimeNs⟩

/-- `tcp_v4_connect`. -/
def tcpV4 (address : BitVec 32) (entered returned : BitVec 64) : BpfProgram :=
  ConnectFunction.tcpV4Connect.probed (c.entry ⟨2, c.port, address, 0⟩ entered) (c.ret returned)
    (pure ())

/-- The probes that a connection meets. -/
def probes : BpfProgram :=
  match c.destination with
  | .v4 address => c.tcpV4 address c.enteredNs c.returnedNs
  | .v6 address =>
      ConnectFunction.tcpV6Connect.probed (c.entry ⟨10, c.port, 0, address⟩ c.enteredNs)
        (c.ret c.returnedNs)
        (match embeddedIpv4 address with
        | some embedded => c.tcpV4 embedded c.innerEnteredNs c.innerReturnedNs
        | none => pure ())

/-- The connect function returned 0. -/
def Succeeds : Prop := c.rc.setWidth 32 = (0 : BitVec 32)

instance : Decidable c.Succeeds := inferInstanceAs (Decidable (_ = _))

/-- The destination is an IPv4 address in IPv6 form. -/
def Mapped : Prop :=
  match c.destination with
  | .v4 _ => False
  | .v6 address => (embeddedIpv4 address).isSome

/-- The callbacks filter neither the process nor the port. -/
def Unfiltered (cfg : CollectorConfig) : Prop :=
  ((c.pidTgid >>> 32).setWidth 32).toNat ≠ cfg.collectorPid ∧ c.port.toNat ∉ [8000, 5432]

end Connect

/-- How a ring hands a submission over: its bytes, or the sample that the kernel makes of them. -/
inductive Ring
  | exact
  | perf (trailing : KernelEvent → ℕ → Byte)

/-- What the callback receives for an event. -/
def Ring.sample (ring : Ring) (host : Endian) (pad : ℕ → Byte) (v : KernelEvent) : List Byte :=
  match ring with
  | .exact => v.bytes host pad
  | .perf trailing => perfSample (v.bytes host pad) (trailing v)

section Collector

variable (cfg : CollectorConfig) (pad : ℕ → Byte) (ring : Ring)

/-- The callback on one submission.  Its caller drops what it raises. -/
def deliver (pendingEvents : List ApiEvent) (v : KernelEvent) : List ApiEvent :=
  match callback cfg v.address (ring.sample cfg.host pad v) pendingEvents with
  | .ok pendingEvents => pendingEvents
  | .error _ => pendingEvents

/-- The maps, and the queue of the collector. -/
structure Capture where
  bpf : BpfState bpfHashSize
  pendingEvents : List ApiEvent

/-- One connection, and the poll behind it. -/
def Capture.connect (x : Capture) (c : Connect) : Capture :=
  let r := c.probes.run TracePilot.bpf [] x.bpf
  ⟨r.2.2, r.2.1.foldl (deliver cfg pad ring) x.pendingEvents⟩

/-- The collector before the first connection. -/
def Capture.initial : Capture := ⟨.initial, []⟩

/-- A sequence of connections. -/
def captureAll (connects : List Connect) : Capture :=
  connects.foldl (Capture.connect cfg pad ring) .initial

/-- **Exactly one event** in `pending_events` for each successful connection that is not
filtered. -/
def OneEventEach (connects : List Connect) : Prop :=
  ∀ before c after, connects = before ++ c :: after → c.Succeeds → c.Unfiltered cfg →
    ∃ e, (captureAll cfg pad ring (before ++ [c])).pendingEvents
      = (captureAll cfg pad ring before).pendingEvents ++ [e]

end Collector

/-! ## What a connection submits -/

section Probes

variable {s : BpfState bpfHashSize}

/-- The maps have no entry. -/
def BpfState.Idle (s : BpfState bpfHashSize) : Prop := ∀ fn key, s.slot fn key = none

/-- A map without entries takes an update. -/
lemma hasRoom_of_empty {fn : ConnectFunction} (h : ∀ key, s.slot fn key = none) (key : BitVec 64) :
    (s.pendingConnections fn).HasRoom key := by
  refine BoundedMap.hasRoom_of_keys [key] ?_ (List.mem_singleton_self key) (h key)
    (show 1 ≤ bpfHashSize by decide)
  intro j leaf hleaf
  exact absurd (hleaf.symm.trans (h j)) (by simp)

/-- The program submits `events` and leaves the slots as they were. -/
def Emits (p : BpfProgram) (s : BpfState bpfHashSize) (events : List KernelEvent) : Prop :=
  ∃ s' : BpfState bpfHashSize, (∀ emitted, p.run bpf emitted s = ((), emitted ++ events, s'))
    ∧ ∀ fn key, s'.slot fn key = s.slot fn key

lemma emits_pure : Emits (pure ()) s [] :=
  ⟨s, fun emitted => by rw [List.append_nil]; rfl, fun _ _ => rfl⟩

/-- The probe on entry, on an address of its own family. -/
lemma run_kprobe {fn : ConnectFunction} {entry : EntryContext}
    (hown : entry.uaddr.family = fn.addressFamily) (emitted : List KernelEvent) :
    (fn.kprobe entry).run bpf emitted s
      = ((), emitted, s.update fn entry.pidTgid (entry.pending fn)) := by
  rw [kprobe_eq, traceConnectEntry, if_neg (not_not.mpr hown)]
  rfl

/-- The probe on return, when its thread is in the map. -/
lemma emits_kretprobe {fn : ConnectFunction} {ret : ReturnContext} {pending : PendingConnection}
    (hslot : s.slot fn ret.pidTgid = some pending) :
    ∃ s' : BpfState bpfHashSize, (∀ emitted, (fn.kretprobe ret).run bpf emitted s
        = ((), emitted ++ (if ret.returnValue = 0 then [pending.event ret.ktimeNs] else []), s'))
      ∧ s'.slot fn ret.pidTgid = none
      ∧ ∀ fn' key, (fn', key) ≠ (fn, ret.pidTgid) → s'.slot fn' key = s.slot fn' key := by
  have hrun : ∀ emitted, (fn.kretprobe ret).run bpf emitted s
      = (reportConnection fn ret (some pending)).run bpf emitted s := by
    intro emitted
    rw [← hslot, kretprobe_eq]
    rfl
  by_cases hzero : ret.returnValue = 0
  · refine ⟨(s.perfSubmit fn (pending.event ret.ktimeNs)).delete fn ret.pidTgid, fun emitted => ?_,
      BpfState.slot_delete, fun fn' key hne => BpfState.slot_delete_of_ne hne⟩
    rw [hrun, reportConnection, if_neg (not_not.mpr hzero), if_pos hzero]
    rfl
  · refine ⟨s.delete fn ret.pidTgid, fun emitted => ?_, BpfState.slot_delete,
      fun fn' key hne => BpfState.slot_delete_of_ne hne⟩
    rw [hrun, reportConnection, if_pos hzero, if_neg hzero, List.append_nil]
    rfl

/-- **A function between its probes** submits what its body submits, and then its own event if it
returned 0. -/
lemma emits_probed {fn : ConnectFunction} {entry : EntryContext} {ret : ReturnContext}
    {body : BpfProgram} {events : List KernelEvent} (hown : entry.uaddr.family = fn.addressFamily)
    (hthread : ret.pidTgid = entry.pidTgid) (hempty : ∀ key, s.slot fn key = none)
    (hbody : Emits body (s.update fn entry.pidTgid (entry.pending fn)) events) :
    Emits (fn.probed entry ret body) s
      (events ++ if ret.returnValue = 0 then [(entry.pending fn).event ret.ktimeNs] else []) := by
  obtain ⟨s₂, hrun, hslots⟩ := hbody
  have hslot : s₂.slot fn ret.pidTgid = some (entry.pending fn) := by
    rw [hslots, hthread]
    exact BpfState.slot_update (hasRoom_of_empty hempty _)
  obtain ⟨s₃, hret, hnone, hother⟩ := emits_kretprobe hslot
  refine ⟨s₃, fun emitted => ?_, fun fn' key => ?_⟩
  · refine (Proc.run_bind (fn.kprobe entry) _ emitted s).trans ?_
    rw [run_kprobe hown]
    refine (Proc.run_bind body _ emitted _).trans ?_
    rw [hrun, hret, List.append_assoc]
  · by_cases hkey : (fn', key) = (fn, ret.pidTgid)
    · obtain ⟨rfl, rfl⟩ := Prod.mk.inj hkey
      rw [hnone, hempty]
    · rw [hother _ _ hkey, hslots]
      exact BpfState.slot_update_of_ne (hthread ▸ hkey)

namespace Connect

variable (c : Connect)

/-- The event of `tcp_v4_connect`. -/
def eventV4 (address : BitVec 32) (entered returned : BitVec 64) : KernelEvent :=
  ((c.entry ⟨2, c.port, address, 0⟩ entered).pending .tcpV4Connect).event returned

/-- The event of `tcp_v6_connect`. -/
def eventV6 (address : BitVec 128) : KernelEvent :=
  ((c.entry ⟨10, c.port, 0, address⟩ c.enteredNs).pending .tcpV6Connect).event c.returnedNs

/-- **What a successful connection submits**: an event, and before it another one if the destination
is mapped. -/
def events : List KernelEvent :=
  match c.destination with
  | .v4 address => [c.eventV4 address c.enteredNs c.returnedNs]
  | .v6 address =>
      ((embeddedIpv4 address).map fun embedded =>
        c.eventV4 embedded c.innerEnteredNs c.innerReturnedNs).toList ++ [c.eventV6 address]

variable {c}

lemma emits_tcpV4 (h : ∀ key, s.slot .tcpV4Connect key = none) (address : BitVec 32)
    (entered returned : BitVec 64) :
    Emits (c.tcpV4 address entered returned) s
      (if c.Succeeds then [c.eventV4 address entered returned] else []) := by
  have hown : (c.entry ⟨2, c.port, address, 0⟩ entered).uaddr.family
      = ConnectFunction.tcpV4Connect.addressFamily := rfl
  have hthread : (c.ret returned).pidTgid = (c.entry ⟨2, c.port, address, 0⟩ entered).pidTgid := rfl
  exact emits_probed hown hthread h emits_pure

lemma emits_tcpV6 (h : ∀ key, s.slot .tcpV6Connect key = none) (address : BitVec 128)
    {body : BpfProgram} {inner : List KernelEvent}
    (hbody : Emits body (s.update .tcpV6Connect c.pidTgid
      ((c.entry ⟨10, c.port, 0, address⟩ c.enteredNs).pending .tcpV6Connect)) inner) :
    Emits (ConnectFunction.tcpV6Connect.probed (c.entry ⟨10, c.port, 0, address⟩ c.enteredNs)
        (c.ret c.returnedNs) body) s
      (inner ++ if c.Succeeds then [c.eventV6 address] else []) := by
  have hown : (c.entry ⟨10, c.port, 0, address⟩ c.enteredNs).uaddr.family
      = ConnectFunction.tcpV6Connect.addressFamily := rfl
  have hthread : (c.ret c.returnedNs).pidTgid
      = (c.entry ⟨10, c.port, 0, address⟩ c.enteredNs).pidTgid := rfl
  exact emits_probed hown hthread h hbody

/-- A connection on idle maps. -/
lemma emits_probes (hs : s.Idle) : Emits c.probes s (if c.Succeeds then c.events else []) := by
  rw [probes, events]
  cases c.destination with
  | v4 address => exact emits_tcpV4 (hs _) address c.enteredNs c.returnedNs
  | v6 address =>
      cases hembedded : embeddedIpv4 address with
      | none =>
          simp only [hembedded, Option.map_none, Option.toList_none, List.nil_append]
          exact emits_tcpV6 (hs _) address emits_pure
      | some embedded =>
          -- inside `tcp_v6_connect` the map of `tcp_v4_connect` is still empty
          have hinner : ∀ key, (s.update .tcpV6Connect c.pidTgid
              ((c.entry ⟨10, c.port, 0, address⟩ c.enteredNs).pending .tcpV6Connect)).slot
                .tcpV4Connect key = none := by
            intro key
            rw [BpfState.slot_update_of_ne (by simp)]
            exact hs _ key
          have hbody := emits_tcpV4 (c := c) hinner embedded c.innerEnteredNs c.innerReturnedNs
          have hemits := emits_tcpV6 (hs _) address hbody
          by_cases hc : c.Succeeds
          · simpa [hembedded, hc] using hemits
          · simpa [hembedded, hc] using hemits

end Connect

end Probes

/-! ## What reaches the queue -/

section Queue

variable {cfg : CollectorConfig} {pad : ℕ → Byte} {ring : Ring}

/-- The callbacks drop every sample of the perf ring. -/
lemma deliver_perf (trailing : KernelEvent → ℕ → Byte) (q : List ApiEvent) (v : KernelEvent) :
    deliver cfg pad (.perf trailing) q v = q := by
  have hraise : ∃ message, callback cfg v.address (perfSample (v.bytes cfg.host pad) (trailing v)) q
      = .error (.valueError message) := callback_perfSample v pad (trailing v) q
  obtain ⟨message, hraise⟩ := hraise
  rw [deliver, Ring.sample, hraise]

/-- Given the bytes of a structure alone, a callback appends the event unless it filters it. -/
lemma deliver_exact (hera : PresentEra cfg.wallClockOffsetNs) (q : List ApiEvent) {v : KernelEvent}
    (hpid : v.pid.toNat ≠ cfg.collectorPid) (hport : v.port.toNat ∉ [8000, 5432]) :
    ∃ e, deliver cfg pad .exact q v = q ++ [e] := by
  obtain ⟨instant, -, htime⟩ := kernelTimeToDatetime_ok hera v.timestampNs
  have hpass : passesFilters cfg (v.apiEvent (.utc instant)) = true := by
    rw [passesFilters, Bool.and_eq_true]
    exact ⟨decide_eq_true hpid, decide_eq_true hport⟩
  obtain ⟨time, htime', happend⟩ := delivers_bytes v pad q htime hpass
  exact ⟨v.apiEvent time, by rw [deliver, Ring.sample, happend]⟩

/-- Every event of a connection has its process and its port. -/
lemma Connect.unfiltered_events {c : Connect} (hc : c.Unfiltered cfg) {v : KernelEvent}
    (hv : v ∈ c.events) : v.pid.toNat ≠ cfg.collectorPid ∧ v.port.toNat ∉ [8000, 5432] := by
  have hv4 : ∀ address entered returned, v = c.eventV4 address entered returned →
      v.pid.toNat ≠ cfg.collectorPid ∧ v.port.toNat ∉ [8000, 5432] := by
    rintro address entered returned rfl
    exact hc
  rw [Connect.events] at hv
  cases hdestination : c.destination with
  | v4 address =>
      rw [hdestination] at hv
      exact hv4 _ _ _ (List.mem_singleton.mp hv)
  | v6 address =>
      rw [hdestination] at hv
      rcases List.mem_append.mp hv with hv | hv
      · obtain ⟨embedded, -, rfl⟩ := Option.map_eq_some_iff.mp (Option.mem_toList.mp hv)
        exact hc
      · obtain rfl := List.mem_singleton.mp hv
        exact hc

lemma Connect.length_events (c : Connect) :
    (c.Mapped → c.events.length = 2) ∧ (¬ c.Mapped → c.events.length = 1) := by
  rw [Connect.Mapped, Connect.events]
  cases c.destination with
  | v4 address => simp
  | v6 address => cases hembedded : embeddedIpv4 address <;> simp

/-- The perf ring adds nothing to the queue. -/
lemma foldl_deliver_perf (trailing : KernelEvent → ℕ → Byte) (q : List ApiEvent)
    (events : List KernelEvent) : events.foldl (deliver cfg pad (.perf trailing)) q = q := by
  induction events with
  | nil => rfl
  | cons v events ih => rw [List.foldl_cons, deliver_perf, ih]

/-- A ring that hands over the bytes of structures adds every event of a connection. -/
lemma length_foldl_deliver_exact (hera : PresentEra cfg.wallClockOffsetNs) {c : Connect}
    (hc : c.Unfiltered cfg) (q : List ApiEvent) {events : List KernelEvent}
    (hevents : events ⊆ c.events) :
    (events.foldl (deliver cfg pad .exact) q).length = q.length + events.length := by
  induction events generalizing q with
  | nil => rfl
  | cons v events ih =>
      obtain ⟨hv, hrest⟩ := List.cons_subset.mp hevents
      obtain ⟨hpid, hport⟩ := Connect.unfiltered_events hc hv
      have hadd : ∃ e, deliver cfg pad .exact q v = q ++ [e] := deliver_exact hera q hpid hport
      obtain ⟨e, he⟩ := hadd
      rw [List.foldl_cons, he, ih (q ++ [e]) hrest, List.length_append, List.length_singleton,
        List.length_cons]
      omega

/-- One connection on idle maps. -/
lemma connect_spec {x : Capture} (hx : x.bpf.Idle) (c : Connect) :
    (x.connect cfg pad ring c).bpf.Idle
      ∧ (x.connect cfg pad ring c).pendingEvents
        = (if c.Succeeds then c.events else []).foldl (deliver cfg pad ring) x.pendingEvents := by
  obtain ⟨s', hrun, hslots⟩ := c.emits_probes hx
  have hconnect : x.connect cfg pad ring c = ⟨s', (if c.Succeeds then c.events else []).foldl
      (deliver cfg pad ring) x.pendingEvents⟩ := by
    rw [Capture.connect, hrun, List.nil_append]
  rw [hconnect]
  exact ⟨fun fn key => (hslots fn key).trans (hx fn key), rfl⟩

lemma captureAll_append (connects : List Connect) (c : Connect) :
    captureAll cfg pad ring (connects ++ [c])
      = (captureAll cfg pad ring connects).connect cfg pad ring c :=
  List.foldl_concat _ _ _ _

/-- After any connections the maps are idle. -/
lemma idle_captureAll (connects : List Connect) : (captureAll cfg pad ring connects).bpf.Idle := by
  induction connects using List.reverseRecOn with
  | nil => exact fun _ _ => rfl
  | append_singleton connects c ih =>
      rw [captureAll_append]
      exact (connect_spec ih c).1

/-- What a successful connection adds to the queue. -/
lemma pendingEvents_captureAll (before : List Connect) {c : Connect} (hc : c.Succeeds) :
    (captureAll cfg pad ring (before ++ [c])).pendingEvents
      = c.events.foldl (deliver cfg pad ring) (captureAll cfg pad ring before).pendingEvents := by
  rw [captureAll_append, (connect_spec (idle_captureAll before) c).2, if_pos hc]

/-- The ring hands over the bytes of a structure and nothing else. -/
def Ring.IsExact : Ring → Prop
  | .exact => True
  | .perf _ => False

/-- A connection that adds one event is not mapped, and the ring adds no bytes. -/
lemma OneEventEach.isExact_not_mapped (hera : PresentEra cfg.wallClockOffsetNs)
    {connects : List Connect} (h : OneEventEach cfg pad ring connects) {c : Connect}
    (hc : c ∈ connects) (hok : c.Succeeds) (hpass : c.Unfiltered cfg) :
    ring.IsExact ∧ ¬ c.Mapped := by
  obtain ⟨before, after, rfl⟩ := List.append_of_mem hc
  obtain ⟨e, he⟩ := h before c after rfl hok hpass
  rw [pendingEvents_captureAll before hok] at he
  have hlength := congrArg List.length he
  rw [List.length_append, List.length_singleton] at hlength
  cases ring with
  | perf trailing =>
      rw [foldl_deliver_perf] at hlength
      omega
  | exact =>
      refine ⟨trivial, fun hmapped => ?_⟩
      rw [length_foldl_deliver_exact hera hpass _ (List.Subset.refl _),
        c.length_events.1 hmapped] at hlength
      omega

/-- **One event for each connection**, exactly when no successful connection that is to be reported
has a mapped destination and the ring adds no bytes. -/
theorem oneEventEach_iff (hera : PresentEra cfg.wallClockOffsetNs) (connects : List Connect) :
    OneEventEach cfg pad ring connects
      ↔ ∀ c ∈ connects, c.Succeeds → c.Unfiltered cfg → ring.IsExact ∧ ¬ c.Mapped := by
  constructor
  · intro h c hc hok hpass
    exact h.isExact_not_mapped hera hc hok hpass
  · rintro h before c after rfl hok hpass
    obtain ⟨hexact, hmapped⟩ := h c (by simp) hok hpass
    rw [pendingEvents_captureAll before hok]
    cases ring with
    | perf trailing => exact hexact.elim
    | exact =>
        obtain ⟨v, hv⟩ := List.length_eq_one_iff.mp (c.length_events.2 hmapped)
        obtain ⟨hpid, hport⟩ := Connect.unfiltered_events hpass (hv ▸ List.mem_singleton_self v)
        rw [hv, List.foldl_cons, List.foldl_nil]
        exact deliver_exact hera _ hpid hport

/-- `curl` connects an IPv6 socket to `::ffff:8.8.8.8`, port 443. -/
def Connect.mapped : Connect where
  destination := .v6 0xffff08080808
  port := 443
  pidTgid := 18219251306762
  uidGid := 1000
  comm := KernelEvent.curl.processName
  enteredNs := 5000000000
  innerEnteredNs := 5000010000
  innerReturnedNs := 5001250000
  returnedNs := 5001260000
  rc := 0

lemma presentEra_sample : PresentEra CollectorConfig.sample.wallClockOffsetNs := by
  constructor <;> decide

theorem oneEventEach_iff_mapped :
    OneEventEach .sample (fun _ => 0) .exact [.mapped]
      ↔ ∀ c ∈ [Connect.mapped], c.Succeeds → c.Unfiltered .sample →
        Ring.exact.IsExact ∧ ¬ c.Mapped :=
  oneEventEach_iff presentEra_sample _

/-- **A mapped destination** is submitted twice, and through the perf ring nothing arrives at
all. -/
theorem not_oneEventEach_mapped :
    Connect.mapped.Succeeds ∧ Connect.mapped.Unfiltered .sample
      ∧ ¬ OneEventEach .sample (fun _ => 0) .exact [.mapped]
      ∧ ∀ trailing, ¬ OneEventEach .sample (fun _ => 0) (.perf trailing) [.mapped] := by
  have hok : Connect.mapped.Succeeds := by decide
  have hpass : Connect.mapped.Unfiltered .sample := by
    constructor <;> decide
  have hmapped : Connect.mapped.Mapped := by
    change (embeddedIpv4 0xffff08080808).isSome = true
    decide
  refine ⟨hok, hpass, fun h => ?_, fun trailing h => ?_⟩
  · exact (h.isExact_not_mapped presentEra_sample (List.mem_singleton_self _) hok hpass).2 hmapped
  · exact (h.isExact_not_mapped presentEra_sample (List.mem_singleton_self _) hok hpass).1

end Queue

end TracePilot
