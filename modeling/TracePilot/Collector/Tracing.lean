import TracePilot.Collector.Probes

/-!
# Tracing concurrent connects

Any number of threads call the two connect functions.  A call runs its probe on entry, then the
function, then its probe on return, one atomic operation at a time, and between any two of them
the other threads may do anything.

`Tracing.run` is a schedule of such moves.  It refuses the ones that the kernel does not make: a
thread is in one call at a time, except that `tcp_v6_connect` may call `tcp_v4_connect`; the
innermost call returns first; the clock does not run backwards.  It also refuses more calls than
the maps can hold.

`Call.Ok` follows one call through its probes and says what its slot of the map holds at each
point.  **`Tracing.connects_traced`** — over every schedule, every call that has returned emitted
its own event or nothing, and the maps hold the calls that are inside the functions.
-/

namespace TracePilot

open Resumption BpfProgram

/-! ## Calls -/

/-- How far a call has come, with the rest of the probe that is running. -/
inductive Phase
  | entering (rest : BpfProgram)
  | inside
  | returning (ret : ReturnContext) (rest : BpfProgram)
  | returned (ret : ReturnContext)

/-- A call of a probed function and what its probes submitted. -/
structure Call where
  fn : ConnectFunction
  entry : EntryContext
  phase : Phase
  emitted : List KernelEvent := []

namespace Call

variable (c : Call)

/-- The thread of a call. -/
def thread : BitVec 64 := c.entry.pidTgid

/-- The call has not returned. -/
def inFlight : Bool :=
  match c.phase with
  | .returned _ => false
  | _ => true

/-- Neither probe of the call is running, and it has not returned. -/
def isInside : Bool :=
  match c.phase with
  | .inside => true
  | _ => false

/-- The call got an address of the function's own family, `AF_INET` or `AF_INET6`. -/
def OwnFamily : Prop :=
  c.entry.uaddr.family = match c.fn with
    | .tcpV4Connect => 2
    | .tcpV6Connect => 10

instance : Decidable c.OwnFamily := inferInstanceAs (Decidable (_ = _))

/-- What the map remembers of the call. -/
def pending : PendingConnection := c.entry.pending c.fn

/-- **The event of a call** that returned with `ret`, if there is to be one. -/
def event (ret : ReturnContext) : Option KernelEvent :=
  if c.OwnFamily ∧ ret.rc.setWidth 32 = (0 : BitVec 32) then
    some {
      timestampNs := c.entry.ktimeNs
      durationNs := BitVec.ofNat 64 (ret.ktimeNs.toNat - c.entry.ktimeNs.toNat)
      pid := (c.thread >>> 32).setWidth 32
      uid := c.entry.uidGid.setWidth 32
      address := match c.fn with
        | .tcpV4Connect => .v4 c.entry.uaddr.sinAddr
        | .tcpV6Connect => .v6 c.entry.uaddr.sin6Addr
      port := c.entry.uaddr.port
      processName := c.entry.comm }
  else none

/-- The next operation of the probe that is running, or its end. -/
def act {capacity : ℕ} (s : BpfState capacity) : Option (Call × BpfState capacity) :=
  match c.phase with
  | .entering (.ret _) => some ({ c with phase := .inside }, s)
  | .entering (.call op k) =>
      let r := bpf op c.emitted s
      some ({ c with phase := .entering (k r.1), emitted := r.2.1 }, r.2.2)
  | .returning ret (.ret _) => some ({ c with phase := .returned ret }, s)
  | .returning ret (.call op k) =>
      let r := bpf op c.emitted s
      some ({ c with phase := .returning ret (k r.1), emitted := r.2.1 }, r.2.2)
  | .inside | .returned _ => none

end Call

/-! ## Schedules -/

/-- The maps, the rings and all calls so far. -/
structure Tracing (capacity : ℕ) where
  bpf : BpfState capacity
  calls : List Call

/-- What happens next: a call begins, the probe of the call number `i` performs an operation, or
the call number `i` is about to return. -/
inductive Move
  | enter (fn : ConnectFunction) (ctx : EntryContext)
  | act (i : ℕ)
  | leave (i : ℕ) (ret : ReturnContext)

namespace Tracing

variable {capacity : ℕ}

/-- No call yet. -/
def initial : Tracing capacity := ⟨.initial, []⟩

variable (m : Tracing capacity)

/-- The number of calls that have not returned. -/
def callsInFlight : ℕ := m.calls.countP Call.inFlight

/-- The thread is in no call, or inside `tcp_v6_connect`, which calls `tcp_v4_connect`; and the
calls in flight are fewer than the maps can hold. -/
def MayEnter (fn : ConnectFunction) (thread : BitVec 64) : Prop :=
  (∀ c ∈ m.calls, c.inFlight = true → c.thread = thread →
      fn = .tcpV4Connect ∧ c.fn = .tcpV6Connect ∧ c.isInside = true)
    ∧ m.callsInFlight < capacity

/-- The call is the innermost one of its thread, and the clock has not run backwards. -/
def MayLeave (c : Call) (ret : ReturnContext) : Prop :=
  c.isInside = true
    ∧ (∀ d ∈ m.calls, d.inFlight = true → d.thread = c.thread → d.fn = .tcpV4Connect →
      c.fn = .tcpV4Connect)
    ∧ ret.pidTgid = c.thread ∧ c.entry.ktimeNs.toNat ≤ ret.ktimeNs.toNat

instance (fn : ConnectFunction) (thread : BitVec 64) : Decidable (m.MayEnter fn thread) :=
  inferInstanceAs (Decidable (_ ∧ _))

instance (c : Call) (ret : ReturnContext) : Decidable (m.MayLeave c ret) :=
  inferInstanceAs (Decidable (_ ∧ _))

/-- One move. -/
def step : Move → Option (Tracing capacity)
  | .enter fn ctx =>
      if m.MayEnter fn ctx.pidTgid then
        some { m with calls := m.calls ++ [⟨fn, ctx, .entering (fn.kprobe ctx), []⟩] }
      else none
  | .act i =>
      m.calls[i]?.bind fun c => (c.act m.bpf).map fun r => ⟨r.2, m.calls.set i r.1⟩
  | .leave i ret =>
      m.calls[i]?.bind fun c =>
        if m.MayLeave c ret then
          some { m with
            calls := m.calls.set i { c with phase := .returning ret (c.fn.kretprobe ret) } }
        else none

/-- A schedule. -/
def run (m : Tracing capacity) (moves : List Move) : Option (Tracing capacity) :=
  moves.foldlM step m

end Tracing

/-! ## One call through its probes -/

namespace Call

/-- What the map holds for a call between its two probes. -/
def tracked (c : Call) : Option PendingConnection := if c.OwnFamily then some c.pending else none

/-- A return of the call: on its thread, and not before its entry. -/
structure Returns (c : Call) (ret : ReturnContext) : Prop where
  thread : ret.pidTgid = c.thread
  time : c.entry.ktimeNs.toNat ≤ ret.ktimeNs.toNat

/-- **The points of a call**: the rest of its probe, what it submitted, and what its slot of the map
holds. -/
inductive Ok (c : Call) : Option PendingConnection → Prop
  | updating (hown : c.OwnFamily) (hphase : c.phase = .entering (update c.fn c.thread c.pending))
      (hemitted : c.emitted = []) : Ok c none
  | entered (hphase : c.phase = .entering (.ret ())) (hemitted : c.emitted = []) : Ok c c.tracked
  | inside (hphase : c.phase = .inside) (hemitted : c.emitted = []) : Ok c c.tracked
  | returning {ret : ReturnContext} (hret : c.Returns ret)
      (hphase : c.phase = .returning ret (traceConnectReturn c.fn ret))
      (hemitted : c.emitted = []) : Ok c c.tracked
  | submitting {ret : ReturnContext} (hret : c.Returns ret) (hown : c.OwnFamily)
      (hzero : ret.returnValue = 0)
      (hphase : c.phase = .returning ret (do
        perfSubmit c.fn (c.pending.event ret.ktimeNs)
        delete c.fn c.thread))
      (hemitted : c.emitted = []) : Ok c (some c.pending)
  | deleting {ret : ReturnContext} (hret : c.Returns ret) (hown : c.OwnFamily)
      (hphase : c.phase = .returning ret (delete c.fn c.thread))
      (hemitted : c.emitted = (c.event ret).toList) : Ok c (some c.pending)
  | deleted {ret : ReturnContext} (hret : c.Returns ret) (hphase : c.phase = .returning ret (.ret ()))
      (hemitted : c.emitted = (c.event ret).toList) : Ok c none
  | returned {ret : ReturnContext} (hret : c.Returns ret) (hphase : c.phase = .returned ret)
      (hemitted : c.emitted = (c.event ret).toList) (slot : Option PendingConnection) : Ok c slot

variable {c : Call} {capacity : ℕ} {s : BpfState capacity}

lemma ownFamily_iff : c.OwnFamily ↔ c.entry.uaddr.family = c.fn.addressFamily := by
  obtain ⟨fn, entry, phase, emitted⟩ := c
  cases fn <;> rfl

/-- The map belongs to other calls once a call has returned. -/
lemma Ok.of_returned {slot : Option PendingConnection} (h : c.Ok slot) (hc : c.inFlight = false)
    (slot' : Option PendingConnection) : c.Ok slot' := by
  cases h with
  | returned hret hphase hemitted => exact .returned hret hphase hemitted slot'
  | _ => simp_all [inFlight]

/-- The difference of the times, as the program computes it. -/
lemma event_pending {ret : ReturnContext} (hret : c.Returns ret) (hown : c.OwnFamily)
    (hzero : ret.returnValue = 0) : c.event ret = some (c.pending.event ret.ktimeNs) := by
  have hsub : ret.ktimeNs - c.entry.ktimeNs
      = BitVec.ofNat 64 (ret.ktimeNs.toNat - c.entry.ktimeNs.toNat) := by
    have hle : c.entry.ktimeNs ≤ ret.ktimeNs := hret.time
    apply BitVec.eq_of_toNat_eq
    rw [BitVec.toNat_sub_of_le hle, BitVec.toNat_ofNat, Nat.mod_eq_of_lt]
    have hlt := ret.ktimeNs.isLt
    omega
  rw [event, if_pos ⟨hown, hzero⟩, PendingConnection.event, ← hsub]
  obtain ⟨fn, entry, phase, emitted⟩ := c
  cases fn <;> rfl

/-- A call begins with its probe on entry, while its slot is empty. -/
lemma ok_enter (fn : ConnectFunction) (ctx : EntryContext) :
    Ok ⟨fn, ctx, .entering (fn.kprobe ctx), []⟩ none := by
  rw [kprobe_eq]
  by_cases hown : ctx.uaddr.family = fn.addressFamily
  · refine .updating (ownFamily_iff.mpr hown) ?_ rfl
    rw [traceConnectEntry, if_neg (not_not.mpr hown)]
    rfl
  · have htracked : tracked ⟨fn, ctx, .entering (traceConnectEntry fn ctx), []⟩ = none :=
      if_neg (ownFamily_iff.not.mpr hown)
    rw [← htracked]
    refine .entered ?_ rfl
    rw [traceConnectEntry, if_pos hown]
    rfl

/-- A call inside the function goes on with its probe on return. -/
lemma ok_leave {slot : Option PendingConnection} (h : c.Ok slot) (hinside : c.isInside = true)
    {ret : ReturnContext} (hret : c.Returns ret) :
    Ok { c with phase := .returning ret (c.fn.kretprobe ret) } slot := by
  cases h with
  | inside hphase hemitted =>
      rw [kretprobe_eq]
      exact .returning (c := { c with phase := _ }) ⟨hret.thread, hret.time⟩ rfl hemitted
  | _ => simp_all [isInside]

/-- **What one operation of a call does**: it moves the call on, it changes no slot but the call's
own, and what it submits goes to the ring and nowhere else. -/
structure Acts (c : Call) (s : BpfState capacity) (c' : Call) (s' : BpfState capacity) : Prop where
  ok : c'.Ok (s'.slot c.fn c.thread)
  fn : c'.fn = c.fn
  entry : c'.entry = c.entry
  inFlight : c.inFlight = true
  slots : ∀ fn key, (fn, key) ≠ (c.fn, c.thread) → s'.slot fn key = s.slot fn key
  removed : c'.inFlight = false → s'.slot c.fn c.thread = none
  events : ∃ submitted, c'.emitted = c.emitted ++ submitted ∧
    ∀ fn, s'.connectionEvents fn = s.connectionEvents fn ++ if c.fn = fn then submitted else []

/-- The point that the probe on return reaches with its lookup. -/
lemma ok_found {ret : ReturnContext} (hret : c.Returns ret) (hemitted : c.emitted = []) :
    Ok { c with phase := .returning ret (reportConnection c.fn ret c.tracked) } c.tracked := by
  have hret' : Returns { c with phase := .returning ret (reportConnection c.fn ret c.tracked) } ret :=
    ⟨hret.thread, hret.time⟩
  by_cases hown : c.OwnFamily
  · rw [tracked, if_pos hown]
    rw [tracked, if_pos hown] at hret'
    by_cases hzero : ret.returnValue = 0
    · refine .submitting hret' hown hzero ?_ hemitted
      rw [reportConnection, if_neg (not_not.mpr hzero), hret.thread]
      rfl
    · refine .deleting hret' hown ?_ ?_
      · rw [reportConnection, if_pos hzero, hret.thread]
        rfl
      · have hnone : c.event ret = none := if_neg fun h => hzero h.2
        exact hemitted.trans (congrArg Option.toList hnone).symm
  · rw [tracked, if_neg hown]
    rw [tracked, if_neg hown] at hret'
    have hnone : c.event ret = none := if_neg fun h => hown h.1
    exact .deleted hret' rfl (hemitted.trans (congrArg Option.toList hnone).symm)

/-- An operation that submits nothing. -/
lemma Acts.quiet {c' : Call} {s' : BpfState capacity} (hok : c'.Ok (s'.slot c.fn c.thread))
    (hfn : c'.fn = c.fn) (hentry : c'.entry = c.entry) (hc : c.inFlight = true)
    (hslots : ∀ fn key, (fn, key) ≠ (c.fn, c.thread) → s'.slot fn key = s.slot fn key)
    (hremoved : c'.inFlight = false → s'.slot c.fn c.thread = none)
    (hemitted : c'.emitted = c.emitted) (hevents : s'.connectionEvents = s.connectionEvents) :
    c.Acts s c' s' where
  ok := hok
  fn := hfn
  entry := hentry
  inFlight := hc
  slots := hslots
  removed := hremoved
  events := ⟨[], by rw [hemitted, List.append_nil], by simp [hevents]⟩

/-- A call that has returned runs no probe. -/
lemma inFlight_of_act {c' : Call} {s' : BpfState capacity} (hact : c.act s = some (c', s')) :
    c.inFlight = true := by
  cases hphase : c.phase with
  | returned ret =>
      rw [act, hphase] at hact
      cases hact
  | _ => simp [inFlight, hphase]

/-- **The operations of a call**, as long as the map takes its update. -/
lemma act_spec (h : c.Ok (s.slot c.fn c.thread))
    (hroom : s.slot c.fn c.thread = none → (s.pendingConnections c.fn).HasRoom c.thread)
    {c' : Call} {s' : BpfState capacity} (hact : c.act s = some (c', s')) : c.Acts s c' s' := by
  have hc : c.inFlight = true := inFlight_of_act hact
  generalize hslot : s.slot c.fn c.thread = slot at h hroom
  cases h with
  | updating hown hphase hemitted =>
      rw [act, hphase] at hact
      obtain ⟨rfl, rfl⟩ := Prod.mk.inj (Option.some.inj hact)
      have htracked : tracked { c with phase := .entering (.ret ()) } = some c.pending := if_pos hown
      have hset : (s.update c.fn c.thread c.pending).slot c.fn c.thread = some c.pending :=
        BpfState.slot_update (hroom rfl)
      refine .quiet ?_ rfl rfl hc (fun fn key hne => BpfState.slot_update_of_ne hne) ?_ rfl rfl
      · rw [← htracked] at hset
        exact hset ▸ .entered rfl hemitted
      · exact fun hreturned => absurd hreturned (by simp [inFlight])
  | entered hphase hemitted =>
      rw [act, hphase] at hact
      obtain ⟨rfl, rfl⟩ := Prod.mk.inj (Option.some.inj hact)
      refine .quiet ?_ rfl rfl hc (fun _ _ _ => rfl) ?_ rfl rfl
      · rw [hslot]
        exact .inside rfl hemitted
      · exact fun hreturned => absurd hreturned (by simp [inFlight])
  | inside hphase hemitted =>
      rw [act, hphase] at hact
      cases hact
  | @returning ret hret hphase hemitted =>
      rw [act, hphase] at hact
      obtain ⟨rfl, rfl⟩ := Prod.mk.inj (Option.some.inj hact)
      have hlookup : (s.pendingConnections c.fn).lookup ret.pidTgid = c.tracked := by
        rw [hret.thread]
        exact hslot
      refine .quiet ?_ rfl rfl hc (fun _ _ _ => rfl) ?_ rfl rfl
      · change Ok { c with phase := .returning ret (reportConnection c.fn ret
          ((s.pendingConnections c.fn).lookup ret.pidTgid)) } (s.slot c.fn c.thread)
        rw [hlookup, hslot]
        exact ok_found hret hemitted
      · exact fun hreturned => absurd hreturned (by simp [inFlight])
  | @submitting ret hret hown hzero hphase hemitted =>
      rw [act, hphase] at hact
      obtain ⟨rfl, rfl⟩ := Prod.mk.inj (Option.some.inj hact)
      refine ⟨?_, rfl, rfl, hc, fun _ _ _ => rfl, ?_, [c.pending.event ret.ktimeNs], rfl, fun fn =>
        BpfState.connectionEvents_perfSubmit⟩
      · change Ok { c with
          phase := .returning ret (delete c.fn c.thread)
          emitted := c.emitted ++ [c.pending.event ret.ktimeNs] } (s.slot c.fn c.thread)
        rw [hslot, hemitted]
        refine .deleting ⟨hret.thread, hret.time⟩ hown rfl ?_
        exact (congrArg Option.toList (event_pending hret hown hzero)).symm
      · exact fun hreturned => absurd hreturned (by simp [inFlight])
  | @deleting ret hret hown hphase hemitted =>
      rw [act, hphase] at hact
      obtain ⟨rfl, rfl⟩ := Prod.mk.inj (Option.some.inj hact)
      refine .quiet ?_ rfl rfl hc (fun fn key hne => BpfState.slot_delete_of_ne hne) ?_ rfl rfl
      · exact BpfState.slot_delete ▸ .deleted ⟨hret.thread, hret.time⟩ rfl hemitted
      · exact fun hreturned => absurd hreturned (by simp [inFlight])
  | @deleted ret hret hphase hemitted =>
      rw [act, hphase] at hact
      obtain ⟨rfl, rfl⟩ := Prod.mk.inj (Option.some.inj hact)
      refine .quiet ?_ rfl rfl hc (fun _ _ _ => rfl) (fun _ => hslot) rfl rfl
      exact .returned (c := { c with phase := .returned ret }) ⟨hret.thread, hret.time⟩ rfl hemitted _
  | returned hret hphase hemitted =>
      rw [act, hphase] at hact
      cases hact

/-- A call that turns to its return, as an operation. -/
lemma acts_leave (h : c.Ok (s.slot c.fn c.thread)) (hinside : c.isInside = true)
    {ret : ReturnContext} (hret : c.Returns ret) :
    c.Acts s { c with phase := .returning ret (c.fn.kretprobe ret) } s := by
  have hc : c.inFlight = true := by
    cases hphase : c.phase with
    | returned ret => simp [isInside, hphase] at hinside
    | _ => simp [inFlight, hphase]
  refine .quiet (ok_leave h hinside hret) rfl rfl hc (fun _ _ _ => rfl) ?_ rfl rfl
  exact fun hreturned => absurd hreturned (by simp [inFlight])

end Call

/-! ## All calls -/

/-- An element of a list in which one place was overwritten. -/
lemma of_getElem?_set {α : Type} {xs : List α} {i j : ℕ} {x y : α}
    (h : (xs.set i y)[j]? = some x) : (j = i ∧ x = y) ∨ (j ≠ i ∧ xs[j]? = some x) := by
  rw [List.getElem?_set] at h
  split_ifs at h with hji
  · exact Or.inl ⟨hji.symm, (Option.some.inj h).symm⟩
  · exact Or.inr ⟨Ne.symm hji, h⟩

/-- An element of a list with a new last one. -/
lemma of_getElem?_concat {α : Type} {xs : List α} {j : ℕ} {x y : α}
    (h : (xs ++ [y])[j]? = some x) : xs[j]? = some x ∨ (j = xs.length ∧ x = y) := by
  rw [List.getElem?_append] at h
  split_ifs at h with hlt
  · exact Or.inl h
  · rw [List.getElem?_singleton] at h
    split_ifs at h with hzero
    exact Or.inr ⟨by omega, (Option.some.inj h).symm⟩

/-- Replacing one element of a list by one with more results. -/
lemma perm_flatMap_set {α β : Type} (f : α → List β) {x y : α} {extra : List β}
    (hf : f y = f x ++ extra) :
    ∀ (xs : List α) (i : ℕ), xs[i]? = some x → ((xs.set i y).flatMap f).Perm (xs.flatMap f ++ extra)
  | [], i, h => by simp at h
  | z :: zs, 0, h => by
      obtain rfl : z = x := by simpa using h
      rw [List.set_cons_zero, List.flatMap_cons, List.flatMap_cons, hf, List.append_assoc,
        List.append_assoc]
      exact List.perm_append_comm.append_left _
  | z :: zs, i + 1, h => by
      rw [List.set_cons_succ, List.flatMap_cons, List.flatMap_cons, List.append_assoc]
      exact (perm_flatMap_set f hf zs i (by simpa using h)).append_left _

namespace Tracing

variable {capacity : ℕ} {m m' : Tracing capacity}

/-- What the probes of a function submitted, call by call. -/
def emittedBy (m : Tracing capacity) (fn : ConnectFunction) : List KernelEvent :=
  m.calls.flatMap fun c => if c.fn = fn then c.emitted else []

/-- **The invariant**: every call is at one of its points, two calls in flight never share a slot,
every occupied slot belongs to a call in flight, the maps can hold them all, and the rings hold
what the calls submitted. -/
structure Ok (m : Tracing capacity) : Prop where
  calls : ∀ c ∈ m.calls, c.Ok (m.bpf.slot c.fn c.thread)
  apart : ∀ (i j : ℕ) (c d : Call), m.calls[i]? = some c → m.calls[j]? = some d →
    c.inFlight = true → d.inFlight = true → (c.fn, c.thread) = (d.fn, d.thread) → i = j
  owned : ∀ fn thread leaf, m.bpf.slot fn thread = some leaf →
    ∃ c ∈ m.calls, c.inFlight = true ∧ (c.fn, c.thread) = (fn, thread)
  room : m.callsInFlight ≤ capacity
  rings : ∀ fn, (m.bpf.connectionEvents fn).Perm (m.emittedBy fn)

lemma ok_initial : (initial : Tracing capacity).Ok where
  calls c hc := absurd hc List.not_mem_nil
  apart i j c d hi := by simp [initial] at hi
  owned fn thread leaf h := by simp [initial] at h
  room := Nat.zero_le _
  rings fn := List.Perm.refl _

/-- The map has room for every call in flight. -/
lemma Ok.hasRoom (h : m.Ok) {c : Call} (hc : c ∈ m.calls) (hflight : c.inFlight = true)
    (hempty : m.bpf.slot c.fn c.thread = none) :
    (m.bpf.pendingConnections c.fn).HasRoom c.thread := by
  refine BoundedMap.hasRoom_of_keys ((m.calls.filter Call.inFlight).map Call.thread) ?_ ?_ hempty ?_
  · intro thread leaf hleaf
    obtain ⟨d, hd, hflight', hslot⟩ := h.owned c.fn thread leaf hleaf
    exact List.mem_map.mpr ⟨d, List.mem_filter.mpr ⟨hd, hflight'⟩, (Prod.mk.inj hslot).2⟩
  · exact List.mem_map_of_mem (List.mem_filter.mpr ⟨hc, hflight⟩)
  · rw [List.length_map, ← List.countP_eq_length_filter]
    exact h.room

/-- One call moves on. -/
lemma Ok.set (h : m.Ok) {i : ℕ} {c c' : Call} {s' : BpfState capacity}
    (hc : m.calls[i]? = some c) (hact : c.Acts m.bpf c' s') :
    Ok ⟨s', m.calls.set i c'⟩ := by
  obtain ⟨hi, rfl⟩ := List.getElem?_eq_some_iff.mp hc
  -- the other calls keep their slots
  have hother : ∀ (j : ℕ) (d : Call), m.calls[j]? = some d → j ≠ i → d.inFlight = true →
      (d.fn, d.thread) ≠ (m.calls[i].fn, m.calls[i].thread) := by
    intro j d hd hji hflight heq
    exact hji (h.apart j i d _ hd hc hflight hact.inFlight heq)
  have hthread : c'.thread = m.calls[i].thread := congrArg EntryContext.pidTgid hact.entry
  constructor
  case calls =>
    intro d hd
    obtain ⟨j, hj⟩ := List.mem_iff_getElem?.mp hd
    rcases of_getElem?_set hj with ⟨rfl, rfl⟩ | ⟨hji, hj⟩
    · rw [hact.fn, hthread]
      exact hact.ok
    · have hok := h.calls d (List.mem_of_getElem? hj)
      cases hflight : d.inFlight with
      | true =>
          rw [hact.slots _ _ (hother j d hj hji hflight)]
          exact hok
      | false => exact hok.of_returned hflight _
  case apart =>
    intro j k d e hj hk hd he heq
    rcases of_getElem?_set hj with ⟨hji, rfl⟩ | ⟨hji, hj'⟩ <;>
      rcases of_getElem?_set hk with ⟨hki, rfl⟩ | ⟨hki, hk'⟩
    · exact hji.trans hki.symm
    · rw [hact.fn, hthread] at heq
      exact absurd heq.symm (hother k e hk' hki he)
    · rw [hact.fn, hthread] at heq
      exact absurd heq (hother j d hj' hji hd)
    · exact h.apart j k d e hj' hk' hd he heq
  case owned =>
    intro fn thread leaf hleaf
    by_cases hslot : (fn, thread) = (m.calls[i].fn, m.calls[i].thread)
    · obtain ⟨rfl, rfl⟩ := Prod.mk.inj hslot
      refine ⟨c', List.mem_set hi c', ?_, by rw [hact.fn, hthread]⟩
      cases hflight : c'.inFlight with
      | true => rfl
      | false =>
          rw [hact.removed hflight] at hleaf
          cases hleaf
    · rw [hact.slots _ _ hslot] at hleaf
      obtain ⟨d, hd, hflight, heq⟩ := h.owned fn thread leaf hleaf
      obtain ⟨j, hj⟩ := List.mem_iff_getElem?.mp hd
      have hji : j ≠ i := by
        rintro rfl
        obtain rfl := Option.some.inj (hc.symm.trans hj)
        exact hslot heq.symm
      refine ⟨d, List.mem_iff_getElem?.mpr ⟨j, ?_⟩, hflight, heq⟩
      rw [List.getElem?_set_ne (Ne.symm hji)]
      exact hj
  case room =>
    refine le_trans ?_ h.room
    change (m.calls.set i c').countP Call.inFlight ≤ m.calls.countP Call.inFlight
    rw [List.countP_set hi, if_pos hact.inFlight]
    have hpos : 0 < m.calls.countP Call.inFlight :=
      List.countP_pos_iff.mpr ⟨_, List.getElem_mem hi, hact.inFlight⟩
    split_ifs <;> omega
  case rings =>
    intro fn
    obtain ⟨submitted, hemitted, hevents⟩ := hact.events
    change (s'.connectionEvents fn).Perm ((m.calls.set i c').flatMap _)
    rw [hevents fn]
    refine ((h.rings fn).append_right _).trans (perm_flatMap_set _ ?_ _ i hc).symm
    rw [hact.fn, hemitted]
    split_ifs <;> simp

/-- A call begins. -/
lemma Ok.enter (h : m.Ok) {fn : ConnectFunction} {ctx : EntryContext}
    (hmay : m.MayEnter fn ctx.pidTgid) :
    Ok { m with calls := m.calls ++ [⟨fn, ctx, .entering (fn.kprobe ctx), []⟩] } := by
  -- by the bracketing no call in flight has the slot of the new one
  have hfree : ∀ c ∈ m.calls, c.inFlight = true → (c.fn, c.thread) ≠ (fn, ctx.pidTgid) := by
    intro c hc hflight heq
    obtain ⟨hfn, hthread⟩ := Prod.mk.inj heq
    obtain ⟨hv4, hv6, -⟩ := hmay.1 c hc hflight hthread
    rw [hv4, hv6] at hfn
    cases hfn
  have hempty : m.bpf.slot fn ctx.pidTgid = none := by
    cases hslot : m.bpf.slot fn ctx.pidTgid with
    | none => rfl
    | some leaf =>
        obtain ⟨c, hc, hflight, heq⟩ := h.owned _ _ _ hslot
        exact absurd heq (hfree c hc hflight)
  have hnew : Call.Ok ⟨fn, ctx, .entering (fn.kprobe ctx), []⟩ none := Call.ok_enter fn ctx
  constructor
  case calls =>
    intro c hc
    rcases List.mem_append.mp hc with hc | hc
    · exact h.calls c hc
    · obtain rfl := List.mem_singleton.mp hc
      exact hempty ▸ hnew
  case apart =>
    intro j k d e hj hk hd he heq
    rcases of_getElem?_concat hj with hj' | ⟨rfl, rfl⟩ <;>
      rcases of_getElem?_concat hk with hk' | ⟨rfl, rfl⟩
    · exact h.apart j k d e hj' hk' hd he heq
    · exact absurd heq (hfree d (List.mem_of_getElem? hj') hd)
    · exact absurd heq.symm (hfree e (List.mem_of_getElem? hk') he)
    · rfl
  case owned =>
    intro fn' thread leaf hleaf
    obtain ⟨c, hc, hflight, heq⟩ := h.owned fn' thread leaf hleaf
    exact ⟨c, List.mem_append_left _ hc, hflight, heq⟩
  case room =>
    change (m.calls ++ [_]).countP Call.inFlight ≤ capacity
    rw [List.countP_append, List.countP_singleton]
    have hlt : m.calls.countP Call.inFlight < capacity := hmay.2
    split_ifs <;> omega
  case rings =>
    intro fn'
    have hsame : (Tracing.mk m.bpf (m.calls ++ [⟨fn, ctx, .entering (fn.kprobe ctx), []⟩])).emittedBy
        fn' = m.emittedBy fn' := by
      simp [emittedBy]
    rw [hsame]
    exact h.rings fn'

/-- **The moves of a schedule**, told apart. -/
lemma step_cases {move : Move} (h : m.step move = some m') :
    (∃ fn ctx, m.MayEnter fn ctx.pidTgid
        ∧ m' = { m with calls := m.calls ++ [⟨fn, ctx, .entering (fn.kprobe ctx), []⟩] })
      ∨ (∃ i c c' s', m.calls[i]? = some c ∧ c.act m.bpf = some (c', s')
        ∧ m' = ⟨s', m.calls.set i c'⟩)
      ∨ ∃ i c ret, m.calls[i]? = some c ∧ m.MayLeave c ret
        ∧ m' = { m with
          calls := m.calls.set i { c with phase := .returning ret (c.fn.kretprobe ret) } } := by
  cases move with
  | enter fn ctx =>
      rw [step] at h
      split_ifs at h with hmay
      exact Or.inl ⟨fn, ctx, hmay, (Option.some.inj h).symm⟩
  | act i =>
      obtain ⟨c, hc, h⟩ := Option.bind_eq_some_iff.mp h
      obtain ⟨⟨c', s'⟩, hact, rfl⟩ := Option.map_eq_some_iff.mp h
      exact Or.inr (Or.inl ⟨i, c, c', s', hc, hact, rfl⟩)
  | leave i ret =>
      obtain ⟨c, hc, h⟩ := Option.bind_eq_some_iff.mp h
      split_ifs at h with hmay
      exact Or.inr (Or.inr ⟨i, c, ret, hc, hmay, (Option.some.inj h).symm⟩)

lemma Ok.step (h : m.Ok) {move : Move} (hstep : m.step move = some m') : m'.Ok := by
  obtain ⟨fn, ctx, hmay, rfl⟩ | ⟨i, c, c', s', hc, hact, rfl⟩ | ⟨i, c, ret, hc, hmay, rfl⟩ :=
    step_cases hstep
  · exact h.enter hmay
  · have hmem := List.mem_of_getElem? hc
    have hflight := Call.inFlight_of_act hact
    exact h.set hc (Call.act_spec (h.calls c hmem) (h.hasRoom hmem hflight) hact)
  · have hmem := List.mem_of_getElem? hc
    exact h.set hc (Call.acts_leave (h.calls c hmem) hmay.1 ⟨hmay.2.2.1, hmay.2.2.2⟩)

/-- Every schedule keeps the invariant. -/
lemma Ok.run (h : m.Ok) {moves : List Move} (hrun : m.run moves = some m') : m'.Ok := by
  induction moves generalizing m with
  | nil =>
      obtain rfl := Option.some.inj hrun
      exact h
  | cons move moves ih =>
      obtain ⟨m₁, hstep, hrest⟩ := Option.bind_eq_some_iff.mp hrun
      exact ih (h.step hstep) hrest

end Tracing

/-! ## The traced calls -/

namespace Call

/-- **The calls that are reported**: a call that has returned emitted its event, if it is to have
one, and the event gives the time it took; before its return it may have emitted that event, and
nothing else. -/
def Reported (c : Call) : Prop :=
  match c.phase with
  | .returned ret => c.emitted = (c.event ret).toList
      ∧ ∀ e ∈ c.event ret, e.durationNs.toNat + c.entry.ktimeNs.toNat = ret.ktimeNs.toNat
  | .returning ret _ => c.emitted = [] ∨ c.emitted = (c.event ret).toList
  | _ => c.emitted = []

lemma tracked_eq_some {c : Call} {leaf : PendingConnection} (h : c.tracked = some leaf) :
    c.OwnFamily ∧ c.pending = leaf := by
  rw [tracked] at h
  split_ifs at h with hown
  exact ⟨hown, Option.some.inj h⟩

/-- An occupied slot holds what its call looked like on entry. -/
lemma Ok.pending_eq {c : Call} {leaf : PendingConnection} {slot : Option PendingConnection}
    (h : c.Ok slot) (hflight : c.inFlight = true) (hslot : slot = some leaf) :
    c.OwnFamily ∧ c.pending = leaf := by
  cases h with
  | entered => exact tracked_eq_some hslot
  | inside => exact tracked_eq_some hslot
  | returning => exact tracked_eq_some hslot
  | submitting hret hown => exact ⟨hown, Option.some.inj hslot⟩
  | deleting hret hown => exact ⟨hown, Option.some.inj hslot⟩
  | updating => cases hslot
  | deleted => cases hslot
  | returned hret hphase =>
      rw [inFlight, hphase] at hflight
      cases hflight

/-- The duration is the time from entry to return. -/
lemma durationNs_event {c : Call} {ret : ReturnContext} (hret : c.Returns ret) {e : KernelEvent}
    (he : e ∈ c.event ret) : e.durationNs.toNat + c.entry.ktimeNs.toNat = ret.ktimeNs.toNat := by
  rw [event, Option.mem_def] at he
  split_ifs at he with hcond
  obtain rfl := Option.some.inj he
  have hlt := ret.ktimeNs.isLt
  have hle := hret.time
  change (BitVec.ofNat 64 (ret.ktimeNs.toNat - c.entry.ktimeNs.toNat)).toNat + _ = _
  rw [BitVec.toNat_ofNat, Nat.mod_eq_of_lt] <;> omega

lemma Ok.reported {c : Call} {slot : Option PendingConnection} (h : c.Ok slot) : c.Reported := by
  cases h with
  | updating hown hphase hemitted => rw [Reported, hphase]; exact hemitted
  | entered hphase hemitted => rw [Reported, hphase]; exact hemitted
  | inside hphase hemitted => rw [Reported, hphase]; exact hemitted
  | returning hret hphase hemitted => rw [Reported, hphase]; exact Or.inl hemitted
  | submitting hret hown hzero hphase hemitted => rw [Reported, hphase]; exact Or.inl hemitted
  | deleting hret hown hphase hemitted => rw [Reported, hphase]; exact Or.inr hemitted
  | deleted hret hphase hemitted => rw [Reported, hphase]; exact Or.inr hemitted
  | returned hret hphase hemitted =>
      rw [Reported, hphase]
      exact ⟨hemitted, fun e he => durationNs_event hret he⟩

end Call

/-- **The entries of the maps**: while a call is inside its function its slot holds what its probe
on entry remembered, and every entry is that of a call in flight which got an address of its own
family. -/
def Tracing.Tracked {capacity : ℕ} (m : Tracing capacity) : Prop :=
  (∀ c ∈ m.calls, c.isInside = true → m.bpf.slot c.fn c.thread = c.tracked)
    ∧ ∀ fn thread leaf, m.bpf.slot fn thread = some leaf → ∃ c ∈ m.calls,
      c.inFlight = true ∧ (c.fn, c.thread) = (fn, thread) ∧ c.OwnFamily ∧ c.pending = leaf

namespace Tracing

variable {capacity : ℕ}

/-- **Every schedule**: each ring holds what the calls emitted, each call that has returned emitted
its own event or nothing, and the maps hold the calls that are inside the functions. -/
theorem connects_traced {moves : List Move} {m : Tracing capacity}
    (h : initial.run moves = some m) :
    (∀ fn, (m.bpf.connectionEvents fn).Perm (m.emittedBy fn))
      ∧ (∀ c ∈ m.calls, c.Reported) ∧ m.Tracked := by
  have hm : m.Ok := ok_initial.run h
  refine ⟨hm.rings, fun c hc => (hm.calls c hc).reported, fun c hc hinside => ?_, ?_⟩
  · have hok := hm.calls c hc
    generalize m.bpf.slot c.fn c.thread = slot at hok
    cases hok with
    | inside => rfl
    | _ => simp_all [Call.isInside]
  · intro fn thread leaf hleaf
    obtain ⟨c, hc, hflight, hslot⟩ := hm.owned fn thread leaf hleaf
    obtain ⟨rfl, rfl⟩ := Prod.mk.inj hslot
    exact ⟨c, hc, hflight, rfl, (hm.calls c hc).pending_eq hflight hleaf⟩

/-- Thread 4242 connects an IPv6 socket to `::ffff:8.8.8.8`, while thread 77 is refused by
`10.0.0.1`. -/
def nestedMoves : List Move :=
  let comm : {name : List Layout.Byte // name.length = 16} := ⟨List.replicate 16 0, rfl⟩
  [ .enter .tcpV6Connect ⟨4242, 1000, ⟨10, 443, 0, 0xffff08080808⟩, 100, comm⟩, .act 0,
    .enter .tcpV4Connect ⟨77, 1000, ⟨2, 22, 0x0a000001, 0⟩, 110, comm⟩, .act 0, .act 1,
    .enter .tcpV4Connect ⟨4242, 1000, ⟨2, 443, 0x08080808, 0⟩, 120, comm⟩, .act 2, .act 1,
    .act 2, .leave 1 ⟨77, 0xffffff91, 200⟩, .leave 2 ⟨4242, 0, 210⟩, .act 2, .act 1, .act 2,
    .act 1, .act 2, .act 1, .act 2, .leave 0 ⟨4242, 0, 230⟩, .act 0, .act 0 ]

theorem connects_traced_nested : ∃ m, (initial : Tracing 10240).run nestedMoves = some m
    ∧ (m.bpf.connectionEvents .tcpV4Connect).length = 1
    ∧ (∀ fn, (m.bpf.connectionEvents fn).Perm (m.emittedBy fn))
    ∧ (∀ c ∈ m.calls, c.Reported) ∧ m.Tracked := by
  have hsome : ((initial : Tracing 10240).run nestedMoves).isSome = true := by decide +kernel
  obtain ⟨m, hm⟩ := Option.isSome_iff_exists.mp hsome
  have hlength : ((initial : Tracing 10240).run nestedMoves).map
      (fun m => (m.bpf.connectionEvents .tcpV4Connect).length) = some 1 := by decide +kernel
  rw [hm] at hlength
  exact ⟨m, hm, Option.some.inj hlength, connects_traced hm⟩

end Tracing

end TracePilot
