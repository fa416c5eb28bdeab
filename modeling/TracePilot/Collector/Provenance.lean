import Mathlib.Data.List.GetD
import TracePilot.Library.Counting
import TracePilot.Collector.Delivery
import TracePilot.Collector.Tracing

/-!
# From a connect to a row

The probes, the perf rings, the collector, the network and the API together.  User space takes the
submissions of a ring in any order, since each CPU has its own; a submission is given to the
callback once or is lost, and it arrives with any number of further bytes at its end, none included.
The framing of the kernel always appends some, so that what is said of captured events and of rows
is said of a ring that hands over a submission as it was made.

* **`Host.stored_connects`** — every captured event has a call of a connect function of its own,
  which returned zero, and every stored row was made from a captured event.
* **`Host.nothing_posted`** — with the four bytes that the kernel's framing appends to a submission
  the collector never captures anything, posts nothing, and the table stays empty.
-/

namespace TracePilot

open Layout (Byte)
open Outbox (captured)

/-- The parser that the callback of a ring calls. -/
def ConnectFunction.parser (host : Layout.Endian) :
    ConnectFunction → List Byte → ℤ → Except EventError ApiEvent
  | .tcpV4Connect => parseIpv4Event host
  | .tcpV6Connect => parseIpv6Event host

/-- The callback that `main` opens a ring with. -/
def ConnectFunction.sampleLabel : ConnectFunction → List Byte → Label
  | .tcpV4Connect => .ipv4Sample
  | .tcpV6Connect => .ipv6Sample

/-- The move is a callback. -/
def Action.isSample : Action → Bool
  | .collector (.ipv4Sample _) | .collector (.ipv6Sample _) => true
  | _ => false

/-- The events that pass the filters in a move. -/
def Action.passing (cfg : CollectorConfig) : Action → List ApiEvent
  | .collector label => label.passing cfg
  | .commit _ _ => []

/-- The calls and the rings, the submissions that user space is through with, and the rest. -/
structure Host (capacity : ℕ) where
  tracing : Tracing capacity
  consumed : List (ConnectFunction × ℕ)
  system : System

/-- A move of a probed call, a submission that is given to its callback or lost, or any other move
of the collector or the API. -/
inductive HostMove
  | trace (move : Move)
  | sample (fn : ConnectFunction) (k : ℕ) (pad : ℕ → Byte) (trailing : List Byte)
  | lost (fn : ConnectFunction) (k : ℕ)
  | other (action : Action)

namespace Host

variable {capacity : ℕ} (py : Pydantic) (cfg : CollectorConfig)

/-- Submission `k` of a ring, unless user space is through with it. -/
def unread (h : Host capacity) (fn : ConnectFunction) (k : ℕ) : Option KernelEvent :=
  if (fn, k) ∈ h.consumed then none else (h.tracing.bpf.connectionEvents fn)[k]?

/-- One move. -/
def step (h : Host capacity) : HostMove → Option (Host capacity)
  | .trace move => do
      let tracing ← h.tracing.step move
      pure { h with tracing := tracing }
  | .sample fn k pad trailing => do
      let v ← h.unread fn k
      let system ← h.system.step py cfg
        (.collector (fn.sampleLabel (v.bytes cfg.host pad ++ trailing)))
      pure { h with consumed := (fn, k) :: h.consumed, system := system }
  | .lost fn k => do
      let _ ← h.unread fn k
      pure { h with consumed := (fn, k) :: h.consumed }
  | .other action =>
      if action.isSample then none
      else do
        let system ← h.system.step py cfg action
        pure { h with system := system }

/-- Any interleaving. -/
def run (h : Host capacity) (moves : List HostMove) : Option (Host capacity) :=
  moves.foldlM (step py cfg) h

/-- Before the first call, with an empty table. -/
def initial (time : ℚ) : Host capacity := ⟨.initial, [], .initial time⟩

end Host

/-! ## What a sample tells -/

/-- **The event of a submission**: its values and its time on the wall clock, and it passes the
filters. -/
def Reports (cfg : CollectorConfig) (v : KernelEvent) (e : ApiEvent) : Prop :=
  ∃ time, kernelTimeToDatetime v.timestampNs.toNat cfg.wallClockOffsetNs = .ok time
    ∧ e = v.apiEvent time ∧ passesFilters cfg e = true

/-- The call is on its way back, or through. -/
def Call.Returning (c : Call) (ret : ReturnContext) : Prop :=
  c.phase = .returned ret ∨ ∃ rest, c.phase = .returning ret rest

/-- **The event of a call**, which returned zero. -/
def Call.Captured (cfg : CollectorConfig) (c : Call) (e : ApiEvent) : Prop :=
  ∃ ret v, c.Returning ret ∧ c.event ret = some v ∧ Reports cfg v e

section Samples

variable {cfg : CollectorConfig} {capacity : ℕ}

lemma passing_sampleLabel (fn : ConnectFunction) (raw : List Byte) :
    (fn.sampleLabel raw).passing cfg = passing cfg (fn.parser cfg.host) raw := by
  cases fn <;> rfl

/-- The parsers belong to the families of the functions. -/
lemma Call.parser_event {c : Call} {ret : ReturnContext} {v : KernelEvent}
    (h : c.event ret = some v) (host : Layout.Endian) :
    KernelEvent.parser host v.address = c.fn.parser host := by
  obtain ⟨fn, entry, phase, emitted⟩ := c
  rw [event] at h
  split_ifs at h
  obtain rfl := Option.some.inj h
  cases fn <;> rfl

/-- A sample without further bytes tells of its submission or is dropped, and a longer one is
dropped. -/
lemma passing_sample {fn : ConnectFunction} {v : KernelEvent}
    (hv : KernelEvent.parser cfg.host v.address = fn.parser cfg.host) (pad : ℕ → Byte)
    (trailing : List Byte) :
    passing cfg (fn.parser cfg.host) (v.bytes cfg.host pad ++ trailing) = []
      ∨ trailing = [] ∧ ∃ e, Reports cfg v e
        ∧ passing cfg (fn.parser cfg.host) (v.bytes cfg.host pad ++ trailing) = [e] := by
  cases trailing with
  | cons b trailing =>
      have hlength : (v.bytes cfg.host pad ++ b :: trailing).length
          ≠ Layout.sizeof (KernelEvent.fieldsOf v.address) := by
        rw [List.length_append, KernelEvent.bytes, Layout.length_image, v.shape_members,
          List.length_cons]
        omega
      obtain ⟨message, hraise⟩ :=
        KernelEvent.parse_length cfg.host v.address hlength cfg.wallClockOffsetNs
      refine Or.inl ?_
      rw [passing, ← hv, hraise]
  | nil =>
      rw [List.append_nil, passing, ← hv, v.parse_bytes]
      cases htime : kernelTimeToDatetime v.timestampNs.toNat cfg.wallClockOffsetNs with
      | error e => exact Or.inl rfl
      | ok time =>
          change (if passesFilters cfg (v.apiEvent time) then _ else _) = [] ∨ _ ∧ ∃ e, _
            ∧ (if passesFilters cfg (v.apiEvent time) then _ else _) = [e]
          by_cases hpass : passesFilters cfg (v.apiEvent time) = true
          · rw [if_pos hpass]
            exact Or.inr ⟨rfl, v.apiEvent time, ⟨time, htime, rfl, hpass⟩, rfl⟩
          · rw [if_neg hpass]
            exact Or.inl rfl

/-- A call submits nothing before its return, and then its event. -/
lemma Call.Ok.emitted_cases {c : Call} {slot : Option PendingConnection} (h : c.Ok slot) :
    c.emitted = [] ∨ ∃ ret, c.Returning ret ∧ c.emitted = (c.event ret).toList := by
  have hreported := h.reported
  cases hphase : c.phase with
  | returned ret =>
      rw [Reported, hphase] at hreported
      exact Or.inr ⟨ret, Or.inl hphase, hreported.1⟩
  | returning ret rest =>
      rw [Reported, hphase] at hreported
      exact hreported.imp_right fun hemitted => ⟨ret, Or.inr ⟨rest, hphase⟩, hemitted⟩
  | entering rest =>
      rw [Reported, hphase] at hreported
      exact Or.inl hreported
  | inside =>
      rw [Reported, hphase] at hreported
      exact Or.inl hreported

/-- What a call submitted is its event. -/
lemma Call.Ok.event_of_emitted {c : Call} {slot : Option PendingConnection} (h : c.Ok slot)
    {v : KernelEvent} (hv : v ∈ c.emitted) : ∃ ret, c.Returning ret ∧ c.event ret = some v := by
  rcases h.emitted_cases with hnil | ⟨ret, hret, hemitted⟩
  · rw [hnil] at hv
    cases hv
  · rw [hemitted, Option.mem_toList] at hv
    exact ⟨ret, hret, hv⟩

lemma Call.Ok.length_emitted_le {c : Call} {slot : Option PendingConnection} (h : c.Ok slot) :
    c.emitted.length ≤ 1 := by
  rcases h.emitted_cases with hnil | ⟨ret, -, hemitted⟩
  · rw [hnil]
    exact Nat.zero_le 1
  · rw [hemitted]
    cases c.event ret <;> simp

namespace Tracing

variable {m m' : Tracing capacity}

/-- The submissions of a ring were made by different calls of its function. -/
lemma Ok.exists_submitters (h : m.Ok) (fn : ConnectFunction) :
    ∃ submitters : List ℕ, submitters.Nodup
      ∧ List.Forall₂ (fun v k => ∃ c, m.calls[k]? = some c ∧ c.fn = fn ∧ v ∈ c.emitted)
        (m.bpf.connectionEvents fn) submitters := by
  have hone : ∀ c ∈ m.calls, (if c.fn = fn then c.emitted else []).length ≤ 1 := by
    intro c hc
    split_ifs
    · exact (h.calls c hc).length_emitted_le
    · exact Nat.zero_le 1
  obtain ⟨submitters, hnodup, hsubmitters⟩ := Counting.exists_producers (h.rings fn) hone
  refine ⟨submitters, hnodup, hsubmitters.imp ?_⟩
  rintro v k ⟨c, hc, hv⟩
  split_ifs at hv with hfn
  · exact ⟨c, hc, hfn, hv⟩
  · cases hv

/-- Every submission of a ring is the event of a call that returned zero. -/
lemma Ok.submitted (h : m.Ok) {fn : ConnectFunction} {v : KernelEvent}
    (hv : v ∈ m.bpf.connectionEvents fn) :
    ∃ c ∈ m.calls, c.fn = fn ∧ ∃ ret, c.Returning ret ∧ c.event ret = some v := by
  obtain ⟨c, hc, hemitted⟩ := List.mem_flatMap.mp ((h.rings fn).subset hv)
  split_ifs at hemitted with hfn
  · obtain ⟨ret, hret, hevent⟩ := (h.calls c hc).event_of_emitted hemitted
    exact ⟨c, hc, hfn, ret, hret, hevent⟩
  · cases hemitted

lemma Ok.parser_eq (h : m.Ok) {fn : ConnectFunction} {v : KernelEvent}
    (hv : v ∈ m.bpf.connectionEvents fn) (host : Layout.Endian) :
    KernelEvent.parser host v.address = fn.parser host := by
  obtain ⟨c, -, rfl, ret, -, hevent⟩ := h.submitted hv
  exact Call.parser_event hevent host

/-- The rings only grow at their ends. -/
lemma Ok.grows (h : m.Ok) {move : Move} (hstep : m.step move = some m') (fn : ConnectFunction) :
    m.bpf.connectionEvents fn <+: m'.bpf.connectionEvents fn := by
  obtain ⟨fn, ctx, hmay, rfl⟩ | ⟨i, c, c', s', hc, hact, rfl⟩ | ⟨i, c, ret, hc, hmay, rfl⟩ :=
    step_cases hstep
  · exact List.prefix_refl _
  · have hmem := List.mem_of_getElem? hc
    obtain ⟨submitted, -, hevents⟩ :=
      (Call.act_spec (h.calls c hmem) (h.hasRoom hmem (Call.inFlight_of_act hact)) hact).events
    change _ <+: s'.connectionEvents fn
    rw [hevents fn]
    exact List.prefix_append _ _
  · exact List.prefix_refl _

end Tracing

/-- The collector captures what passes the filters in a move. -/
lemma System.Ok.captured_step {py : Pydantic} {s s' : System} (h : s.Ok py) {action : Action}
    (hstep : s.step py cfg action = some s') :
    captured s'.history = captured s.history ++ action.passing cfg := by
  cases action with
  | commit k defaults =>
      obtain ⟨p, hp, hstep⟩ := Option.bind_eq_some_iff.mp hstep
      split_ifs at hstep
      obtain ⟨rows, hrows, hstep⟩ := Option.bind_eq_some_iff.mp hstep
      obtain rfl := Option.some.inj hstep
      exact (List.append_nil _).symm
  | collector label =>
      rw [System.step] at hstep
      split_ifs at hstep
      obtain ⟨⟨c, history⟩, hmove, hstep⟩ := Option.bind_eq_some_iff.mp hstep
      obtain rfl := Option.some.inj hstep
      obtain ⟨-, -, hcaptured⟩ := CollectorState.step_run h.collector hmove
      exact (Outbox.captured_append _ _).trans (congrArg _ hcaptured)

lemma passing_other {action : Action} (h : action.isSample = false) :
    action.passing cfg = [] := by
  cases action with
  | commit k defaults => rfl
  | collector label => cases label <;> first | rfl | cases h

end Samples

/-! ## Whole runs -/

/-- The captured event tells of the submission that `source` names. -/
def Tracing.Tells {capacity : ℕ} (m : Tracing capacity) (cfg : CollectorConfig) (e : ApiEvent)
    (source : ConnectFunction × ℕ) : Prop :=
  ∃ v, (m.bpf.connectionEvents source.1)[source.2]? = some v ∧ Reports cfg v e

namespace Host

variable {capacity : ℕ} {py : Pydantic} {cfg : CollectorConfig} {h h' : Host capacity}

variable (py cfg) in
/-- **The invariant**: each captured event has a submission of its own, among those that user space
is through with. -/
structure Ok (h : Host capacity) : Prop where
  tracing : h.tracing.Ok
  system : h.system.Ok py
  sources : ∃ sources : List (ConnectFunction × ℕ), sources.Nodup
    ∧ (∀ source ∈ sources, source ∈ h.consumed)
    ∧ List.Forall₂ (h.tracing.Tells cfg) (captured h.system.history) sources

lemma ok_initial (time : ℚ) : (initial time : Host capacity).Ok py cfg where
  tracing := Tracing.ok_initial
  system := System.ok_initial py time
  sources := ⟨[], List.nodup_nil, by simp, .nil⟩

lemma unread_eq_some {fn : ConnectFunction} {k : ℕ} {v : KernelEvent}
    (hv : h.unread fn k = some v) :
    (fn, k) ∉ h.consumed ∧ (h.tracing.bpf.connectionEvents fn)[k]? = some v := by
  rw [unread] at hv
  split_ifs at hv with hmem
  exact ⟨hmem, hv⟩

/-- **The invariant over one move.** -/
lemma Ok.step (hok : h.Ok py cfg) {move : HostMove} (hstep : h.step py cfg move = some h') :
    h'.Ok py cfg := by
  obtain ⟨sources, hnodup, hconsumed, hsources⟩ := hok.sources
  cases move with
  | trace move =>
      obtain ⟨m, hmove, hstep⟩ := Option.bind_eq_some_iff.mp hstep
      obtain rfl := Option.some.inj hstep
      refine ⟨hok.tracing.step hmove, hok.system, sources, hnodup, hconsumed, ?_⟩
      refine hsources.imp ?_
      rintro e ⟨fn, k⟩ ⟨v, hv, hreports⟩
      obtain ⟨rest, hrest⟩ := hok.tracing.grows hmove fn
      refine ⟨v, ?_, hreports⟩
      change (m.bpf.connectionEvents fn)[k]? = some v
      obtain ⟨hk, -⟩ := List.getElem?_eq_some_iff.mp hv
      rw [← hrest, List.getElem?_append_left hk]
      exact hv
  | sample fn k pad trailing =>
      obtain ⟨v, hunread, hstep⟩ := Option.bind_eq_some_iff.mp hstep
      obtain ⟨system, hmove, hstep⟩ := Option.bind_eq_some_iff.mp hstep
      obtain rfl := Option.some.inj hstep
      obtain ⟨hnew, hv⟩ := unread_eq_some hunread
      have hmem : ∀ source ∈ sources, source ∈ (fn, k) :: h.consumed :=
        fun source hsource => List.mem_cons_of_mem _ (hconsumed source hsource)
      have hcaptured := hok.system.captured_step hmove
      rw [Action.passing, passing_sampleLabel] at hcaptured
      rcases passing_sample (hok.tracing.parser_eq (List.mem_of_getElem? hv) cfg.host) pad trailing
        with hnone | ⟨-, e, hreports, hone⟩
      · rw [hnone, List.append_nil] at hcaptured
        exact ⟨hok.tracing, hok.system.step hmove, sources, hnodup, hmem, hcaptured ▸ hsources⟩
      · rw [hone] at hcaptured
        refine ⟨hok.tracing, hok.system.step hmove, sources ++ [(fn, k)], ?_, ?_, ?_⟩
        · refine List.nodup_append.mpr ⟨hnodup, List.nodup_singleton _, ?_⟩
          rintro source hsource _ hk rfl
          exact hnew (List.mem_singleton.mp hk ▸ hconsumed source hsource)
        · intro source hsource
          rcases List.mem_append.mp hsource with hsource | hsource
          · exact hmem source hsource
          · exact List.mem_singleton.mp hsource ▸ List.mem_cons_self
        · rw [hcaptured]
          exact List.rel_append hsources (.cons ⟨v, hv, hreports⟩ .nil)
  | lost fn k =>
      obtain ⟨v, hunread, hstep⟩ := Option.bind_eq_some_iff.mp hstep
      obtain rfl := Option.some.inj hstep
      exact ⟨hok.tracing, hok.system, sources, hnodup,
        fun source hsource => List.mem_cons_of_mem _ (hconsumed source hsource), hsources⟩
  | other action =>
      rw [Host.step] at hstep
      split_ifs at hstep with hsample
      obtain ⟨system, hmove, hstep⟩ := Option.bind_eq_some_iff.mp hstep
      obtain rfl := Option.some.inj hstep
      have hcaptured := hok.system.captured_step hmove
      rw [passing_other (by simpa using hsample), List.append_nil] at hcaptured
      exact ⟨hok.tracing, hok.system.step hmove, sources, hnodup, hconsumed, hcaptured ▸ hsources⟩

/-- **The invariant over every interleaving.** -/
lemma Ok.run (hok : h.Ok py cfg) {moves : List HostMove} (hrun : h.run py cfg moves = some h') :
    h'.Ok py cfg := by
  induction moves generalizing h with
  | nil =>
      obtain rfl := Option.some.inj hrun
      exact hok
  | cons move moves ih =>
      obtain ⟨h₁, hstep, hrest⟩ := Option.bind_eq_some_iff.mp hrun
      exact ih (hok.step hstep) hrest

/-- **One call for each captured event.** -/
lemma Ok.exists_connects (hok : h.Ok py cfg) :
    ∃ connects : List ℕ, connects.Nodup
      ∧ List.Forall₂ (fun e k => ∃ c, h.tracing.calls[k]? = some c ∧ c.Captured cfg e)
        (captured h.system.history) connects := by
  obtain ⟨sources, hnodup, -, hsources⟩ := hok.sources
  choose submitters hdistinct hsubmitters using hok.tracing.exists_submitters
  -- the call that made a submission
  have hcall : ∀ (fn : ConnectFunction) (k : ℕ) (v : KernelEvent),
      (h.tracing.bpf.connectionEvents fn)[k]? = some v →
      ∃ hk : k < (submitters fn).length, ∃ c,
        h.tracing.calls[(submitters fn)[k]]? = some c ∧ c.fn = fn ∧ v ∈ c.emitted := by
    intro fn k v hv
    obtain ⟨hk, rfl⟩ := List.getElem?_eq_some_iff.mp hv
    have hk' := (hsubmitters fn).length_eq ▸ hk
    exact ⟨hk', (hsubmitters fn).get hk hk'⟩
  refine ⟨sources.map fun source => (submitters source.1).getD source.2 0, ?_, ?_⟩
  · refine hnodup.map_on ?_
    rintro ⟨fn, k⟩ hsource ⟨fn', k'⟩ hsource' hsame
    obtain ⟨e, -, v, hv, -⟩ := Counting.exists_mem_of_forall₂ hsources.flip hsource
    obtain ⟨e', -, v', hv', -⟩ := Counting.exists_mem_of_forall₂ hsources.flip hsource'
    obtain ⟨hk, c, hc, hfn, -⟩ := hcall fn k v hv
    obtain ⟨hk', c', hc', hfn', -⟩ := hcall fn' k' v' hv'
    rw [List.getD_eq_getElem _ _ hk, List.getD_eq_getElem _ _ hk'] at hsame
    rw [hsame, hc'] at hc
    obtain rfl : fn = fn' := by rw [← hfn, ← hfn', Option.some.inj hc]
    rw [(hdistinct fn).getElem_inj_iff.mp hsame]
  · refine List.forall₂_map_right_iff.mpr (hsources.imp ?_)
    rintro e ⟨fn, k⟩ ⟨v, hv, hreports⟩
    obtain ⟨hk, c, hc, -, hemitted⟩ := hcall fn k v hv
    rw [List.getD_eq_getElem _ _ hk]
    obtain ⟨ret, hreturning, hevent⟩ :=
      (hok.tracing.calls c (List.mem_of_getElem? hc)).event_of_emitted hemitted
    exact ⟨c, hc, ret, v, hreturning, hevent, hreports⟩

/-- Every stored row was made from a captured event. -/
lemma Ok.exists_captured (hok : h.Ok py cfg) {row : StoredEvent} (hrow : row ∈ h.system.stored) :
    ∃ i : Fin (captured h.system.history).length,
      IsRowOf py ((captured h.system.history).get i).json row := by
  obtain ⟨k, hk, rfl⟩ := List.mem_iff_getElem.mp hrow
  have hlength := hok.system.rows.length_eq
  obtain ⟨e, he, hrowOf⟩ := hok.system.rows.get (hlength ▸ hk) hk
  obtain ⟨hi, rfl⟩ := List.getElem?_eq_some_iff.mp he
  exact ⟨⟨_, hi⟩, hrowOf⟩

/-- Every stored row was made from the event of a call. -/
lemma Ok.exists_call (hok : h.Ok py cfg) {row : StoredEvent} (hrow : row ∈ h.system.stored) :
    ∃ c ∈ h.tracing.calls, ∃ e, c.Captured cfg e ∧ IsRowOf py e.json row := by
  obtain ⟨⟨i, hi⟩, hrowOf⟩ := hok.exists_captured hrow
  obtain ⟨connects, -, hconnects⟩ := hok.exists_connects
  obtain ⟨c, hc, hcaptured⟩ := hconnects.get hi (hconnects.length_eq ▸ hi)
  exact ⟨c, List.mem_of_getElem? hc, _, hcaptured, hrowOf⟩

/-- **From a connect to a row**: over every interleaving, different captured events tell of
different calls of a connect function, which returned zero, and every stored row was made from a
captured event.  An application's `connect()` to an IPv4 address in IPv6 form makes two such calls.
A sample may come without further bytes here, which the kernel never delivers: see
`nothing_posted`. -/
theorem stored_connects {time : ℚ} {moves : List HostMove}
    (hrun : (initial time).run py cfg moves = some h) :
    ∃ connect : Fin (captured h.system.history).length → Fin h.tracing.calls.length,
      Function.Injective connect
        ∧ (∀ i, (h.tracing.calls.get (connect i)).Captured cfg
          ((captured h.system.history).get i))
        ∧ ∀ row ∈ h.system.stored, ∃ i,
          IsRowOf py ((captured h.system.history).get i).json row := by
  have hok : h.Ok py cfg := (ok_initial time).run hrun
  obtain ⟨connects, hnodup, hconnects⟩ := hok.exists_connects
  have hlength := hconnects.length_eq
  have hcall : ∀ i : Fin (captured h.system.history).length,
      ∃ hk : connects.get (i.cast hlength) < h.tracing.calls.length,
        (h.tracing.calls.get ⟨_, hk⟩).Captured cfg ((captured h.system.history).get i) := by
    intro i
    obtain ⟨c, hc, hcaptured⟩ := hconnects.get i.2 (i.cast hlength).2
    obtain ⟨hk, rfl⟩ := List.getElem?_eq_some_iff.mp hc
    exact ⟨hk, hcaptured⟩
  choose hlt hcaptured using hcall
  refine ⟨fun i => ⟨_, hlt i⟩, fun i j hij => ?_, hcaptured, fun row hrow =>
    hok.exists_captured hrow⟩
  exact Fin.cast_injective hlength (hnodup.injective_get (congrArg Fin.val hij))

/-- Process 4242, named `curl`, connects to port 443 of a public address. -/
def curlConnects : List HostMove := [
  .trace (.enter .tcpV4Connect
    ⟨0x109200001092, 1000, ⟨2, 443, 0x08080808, 0⟩, 5000000000, KernelEvent.curl.processName⟩),
  .trace (.act 0), .trace (.act 0), .trace (.leave 0 ⟨0x109200001092, 0, 5001250000⟩),
  .trace (.act 0), .trace (.act 0), .trace (.act 0), .trace (.act 0)]

/-- Process 4242 connects once more, a second later, and both rows are stored. -/
def twoConnects : List HostMove := curlConnects ++ [
  .trace (.enter .tcpV4Connect
    ⟨0x109200001092, 1000, ⟨2, 443, 0x08080808, 0⟩, 6000000000, KernelEvent.curl.processName⟩),
  .trace (.act 1), .trace (.act 1), .trace (.leave 1 ⟨0x109200001092, 0, 6001250000⟩),
  .trace (.act 1), .trace (.act 1), .trace (.act 1), .trace (.act 1),
  .sample .tcpV4Connect 1 (fun _ => 0) [], .sample .tcpV4Connect 0 (fun _ => 0) [],
  .other (.collector (.pollReturned 2)), .other (.collector .post),
  .other (.commit 0 [(1, 0), (2, 0)]), .other (.collector (.reply (.ok 201)))]

theorem stored_connects_curl :
    ∃ h, (initial 0 : Host 10240).run .curl .sample twoConnects = some h
      ∧ (captured h.system.history).length = 2 ∧ h.system.stored.length = 2
      ∧ ∃ connect : Fin (captured h.system.history).length → Fin h.tracing.calls.length,
        Function.Injective connect
          ∧ (∀ i, (h.tracing.calls.get (connect i)).Captured .sample
            ((captured h.system.history).get i))
          ∧ ∀ row ∈ h.system.stored, ∃ i,
            IsRowOf .curl ((captured h.system.history).get i).json row := by
  have hlengths : ((initial 0 : Host 10240).run .curl .sample twoConnects).map
      (fun h => ((captured h.system.history).length, h.system.stored.length)) = some (2, 2) := by
    decide +kernel
  obtain ⟨h, hrun, hlengths⟩ := Option.map_eq_some_iff.mp hlengths
  obtain ⟨hcaptured, hstored⟩ := Prod.mk.inj hlengths
  exact ⟨h, hrun, hcaptured, hstored, stored_connects hrun⟩

end Host

/-! ## With the framing of the kernel -/

/-- The sample of a move ends with further bytes, as the samples of the kernel do. -/
def HostMove.Framed : HostMove → Prop
  | .sample _ _ _ trailing => trailing ≠ []
  | _ => True

/-- Nothing was captured and nothing was posted. -/
structure System.Idle (s : System) : Prop where
  history : captured s.history = []
  posts : s.ledger.posts = []

section Idle

variable {py : Pydantic} {cfg : CollectorConfig}

lemma System.Idle.pendingEvents {s : System} (hidle : s.Idle) (hok : s.Ok py) :
    s.collector.pendingEvents = [] := by
  have hconserved := hok.conserved
  rw [hidle.history] at hconserved
  exact (List.append_eq_nil_iff.mp hconserved).2

/-- Without anything captured there is nothing to post. -/
lemma System.Idle.step {s s' : System} (hok : s.Ok py) (hidle : s.Idle) {action : Action}
    (hpassing : action.passing cfg = []) (hmove : s.step py cfg action = some s') : s'.Idle := by
  have hcaptured := hok.captured_step hmove
  rw [hpassing, hidle.history] at hcaptured
  refine ⟨hcaptured, ?_⟩
  cases action with
  | commit k defaults =>
      obtain ⟨p, hp, -⟩ := Option.bind_eq_some_iff.mp hmove
      rw [hidle.posts] at hp
      cases hp
  | collector label =>
      rw [System.step] at hmove
      split_ifs at hmove
      obtain ⟨⟨c, history⟩, hcollector, hmove⟩ := Option.bind_eq_some_iff.mp hmove
      obtain rfl := Option.some.inj hmove
      rcases CollectorState.step_cases hok.collector hcollector with ⟨rfl, -, -⟩
        | ⟨-, hne, -, -⟩ | ⟨-, hsending, -, -, -⟩
      · change ((List.map _ _).foldl Outbox.Ledger.record s.ledger).posts = []
        rw [Outbox.Ledger.foldl_record_captured]
        exact hidle.posts
      · exact absurd (hidle.pendingEvents hok) hne
      · obtain ⟨p, hp, -⟩ := hok.outstanding hsending
        rw [hidle.posts] at hp
        cases hp

end Idle

namespace Host

variable {capacity : ℕ} {py : Pydantic} {cfg : CollectorConfig} {h h' : Host capacity}

lemma idle_step (hok : h.Ok py cfg) (hidle : h.system.Idle) {move : HostMove}
    (hframed : move.Framed) (hstep : h.step py cfg move = some h') : h'.system.Idle := by
  cases move with
  | trace move =>
      obtain ⟨m, -, hstep⟩ := Option.bind_eq_some_iff.mp hstep
      obtain rfl := Option.some.inj hstep
      exact hidle
  | lost fn k =>
      obtain ⟨v, -, hstep⟩ := Option.bind_eq_some_iff.mp hstep
      obtain rfl := Option.some.inj hstep
      exact hidle
  | sample fn k pad trailing =>
      obtain ⟨v, hunread, hstep⟩ := Option.bind_eq_some_iff.mp hstep
      obtain ⟨system, hmove, hstep⟩ := Option.bind_eq_some_iff.mp hstep
      obtain rfl := Option.some.inj hstep
      have hv := List.mem_of_getElem? (unread_eq_some hunread).2
      rcases passing_sample (hok.tracing.parser_eq hv cfg.host) pad trailing with
        hnone | ⟨hnil, -⟩
      · refine hidle.step hok.system ?_ hmove
        rw [Action.passing, passing_sampleLabel]
        exact hnone
      · exact absurd hnil hframed
  | other action =>
      rw [Host.step] at hstep
      split_ifs at hstep with hsample
      obtain ⟨system, hmove, hstep⟩ := Option.bind_eq_some_iff.mp hstep
      obtain rfl := Option.some.inj hstep
      exact hidle.step hok.system (passing_other (by simpa using hsample)) hmove

/-- **The framing starves the pipeline**: whatever connects succeed, the collector queues nothing,
posts nothing, and no row is stored. -/
theorem nothing_posted {time : ℚ} {moves : List HostMove}
    (hframed : ∀ move ∈ moves, move.Framed) (hrun : (initial time).run py cfg moves = some h) :
    h.system.collector.pendingEvents = [] ∧ h.system.ledger.posts = [] ∧ h.system.stored = [] := by
  have hidle : h.Ok py cfg ∧ h.system.Idle := by
    have hok : (initial time : Host capacity).Ok py cfg := ok_initial time
    have hidle : (initial time : Host capacity).system.Idle := ⟨rfl, rfl⟩
    generalize (initial time : Host capacity) = h₀ at hrun hok hidle
    induction moves generalizing h₀ with
    | nil =>
        obtain rfl := Option.some.inj hrun
        exact ⟨hok, hidle⟩
    | cons move moves ih =>
        obtain ⟨h₁, hstep, hrest⟩ := Option.bind_eq_some_iff.mp hrun
        exact ih (fun m hm => hframed m (List.mem_cons_of_mem _ hm)) h₁ hrest (hok.step hstep)
          (idle_step hok hidle (hframed move List.mem_cons_self) hstep)
  obtain ⟨hok, hidle⟩ := hidle
  refine ⟨hidle.pendingEvents hok.system, hidle.posts, ?_⟩
  · refine List.eq_nil_iff_forall_not_mem.mpr fun row hrow => ?_
    obtain ⟨k, hk, -⟩ := List.mem_iff_getElem.mp hrow
    have hlength := hok.system.rows.length_eq
    obtain ⟨e, he, -⟩ := hok.system.rows.get (hlength ▸ hk) hk
    rw [hidle.history] at he
    cases he

/-- The same submission as the kernel delivers it. -/
def framedMoves : List HostMove := curlConnects ++ [
  .sample .tcpV4Connect 0 (fun _ => 0) [0, 0, 0, 0], .other (.collector (.pollReturned 2))]

theorem nothing_posted_curl :
    ∃ h, (initial 0 : Host 10240).run .curl .sample framedMoves = some h
      ∧ (h.tracing.bpf.connectionEvents .tcpV4Connect).length = 1
      ∧ h.system.collector.pendingEvents = [] ∧ h.system.ledger.posts = []
      ∧ h.system.stored = [] := by
  have hlength : ((initial 0 : Host 10240).run .curl .sample framedMoves).map
      (fun h => (h.tracing.bpf.connectionEvents .tcpV4Connect).length) = some 1 := by
    decide +kernel
  obtain ⟨h, hrun, hsubmitted⟩ := Option.map_eq_some_iff.mp hlength
  have hframed : ∀ move ∈ framedMoves, move.Framed := by
    simp [framedMoves, curlConnects, HostMove.Framed]
  exact ⟨h, hrun, hsubmitted, nothing_posted hframed hrun⟩

end Host

end TracePilot
