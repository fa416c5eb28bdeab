import TracePilot.Backend.Bursts
import TracePilot.Collector.Recorded

/-!
# What a reported burst is evidence of

A detector counts rows.  A row may have been stored twice, since the collector repeats a batch when
an answer is lost; as long as every commit is learned of, the rows have different captured events,
and these have different calls.  As in the modules before, a sample may come without the further
bytes that the framing of the kernel appends.

* **`Host.counted_once`** — rows with any property are then no more than the connects that can have
  left such rows.
* **`Host.burst_connects`** — a process that either detector reports for more than `threshold`
  connections did connect that often, successfully and within one calendar minute of the lookback.
-/

namespace TracePilot

open Outbox (captured)

namespace Host

variable {capacity : ℕ} {py : Pydantic} {cfg : CollectorConfig} {h h' : Host capacity}

/-! ## The order of the rows -/

/-- A move of the host is a move of the collector and the API, or leaves both as they are. -/
lemma system_step {move : HostMove} (hstep : h.step py cfg move = some h') :
    h'.system = h.system ∨ ∃ action, h.system.step py cfg action = some h'.system := by
  cases move with
  | trace move =>
      obtain ⟨m, -, hstep⟩ := Option.bind_eq_some_iff.mp hstep
      obtain rfl := Option.some.inj hstep
      exact Or.inl rfl
  | sample fn k pad trailing =>
      obtain ⟨v, -, hstep⟩ := Option.bind_eq_some_iff.mp hstep
      obtain ⟨system, hmove, hstep⟩ := Option.bind_eq_some_iff.mp hstep
      obtain rfl := Option.some.inj hstep
      exact Or.inr ⟨_, hmove⟩
  | lost fn k =>
      obtain ⟨v, -, hstep⟩ := Option.bind_eq_some_iff.mp hstep
      obtain rfl := Option.some.inj hstep
      exact Or.inl rfl
  | other action =>
      rw [Host.step] at hstep
      split_ifs at hstep
      obtain ⟨system, hmove, hstep⟩ := Option.bind_eq_some_iff.mp hstep
      obtain rfl := Option.some.inj hstep
      exact Or.inr ⟨_, hmove⟩

lemma inOrder_run (hok : h.Ok py cfg) (hin : h.system.InOrder) {moves : List HostMove}
    (hrun : h.run py cfg moves = some h') : h'.system.InOrder := by
  induction moves generalizing h with
  | nil =>
      obtain rfl := Option.some.inj hrun
      exact hin
  | cons move moves ih =>
      obtain ⟨h₁, hstep, hrest⟩ := Option.bind_eq_some_iff.mp hrun
      refine ih (hok.step hstep) ?_ hrest
      rcases system_step hstep with hsame | ⟨action, hmove⟩
      · exact hsame ▸ hin
      · exact hin.step hok.system hmove

/-! ## Rows and calls -/

/-- Each row has a call of its own, of which it has the values. -/
lemma exists_origins (hok : h.Ok py cfg) (hin : h.system.InOrder) (hlearned : h.system.Learned)
    (hpy : py.Lawful) (hread : py.ReadsTexts) (hclock : 0 ≤ cfg.wallClockOffsetNs) :
    ∃ origins : List ℕ, origins.Nodup
      ∧ List.Forall₂ (fun k row => ∃ c, h.tracing.calls[k]? = some c ∧ RecordOfCall cfg c row)
        origins h.system.stored := by
  obtain ⟨connects, hnodup, hconnects⟩ := hok.exists_connects
  have hrows := hin.rows hok.system hlearned
  have hcalls := List.forall₂_take h.system.stored.length hconnects
  refine ⟨connects.take h.system.stored.length, hnodup.sublist (List.take_sublist _ _),
    List.forall₂_iff_get.mpr ⟨hcalls.length_eq.symm.trans hrows.length_eq, fun i hi hi' => ?_⟩⟩
  obtain ⟨c, hc, hcaptured⟩ := hcalls.get (hi.trans_eq hcalls.length_eq.symm) hi
  have hrow := hrows.get (hi'.trans_eq hrows.length_eq.symm) hi'
  exact ⟨c, hc, recordOfCall hpy hread hclock hcaptured hrow⟩

/-- **No connect counts twice**: rows with a property are no more than the calls that can have left
one. -/
theorem counted_once (hok : h.Ok py cfg) (hin : h.system.InOrder) (hlearned : h.system.Learned)
    (hpy : py.Lawful) (hread : py.ReadsTexts) (hclock : 0 ≤ cfg.wallClockOffsetNs)
    {p : StoredEvent → Bool} {q : Call → Bool}
    (hpq : ∀ c row, RecordOfCall cfg c row → p row = true → q c = true) :
    h.system.stored.countP p ≤ h.tracing.calls.countP q := by
  obtain ⟨origins, hnodup, horigins⟩ := exists_origins hok hin hlearned hpy hread hclock
  calc h.system.stored.countP p
      ≤ origins.countP fun k => h.tracing.calls[k]?.any q := by
        refine Counting.countP_le_of_forall₂ ?_ horigins
        rintro k row ⟨c, hc, hrow⟩ hp
        rw [hc]
        exact hpq c row hrow hp
    _ ≤ h.tracing.calls.countP q := Counting.countP_le_of_positions hnodup

end Host

/-! ## Bursts -/

/-- **A successful connect** of the process, in a calendar minute of the lookback by its recorded
time. -/
def Call.ConnectsIn (cfg : CollectorConfig) (since : ℤ) (pid : ℤ) (processName : String)
    (minute : ℤ) (c : Call) : Prop :=
  ∃ ret v instant, c.Returning ret ∧ c.event ret = some v ∧ (v.pid.toNat : ℤ) = pid
    ∧ decodeProcessName v.processName = processName
    ∧ kernelTimeToDatetime v.timestampNs.toNat cfg.wallClockOffsetNs = .ok (.utc instant)
    ∧ since ≤ instant ∧ startOfMinute instant = minute

/-- **A burst is real**: when the collector has learned of every commit, a process that the tool or
the endpoint reports made more than `threshold` successful connects in one calendar minute of the
lookback.  The rows come from samples without further bytes, which the kernel never delivers: see
`nothing_posted`. -/
theorem Host.burst_connects {capacity : ℕ} {py : Pydantic} {cfg : CollectorConfig}
    {h : Host capacity} (hpy : py.Lawful) (hread : py.ReadsTexts)
    (hclock : 0 ≤ cfg.wallClockOffsetNs) {time : ℚ} {moves : List HostMove}
    (hrun : (initial time).run py cfg moves = some h) (hlearned : h.system.Learned)
    {l : Session} {s : Server} (hl : l.unusable = false)
    (hs : s.db.connectionEvents = h.system.stored)
    (threshold : {n : ℤ // 1 ≤ n ∧ n ≤ 10000}) (minutes : {n : ℤ // 1 ≤ n ∧ n ≤ 1440}) {pid : ℤ}
    {processName : String}
    (hreturns : ReturnsBurst ((findConnectionBursts ⟨threshold, minutes⟩).run l s).1 pid processName
      ∨ Endpoint.ReturnsBurst ((Endpoint.findConnectionBursts ⟨threshold, minutes⟩).run l s).1 pid
        processName) :
    ∃ minute connects, List.Sublist connects h.tracing.calls
      ∧ threshold.1 < connects.length
      ∧ ∀ c ∈ connects, c.ConnectsIn cfg (s.clock - TracePilot.minutes minutes) pid processName
        minute := by
  classical
  have hok : h.Ok py cfg := (ok_initial time).run hrun
  have hinitial : (initial time : Host capacity).system.InOrder := fun _ => rfl
  have hin := inOrder_run (ok_initial time) hinitial hrun
  obtain ⟨minute, hmany⟩ :=
    hreturns.elim (returnsBurst_iff hl _).mp (endpoint_returnsBurst_iff hl _).mp
  rw [hs, eventsInMinute, ← List.countP_eq_length_filter] at hmany
  refine ⟨minute, h.tracing.calls.filter fun c => decide
    (c.ConnectsIn cfg (s.clock - TracePilot.minutes minutes) pid processName minute),
    List.filter_sublist, ?_, fun c hc => of_decide_eq_true (List.mem_filter.mp hc).2⟩
  have hcount := counted_once hok hin hlearned hpy hread hclock
    (p := fun row => decide (s.clock - TracePilot.minutes minutes ≤ row.timestamp
      ∧ row.pid = pid ∧ row.processName = processName ∧ startOfMinute row.timestamp = minute))
    (q := fun c => decide
      (c.ConnectsIn cfg (s.clock - TracePilot.minutes minutes) pid processName minute)) ?_
  · have hlt := lt_of_lt_of_le hmany hcount
    rw [← List.countP_eq_length_filter]
    exact Int.lt_of_toNat_lt hlt
  · rintro c row ⟨ret, v, hreturning, hevent, hrecorded⟩ hp
    obtain ⟨hsince, rfl, rfl, hminute⟩ := of_decide_eq_true hp
    exact decide_eq_true ⟨ret, v, row.timestamp, hreturning, hevent, hrecorded.pid.symm,
      hrecorded.processName.symm, hrecorded.timestamp, hsince, hminute⟩

theorem Host.burst_connects_curl :
    ∃ h, (initial 0 : Host 10240).run .reading .sample twoConnects = some h
      ∧ ∃ minute connects, List.Sublist connects h.tracing.calls ∧ 1 < (connects.length : ℤ)
        ∧ ∀ c ∈ connects, c.ConnectsIn .sample (Clock.sample - minutes 60) 4242 "curl" minute := by
  have hsome : ((initial 0 : Host 10240).run .reading .sample twoConnects).map (fun h =>
      (h.system.ledger.posts.map fun p => (p.committed, p.acknowledged),
        (eventsInMinute h.system.stored Clock.sample 60 4242 "curl" 1699999980000000).length))
      = some ([(true, true)], 2) := by decide +kernel
  obtain ⟨h, hrun, hs⟩ := Option.map_eq_some_iff.mp hsome
  obtain ⟨hposts, hmany⟩ := Prod.mk.inj hs
  have hlearned : h.system.Learned := System.learned_of_acknowledged (by simp [hposts])
  have hburst : 1 < (eventsInMinute h.system.stored Clock.sample 60 4242 "curl"
      1699999980000000).length := by
    rw [hmany]
    exact Nat.lt_succ_self 1
  have hreturns : ReturnsBurst ((findConnectionBursts ⟨⟨1, by decide⟩, ⟨60, by decide⟩⟩).run {}
      (.holding h.system.stored)).1 4242 "curl" :=
    (returnsBurst_iff rfl _).mpr ⟨_, hburst⟩
  exact ⟨h, hrun, burst_connects Pydantic.reading_lawful Pydantic.reading_readsTexts (by decide)
    hrun hlearned rfl rfl _ _ (Or.inl hreturns)⟩

end TracePilot
