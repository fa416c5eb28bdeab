import Mathlib.Algebra.Order.Archimedean.Real.Basic
import TracePilot.Backend.Analytics
import TracePilot.Backend.ToolRuns

/-!
# Which bursts are found

The documented rule is that a process opens more than a configured number of connections within
one minute.  `HasBurst` states it over every position of the minute.  The detectors count calendar
minutes.

* **`returnsBurst_iff`** and **`endpoint_returnsBurst_iff`** — a process is returned exactly when
  one calendar minute of the lookback holds more than the threshold of its events.
* **`burstsComplete_iff`** — so the detectors are complete for the documented rule exactly on the
  tables where every burst also exceeds the threshold inside a calendar minute.
* **`calendarBurst_of_two_mul`** — they never miss a process that exceeds twice the threshold.
-/

namespace TracePilot

/-! ## The rule -/

section Rule

variable (events : List StoredEvent) (now minutes : ℤ) (threshold : ℕ) (pid : ℤ)
  (processName : String)

/-- The events of a process in the 60 seconds from `t` on. -/
noncomputable def eventsWithin (t : ℝ) : List StoredEvent :=
  events.filter fun e => e.pid = pid ∧ e.processName = processName
    ∧ t ≤ e.timestamp ∧ (e.timestamp : ℝ) < t + 60000000

/-- **The documented rule**: more than `threshold` events of the process lie in some 60 seconds,
wherever they start, that lie wholly within the lookback. -/
def HasBurst : Prop :=
  ∃ t : ℝ, ((now - TracePilot.minutes minutes : ℤ) : ℝ) ≤ t ∧ t + 60000000 ≤ now
    ∧ threshold < (eventsWithin events pid processName t).length

/-- The events of a process in one calendar minute, as far as the lookback reaches. -/
def eventsInMinute (minute : ℤ) : List StoredEvent :=
  events.filter fun e => now - TracePilot.minutes minutes ≤ e.timestamp
    ∧ e.pid = pid ∧ e.processName = processName ∧ startOfMinute e.timestamp = minute

/-- More than `threshold` events of the process lie in one calendar minute of the lookback. -/
def CalendarBurst : Prop :=
  ∃ minute, threshold < (eventsInMinute events now minutes pid processName minute).length

/-- **Burst detection is complete**: every process with a burst is returned. -/
def BurstsComplete (returned : ℤ → String → Prop) : Prop :=
  ∀ pid processName, HasBurst events now minutes threshold pid processName →
    returned pid processName

end Rule

/-- The tool returned at least one burst of the process. -/
def ReturnsBurst (r : Except PyException Json) (pid : ℤ) (processName : String) : Prop :=
  ∃ v bursts, r = .ok v ∧ v.field "bursts" = some (.arr bursts)
    ∧ ∃ burst ∈ bursts, burst.field "pid" = some (.int pid)
      ∧ burst.field "process_name" = some (.str processName)

/-- The endpoint returned at least one burst of the process. -/
def Endpoint.ReturnsBurst (r : Except PyException (List ConnectionBurstResponse)) (pid : ℤ)
    (processName : String) : Prop :=
  ∃ bursts, r = .ok bursts ∧ ∃ burst ∈ bursts, burst.pid = pid ∧ burst.processName = processName

/-! ## What is returned -/

section Returned

variable {l : Session} {s : Server} {pid : ℤ} {processName : String}

/-- The groups that both queries keep are those of the calendar minutes. -/
lemma exists_burstGroup_iff (events : List StoredEvent) (now minutes : ℤ) {threshold : ℤ}
    (hthreshold : 1 ≤ threshold) {group : StoredEvent → ℤ × String × ℤ}
    (hgroup : ∀ e, group e = (e.pid, e.processName, startOfMinute e.timestamp))
    {clause : EventWhere} (hclause : clause = recentClause now minutes) :
    (∃ g ∈ Table.groupBy group (events.filter clause.holds),
        threshold < (g.2.length : ℤ) ∧ g.1.1 = pid ∧ g.1.2.1 = processName)
      ↔ CalendarBurst events now minutes threshold.toNat pid processName := by
  have hlt : ∀ n : ℕ, threshold < (n : ℤ) ↔ threshold.toNat < n := fun n => by omega
  obtain rfl : group = fun e => (e.pid, e.processName, startOfMinute e.timestamp) :=
    funext hgroup
  subst hclause
  simp only [hlt]
  refine (Table.exists_large_group_iff
    (p := fun k : ℤ × String × ℤ => k.1 = pid ∧ k.2.1 = processName)).trans ?_
  have hrows : ∀ minute, (events.filter (recentClause now minutes).holds).filter
      (fun e => (e.pid, e.processName, startOfMinute e.timestamp) = (pid, processName, minute))
      = eventsInMinute events now minutes pid processName minute := by
    intro minute
    rw [List.filter_filter, eventsInMinute]
    refine List.filter_congr fun e _ => Bool.eq_iff_iff.mpr ?_
    simp only [recentClause, EventWhere.holds, Option.all_none, Option.all_some, Bool.true_and,
      Bool.and_true, Bool.and_eq_true, decide_eq_true_eq, Prod.mk.injEq, Datetime.instant_utc]
    tauto
  constructor
  · rintro ⟨⟨pid', name', minute⟩, hn, rfl, rfl⟩
    exact ⟨minute, by rwa [hrows] at hn⟩
  · rintro ⟨minute, hn⟩
    exact ⟨(pid, processName, minute), by rwa [hrows], rfl, rfl⟩

/-- **Which processes the tool returns.** -/
theorem returnsBurst_iff (hl : l.unusable = false) (a : ConnectionBurstsArguments) :
    ReturnsBurst ((findConnectionBursts a).run l s).1 pid processName
      ↔ CalendarBurst s.db.connectionEvents s.clock a.minutes a.threshold.1.toNat pid
        processName := by
  have hrun : ((findConnectionBursts a).run l s).1 = .ok (connectionBurstsResult a
      (s.db.connectionEvents.filter (recentClause s.clock a.minutes).holds)) :=
    run_now_select (fun now => recentClause now a.minutes) (connectionBurstsResult a) hl
      (recentClause_binds s.clock a.minutes.2)
  rw [hrun, ← exists_burstGroup_iff s.db.connectionEvents s.clock a.minutes a.threshold.2.1
    (fun _ => rfl) rfl]
  constructor
  · rintro ⟨v, bursts, hv, hbursts, burst, hburst, hpid, hname⟩
    obtain rfl := Except.ok.inj hv
    obtain rfl : _ = bursts := Json.arr.inj (Option.some.inj hbursts)
    obtain ⟨g, hg, rfl⟩ := List.mem_map.mp hburst
    obtain ⟨hg, hlarge⟩ := List.mem_filter.mp (Table.mem_orderByDesc.mp hg)
    exact ⟨g, hg, by simpa using hlarge, Json.int.inj (Option.some.inj hpid),
      Json.str.inj (Option.some.inj hname)⟩
  · rintro ⟨g, hg, hlarge, rfl, rfl⟩
    refine ⟨_, _, rfl, rfl, _, List.mem_map_of_mem (a := g) ?_, rfl, rfl⟩
    exact Table.mem_orderByDesc.mpr (List.mem_filter.mpr ⟨hg, by simpa using hlarge⟩)

/-- **Which processes the endpoint returns**: the same. -/
theorem endpoint_returnsBurst_iff (hl : l.unusable = false) (q : ConnectionBurstsQuery) :
    Endpoint.ReturnsBurst ((Endpoint.findConnectionBursts q).run l s).1 pid processName
      ↔ CalendarBurst s.db.connectionEvents s.clock q.minutes q.threshold.1.toNat pid
        processName := by
  have hrun : ((Endpoint.findConnectionBursts q).run l s).1 = .ok (Endpoint.connectionBursts q
      (s.db.connectionEvents.filter (recentClause s.clock q.minutes).holds)) :=
    run_now_select (fun now => recentClause now q.minutes) (Endpoint.connectionBursts q) hl
      (recentClause_binds s.clock q.minutes.2)
  rw [hrun, ← exists_burstGroup_iff s.db.connectionEvents s.clock q.minutes q.threshold.2.1
    (fun _ => rfl) rfl]
  constructor
  · rintro ⟨bursts, hbursts, burst, hburst, rfl, rfl⟩
    obtain rfl := Except.ok.inj hbursts
    obtain ⟨g, hg, rfl⟩ := List.mem_map.mp hburst
    obtain ⟨hg, hlarge⟩ := List.mem_filter.mp (Table.mem_orderByDesc.mp hg)
    exact ⟨g, hg, by simpa using hlarge, rfl, rfl⟩
  · rintro ⟨g, hg, hlarge, rfl, rfl⟩
    refine ⟨_, rfl, _, List.mem_map_of_mem (a := g) ?_, rfl, rfl⟩
    exact Table.mem_orderByDesc.mpr (List.mem_filter.mpr ⟨hg, by simpa using hlarge⟩)

end Returned

/-! ## The documented rule and the calendar -/

/-- 60 seconds meet at most two calendar minutes, so a process with twice the threshold in them
exceeds the threshold in one. -/
theorem calendarBurst_of_two_mul {events : List StoredEvent} {now minutes : ℤ} {threshold : ℕ}
    {pid : ℤ} {processName : String}
    (h : HasBurst events now minutes (2 * threshold) pid processName) :
    CalendarBurst events now minutes threshold pid processName := by
  obtain ⟨t, hstart, -, hmany⟩ := h
  -- timestamps are whole microseconds, so the interval may as well start at one
  have hsplit : (eventsWithin events pid processName t).length
      ≤ (eventsInMinute events now minutes pid processName (startOfMinute ⌈t⌉)).length
        + (eventsInMinute events now minutes pid processName
            (startOfMinute ⌈t⌉ + 60000000)).length := by
    refine Table.length_filter_le_add fun e _ he => ?_
    simp only [decide_eq_true_eq] at he ⊢
    obtain ⟨hpid, hname, hfrom, huntil⟩ := he
    have hsince : now - TracePilot.minutes minutes ≤ e.timestamp := by
      exact_mod_cast hstart.trans hfrom
    have hfrom : ⌈t⌉ ≤ e.timestamp := Int.ceil_le.mpr hfrom
    have huntil : e.timestamp < ⌈t⌉ + 60000000 := by
      have hceil := Int.le_ceil t
      have : (e.timestamp : ℝ) < ⌈t⌉ + 60000000 := by linarith
      exact_mod_cast this
    have hminute : startOfMinute e.timestamp = startOfMinute ⌈t⌉
        ∨ startOfMinute e.timestamp = startOfMinute ⌈t⌉ + 60000000 := by
      unfold startOfMinute
      omega
    exact hminute.imp (fun h => ⟨hsince, hpid, hname, h⟩) fun h => ⟨hsince, hpid, hname, h⟩
  by_cases hfirst : threshold
      < (eventsInMinute events now minutes pid processName (startOfMinute ⌈t⌉)).length
  · exact ⟨_, hfirst⟩
  · exact ⟨startOfMinute ⌈t⌉ + 60000000, by omega⟩

/-- In a table of one calendar minute, every burst lies in that minute. -/
lemma calendarBurst_of_oneMinute {events : List StoredEvent} {now minutes : ℤ} {threshold : ℕ}
    {pid : ℤ} {processName : String} {minute : ℤ}
    (hminute : ∀ e ∈ events, startOfMinute e.timestamp = minute)
    (h : HasBurst events now minutes threshold pid processName) :
    CalendarBurst events now minutes threshold pid processName := by
  obtain ⟨t, hstart, -, hmany⟩ := h
  refine ⟨minute, hmany.trans_le ?_⟩
  simp only [eventsWithin, eventsInMinute, ← List.countP_eq_length_filter]
  refine List.countP_mono_left fun e he hwithin => ?_
  simp only [decide_eq_true_eq] at hwithin ⊢
  obtain ⟨hpid, hname, hfrom, -⟩ := hwithin
  exact ⟨by exact_mod_cast hstart.trans hfrom, hpid, hname, hminute e he⟩

/-- **When burst detection is complete for the documented rule**, for the tool and the endpoint:
whenever a process exceeds the threshold in some 60 seconds of the lookback, it also exceeds it in
a calendar minute of the lookback. -/
theorem burstsComplete_iff {l : Session} {s : Server} (hl : l.unusable = false)
    (threshold : {n : ℤ // 1 ≤ n ∧ n ≤ 10000}) (minutes : {n : ℤ // 1 ≤ n ∧ n ≤ 1440}) :
    (BurstsComplete s.db.connectionEvents s.clock minutes threshold.1.toNat
        (ReturnsBurst ((findConnectionBursts ⟨threshold, minutes⟩).run l s).1)
      ↔ ∀ pid processName,
        HasBurst s.db.connectionEvents s.clock minutes threshold.1.toNat pid processName →
          CalendarBurst s.db.connectionEvents s.clock minutes threshold.1.toNat pid processName)
    ∧ (BurstsComplete s.db.connectionEvents s.clock minutes threshold.1.toNat
        (Endpoint.ReturnsBurst ((Endpoint.findConnectionBursts ⟨threshold, minutes⟩).run l s).1)
      ↔ ∀ pid processName,
        HasBurst s.db.connectionEvents s.clock minutes threshold.1.toNat pid processName →
          CalendarBurst s.db.connectionEvents s.clock minutes threshold.1.toNat pid processName) := by
  constructor
  · exact forall₂_congr fun pid processName => imp_congr_right fun _ => returnsBurst_iff hl _
  · exact forall₂_congr fun pid processName =>
      imp_congr_right fun _ => endpoint_returnsBurst_iff hl _

/-- Two connections of PID 42, a second and two seconds after the turn of a minute. -/
def withinMinute : List StoredEvent := [
  .curl 1 42 1699999981000000 (by decide) (by decide),
  .curl 2 42 1699999982000000 (by decide) (by decide)]

lemma hasBurst_withinMinute : HasBurst withinMinute Clock.sample 60 1 42 "curl" := by
  refine ⟨1699999935000000, ?_, ?_, ?_⟩
  · norm_num [Clock.sample, minutes]
  · norm_num [Clock.sample]
  · norm_num [eventsWithin, withinMinute, StoredEvent.curl]

/-- With threshold 1, the two connections are a burst, and both detectors return every burst of
their table. -/
theorem burstsComplete_iff_withinMinute :
    HasBurst withinMinute Clock.sample 60 1 42 "curl"
    ∧ BurstsComplete withinMinute Clock.sample 60 1
        (ReturnsBurst ((findConnectionBursts ⟨⟨1, by decide⟩, ⟨60, by decide⟩⟩).run {}
          (.holding withinMinute)).1)
    ∧ BurstsComplete withinMinute Clock.sample 60 1
        (Endpoint.ReturnsBurst ((Endpoint.findConnectionBursts
          ⟨⟨1, by decide⟩, ⟨60, by decide⟩⟩).run {} (.holding withinMinute)).1) := by
  have hminute : ∀ e ∈ withinMinute, startOfMinute e.timestamp = 1699999980000000 := by decide
  have hcalendar : ∀ pid processName, HasBurst withinMinute Clock.sample 60 1 pid processName →
      CalendarBurst withinMinute Clock.sample 60 1 pid processName :=
    fun _ _ => calendarBurst_of_oneMinute hminute
  have hiff := burstsComplete_iff (l := {}) (s := .holding withinMinute) rfl ⟨1, by decide⟩
    ⟨60, by decide⟩
  exact ⟨hasBurst_withinMinute, hiff.1.mpr hcalendar, hiff.2.mpr hcalendar⟩

/-- Two connections of PID 42, a second before and a second after the turn of a minute. -/
def aroundMinute : List StoredEvent := [
  .curl 1 42 1699999979000000 (by decide) (by decide),
  .curl 2 42 1699999981000000 (by decide) (by decide)]

lemma hasBurst_aroundMinute : HasBurst aroundMinute Clock.sample 60 1 42 "curl" := by
  refine ⟨1699999935000000, ?_, ?_, ?_⟩
  · norm_num [Clock.sample, minutes]
  · norm_num [Clock.sample]
  · norm_num [eventsWithin, aroundMinute, StoredEvent.curl]

lemma not_calendarBurst_aroundMinute : ¬ CalendarBurst aroundMinute Clock.sample 60 1 42 "curl" := by
  rintro ⟨minute, hmany⟩
  have hdistinct : startOfMinute 1699999979000000 ≠ startOfMinute 1699999981000000 := by decide
  simp only [eventsInMinute, aroundMinute, StoredEvent.curl, List.filter_cons] at hmany
  split_ifs at hmany with h h'
  · simp only [decide_eq_true_eq] at h h'
    exact hdistinct (h.2.2.2.trans h'.2.2.2.symm)
  all_goals simp at hmany

/-- With threshold 1, the two connections in two seconds are no burst to either detector. -/
theorem not_burstsComplete_aroundMinute :
    ¬ BurstsComplete aroundMinute Clock.sample 60 1
        (ReturnsBurst ((findConnectionBursts ⟨⟨1, by decide⟩, ⟨60, by decide⟩⟩).run {}
          (.holding aroundMinute)).1)
    ∧ ¬ BurstsComplete aroundMinute Clock.sample 60 1
        (Endpoint.ReturnsBurst ((Endpoint.findConnectionBursts
          ⟨⟨1, by decide⟩, ⟨60, by decide⟩⟩).run {} (.holding aroundMinute)).1) := by
  constructor
  · intro h
    exact not_calendarBurst_aroundMinute
      ((returnsBurst_iff rfl _).mp (h 42 "curl" hasBurst_aroundMinute))
  · intro h
    exact not_calendarBurst_aroundMinute
      ((endpoint_returnsBurst_iff rfl _).mp (h 42 "curl" hasBurst_aroundMinute))

end TracePilot
