import TracePilot.Backend.DemoRuns
import TracePilot.Backend.Rounds

/-!
# Which questions a demo investigation answers

The demo provider cuts a number out of the question and hands it to two tools.  The pattern takes
any digits, the arguments models ask for at least 1, and the column is 32 bits wide.

**`demo_returns_iff`** — a demo investigation returns a report exactly when the question names no
number or one that passes both bounds.
-/

namespace TracePilot

open Resumption

/-- The numbers that both bounds take. -/
def PidInRange (pid : ℕ) : Prop := 1 ≤ pid ∧ pid < 2147483648

section Timeline

variable {py : Pydantic} (hpy : ∀ n, py.int (.int n) = some n) (pid : ℕ)

include hpy

/-- What becomes of the first request of a demo investigation. -/
lemma pidInRange_of_timeline {c : AcceptedCall}
    (hcall : acceptedCall py "get_event_timeline" (.obj [("pid", .int pid)]) = some c)
    (hrange : c.inRange = true) : PidInRange pid := by
  have hfield : intAtLeast py 1 "pid" (.obj [("pid", .int pid)])
      = if h : (1 : ℤ) ≤ pid then some ⟨pid, h⟩ else none := by
    simp [intAtLeast, fieldOf, Json.field, checked, hpy]
  by_cases hpos : (1 : ℤ) ≤ pid
  · rw [dif_pos hpos] at hfield
    obtain rfl : AcceptedCall.eventTimeline ⟨pid, hpos⟩ = c := by
      simpa [acceptedCall, EventTimelineArguments.validate, onDict, hfield] using hcall
    simp only [AcceptedCall.inRange, int4, Bool.and_eq_true, decide_eq_true_eq] at hrange
    exact ⟨by omega, by omega⟩
  · rw [dif_neg hpos] at hfield
    simp [acceptedCall, EventTimelineArguments.validate, onDict, hfield] at hcall

end Timeline

section Runs

variable {lib : Libraries} {investigationId : Uuid} {u : Unicode} {env : Environment}
  {question : String} {l : Session} {s : Server}

/-- Without a number the provider asks for one, and that is the report. -/
lemma demo_without_pid (hquestion : MockProvider.pidOf u question = none) :
    (runInvestigationAgent lib investigationId u env question (some (MockProvider u))).wp
      (fun r _ _ => ∃ report, r = .ok report) l s := by
  have hstart : (MockProvider u).start question
      = .ok ⟨some "Demo mode requires the question to include a PID.", [], none⟩ := by
    simp [MockProvider, MockProvider.start, hquestion]
  have hvalid : validateReportEvidence "Demo mode requires the question to include a PID." ∅
      = .ok () := by
    refine (validateReportEvidence_eq_ok _ _).mpr ⟨fun id _ hcites => ?_, fun h => absurd rfl h⟩
    exact absurd hcites (not_cites (by decide +kernel) id)
  refine Handler.wp_bind.mpr ?_
  rw [hstart]
  refine @agentLoop_judged lib investigationId (MockProvider u) _ _ _ _ _ _ rfl ?_
  exact ⟨_, judged_of_valid (by decide) hvalid⟩

/-- With a number out of range no round is completed, and the run raises. -/
lemma demo_out_of_range (hlib : lib.EncodesJson) (hpy : ∀ n, lib.int (.int n) = some n)
    (hl : l.Clean) (hid : s.db.withId investigationId ≠ []) {pid : ℕ}
    (hquestion : MockProvider.pidOf u question = some pid) (hpid : ¬ PidInRange pid) :
    (runInvestigationAgent lib investigationId u env question (some (MockProvider u))).wp
      (fun r _ _ => ∃ e, r = .error e) l s := by
  have hstart : (MockProvider u).start question
      = .ok ⟨none, MockProvider.toolRequests pid, some pid⟩ := by
    simp [MockProvider, MockProvider.start, hquestion]
  refine Handler.wp_mono (agent_rounds hlib hl hid rfl hstart) ?_
  rintro r l' s' ⟨rounds, last, unfinished, hobserved, hrounds, left, -, hending⟩
  have hasked : last.toolRequests ≠ [] := by
    cases hrounds with
    | none => exact List.cons_ne_nil _ _
    | @cons _ response' _ executed rounds hasked hround hnext rest =>
        -- the first call of a complete round was answered
        cases executed with
        | nil => exact absurd hround.1.symm (List.cons_ne_nil _ _)
        | cons c executed =>
            have hrequest : c.request
                = ⟨"mock-timeline", "get_event_timeline", .obj [("pid", .int pid)]⟩ :=
              (List.cons.inj hround.1).1
            obtain ⟨v, hv⟩ := hround.2 c (by simp)
            have hexecution := hobserved.executions c (by simp)
            rw [hv] at hexecution
            obtain ⟨call, hcall, hrange⟩ := hexecution.accepted
            rw [hrequest] at hcall
            exact absurd (pidInRange_of_timeline hpy pid hcall hrange) hpid
  cases hending with
  | exhausted => exact ⟨_, rfl⟩
  | reported left hsilent => exact absurd hsilent hasked
  | interrupted left hround => exact ⟨_, rfl⟩
  | broken left hasked hround hnext => exact ⟨_, rfl⟩

/-- **When a demo investigation returns a report**: its question names no number, or one that both
bounds take. -/
theorem demo_returns_iff (hlib : lib.EncodesJson) (hpy : ∀ n, lib.int (.int n) = some n)
    (hl : l.Clean) (hid : s.db.withId investigationId ≠ []) (question : InvestigationCreate)
    {o : Except PyException String × Session × Server}
    (ho : (runInvestigationAgent lib investigationId u env question.question
      (some (MockProvider u))).Reaches l s o) :
    (∃ report, o.1 = .ok report)
      ↔ ∀ pid, MockProvider.pidOf u question.question = some pid → PidInRange pid := by
  constructor
  · rintro ⟨report, hreport⟩ pid hquestion
    by_contra hpid
    obtain ⟨e, he⟩ :=
      Handler.wp_iff_forall_reaches.mp (demo_out_of_range hlib hpy hl hid hquestion hpid) o ho
    rw [he] at hreport
    cases hreport
  · intro hrange
    cases hquestion : MockProvider.pidOf u question.question with
    | none => exact Handler.wp_iff_forall_reaches.mp (demo_without_pid hquestion) o ho
    | some pid =>
        obtain ⟨hpos, hlt⟩ := hrange pid hquestion
        have hpid : MockProvider.pidOf u question.question = some (⟨pid, hpos⟩ : DemoPid).1 :=
          hquestion
        have hspec := demo_spec (J := fun _ => True) hlib hpy (fun _ _ _ _ => trivial) trivial hl hid
          hpid hlt env
        obtain ⟨reading, hreport, -⟩ := Task.wp_iff_forall_reaches.mp hspec o
          (ho.mono fun l s s' h => ⟨h, fun _ => trivial⟩)
        exact ⟨_, hreport⟩

end Runs

/-- A question that `InvestigationCreate` accepts, about PID 42. -/
def InvestigationCreate.sample : InvestigationCreate := ⟨⟨"PID 42?", by decide⟩⟩

theorem demo_returns_iff_sample :
    ∃ o, demoAgent.Reaches {} sampleServer o
      ∧ ((∃ report, o.1 = .ok report)
        ↔ ∀ pid, MockProvider.pidOf .ascii InvestigationCreate.sample.question = some pid →
          PidInRange pid) :=
  ⟨_, Handler.reaches_run demoAgent {} sampleServer,
    demo_returns_iff Libraries.strict_encodesJson (fun _ => rfl) ⟨rfl, rfl, rfl⟩ (by decide) .sample
      (Handler.reaches_run demoAgent {} sampleServer)⟩

/-- A question about PID 0. -/
def InvestigationCreate.zero : InvestigationCreate := ⟨⟨"PID 0?", by decide⟩⟩

/-- The demo investigation of PID 0. -/
def zeroAgent : Handler String :=
  runInvestigationAgent .strict 7 .ascii ⟨none, .error .database, .error .database⟩
    InvestigationCreate.zero.question (some (MockProvider .ascii))

/-- It raises. -/
theorem not_demo_returns_zero :
    ∃ o, zeroAgent.Reaches {} sampleServer o ∧ ¬ ∃ report, o.1 = .ok report := by
  have hquestion : MockProvider.pidOf .ascii InvestigationCreate.zero.question = some 0 := by
    decide +kernel
  have ho := Handler.reaches_run zeroAgent {} sampleServer
  refine ⟨_, ho, ?_⟩
  rintro ⟨report, hreport⟩
  obtain ⟨e, he⟩ := Handler.wp_iff_forall_reaches.mp (demo_out_of_range Libraries.strict_encodesJson
    (fun _ => rfl) ⟨rfl, rfl, rfl⟩ (by decide) hquestion fun h => absurd h.1 (by decide)) _ ho
  rw [he] at hreport
  cases hreport

end TracePilot
