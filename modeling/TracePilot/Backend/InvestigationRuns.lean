import TracePilot.Backend.AgentRuns
import TracePilot.Backend.Main

/-!
# Runs of the investigation endpoint

The endpoint owes its client one thing: when the request is over, the stored investigation is
finished and says what the answer said.  `Agrees` states it.

* **`createInvestigation_agrees_iff`** — over all interleavings and for every outcome of the agent,
  the debt is paid exactly in the runs in which the database accepts every flush.  The `except`
  block commits on the session that a refused flush has left unusable, so that commit raises and
  the row keeps the status `running`.
* **`not_demoWorks`** — the default configuration never gets as far as a tool call, since the
  provider factory raises.
-/

namespace TracePilot

open Resumption

/-- **The row and the answer agree**: the investigation this session inserted is stored once, as
the completed row that was returned, or as failed if an error was. -/
def Agrees (o : Except PyException Investigation × Session × Server) : Prop :=
  ∃ i, o.2.1.own = some i.id ∧ o.2.2.db.withId i.id = [i]
    ∧ match o.1 with
      | .ok answer => answer = i ∧ i.status = "completed" ∧ ∃ report, i.answer = some report
      | .error _ => i.status = "failed"

/-- The database accepted every flush of the session. -/
def AllAccepted (l : Session) : Prop := ∀ o ∈ l.log, o.accepted = true

/-- A run in which agreement and acceptance coincide. -/
def Honest (r : Except PyException Investigation) (l : Session) (s : Server) : Prop :=
  Agrees (r, l, s) ↔ AllAccepted l

/-! ## The stored row -/

/-- The row this session inserted is stored as `i`. -/
structure StoredAs (i : Investigation) (l : Session) (s : Server) : Prop where
  own : l.own = some i.id
  row : s.db.withId i.id = [i]

section StoredAs

variable {i : Investigation} {l : Session} {s s' : Server}

/-- Other requests leave the row alone. -/
lemma StoredAs.mono (h : StoredAs i l s) (hs : Interference l s s') : StoredAs i l s' :=
  ⟨h.own, (hs.own i.id h.own).trans h.row⟩

/-- A stored row is the only one the session can agree on. -/
lemma StoredAs.agrees_iff (h : StoredAs i l s) (r : Except PyException Investigation) :
    Agrees (r, l, s)
      ↔ match r with
        | .ok answer => answer = i ∧ i.status = "completed" ∧ ∃ report, i.answer = some report
        | .error _ => i.status = "failed" := by
  constructor
  · rintro ⟨j, hown, hrow, hj⟩
    have hid : j.id = i.id := Option.some.inj (hown.symm.trans h.own)
    have hlist : [j] = [i] := hrow.symm.trans (hid ▸ h.row)
    obtain rfl : j = i := List.singleton_inj.mp hlist
    exact hj
  · exact fun hr => ⟨i, h.own, h.row, hr⟩

/-- A row that still runs agrees with no answer. -/
lemma StoredAs.not_agrees (h : StoredAs i l s) (hi : i.status = "running")
    (r : Except PyException Investigation) : ¬ Agrees (r, l, s) := by
  rw [h.agrees_iff]
  cases r with
  | ok answer => simp [hi]
  | error e => simp [hi]

/-- `refresh` reads the row back. -/
lemma refresh_spec {Q : Except PyException Investigation → Session → Server → Prop}
    (h : StoredAs i l s) (hl : l.unusable = false)
    (hok : ∀ s', Interference l s s' → Q (.ok i) l s') : Handler.refresh.wp Q l s := by
  rw [wp_refresh]
  intro s' hR
  have h' := h.mono hR
  simp only [refreshStep, hl, h'.own, Option.bind_some, h'.row, List.head?_cons]
  exact hok s' hR

/-- On an unusable session every commit raises and changes nothing. -/
lemma commit_of_unusable {Q : Except PyException Unit → Session → Server → Prop}
    (hl : l.unusable = true)
    (herr : ∀ s', Interference l s s' → Q (.error .pendingRollback) l s') :
    Handler.commit.wp Q l s := by
  rw [wp_commit]
  intro s' hR
  simp only [commitStep, hl, if_true]
  exact herr s' hR

/-- Committing a change of the stored row, on a session with nothing else to flush, and going on
with `k`. -/
lemma commitChange_spec {α : Type} {k : Handler α} {i' : Investigation}
    {Q : Except PyException α → Session → Server → Prop} (h : StoredAs i l s)
    (hid : i'.id = i.id) (hnew : l.new = []) (hl : l.unusable = false)
    (hok : ∀ l' s', StoredAs i' l' s' → l'.unusable = false →
      (AllAccepted l' ↔ AllAccepted l) → k.wp Q l' s')
    (herr : ∀ l' s', i'.fits = false → StoredAs i l' s' → l'.unusable = true →
      ¬ AllAccepted l' → Q (.error .database) l' s') :
    Handler.wp (do Handler.change i'; Handler.commit; k) Q l s := by
  obtain ⟨new, changed, own, unusable, log⟩ := l
  obtain rfl : new = [] := hnew
  refine Handler.wp_bind.mpr (wp_change.mpr fun s₁ h₁ => ?_)
  refine Handler.wp_bind.mpr (commit_of_usable hl ?_ ?_)
  · intro s₂ db h₂ hf
    have hs := h.mono (h₁.trans h₂ rfl)
    have hrow : s₂.db.withId i'.id = [i] := hid ▸ hs.row
    rw [Session.pending, List.map_nil, Database.flush_changed] at hf
    split_ifs at hf with hfits
    obtain rfl := Option.some.inj hf
    refine hok _ _ ⟨?_, Database.withId_replacing hrow⟩ rfl ?_
    · exact h.own.trans (congrArg some hid.symm)
    · simp [AllAccepted, Session.flushed, Session.pending, or_imp, forall_and,
        Observation.accepted, Database.flush_changed, hfits]
  · intro s₂ h₂ hf
    have hs := h.mono (h₁.trans h₂ rfl)
    have hrow : s₂.db.withId i'.id = [i] := hid ▸ hs.row
    rw [Session.pending, List.map_nil, Database.flush_changed] at hf
    split_ifs at hf with hfits
    have hunfit : i'.fits = false := by simpa [hrow] using hfits
    refine herr _ _ hunfit ⟨h.own, hs.row⟩ rfl ?_
    intro hall
    have hlast := hall (.flushed s₂.db [] (some i')) (by simp [Session.rolledBack, Session.pending])
    simp [Observation.accepted, Database.flush_changed, hunfit] at hlast

end StoredAs

/-! ## The endpoint -/

section Endpoint

variable {lib : Libraries} {u : Unicode} {env : Environment} {i : Investigation}
  {l : Session} {s : Server}

/-- The failed row fits its columns whenever the running row did. -/
lemma fits_failed (hi : i.fits = true) (completedAt : Option ℤ) :
    ({ i with status := "failed", answer := some failedAnswer, completedAt := completedAt } :
      Investigation).fits = true := by
  have hconst : varchar 20 "failed" = true ∧ noNul failedAnswer = true := by decide
  simp only [Investigation.fits, Bool.and_eq_true] at hi ⊢
  exact ⟨⟨hi.1.1, hconst.1⟩, hconst.2⟩

/-- **The `except` block on a session that still works**: the row ends as failed. -/
lemma failInvestigation_clean (h : StoredAs i l s) (hi : i.fits = true) (hl : l.Clean)
    (haccepted : AllAccepted l) : (failInvestigation i).wp Honest l s := by
  refine Handler.wp_bind.mpr (wp_now.mpr fun s₁ h₁ => ?_)
  refine commitChange_spec (h.mono h₁) rfl hl.new hl.usable ?_ ?_
  · intro l' s' hstored _ hall
    exact iff_of_true ((hstored.agrees_iff _).mpr rfl) (hall.mpr haccepted)
  · intro l' s' hunfit
    rw [fits_failed hi] at hunfit
    cases hunfit

/-- **The `except` block on an unusable session**: its commit raises and the row keeps running. -/
lemma failInvestigation_broken (h : StoredAs i l s) (hi : i.status = "running")
    (hl : l.unusable = true) (hrefused : ¬ AllAccepted l) :
    (failInvestigation i).wp Honest l s := by
  refine Handler.wp_bind.mpr (wp_now.mpr fun s₁ h₁ => ?_)
  refine Handler.wp_bind.mpr (wp_change.mpr fun s₂ h₂ => ?_)
  refine Handler.wp_bind.mpr (commit_of_unusable hl fun s₃ h₃ => ?_)
  have hs := h.mono ((h₁.trans h₂ rfl).trans h₃ rfl)
  have hstored : ∀ c, StoredAs i { l with changed := c } s₃ := fun _ => ⟨h.own, hs.row⟩
  exact iff_of_false ((hstored _).not_agrees hi _) hrefused

lemma AllAccepted.append {observed : List Observation} (h : AllAccepted l)
    (h' : ∀ o ∈ observed, o.accepted = true) {l' : Session} (hlog : l'.log = l.log ++ observed) :
    AllAccepted l' := by
  intro o ho
  rw [hlog] at ho
  rcases List.mem_append.mp ho with ho | ho
  · exact h o ho
  · exact h' o ho

/-- **The `try` block**: it ends with the completed row, or hands the `except` block a session
from which that block ends honestly. -/
lemma completeInvestigation_spec (hlib : lib.EncodesJson) (h : StoredAs i l s)
    (hi : i.fits = true) (hrunning : i.status = "running") (hl : l.Clean)
    (haccepted : AllAccepted l) :
    (completeInvestigation lib u env i).wp
      (Task.outcome (fun answer => Honest (.ok answer)) fun _ => (failInvestigation i).wp Honest)
      l s := by
  have hid : s.db.withId i.id ≠ [] := by rw [h.row]; simp
  refine Handler.wp_bind.mpr
    (Handler.wp_mono (agent_spec hlib hl hid u env i.question none) ?_)
  intro r l₁ s₁ hr
  cases r with
  | ok report =>
      obtain ⟨allowed, ⟨hs, calls, rfl, hcalls, -⟩, -⟩ := hr
      have hstored : StoredAs i
          (l.observing (calls.flatMap (AnsweredCall.observed lib.toPydantic))) s₁ :=
        ⟨h.own, (h.mono hs).row⟩
      have haccepted₁ := haccepted.append (accepted_observed hcalls) (l.observing_log _)
      refine Handler.wp_bind.mpr (wp_now.mpr fun s₂ h₂ => ?_)
      refine commitChange_spec (hstored.mono h₂) rfl hl.new hl.usable ?_ ?_
      · intro l' s' hstored' husable hall
        refine refresh_spec hstored' husable fun s'' h'' => ?_
        exact iff_of_true (((hstored'.mono h'').agrees_iff _).mpr ⟨rfl, rfl, report, rfl⟩)
          (hall.mpr haccepted₁)
      · intro l' s' _ hstored' hbroken hrefused
        exact failInvestigation_broken hstored' hrunning hbroken hrefused
  | error e =>
      obtain ⟨hs, hown, observed, hlog, hend⟩ := hr
      have hstored : StoredAs i l₁ s₁ := ⟨hown.trans h.own, (h.mono hs).row⟩
      rcases hend with ⟨hclean, hafter⟩ | ⟨hbroken, o, ho, hrefused⟩
      · exact failInvestigation_clean hstored hi hclean (haccepted.append hafter hlog)
      · refine failInvestigation_broken hstored hrunning hbroken fun hall => ?_
        have haccept := hall o (by rw [hlog]; exact List.mem_append_right _ ho)
        rw [hrefused] at haccept
        cases haccept

/-- Every run of the endpoint is honest. -/
lemma createInvestigation_honest (hlib : lib.EncodesJson)
    (investigationData : InvestigationCreate) (s : Server) :
    (createInvestigation lib u env investigationData).wp Honest {} s := by
  refine Handler.wp_bind.mpr (wp_add.mpr fun s₁ h₁ => ?_)
  refine Handler.wp_bind.mpr (commit_of_usable rfl ?_ ?_)
  · intro s₂ db h₂ hf
    simp only [Session.pending, List.nil_append, List.map_cons, List.map_nil, Draft.row,
      Database.flush_investigation] at hf
    split_ifs at hf with hfits
    obtain rfl := Option.some.inj hf
    have hstored : StoredAs ⟨s₂.uuid4, investigationData.question, "running", none, s₂.clock.1,
        none⟩ (Session.flushed { new := [.investigation investigationData.question "running"] } s₂)
        { s₂ with db := s₂.db.withInvestigation _ } :=
      ⟨rfl, Database.withId_withInvestigation hfits.2⟩
    refine Handler.wp_bind.mpr (refresh_spec hstored rfl fun s₃ h₃ => ?_)
    refine Handler.wp_tryCatch.mpr
      (completeInvestigation_spec hlib (hstored.mono h₃) hfits.1 rfl ⟨rfl, rfl, rfl⟩ ?_)
    simp [AllAccepted, Session.flushed, Session.pending, Draft.row, Observation.accepted,
      Database.flush_investigation, hfits]
  · intro s₂ h₂ hf
    refine iff_of_false ?_ ?_
    · rintro ⟨i, hown, -⟩
      cases hown
    · intro hall
      have hlast := hall _ (List.mem_append_right _ (List.mem_singleton_self _))
      simp only [Observation.accepted] at hlast
      rw [show s₂.db.flush _ _ = none from hf] at hlast
      cases hlast

/-- **When the stored row and the answer agree**: in exactly the runs in which the database
accepts every flush. -/
theorem createInvestigation_agrees_iff (hlib : lib.EncodesJson)
    {investigationData : InvestigationCreate}
    {o : Except PyException Investigation × Session × Server}
    (ho : (createInvestigation lib u env investigationData).Reaches {} s o) :
    Agrees o ↔ AllAccepted o.2.1 :=
  Handler.wp_iff_forall_reaches.mp (createInvestigation_honest hlib investigationData s) o ho

end Endpoint

/-- A server without any row. -/
def Server.empty : Server := ⟨⟨[], [], []⟩, Clock.sample, 7⟩

/-- The question of the sample runs. -/
def sampleQuestion : InvestigationCreate := ⟨"Why is PID 42 busy?", by decide⟩

/-- An environment that selects a hosted provider which makes one request and then reports. -/
def Environment.hosted (toolName : String) : Environment where
  llmProvider := some "gemini"
  gemini := .ok (.scripted ⟨"call", toolName, .obj []⟩ "Nothing was found.")
  openai := .error .database

theorem createInvestigation_agrees_bursts :
    Agrees ((createInvestigation .strict .ascii (.hosted "find_connection_bursts")
      sampleQuestion).run {} .empty) := by
  refine (createInvestigation_agrees_iff Libraries.strict_encodesJson
    (Handler.reaches_run _ _ _)).mpr ?_
  unfold AllAccepted
  decide

/-- A row that still runs contradicts any answer. -/
lemma not_agrees_of_running {o : Except PyException Investigation × Session × Server}
    (h : ∀ i ∈ o.2.2.db.investigations, i.status = "running") : ¬ Agrees o := by
  rintro ⟨i, hown, hrow, hi⟩
  have hmem : i ∈ o.2.2.db.withId i.id := hrow ▸ List.mem_singleton_self i
  exact StoredAs.not_agrees ⟨hown, hrow⟩ (h i (List.mem_filter.mp hmem).1) o.1 ⟨i, hown, hrow, hi⟩

/-- A model that asks for a tool under a name of 101 letters leaves the investigation running. -/
theorem not_agrees_longToolName :
    ∃ o, (createInvestigation .strict .ascii (.hosted (String.ofList (List.replicate 101 'a')))
        sampleQuestion).Reaches {} .empty o ∧ ¬ Agrees o :=
  ⟨_, Handler.reaches_run _ _ _, not_agrees_of_running (by decide +kernel)⟩

/-! ## The default configuration -/

/-- `LLM_PROVIDER` is unset, or reads `mock` once it is stripped and lowered. -/
def DemoConfiguration (u : Unicode) (env : Environment) : Prop :=
  env.llmProvider = none ∨ ∃ value, env.llmProvider = some value ∧ u.lower (u.strip value) = "mock"

/-- The tools a session called, with the arguments they were validated to. -/
def invokedTools (observed : List Observation) : List (String × Json) :=
  observed.filterMap fun
    | .invoked toolName arguments => some (toolName, arguments)
    | _ => none

/-- **The demo works**: the investigation is completed and stored as returned, its report passes
the evidence check against the ids in its audit records, and the tools that were called are the
three of the demo provider. -/
def DemoWorks (pid : ℕ) (o : Except PyException Investigation × Session × Server) : Prop :=
  ∃ i report, o.1 = .ok i ∧ StoredAs i o.2.1 o.2.2 ∧ i.status = "completed"
    ∧ i.answer = some report
    ∧ validateReportEvidence report
        (((committedCalls o.2.1.log).map fun c => extractToolEventIds c.result).foldr (· ∪ ·) ∅)
      = .ok ()
    ∧ invokedTools o.2.1.log
      = (MockProvider.toolRequests pid).map fun request => (request.name, request.arguments)

section Demo

variable {lib : Libraries} {u : Unicode} {env : Environment}

lemma providerName_demo (henv : DemoConfiguration u env) : env.providerName u = "mock" := by
  rcases henv with h | ⟨value, h, hvalue⟩
  · have hm : u.isSpace 'm' = false := by rw [u.isSpace_ascii 'm' (by decide)]; decide
    have hk : u.isSpace 'k' = false := by rw [u.isSpace_ascii 'k' (by decide)]; decide
    have hstrip : u.strip "mock" = "mock" := by
      have hlist : "mock".toList = ['m', 'o', 'c', 'k'] := by decide
      simp [Unicode.strip, hlist, hm, hk]
    rw [Environment.providerName, h, Option.getD_none, hstrip,
      u.lower_ascii "mock" (forall_mem_toList (by decide))]
    decide
  · rw [Environment.providerName, h, Option.getD_some, hvalue]

/-- The factory raises before it can build the demo provider. -/
lemma createLlmProvider_demo (henv : DemoConfiguration u env) :
    createLlmProvider u env = .error (.nameError "name 'provider_name' is not defined") := by
  rw [createLlmProvider, providerName_demo henv, if_neg (by decide)]

/-- The `except` block never returns. -/
lemma failInvestigation_raises (i : Investigation) (l : Session) (s : Server) :
    (failInvestigation i).wp (fun r _ _ => ∀ answer, r ≠ .ok answer) l s := by
  refine Handler.wp_bind.mpr (wp_now.mpr fun s₁ _ => ?_)
  refine Handler.wp_bind.mpr (wp_change.mpr fun s₂ _ => ?_)
  refine Handler.wp_bind.mpr (wp_commit.mpr fun s₃ _ => ?_)
  cases (commitStep _ s₃).1 with
  | ok _ => exact fun _ h => nomatch h
  | error _ => exact fun _ h => nomatch h

/-- **The default configuration never works**, whatever is asked and stored. -/
theorem not_demoWorks (henv : DemoConfiguration u env)
    {investigationData : InvestigationCreate} {s : Server}
    {o : Except PyException Investigation × Session × Server}
    (ho : (createInvestigation lib u env investigationData).Reaches {} s o) (pid : ℕ) :
    ¬ DemoWorks pid o := by
  have hraises : (createInvestigation lib u env investigationData).wp
      (fun r _ _ => ∀ answer, r ≠ .ok answer) {} s := by
    refine Handler.wp_bind.mpr (wp_add.mpr fun s₁ _ => ?_)
    refine Handler.wp_bind.mpr (wp_commit.mpr fun s₂ _ => ?_)
    cases (commitStep _ s₂).1 with
    | error _ => exact fun _ h => nomatch h
    | ok _ =>
        refine Handler.wp_bind.mpr (wp_refresh.mpr fun s₃ _ => ?_)
        cases (refreshStep _ s₃).1 with
        | error _ => exact fun _ h => nomatch h
        | ok i =>
            refine Handler.wp_tryCatch.mpr (Handler.wp_bind.mpr ?_)
            simp only [runInvestigationAgent, Option.map_none, Option.getD_none,
              createLlmProvider_demo henv]
            exact failInvestigation_raises i _ _
  rintro ⟨i, report, hi, -⟩
  exact Handler.wp_iff_forall_reaches.mp hraises o ho i hi

end Demo

theorem not_demoWorks_default :
    ¬ DemoWorks 42 ((createInvestigation .strict .ascii ⟨none, .error .database, .error .database⟩
      sampleQuestion).run {} .empty) :=
  not_demoWorks (Or.inl rfl) (Handler.reaches_run _ _ _) 42

/-- With `LLM_PROVIDER` unset, the question of the sample run fails. -/
theorem not_demoWorks_unset :
    ∃ o, (createInvestigation .strict .ascii ⟨none, .error .database, .error .database⟩
        sampleQuestion).Reaches {} .empty o ∧ ¬ DemoWorks 42 o := by
  refine ⟨_, Handler.reaches_run _ _ _, ?_⟩
  rintro ⟨i, report, hi, -⟩
  cases hi

end TracePilot
