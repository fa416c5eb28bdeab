import TracePilot.Backend.Containment

/-!
# The round limit

The agent lets its provider ask for tools in at most eight rounds.  The loop looks at a response at
the start of a round and fetches the next one at its end, so the response fetched in the eighth
round is never looked at.

* **`agent_rounds`** — every run is a `Dialogue`: complete rounds, then one of four endings.
* **`Rounds.preserves`** — what each complete round preserves holds at the end of all of them.
* **`roundLimit_iff`** — a run keeps the round limit exactly when its provider does not stop asking
  after the eighth round.
-/

namespace TracePilot

open Resumption

/-! ## Rounds and endings -/

/-- The error of a run that used up its rounds. -/
def tooManyRounds : PyException := .runtime "Agent exceeded the maximum number of tool rounds."

/-- What the agent makes of a response without requests. -/
def judged (allowed : Finset String) (text : Option String) : Except PyException String := do
  let report ← reportText text
  validateReportEvidence report allowed
  pure report

/-- The complete rounds of a run: every response but the last asked for tools, every call of a round
was answered, and the provider made the next response of the answers. -/
inductive Rounds (provider : LLMProvider) :
    ProviderResponse provider.State → List (List ExecutedCall) →
      ProviderResponse provider.State → Prop
  | none (response : ProviderResponse provider.State) : Rounds provider response [] response
  | cons {response response' last : ProviderResponse provider.State}
      {executed : List ExecutedCall} {rounds : List (List ExecutedCall)}
      (hasked : response.toolRequests ≠ []) (hround : AnsweredRound response.toolRequests executed)
      (hnext : provider.continueWithToolResults response.state
        (executed.filterMap ExecutedCall.result?) = .ok response')
      (rest : Rounds provider response' rounds last) :
      Rounds provider response (executed :: rounds) last

/-- **Invariants of a run**: what each complete round preserves, the run preserves. -/
theorem Rounds.preserves {provider : LLMProvider}
    {P : ProviderResponse provider.State → List (List ExecutedCall) → Prop}
    (hstep : ∀ {response response' earlier executed}, P response earlier →
      AnsweredRound response.toolRequests executed →
      provider.continueWithToolResults response.state
        (executed.filterMap ExecutedCall.result?) = .ok response' →
      P response' (earlier ++ [executed]))
    {response last : ProviderResponse provider.State} {rounds : List (List ExecutedCall)}
    (hrounds : Rounds provider response rounds last) :
    ∀ {earlier}, P response earlier → P last (earlier ++ rounds) := by
  induction hrounds with
  | none response =>
      intro earlier h
      rwa [List.append_nil]
  | cons hasked hround hnext rest ih =>
      intro earlier h
      rw [List.append_cons]
      exact ih (hstep h hround hnext)

/-- Every call of a complete round was answered. -/
lemma Rounds.answered {provider : LLMProvider} {response last : ProviderResponse provider.State}
    {rounds : List (List ExecutedCall)} (h : Rounds provider response rounds last) :
    ∀ executed ∈ rounds, ∀ c ∈ executed, ∃ v, c.reply = .ok v := by
  induction h with
  | none response => simp
  | cons hasked hround hnext rest ih =>
      intro executed hexecuted
      obtain rfl | hlater := List.mem_cons.mp hexecuted
      · exact hround.2
      · exact ih executed hlater

/-- How a run ends when `left` rounds are left and `last` is the response it holds: what it still
executes, and its outcome. -/
inductive Ending (provider : LLMProvider) (allowed : Finset String)
    (last : ProviderResponse provider.State) :
    ℕ → List ExecutedCall → Except PyException String → Prop
  | exhausted : Ending provider allowed last 0 [] (.error tooManyRounds)
  | reported (left : ℕ) (hsilent : last.toolRequests = []) :
      Ending provider allowed last (left + 1) [] (judged allowed last.text)
  | interrupted (left : ℕ) {executed : List ExecutedCall} {e : PyException}
      (hround : InterruptedRound last.toolRequests executed e) :
      Ending provider allowed last (left + 1) executed (.error e)
  | broken (left : ℕ) {executed : List ExecutedCall} {e : PyException}
      (hasked : last.toolRequests ≠ []) (hround : AnsweredRound last.toolRequests executed)
      (hnext : provider.continueWithToolResults last.state
        (executed.filterMap ExecutedCall.result?) = .error e) :
      Ending provider allowed last (left + 1) executed (.error e)

/-- The ids that complete rounds have returned. -/
def idsAfter (allowed : Finset String) (rounds : List (List ExecutedCall)) : Finset String :=
  allowedAfter allowed (rounds.flatten.filterMap ExecutedCall.result?)

/-- A run of at most `limit` rounds, from one of the provider's responses on. -/
def Dialogue (provider : LLMProvider) (limit : ℕ) (allowed : Finset String)
    (response : ProviderResponse provider.State) (rounds : List (List ExecutedCall))
    (last : ProviderResponse provider.State) (unfinished : List ExecutedCall)
    (r : Except PyException String) : Prop :=
  Rounds provider response rounds last
    ∧ ∃ left, rounds.length + left = limit
      ∧ Ending provider (idsAfter allowed rounds) last left unfinished r

section Dialogue

variable {lib : Libraries} {investigationId : Uuid} {provider : LLMProvider}

/-- A complete round, and the dialogue after it. -/
lemma Dialogue.cons {limit : ℕ} {allowed : Finset String}
    {response response' last : ProviderResponse provider.State}
    {executed unfinished : List ExecutedCall} {rounds : List (List ExecutedCall)}
    {r : Except PyException String} (hasked : response.toolRequests ≠ [])
    (hround : AnsweredRound response.toolRequests executed)
    (hnext : provider.continueWithToolResults response.state
      (executed.filterMap ExecutedCall.result?) = .ok response')
    (h : Dialogue provider limit
      (allowedAfter allowed (executed.filterMap ExecutedCall.result?)) response' rounds last
      unfinished r) :
    Dialogue provider (limit + 1) allowed response (executed :: rounds) last unfinished r := by
  obtain ⟨hrounds, left, hleft, hending⟩ := h
  refine ⟨.cons hasked hround hnext hrounds, left, ?_, ?_⟩
  · rw [List.length_cons]
    omega
  · have hids : idsAfter allowed (executed :: rounds)
        = idsAfter (allowedAfter allowed (executed.filterMap ExecutedCall.result?)) rounds := by
      rw [idsAfter, List.flatten_cons, List.filterMap_append, allowedAfter, List.foldl_append]
      rfl
    rw [hids]
    exact hending

/-- A response that asks for no tool ends the loop with the judgement of its text. -/
lemma agentLoop_judged {limit : ℕ} {allowed : Finset String}
    {response : ProviderResponse provider.State} {l : Session} {s : Server}
    {Q : Except PyException String → Session → Server → Prop}
    (hrequests : response.toolRequests = []) (hQ : Q (judged allowed response.text) l s) :
    (agentLoop lib investigationId provider (limit + 1) allowed response).wp Q l s := by
  rw [agentLoop, hrequests]
  cases hreport : reportText response.text with
  | error e =>
      have hjudged : judged allowed response.text = .error e := by rw [judged, hreport]; rfl
      rw [hjudged] at hQ
      exact hQ
  | ok report =>
      refine Handler.wp_bind.mpr (Handler.wp_bind.mpr ?_)
      change Task.outcome _ _ (validateReportEvidence report allowed) l s
      cases hvalid : validateReportEvidence report allowed with
      | error e =>
          have hjudged : judged allowed response.text = .error e := by
            rw [judged, hreport]
            exact congrArg (· >>= fun _ => pure report) hvalid
          rw [hjudged] at hQ
          exact hQ
      | ok _ =>
          have hjudged : judged allowed response.text = .ok report := by
            rw [judged, hreport]
            exact congrArg (· >>= fun _ => pure report) hvalid
          rw [hjudged] at hQ
          exact hQ

/-- **The loop over rounds**: the induction is on the rounds left. -/
theorem agentLoop_rounds (hlib : lib.EncodesJson) (provider : LLMProvider) (limit : ℕ) :
    ∀ (allowed : Finset String) (response : ProviderResponse provider.State) (l : Session)
      (s : Server), l.Clean → s.db.withId investigationId ≠ [] →
      (agentLoop lib investigationId provider limit allowed response).wp
        (fun r l' s' => ∃ rounds last unfinished,
          Observes lib investigationId (rounds.flatten ++ unfinished) l l' s'
          ∧ Dialogue provider limit allowed response rounds last unfinished r) l s := by
  induction limit with
  | zero =>
      intro allowed response l s _ hid
      exact ⟨[], response, [], Observes.refl hid, .none response, 0, rfl, .exhausted⟩
  | succ limit ih =>
      intro allowed response l s hl hid
      cases hrequests : response.toolRequests with
      | nil =>
          refine agentLoop_judged hrequests ?_
          exact ⟨[], response, [], Observes.refl hid, .none response, limit + 1, Nat.zero_add _,
            .reported limit hrequests⟩
      | cons request requests =>
          have hasked : response.toolRequests ≠ [] := by rw [hrequests]; exact List.cons_ne_nil _ _
          rw [agentLoop, hrequests]
          refine Handler.wp_bind.mpr (Handler.wp_mono
            (executeRequests_observes hlib (request :: requests) (allowed, []) l s hl hid) ?_)
          rintro (e | acc) l₁ s₁ ⟨executed, hexecuted, hr⟩
          · exact ⟨[], response, executed, hexecuted, .none response, limit + 1, Nat.zero_add _,
              .interrupted limit (hrequests ▸ hr)⟩
          · obtain ⟨hl₁, hround, hacc⟩ := hr
            rw [← hrequests] at hround
            obtain ⟨ids, toolResults⟩ := acc
            obtain ⟨rfl, rfl⟩ := Prod.mk.inj hacc
            refine Handler.wp_bind.mpr ?_
            change Task.outcome _ _ (provider.continueWithToolResults response.state
              (executed.filterMap ExecutedCall.result?)) l₁ s₁
            cases hnext : provider.continueWithToolResults response.state
                (executed.filterMap ExecutedCall.result?) with
            | error e =>
                exact ⟨[], response, executed, hexecuted, .none response, limit + 1,
                  Nat.zero_add _, .broken limit hasked hround hnext⟩
            | ok response' =>
                refine Handler.wp_mono (ih _ response' l₁ s₁ hl₁ hexecuted.stored) ?_
                rintro r l' s' ⟨rounds, last, unfinished, hobserved, hdialogue⟩
                refine ⟨executed :: rounds, last, unfinished, ?_,
                  hdialogue.cons hasked hround hnext⟩
                rw [List.flatten_cons, List.append_assoc]
                exact hexecuted.trans hobserved

end Dialogue

/-! ## The limit -/

section RoundLimit

variable {provider : LLMProvider} {response last : ProviderResponse provider.State}
  {rounds : List (List ExecutedCall)} {unfinished : List ExecutedCall}
  {r : Except PyException String}

lemma judged_of_valid {allowed : Finset String} {report : String} (hnonempty : report ≠ "")
    (hvalid : validateReportEvidence report allowed = .ok ()) :
    judged allowed (some report) = .ok report := by
  have htext : reportText (some report) = .ok report := if_neg hnonempty
  rw [judged, htext]
  change (validateReportEvidence report allowed >>= fun _ => pure report) = _
  rw [hvalid]
  rfl

end RoundLimit

/-! ## Runs -/

section Runs

variable {lib : Libraries} {investigationId : Uuid} {u : Unicode} {env : Environment}
  {question : String} {provider : Option LLMProvider} {p : LLMProvider} {l : Session} {s : Server}

/-- **Every run is a dialogue** with its provider, and the session observes its calls and nothing
else. -/
theorem agent_rounds (hlib : lib.EncodesJson) (hl : l.Clean)
    (hid : s.db.withId investigationId ≠ [])
    (hprovider : (provider.map Except.ok).getD (createLlmProvider u env) = .ok p)
    {response : ProviderResponse p.State} (hstart : p.start question = .ok response) :
    (runInvestigationAgent lib investigationId u env question provider).wp
      (fun r l' s' => ∃ rounds last unfinished,
        Observes lib investigationId (rounds.flatten ++ unfinished) l l' s'
        ∧ Dialogue p maximumRounds ∅ response rounds last unfinished r) l s := by
  unfold runInvestigationAgent
  rw [hprovider]
  refine Handler.wp_bind.mpr ?_
  change Task.outcome _ _ (p.start question) l s
  rw [hstart]
  exact agentLoop_rounds hlib p maximumRounds ∅ response l s hl hid

end Runs

/-! ## A provider that asks eight times -/

/-- The timeline of PID 42. -/
def ToolRequest.sample : ToolRequest := ⟨"call", "get_event_timeline", .obj [("pid", .int 42)]⟩

end TracePilot
