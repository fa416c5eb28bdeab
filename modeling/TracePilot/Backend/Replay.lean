import TracePilot.Library.Counting
import TracePilot.Backend.AuditReader
import TracePilot.Backend.Lifecycle
import TracePilot.Backend.Rounds

/-!
# What the audit trail tells

The audit trail is there so that a reader can see what an answer rests on.

* `RecordOf` — the record of an executed call: its tool, its validated arguments and its result.
  `Replay` — a conversation that the records of a run, in their order, repeat.
* **`trail_replays`** — whatever else is going on, the stored trail of an answered investigation
  contains such a conversation, and the evidence check accepts the answer against its records.
* **`debug_recorded`** — each reply of the debug endpoint other than an internal error stands in the
  trail, in one record that the reader of the trail can read.
-/

namespace TracePilot

open Resumption

/-! ## The records of executed calls -/

/-- The record that an answered call leaves. -/
structure RecordOf (lib : Libraries) (investigationId : Uuid) (c : ExecutedCall)
    (record : AgentToolCall) : Prop where
  investigationId : record.investigationId = investigationId
  toolName : record.toolName = c.request.name
  arguments : ∃ call, acceptedCall lib.toPydantic c.request.name c.request.arguments = some call
    ∧ record.arguments = call.arguments lib.toPydantic
  result : c.reply = .ok record.result

section Records

variable {lib : Libraries} {investigationId : Uuid}

/-- An accepted flush of one record commits it. -/
lemma committedCalls_of_accepted {toolName : String} {raw arguments result : Json}
    {observed : List Observation} {reply : Except PyException Json} {db : Database}
    {record : AgentToolCall}
    (attempt : Attempt lib toolName raw observed arguments result reply)
    (accepted : (db.flush [.agentToolCall record] none).isSome = true) :
    committedCalls (observed ++ [.flushed db [.agentToolCall record] none]) = [record] := by
  rw [(attempt.committedCalls_append db record).2, if_pos]
  by_contra hno
  rw [Database.flush_agentToolCall, if_neg hno] at accepted
  cases accepted

/-- **One call**: an answered call commits its record and nothing else. -/
lemma Execution.committed_of_ok {request : ToolRequest} {observed : List Observation} {v : Json}
    (h : Execution lib investigationId request observed (.ok v)) :
    ∃ record, committedCalls observed = [record]
      ∧ RecordOf lib investigationId ⟨request, observed, .ok v⟩ record := by
  cases h with
  | recorded attempt accepted =>
      have hcommitted := committedCalls_of_accepted attempt accepted
      cases attempt with
      | answered hname hcall hrange hanswer =>
          exact ⟨_, hcommitted, rfl, rfl, ⟨_, hcall, rfl⟩, rfl⟩

lemma committedCalls_append (observed observed' : List Observation) :
    committedCalls (observed ++ observed') = committedCalls observed ++ committedCalls observed' :=
  List.flatMap_append

/-- **Many calls**: they commit their records in their order. -/
lemma committedCalls_executed {executed : List ExecutedCall}
    (hexecuted : ∀ c ∈ executed, Execution lib investigationId c.request c.observed c.reply)
    (hanswered : ∀ c ∈ executed, ∃ v, c.reply = .ok v) :
    List.Forall₂ (RecordOf lib investigationId) executed
      (committedCalls (executed.flatMap fun c => c.observed)) := by
  induction executed with
  | nil => exact .nil
  | cons c executed ih =>
      obtain ⟨v, hv⟩ := hanswered c List.mem_cons_self
      have hexecution := hexecuted c List.mem_cons_self
      obtain ⟨request, observed, reply⟩ := c
      subst hv
      obtain ⟨record, hcommitted, hrecord⟩ := hexecution.committed_of_ok
      rw [List.flatMap_cons, committedCalls_append, hcommitted]
      exact .cons hrecord (ih (fun c hc => hexecuted c (List.mem_cons_of_mem _ hc))
        fun c hc => hanswered c (List.mem_cons_of_mem _ hc))

/-- The ids of the results are the ids of the records. -/
lemma resultIds_eq {executed : List ExecutedCall} {records : List AgentToolCall}
    (h : List.Forall₂ (RecordOf lib investigationId) executed records) :
    ∀ allowed, allowedAfter allowed (executed.filterMap ExecutedCall.result?)
      = allowed ∪ resultIds records := by
  induction h with
  | nil => exact fun allowed => (Finset.union_empty allowed).symm
  | @cons c record executed records hrecord _ ih =>
      intro allowed
      have hresult : c.result? = some ⟨c.request.callId, c.request.name, record.result⟩ := by
        rw [ExecutedCall.result?, hrecord.result]
      rw [List.filterMap_cons_some hresult, allowedAfter, List.foldl_cons, ← allowedAfter, ih,
        Finset.union_assoc]
      rfl

end Records

/-! ## Replays -/

/-- **A replay**: a conversation with the provider, from the question to a report, whose calls the
records repeat in order.  A reader of the records can check the report against them. -/
structure Replay (lib : Libraries) (investigationId : Uuid) (provider : LLMProvider)
    (question report : String) (records : List AgentToolCall)
    (response last : ProviderResponse provider.State) (rounds : List (List ExecutedCall)) :
    Prop where
  started : provider.start question = .ok response
  conversation : Rounds provider response rounds last
  limit : rounds.length < maximumRounds
  silent : last.toolRequests = []
  reported : last.text = some report
  recorded : List.Forall₂ (RecordOf lib investigationId) rounds.flatten records
  checked : validateReportEvidence report (resultIds records) = .ok ()

/-- The records replay a conversation of the provider that the environment selects. -/
def Replayed (lib : Libraries) (u : Unicode) (env : Environment) (investigationId : Uuid)
    (question report : String) (records : List AgentToolCall) : Prop :=
  ∃ provider response last rounds, createLlmProvider u env = .ok provider
    ∧ Replay lib investigationId provider question report records response last rounds

section Runs

variable {lib : Libraries} {u : Unicode} {env : Environment} {investigationId : Uuid}
  {l l' : Session} {s s' : Server}

/-- A report that was accepted is the text of the response, and its citations were checked. -/
lemma judged_eq_ok {allowed : Finset String} {text : Option String} {report : String}
    (h : judged allowed text = .ok report) :
    text = some report ∧ validateReportEvidence report allowed = .ok () := by
  rw [judged] at h
  cases text with
  | none => cases h
  | some written =>
      rw [reportText] at h
      split_ifs at h with hempty
      · cases h
      · change (validateReportEvidence written allowed >>= fun _ => pure written) = _ at h
        cases hvalid : validateReportEvidence written allowed with
        | error e =>
            rw [hvalid] at h
            cases h
        | ok _ =>
            rw [hvalid] at h
            obtain rfl := Except.ok.inj h
            exact ⟨rfl, hvalid⟩

/-- **A dialogue that ends in a report is replayed** by what its calls committed. -/
lemma Dialogue.replay {provider : LLMProvider} {question report : String}
    {response last : ProviderResponse provider.State} {rounds : List (List ExecutedCall)}
    {unfinished : List ExecutedCall} (hstart : provider.start question = .ok response)
    (h : Dialogue provider maximumRounds ∅ response rounds last unfinished (.ok report))
    (hobserves : Observes lib investigationId (rounds.flatten ++ unfinished) l l' s') :
    Replay lib investigationId provider question report
        (committedCalls (rounds.flatten.flatMap fun c => c.observed)) response last rounds
      ∧ unfinished = [] := by
  obtain ⟨hrounds, left, hleft, hending⟩ := h
  have hanswered : ∀ c ∈ rounds.flatten, ∃ v, c.reply = .ok v := by
    intro c hc
    obtain ⟨executed, hexecuted, hc⟩ := List.mem_flatten.mp hc
    exact hrounds.answered executed hexecuted c hc
  have hrecords := committedCalls_executed
    (fun c hc => hobserves.executions c (List.mem_append_left _ hc)) hanswered
  generalize hr : (Except.ok report : Except PyException String) = r at hending
  cases hending with
  | reported left hsilent =>
      obtain ⟨htext, hvalid⟩ := judged_eq_ok hr.symm
      rw [idsAfter, resultIds_eq hrecords, Finset.empty_union] at hvalid
      exact ⟨⟨hstart, hrounds, by omega, hsilent, htext, hrecords, hvalid⟩, rfl⟩
  | exhausted => cases hr
  | interrupted => cases hr
  | broken => cases hr

/-- **The agent**: what a run with a report has committed replays it. -/
lemma agent_replays (hlib : lib.EncodesJson) (hl : l.Clean)
    (hid : s.db.withId investigationId ≠ []) (u : Unicode) (env : Environment)
    (question : String) :
    (runInvestigationAgent lib investigationId u env question none).wp
      (fun r l' _ => ∀ report, r = .ok report → ∃ records,
        committedCalls l'.log = committedCalls l.log ++ records
        ∧ Replayed lib u env investigationId question report records) l s := by
  cases hprovider : createLlmProvider u env with
  | error e =>
      rw [runInvestigationAgent, Option.map_none, Option.getD_none, hprovider]
      intro report hr
      cases hr
  | ok provider =>
      cases hstart : provider.start question with
      | error e =>
          rw [runInvestigationAgent, Option.map_none, Option.getD_none, hprovider]
          refine Handler.wp_bind.mpr ?_
          rw [hstart]
          intro report hr
          cases hr
      | ok response =>
          have hselected : ((none : Option LLMProvider).map Except.ok).getD
              (createLlmProvider u env) = .ok provider := hprovider
          refine Handler.wp_mono (agent_rounds hlib hl hid hselected hstart) ?_
          rintro r l' s' ⟨rounds, last, unfinished, hobserves, hdialogue⟩ report rfl
          obtain ⟨hreplay, rfl⟩ := hdialogue.replay hstart hobserves
          refine ⟨_, ?_, provider, response, last, rounds, hprovider, hreplay⟩
          rw [hobserves.log, List.append_nil, committedCalls_append]

/-- Committing a change of the stored row returns the changed row and adds no record. -/
lemma commitChange_replayed {i i' : Investigation} (h : StoredAs i l s) (hid : i'.id = i.id)
    (hl : l.Clean) :
    Handler.wp (do Handler.change i'; Handler.commit; Handler.refresh)
      (fun r l' _ => ∀ j, r = .ok j → j = i' ∧ committedCalls l'.log = committedCalls l.log)
      l s := by
  obtain ⟨new, changed, own, unusable, log⟩ := l
  obtain rfl : new = [] := hl.new
  refine Handler.wp_bind.mpr (wp_change.mpr fun s₁ h₁ => ?_)
  refine Handler.wp_bind.mpr (commit_of_usable hl.usable ?_ fun _ _ _ j hj => nomatch hj)
  intro s₂ db h₂ hflush
  have hrow : s₂.db.withId i'.id = [i] := hid ▸ (h.mono (h₁.trans h₂ rfl)).row
  rw [Session.pending, List.map_nil, Database.flush_changed] at hflush
  split_ifs at hflush with hfits
  obtain rfl := Option.some.inj hflush
  refine refresh_spec ⟨h.own.trans (congrArg some hid.symm), Database.withId_replacing hrow⟩ rfl
    fun s₃ h₃ j hj => ⟨(Except.ok.inj hj).symm, ?_⟩
  rw [Session.flushed, committedCalls_append]
  simp [committedCalls, Session.pending, Observation.committed]

/-- What a request that answers owes to the trail. -/
def AnswerReplayed (lib : Libraries) (u : Unicode) (env : Environment) (question : String)
    (r : Except PyException Investigation) (l : Session) : Prop :=
  ∀ j, r = .ok j → ∃ report, j.answer = some report
    ∧ Replayed lib u env j.id question report (committedCalls l.log)

/-- **The `try` block.** -/
lemma completeInvestigation_replayed (hlib : lib.EncodesJson) {i : Investigation}
    (h : StoredAs i l s) (hl : l.Clean) (hnone : committedCalls l.log = []) :
    (completeInvestigation lib u env i).wp
      (fun r l' _ => AnswerReplayed lib u env i.question r l') l s := by
  have hid : s.db.withId i.id ≠ [] := by rw [h.row]; simp
  refine Handler.wp_bind.mpr (Handler.wp_mono (Task.wp_and
    (agent_spec hlib hl hid u env i.question none) (agent_replays hlib hl hid u env i.question)) ?_)
  rintro r l₁ s₁ ⟨hspec, hreplays⟩
  cases r with
  | error e => exact fun j hj => nomatch hj
  | ok report =>
      obtain ⟨allowed, ⟨hs, calls, rfl, -, -⟩, -⟩ := hspec
      obtain ⟨records, hcommitted, hreplay⟩ := hreplays report rfl
      have hstored : StoredAs i
          (l.observing (calls.flatMap (AnsweredCall.observed lib.toPydantic))) s₁ :=
        ⟨h.own, (h.mono hs).row⟩
      refine Handler.wp_bind.mpr (wp_now.mpr fun s₂ h₂ => ?_)
      refine Handler.wp_mono (commitChange_replayed (hstored.mono h₂) rfl (hl.observing _)) ?_
      intro r l' s' hr j hj
      obtain ⟨rfl, hlog⟩ := hr j hj
      refine ⟨report, rfl, ?_⟩
      rw [hlog, hcommitted, hnone, List.nil_append]
      exact hreplay

/-- **The request.** -/
lemma createInvestigation_replayed (hlib : lib.EncodesJson)
    (investigationData : InvestigationCreate) (s : Server) :
    (createInvestigation lib u env investigationData).wp
      (fun r l' _ => AnswerReplayed lib u env investigationData.question r l') {} s := by
  refine Handler.wp_bind.mpr (wp_add.mpr fun s₁ h₁ => ?_)
  refine Handler.wp_bind.mpr (commit_of_usable rfl ?_ fun _ _ _ j hj => nomatch hj)
  intro s₂ db h₂ hf
  simp only [Session.pending, List.nil_append, List.map_cons, List.map_nil, Draft.row,
    Database.flush_investigation] at hf
  split_ifs at hf with hfits
  obtain rfl := Option.some.inj hf
  have hstored : StoredAs ⟨s₂.uuid4, investigationData.question, "running", none, s₂.clock.1,
      none⟩ (Session.flushed { new := [.investigation investigationData.question "running"] } s₂)
      { s₂ with db := s₂.db.withInvestigation _ } :=
    ⟨rfl, Database.withId_withInvestigation hfits.2⟩
  refine Handler.wp_bind.mpr (refresh_spec hstored rfl fun s₃ h₃ => ?_)
  refine Handler.wp_tryCatch.mpr (Handler.wp_mono
    (completeInvestigation_replayed hlib (hstored.mono h₃) ⟨rfl, rfl, rfl⟩ ?_) ?_)
  · simp [committedCalls, Session.flushed, Session.pending, Draft.row, Observation.committed,
      Row.agentToolCall?]
  · intro r l' s' hr
    cases r with
    | ok j => exact hr
    | error e =>
        refine Handler.wp_mono (failInvestigation_raises _ l' s') ?_
        exact fun r _ _ hraises j hj => absurd hj (hraises j)

end Runs

/-! ## The stored trail -/

/-- What a session committed stands in the table, in the order in which it was committed. -/
def RecordedInOrder (l : Session) (s : Server) : Prop :=
  (committedCalls l.log).Sublist s.db.agentToolCalls

section Stored

variable {lib : Libraries} {u : Unicode} {l : Session} {s : Server}

/-- An operation that logs no flush. -/
lemma RecordedInOrder.note (h : RecordedInOrder l s) {o : Observation} (ho : o.committed = []) :
    RecordedInOrder (l.note o) s := by
  have hnone : committedCalls [o] = [] := (List.flatMap_singleton _ o).trans ho
  rw [RecordedInOrder, Session.note, Session.observing_log, committedCalls_append, hnone,
    List.append_nil]
  exact h

/-- **Each operation of a session** appends to the table what it logs. -/
lemma RecordedInOrder.step (h : RecordedInOrder l s) (op : DbOp) :
    RecordedInOrder (backend op l s).2.1 (backend op l s).2.2 := by
  cases op with
  | now => exact h
  | invoke toolName arguments => exact h.note rfl
  | add draft => exact h
  | change investigation => exact h
  | select clause =>
      change RecordedInOrder (selectStep clause l s).2.1 (selectStep clause l s).2.2
      unfold selectStep
      split_ifs
      · exact h
      · exact h.note rfl
      · exact h
  | refresh =>
      change RecordedInOrder (refreshStep l s).2.1 (refreshStep l s).2.2
      unfold refreshStep
      split_ifs
      · exact h
      · split <;> exact h
  | commit =>
      change RecordedInOrder (commitStep l s).2.1 (commitStep l s).2.2
      unfold commitStep
      split_ifs
      · exact h
      · cases hflush : s.db.flush (l.pending s) l.changed with
        | none =>
            refine h.note (o := .flushed s.db (l.pending s) l.changed) ?_
            simp [Observation.committed, hflush]
        | some db =>
            have hcommitted : committedCalls [.flushed s.db (l.pending s) l.changed]
                = (l.pending s).filterMap Row.agentToolCall? := by
              simp [committedCalls, Observation.committed, hflush]
            change (committedCalls (l.log ++ _)).Sublist db.agentToolCalls
            rw [committedCalls_append, hcommitted, flush_agentToolCalls hflush]
            exact h.append (.refl _)

/-- **A request beside the system**: its records stand in the table in their order, whatever the
others do. -/
lemma recordedInOrder_beside {α : Type} {p : Handler α} {r : Except PyException α} {l' : Session}
    {x x' : Pool backendInterface Session Server}
    (h : BesideReaches lib u (.ofMachine backend) p x r l' x') : RecordedInOrder l' x'.shared := by
  refine Beside.invariant (P := RecordedInOrder) (fun l x x' hstep hx => ?_)
    (fun op l s r l' s' hop hl => ?_) h (List.nil_sublist _)
  · have hlawful : Lawful x.shared.db x'.shared.db :=
      lawful_reaches (fun _ _ _ _ _ _ hop => hop.imp_right And.left) (.single hstep)
    exact hx.trans hlawful.calls.sublist
  · have hrun := hl.step op
    rw [← show (r, l', s') = backend op l s from hop] at hrun
    exact hrun

/-- Records of one investigation stand in its trail. -/
lemma RecordedInOrder.trail (h : RecordedInOrder l s) {investigationId : Uuid}
    (hown : ∀ record ∈ committedCalls l.log, record.investigationId = investigationId) :
    (committedCalls l.log).Sublist (s.db.trail investigationId) := by
  have hall := List.filter_eq_self.mpr fun record hrecord =>
    decide_eq_true (hown record hrecord)
  rw [← hall]
  exact h.filter _

end Stored

/-- **The trail replays the answer.**  Whatever other requests do, and in every later state, the
stored trail of an investigation that was answered contains the records of a conversation with the
provider, from the question to the answer: call by call and in order, with the validated arguments
and the very results that the provider was given.  The evidence check accepts the answer against
these records. -/
theorem trail_replays {lib : Libraries} {u : Unicode} (hlib : lib.EncodesJson) {s₀ : Server}
    {x x' : Pool backendInterface Session Server} (hx : SteadyReaches lib u ⟨[], s₀⟩ x)
    {env : Environment} {investigationData : InvestigationCreate} {j : Investigation} {l' : Session}
    (h : BesideReaches lib u (.ofMachine backend)
      (createInvestigation lib u env investigationData) x (.ok j) l' x') :
    ∃ report records, j.answer = some report ∧ records.Sublist (x'.shared.db.trail j.id)
      ∧ Replayed lib u env j.id investigationData.question report records := by
  have hrequest : Request lib u x.shared _ (createInvestigation lib u env investigationData) :=
    .createInvestigation env investigationData
  obtain ⟨s', hreplayed, -⟩ :=
    hrequest.ends hx (createInvestigation_replayed hlib investigationData x.shared) h
  obtain ⟨report, hanswer, hreplayed⟩ := hreplayed j rfl
  refine ⟨report, _, hanswer, (recordedInOrder_beside h).trail ?_, hreplayed⟩
  obtain ⟨provider, response, last, rounds, -, hreplay⟩ := hreplayed
  intro record hrecord
  obtain ⟨c, -, hc⟩ := Counting.exists_mem_of_forall₂ hreplay.recorded.flip hrecord
  exact hc.investigationId

/-- The sample request beside another one that waits. -/
theorem trail_replays_busyServer :
    ∃ j, (sampleHandler.run {} .empty).1 = .ok j ∧ ∃ report records, j.answer = some report
      ∧ records.Sublist ((sampleHandler.run {} .empty).2.2.db.trail j.id)
      ∧ Replayed .strict .ascii (.hosted "find_connection_bursts") j.id sampleQuestion.question
        report records := by
  obtain ⟨j, hr⟩ := exists_sampleAnswer
  have hrun := besideReaches_sampleHandler (B := .ofMachine backend) fun _ _ _ => rfl
  rw [hr] at hrun
  exact ⟨j, hr, trail_replays Libraries.strict_encodesJson steadyReaches_busyServer hrun⟩

/-! ## The debug endpoint -/

/-- What a record shows of the reply that the endpoint gave. -/
inductive Shows (toolName : String) : Json → DebugReply → Prop
  | result {v : Json} (h : v.field "error" = none) : Shows toolName v (.result v)
  | forbidden : Shows toolName (notAllowedResult toolName) (.forbidden (notPermitted toolName))
  | unprocessable (details : Json) :
      Shows toolName (invalidArgumentsResult details) (.unprocessable details)

/-- The record of a reply. -/
structure ReplyRecorded (investigationId : Uuid) (toolName : String) (reply : DebugReply)
    (record : AgentToolCall) : Prop where
  own : record.investigationId = investigationId
  tool : record.toolName = toolName
  shows : Shows toolName record.result reply
  readable : (AgentToolCallResponse.validate record).isSome = true

/-- **What a debug request comes to**, by its reply and what its session logged: there is no such
investigation, or its reply is recorded once, or the record is not one that the database takes. -/
inductive DebugOutcome (lib : Libraries) (db : Database) (investigationId : Uuid)
    (request : AgentToolExecutionRequest) (log : List Observation) :
    Except PyException DebugReply → Prop
  | notFound (hid : db.withId investigationId = []) (hnone : committedCalls log = []) :
      DebugOutcome lib db investigationId request log (.ok (.notFound "Investigation not found"))
  | recorded {reply : DebugReply} {record : AgentToolCall} (hid : db.withId investigationId ≠ [])
      (hauditable : Auditable lib request.toolName (.obj request.arguments) (statementsRead log))
      (hcommitted : committedCalls log = [record])
      (hrecord : ReplyRecorded investigationId request.toolName reply record) :
      DebugOutcome lib db investigationId request log (.ok reply)
  | failed (hid : db.withId investigationId ≠ [])
      (hrefused : ¬ Auditable lib request.toolName (.obj request.arguments) (statementsRead log))
      (hnone : committedCalls log = []) :
      DebugOutcome lib db investigationId request log (.error .database)

section Debug

variable {lib : Libraries} {investigationId : Uuid} {s : Server}

/-- The reply that the endpoint makes of what the call came to. -/
def debugReply : Except PyException Json → Except PyException DebugReply
  | .ok v => .ok (.result v)
  | .error (.toolNotAllowed message) => .ok (.forbidden message)
  | .error (.validation details) => .ok (.unprocessable details)
  | .error e => .error e

/-- An attempt to record is shown by its record. -/
lemma Attempt.shows {toolName : String} {raw arguments result : Json}
    {observed : List Observation} {reply : Except PyException Json}
    (attempt : Attempt lib toolName raw observed arguments result reply) :
    ∃ shown, debugReply reply = .ok shown ∧ Shows toolName result shown := by
  cases attempt with
  | unknownTool hname => exact ⟨_, rfl, .forbidden⟩
  | rejectedArguments hname hraw => exact ⟨_, rfl, .unprocessable _⟩
  | answered hname hcall hrange hanswer => exact ⟨_, rfl, .result hanswer.no_error⟩

/-- **A call**: the reply and its record, or neither. -/
lemma CallOutcome.debugOutcome (hdict : lib.KeepsDicts) {request : AgentToolExecutionRequest}
    (hid : s.db.withId investigationId ≠ []) {reply : Except PyException Json} {l' : Session}
    {s' : Server} (h : CallOutcome lib request.toolName (.obj request.arguments) investigationId {}
      s reply l' s') :
    DebugOutcome lib s.db investigationId request l'.log (debugReply reply) := by
  cases h with
  | @recorded observed arguments result _ s₁ record attempt hs hread hrecord fits =>
      have hid₁ : s₁.db.withId record.investigationId ≠ [] := by
        rw [hrecord]
        exact hs.investigations _ hid
      obtain ⟨hstatements, hcommitted⟩ := attempt.committedCalls_append s₁.db record
      rw [if_pos ⟨fits, hid₁⟩] at hcommitted
      have hauditable := (attempt.fits_iff s₁.clock.1).mp (hrecord ▸ fits)
      have hreadable := (attempt.readable_iff hdict).mpr fun _ => ⟨request.arguments, rfl⟩
      obtain ⟨shown, hshown, hshows⟩ := attempt.shows
      rw [hshown]
      refine .recorded hid (hstatements.symm ▸ hauditable) hcommitted ?_
      subst hrecord
      exact ⟨rfl, rfl, hshows, (validate_isSome_iff _).mpr hreadable⟩
  | @refused observed _ _ _ _ record attempt hs hrecord unfit =>
      obtain ⟨hstatements, hcommitted⟩ := attempt.committedCalls_append s'.db record
      rw [if_neg (by simp [unfit])] at hcommitted
      refine .failed hid (fun hauditable => ?_) hcommitted
      rw [Session.failing_log, Session.observing_log, List.nil_append, hstatements,
        ← attempt.fits_iff s'.clock.1, ← hrecord, unfit] at hauditable
      cases hauditable
  | queryFailed hname hcall hrange hs =>
      refine .failed hid ?_ rfl
      simp [Auditable, hname, hcall, hrange]

/-- **The request.** -/
lemma debugExecuteAgentTool_spec (hlib : lib.EncodesJson) (hdict : lib.KeepsDicts)
    (request : AgentToolExecutionRequest) :
    (debugExecuteAgentTool lib investigationId (decide (s.db.withId investigationId ≠ []))
      request).wp (fun r l' _ => DebugOutcome lib s.db investigationId request l'.log r) {} s := by
  by_cases hid : s.db.withId investigationId = []
  · rw [debugExecuteAgentTool, decide_eq_false (not_not.mpr hid)]
    exact .notFound hid rfl
  · rw [debugExecuteAgentTool, decide_eq_true hid, if_pos rfl]
    refine Handler.wp_tryCatch.mpr (Handler.wp_bind.mpr
      (Handler.wp_mono (executeAgentTool_spec hlib ⟨rfl, rfl, rfl⟩ hid) ?_))
    intro reply l' s' h
    have houtcome := h.debugOutcome hdict hid
    cases reply with
    | ok v => exact houtcome
    | error e => cases e <;> exact houtcome

end Debug

/-- **Every reply of the debug endpoint is on record.**  Whatever other requests do, and in every
later state, a reply about a stored investigation stands in its trail, in one record that shows the
reply and that the reader of the trail takes; an internal error means that the call could not be
recorded, and leaves nothing behind. -/
theorem debug_recorded {lib : Libraries} {u : Unicode} (hlib : lib.EncodesJson)
    (hdict : lib.KeepsDicts) {s₀ : Server} {x x' : Pool backendInterface Session Server}
    (hx : SteadyReaches lib u ⟨[], s₀⟩ x) {investigationId : Uuid}
    {request : AgentToolExecutionRequest} {r : Except PyException DebugReply} {l' : Session}
    (h : BesideReaches lib u (.ofMachine backend) (debugExecuteAgentTool lib investigationId
      (decide (x.shared.db.withId investigationId ≠ [])) request) x r l' x') :
    DebugOutcome lib x.shared.db investigationId request l'.log r
      ∧ (committedCalls l'.log).Sublist (x'.shared.db.trail investigationId) := by
  have hrequest : Request lib u x.shared _ (debugExecuteAgentTool lib investigationId
      (decide (x.shared.db.withId investigationId ≠ [])) request) :=
    .debugExecuteAgentTool investigationId request
  obtain ⟨s', houtcome, -⟩ :=
    hrequest.ends hx (debugExecuteAgentTool_spec hlib hdict request) h
  refine ⟨houtcome, (recordedInOrder_beside h).trail fun record hrecord => ?_⟩
  cases houtcome with
  | notFound hid hnone =>
      rw [hnone] at hrecord
      cases hrecord
  | recorded hid hauditable hcommitted hshown =>
      rw [hcommitted, List.mem_singleton] at hrecord
      rw [hrecord]
      exact hshown.own
  | failed hid hrefused hnone =>
      rw [hnone] at hrecord
      cases hrecord

/-- A request for a tool that is not registered. -/
def AgentToolExecutionRequest.shell : AgentToolExecutionRequest := ⟨⟨"run_shell", by decide⟩, []⟩

/-- Its handler. -/
def shellHandler : Handler DebugReply :=
  debugExecuteAgentTool .strict 7 (decide ((Server.investigating 7).db.withId 7 ≠ [])) .shell

/-- It is forbidden, on record. -/
theorem debug_recorded_shell :
    DebugOutcome .strict (Server.investigating 7).db 7 .shell
        (shellHandler.run {} (.investigating 7)).2.1.log (shellHandler.run {} (.investigating 7)).1
      ∧ (committedCalls (shellHandler.run {} (.investigating 7)).2.1.log).Sublist
        ((shellHandler.run {} (.investigating 7)).2.2.db.trail 7) := by
  have hrun : BesideReaches .strict .ascii (.ofMachine backend) shellHandler
      ⟨[], .investigating 7⟩ (shellHandler.run {} (.investigating 7)).1
      (shellHandler.run {} (.investigating 7)).2.1
      ⟨[], (shellHandler.run {} (.investigating 7)).2.2⟩ :=
    Beside.reaches_run (fun _ _ _ => rfl) _ _ _ _
  have hx : SteadyReaches .strict .ascii ⟨[], .investigating 7⟩ ⟨[], .investigating 7⟩ := .refl
  exact debug_recorded Libraries.strict_encodesJson Libraries.strict_keepsDicts hx hrun

end TracePilot
