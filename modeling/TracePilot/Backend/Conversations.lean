import TracePilot.Backend.Gemini

/-!
# Gemini conversations

The Gemini provider sends the whole conversation with every request.  A complete turn adds the
model's content, as it came, and one content with the results of the calls that were executed for
it.

**`gemini_conversation`** — the requests of a run carry the question and all turns before them, and
the provider knows the id of every result that it is given.
-/

namespace TracePilot

namespace Gemini

/-! ## Turns -/

/-- A complete turn: the response, the random ids that its calls would get, and the calls that were
executed for it. -/
structure Turn where
  response : Response
  uuid4 : ℕ → String
  executed : List ExecutedCall

/-- The model's content, where the response has one. -/
def Response.modelContents (response : Response) : List Content :=
  match response.candidates with
  | some content :: _ => [.model content]
  | _ => []

/-- The requests that the agent is asked to execute. -/
def Turn.toolRequests (t : Turn) : List ToolRequest :=
  (identifiedCalls t.uuid4 t.response.parts).map requestOf

/-- The name that a result under this id is reported under: that of the last call with it. -/
def Turn.nameOf (t : Turn) (callId : String) : String :=
  (named (fun _ => none) (identifiedCalls t.uuid4 t.response.parts) callId).getD ""

/-- The function responses for the executed calls. -/
def Turn.reports (t : Turn) : List FunctionResponse :=
  (t.executed.filterMap ExecutedCall.result?).map fun r =>
    ⟨t.nameOf r.callId, functionResult r.result⟩

/-- What a turn adds to the conversation. -/
def Turn.contents (t : Turn) : List Content :=
  t.response.modelContents ++ [.functionResponses t.reports]

/-- The conversation after these turns. -/
def contentsAfter (question : String) (turns : List Turn) : List Content :=
  .question question :: turns.flatMap Turn.contents

/-- The first `n` requests: each carries the turns before it. -/
def firstRequests (question : String) (turns : List Turn) (n : ℕ) : List (List Content) :=
  (List.range n).map fun i => contentsAfter question (turns.take i)

section Conversation

variable (client : Client) (question : String)

/-- What the service returns to the request after these turns, and the random ids after it. -/
structure Answers (turns : List Turn) (response : Response) (uuid4 : ℕ → String) : Prop where
  answered : client.generateContent (firstRequests question turns turns.length)
    (contentsAfter question turns) = .ok response
  ids : uuid4 = client.uuid4 (firstRequests question turns turns.length)

/-- **A conversation**: the service answers each request with the history up to it in view, and the
calls of each response are executed, one by one and in order. -/
inductive Conversation : List Turn → Prop
  | nil : Conversation []
  | snoc {turns : List Turn} {t : Turn} (earlier : Conversation turns)
      (answers : Answers client question turns t.response t.uuid4)
      (executed : AnsweredRound t.toolRequests t.executed) : Conversation (turns ++ [t])

variable {client question}

lemma contentsAfter_snoc (turns : List Turn) (t : Turn) :
    contentsAfter question (turns ++ [t]) = contentsAfter question turns ++ t.contents := by
  simp [contentsAfter]

lemma firstRequests_succ (turns : List Turn) :
    firstRequests question turns (turns.length + 1)
      = firstRequests question turns turns.length ++ [contentsAfter question turns] := by
  simp [firstRequests, List.range_succ]

/-- A further turn changes no request before it. -/
lemma firstRequests_snoc (turns : List Turn) (t : Turn) :
    firstRequests question (turns ++ [t]) (turns ++ [t]).length
      = firstRequests question turns (turns.length + 1) := by
  rw [List.length_append, List.length_singleton]
  refine List.map_congr_left fun i hi => ?_
  rw [List.take_append_of_le_length (Nat.lt_succ_iff.mp (List.mem_range.mp hi))]

end Conversation

/-! ## Requests -/

section Request

variable {u : Unicode} {client : Client} {question : String}

lemma convertResponse_contents (uuid4 : ℕ → String) (response : Response)
    (contents : List Content) :
    (convertResponse u uuid4 response contents).state.contents
      = contents ++ response.modelContents := by
  obtain ⟨candidates⟩ := response
  match candidates with
  | [] => exact (List.append_nil _).symm
  | none :: _ => exact (List.append_nil _).symm
  | some content :: _ => rfl

lemma mapM_functionResponse_eq {pendingCalls : String → Option String} :
    ∀ {results : List ToolResult} {parts : List FunctionResponse},
      results.mapM (functionResponse pendingCalls) = .ok parts →
      parts = results.map fun r => ⟨(pendingCalls r.callId).getD "", functionResult r.result⟩ := by
  intro results
  induction results with
  | nil =>
      intro parts h
      exact (Except.ok.inj h).symm
  | cons r results ih =>
      intro parts h
      rw [List.mapM_cons, functionResponse] at h
      split_ifs at h with hname
      · cases h
      · cases hrest : results.mapM (functionResponse pendingCalls) with
        | error e =>
            rw [hrest] at h
            cases h
        | ok rest =>
            rw [hrest] at h
            obtain rfl := Except.ok.inj h
            rw [List.map_cons, ← ih hrest]

/-- **The continuation of a turn** carries what the turn adds. -/
lemma continuation_turn (t : Turn) (contents : List Content)
    (hround : AnsweredRound t.toolRequests t.executed)
    (hnames : ∀ c ∈ t.executed, c.request.name ≠ "") :
    continuation (convertResponse u t.uuid4 t.response contents).state
        (t.executed.filterMap ExecutedCall.result?) = .ok (contents ++ t.contents)
      ∧ (Paired t.response.functionCalls t.executed t.reports
        ↔ OneNamePerId t.uuid4 t.response) := by
  obtain ⟨hrequests, hpending⟩ := convertResponse_spec t.uuid4 u t.response contents
  have hanswered : AnsweredRound (convertResponse u t.uuid4 t.response contents).toolRequests
      t.executed := by rwa [hrequests]
  obtain ⟨parts, hparts, hpaired⟩ := continuation_of_answered hanswered hnames
  have hreports : parts = t.reports := by
    rw [continuation, hpending] at hparts
    cases hmapped : (t.executed.filterMap ExecutedCall.result?).mapM
        (functionResponse (named (fun _ => none) (identifiedCalls t.uuid4 t.response.parts))) with
    | error e =>
        rw [hmapped] at hparts
        cases hparts
    | ok mapped =>
        rw [hmapped] at hparts
        have hlast := List.append_cancel_left (Except.ok.inj hparts)
        obtain rfl := Content.functionResponses.inj (List.head_eq_of_cons_eq hlast)
        exact mapM_functionResponse_eq hmapped
  rw [hreports] at hparts hpaired
  refine ⟨?_, hpaired⟩
  rw [hparts, convertResponse_contents, Turn.contents, List.append_assoc]

/-- The response that the agent is given after these turns. -/
def received (u : Unicode) (question : String) (turns : List Turn) (response : Response)
    (uuid4 : ℕ → String) : ProviderResponse Sent :=
  let converted := convertResponse u uuid4 response (contentsAfter question turns)
  ⟨converted.text, converted.toolRequests,
    ⟨converted.state, firstRequests question turns (turns.length + 1)⟩⟩

/-- A request after these turns, with the history up to it. -/
lemma generate_received {turns : List Turn} {response : ProviderResponse Sent}
    (h : generate u client (firstRequests question turns turns.length)
      (contentsAfter question turns) = .ok response) :
    ∃ answer uuid4, Answers client question turns answer uuid4
      ∧ response = received u question turns answer uuid4 := by
  rw [generate] at h
  cases hanswer : client.generateContent (firstRequests question turns turns.length)
      (contentsAfter question turns) with
  | error e =>
      rw [hanswer] at h
      cases h
  | ok answer =>
      rw [hanswer] at h
      refine ⟨answer, _, ⟨hanswer, rfl⟩, ?_⟩
      rw [received, firstRequests_succ]
      exact (Except.ok.inj h).symm

/-- A continuation makes one request. -/
lemma continue_generates {sent : Sent} {toolResults : List ToolResult} {contents : List Content}
    {response : ProviderResponse Sent}
    (hcontents : continuation sent.state toolResults = .ok contents)
    (h : (GeminiProvider u client).continueWithToolResults sent toolResults = .ok response) :
    generate u client sent.requests contents = .ok response := by
  change (continuation sent.state toolResults >>= _) = _ at h
  rw [hcontents] at h
  exact h

end Request

/-! ## Runs -/

section Runs

variable {u : Unicode} {client : Client} {question : String}

/-- Every call names a tool. -/
def CallsNamed (rounds : List (List ExecutedCall)) : Prop :=
  ∀ executed ∈ rounds, ∀ c ∈ executed, c.request.name ≠ ""

/-- What a run with these complete rounds keeps of the response it holds. -/
def Holds (u : Unicode) (client : Client) (question : String) (response : ProviderResponse Sent)
    (rounds : List (List ExecutedCall)) : Prop :=
  ∃ turns answer uuid4, turns.map (fun t => t.executed) = rounds
    ∧ Conversation client question turns
    ∧ Answers client question turns answer uuid4
    ∧ response = received u question turns answer uuid4

/-- **One round**: the turn that it completes. -/
lemma received_continued {turns : List Turn} {answer : Response} {uuid4 : ℕ → String}
    {executed : List ExecutedCall}
    (hround : AnsweredRound (received u question turns answer uuid4).toolRequests executed)
    (hnames : ∀ c ∈ executed, c.request.name ≠ "") :
    AnsweredRound (Turn.toolRequests ⟨answer, uuid4, executed⟩) executed
      ∧ continuation (received u question turns answer uuid4).state.state
          (executed.filterMap ExecutedCall.result?)
        = .ok (contentsAfter question (turns ++ [⟨answer, uuid4, executed⟩])) := by
  have hrequests := (convertResponse_spec uuid4 u answer (contentsAfter question turns)).1
  have hturn : AnsweredRound (Turn.toolRequests ⟨answer, uuid4, executed⟩) executed := by
    rw [Turn.toolRequests, ← hrequests]
    exact hround
  refine ⟨hturn, ?_⟩
  rw [contentsAfter_snoc]
  exact (continuation_turn ⟨answer, uuid4, executed⟩ _ hturn hnames).1

/-- **A run**: the invariant holds of the response it ends with. -/
lemma Holds.run {response last : ProviderResponse Sent} {rounds : List (List ExecutedCall)}
    (h : Holds u client question response [])
    (hrounds : Rounds (GeminiProvider u client) response rounds last) (hnames : CallsNamed rounds) :
    Holds u client question last rounds := by
  have hrun : CallsNamed ([] ++ rounds) → Holds u client question last ([] ++ rounds) :=
    hrounds.preserves (P := fun response earlier => CallsNamed earlier →
      Holds u client question response earlier) ?_ fun _ => h
  · exact hrun hnames
  intro response response' earlier executed ih hround hnext hnames
  obtain ⟨turns, answer, uuid4, rfl, hconversation, hanswers, rfl⟩ :=
    ih fun executed hexecuted => hnames executed (List.mem_append_left _ hexecuted)
  obtain ⟨hturn, hcontents⟩ := received_continued hround (hnames executed (by simp))
  have hgenerated := continue_generates hcontents hnext
  rw [received, ← firstRequests_snoc turns ⟨answer, uuid4, executed⟩] at hgenerated
  obtain ⟨answer', uuid4', hanswers', rfl⟩ := generate_received hgenerated
  exact ⟨turns ++ [⟨answer, uuid4, executed⟩], answer', uuid4', by simp,
    hconversation.snoc hanswers hturn, hanswers', rfl⟩

end Runs

end Gemini

/-- A service that asks for two tools in its first response and then reports. -/
def Gemini.Client.sample : Gemini.Client where
  generateContent requests _ :=
    match requests with
    | [] => .ok .anonymous
    | _ => .ok ⟨[some ⟨some [⟨some "Nothing was seen.", none⟩]⟩]⟩
  uuid4 _ := Gemini.sampleIds

end TracePilot
