import TracePilot.Library.Outbox
import TracePilot.Library.Table
import TracePilot.Collector.Acceptance

/-!
# Sending the queue

`send_one_batch` posts the first 500 queued events and removes them on a 201; on any other status
and on the errors it handles it returns `False` and keeps the queue, and what it does not handle
goes up to its caller.  `flush_pending_events` calls it until the queue is empty or a call returns
`False`.

* **`flush_run`** — a flush is a run of an outbox.
* **`delivers_leading_batches`** — what a flush achieves against an API that refuses invalid
  batches: it delivers the batches in front of the first one that holds a refused event, and from
  there on nothing, flush after flush.
-/

namespace TracePilot

/-- What leaves `urlopen`, or the reading of an error's body, as an exception. -/
inductive UrlopenError
  | httpError (code : ℕ)
  | urlError
  | timeoutError
  | keyboardInterrupt
  | other
  deriving DecidableEq

/-- The status of the response, or what was raised instead. -/
abbrev Reply := Except UrlopenError ℕ

/-- `pending_events[:500]`. -/
def nextBatch (pendingEvents : List ApiEvent) : List ApiEvent := pendingEvents.take 500

/-- `send_one_batch`, given the reply to its request. -/
def sendOneBatch (reply : Reply) (pendingEvents : List ApiEvent) :
    Except UrlopenError Bool × List ApiEvent :=
  if pendingEvents = [] then (.ok true, pendingEvents)
  else
    let batch := nextBatch pendingEvents
    match reply with
    | .ok status =>
        if status ≠ 201 then (.ok false, pendingEvents)
        else (.ok true, pendingEvents.drop batch.length)
    | .error (.httpError _) => (.ok false, pendingEvents)
    | .error .urlError => (.ok false, pendingEvents)
    | .error .timeoutError => (.ok false, pendingEvents)
    | .error e => (.error e, pendingEvents)

variable {reply : Reply} {pendingEvents : List ApiEvent}

lemma drop_length_nextBatch (pendingEvents : List ApiEvent) :
    pendingEvents.drop (nextBatch pendingEvents).length = pendingEvents.drop 500 := by
  rw [nextBatch, List.length_take]
  rcases Nat.le_total 500 pendingEvents.length with hle | hle
  · rw [Nat.min_eq_left hle]
  · rw [Nat.min_eq_right hle, List.drop_length, List.drop_eq_nil_of_le hle]

/-- Only a 201 changes the queue, and only it makes `send_one_batch` return `True`. -/
lemma sendOneBatch_cases (reply : Reply) (hne : pendingEvents ≠ []) :
    (reply = .ok 201 ∧ sendOneBatch reply pendingEvents = (.ok true, pendingEvents.drop 500))
    ∨ (reply ≠ .ok 201 ∧ ∃ result, result ≠ .ok true
        ∧ sendOneBatch reply pendingEvents = (result, pendingEvents)) := by
  have hdrop := drop_length_nextBatch pendingEvents
  cases reply with
  | ok status =>
      by_cases hstatus : status = 201
      · exact .inl ⟨by rw [hstatus], by simp [sendOneBatch, hne, hstatus, hdrop]⟩
      · exact .inr ⟨by simpa using hstatus, .ok false, by simp, by
          simp [sendOneBatch, hne, hstatus]⟩
  | error e =>
      refine .inr ⟨by simp, ?_⟩
      cases e with
      | httpError code => exact ⟨.ok false, by simp, by simp [sendOneBatch, hne]⟩
      | urlError => exact ⟨.ok false, by simp, by simp [sendOneBatch, hne]⟩
      | timeoutError => exact ⟨.ok false, by simp, by simp [sendOneBatch, hne]⟩
      | keyboardInterrupt =>
          exact ⟨.error .keyboardInterrupt, by simp, by simp [sendOneBatch, hne]⟩
      | other => exact ⟨.error .other, by simp, by simp [sendOneBatch, hne]⟩

/-- A call that returns `True` on a queue with events shortens it. -/
lemma length_of_sendOneBatch {rest : List ApiEvent} (hne : pendingEvents ≠ [])
    (h : sendOneBatch reply pendingEvents = (.ok true, rest)) :
    rest.length < pendingEvents.length := by
  have hpos := List.length_pos_iff.mpr hne
  rcases sendOneBatch_cases reply hne with ⟨-, hsend⟩ | ⟨-, result, hresult, hsend⟩
  · rw [hsend, Prod.mk.injEq] at h
    rw [← h.2, List.length_drop]
    omega
  · rw [hsend, Prod.mk.injEq] at h
    exact absurd h.1 hresult

/-- How a call of `flush_pending_events` ended, the batches it had acknowledged, and the queue it
left. -/
structure FlushResult where
  result : Except UrlopenError Unit
  acknowledged : List (List ApiEvent)
  pendingEvents : List ApiEvent
  deriving DecidableEq

/-- `flush_pending_events`, given the reply to each post. -/
def flushPendingEvents (urlopen : ℕ → List ApiEvent → Reply) (sent : ℕ)
    (pendingEvents : List ApiEvent) : FlushResult :=
  if _hne : pendingEvents = [] then ⟨.ok (), [], pendingEvents⟩
  else
    match hsend : sendOneBatch (urlopen sent (nextBatch pendingEvents)) pendingEvents with
    | (.ok true, rest) =>
        let flush := flushPendingEvents urlopen (sent + 1) rest
        { flush with acknowledged := nextBatch pendingEvents :: flush.acknowledged }
    | (.ok false, rest) => ⟨.ok (), [], rest⟩
    | (.error e, rest) => ⟨.error e, [], rest⟩
  termination_by pendingEvents.length
  decreasing_by exact length_of_sendOneBatch _hne hsend

variable (urlopen : ℕ → List ApiEvent → Reply) (sent : ℕ)

lemma flush_nil :
    flushPendingEvents urlopen sent [] = ⟨.ok (), [], []⟩ := by
  rw [flushPendingEvents]
  simp

/-- One round of the loop: a 201 goes on with the rest, everything else ends the call with the
queue it had. -/
lemma flush_cases (hne : pendingEvents ≠ []) :
    (urlopen sent (nextBatch pendingEvents) = .ok 201
      ∧ flushPendingEvents urlopen sent pendingEvents
        = ⟨(flushPendingEvents urlopen (sent + 1) (pendingEvents.drop 500)).result,
          nextBatch pendingEvents
            :: (flushPendingEvents urlopen (sent + 1) (pendingEvents.drop 500)).acknowledged,
          (flushPendingEvents urlopen (sent + 1) (pendingEvents.drop 500)).pendingEvents⟩)
    ∨ (urlopen sent (nextBatch pendingEvents) ≠ .ok 201
      ∧ ∃ result, result ≠ .ok true
        ∧ sendOneBatch (urlopen sent (nextBatch pendingEvents)) pendingEvents
          = (result, pendingEvents)
        ∧ flushPendingEvents urlopen sent pendingEvents
          = ⟨result.map fun _ => (), [], pendingEvents⟩) := by
  have hcases := sendOneBatch_cases (urlopen sent (nextBatch pendingEvents)) hne
  rw [flushPendingEvents, dif_neg hne]
  rcases hcases with ⟨hreply, hsend⟩ | ⟨hreply, result, hresult, hsend⟩
  · refine .inl ⟨hreply, ?_⟩
    split
    case h_1 rest h =>
      obtain rfl : rest = pendingEvents.drop 500 := congrArg Prod.snd (h.symm.trans hsend)
      rfl
    case h_2 rest h => simp [hsend] at h
    case h_3 e rest h => simp [hsend] at h
  · refine .inr ⟨hreply, result, hresult, hsend, ?_⟩
    split
    case h_1 rest h => exact absurd (congrArg Prod.fst (hsend.symm.trans h)) hresult
    case h_2 rest h =>
      obtain ⟨rfl, rfl⟩ := Prod.mk.inj (hsend.symm.trans h)
      rfl
    case h_3 e rest h =>
      obtain ⟨rfl, rfl⟩ := Prod.mk.inj (hsend.symm.trans h)
      rfl

/-- A refused batch ends the call, which returns. -/
lemma flush_of_httpError (hne : pendingEvents ≠ []) {code : ℕ}
    (hreply : urlopen sent (nextBatch pendingEvents) = .error (.httpError code)) :
    flushPendingEvents urlopen sent pendingEvents = ⟨.ok (), [], pendingEvents⟩ := by
  rcases flush_cases urlopen sent hne with ⟨hcreated, -⟩ | ⟨-, result, -, hsend, hflush⟩
  · rw [hreply] at hcreated
    cases hcreated
  · rw [hreply] at hsend
    obtain rfl : .ok false = result := by simpa [sendOneBatch, hne] using congrArg Prod.fst hsend
    exact hflush

/-! ## A flush is a run of an outbox -/

open Outbox (Run batches)

/-- **A flush is a run of an outbox** without captures. -/
theorem flush_run (pendingEvents : List ApiEvent) :
    ∃ history,
      Run 500 pendingEvents history (flushPendingEvents urlopen sent pendingEvents).pendingEvents
      ∧ Outbox.captured history = []
      ∧ Outbox.acknowledged history
        = (flushPendingEvents urlopen sent pendingEvents).acknowledged := by
  induction hlength : pendingEvents.length using Nat.strong_induction_on
    generalizing sent pendingEvents with
  | _ n ih =>
      by_cases hne : pendingEvents = []
      · rw [hne, flush_nil]
        exact ⟨[], .nil [], rfl, rfl⟩
      · rcases flush_cases urlopen sent hne with ⟨-, hflush⟩ | ⟨-, result, -, -, hflush⟩
        · have hpos := List.length_pos_iff.mpr hne
          obtain ⟨history, hrun, hcaptured, hacknowledged⟩ :=
            ih _ (by rw [← hlength, List.length_drop]; omega) (sent + 1)
              (pendingEvents.drop 500) rfl
          rw [hflush]
          refine ⟨.posted (nextBatch pendingEvents) :: .acknowledged (nextBatch pendingEvents)
            :: history, .cons (.post hne) (.cons (.acknowledge hne) hrun), hcaptured, ?_⟩
          exact congrArg _ hacknowledged
        · rw [hflush]
          exact ⟨[.posted (nextBatch pendingEvents)], .single (.post hne), rfl, rfl⟩

/-- A flush of `n` events is acknowledged at most `⌈n / 500⌉` times, and what it was acknowledged
is what it took from the queue. -/
lemma flush_spec (pendingEvents : List ApiEvent) :
    (flushPendingEvents urlopen sent pendingEvents).acknowledged.length
        ≤ batches 500 pendingEvents.length
      ∧ (flushPendingEvents urlopen sent pendingEvents).acknowledged.flatten
          ++ (flushPendingEvents urlopen sent pendingEvents).pendingEvents = pendingEvents := by
  obtain ⟨history, hrun, hcaptured, hacknowledged⟩ := flush_run urlopen sent pendingEvents
  have hcount := hrun.length_acknowledged_le (by norm_num) hcaptured
  have hconservation := hrun.conservation
  rw [hcaptured, List.append_nil] at hconservation
  rw [hacknowledged] at hcount hconservation
  exact ⟨by omega, hconservation⟩

/-! ## Flushing to an API that refuses invalid batches

The API validates a batch as a whole, so one refused event refuses up to 499 others with it; and
since the collector keeps a refused batch in front of its queue, the next flush posts it again.
-/

/-- An API that is up and does nothing but validate. -/
def apiReply (py : Pydantic) (batch : List ApiEvent) : Reply :=
  if (ConnectionEventBatch.validate py (batch.map ApiEvent.json)).isSome then .ok 201
  else .error (.httpError 422)

/-- The event satisfies the API's schema. -/
def SchemaValid (py : Pydantic) (e : ApiEvent) : Prop :=
  (ConnectionEventCreate.validate py e.json).isSome

instance (py : Pydantic) (e : ApiEvent) : Decidable (SchemaValid py e) := by
  unfold SchemaValid
  infer_instance

variable (py : Pydantic)

lemma isSome_validate_iff (batch : List ApiEvent) :
    (ConnectionEventBatch.validate py (batch.map ApiEvent.json)).isSome
      ↔ (1 ≤ batch.length ∧ batch.length ≤ 500) ∧ ∀ e ∈ batch, SchemaValid py e := by
  have hmapM : ((batch.map ApiEvent.json).mapM (ConnectionEventCreate.validate py)).isSome
      ↔ ∀ e ∈ batch, SchemaValid py e := by
    rw [Table.mapM_isSome_iff, List.forall_mem_map]
    rfl
  simp only [ConnectionEventBatch.validate, List.length_map, batchMinLength, batchMaxLength]
  by_cases hlength : 1 ≤ batch.length ∧ batch.length ≤ 500
  · rw [if_pos hlength, hmapM]
    simp [hlength]
  · rw [if_neg hlength]
    simp [hlength]

/-- The API takes the next batch exactly when every event in it is valid. -/
lemma apiReply_nextBatch (hne : pendingEvents ≠ []) :
    ((∀ e ∈ nextBatch pendingEvents, SchemaValid py e)
        ∧ apiReply py (nextBatch pendingEvents) = .ok 201)
      ∨ ((∃ e ∈ nextBatch pendingEvents, ¬ SchemaValid py e)
        ∧ apiReply py (nextBatch pendingEvents) = .error (.httpError 422)) := by
  have hlength : 1 ≤ (nextBatch pendingEvents).length ∧ (nextBatch pendingEvents).length ≤ 500 := by
    have hpos := List.length_pos_iff.mpr hne
    rw [nextBatch, List.length_take]
    omega
  unfold apiReply
  by_cases hvalid : ∀ e ∈ nextBatch pendingEvents, SchemaValid py e
  · exact .inl ⟨hvalid, if_pos ((isSome_validate_iff py _).mpr ⟨hlength, hvalid⟩)⟩
  · refine .inr ⟨by simpa using hvalid, if_neg fun h => hvalid ((isSome_validate_iff py _).mp h).2⟩

/-- What a flush does against such an API, one batch at a time. -/
lemma flush_apiReply (sent : ℕ) (pendingEvents : List ApiEvent) :
    ∃ n, (flushPendingEvents (fun _ => apiReply py) sent pendingEvents).result = .ok ()
      ∧ (flushPendingEvents (fun _ => apiReply py) sent pendingEvents).pendingEvents
        = pendingEvents.drop (500 * n)
      ∧ (∀ e ∈ pendingEvents.take (500 * n), SchemaValid py e)
      ∧ (pendingEvents.drop (500 * n) = []
        ∨ ∃ e ∈ nextBatch (pendingEvents.drop (500 * n)), ¬ SchemaValid py e) := by
  induction hlength : pendingEvents.length using Nat.strong_induction_on
    generalizing sent pendingEvents with
  | _ m ih =>
      by_cases hne : pendingEvents = []
      · subst hne
        exact ⟨0, by rw [flush_nil], by rw [flush_nil]; rfl, by simp, .inl rfl⟩
      · have hpos := List.length_pos_iff.mpr hne
        rcases apiReply_nextBatch py hne with ⟨hvalid, hreply⟩ | ⟨hinvalid, hreply⟩
        · rcases flush_cases (fun _ => apiReply py) sent hne with ⟨-, hflush⟩ | ⟨hnot, -⟩
          · obtain ⟨n, hresult, hrest, hdelivered, hend⟩ :=
              ih _ (by rw [← hlength, List.length_drop]; omega) (sent + 1)
                (pendingEvents.drop 500) rfl
            have hstep : 500 * (n + 1) = 500 + 500 * n := by ring
            refine ⟨n + 1, ?_, ?_, ?_, ?_⟩
            · rw [hflush]
              exact hresult
            · rw [hflush, hstep, ← List.drop_drop]
              exact hrest
            · rw [hstep, List.take_add]
              intro e he
              rcases List.mem_append.mp he with he | he
              · exact hvalid e he
              · exact hdelivered e he
            · rw [hstep, ← List.drop_drop]
              exact hend
          · exact absurd hreply hnot
        · rw [flush_of_httpError (fun _ => apiReply py) sent hne hreply]
          exact ⟨0, rfl, rfl, by simp, .inr hinvalid⟩

/-- **What a flush delivers**: the batches of 500 in front of the first one that holds a refused
event.  That batch and everything behind it stays in the queue, also in every later flush and
whatever is captured in between. -/
theorem delivers_leading_batches (pendingEvents : List ApiEvent) :
    let flush := flushPendingEvents (fun _ => apiReply py) 0 pendingEvents
    flush.result = .ok ()
      ∧ ∃ n, flush.acknowledged.flatten = pendingEvents.take (500 * n)
        ∧ flush.pendingEvents = pendingEvents.drop (500 * n)
        ∧ (∀ e ∈ pendingEvents.take (500 * n), SchemaValid py e)
        ∧ (flush.pendingEvents = []
          ∨ (∃ e ∈ nextBatch flush.pendingEvents, ¬ SchemaValid py e)
            ∧ ∀ sent more,
              flushPendingEvents (fun _ => apiReply py) sent (flush.pendingEvents ++ more)
                = ⟨.ok (), [], flush.pendingEvents ++ more⟩) := by
  intro flush
  obtain ⟨n, hresult, hrest, hvalid, hend⟩ := flush_apiReply py 0 pendingEvents
  obtain ⟨-, hconservation⟩ := flush_spec (fun _ => apiReply py) 0 pendingEvents
  have hdelivered : flush.acknowledged.flatten = pendingEvents.take (500 * n) := by
    rw [hrest] at hconservation
    exact List.append_cancel_right
      (hconservation.trans (List.take_append_drop (500 * n) pendingEvents).symm)
  refine ⟨hresult, n, hdelivered, hrest, hvalid, ?_⟩
  rw [show flush.pendingEvents = pendingEvents.drop (500 * n) from hrest]
  rcases hend with hnil | ⟨e, he, hinvalid⟩
  · exact .inl hnil
  · refine .inr ⟨⟨e, he, hinvalid⟩, fun sent more => ?_⟩
    have hmem : e ∈ nextBatch (pendingEvents.drop (500 * n) ++ more) := by
      rw [nextBatch, List.take_append]
      exact List.mem_append_left _ he
    have hne : pendingEvents.drop (500 * n) ++ more ≠ [] := fun hnil => by
      rw [hnil] at hmem
      cases hmem
    rcases apiReply_nextBatch py hne with ⟨hall, -⟩ | ⟨-, hreply⟩
    · exact absurd (hall e hmem) hinvalid
    · exact flush_of_httpError (fun _ => apiReply py) sent hne hreply

/-- `curl`'s event behind one without a process name, at the instant of the sample clock. -/
def headOfLine : List ApiEvent := [
  { KernelEvent.curl.apiEvent (.utc 1700000005000000) with processName := "" },
  KernelEvent.curl.apiEvent (.utc 1700000005000000)]

theorem not_delivered_behind_invalid :
    ∃ e ∈ headOfLine, SchemaValid .curl e
      ∧ e ∉ (flushPendingEvents (fun _ => apiReply .curl) 0 headOfLine).acknowledged.flatten := by
  refine ⟨KernelEvent.curl.apiEvent (.utc 1700000005000000), by simp [headOfLine],
    by decide +kernel, ?_⟩
  have hreply : apiReply .curl (nextBatch headOfLine) = .error (.httpError 422) := by decide
  rw [flush_of_httpError (fun _ => apiReply .curl) 0 (by simp [headOfLine]) hreply]
  simp

end TracePilot
