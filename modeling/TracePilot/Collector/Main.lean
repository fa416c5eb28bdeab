import TracePilot.Collector.Flush

/-!
# The main loop of the collector

`main` polls the two perf rings, whose callbacks append to the queue, and flushes when 50 events
wait or the first second has passed since the last flush.  Ctrl+C ends the loop with one more
flush.  `step` is one move of that program: a callback, the end of a poll, the two halves of a
call of `send_one_batch`, the end of a flush, or an interrupt.  So every order of captures, polls,
replies and interrupts is a list of labels.

* **`step_run`** — every move is a run of an outbox.
* **`queue_conserved`** — in every state that a run reaches, the acknowledged batches followed by
  the queue are the events that passed the filters.
* **`run_flush`** — the moves from the head of a flush to its end are a call of
  `flush_pending_events`.
-/

namespace TracePilot

open Layout (Byte)
open Outbox (Run Event captured posted acknowledged batches)

/-- Who called `flush_pending_events`: the loop, at a time it remembers, or the handler of
Ctrl+C. -/
inductive FlushCaller
  | loop (currentTime : ℚ)
  | shutdown
  deriving DecidableEq

/-- Where the program stands. -/
inductive Control
  | polling
  | flushing (caller : FlushCaller)
  | sending (caller : FlushCaller)
  | stopped
  | crashed (e : UrlopenError)
  deriving DecidableEq

structure CollectorState where
  control : Control
  pendingEvents : List ApiEvent
  lastFlushTime : ℚ
  deriving DecidableEq

/-- What happens next. -/
inductive Label
  | ipv4Sample (rawEvent : List Byte)
  | ipv6Sample (rawEvent : List Byte)
  | pollReturned (currentTime : ℚ)
  | post
  | reply (reply : Reply)
  | flushed
  | interrupt

variable (cfg : CollectorConfig)

/-- A callback inside a poll.  What it raises is printed and dropped by its caller. -/
def dispatch (handler : List Byte → List ApiEvent → Except EventError (List ApiEvent))
    (rawEvent : List Byte) (pendingEvents : List ApiEvent) : List ApiEvent :=
  match handler rawEvent pendingEvents with
  | .ok pendingEvents => pendingEvents
  | .error _ => pendingEvents

/-- The events of a sample that pass the filters: one or none. -/
def passing (parse : List Byte → ℤ → Except EventError ApiEvent) (rawEvent : List Byte) :
    List ApiEvent :=
  match parse rawEvent cfg.wallClockOffsetNs with
  | .ok apiEvent => if passesFilters cfg apiEvent then [apiEvent] else []
  | .error _ => []

/-- The events that pass the filters in a move. -/
def Label.passing : Label → List ApiEvent
  | .ipv4Sample rawEvent => TracePilot.passing cfg (parseIpv4Event cfg.host) rawEvent
  | .ipv6Sample rawEvent => TracePilot.passing cfg (parseIpv6Event cfg.host) rawEvent
  | _ => []

/-- `BATCH_SIZE` and `FLUSH_INTERVAL_SECONDS`. -/
def batchSize : ℕ := 50
@[inherit_doc batchSize] def flushIntervalSeconds : ℚ := 1

namespace CollectorState

/-- `batch_is_full or flush_time_reached`. -/
def flushDue (s : CollectorState) (currentTime : ℚ) : Bool :=
  let batchIsFull := batchSize ≤ s.pendingEvents.length
  let flushTimeReached :=
    s.pendingEvents ≠ [] ∧ flushIntervalSeconds ≤ currentTime - s.lastFlushTime
  batchIsFull ∨ flushTimeReached

/-- The handler of Ctrl+C. -/
def stopping (s : CollectorState) : CollectorState :=
  { s with control := if s.pendingEvents = [] then .stopped else .flushing .shutdown }

/-- `flush_pending_events` returned to its caller. -/
def returned (s : CollectorState) : FlushCaller → CollectorState
  | .loop currentTime => { s with control := .polling, lastFlushTime := currentTime }
  | .shutdown => { s with control := .stopped }

/-- `flush_pending_events` raised.  Only an interrupt of the loop is handled. -/
def raised (s : CollectorState) : FlushCaller → UrlopenError → CollectorState
  | .loop _, .keyboardInterrupt => s.stopping
  | _, e => { s with control := .crashed e }

/-- `send_one_batch` returned or raised. -/
def sent (s : CollectorState) (caller : FlushCaller) :
    Except UrlopenError Bool × List ApiEvent → CollectorState
  | (.ok true, rest) => { s with control := .flushing caller, pendingEvents := rest }
  | (.ok false, rest) => returned { s with pendingEvents := rest } caller
  | (.error e, rest) => raised { s with pendingEvents := rest } caller e

/-- One move, and what an observer of the queue and the network sees of it. -/
def step (s : CollectorState) (label : Label) : Option (CollectorState × List (Event ApiEvent)) :=
  match s.control, label with
  | .polling, .ipv4Sample rawEvent =>
      some ({ s with pendingEvents := dispatch (handleEvent cfg) rawEvent s.pendingEvents },
        (label.passing cfg).map .captured)
  | .polling, .ipv6Sample rawEvent =>
      some ({ s with pendingEvents := dispatch (handleIpv6Event cfg) rawEvent s.pendingEvents },
        (label.passing cfg).map .captured)
  | .polling, .pollReturned currentTime =>
      some (if s.flushDue currentTime then { s with control := .flushing (.loop currentTime) }
        else s, [])
  | .polling, .interrupt => some (s.stopping, [])
  | .flushing caller, .post =>
      if s.pendingEvents = [] then none
      else some ({ s with control := .sending caller }, [.posted (nextBatch s.pendingEvents)])
  | .flushing caller, .flushed =>
      if s.pendingEvents = [] then some (s.returned caller, []) else none
  | .flushing caller, .interrupt => some (s.raised caller .keyboardInterrupt, [])
  | .sending caller, .reply reply =>
      some (s.sent caller (sendOneBatch reply s.pendingEvents),
        if reply = .ok 201 then [.acknowledged (nextBatch s.pendingEvents)] else [])
  | _, _ => none

/-- Any number of moves. -/
def run : CollectorState → List Label → Option (CollectorState × List (Event ApiEvent))
  | s, [] => some (s, [])
  | s, label :: labels => do
      let (s', history) ← s.step cfg label
      let (s'', history') ← run s' labels
      pure (s'', history ++ history')

/-- The program as it enters the loop. -/
def initial (time : ℚ) : CollectorState := ⟨.polling, [], time⟩

/-! ## One move

`step_cases` says once what a move can do to the queue; the invariants are read off it.
-/

variable {cfg}

/-- What a sample appends are the events in it that pass the filters. -/
lemma dispatch_appendEvent (parse : List Byte → ℤ → Except EventError ApiEvent)
    (rawEvent : List Byte) (pendingEvents : List ApiEvent) :
    dispatch (appendEvent cfg parse) rawEvent pendingEvents
      = pendingEvents ++ passing cfg parse rawEvent := by
  simp only [dispatch, appendEvent, passing]
  cases parse rawEvent cfg.wallClockOffsetNs with
  | error e => exact (List.append_nil _).symm
  | ok apiEvent =>
      change (if passesFilters cfg apiEvent then _ else _) = _
      by_cases hpass : passesFilters cfg apiEvent = true
      · simp only [hpass, if_true]
      · simp only [hpass, if_false, List.append_nil, Bool.false_eq_true]

/-- The program is inside `send_one_batch`. -/
def Sending (s : CollectorState) : Prop := ∃ caller, s.control = .sending caller

/-- It is there only with something to send. -/
def Ok (s : CollectorState) : Prop := s.Sending → s.pendingEvents ≠ []

variable {s s' : CollectorState} {label : Label} {history : List (Event ApiEvent)}

lemma stopping_spec (s : CollectorState) :
    s.stopping.pendingEvents = s.pendingEvents ∧ ¬ s.stopping.Sending := by
  refine ⟨rfl, ?_⟩
  rintro ⟨caller, h⟩
  simp only [stopping] at h
  split_ifs at h

lemma returned_spec (s : CollectorState) (caller : FlushCaller) :
    (s.returned caller).pendingEvents = s.pendingEvents ∧ ¬ (s.returned caller).Sending := by
  cases caller <;> exact ⟨rfl, by rintro ⟨_, ⟨⟩⟩⟩

lemma raised_spec (s : CollectorState) (caller : FlushCaller) (e : UrlopenError) :
    (s.raised caller e).pendingEvents = s.pendingEvents ∧ ¬ (s.raised caller e).Sending := by
  unfold raised
  split
  · exact s.stopping_spec
  · exact ⟨rfl, by rintro ⟨_, ⟨⟩⟩⟩

/-- A call that did not return `True` leaves the queue and `send_one_batch`. -/
lemma sent_spec (s : CollectorState) (caller : FlushCaller) {result : Except UrlopenError Bool}
    (hresult : result ≠ .ok true) :
    (s.sent caller (result, s.pendingEvents)).pendingEvents = s.pendingEvents
      ∧ ¬ (s.sent caller (result, s.pendingEvents)).Sending := by
  rcases result with e | _ | _
  · exact raised_spec _ caller e
  · exact returned_spec _ caller
  · exact absurd rfl hresult

/-- **What a move can do**: append what passes the filters, post the next batch, or drop it from
the queue on a 201. -/
theorem step_cases (hs : s.Ok) (h : s.step cfg label = some (s', history)) :
    (history = (label.passing cfg).map .captured
        ∧ s'.pendingEvents = s.pendingEvents ++ label.passing cfg ∧ ¬ s'.Sending)
      ∨ (label = .post ∧ s.pendingEvents ≠ [] ∧ history = [.posted (nextBatch s.pendingEvents)]
        ∧ s'.pendingEvents = s.pendingEvents)
      ∨ (label = .reply (.ok 201) ∧ s.Sending
        ∧ history = [.acknowledged (nextBatch s.pendingEvents)]
        ∧ s'.pendingEvents = s.pendingEvents.drop 500 ∧ ¬ s'.Sending) := by
  unfold step at h
  split at h
  case h_1 rawEvent hcontrol =>
    obtain ⟨rfl, rfl⟩ := Prod.mk.inj (Option.some.inj h)
    exact .inl ⟨rfl, dispatch_appendEvent _ _ _, by simp [Sending, hcontrol]⟩
  case h_2 rawEvent hcontrol =>
    obtain ⟨rfl, rfl⟩ := Prod.mk.inj (Option.some.inj h)
    exact .inl ⟨rfl, dispatch_appendEvent _ _ _, by simp [Sending, hcontrol]⟩
  case h_3 currentTime hcontrol =>
    obtain ⟨rfl, rfl⟩ := Prod.mk.inj (Option.some.inj h)
    refine .inl ⟨rfl, ?_, ?_⟩
    · split_ifs <;> exact (List.append_nil _).symm
    · split_ifs <;> simp [Sending, hcontrol]
  case h_4 hcontrol =>
    obtain ⟨rfl, rfl⟩ := Prod.mk.inj (Option.some.inj h)
    exact .inl ⟨rfl, (List.append_nil _).symm, s.stopping_spec.2⟩
  case h_5 caller hcontrol =>
    split_ifs at h with hne
    obtain ⟨rfl, rfl⟩ := Prod.mk.inj (Option.some.inj h)
    exact .inr (.inl ⟨rfl, hne, rfl, rfl⟩)
  case h_6 caller hcontrol =>
    split_ifs at h
    obtain ⟨rfl, rfl⟩ := Prod.mk.inj (Option.some.inj h)
    obtain ⟨hpending, hsending⟩ := s.returned_spec caller
    exact .inl ⟨rfl, hpending.trans (List.append_nil _).symm, hsending⟩
  case h_7 caller hcontrol =>
    obtain ⟨rfl, rfl⟩ := Prod.mk.inj (Option.some.inj h)
    obtain ⟨hpending, hsending⟩ := s.raised_spec caller .keyboardInterrupt
    exact .inl ⟨rfl, hpending.trans (List.append_nil _).symm, hsending⟩
  case h_8 caller reply hcontrol =>
    obtain ⟨rfl, rfl⟩ := Prod.mk.inj (Option.some.inj h)
    rcases sendOneBatch_cases reply (hs ⟨caller, hcontrol⟩) with
      ⟨hreply, hsend⟩ | ⟨hreply, result, hresult, hsend⟩
    · rw [hsend, if_pos hreply, hreply]
      exact .inr (.inr ⟨rfl, ⟨caller, hcontrol⟩, rfl, rfl, by rintro ⟨_, ⟨⟩⟩⟩)
    · rw [hsend, if_neg hreply]
      obtain ⟨hpending, hsending⟩ := s.sent_spec caller hresult
      exact .inl ⟨rfl, hpending.trans (List.append_nil _).symm, hsending⟩
  case h_9 => cases h

/-- **Every move is a run of an outbox**, and captures what passes the filters in it. -/
lemma step_run (hs : s.Ok) (h : s.step cfg label = some (s', history)) :
    Run 500 s.pendingEvents history s'.pendingEvents ∧ s'.Ok
      ∧ captured history = label.passing cfg := by
  rcases step_cases hs h with ⟨rfl, hpending, hsending⟩ | ⟨rfl, hne, rfl, hpending⟩
    | ⟨rfl, hsending, rfl, hpending, hsending'⟩
  · rw [hpending]
    exact ⟨.captures _ _, fun h => absurd h hsending, Outbox.captured_map _⟩
  · rw [hpending]
    exact ⟨.single (.post hne), fun _ => hpending ▸ hne, rfl⟩
  · rw [hpending]
    exact ⟨.single (.acknowledge (hs hsending)), fun h => absurd h hsending', rfl⟩

/-! ## Whole runs -/

/-- **Every run is a run of an outbox.** -/
theorem run_run {labels : List Label} (hs : s.Ok)
    (h : s.run cfg labels = some (s', history)) :
    Run 500 s.pendingEvents history s'.pendingEvents ∧ s'.Ok
      ∧ captured history = labels.flatMap (Label.passing cfg) := by
  induction labels generalizing s history with
  | nil =>
      obtain ⟨rfl, rfl⟩ := Prod.mk.inj (Option.some.inj h)
      exact ⟨.nil _, hs, rfl⟩
  | cons label labels ih =>
      simp only [run, Option.bind_eq_bind, Option.bind_eq_some_iff] at h
      obtain ⟨⟨s₁, h₁⟩, hstep, ⟨s₂, h₂⟩, hrun, hlast⟩ := h
      obtain ⟨rfl, rfl⟩ := Prod.mk.inj (Option.some.inj hlast)
      obtain ⟨hrun₁, hok₁, hcaptured₁⟩ := step_run hs hstep
      obtain ⟨hrun₂, hok₂, hcaptured₂⟩ := ih hok₁ hrun
      refine ⟨hrun₁.append hrun₂, hok₂, ?_⟩
      rw [Outbox.captured_append, hcaptured₁, hcaptured₂, List.flatMap_cons]

/-- The program when a call of `flush_pending_events` is over. -/
def afterFlush (s : CollectorState) (caller : FlushCaller) (flush : FlushResult) :
    CollectorState :=
  match flush.result with
  | .ok _ => returned { s with pendingEvents := flush.pendingEvents } caller
  | .error e => raised { s with pendingEvents := flush.pendingEvents } caller e

variable (cfg) in
lemma step_post {caller : FlushCaller} {pendingEvents : List ApiEvent} {time : ℚ}
    (hne : pendingEvents ≠ []) :
    step cfg ⟨.flushing caller, pendingEvents, time⟩ .post
      = some (⟨.sending caller, pendingEvents, time⟩, [.posted (nextBatch pendingEvents)]) :=
  if_neg hne

variable (cfg) in
/-- A 201 drops the batch and goes back to the head of the flush. -/
lemma step_created {caller : FlushCaller} {pendingEvents : List ApiEvent} {time : ℚ}
    {reply : Reply} (hne : pendingEvents ≠ []) (hreply : reply = .ok 201) :
    step cfg ⟨.sending caller, pendingEvents, time⟩ (.reply reply)
      = some (⟨.flushing caller, pendingEvents.drop 500, time⟩,
        [.acknowledged (nextBatch pendingEvents)]) := by
  have hsend : sendOneBatch reply pendingEvents = (.ok true, pendingEvents.drop 500) :=
    ((sendOneBatch_cases _ hne).resolve_right fun h => h.1 hreply).2
  simp only [step, hsend, if_pos hreply]
  rfl

variable (cfg) in
/-- Any other reply ends the flush with the queue it had. -/
lemma step_refused {caller : FlushCaller} {pendingEvents : List ApiEvent} {time : ℚ}
    {reply : Reply} {result : Except UrlopenError Bool} (hreply : reply ≠ .ok 201)
    (hresult : result ≠ .ok true)
    (hsend : sendOneBatch reply pendingEvents = (result, pendingEvents)) :
    step cfg ⟨.sending caller, pendingEvents, time⟩ (.reply reply)
      = some (afterFlush ⟨.flushing caller, pendingEvents, time⟩ caller
        ⟨result.map fun _ => (), [], pendingEvents⟩, []) := by
  have hafter : CollectorState.sent ⟨.sending caller, pendingEvents, time⟩ caller
        (result, pendingEvents)
      = afterFlush ⟨.flushing caller, pendingEvents, time⟩ caller
        ⟨result.map fun _ => (), [], pendingEvents⟩ := by
    rcases result with e | _ | _
    · cases caller <;> cases e <;> rfl
    · cases caller <;> rfl
    · exact absurd rfl hresult
  simp only [step, hsend, if_neg hreply, hafter]

variable (cfg) in
/-- **From the head of a flush the moves lead to its end**, for any replies to its posts, and they
do what `flush_pending_events` does. -/
theorem run_flush (urlopen : ℕ → List ApiEvent → Reply) {caller : FlushCaller} (sent : ℕ)
    (hcontrol : s.control = .flushing caller) :
    ∃ moves history,
      s.run cfg moves
        = some (s.afterFlush caller (flushPendingEvents urlopen sent s.pendingEvents), history)
      ∧ (∀ move ∈ moves, move = .post ∨ move = .flushed ∨ ∃ k b, move = .reply (urlopen k b))
      ∧ acknowledged history
        = (flushPendingEvents urlopen sent s.pendingEvents).acknowledged := by
  obtain ⟨control, pendingEvents, time⟩ := s
  obtain rfl : control = .flushing caller := hcontrol
  induction hlength : pendingEvents.length using Nat.strong_induction_on
    generalizing sent pendingEvents with
  | _ n ih =>
      by_cases hne : pendingEvents = []
      · subst hne
        rw [flush_nil]
        exact ⟨[.flushed], [], rfl, by simp, rfl⟩
      · rcases flush_cases urlopen sent hne with
          ⟨hreply, hflush⟩ | ⟨hreply, result, hresult, hsend, hflush⟩
        · have hpos := List.length_pos_iff.mpr hne
          obtain ⟨moves, history, hrun, hmoves, hacknowledged⟩ :=
            ih _ (by rw [← hlength, List.length_drop]; omega) (sent + 1)
              (pendingEvents.drop 500) rfl
          refine ⟨.post :: .reply (urlopen sent (nextBatch pendingEvents)) :: moves,
            .posted (nextBatch pendingEvents) :: .acknowledged (nextBatch pendingEvents)
              :: history, ?_, ?_, ?_⟩
          · simp only [run, step_post cfg hne, step_created cfg hne hreply, hrun, hflush,
              Option.bind_eq_bind, Option.bind_some]
            rfl
          · intro move hmem
            rcases List.mem_cons.mp hmem with rfl | hmem
            · exact .inl rfl
            rcases List.mem_cons.mp hmem with rfl | hmem
            · exact .inr (.inr ⟨_, _, rfl⟩)
            · exact hmoves move hmem
          · rw [hflush]
            exact congrArg _ hacknowledged
        · refine ⟨[.post, .reply (urlopen sent (nextBatch pendingEvents))],
            [.posted (nextBatch pendingEvents)], ?_, ?_, ?_⟩
          · simp only [run, step_post cfg hne, step_refused cfg hreply hresult hsend, hflush,
              Option.bind_eq_bind, Option.bind_some]
            rfl
          · intro move hmem
            rcases List.mem_pair.mp hmem with rfl | rfl
            · exact .inl rfl
            · exact .inr (.inr ⟨_, _, rfl⟩)
          · rw [hflush]
            rfl

/-! ## The queue over every run -/

/-- **Conservation in the collector.**  In every state that a run reaches, the batches that were
acknowledged, followed by the queue, are the events that passed the filters, in their order; every
post had a size that the API's schema takes; and if a flush begins there, it ends, for any replies,
after at most `⌈n / 500⌉` acknowledgements for a queue of `n`. -/
theorem queue_conserved {time : ℚ} {labels : List Label}
    (h : (initial time).run cfg labels = some (s, history)) :
    (acknowledged history).flatten ++ s.pendingEvents = labels.flatMap (Label.passing cfg)
      ∧ (∀ batch ∈ posted history, batchMinLength ≤ batch.length ∧ batch.length ≤ batchMaxLength)
      ∧ ∀ caller, s.control = .flushing caller → ∀ (urlopen : ℕ → List ApiEvent → Reply) (sent : ℕ),
        let flush := flushPendingEvents urlopen sent s.pendingEvents
        flush.acknowledged.length ≤ batches 500 s.pendingEvents.length
          ∧ ∃ moves history',
            (∀ move ∈ moves, move = .post ∨ move = .flushed ∨ ∃ k b, move = .reply (urlopen k b))
            ∧ s.run cfg moves = some (s.afterFlush caller flush, history')
            ∧ acknowledged history' = flush.acknowledged := by
  have hok : (initial time).Ok := by rintro ⟨_, ⟨⟩⟩
  obtain ⟨hrun, -, hcaptured⟩ := run_run hok h
  refine ⟨?_, hrun.length_posted (by decide), fun caller hcontrol urlopen sent => ?_⟩
  · rw [hrun.conservation, hcaptured]
    rfl
  · obtain ⟨moves, history', hmoves, hkind, hacknowledged⟩ :=
      run_flush cfg urlopen sent hcontrol
    exact ⟨(flush_spec urlopen sent s.pendingEvents).1, moves, history', hkind, hmoves,
      hacknowledged⟩

/-- The post of a connection fails, the next flush posts it with a second one, and the flush for a
third is due. -/
def sampleMoves : List Label := [
  .ipv4Sample KernelEvent.curl.zeroed, .pollReturned 2, .post, .reply (.error (.httpError 500)),
  .ipv4Sample (KernelEvent.curlAt 6000000000).zeroed, .pollReturned 4, .post, .reply (.ok 201),
  .flushed, .ipv4Sample (KernelEvent.curlAt 7000000000).zeroed, .pollReturned 6]

/-- An API that takes every batch ends the flush that is due. -/
theorem queue_conserved_curl :
    let e := fun time => KernelEvent.curl.apiEvent (.utc time)
    ∃ s history, (initial 0).run .sample sampleMoves = some (s, history)
      ∧ posted history = [[e 1700000005000000], [e 1700000005000000, e 1700000006000000]]
      ∧ acknowledged history = [[e 1700000005000000, e 1700000006000000]]
      ∧ (acknowledged history).flatten ++ s.pendingEvents
        = [e 1700000005000000, e 1700000006000000, e 1700000007000000]
      ∧ (∀ batch ∈ posted history, batchMinLength ≤ batch.length ∧ batch.length ≤ batchMaxLength)
      ∧ ∃ moves history', s.run .sample moves
        = some (s.afterFlush (.loop 6) (flushPendingEvents (fun _ _ => .ok 201) 0 s.pendingEvents),
          history') := by
  intro e
  have hmoves : ((initial 0).run .sample sampleMoves).map
      (fun r => (r.1.control, posted r.2, acknowledged r.2))
      = some (.flushing (.loop 6), [[e 1700000005000000], [e 1700000005000000, e 1700000006000000]],
        [[e 1700000005000000, e 1700000006000000]]) := by decide +kernel
  have hpassing : sampleMoves.flatMap (Label.passing .sample)
      = [e 1700000005000000, e 1700000006000000, e 1700000007000000] := by decide +kernel
  obtain ⟨⟨s, history⟩, hrun, hs⟩ := Option.map_eq_some_iff.mp hmoves
  obtain ⟨hcontrol, hs⟩ := Prod.mk.inj hs
  obtain ⟨hposted, hacknowledged⟩ := Prod.mk.inj hs
  obtain ⟨hconserved, hsizes, hflush⟩ := queue_conserved hrun
  obtain ⟨-, moves, history', -, hends, -⟩ := hflush _ hcontrol (fun _ _ => .ok 201) 0
  exact ⟨s, history, hrun, hposted, hacknowledged, hconserved.trans hpassing, hsizes, moves,
    history', hends⟩

end CollectorState

end TracePilot
