import TracePilot.Collector.Main

/-!
# How an exchange with the API can end

`Reply` is what `send_one_batch` sees of an exchange.  An `Exchange` says where it ended, and so
what `urllib` makes of it: an error before the request is sent is wrapped in `URLError`, one while
the collector waits for the response is raised as it is, and the body of an error response is read
in the handler of `HTTPError`, where nothing that is raised is handled.

* **`sendOneBatch_atomic_iff`** — a call is atomic and leaves the loop running exactly when the
  exchange ended in a way that it handles.
* **`run_survives`** — in a run of the loop whose exchanges all ended so, nothing but Ctrl+C is ever
  raised.
-/

namespace TracePilot

open Outbox (Event)

/-! ## Exchanges -/

/-- What is raised while the collector waits for a response or reads one. -/
inductive ReadError
  | timeout
  | remoteDisconnected
  | connectionReset
  | httpException
  deriving DecidableEq

/-- Where an exchange ended.  `urlopen` follows redirects; the exchange is the last one. -/
inductive Exchange
  /-- the connection or the sending failed -/
  | notSent
  /-- the request was sent, and no response came -/
  | noResponse (e : ReadError)
  /-- a response came; its body is read when the status is not a success -/
  | response (status : ℕ) (body : Except ReadError String)

namespace Exchange

/-- A status that `urlopen` returns. -/
def isSuccess (status : ℕ) : Bool := 200 ≤ status && status < 300

/-- What `send_one_batch` sees: `urlopen`, and `error.read()` on an `HTTPError`. -/
def reply : Exchange → Reply
  | notSent => .error .urlError
  | noResponse .timeout => .error .timeoutError
  | noResponse _ => .error .other
  | response status body =>
      if isSuccess status then .ok status
      else match body with
        | .ok _ => .error (.httpError status)
        | .error _ => .error .other

/-- The API answered 201. -/
def Created (x : Exchange) : Prop := ∃ body, x = response 201 body

/-- **The exchanges that are handled**: the request was not sent, no response came in time, or a
response came and its body, if it is needed, could be read. -/
def Handled : Exchange → Prop
  | notSent => True
  | noResponse e => e = .timeout
  | response status body => isSuccess status = true ∨ ∃ text, body = .ok text

/-- **An atomic call** of `send_one_batch`: it returns `True` and takes the first 500 events, or
all, off the queue after a 201, or it returns `False` and leaves the queue as it was. -/
def AtomicCall (x : Exchange) (pendingEvents : List ApiEvent)
    (call : Except UrlopenError Bool × List ApiEvent) : Prop :=
  call = (.ok true, pendingEvents.drop (min 500 pendingEvents.length))
      ∧ (pendingEvents = [] ∨ x.Created)
    ∨ call = (.ok false, pendingEvents)

variable {x : Exchange} {pendingEvents : List ApiEvent}

/-- An exchange that is not handled shows up as an exception that nothing handles. -/
lemma reply_eq_other_iff : x.reply = .error .other ↔ ¬ x.Handled := by
  cases x with
  | notSent => simp [reply, Handled]
  | noResponse e => cases e <;> simp [reply, Handled]
  | response status body =>
      cases hsuccess : isSuccess status <;> cases body <;> simp [reply, Handled, hsuccess]

/-- A handled exchange shows up as a 201, or as something that makes the call return `False`. -/
lemma reply_of_handled (hx : x.Handled) (hne : pendingEvents ≠ []) :
    x.Created ∧ sendOneBatch x.reply pendingEvents = (.ok true, pendingEvents.drop 500)
      ∨ sendOneBatch x.reply pendingEvents = (.ok false, pendingEvents) := by
  cases x with
  | notSent => exact Or.inr (if_neg hne)
  | noResponse e =>
      obtain rfl : e = .timeout := hx
      exact Or.inr (if_neg hne)
  | response status body =>
      cases hsuccess : isSuccess status with
      | true =>
          have hreply : (response status body).reply = .ok status := by simp [reply, hsuccess]
          rw [hreply]
          by_cases hcreated : status = 201
          · refine Or.inl ⟨⟨body, by rw [hcreated]⟩, ?_⟩
            simp [sendOneBatch, hne, hcreated, drop_length_nextBatch]
          · exact Or.inr (by simp [sendOneBatch, hne, hcreated])
      | false =>
          obtain ⟨text, rfl⟩ : ∃ text, body = .ok text :=
            hx.resolve_left (by simp [hsuccess])
          have hreply : (response status (.ok text)).reply = .error (.httpError status) := by
            simp [reply, hsuccess]
          rw [hreply]
          exact Or.inr (if_neg hne)

/-- An exchange that is not handled goes up to the caller. -/
lemma sendOneBatch_of_not_handled (hx : ¬ x.Handled) (hne : pendingEvents ≠ []) :
    sendOneBatch x.reply pendingEvents = (.error .other, pendingEvents) := by
  rw [reply_eq_other_iff.mpr hx]
  exact if_neg hne

lemma drop_min_length (pendingEvents : List ApiEvent) :
    pendingEvents.drop (min 500 pendingEvents.length) = pendingEvents.drop 500 := by
  rw [← drop_length_nextBatch, nextBatch, List.length_take]

lemma atomicCall_iff :
    x.AtomicCall pendingEvents (sendOneBatch x.reply pendingEvents)
      ↔ pendingEvents = [] ∨ x.Handled := by
  by_cases hne : pendingEvents = []
  · refine iff_of_true (Or.inl ⟨?_, Or.inl hne⟩) (Or.inl hne)
    rw [hne]
    rfl
  rw [or_iff_right hne]
  constructor
  · intro hcall
    by_contra hx
    rw [sendOneBatch_of_not_handled hx hne] at hcall
    rcases hcall with ⟨hcall, -⟩ | hcall <;> cases congrArg Prod.fst hcall
  · intro hx
    rcases reply_of_handled hx hne with ⟨hcreated, hcall⟩ | hcall
    · exact Or.inl ⟨by rw [hcall, drop_min_length], Or.inr hcreated⟩
    · exact Or.inr hcall

end Exchange

/-! ## The main loop -/

namespace CollectorState

variable {cfg : CollectorConfig} {s s' : CollectorState}

/-- No exception went past `main`. -/
def Running (s : CollectorState) : Prop := ∀ e, s.control ≠ .crashed e

/-- No exception but that of Ctrl+C went past `main`. -/
def Undisturbed (s : CollectorState) : Prop := ∀ e, s.control = .crashed e → e = .keyboardInterrupt

lemma Running.undisturbed (h : s.Running) : s.Undisturbed := fun e he => absurd he (h e)

lemma running_stopping (s : CollectorState) : s.stopping.Running := by
  intro e h
  simp only [stopping] at h
  split_ifs at h

lemma running_returned (s : CollectorState) (caller : FlushCaller) : (s.returned caller).Running := by
  intro e h
  cases caller <;> cases h

lemma undisturbed_interrupted (s : CollectorState) (caller : FlushCaller) :
    (s.raised caller .keyboardInterrupt).Undisturbed := by
  cases caller with
  | loop currentTime => exact (running_stopping s).undisturbed
  | shutdown =>
      intro e h
      cases h
      rfl

/-- The end of a call, for every way the exchange can end. -/
lemma running_sent_iff (s : CollectorState) (caller : FlushCaller) (x : Exchange) :
    (s.sent caller (sendOneBatch x.reply s.pendingEvents)).Running
      ↔ s.pendingEvents = [] ∨ x.Handled := by
  by_cases hne : s.pendingEvents = []
  · have hcall : sendOneBatch x.reply s.pendingEvents = (.ok true, s.pendingEvents) := if_pos hne
    rw [hcall]
    refine iff_of_true (fun e h => ?_) (Or.inl hne)
    cases h
  rw [or_iff_right hne]
  constructor
  · intro hrunning
    by_contra hx
    rw [Exchange.sendOneBatch_of_not_handled hx hne] at hrunning
    cases caller <;> exact hrunning .other rfl
  · intro hx
    rcases Exchange.reply_of_handled hx hne with ⟨-, hcall⟩ | hcall
    · rw [hcall]
      intro e h
      cases h
    · rw [hcall]
      exact running_returned _ caller

end CollectorState

/-- **When a call of `send_one_batch` is atomic and the loop goes on**: for the queues and the
exchanges that it handles. -/
theorem sendOneBatch_atomic_iff (x : Exchange) (pendingEvents : List ApiEvent) :
    (x.AtomicCall pendingEvents (sendOneBatch x.reply pendingEvents)
        ↔ pendingEvents = [] ∨ x.Handled)
      ∧ ∀ (cfg : CollectorConfig) (s : CollectorState) (caller : FlushCaller),
        s.control = .sending caller → s.pendingEvents = pendingEvents →
        ∃ s' history, s.step cfg (.reply x.reply) = some (s', history)
          ∧ (s'.Running ↔ pendingEvents = [] ∨ x.Handled) := by
  refine ⟨Exchange.atomicCall_iff, ?_⟩
  rintro cfg s caller hcontrol rfl
  have hstep : s.step cfg (.reply x.reply)
      = some (s.sent caller (sendOneBatch x.reply s.pendingEvents),
        if x.reply = .ok 201 then [.acknowledged (nextBatch s.pendingEvents)] else []) := by
    simp only [CollectorState.step, hcontrol]
  exact ⟨_, _, hstep, s.running_sent_iff caller x⟩

theorem sendOneBatch_atomic_iff_timeout :
    (Exchange.noResponse .timeout).AtomicCall
        [KernelEvent.curl.apiEvent (.utc 1700000005000000)]
        (sendOneBatch (Exchange.noResponse .timeout).reply
          [KernelEvent.curl.apiEvent (.utc 1700000005000000)])
      ∧ ∃ s' history, CollectorState.step .sample
          ⟨.sending .shutdown, [KernelEvent.curl.apiEvent (.utc 1700000005000000)], 0⟩
          (.reply (Exchange.noResponse .timeout).reply) = some (s', history) ∧ s'.Running := by
  obtain ⟨hcall, hstep⟩ := sendOneBatch_atomic_iff (.noResponse .timeout)
    [KernelEvent.curl.apiEvent (.utc 1700000005000000)]
  obtain ⟨s', history, hmove, hrunning⟩ := hstep .sample
    ⟨.sending .shutdown, [KernelEvent.curl.apiEvent (.utc 1700000005000000)], 0⟩ .shutdown rfl rfl
  exact ⟨hcall.mpr (Or.inr rfl), s', history, hmove, hrunning.mpr (Or.inr rfl)⟩

/-- The server closes the connection without an answer, and the event in the queue is lost. -/
theorem not_atomicCall_disconnected :
    ¬ (Exchange.noResponse .remoteDisconnected).AtomicCall
      [KernelEvent.curl.apiEvent (.utc 1700000005000000)]
      (sendOneBatch (Exchange.noResponse .remoteDisconnected).reply
        [KernelEvent.curl.apiEvent (.utc 1700000005000000)]) := by
  rw [Exchange.atomicCall_iff]
  rintro (hnil | htimeout)
  · cases hnil
  · cases htimeout

namespace CollectorState

variable {cfg : CollectorConfig} {s s' : CollectorState}

/-- A move that is not the reply of an exchange that is not handled. -/
def Expected : Label → Prop
  | .reply reply => ∃ x : Exchange, x.Handled ∧ reply = x.reply
  | _ => True

lemma step_undisturbed {label : Label} {history : List (Event ApiEvent)} (hlabel : Expected label)
    (hs : s.Undisturbed) (h : s.step cfg label = some (s', history)) : s'.Undisturbed := by
  unfold step at h
  split at h
  case h_1 rawEvent hcontrol =>
    obtain ⟨rfl, -⟩ := Prod.mk.inj (Option.some.inj h)
    exact hs
  case h_2 rawEvent hcontrol =>
    obtain ⟨rfl, -⟩ := Prod.mk.inj (Option.some.inj h)
    exact hs
  case h_3 currentTime hcontrol =>
    obtain ⟨rfl, -⟩ := Prod.mk.inj (Option.some.inj h)
    split_ifs
    · rintro e ⟨⟩
    · exact hs
  case h_4 hcontrol =>
    obtain ⟨rfl, -⟩ := Prod.mk.inj (Option.some.inj h)
    exact s.running_stopping.undisturbed
  case h_5 caller hcontrol =>
    split_ifs at h
    obtain ⟨rfl, -⟩ := Prod.mk.inj (Option.some.inj h)
    rintro e ⟨⟩
  case h_6 caller hcontrol =>
    split_ifs at h
    obtain ⟨rfl, -⟩ := Prod.mk.inj (Option.some.inj h)
    exact (s.running_returned caller).undisturbed
  case h_7 caller hcontrol =>
    obtain ⟨rfl, -⟩ := Prod.mk.inj (Option.some.inj h)
    exact s.undisturbed_interrupted caller
  case h_8 caller reply hcontrol =>
    obtain ⟨rfl, -⟩ := Prod.mk.inj (Option.some.inj h)
    obtain ⟨x, hx, rfl⟩ := hlabel
    exact ((s.running_sent_iff caller x).mpr (Or.inr hx)).undisturbed
  case h_9 => cases h

/-- **A run whose exchanges are all handled survives**: nothing but Ctrl+C ends it with an
exception. -/
theorem run_survives {labels : List Label} {history : List (Event ApiEvent)}
    (hlabels : ∀ label ∈ labels, Expected label) (hs : s.Undisturbed)
    (h : s.run cfg labels = some (s', history)) : s'.Undisturbed := by
  induction labels generalizing s history with
  | nil =>
      obtain ⟨rfl, -⟩ := Prod.mk.inj (Option.some.inj h)
      exact hs
  | cons label labels ih =>
      simp only [run, Option.bind_eq_bind, Option.bind_eq_some_iff] at h
      obtain ⟨⟨s₁, h₁⟩, hstep, ⟨s₂, h₂⟩, hrun, hlast⟩ := h
      obtain ⟨rfl, -⟩ := Prod.mk.inj (Option.some.inj hlast)
      obtain ⟨hlabel, hrest⟩ := List.forall_mem_cons.mp hlabels
      exact ih hrest (step_undisturbed hlabel hs hstep) hrun

end CollectorState

end TracePilot
