import TracePilot.Backend.Ingestion
import TracePilot.Collector.Main

/-!
# The collector, the network and the API

The whole path of an event: the collector posts, a request reaches the API after any delay or
never, the API commits its rows, and the response reaches the collector in time, or too late, or
never.  The collector learns of a commit only by a 201, so a response that is lost makes it post
the same events again, and nothing in a row says that the API has it already.

* **`Ok.step`** — the invariant over one move of either side.
* **`stored_copies_le`** — in every run an event is stored at most once, and once more for each
  post of it that was committed and whose 201 the collector did not get.
-/

namespace TracePilot

open Outbox (Run Event Ledger captured posted acknowledged)

/-- The collector with what it did, the posts with what became of them, and the rows of
`connection_events`.  The ledger's store has, for each row, the number of the captured event that
it was made from. -/
structure System where
  collector : CollectorState
  history : List (Event ApiEvent)
  ledger : Ledger ApiEvent
  stored : List StoredEvent

/-- A move of the collector, or a commit of the API for post `k`, counted from the newest.  A post
that the API refuses or that never reaches it is one without a commit. -/
inductive Action
  | collector (label : Label)
  | commit (k : ℕ) (defaults : List (Uuid × ℤ))

namespace System

/-- The API answers 201 only after its commit, and the answer is to the newest post.  Anything else
the collector may see at any time: a timeout, a broken connection, an error status. -/
def answerable (s : System) : Label → Bool
  | .reply (.ok 201) => s.ledger.posts.head?.any fun p => p.committed
  | _ => true

variable (py : Pydantic) (cfg : CollectorConfig)

/-- One move of either side. -/
def step (s : System) : Action → Option System
  | .collector label =>
      if s.answerable label then do
        let (collector, history) ← s.collector.step cfg label
        pure { s with
          collector := collector
          history := s.history ++ history
          ledger := history.foldl Ledger.record s.ledger }
      else none
  | .commit k defaults => do
      let p ← s.ledger.posts[k]?
      if p.committed then none
      else
        let rows ← createEventBatch py (p.batch.map ApiEvent.json) defaults s.stored
        pure { s with ledger := s.ledger.commit k p, stored := s.stored ++ rows }

/-- Any interleaving. -/
def run : System → List Action → Option System
  | s, [] => some s
  | s, action :: actions => do
      let s' ← s.step py cfg action
      run s' actions

/-- The collector as it enters its loop, and an empty table. -/
def initial (time : ℚ) : System := ⟨.initial time, [], ⟨0, [], []⟩, []⟩

/-! ## The invariant -/

/-- A row was made from the captured event of that number. -/
def RowOfCaptured (history : List (Event ApiEvent)) (i : ℕ) (row : StoredEvent) : Prop :=
  ∃ e, (captured history)[i]? = some e ∧ IsRowOf py e.json row

structure Ok (s : System) : Prop where
  collector : s.collector.Ok
  ledger : s.ledger.Ok
  conserved : (acknowledged s.history).flatten ++ s.collector.pendingEvents = captured s.history
  delivered : s.ledger.delivered = (acknowledged s.history).flatten.length
  /-- While the collector waits, its newest post holds the front of the queue. -/
  outstanding : s.collector.Sending → ∃ p, s.ledger.posts[0]? = some p
    ∧ p.start = s.ledger.delivered ∧ p.batch = nextBatch s.collector.pendingEvents
    ∧ p.acknowledged = false
  /-- A post carries the captured events from its start on. -/
  slices : ∀ p ∈ s.ledger.posts, p.batch <+: (captured s.history).drop p.start
  rows : List.Forall₂ (RowOfCaptured py s.history) s.ledger.store s.stored

lemma ok_initial (time : ℚ) : (initial time).Ok py where
  collector := by rintro ⟨_, ⟨⟩⟩
  ledger := .empty
  conserved := rfl
  delivered := rfl
  outstanding := by rintro ⟨_, ⟨⟩⟩
  slices _ hp := by cases hp
  rows := .nil

variable {py cfg} {s s' : System}

/-- Later captures do not change what a row was made from. -/
lemma RowOfCaptured.mono {history history' : List (Event ApiEvent)} {i : ℕ} {row : StoredEvent}
    (h : RowOfCaptured py history i row) : RowOfCaptured py (history ++ history') i row := by
  obtain ⟨e, he, hrow⟩ := h
  refine ⟨e, ?_, hrow⟩
  obtain ⟨hi, -⟩ := List.getElem?_eq_some_iff.mp he
  rw [Outbox.captured_append, List.getElem?_append_left hi, he]

/-- The rows of a post are made from the captured events from its start on. -/
lemma rows_of_slice {history : List (Event ApiEvent)} {batch : List ApiEvent}
    {rows : List StoredEvent}
    (hrows : List.Forall₂ (IsRowOf py) (batch.map ApiEvent.json) rows) :
    ∀ {start : ℕ}, batch <+: (captured history).drop start →
      List.Forall₂ (RowOfCaptured py history) (List.range' start batch.length) rows := by
  induction batch generalizing rows with
  | nil =>
      intro start _
      cases hrows
      exact .nil
  | cons e batch ih =>
      intro start hslice
      rw [List.map_cons] at hrows
      cases hrows with
      | cons hrow hrows =>
          obtain ⟨rest, hrest⟩ := hslice
          have hhead : (captured history)[start]? = some e := by
            rw [← List.head?_drop, ← hrest]
            rfl
          have htail : batch <+: (captured history).drop (start + 1) := by
            refine ⟨rest, ?_⟩
            rw [← List.tail_drop, ← hrest]
            rfl
          exact .cons ⟨e, hhead, hrow⟩ (ih hrows htail)

/-- What the collector has not been acknowledged is what it captured after the delivered events. -/
lemma Ok.drop_delivered (h : s.Ok py) :
    (captured s.history).drop s.ledger.delivered = s.collector.pendingEvents := by
  rw [← h.conserved, h.delivered, List.drop_left]

/-- A move of the collector that neither posts nor is acknowledged. -/
lemma Ok.capture (h : s.Ok py) {events : List ApiEvent} {c : CollectorState} (hc : c.Ok)
    (hpending : c.pendingEvents = s.collector.pendingEvents ++ events) (hsending : ¬ c.Sending) :
    Ok py { s with collector := c, history := s.history ++ events.map .captured } where
  collector := hc
  ledger := h.ledger
  conserved := by
    rw [Outbox.acknowledged_append, Outbox.captured_append, Outbox.acknowledged_map,
      Outbox.captured_map, List.append_nil, hpending, ← List.append_assoc, h.conserved]
  delivered := by
    rw [Outbox.acknowledged_append, Outbox.acknowledged_map, List.append_nil]
    exact h.delivered
  outstanding hs := absurd hs hsending
  slices p hp := by
    rw [Outbox.captured_append, List.drop_append]
    exact (h.slices p hp).trans (List.prefix_append _ _)
  rows := h.rows.imp fun _ _ hrow => hrow.mono

/-- The collector posts the front of its queue. -/
lemma Ok.post (h : s.Ok py) {c : CollectorState} (hc : c.Ok)
    (hpending : c.pendingEvents = s.collector.pendingEvents) :
    Ok py { s with
      collector := c
      history := s.history ++ [.posted (nextBatch s.collector.pendingEvents)]
      ledger := s.ledger.post (nextBatch s.collector.pendingEvents) } := by
  have hcaptured : captured (s.history ++ [.posted (nextBatch s.collector.pendingEvents)])
      = captured s.history := by simp [captured]
  have hacknowledged : acknowledged (s.history ++ [.posted (nextBatch s.collector.pendingEvents)])
      = acknowledged s.history := by simp [acknowledged]
  refine ⟨hc, h.ledger.post _, ?_, ?_, fun _ => ?_, fun p hp => ?_, ?_⟩
  · rw [hcaptured, hacknowledged, hpending]
    exact h.conserved
  · rw [hacknowledged]
    exact h.delivered
  · rw [hpending]
    exact ⟨_, rfl, rfl, rfl, rfl⟩
  · rw [hcaptured]
    rcases List.mem_cons.mp hp with rfl | hp
    · rw [h.drop_delivered]
      exact List.take_prefix _ _
    · exact h.slices p hp
  · exact h.rows.imp fun _ _ hrow => hrow.mono

/-- The collector gets a 201 for its newest post. -/
lemma Ok.acknowledge (h : s.Ok py) {c : CollectorState} (hc : c.Ok)
    (hsending : s.collector.Sending)
    (hcommitted : s.ledger.posts.head?.any (fun p => p.committed) = true)
    (hpending : c.pendingEvents = s.collector.pendingEvents.drop 500) (hsending' : ¬ c.Sending) :
    Ok py { s with
      collector := c
      history := s.history ++ [.acknowledged (nextBatch s.collector.pendingEvents)]
      ledger := s.ledger.record (.acknowledged (nextBatch s.collector.pendingEvents)) } := by
  obtain ⟨p, hp, hstart, hbatch, hnot⟩ := h.outstanding hsending
  have hledger : s.ledger.record (.acknowledged (nextBatch s.collector.pendingEvents))
      = s.ledger.acknowledge p := by
    unfold Ledger.record
    cases hposts : s.ledger.posts with
    | nil => simp [hposts] at hp
    | cons q posts =>
        obtain rfl : q = p := by simpa [hposts] using hp
        rfl
  have hcommitted : p.committed = true := by
    rw [← List.head?_eq_getElem?] at hp
    simpa [hp] using hcommitted
  have hcaptured : captured (s.history ++ [.acknowledged (nextBatch s.collector.pendingEvents)])
      = captured s.history := by simp [captured]
  have hacknowledged : (acknowledged
        (s.history ++ [.acknowledged (nextBatch s.collector.pendingEvents)])).flatten
      = (acknowledged s.history).flatten ++ nextBatch s.collector.pendingEvents := by
    simp [acknowledged]
  rw [hledger]
  refine ⟨hc, h.ledger.acknowledge hp hcommitted hnot hstart, ?_, ?_, fun hs => absurd hs hsending',
    fun q hq => ?_, h.rows.imp fun _ _ hrow => hrow.mono⟩
  · change _ ++ c.pendingEvents = captured _
    rw [hacknowledged, hcaptured, hpending, List.append_assoc, nextBatch, List.take_append_drop]
    exact h.conserved
  · change s.ledger.delivered + p.batch.length = _
    rw [hacknowledged, List.length_append, h.delivered, hbatch]
  · rw [hcaptured]
    rcases List.mem_or_eq_of_mem_set hq with hq | rfl
    · exact h.slices q hq
    · exact h.slices p (List.mem_of_getElem? hp)

/-- The API commits a post. -/
lemma Ok.commit (h : s.Ok py) {k : ℕ} {p : Outbox.Post ApiEvent}
    {defaults : List (Uuid × ℤ)} {rows : List StoredEvent} (hp : s.ledger.posts[k]? = some p)
    (hnot : p.committed = false)
    (hrows : createEventBatch py (p.batch.map ApiEvent.json) defaults s.stored = some rows) :
    Ok py { s with ledger := s.ledger.commit k p, stored := s.stored ++ rows } where
  collector := h.collector
  ledger := h.ledger.commit hp hnot
  conserved := h.conserved
  delivered := h.delivered
  outstanding hsending := by
    obtain ⟨q, hq, hstart, hbatch, hack⟩ := h.outstanding hsending
    obtain ⟨q', hq', hstart', hbatch', hack'⟩ := Ledger.getElem?_commit hp hq
    exact ⟨q', hq', hstart'.trans hstart, hbatch'.trans hbatch, hack'.trans hack⟩
  slices q hq := by
    rcases List.mem_or_eq_of_mem_set hq with hq | rfl
    · exact h.slices q hq
    · exact h.slices p (List.mem_of_getElem? hp)
  rows := List.rel_append h.rows
    (rows_of_slice (createEventBatch_rows hrows) (h.slices p (List.mem_of_getElem? hp)))

/-- **The invariant over one move of either side.** -/
theorem Ok.step (h : s.Ok py) {action : Action} (hstep : s.step py cfg action = some s') :
    s'.Ok py := by
  cases action with
  | commit k defaults =>
      obtain ⟨p, hp, hstep⟩ := Option.bind_eq_some_iff.mp hstep
      split_ifs at hstep with hcommitted
      obtain ⟨rows, hrows, hstep⟩ := Option.bind_eq_some_iff.mp hstep
      obtain rfl := Option.some.inj hstep
      exact h.commit hp (by simpa using hcommitted) hrows
  | collector label =>
      rw [System.step] at hstep
      split_ifs at hstep with hanswerable
      obtain ⟨⟨c, history⟩, hmove, hstep⟩ := Option.bind_eq_some_iff.mp hstep
      obtain rfl := Option.some.inj hstep
      obtain ⟨-, hc, -⟩ := CollectorState.step_run h.collector hmove
      rcases CollectorState.step_cases h.collector hmove with ⟨rfl, hpending, hsending⟩
        | ⟨rfl, -, rfl, hpending⟩ | ⟨rfl, hsending, rfl, hpending, hsending'⟩
      · rw [Ledger.foldl_record_captured]
        exact h.capture hc hpending hsending
      · exact h.post hc hpending
      · exact h.acknowledge hc hsending hanswerable hpending hsending'

/-- **The invariant over every interleaving.** -/
theorem Ok.run (h : s.Ok py) {actions : List Action} (hrun : s.run py cfg actions = some s') :
    s'.Ok py := by
  induction actions generalizing s with
  | nil =>
      obtain rfl := Option.some.inj hrun
      exact h
  | cons action actions ih =>
      obtain ⟨s₁, hstep, hrun⟩ := Option.bind_eq_some_iff.mp hrun
      exact ih (h.step hstep) hrun

/-! ## Copies -/

/-- **How often an event is stored.**  Every row was made from a captured event.  Of the rows that
were made from the `i`-th there is at most one, and one more for each post that held it, was
committed by the API, and whose 201 the collector did not get. -/
theorem stored_copies_le {time : ℚ} {actions : List Action}
    (hrun : (initial time).run py cfg actions = some s) :
    List.Forall₂ (RowOfCaptured py s.history) s.ledger.store s.stored
      ∧ ∀ i, s.ledger.copies i ≤ 1 + s.ledger.unlearned i := by
  have hok := (ok_initial py time).run hrun
  exact ⟨hok.rows, hok.ledger.copies_le⟩

/-- The API commits the event of `curl`, the collector times out, and the next flush posts the
event again. -/
def lostResponse : List Action := [
  .collector (.ipv4Sample KernelEvent.curl.zeroed), .collector (.pollReturned 2),
  .collector .post, .commit 0 [(1, 0)], .collector (.reply (.error .timeoutError)),
  .collector (.pollReturned 4), .collector .post, .commit 0 [(2, 0)],
  .collector (.reply (.ok 201)), .collector .flushed]

lemma run_lostResponse :
    ∃ s, (initial 0).run .curl .sample lostResponse = some s
      ∧ s.ledger.copies 0 = 2 ∧ s.ledger.unlearned 0 = 1 := by
  have hcounts : ((initial 0).run .curl .sample lostResponse).map
      (fun s => (s.ledger.copies 0, s.ledger.unlearned 0)) = some (2, 1) := by decide +kernel
  obtain ⟨s, hrun, hs⟩ := Option.map_eq_some_iff.mp hcounts
  obtain ⟨hcopies, hunlearned⟩ := Prod.mk.inj hs
  exact ⟨s, hrun, hcopies, hunlearned⟩

theorem stored_copies_le_lostResponse :
    ∃ s, (initial 0).run .curl .sample lostResponse = some s
      ∧ s.ledger.copies 0 ≤ 1 + s.ledger.unlearned 0 := by
  obtain ⟨s, hrun, -⟩ := run_lostResponse
  exact ⟨s, hrun, (stored_copies_le hrun).2 0⟩

theorem stored_twice :
    ¬ ∀ s, (initial 0).run .curl .sample lostResponse = some s → ∀ i, s.ledger.copies i ≤ 1 := by
  intro h
  obtain ⟨s, hrun, hcopies, -⟩ := run_lostResponse
  have hle := h s hrun 0
  omega

/-! ## Nothing stored twice, and in order -/

/-- The collector learned of every commit, but perhaps of that of the post it waits for. -/
def Learned (s : System) : Prop :=
  ∀ (k : ℕ) (p : Outbox.Post ApiEvent), s.ledger.posts[k]? = some p → p.committed = true →
    p.acknowledged = true ∨ k = 0 ∧ s.collector.Sending

/-- The number of events in the post that the collector waits for, once it is committed. -/
def inFlight (s : System) : ℕ :=
  match s.collector.control, s.ledger.posts with
  | .sending _, p :: _ => if p.committed then p.batch.length else 0
  | _, _ => 0

/-- As long as every commit is learned of, the rows have the numbers of the delivered events and of
those in flight. -/
def InOrder (s : System) : Prop :=
  s.Learned → s.ledger.store = List.range (s.ledger.delivered + s.inFlight)

lemma inFlight_of_not_sending (h : ¬ s.collector.Sending) : s.inFlight = 0 := by
  unfold inFlight
  split
  · exact absurd ⟨_, ‹_›⟩ h
  · rfl

lemma inFlight_of_not_committed {p : Outbox.Post ApiEvent} (hp : s.ledger.posts[0]? = some p)
    (hnot : p.committed = false) : s.inFlight = 0 := by
  unfold inFlight
  split
  case h_1 caller q posts hcontrol hposts =>
    rw [hposts] at hp
    obtain rfl : q = p := by simpa using hp
    simp [hnot]
  case h_2 => rfl

lemma inFlight_of_committed {p : Outbox.Post ApiEvent} (hp : s.ledger.posts[0]? = some p)
    (hcommitted : p.committed = true) (hsending : s.collector.Sending) :
    s.inFlight = p.batch.length := by
  obtain ⟨caller, hcontrol⟩ := hsending
  cases hposts : s.ledger.posts with
  | nil => simp [hposts] at hp
  | cons q posts =>
      obtain rfl : q = p := by simpa [hposts] using hp
      simp [inFlight, hcontrol, hposts, hcommitted]

/-- If every committed post was acknowledged, none is in flight. -/
lemma Ok.inFlight_eq_zero (h : s.Ok py) (hall : ∀ p ∈ s.ledger.posts, p.committed = true →
    p.acknowledged = true) : s.inFlight = 0 := by
  by_cases hsending : s.collector.Sending
  · obtain ⟨p, hp, -, -, hnot⟩ := h.outstanding hsending
    refine inFlight_of_not_committed hp ?_
    cases hcommitted : p.committed with
    | false => rfl
    | true =>
        have hack := hall p (List.mem_of_getElem? hp) hcommitted
        rw [hnot] at hack
        cases hack
  · exact inFlight_of_not_sending hsending

/-- A collector that was told of every commit has learned of it. -/
lemma learned_of_acknowledged
    (h : ∀ b ∈ s.ledger.posts.map fun p => (p.committed, p.acknowledged), b.1 = true → b.2 = true) :
    s.Learned :=
  fun _ _ hp hcommitted =>
    Or.inl (h _ (List.mem_map_of_mem (List.mem_of_getElem? hp)) hcommitted)

/-- With every committed post acknowledged, the table holds what was delivered. -/
lemma InOrder.store_eq (h : s.InOrder) (hok : s.Ok py) (hall : ∀ p ∈ s.ledger.posts,
    p.committed = true → p.acknowledged = true) :
    s.ledger.store = List.range s.ledger.delivered := by
  have hstore := h fun k p hp hcommitted => Or.inl (hall p (List.mem_of_getElem? hp) hcommitted)
  rwa [hok.inFlight_eq_zero hall] at hstore

/-- A commit is learned of only if the collector still waits for it. -/
lemma InOrder.commit (h : s.InOrder) (hok : s.Ok py) {k : ℕ} {p : Outbox.Post ApiEvent}
    (hp : s.ledger.posts[k]? = some p) (hnot : p.committed = false) (rows : List StoredEvent) :
    InOrder { s with ledger := s.ledger.commit k p, stored := s.stored ++ rows } := by
  intro hlearned
  obtain ⟨hk, -⟩ := List.getElem?_eq_some_iff.mp hp
  have hack : p.acknowledged = false := by
    cases hack : p.acknowledged with
    | false => rfl
    | true => exact absurd (hok.ledger.sound p (List.mem_of_getElem? hp) hack) (by simp [hnot])
  have hset : (s.ledger.commit k p).posts[k]? = some { p with committed := true } :=
    List.getElem?_set_self hk
  obtain ⟨rfl, hsending⟩ : k = 0 ∧ s.collector.Sending := by
    refine (hlearned k _ hset rfl).resolve_left fun h => ?_
    rw [hack] at h
    cases h
  have hbefore : s.Learned := by
    intro j q hq hcommitted
    by_cases hj : j = 0
    · exact Or.inr ⟨hj, hsending⟩
    · exact hlearned j q ((List.getElem?_set_ne (Ne.symm hj)).trans hq) hcommitted
  obtain ⟨q, hq, hstart, -, -⟩ := hok.outstanding hsending
  obtain rfl : p = q := Option.some.inj (hp.symm.trans hq)
  have hstore := h hbefore
  rw [inFlight_of_not_committed hp hnot, Nat.add_zero] at hstore
  rw [inFlight_of_committed (s := ⟨s.collector, s.history, s.ledger.commit 0 p, s.stored ++ rows⟩)
    hset rfl hsending]
  change s.ledger.store ++ List.range' p.start p.batch.length
    = List.range (s.ledger.delivered + p.batch.length)
  rw [hstore, hstart, List.range_add, List.range'_eq_map_range]

/-- An acknowledged post is no longer in flight. -/
lemma InOrder.acknowledge (h : s.InOrder) (hok : s.Ok py) {c : CollectorState}
    (hsending : s.collector.Sending)
    (hcommitted : s.ledger.posts.head?.any (fun p => p.committed) = true)
    (hsending' : ¬ c.Sending) {history : List (Event ApiEvent)} (batch : List ApiEvent) :
    InOrder { s with
      collector := c
      history := history
      ledger := s.ledger.record (.acknowledged batch) } := by
  obtain ⟨p, hp, -⟩ := hok.outstanding hsending
  have hcommitted : p.committed = true := by
    rw [← List.head?_eq_getElem?] at hp
    simpa [hp] using hcommitted
  rw [Ledger.record_acknowledged hp]
  intro hlearned
  have hbefore : s.Learned := by
    intro k q hq hqcommitted
    by_cases hk : k = 0
    · exact Or.inr ⟨hk, hsending⟩
    · exact Or.inl ((hlearned k q ((List.getElem?_set_ne (Ne.symm hk)).trans hq)
        hqcommitted).resolve_right fun h => hk h.1)
  have hstore := h hbefore
  rw [inFlight_of_committed hp hcommitted hsending] at hstore
  rw [inFlight_of_not_sending hsending']
  exact hstore

/-- **The order of the rows over one move of either side.** -/
lemma InOrder.step (h : s.InOrder) (hok : s.Ok py) {action : Action}
    (hstep : s.step py cfg action = some s') : s'.InOrder := by
  cases action with
  | commit k defaults =>
      obtain ⟨p, hp, hstep⟩ := Option.bind_eq_some_iff.mp hstep
      split_ifs at hstep with hcommitted
      obtain ⟨rows, hrows, hstep⟩ := Option.bind_eq_some_iff.mp hstep
      obtain rfl := Option.some.inj hstep
      exact h.commit hok hp (by simpa using hcommitted) rows
  | collector label =>
      rw [System.step] at hstep
      split_ifs at hstep with hanswerable
      obtain ⟨⟨c, history⟩, hmove, hstep⟩ := Option.bind_eq_some_iff.mp hstep
      obtain rfl := Option.some.inj hstep
      rcases CollectorState.step_cases hok.collector hmove with ⟨rfl, -, hsending⟩
        | ⟨rfl, -, rfl, -⟩ | ⟨rfl, hsending, rfl, -, hsending'⟩
      · rw [Ledger.foldl_record_captured]
        intro hlearned
        have hall : ∀ p ∈ s.ledger.posts, p.committed = true → p.acknowledged = true := by
          intro p hp hcommitted
          obtain ⟨k, hk⟩ := List.mem_iff_getElem?.mp hp
          exact (hlearned k p hk hcommitted).resolve_right fun h => hsending h.2
        rw [inFlight_of_not_sending hsending]
        exact h.store_eq hok hall
      · intro hlearned
        have hall : ∀ p ∈ s.ledger.posts, p.committed = true → p.acknowledged = true := by
          intro p hp hcommitted
          obtain ⟨k, hk⟩ := List.mem_iff_getElem?.mp hp
          exact (hlearned (k + 1) p hk hcommitted).resolve_right fun h => absurd h.1 (by omega)
        rw [inFlight_of_not_committed (List.getElem?_cons_zero ..) rfl]
        exact h.store_eq hok hall
      · exact h.acknowledge hok hsending hanswerable hsending' (nextBatch s.collector.pendingEvents)

/-- **The order of the rows over every interleaving.** -/
lemma InOrder.run (h : s.InOrder) (hok : s.Ok py) {actions : List Action}
    (hrun : s.run py cfg actions = some s') : s'.InOrder := by
  induction actions generalizing s with
  | nil =>
      obtain rfl := Option.some.inj hrun
      exact h
  | cons action actions ih =>
      obtain ⟨s₁, hstep, hrun⟩ := Option.bind_eq_some_iff.mp hrun
      exact ih (h.step hok hstep) (hok.step hstep) hrun

/-- As long as every commit is learned of, the rows are made from the first captured events, one
from each. -/
lemma InOrder.rows (h : s.InOrder) (hok : s.Ok py) (hlearned : s.Learned) :
    List.Forall₂ (fun e row => IsRowOf py (ApiEvent.json e) row)
      ((captured s.history).take s.stored.length) s.stored := by
  have hrows := hok.rows
  rw [h hlearned] at hrows
  have hlength := hrows.length_eq
  rw [List.length_range] at hlength
  have hle : s.stored.length ≤ (captured s.history).length := by
    by_contra hlt
    push Not at hlt
    obtain ⟨e, he, -⟩ := hrows.get (i := (captured s.history).length)
      (by simpa [hlength] using hlt) hlt
    simp at he
  refine List.forall₂_iff_get.mpr ⟨by simpa using hle, fun i hi hi' => ?_⟩
  obtain ⟨e, he, hrow⟩ := hrows.get (i := i) (by simpa [hlength] using hi') hi'
  rw [List.get_eq_getElem, List.getElem_range] at he
  rw [List.get_eq_getElem, List.getElem_take, (List.getElem?_eq_some_iff.mp he).2]
  exact hrow

/-- **Exactly once, and in order**: when the collector is not waiting for an answer and has learned
of every commit, the table holds one row for each captured event that is no longer queued, in the
order of their capture. -/
theorem stored_in_order {time : ℚ} {actions : List Action}
    (hrun : (initial time).run py cfg actions = some s) (hlearned : s.Learned)
    (hresting : ¬ s.collector.Sending) :
    ∃ delivered, delivered ++ s.collector.pendingEvents = captured s.history
      ∧ List.Forall₂ (fun e row => IsRowOf py (ApiEvent.json e) row) delivered s.stored := by
  have hok : s.Ok py := (ok_initial py time).run hrun
  have hinitial : (initial time).InOrder := fun _ => rfl
  have hinOrder := hinitial.run (ok_initial py time) hrun
  have hrows := hinOrder.rows hok hlearned
  have hlength : s.stored.length = (acknowledged s.history).flatten.length := by
    have hstore := congrArg List.length (hinOrder hlearned)
    rw [inFlight_of_not_sending hresting, Nat.add_zero, hok.delivered, List.length_range] at hstore
    exact hok.rows.length_eq.symm.trans hstore
  refine ⟨(acknowledged s.history).flatten, hok.conserved, ?_⟩
  rwa [hlength, ← hok.conserved, List.take_left] at hrows

/-- The first post fails, the API commits it with a second connection in the next one and a third in
a batch of its own, and a fourth is captured. -/
def answered : List Action := [
  .collector (.ipv4Sample KernelEvent.curl.zeroed), .collector (.pollReturned 2),
  .collector .post, .collector (.reply (.error (.httpError 500))),
  .collector (.ipv4Sample (KernelEvent.curlAt 6000000000).zeroed), .collector (.pollReturned 4),
  .collector .post, .commit 0 [(1, 0), (2, 0)], .collector (.reply (.ok 201)), .collector .flushed,
  .collector (.ipv4Sample (KernelEvent.curlAt 7000000000).zeroed), .collector (.pollReturned 6),
  .collector .post, .commit 0 [(3, 0)], .collector (.reply (.ok 201)), .collector .flushed,
  .collector (.ipv4Sample (KernelEvent.curlAt 8000000000).zeroed)]

theorem stored_in_order_answered :
    ∃ s, (initial 0).run .curl .sample answered = some s
      ∧ s.stored.map (fun e => e.timestamp) = [1700000005000000, 1700000006000000, 1700000007000000]
      ∧ s.collector.pendingEvents = [KernelEvent.curl.apiEvent (.utc 1700000008000000)]
      ∧ ∃ delivered, delivered ++ s.collector.pendingEvents = captured s.history
        ∧ List.Forall₂ (fun e row => IsRowOf .curl (ApiEvent.json e) row) delivered s.stored := by
  have hsome : ((initial 0).run .curl .sample answered).map (fun s =>
      (s.stored.map fun e => e.timestamp, s.collector.pendingEvents, s.collector.control,
        s.ledger.posts.map fun p => (p.committed, p.acknowledged)))
      = some ([1700000005000000, 1700000006000000, 1700000007000000],
        [KernelEvent.curl.apiEvent (.utc 1700000008000000)], .polling,
        [(true, true), (true, true), (false, false)]) := by decide +kernel
  obtain ⟨s, hrun, hs⟩ := Option.map_eq_some_iff.mp hsome
  obtain ⟨hstored, hs⟩ := Prod.mk.inj hs
  obtain ⟨hpending, hs⟩ := Prod.mk.inj hs
  obtain ⟨hcontrol, hposts⟩ := Prod.mk.inj hs
  have hlearned : s.Learned := learned_of_acknowledged (by simp [hposts])
  refine ⟨s, hrun, hstored, hpending, stored_in_order hrun hlearned ?_⟩
  rintro ⟨caller, hsending⟩
  rw [hcontrol] at hsending
  cases hsending

end System

end TracePilot
