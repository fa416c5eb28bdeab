import TracePilot.Backend.Findings
import TracePilot.Backend.Ingestion

/-!
# The two statements of `find_unusual_destinations`

The baseline and the recent events are read by two statements, and at READ COMMITTED a batch may
commit between them.  `Task.Passes` lists the states that the table passes through during a call,
so that an answer can be compared with what the call would return on each of them.

* **`unusualDestinations_snapshots`** — the answer is made of the baseline in one state and the
  recent events of a later one.  It is the answer on a single state between the two whenever nothing
  was added to the baseline before that state, nor to the recent events after it.
* **`not_snapshotConsistent_splitBatch`** — a batch with an event in each window is answered as
  no single state would be.
-/

namespace TracePilot

open Resumption

/-- One commit of `create_event_batch`. -/
def BatchCommit (py : Pydantic) (s s' : Server) : Prop :=
  ∃ events defaults rows,
    createEventBatch py events defaults s.db.connectionEvents = some rows
      ∧ s'.db = { s.db with connectionEvents := s.db.connectionEvents ++ rows }

/-- The states a handler passes through while batches are committed. -/
abbrev Handler.Passes {α : Type} (py : Pydantic) (p : Handler α) (l : Session) (s : Server)
    (states : List Server) (o : Except PyException α × Session × Server) : Prop :=
  Proc.Passes backend (BatchCommit py) (ExceptT.run p) l s states o

/-- No event of the window was added between two states. -/
def NoneAdded (window : EventWhere) (s s' : Server) : Prop :=
  ∀ e ∈ s'.db.connectionEvents, e ∉ s.db.connectionEvents → window.holds e = false

/-- **Snapshot consistency**: what a call returned is what it would return on a single state that
it passed through, read at the same instant. -/
def SnapshotConsistent {α : Type} (call : Handler α) (l : Session) (states : List Server) (v : α) :
    Prop :=
  ∃ T ∈ states, ∃ U ∈ states, (call.run l { U with clock := T.clock }).1 = .ok v

/-- The answer of a call that reads two windows in two statements.  Both windows are cut at the
clock of `start`.  `between` are the states from the one that the first statement saw to the one
that the second statement saw. -/
def AnswersInTwo {α : Type} (call : Handler α) (baseline recent : ℤ → EventWhere)
    (answer : List StoredEvent → List StoredEvent → α) (l : Session) (states : List Server)
    (v : α) : Prop :=
  ∃ (before between after : List Server) (start first second : Server),
    states = before ++ between ++ after ∧ start ∈ before
      ∧ between.head? = some first ∧ between.getLast? = some second
      ∧ v = answer (first.db.connectionEvents.filter (baseline start.clock).holds)
        (second.db.connectionEvents.filter (recent start.clock).holds)
      ∧ ∀ U ∈ between, NoneAdded (baseline start.clock) first U →
        NoneAdded (recent start.clock) U second →
          (call.run l { U with clock := start.clock }).1 = .ok v

/-! ## Tables grow -/

section Growth

variable {py : Pydantic} {s s₁ s' : Server}

/-- The table grew by new rows at its end. -/
def Extends (s s' : Server) : Prop :=
  ∃ added, s'.db.connectionEvents = s.db.connectionEvents ++ added
    ∧ ∀ e ∈ added, e ∉ s.db.connectionEvents

lemma Extends.refl (s : Server) : Extends s s := ⟨[], by simp, by simp⟩

lemma Extends.trans (h : Extends s s₁) (h' : Extends s₁ s') : Extends s s' := by
  obtain ⟨added, heq, hnew⟩ := h
  obtain ⟨added', heq', hnew'⟩ := h'
  refine ⟨added ++ added', by rw [heq', heq, List.append_assoc], ?_⟩
  intro e he
  rcases List.mem_append.mp he with he | he
  · exact hnew e he
  · exact fun hmem => hnew' e he (heq ▸ List.mem_append_left _ hmem)

/-- The rows of a batch are new, since no two rows share a key. -/
lemma BatchCommit.extends (h : BatchCommit py s s') : Extends s s' := by
  obtain ⟨events, defaults, rows, hcreate, hdb⟩ := h
  obtain ⟨batch, -, hcreate⟩ := Option.bind_eq_some_iff.mp hcreate
  obtain ⟨rows', -, hcreate⟩ := Option.bind_eq_some_iff.mp hcreate
  split_ifs at hcreate with hnodup
  obtain rfl := Option.some.inj hcreate
  refine ⟨rows', by rw [hdb], fun e he hmem => ?_⟩
  rw [List.map_append, List.nodup_append] at hnodup
  exact hnodup.2.2 e.id (List.mem_map_of_mem hmem) e.id (List.mem_map_of_mem he) rfl

/-- A window to which nothing was added reads the same. -/
lemma Extends.filter_eq (h : Extends s s') {window : EventWhere} (hnone : NoneAdded window s s') :
    s'.db.connectionEvents.filter window.holds = s.db.connectionEvents.filter window.holds := by
  obtain ⟨added, heq, hnew⟩ := h
  have hadded : added.filter window.holds = [] := by
    refine List.filter_eq_nil_iff.mpr fun e he => ?_
    have hmem : e ∈ s'.db.connectionEvents := heq ▸ List.mem_append_right _ he
    simp [hnone e hmem (hnew e he)]
  rw [heq, List.filter_append, hadded, List.append_nil]

end Growth

/-! ## Two statements -/

section TwoStatements

variable {α : Type} {py : Pydantic} {l l' : Session} {s s' : Server} {states : List Server}

/-- A select that the driver sends sees one of the states that are passed through. -/
lemma passes_select_bind {clause : EventWhere} {f : List StoredEvent → Handler α}
    {o : Except PyException α × Session × Server} (hl : l.unusable = false)
    (hb : clause.binds = true) :
    (Handler.select clause >>= f).Passes py l s states o
      ↔ ∃ path saw rest, states = path ++ rest ∧ Proc.Path (BatchCommit py) s path saw
        ∧ (f (saw.db.connectionEvents.filter clause.holds)).Passes py
          (l.note (.selected clause saw.db.connectionEvents)) saw rest o := by
  have hstep : ∀ saw rest, Proc.Passes backend (BatchCommit py)
      (ExceptT.bindCont f (selectStep clause l saw).1) (selectStep clause l saw).2.1
      (selectStep clause l saw).2.2 rest o
      ↔ (f (saw.db.connectionEvents.filter clause.holds)).Passes py
          (l.note (.selected clause saw.db.connectionEvents)) saw rest o := by
    intro saw rest
    simp only [selectStep, hl, hb, if_true, Bool.false_eq_true, if_false]
    rfl
  simp only [← hstep]
  rfl

/-- A select that is followed by a result was sent. -/
lemma sent_of_passes {clause : EventWhere} {f : List StoredEvent → Handler α} {v : α}
    (h : (Handler.select clause >>= f).Passes py l s states (.ok v, l', s')) :
    l.unusable = false ∧ clause.binds = true := by
  obtain ⟨path, saw, rest, -, -, hrest⟩ := h
  change Proc.Passes backend (BatchCommit py) (ExceptT.bindCont f (selectStep clause l saw).1)
    (selectStep clause l saw).2.1 (selectStep clause l saw).2.2 rest _ at hrest
  rw [selectStep] at hrest
  split_ifs at hrest with hl hb
  · obtain ⟨_, -, heq⟩ := hrest
    cases heq
  · exact ⟨by simpa using hl, hb⟩
  · obtain ⟨_, -, heq⟩ := hrest
    cases heq

lemma passes_now_bind {f : Clock → Handler α} {o : Except PyException α × Session × Server} :
    (Handler.now >>= f).Passes py l s states o ↔ ∃ path saw rest, states = path ++ rest
      ∧ Proc.Path (BatchCommit py) s path saw ∧ (f saw.clock).Passes py l saw rest o := Iff.rfl

variable {baseline recent : ℤ → EventWhere} {answer : List StoredEvent → List StoredEvent → α}

/-- **A call that reads two windows**, whatever it reads them for. -/
theorem answersInTwo {v : α}
    (h : (Handler.readInTwo baseline recent answer).Passes py l s states (.ok v, l', s')) :
    AnswersInTwo (Handler.readInTwo baseline recent answer) baseline recent answer l states v := by
  obtain ⟨path₀, start, rest₀, rfl, hpath₀, h⟩ := passes_now_bind.mp h
  obtain ⟨hl, hb⟩ := sent_of_passes h
  obtain ⟨path₁, first, rest₁, rfl, hpath₁, h⟩ := (passes_select_bind hl hb).mp h
  obtain ⟨-, hb'⟩ := sent_of_passes h
  obtain ⟨path₂, second, rest₂, rfl, hpath₂, h⟩ := (passes_select_bind (by exact hl) hb').mp h
  obtain ⟨_, -, heq⟩ := h
  obtain rfl : v = _ := Except.ok.inj (Prod.ext_iff.mp heq).1
  have hgrow := hpath₂.along Extends.refl Extends.trans BatchCommit.extends
  have hstart : start ∈ path₀ ++ path₁ :=
    List.mem_append_left _ (List.mem_of_getLast? hpath₀.last_eq)
  refine ⟨path₀ ++ path₁, path₂, rest₂, start, first, second, by simp, hstart, hpath₂.head_eq,
    hpath₂.last_eq, rfl, fun U hU hbaseline hrecent => ?_⟩
  refine (run_readInTwo (s := { U with clock := start.clock }) baseline recent answer hl hb
    hb').trans ?_
  rw [(hgrow U hU).1.filter_eq hbaseline, ← (hgrow U hU).2.filter_eq hrecent]

end TwoStatements

/-! ## A batch that commits between the statements -/

/-- A connection of PID 42 two hours ago and one ten seconds ago. -/
def splitBatch : List Json := [postedEvent 42 1699992800, postedEvent 42 1699999990]

/-- The rows of that batch. -/
def splitRows : List StoredEvent :=
  (createEventBatch Pydantic.numeric splitBatch
    [(1, 1700000000000000), (2, 1700000000000000)] []).getD []

lemma batchCommit_splitRows :
    BatchCommit Pydantic.numeric (.holding []) (.holding splitRows) := by
  have hsome : (createEventBatch Pydantic.numeric splitBatch
      [(1, 1700000000000000), (2, 1700000000000000)] []).isSome = true := by decide
  obtain ⟨rows, hrows⟩ := Option.isSome_iff_exists.mp hsome
  refine ⟨splitBatch, _, rows, hrows, ?_⟩
  have hsplit : splitRows = rows := by rw [splitRows, hrows, Option.getD_some]
  rw [hsplit]
  rfl

/-- The states of a call during which the batch commits between the two statements. -/
def splitStates : List Server :=
  [.holding [], .holding [], .holding [], .holding splitRows, .holding splitRows]

section Split

variable {α : Type} (baseline recent : ℤ → EventWhere)
  (answer : List StoredEvent → List StoredEvent → α)

/-- The call saw the empty table first and the batch second. -/
lemma passes_splitStates (hb : (baseline Clock.sample).binds = true)
    (hb' : (recent Clock.sample).binds = true) :
    ∃ l' s', (Handler.readInTwo baseline recent answer).Passes Pydantic.numeric {}
      (.holding []) splitStates
      (.ok (answer [] (splitRows.filter (recent Clock.sample).holds)), l', s') := by
  have hread : Proc.Path (BatchCommit Pydantic.numeric) (.holding []) [.holding []]
      (.holding []) := .done _
  have hcommit := Proc.Path.cons batchCommit_splitRows (.done (Server.holding splitRows))
  refine ⟨({ } : Session).observing [.selected (baseline Clock.sample) [],
    .selected (recent Clock.sample) splitRows], .holding splitRows, ?_⟩
  refine passes_now_bind.mpr ⟨_, _, _, rfl, hread, ?_⟩
  refine (passes_select_bind rfl hb).mpr ⟨_, _, _, rfl, hread, ?_⟩
  exact (passes_select_bind rfl hb').mpr ⟨_, _, _, rfl, hcommit, _, .done _, rfl⟩

/-- On the table before the batch and on the table behind it, the answer is another one. -/
lemma not_snapshotConsistent {baseline recent : ℤ → EventWhere}
    {answer : List StoredEvent → List StoredEvent → α} (hb : (baseline Clock.sample).binds = true)
    (hb' : (recent Clock.sample).binds = true)
    (hempty : answer [] [] ≠ answer [] (splitRows.filter (recent Clock.sample).holds))
    (hfull : answer (splitRows.filter (baseline Clock.sample).holds)
        (splitRows.filter (recent Clock.sample).holds)
      ≠ answer [] (splitRows.filter (recent Clock.sample).holds)) :
    ¬ SnapshotConsistent (Handler.readInTwo baseline recent answer) {} splitStates
      (answer [] (splitRows.filter (recent Clock.sample).holds)) := by
  rintro ⟨T, hT, U, hU, h⟩
  have hclock : T.clock = Clock.sample := by
    simp only [splitStates, List.mem_cons, List.not_mem_nil, or_false] at hT
    rcases hT with rfl | rfl | rfl | rfl | rfl <;> rfl
  have hevents : U.db.connectionEvents = [] ∨ U.db.connectionEvents = splitRows := by
    simp only [splitStates, List.mem_cons, List.not_mem_nil, or_false] at hU
    rcases hU with rfl | rfl | rfl | rfl | rfl <;> simp [Server.holding]
  rw [hclock] at h
  have hrun := (run_readInTwo (l := {}) (s := { U with clock := .sample }) baseline recent answer
    rfl hb hb').symm.trans h
  rcases hevents with hU | hU
  · rw [hU] at hrun
    exact hempty (Except.ok.inj hrun)
  · rw [hU] at hrun
    exact hfull (Except.ok.inj hrun)

end Split

/-- Answers with different numbers of destinations differ. -/
lemma unusualDestinationsResult_ne {a : UnusualDestinationsArguments}
    {baseline recent baseline' recent' : List StoredEvent}
    (h : (unusualGroups baseline recent).length ≠ (unusualGroups baseline' recent').length) :
    unusualDestinationsResult a baseline recent ≠ unusualDestinationsResult a baseline' recent' := by
  intro heq
  have hfield := congrArg (Json.field "unusual_destinations") heq
  have hitems := Json.arr.inj (Option.some.inj hfield)
  exact h (by simpa using congrArg List.length hitems)

/-- The agent asks for the unusual destinations of PID 42. -/
def sampleArguments : UnusualDestinationsArguments := ⟨⟨42, by decide⟩⟩

/-- The dashboard asks for the unusual destinations of PID 42 in the last half hour. -/
def sampleQuery : UnusualDestinationsQuery :=
  { pid := sampleArguments.pid, recentMinutes := ⟨30, by decide⟩ }

/-- **The answers of `find_unusual_destinations`**, the tool and the endpoint, over every
interleaving of a call with batch commits. -/
theorem unusualDestinations_snapshots {py : Pydantic} {l l' : Session} {s s' : Server}
    {states : List Server} :
    (∀ (a : UnusualDestinationsArguments) (v : Json),
        (findUnusualDestinations a).Passes py l s states (.ok v, l', s') →
          AnswersInTwo (findUnusualDestinations a) (baselineClause a) (lastHourClause a)
            (unusualDestinationsResult a) l states v)
      ∧ ∀ (q : UnusualDestinationsQuery) (v : List UnusualDestinationResponse),
        (Endpoint.findUnusualDestinations q).Passes py l s states (.ok v, l', s') →
          AnswersInTwo (Endpoint.findUnusualDestinations q) (Endpoint.baselineClause q)
            (Endpoint.recentClause q) (Endpoint.unusualDestinations q) l states v :=
  ⟨fun _ _ h => answersInTwo h, fun _ _ h => answersInTwo h⟩

theorem unusualDestinations_snapshots_splitBatch :
    AnswersInTwo (findUnusualDestinations sampleArguments) (baselineClause sampleArguments)
        (lastHourClause sampleArguments) (unusualDestinationsResult sampleArguments) {} splitStates
        (unusualDestinationsResult sampleArguments []
          (splitRows.filter (lastHourClause sampleArguments Clock.sample).holds))
      ∧ AnswersInTwo (Endpoint.findUnusualDestinations sampleQuery)
        (Endpoint.baselineClause sampleQuery) (Endpoint.recentClause sampleQuery)
        (Endpoint.unusualDestinations sampleQuery) {} splitStates
        (Endpoint.unusualDestinations sampleQuery []
          (splitRows.filter (Endpoint.recentClause sampleQuery Clock.sample).holds)) := by
  obtain ⟨_, _, h⟩ := passes_splitStates (baselineClause sampleArguments)
    (lastHourClause sampleArguments) (unusualDestinationsResult sampleArguments) (by decide)
    (by decide)
  obtain ⟨_, _, h'⟩ := passes_splitStates (Endpoint.baselineClause sampleQuery)
    (Endpoint.recentClause sampleQuery) (Endpoint.unusualDestinations sampleQuery) (by decide)
    (by decide)
  exact ⟨unusualDestinations_snapshots.1 _ _ h, unusualDestinations_snapshots.2 _ _ h'⟩

/-- **One batch with an event in each window**: the destination is reported as unusual although
no state of the table makes it so. -/
theorem not_snapshotConsistent_splitBatch :
    (∃ v l' s', (findUnusualDestinations sampleArguments).Passes Pydantic.numeric {}
        (.holding []) splitStates (.ok v, l', s')
      ∧ ¬ SnapshotConsistent (findUnusualDestinations sampleArguments) {} splitStates v)
    ∧ ∃ v l' s', (Endpoint.findUnusualDestinations sampleQuery).Passes
        Pydantic.numeric {} (.holding []) splitStates (.ok v, l', s')
      ∧ ¬ SnapshotConsistent (Endpoint.findUnusualDestinations sampleQuery) {}
        splitStates v := by
  constructor
  · obtain ⟨l', s', h⟩ := passes_splitStates (baselineClause sampleArguments)
      (lastHourClause sampleArguments) (unusualDestinationsResult sampleArguments) (by decide)
      (by decide)
    refine ⟨_, l', s', h, not_snapshotConsistent (by decide) (by decide) ?_ ?_⟩
    · exact unusualDestinationsResult_ne (by decide +kernel)
    · exact unusualDestinationsResult_ne (by decide +kernel)
  · obtain ⟨l', s', h⟩ := passes_splitStates (Endpoint.baselineClause sampleQuery)
      (Endpoint.recentClause sampleQuery) (Endpoint.unusualDestinations sampleQuery) (by decide)
      (by decide)
    refine ⟨_, l', s', h, not_snapshotConsistent (by decide) (by decide) ?_ ?_⟩
    · exact fun h => absurd (congrArg List.length h) (by decide +kernel)
    · exact fun h => absurd (congrArg List.length h) (by decide +kernel)

end TracePilot
