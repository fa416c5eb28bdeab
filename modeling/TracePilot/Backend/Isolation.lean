import TracePilot.Library.Contract
import TracePilot.Backend.Analytics
import TracePilot.Backend.Requests

/-!
# Requests beside each other

`Interference` is what a handler is proved against: the others leave its investigation alone.  That
is a promise about the other handlers, and here they are shown to keep it.  `ownership` is the
contract: a session owns the investigation that it inserted, writes no other row of that table, and
changes no row that is there in the other two.

* `Investigation.Advances` — what a request may make of its investigation: complete it, fail it, or
  fail it after all.
* **`meets_createInvestigation`**, **`meets_debugExecuteAgentTool`** — the writing requests meet the
  contract, whatever fails and whatever the provider does.
* **`request_reaches`** — so a request that runs beside any number of others, starting, failing and
  being cancelled at any time, ends as it can end against `Interference`.
-/

namespace TracePilot

open Resumption

/-- The operations on a database that may fail.  A failure does not change which investigation the
session inserted. -/
def steadyBackend : Behaviour backendInterface Session Server := fun op l s r l' s' =>
  (r, l', s') = backend op l s ∨ Fails op l s r l' s' ∧ l'.own = l.own

/-! ## The life of an investigation -/

/-- The changes of a status: a running investigation is completed or failed, and a completed one
that could not be read back is failed after all. -/
def StatusStep (status status' : String) : Prop :=
  status = "running" ∧ (status' = "completed" ∨ status' = "failed")
    ∨ status = "completed" ∧ status' = "failed"

/-- `j` is the same request as `i`, at the same point or further on. -/
def Investigation.Advances (i j : Investigation) : Prop :=
  i = j ∨ (i.id = j.id ∧ i.question = j.question ∧ i.createdAt = j.createdAt)
    ∧ StatusStep i.status j.status

/-- A row as it is inserted. -/
structure Investigation.New (i : Investigation) : Prop where
  status : i.status = "running"
  answer : i.answer = none
  completedAt : i.completedAt = none

/-- What becomes of the rows under one key. -/
inductive Evolves : List Investigation → List Investigation → Prop
  | same (rows : List Investigation) : Evolves rows rows
  | created {first row : Investigation} (hnew : first.New) (h : first.Advances row) :
      Evolves [] [row]
  | advanced {row row' : Investigation} (h : row.Advances row') : Evolves [row] [row']

lemma StatusStep.trans {a b c : String} (h : StatusStep a b) (h' : StatusStep b c) :
    StatusStep a c := by
  rcases h with ⟨rfl, rfl | rfl⟩ | ⟨rfl, rfl⟩
  · rcases h' with ⟨h', -⟩ | ⟨-, rfl⟩
    · exact absurd h' (by decide)
    · exact Or.inl ⟨rfl, Or.inr rfl⟩
  · rcases h' with ⟨h', -⟩ | ⟨h', -⟩ <;> exact absurd h' (by decide)
  · rcases h' with ⟨h', -⟩ | ⟨h', -⟩ <;> exact absurd h' (by decide)

lemma Investigation.Advances.trans {i j k : Investigation} (h : i.Advances j)
    (h' : j.Advances k) : i.Advances k := by
  rcases h with rfl | ⟨⟨hid, hquestion, hcreated⟩, hstatus⟩
  · exact h'
  · rcases h' with rfl | ⟨⟨hid', hquestion', hcreated'⟩, hstatus'⟩
    · exact Or.inr ⟨⟨hid, hquestion, hcreated⟩, hstatus⟩
    · exact Or.inr ⟨⟨hid.trans hid', hquestion.trans hquestion', hcreated.trans hcreated'⟩,
        hstatus.trans hstatus'⟩

lemma Evolves.trans {rows rows₁ rows₂ : List Investigation} (h : Evolves rows rows₁)
    (h' : Evolves rows₁ rows₂) : Evolves rows rows₂ := by
  cases h with
  | same => exact h'
  | created hnew h =>
      cases h' with
      | same => exact .created hnew h
      | advanced h' => exact .created hnew (h.trans h')
  | advanced h =>
      cases h' with
      | same => exact .advanced h
      | advanced h' => exact .advanced (h.trans h')

/-- A key that is in use stays in use. -/
lemma Evolves.ne_nil {rows rows' : List Investigation} (h : Evolves rows rows')
    (hrows : rows ≠ []) : rows' ≠ [] := by
  cases h with
  | same => exact hrows
  | created => simp
  | advanced => simp

/-! ## The contract -/

/-- What one operation of a session may do to the tables. -/
structure Writes (l : Session) (s : Server) (l' : Session) (s' : Server) : Prop where
  events : s'.db.connectionEvents = s.db.connectionEvents
  calls : s.db.agentToolCalls <+: s'.db.agentToolCalls
  others : ∀ id, s.db.withId id ≠ [] → l.own ≠ some id → s'.db.withId id = s.db.withId id
  evolves : ∀ id, Evolves (s.db.withId id) (s'.db.withId id)
  own : l'.own = l.own ∨ ∃ id, l'.own = some id ∧ s.db.withId id = [] ∧ s'.db.withId id ≠ []

/-- The investigation of a session is stored. -/
def OwnStored (l : Session) (s : Server) : Prop := ∀ id, l.own = some id → s.db.withId id ≠ []

/-- Two sessions inserted different investigations, if any. -/
def OwnApart (l m : Session) : Prop := ∀ id, l.own = some id → m.own ≠ some id

lemma Writes.ownStored {l l' : Session} {s s' : Server} (hl : OwnStored l s)
    (h : Writes l s l' s') : OwnStored l' s' := by
  intro id hid
  rcases h.own with hown | ⟨id', hown, -, hstored⟩
  · exact (h.evolves id).ne_nil (hl id (hown.symm.trans hid))
  · obtain rfl := Option.some.inj (hown.symm.trans hid)
    exact hstored

/-- To a session that inserted something else, one operation of another is interference. -/
lemma Writes.interference {l m l' : Session} {s s' : Server} (hm : OwnStored m s)
    (hapart : OwnApart l m) (h : Writes l s l' s') : Interference m s s' ∧ OwnApart l' m := by
  refine ⟨⟨fun e he => h.events ▸ he, fun c hc => h.calls.subset hc,
    fun id hid => (h.evolves id).ne_nil hid, fun id hid => ?_⟩, fun id hid => ?_⟩
  · exact h.others id (hm id hid) fun hown => hapart id hown hid
  · rcases h.own with hown | ⟨id', hown, hfresh, -⟩
    · exact hapart id (hown.symm.trans hid)
    · obtain rfl := Option.some.inj (hown.symm.trans hid)
      exact fun hown' => hm id' hown' hfresh

/-- **The contract of the requests**: a session owns the investigation that it inserted. -/
def ownership : Contract Session Server where
  Holds := OwnStored
  Rely := Interference
  Guarantee := Writes
  Apart := OwnApart
  rely_refl := Interference.refl
  rely_trans h h' := h.trans h' rfl
  symm h id hm hl := h id hl hm
  stable hl hR id hid := (hR.own id hid).symm ▸ hl id hid
  kept hl h := h.ownStored hl
  respects _ hm hapart h := h.interference hm hapart

/-- A session that inserted nothing. -/
lemma ownStored_empty (s : Server) : OwnStored {} s := fun _ hid => nomatch hid

lemma ownApart_empty (l : Session) : OwnApart {} l := fun _ hid => nomatch hid

/-! ## What the flushes write -/

section Flushes

variable {l l' : Session} {s s' : Server} {db db' : Database} {i c : Investigation}
  {investigationId : Uuid}

/-- An operation that leaves the tables as they are. -/
lemma Writes.of_same (l l' : Session) (s : Server) (hown : l'.own = l.own) : Writes l s l' s :=
  ⟨rfl, List.prefix_refl _, fun _ _ _ => rfl, fun _ => .same _, Or.inl hown⟩

/-- Audit records touch no investigation. -/
lemma AddsRecords.writes (h : AddsRecords investigationId s s') (hown : l'.own = l.own) :
    Writes l s l' s' := by
  obtain ⟨records, -, rfl⟩ := h
  exact ⟨rfl, List.prefix_append _ _, fun _ _ _ => rfl, fun _ => .same _, Or.inl hown⟩

lemma withId_replacing_of_ne {key : Uuid} (h : key ≠ c.id) :
    (db.replacing c).withId key = db.withId key := by
  have hkey : ∀ j : Investigation, (if j.id = c.id then c else j).id = key ↔ j.id = key := by
    intro j
    split_ifs with hj
    · rw [hj]
    · rfl
  simp only [Database.withId, Database.replacing, List.filter_map, Function.comp_def, hkey]
  refine (List.map_congr_left fun j hj => if_neg ?_).trans (List.map_id' _)
  have hj : j.id = key := by simpa using (List.mem_filter.mp hj).2
  exact hj ▸ h

lemma withId_withInvestigation_of_ne {key : Uuid} (h : key ≠ i.id) :
    (db.withInvestigation i).withId key = db.withId key := by
  simp [Database.withId, Database.withInvestigation, List.filter_append, Ne.symm h]

/-- Only the rows under one key changed. -/
lemma evolves_of_key {key₀ : Uuid} (h : Evolves (db.withId key₀) (db'.withId key₀))
    (hother : ∀ key, key ≠ key₀ → db'.withId key = db.withId key) (key : Uuid) :
    Evolves (db.withId key) (db'.withId key) := by
  by_cases hkey : key = key₀
  · exact hkey ▸ h
  · rw [hother key hkey]
    exact .same _

/-- A flush of one new investigation. -/
lemma flush_insert (hflush : s.db.flush [.investigation i] none = some db') (hi : i.New)
    (hown : l'.own = l.own ∨ l'.own = some i.id) :
    Writes l s l' { s with db := db' } ∧ db'.withId i.id = [i] := by
  rw [Database.flush_investigation] at hflush
  split_ifs at hflush with hfits
  obtain rfl := Option.some.inj hflush
  have hrow : (s.db.withInvestigation i).withId i.id = [i] :=
    Database.withId_withInvestigation hfits.2
  have hother : ∀ key, key ≠ i.id →
      (s.db.withInvestigation i).withId key = s.db.withId key :=
    fun key => withId_withInvestigation_of_ne
  refine ⟨⟨rfl, List.prefix_refl _, fun key hkey _ => ?_, evolves_of_key ?_ hother, ?_⟩, hrow⟩
  · exact hother key fun h => hkey (h ▸ hfits.2)
  · rw [hfits.2, hrow]
    exact .created hi (Or.inl rfl)
  · refine hown.imp_right fun h => ⟨i.id, h, hfits.2, ?_⟩
    exact fun hnil => List.cons_ne_nil i [] (hrow.symm.trans hnil)

/-- The session holds no other new rows than audit records of one investigation. -/
def Recording (investigationId : Uuid) (l : Session) : Prop :=
  ∀ d ∈ l.new, ∃ toolName arguments result,
    d = .agentToolCall investigationId toolName arguments result

/-- The rows that such a session would insert. -/
lemma pending_records (hnew : Recording investigationId l) (s : Server) :
    ∀ row ∈ l.pending s, ∃ call : AgentToolCall, row = .agentToolCall call
      ∧ call.investigationId = investigationId := by
  intro row hrow
  obtain ⟨d, hd, rfl⟩ := List.mem_map.mp hrow
  obtain ⟨toolName, arguments, result, rfl⟩ := hnew d hd
  exact ⟨_, rfl, rfl⟩

/-- A flush of audit records. -/
lemma flush_records (hl : Auditing investigationId l)
    (hflush : s.db.flush (l.pending s) l.changed = some db') :
    AddsRecords investigationId s { s with db := db' } := by
  rw [hl.changed] at hflush
  obtain ⟨db₁, hinsert, hdb⟩ := Option.bind_eq_some_iff.mp hflush
  obtain ⟨records, hrecords, rfl⟩ := foldlM_insert_records (pending_records hl.new s) hinsert
  obtain rfl := Option.some.inj hdb
  exact ⟨records, hrecords, rfl⟩

/-- A flush of audit records and of a change of the own investigation. -/
lemma flush_change (hnew : Recording investigationId l)
    (hstored : StoredAs i l s) (hc : i.Advances c) (hid : i.id = c.id)
    (hflush : s.db.flush (l.pending s) (some c) = some db') (hown : l'.own = l.own) :
    Writes l s l' { s with db := db' } ∧ StoredAs c l' { s with db := db' } := by
  obtain ⟨db₁, hinsert, hupdate⟩ := Option.bind_eq_some_iff.mp hflush
  obtain ⟨records, -, rfl⟩ := foldlM_insert_records (pending_records hnew s) hinsert
  change Database.update _ c = some db' at hupdate
  rw [Database.update] at hupdate
  split_ifs at hupdate
  obtain rfl := Option.some.inj hupdate
  have hrow : s.db.withId c.id = [i] := hid ▸ hstored.row
  have hrow' : (Database.replacing { s.db with
      agentToolCalls := s.db.agentToolCalls ++ records } c).withId c.id = [c] :=
    Database.withId_replacing hrow
  have hother : ∀ key, key ≠ c.id → (Database.replacing { s.db with
      agentToolCalls := s.db.agentToolCalls ++ records } c).withId key = s.db.withId key :=
    fun key => withId_replacing_of_ne
  refine ⟨⟨rfl, List.prefix_append _ _, fun key _ hkey => ?_, evolves_of_key ?_ hother,
    Or.inl hown⟩, hown.trans (hstored.own.trans (congrArg some hid)), hrow'⟩
  · refine hother key fun h => hkey ?_
    rw [h, hstored.own, hid]
  · rw [hrow, hrow']
    exact .advanced hc

/-- Audit records leave the session the owner of what it inserted. -/
lemma own_flushed (hnew : Recording investigationId l) :
    (l.flushed s).own = l.own := by
  refine (congrArg (Option.or · l.own) (List.findSome?_eq_none_iff.mpr fun row hrow => ?_)).trans
    Option.none_or
  obtain ⟨call, rfl, -⟩ := pending_records hnew s row hrow
  rfl

end Flushes

/-! ## What the operations do -/

section Operations

variable {l l' : Session} {s s' : Server} {i c : Investigation} {investigationId : Uuid}

/-- A failure leaves a part of the pending work at most. -/
lemma Session.AfterFailure.records (h : l.AfterFailure l') (hnew : Recording investigationId l) :
    Recording investigationId l' := by
  rcases h.new with h | h
  · rwa [Recording, h]
  · simp [Recording, h]

lemma Auditing.afterFailure (hl : Auditing investigationId l) (h : l.AfterFailure l') :
    Auditing investigationId l' := by
  refine ⟨h.records hl.new, ?_⟩
  rcases h.changed with h | h
  · exact h.trans hl.changed
  · exact h

/-- Each operation of an agent, whether it works or fails. -/
lemma agentOp_steady {op : DbOp} {r : op.Reply} (hop : AgentOp investigationId op)
    (hl : Auditing investigationId l) (h : steadyBackend op l s r l' s') :
    Auditing investigationId l' ∧ l'.own = l.own ∧ AddsRecords investigationId s s' := by
  rcases h with h | ⟨h, hown⟩
  · obtain ⟨hl', hs'⟩ := agentOp_step op l s hop hl
    rw [← h] at hl' hs'
    refine ⟨hl', ?_, hs'⟩
    have hl'' : l' = (backend op l s).2.1 := congrArg (fun o => o.2.1) h
    rw [hl'']
    cases op with
    | now => rfl
    | invoke toolName arguments => rfl
    | add draft => rfl
    | change investigation => rfl
    | refresh => exact hop.elim
    | select clause =>
        change (selectStep clause l s).2.1.own = l.own
        unfold selectStep
        split_ifs <;> rfl
    | commit =>
        change (commitStep l s).2.1.own = l.own
        unfold commitStep
        split_ifs
        · rfl
        · cases s.db.flush (l.pending s) l.changed with
          | none => rfl
          | some db => exact own_flushed hl.new
  · cases op with
    | select clause =>
        obtain ⟨-, hafter, rfl⟩ := h
        exact ⟨hl.afterFailure hafter, hown, .refl _⟩
    | commit =>
        obtain ⟨-, hafter, rfl | ⟨db, hflush, rfl⟩⟩ := h
        · exact ⟨hl.afterFailure hafter, hown, .refl _⟩
        · exact ⟨hl.afterFailure hafter, hown, flush_records hl hflush⟩
    | refresh => exact hop.elim
    | now => exact h.elim
    | invoke toolName arguments => exact h.elim
    | add draft => exact h.elim
    | change investigation => exact h.elim

/-- Reading the own row back, whether it works or fails. -/
lemma refresh_steady {r : Except PyException Investigation} (hstored : StoredAs i l s)
    (h : steadyBackend .refresh l s r l' s') :
    l.AfterFailure l' ∧ l'.own = l.own ∧ s' = s ∧ ∀ j, r = .ok j → j = i := by
  rcases h with h | ⟨⟨⟨e, rfl⟩, hafter, rfl⟩, hown⟩
  · change _ = refreshStep l s at h
    unfold refreshStep at h
    split_ifs at h
    · obtain ⟨rfl, rfl, rfl⟩ : r = _ ∧ l' = _ ∧ s' = _ := by simpa using h
      exact ⟨⟨Or.inl rfl, Or.inl rfl⟩, rfl, rfl, fun j hj => error_ne_ok hj⟩
    · simp only [hstored.own, Option.bind_some, hstored.row, List.head?_cons] at h
      obtain ⟨rfl, rfl, rfl⟩ : r = _ ∧ l' = _ ∧ s' = _ := by simpa using h
      exact ⟨⟨Or.inl rfl, Or.inl rfl⟩, rfl, rfl, fun j hj => (Except.ok.inj hj).symm⟩
  · exact ⟨hafter, hown, rfl, fun j hj => error_ne_ok hj⟩

/-- Committing a change of the own row, whether it works or fails. -/
lemma commitChange_steady {r : Except PyException Unit} (h : steadyBackend .commit l s r l' s')
    (hnew : Recording investigationId l) (hchanged : l.changed = some c) (hstored : StoredAs i l s)
    (hc : i.Advances c) (hid : i.id = c.id) :
    Writes l s l' s' ∧ Recording investigationId l' ∧ (StoredAs i l' s' ∨ StoredAs c l' s')
      ∧ (r = .ok () → StoredAs c l' s') := by
  rcases h with h | ⟨⟨⟨e, rfl⟩, hafter, rfl | ⟨db, hflush, rfl⟩⟩, hown⟩
  · change _ = commitStep l s at h
    unfold commitStep at h
    split_ifs at h
    · obtain ⟨rfl, rfl, rfl⟩ : r = _ ∧ l' = _ ∧ s' = _ := by simpa using h
      exact ⟨.of_same _ _ _ rfl, hnew, Or.inl hstored, fun hr => error_ne_ok hr⟩
    · cases hflush : s.db.flush (l.pending s) l.changed with
      | none =>
          rw [hflush] at h
          obtain ⟨rfl, rfl, rfl⟩ : r = _ ∧ l' = _ ∧ s' = _ := by simpa using h
          exact ⟨.of_same _ _ _ rfl, by simp [Recording, Session.rolledBack],
            Or.inl ⟨hstored.own, hstored.row⟩, fun hr => error_ne_ok hr⟩
      | some db =>
          rw [hflush] at h
          obtain ⟨rfl, rfl, rfl⟩ : r = _ ∧ l' = _ ∧ s' = _ := by simpa using h
          rw [hchanged] at hflush
          obtain ⟨hwrites, hrow⟩ := flush_change hnew hstored hc hid hflush (own_flushed hnew)
          exact ⟨hwrites, by simp [Recording, Session.flushed], Or.inr hrow, fun _ => hrow⟩
  · exact ⟨.of_same _ _ _ hown, hafter.records hnew,
      Or.inl ⟨hown.trans hstored.own, hstored.row⟩, fun hr => error_ne_ok hr⟩
  · rw [hchanged] at hflush
    obtain ⟨hwrites, hrow⟩ := flush_change hnew hstored hc hid hflush hown
    exact ⟨hwrites, hafter.records hnew, Or.inr hrow, fun hr => error_ne_ok hr⟩

/-- Committing the first row of a request, whether it works or fails. -/
lemma commitInsert_steady {r : Except PyException Unit} {question : String}
    (hnew : l.new = [.investigation question "running"]) (hchanged : l.changed = none)
    (h : steadyBackend .commit l s r l' s') :
    Writes l s l' s' ∧ (r = .ok () →
      ∃ i : Investigation, i.New ∧ StoredAs i l' s' ∧ Auditing i.id l') := by
  have hpending : l.pending s
      = [.investigation ⟨s.uuid4, question, "running", none, s.clock.1, none⟩] := by
    rw [Session.pending, hnew]
    rfl
  rcases h with h | ⟨⟨⟨e, rfl⟩, hafter, rfl | ⟨db, hflush, rfl⟩⟩, hown⟩
  · change _ = commitStep l s at h
    unfold commitStep at h
    split_ifs at h
    · obtain ⟨rfl, rfl, rfl⟩ : r = _ ∧ l' = _ ∧ s' = _ := by simpa using h
      exact ⟨.of_same _ _ _ rfl, fun hr => error_ne_ok hr⟩
    · cases hflush : s.db.flush (l.pending s) l.changed with
      | none =>
          rw [hflush] at h
          obtain ⟨rfl, rfl, rfl⟩ : r = _ ∧ l' = _ ∧ s' = _ := by simpa using h
          exact ⟨.of_same _ _ _ rfl, fun hr => error_ne_ok hr⟩
      | some db =>
          rw [hflush] at h
          obtain ⟨rfl, rfl, rfl⟩ : r = _ ∧ l' = _ ∧ s' = _ := by simpa using h
          have hown : (l.flushed s).own = some s.uuid4 := by
            rw [Session.flushed, hpending]
            rfl
          rw [hpending, hchanged] at hflush
          obtain ⟨hwrites, hrow⟩ := flush_insert hflush ⟨rfl, rfl, rfl⟩ (Or.inr hown)
          exact ⟨hwrites, fun _ => ⟨_, ⟨rfl, rfl, rfl⟩, ⟨hown, hrow⟩,
            ⟨by simp [Session.flushed], rfl⟩⟩⟩
  · exact ⟨.of_same _ _ _ hown, fun hr => error_ne_ok hr⟩
  · rw [hpending, hchanged] at hflush
    exact ⟨(flush_insert hflush ⟨rfl, rfl, rfl⟩ (Or.inl hown)).1, fun hr => error_ne_ok hr⟩

end Operations

/-! ## The handlers -/

section Handlers

variable {α : Type} {lib : Libraries} {u : Unicode} {l : Session} {s : Server}
  {i : Investigation} {investigationId : Uuid}

/-- The handler meets the contract of the requests, and it ends with `Q`. -/
abbrev Handler.Meets (p : Handler α) (Q : Except PyException α → Session → Server → Prop)
    (l : Session) (s : Server) : Prop :=
  Task.Meets steadyBackend ownership p Q l s

lemma Handler.Meets.mono {p : Handler α} {Q Q' : Except PyException α → Session → Server → Prop}
    (h : p.Meets Q l s) (hQ : ∀ r l' s', Q r l' s' → Q' r l' s') : p.Meets Q' l s :=
  Proc.Meets.mono h hQ

/-- Sequencing, with an obligation for each way the first handler may end. -/
lemma Handler.Meets.bind {β : Type} {p : Handler α} {f : α → Handler β}
    {P : Except PyException α → Session → Server → Prop}
    {Q : Except PyException β → Session → Server → Prop} (hp : p.Meets P l s)
    (herror : ∀ e l' s', P (.error e) l' s' → Q (.error e) l' s')
    (hok : ∀ a l' s', P (.ok a) l' s' → (f a).Meets Q l' s') : (p >>= f).Meets Q l s := by
  refine (Task.meets_bind _ _ _ _ _).mpr (hp.mono ?_)
  intro r l' s' hr
  cases r with
  | ok a => exact hok a l' s' hr
  | error e => exact herror e l' s' hr

lemma meets_add {d : Draft} {Q : Except PyException Unit → Session → Server → Prop}
    (h : ∀ s₁, Interference l s s₁ → Q (.ok ()) { l with new := l.new ++ [d] } s₁) :
    (Handler.add d).Meets Q l s := by
  intro s₁ h₁ r l' s' hstep
  rcases hstep with hstep | ⟨hstep, -⟩
  · cases hstep
    exact ⟨.of_same _ _ _ rfl, h _ h₁⟩
  · exact hstep.elim

lemma meets_change {c : Investigation} {Q : Except PyException Unit → Session → Server → Prop}
    (h : ∀ s₁, Interference l s s₁ → Q (.ok ()) { l with changed := some c } s₁) :
    (Handler.change c).Meets Q l s := by
  intro s₁ h₁ r l' s' hstep
  rcases hstep with hstep | ⟨hstep, -⟩
  · cases hstep
    exact ⟨.of_same _ _ _ rfl, h _ h₁⟩
  · exact hstep.elim

lemma meets_commit {Q : Except PyException Unit → Session → Server → Prop}
    (h : ∀ s₁ r l' s', Interference l s s₁ → steadyBackend .commit l s₁ r l' s' →
      Writes l s₁ l' s' ∧ Q r l' s') : Handler.commit.Meets Q l s :=
  (Task.meets_bind _ _ _ _ _).mpr fun s₁ h₁ r l' s' hstep => h s₁ r l' s' h₁ hstep

/-- The own row is read back as it is stored. -/
lemma meets_refresh (hstored : StoredAs i l s) :
    Handler.refresh.Meets (fun r l' s' => l.AfterFailure l' ∧ StoredAs i l' s'
      ∧ ∀ j, r = .ok j → j = i) l s := by
  refine (Task.meets_bind _ _ _ _ _).mpr fun s₁ h₁ r l' s' hstep => ?_
  have h := hstored.mono h₁
  obtain ⟨hafter, hown, rfl, hr⟩ := refresh_steady h hstep
  exact ⟨.of_same _ _ _ hown, hafter, ⟨hown.trans h.own, h.row⟩, hr⟩

/-- A handler that keeps to the operations of an agent. -/
lemma meets_of_agentOps {p : Handler α} (hp : p.Only (AgentOp investigationId))
    (hl : Auditing investigationId l) :
    p.Meets (fun _ l' _ => Auditing investigationId l') l s := by
  refine Proc.meets_of_only (fun _ _ _ h _ => h) ?_ hp hl
  intro op l s r l' s' hop hl h
  obtain ⟨hl', hown, hadds⟩ := agentOp_steady hop hl h
  exact ⟨hadds.writes hown, hl'⟩

/-- The same on behalf of an investigation, which it leaves as it is. -/
lemma meets_storedAs {p : Handler α} (hp : p.Only (AgentOp i.id)) (hl : Auditing i.id l)
    (hstored : StoredAs i l s) :
    p.Meets (fun _ l' s' => Auditing i.id l' ∧ StoredAs i l' s') l s := by
  refine Proc.meets_of_only (fun _ _ _ h hR => ⟨h.1, h.2.mono hR⟩) ?_ hp ⟨hl, hstored⟩
  rintro op l s r l' s' hop ⟨hl, hstored⟩ h
  obtain ⟨hl', hown, hadds⟩ := agentOp_steady hop hl h
  refine ⟨hadds.writes hown, hl', hown.trans hstored.own, ?_⟩
  obtain ⟨records, -, rfl⟩ := hadds
  exact hstored.row

lemma StoredAs.changing (hstored : StoredAs i l s) (c : Option Investigation) :
    StoredAs i { l with changed := c } s :=
  ⟨hstored.own, hstored.row⟩

/-- **Where the `try` block may leave its investigation**: it still runs, or it is completed. -/
def Unfinished (i : Investigation) (l : Session) (s : Server) : Prop :=
  Recording i.id l ∧ ∃ row, StoredAs row l s
    ∧ (row.id = i.id ∧ row.question = i.question ∧ row.createdAt = i.createdAt)
    ∧ (row.status = "running" ∨ row.status = "completed")

lemma StoredAs.unfinished (hstored : StoredAs i l s) (hnew : Recording i.id l)
    (hi : i.status = "running") : Unfinished i l s :=
  ⟨hnew, i, hstored, ⟨rfl, rfl, rfl⟩, Or.inl hi⟩

/-- **What a request that returns has done**: its answer is the stored row, completed. -/
def Completed (r : Except PyException Investigation) (l : Session) (s : Server) : Prop :=
  ∀ j, r = .ok j → StoredAs j l s ∧ j.status = "completed"

/-- The `try` block makes one change to the row. -/
lemma meets_completeInvestigation (env : Environment) (hl : Auditing i.id l)
    (hstored : StoredAs i l s) (hi : i.status = "running") :
    (completeInvestigation lib u env i).Meets
      (fun r l' s' => Unfinished i l' s' ∧ Completed r l' s') l s := by
  have herror : ∀ e l' s', Auditing i.id l' ∧ StoredAs i l' s' →
      Unfinished i l' s' ∧ Completed (.error e) l' s' :=
    fun e l' s' h => ⟨h.2.unfinished h.1.new hi, fun j hj => error_ne_ok hj⟩
  refine (meets_storedAs (only_runInvestigationAgent u env i.question none) hl hstored).bind
    herror ?_
  rintro answer l₁ s₁ ⟨hl₁, hstored₁⟩
  refine (meets_storedAs only_now hl₁ hstored₁).bind herror ?_
  rintro completedAt l₂ s₂ ⟨hl₂, hstored₂⟩
  obtain ⟨c, hc⟩ : ∃ c : Investigation, c = { i with
    answer := some answer
    status := "completed"
    completedAt := some completedAt.1 } := ⟨_, rfl⟩
  have hadvances : i.Advances c := by
    rw [hc]
    exact Or.inr ⟨⟨rfl, rfl, rfl⟩, Or.inl ⟨hi, Or.inl rfl⟩⟩
  have hcompleted : ∀ {l' s'}, StoredAs c l' s' → Recording i.id l' → Unfinished i l' s' :=
    fun h hnew => ⟨hnew, c, h, by simp [hc], Or.inr (by simp [hc])⟩
  rw [← hc]
  refine (Task.meets_bind _ _ _ _ _).mpr (meets_change fun s₃ h₃ => ?_)
  refine Handler.Meets.bind (P := fun r l' s' => Recording i.id l'
    ∧ (StoredAs i l' s' ∨ StoredAs c l' s') ∧ (r = .ok () → StoredAs c l' s'))
    (meets_commit fun s₄ r l' s' h₄ hstep => ?_) ?_ ?_
  · exact commitChange_steady hstep hl₂.new rfl (((hstored₂.mono h₃).changing _).mono h₄) hadvances
      (by rw [hc])
  · rintro e l' s' ⟨hnew, hrow | hrow, -⟩
    · exact ⟨hrow.unfinished hnew hi, fun j hj => error_ne_ok hj⟩
    · exact ⟨hcompleted hrow hnew, fun j hj => error_ne_ok hj⟩
  · rintro _ l₅ s₅ ⟨hnew, -, hrow⟩
    refine (meets_refresh (hrow rfl)).mono ?_
    rintro r l' s' ⟨hafter, hrow', hj⟩
    refine ⟨hcompleted hrow' (hafter.records hnew), fun j hr => ?_⟩
    obtain rfl := hj j hr
    exact ⟨hrow', by rw [hc]⟩

/-- The `except` block makes the last one. -/
lemma meets_failInvestigation (h : Unfinished i l s) :
    (failInvestigation i).Meets Completed l s := by
  have hraises : ∀ e l' s', Completed (.error e) l' s' := fun e l' s' j hj => error_ne_ok hj
  obtain ⟨hnew, row, hstored, ⟨hid, hquestion, hcreated⟩, hstatus⟩ := h
  have hnow : Handler.now.Meets (fun _ l' s' => Recording i.id l' ∧ StoredAs row l' s') l s := by
    intro s₁ h₁ r l' s' hstep
    rcases hstep with hstep | ⟨hstep, -⟩
    · cases hstep
      exact ⟨.of_same _ _ _ rfl, hnew, hstored.mono h₁⟩
    · exact hstep.elim
  refine hnow.bind (fun _ _ _ _ => hraises _ _ _) ?_
  rintro completedAt l₁ s₁ ⟨hnew₁, hstored₁⟩
  have hadvances : row.Advances { i with
      status := "failed"
      answer := some failedAnswer
      completedAt := some completedAt.1 } :=
    Or.inr ⟨⟨hid, hquestion, hcreated⟩,
      hstatus.elim (fun h => Or.inl ⟨h, Or.inr rfl⟩) fun h => Or.inr ⟨h, rfl⟩⟩
  refine (Task.meets_bind _ _ _ _ _).mpr (meets_change fun s₂ h₂ => ?_)
  refine Handler.Meets.bind (P := fun _ _ _ => True) (meets_commit fun s₃ r l' s' h₃ hstep => ?_)
    (fun _ _ _ _ => hraises _ _ _) fun _ _ _ _ => hraises _ _ _
  exact ⟨(commitChange_steady hstep hnew₁ rfl (((hstored₁.mono h₂).changing _).mono h₃) hadvances
    hid).1, trivial⟩

/-- **An investigation request meets the contract.** -/
theorem meets_createInvestigation (env : Environment) (investigationData : InvestigationCreate)
    (s : Server) : (createInvestigation lib u env investigationData).Meets Completed {} s := by
  have hraises : ∀ e l' s', Completed (.error e) l' s' := fun e l' s' j hj => error_ne_ok hj
  refine (Task.meets_bind _ _ _ _ _).mpr (meets_add fun s₁ _ => ?_)
  refine Handler.Meets.bind (P := fun r l' s' => r = .ok () →
    ∃ i : Investigation, i.New ∧ StoredAs i l' s' ∧ Auditing i.id l')
    (meets_commit fun s₂ r l' s' _ hstep => commitInsert_steady rfl rfl hstep)
    (fun _ _ _ _ => hraises _ _ _) ?_
  intro _ l₂ s₂ h
  obtain ⟨i, hi, hstored, hl⟩ := h rfl
  refine (meets_refresh hstored).bind (fun _ _ _ _ => hraises _ _ _) ?_
  rintro j l₃ s₃ ⟨hafter, hstored₃, hj⟩
  obtain rfl := hj j rfl
  refine (Task.meets_tryCatch _ _ _ _ _).mpr
    ((meets_completeInvestigation env (hl.afterFailure hafter) hstored₃ hi.status).mono ?_)
  rintro r l₄ s₄ ⟨hunfinished, hcompleted⟩
  cases r with
  | ok answer => exact hcompleted
  | error e => exact meets_failInvestigation hunfinished

/-- **So does a debug execution**, which owns no investigation. -/
theorem meets_debugExecuteAgentTool (found : Bool) (request : AgentToolExecutionRequest)
    (s : Server) :
    (debugExecuteAgentTool lib investigationId found request).Meets (fun _ _ _ => True) {} s := by
  rw [debugExecuteAgentTool]
  cases found with
  | false => trivial
  | true =>
      have honly : (executeAgentTool lib request.toolName (.obj request.arguments)
          investigationId).Only (AgentOp investigationId) := only_executeAgentTool _ _
      refine (Task.meets_tryCatch _ _ _ _ _).mpr
        ((meets_of_agentOps honly ⟨by simp, rfl⟩).bind ?_ fun _ _ _ _ => trivial)
      intro e l' s' _
      cases e <;> trivial

end Handlers

/-! ## The system -/

section System

variable (lib : Libraries) (u : Unicode)

/-- The requests that a session of its own serves, and the handler that answers each. -/
inductive Request (s : Server) : (α : Type) → Handler α → Prop
  | createInvestigation (env : Environment) (investigationData : InvestigationCreate) :
      Request s Investigation (createInvestigation lib u env investigationData)
  | debugExecuteAgentTool (investigationId : Uuid) (request : AgentToolExecutionRequest) :
      Request s DebugReply (debugExecuteAgentTool lib investigationId
        (decide (s.db.withId investigationId ≠ [])) request)
  | getProcessConnections (pid : ℤ) : Request s _ (Endpoint.getProcessConnections pid)
  | getTopProcesses (q : TopProcessesQuery) : Request s _ (Endpoint.getTopProcesses q)
  | findConnectionBursts (q : ConnectionBurstsQuery) :
      Request s _ (Endpoint.findConnectionBursts q)
  | findUnusualDestinations (q : UnusualDestinationsQuery) :
      Request s _ (Endpoint.findUnusualDestinations q)
  | findHighUniqueDestinations (q : HighUniqueDestinationsQuery) :
      Request s _ (Endpoint.findHighUniqueDestinations q)

/-- The states that the system reaches while no failure makes a session forget its investigation. -/
abbrev SteadyReaches : Pool backendInterface Session Server →
    Pool backendInterface Session Server → Prop :=
  Pool.Reaches steadyBackend (Starts lib u) (Elsewhere lib)

/-- The states that a handler and the system beside it reach. -/
abbrev BesideReaches {α : Type} (B : Behaviour backendInterface Session Server) (p : Handler α)
    (x : Pool backendInterface Session Server) (r : Except PyException α) (l' : Session)
    (x' : Pool backendInterface Session Server) : Prop :=
  Beside.Reaches B steadyBackend (Starts lib u) (Elsewhere lib) ⟨ExceptT.run p, {}, x⟩
    ⟨.ret r, l', x'⟩

variable {lib u} {s : Server}

/-- What happens elsewhere is interference. -/
lemma interference_elsewhere {s' : Server} (h : Elsewhere lib s s') (l : Session) :
    Interference l s s' := by
  cases h with
  | createEvent h => exact ⟨fun e he => List.mem_append_left _ he, fun c hc => hc,
      fun id hid => hid, fun _ _ => rfl⟩
  | createEventBatch h =>
      obtain ⟨_, _, _, -, hdb⟩ := h
      constructor <;> simp +contextual [Database.withId, hdb]
  | ticks clock uuid4 => exact ⟨fun e he => he, fun c hc => hc, fun id hid => hid, fun _ _ => rfl⟩

/-- **The requests that start meet the contract**, and ingestion does not break it. -/
lemma ownership_admits : ownership.Admits steadyBackend (Starts lib u) (Elsewhere lib) where
  rely _ h := interference_elsewhere h _
  guarded h := by
    cases h with
    | createInvestigation env investigationData =>
        exact ⟨ownStored_empty _, (meets_createInvestigation env investigationData _).ofTask⟩
    | debugExecuteAgentTool investigationId request =>
        exact ⟨ownStored_empty _, (meets_debugExecuteAgentTool _ request _).ofTask⟩
  apart h _ := by
    cases h <;> exact ownApart_empty _

/-- Every reachable state is isolated. -/
lemma SteadyReaches.isolated {s₀ : Server} {x : Pool backendInterface Session Server}
    (h : SteadyReaches lib u ⟨[], s₀⟩ x) : x.Isolated steadyBackend ownership :=
  (Pool.isolated_nil s₀).reaches ownership_admits h

/-- Every request meets the contract. -/
lemma Request.meets {α : Type} {p : Handler α} (h : Request lib u s α p) :
    p.Meets (fun _ _ _ => True) {} s := by
  have hread : ∀ {β : Type} {p : Handler β}, (∀ id, p.Only (AgentOp id)) →
      p.Meets (fun _ _ _ => True) {} s := by
    intro β p hp
    refine (meets_of_agentOps (hp 0) ⟨?_, rfl⟩).mono fun _ _ _ _ => trivial
    simp
  cases h with
  | createInvestigation env investigationData =>
      exact (meets_createInvestigation env investigationData s).mono fun _ _ _ _ => trivial
  | debugExecuteAgentTool investigationId request =>
      exact meets_debugExecuteAgentTool _ request s
  | getProcessConnections pid =>
      exact hread fun _ => (only_select _).bind fun _ => Task.only_pure _ _
  | getTopProcesses q =>
      exact hread fun _ => only_now.bind fun _ => (only_select _).bind fun _ => Task.only_pure _ _
  | findConnectionBursts q =>
      exact hread fun _ => only_now.bind fun _ => (only_select _).bind fun _ => Task.only_pure _ _
  | findUnusualDestinations q =>
      exact hread fun _ => only_now.bind fun _ => (only_select _).bind fun _ =>
        (only_select _).bind fun _ => Task.only_pure _ _
  | findHighUniqueDestinations q =>
      exact hread fun _ => only_now.bind fun _ => (only_select _).bind fun _ => Task.only_pure _ _

/-- A handler beside an isolated system aims at what it meets alone. -/
lemma aims_of_meets {α : Type} {B : Behaviour backendInterface Session Server} {p : Handler α}
    {Q : Except PyException α → Session → Server → Prop}
    {x : Pool backendInterface Session Server} (hx : x.Isolated steadyBackend ownership)
    (hp : Proc.Meets B ownership (ExceptT.run p) Q {} x.shared) :
    Beside.Aims B steadyBackend ownership Q ⟨ExceptT.run p, {}, x⟩ :=
  ⟨hx, ownStored_empty _, fun _ _ => ownApart_empty _, x.shared, Interference.refl _ _, hp⟩

/-- **What holds of a request against `Interference` holds of it beside the system**, up to what the
others did since its last operation. -/
lemma Request.ends {s₀ : Server} {x x' : Pool backendInterface Session Server} {α : Type}
    {p : Handler α} (hp : Request lib u x.shared α p) (hx : SteadyReaches lib u ⟨[], s₀⟩ x)
    {Q : Except PyException α → Session → Server → Prop} (hQ : p.wp Q {} x.shared)
    {r : Except PyException α} {l' : Session}
    (h : BesideReaches lib u (.ofMachine backend) p x r l' x') :
    ∃ s', Q r l' s' ∧ Interference l' s' x'.shared := by
  have hmeets : Proc.Meets (.ofMachine backend) ownership (ExceptT.run p) (fun _ _ _ => True) {}
      x.shared :=
    Proc.Meets.of_le (fun _ _ _ _ _ _ h => Or.inl h) hp.meets
  obtain ⟨s', hreaches, hrely⟩ := (aims_of_meets hx.isolated hmeets.reaches).reaches
    (Q := fun r l' s' => p.Reaches {} x.shared (r, l', s')) ownership_admits h
  exact ⟨s', Handler.wp_iff_forall_reaches.mp hQ _ hreaches, hrely⟩

/-- **A request beside the system ends as it can end against `Interference`**, whatever other
requests start, fail or are cancelled meanwhile.  What they did since its last operation is
interference, too. -/
theorem request_reaches {s₀ : Server} {x x' : Pool backendInterface Session Server}
    (hx : SteadyReaches lib u ⟨[], s₀⟩ x) {α : Type} {p : Handler α}
    (hp : Request lib u x.shared α p) {r : Except PyException α} {l' : Session}
    (h : BesideReaches lib u (.ofMachine backend) p x r l' x') :
    ∃ s', p.Reaches {} x.shared (r, l', s') ∧ Interference l' s' x'.shared :=
  hp.ends (Q := fun r l' s' => p.Reaches {} x.shared (r, l', s')) hx
    (Handler.wp_iff_forall_reaches.mpr fun _ ho => ho) h

/-- **The answer of an investigation request endures**: the row that a client was given is the only
one stored under its key, completed, and it is what a client is given under that key, now and in
every later state. -/
theorem answer_endures {s₀ : Server} {x x' : Pool backendInterface Session Server}
    (hx : SteadyReaches lib u ⟨[], s₀⟩ x) {env : Environment}
    {investigationData : InvestigationCreate} {j : Investigation} {l' : Session}
    (h : BesideReaches lib u steadyBackend (createInvestigation lib u env investigationData) x
      (.ok j) l' x') :
    x'.shared.db.withId j.id = [j] ∧ j.status = "completed"
      ∧ getInvestigation x'.shared.db j.id = .ok j := by
  obtain ⟨s', hcompleted, hrely⟩ := (aims_of_meets hx.isolated
    (meets_createInvestigation env investigationData x.shared)).reaches ownership_admits h
  obtain ⟨hstored, hstatus⟩ := hcompleted j rfl
  have hrow := (StoredAs.mono hstored hrely).row
  refine ⟨hrow, hstatus, ?_⟩
  rw [getInvestigation, hrow]

/-- A server without any row, on which the sample request has started. -/
def busyServer : Pool backendInterface Session Server := ⟨[sampleRequest], .empty⟩

lemma steadyReaches_busyServer : SteadyReaches .strict .ascii ⟨[], .empty⟩ busyServer := by
  have hstart : SteadyReaches .strict .ascii ⟨[], .empty⟩ ⟨[] ++ [sampleRequest], .empty⟩ :=
    .single (.start (.createInvestigation _ _))
  exact hstart

/-- The sample request as a handler. -/
def sampleHandler : Handler Investigation :=
  createInvestigation .strict .ascii (.hosted "find_connection_bursts") sampleQuestion

lemma exists_sampleAnswer : ∃ j, (sampleHandler.run {} .empty).1 = .ok j := by
  have hok : (sampleHandler.run {} .empty).1.toBool = true := by decide +kernel
  cases hr : (sampleHandler.run {} .empty).1 with
  | ok j => exact ⟨j, rfl⟩
  | error e =>
      rw [hr] at hok
      cases hok

/-- Beside the first request, which does nothing meanwhile, it is through. -/
lemma besideReaches_sampleHandler {B : Behaviour backendInterface Session Server}
    (hB : ∀ op l s, B op l s (backend op l s).1 (backend op l s).2.1 (backend op l s).2.2) :
    BesideReaches .strict .ascii B sampleHandler busyServer (sampleHandler.run {} .empty).1
      (sampleHandler.run {} .empty).2.1 ⟨[sampleRequest], (sampleHandler.run {} .empty).2.2⟩ :=
  Beside.reaches_run hB _ _ _ _

/-- A second request beside the first one, which is through before that goes on. -/
theorem request_reaches_busyServer :
    ∃ s', sampleHandler.Reaches {} .empty
        ((sampleHandler.run {} .empty).1, (sampleHandler.run {} .empty).2.1, s')
      ∧ Interference (sampleHandler.run {} .empty).2.1 s' (sampleHandler.run {} .empty).2.2 :=
  request_reaches steadyReaches_busyServer (.createInvestigation _ _)
    (besideReaches_sampleHandler fun _ _ _ => rfl)

theorem answer_endures_busyServer :
    ∃ j, (sampleHandler.run {} .empty).1 = .ok j
      ∧ (sampleHandler.run {} .empty).2.2.db.withId j.id = [j] ∧ j.status = "completed"
      ∧ getInvestigation (sampleHandler.run {} .empty).2.2.db j.id = .ok j := by
  obtain ⟨j, hr⟩ := exists_sampleAnswer
  have hrun := besideReaches_sampleHandler (B := steadyBackend) fun _ _ _ => Or.inl rfl
  rw [hr] at hrun
  exact ⟨j, hr, answer_endures steadyReaches_busyServer hrun⟩

end System

end TracePilot
