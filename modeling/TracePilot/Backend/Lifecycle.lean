import TracePilot.Backend.Isolation

/-!
# What the three tables go through

**`investigation_lifecycle`** — a stored investigation stays under its key with its question and
time of creation, and its status only moves from `running` to `completed` or `failed`, or from
`completed` to `failed`.  What was not there before has been inserted as a running row.  This is what
the contracts of the requests add up to.

Before that comes what needs nothing of the requests: the operations of the database check the
constraints of the schema, and none of them changes an event or an audit record.
-/

namespace TracePilot

open Resumption

/-! ## The constraints of the schema -/

/-- Primary keys, column domains and the foreign key of the audit records. -/
structure Integral (db : Database) : Prop where
  events : Keyed db.connectionEvents
  investigations : (db.investigations.map fun i => i.id).Nodup
  rows : ∀ i ∈ db.investigations, i.fits = true
  calls : ∀ c ∈ db.agentToolCalls, c.fits = true ∧ db.withId c.investigationId ≠ []

/-- The constraints go on to hold, and two of the tables only grow. -/
structure Lawful (db db' : Database) : Prop where
  integral : Integral db → Integral db'
  events : db.connectionEvents <+: db'.connectionEvents
  calls : db.agentToolCalls <+: db'.agentToolCalls

section Lawful

variable {db db₁ db' : Database} {i : Investigation} {key : Uuid}

lemma Lawful.refl (db : Database) : Lawful db db := ⟨id, List.prefix_refl _, List.prefix_refl _⟩

lemma Lawful.trans (h : Lawful db db₁) (h' : Lawful db₁ db') : Lawful db db' :=
  ⟨h'.integral ∘ h.integral, h.events.trans h'.events, h.calls.trans h'.calls⟩

lemma withId_ne_nil_iff : db.withId key ≠ [] ↔ key ∈ db.investigations.map fun i => i.id := by
  simp [Database.withId, List.filter_eq_nil_iff]

lemma map_id_replacing (i : Investigation) (db : Database) :
    (db.replacing i).investigations.map (fun j => j.id) = db.investigations.map fun j => j.id := by
  rw [Database.replacing, List.map_map]
  refine List.map_congr_left fun j _ => ?_
  rw [Function.comp_apply]
  split_ifs with h
  · exact h.symm
  · rfl

/-- Every `INSERT` checks the constraints. -/
lemma insert_lawful {row : Row} (h : db.insert row = some db') : Lawful db db' := by
  cases row with
  | investigation i =>
      rw [Database.insert] at h
      split_ifs at h with hok
      obtain rfl := Option.some.inj h
      refine ⟨fun hdb => ⟨hdb.events, ?_, ?_, ?_⟩, List.prefix_refl _, List.prefix_refl _⟩
      · have hfresh : i.id ∉ db.investigations.map fun i => i.id :=
          fun hmem => withId_ne_nil_iff.mpr hmem hok.2
        rw [Database.withInvestigation, List.map_append, List.map_singleton]
        exact List.nodup_append.mpr ⟨hdb.investigations, List.nodup_singleton _,
          fun a ha b hb hab => hfresh (by rw [← List.mem_singleton.mp hb, ← hab]; exact ha)⟩
      · intro j hj
        rcases List.mem_append.mp hj with hj | hj
        · exact hdb.rows j hj
        · exact List.mem_singleton.mp hj ▸ hok.1
      · intro c hc
        refine ⟨(hdb.calls c hc).1, withId_ne_nil_iff.mpr ?_⟩
        rw [Database.withInvestigation, List.map_append]
        exact List.mem_append_left _ (withId_ne_nil_iff.mp (hdb.calls c hc).2)
  | agentToolCall c =>
      rw [Database.insert] at h
      split_ifs at h with hok
      obtain rfl := Option.some.inj h
      refine ⟨fun hdb => ⟨hdb.events, hdb.investigations, hdb.rows, fun c' hc' => ?_⟩,
        List.prefix_refl _, List.prefix_append _ _⟩
      rcases List.mem_append.mp hc' with hc' | hc'
      · exact hdb.calls c' hc'
      · exact List.mem_singleton.mp hc' ▸ hok

/-- So does every `UPDATE`. -/
lemma update_lawful (h : db.update i = some db') : Lawful db db' := by
  rw [Database.update] at h
  split_ifs at h with hok
  obtain rfl := Option.some.inj h
  refine ⟨fun hdb => ⟨hdb.events, ?_, ?_, fun c hc => ⟨(hdb.calls c hc).1, ?_⟩⟩,
    List.prefix_refl _, List.prefix_refl _⟩
  · rw [map_id_replacing]
    exact hdb.investigations
  · intro j hj
    obtain ⟨k, hk, rfl⟩ := List.mem_map.mp hj
    split_ifs
    · exact hok.1
    · exact hdb.rows k hk
  · rw [withId_ne_nil_iff, map_id_replacing]
    exact withId_ne_nil_iff.mp (hdb.calls c hc).2

/-- A flush is lawful, whatever a session wants it to write. -/
lemma flush_lawful {rows : List Row} {changed : Option Investigation}
    (h : db.flush rows changed = some db') : Lawful db db' := by
  obtain ⟨db₁, hinsert, hupdate⟩ := Option.bind_eq_some_iff.mp h
  have hinserts : Lawful db db₁ := by
    clear h hupdate
    induction rows generalizing db with
    | nil =>
        obtain rfl := Option.some.inj hinsert
        exact .refl db
    | cons row rows ih =>
        rw [List.foldlM_cons] at hinsert
        obtain ⟨db₂, hfirst, hrest⟩ := Option.bind_eq_some_iff.mp hinsert
        exact (insert_lawful hfirst).trans (ih hrest)
  cases changed with
  | none =>
      obtain rfl := Option.some.inj hupdate
      exact hinserts
  | some i => exact hinserts.trans (update_lawful hupdate)

/-- An operation leaves the database alone, or it is a commit that flushed. -/
lemma faultyBackend_db {op : DbOp} {l l' : Session} {s s' : Server} {r : op.Reply}
    (h : faultyBackend op l s r l' s') :
    s'.db = s.db ∨ s.db.flush (l.pending s) l.changed = some s'.db := by
  rcases h with h | h
  · have hs' : s' = (backend op l s).2.2 := congrArg (fun o => o.2.2) h
    rw [hs']
    cases op with
    | now => exact Or.inl rfl
    | invoke toolName arguments => exact Or.inl rfl
    | add draft => exact Or.inl rfl
    | change investigation => exact Or.inl rfl
    | select clause =>
        refine Or.inl (congrArg Server.db ?_)
        change (selectStep clause l s).2.2 = s
        unfold selectStep
        split_ifs <;> rfl
    | refresh =>
        refine Or.inl (congrArg Server.db ?_)
        change (refreshStep l s).2.2 = s
        unfold refreshStep
        split_ifs
        · rfl
        · cases l.own.bind fun id => (s.db.withId id).head? <;> rfl
    | commit =>
        change (commitStep l s).2.2.db = s.db ∨ _ = some (commitStep l s).2.2.db
        unfold commitStep
        split_ifs
        · exact Or.inl rfl
        · cases hflush : s.db.flush (l.pending s) l.changed with
          | none => exact Or.inl rfl
          | some db => exact Or.inr rfl
  · cases op with
    | select clause => exact Or.inl (congrArg Server.db h.2.2)
    | refresh => exact Or.inl (congrArg Server.db h.2.2)
    | commit =>
        obtain ⟨-, -, rfl | ⟨db, hflush, rfl⟩⟩ := h
        · exact Or.inl rfl
        · exact Or.inr hflush
    | now => exact h.elim
    | invoke toolName arguments => exact h.elim
    | add draft => exact h.elim
    | change investigation => exact h.elim

/-- **Every operation is lawful.** -/
lemma faultyBackend_lawful {op : DbOp} {l l' : Session} {s s' : Server} {r : op.Reply}
    (h : faultyBackend op l s r l' s') : Lawful s.db s'.db := by
  rcases faultyBackend_db h with hdb | hflush
  · rw [hdb]
    exact .refl _
  · exact flush_lawful hflush

/-- The primary key of the events is checked by every insert. -/
lemma lawful_events {rows : List StoredEvent}
    (hkeyed : ((db.connectionEvents ++ rows).map fun row => row.id).Nodup) :
    Lawful db { db with connectionEvents := db.connectionEvents ++ rows } :=
  ⟨fun hdb => ⟨hkeyed, hdb.investigations, hdb.rows, hdb.calls⟩, List.prefix_append _ _,
    List.prefix_refl _⟩

lemma elsewhere_lawful {lib : Libraries} {s s' : Server} (h : Elsewhere lib s s') :
    Lawful s.db s'.db := by
  cases h with
  | createEvent h =>
      obtain ⟨c, -, h⟩ := Option.bind_eq_some_iff.mp h
      obtain ⟨row, -, h⟩ := Option.bind_eq_some_iff.mp h
      split_ifs at h with hkeyed
      obtain rfl := Option.some.inj h
      exact lawful_events hkeyed
  | createEventBatch h =>
      obtain ⟨events, defaults, rows, hcreate, hdb⟩ := h
      obtain ⟨batch, -, hcreate⟩ := Option.bind_eq_some_iff.mp hcreate
      obtain ⟨rows', -, hcreate⟩ := Option.bind_eq_some_iff.mp hcreate
      split_ifs at hcreate with hkeyed
      obtain rfl := Option.some.inj hcreate
      rw [hdb]
      exact lawful_events hkeyed
  | ticks clock uuid4 => exact .refl _

/-- **The operations obey the schema**, whatever programs perform them. -/
lemma lawful_reaches {lib : Libraries} {B : Behaviour backendInterface Session Server}
    {start : Server → Worker backendInterface Session → Prop}
    (hB : ∀ op l s r l' s', B op l s r l' s' → faultyBackend op l s r l' s')
    {x x' : Pool backendInterface Session Server} (h : Pool.Reaches B start (Elsewhere lib) x x') :
    Lawful x.shared.db x'.shared.db := by
  have : Std.Refl fun s s' : Server => Lawful s.db s'.db := ⟨fun s => .refl s.db⟩
  have : IsTrans Server fun s s' : Server => Lawful s.db s'.db := ⟨fun _ _ _ => Lawful.trans⟩
  exact Pool.rel (T := fun s s' => Lawful s.db s'.db) (fun _ _ => elsewhere_lawful)
    (fun op l s r l' s' hstep => faultyBackend_lawful (hB op l s r l' s' hstep)) h

end Lawful

/-! ## The life of an investigation -/

/-- Every key went through what a key may go through. -/
def History (s s' : Server) : Prop := ∀ key, Evolves (s.db.withId key) (s'.db.withId key)

instance : Std.Refl History := ⟨fun _ _ => .same _⟩

instance : IsTrans Server History := ⟨fun _ _ _ h h' key => (h key).trans (h' key)⟩

section Life

variable {lib : Libraries} {u : Unicode} {s₀ : Server}
  {x x' : Pool backendInterface Session Server}

/-- What the contracts of the requests add up to. -/
theorem SteadyReaches.history (hx : x.Isolated steadyBackend ownership)
    (h : SteadyReaches lib u x x') : History x.shared x'.shared := by
  refine hx.rel (T := History) ownership_admits (fun s s' hstep key => ?_)
    (fun _ _ _ _ _ h => h.evolves) h
  cases hstep with
  | createEvent h => exact .same _
  | createEventBatch h =>
      obtain ⟨_, _, _, -, hdb⟩ := h
      rw [hdb]
      exact .same _
  | ticks clock uuid4 => exact .same _

/-- Under a primary key is one row at most. -/
lemma length_withId_le {db : Database} (h : (db.investigations.map fun i => i.id).Nodup)
    (key : Uuid) : (db.withId key).length ≤ 1 := by
  have hkeys : (db.withId key).map (fun i => i.id) = List.replicate (db.withId key).length key := by
    refine List.eq_replicate_iff.mpr ⟨List.length_map _, fun k hk => ?_⟩
    obtain ⟨i, hi, rfl⟩ := List.mem_map.mp hk
    simpa using (List.mem_filter.mp hi).2
  have hnodup := h.sublist ((List.filter_sublist (p := fun i => decide (i.id = key))).map _)
  change ((db.withId key).map fun i => i.id).Nodup at hnodup
  rw [hkeys] at hnodup
  exact List.nodup_replicate.mp hnodup

lemma Evolves.length_le {rows rows' : List Investigation} (h : Evolves rows rows')
    (hrows : rows.length ≤ 1) : rows'.length ≤ 1 := by
  cases h with
  | same => exact hrows
  | created => simp
  | advanced => simp

/-- **The life of an investigation**, between any two states of a run. -/
theorem investigation_lifecycle (hkeys : (s₀.db.investigations.map fun i => i.id).Nodup)
    (hx : SteadyReaches lib u ⟨[], s₀⟩ x) (h : SteadyReaches lib u x x') :
    (∀ i ∈ x.shared.db.investigations, ∃ j, x'.shared.db.withId i.id = [j] ∧ i.Advances j)
      ∧ ∀ j ∈ x'.shared.db.investigations, x.shared.db.withId j.id = [] →
        ∃ first : Investigation, first.New ∧ first.Advances j := by
  have hhistory := SteadyReaches.history hx.isolated h
  constructor
  · intro i hi
    have hlength := (SteadyReaches.history (Pool.isolated_nil s₀) hx i.id).length_le
      (length_withId_le hkeys i.id)
    have hmem : i ∈ x.shared.db.withId i.id := List.mem_filter.mpr ⟨hi, by simp⟩
    obtain ⟨k, hk⟩ := List.length_eq_one_iff.mp
      (le_antisymm hlength (List.length_pos_of_mem hmem))
    rw [hk, List.mem_singleton] at hmem
    subst hmem
    have hevolves := hhistory i.id
    rw [hk] at hevolves
    generalize x'.shared.db.withId i.id = rows at hevolves
    cases hevolves with
    | same => exact ⟨i, rfl, Or.inl rfl⟩
    | advanced hadvances => exact ⟨_, rfl, hadvances⟩
  · intro j hj hnone
    have hevolves := hhistory j.id
    have hmem : j ∈ x'.shared.db.withId j.id := List.mem_filter.mpr ⟨hj, by simp⟩
    rw [hnone] at hevolves
    generalize x'.shared.db.withId j.id = rows at hevolves hmem
    cases hevolves with
    | same => simp at hmem
    | created hnew hadvances =>
        obtain rfl := List.mem_singleton.mp hmem
        exact ⟨_, hnew, hadvances⟩

theorem investigation_lifecycle_sample :
    (∃ j ∈ afterRequest.db.investigations, j.status = "completed")
      ∧ ∀ j ∈ afterRequest.db.investigations, Server.empty.db.withId j.id = [] →
        ∃ first : Investigation, first.New ∧ first.Advances j := by
  have hrun : SteadyReaches .strict .ascii busyServer
      ⟨[⟨.ret (), (sampleRequest.rest.run backend {} .empty).2.1⟩], afterRequest⟩ :=
    Pool.reaches_run (fun _ _ _ => Or.inl rfl) [] _ _ _
  exact ⟨by decide +kernel,
    (investigation_lifecycle (by decide) steadyReaches_busyServer hrun).2⟩

end Life

end TracePilot
