import TracePilot.Backend.Ingestion

/-!
# What the schema accepts and what the table holds

`ConnectionEventCreate` and the columns of `connection_events` declare the domains of the same
nine values, each in its own way.  The schema bounds a PID from below, the column on both sides;
the schema counts the characters of a name, the column also refuses NUL.

* **`storedRow_isSome_iff`** — which accepted events the columns take.
* **`storage_agrees_iff`** — an accepted batch is stored, event for event and value for value,
  exactly when the columns take every event in it.  One value in the gap loses the whole batch.
-/

namespace TracePilot

/-- The values of an accepted event that the columns take as well.  The schema bounds the others
at least as tightly as their columns. -/
structure ConnectionEventCreate.Storable (c : ConnectionEventCreate) : Prop where
  timestamp : c.timestamp.encodable
  pid : c.pid.1 ≤ 2147483647
  processName : noNul c.processName = true
  uid : c.uid.1 ≤ 2147483647
  zone : c.destinationIp.2 = ""
  source : noNul c.source = true

/-- The row reads back the nine values of the event. -/
structure ConnectionEventCreate.ReadsBack (c : ConnectionEventCreate) (row : StoredEvent) :
    Prop where
  timestamp : row.timestamp = c.timestamp.instant
  pid : row.pid = c.pid
  processName : row.processName = c.processName
  uid : row.uid = c.uid
  destinationIp : (row.destinationIp, "") = c.destinationIp
  destinationPort : row.destinationPort = c.destinationPort
  ipVersion : row.ipVersion = c.ipVersion
  durationMs : row.durationMs = c.durationMs.map Subtype.val
  source : row.source = c.source

/-- The keys that the inserts draw are new, and there are enough of them. -/
structure FreshKeys (count : ℕ) (defaults : List (Uuid × ℤ)) (stored : List StoredEvent) :
    Prop where
  enough : count ≤ defaults.length
  fresh : ((stored.map fun row => row.id) ++ defaults.map Prod.fst).Nodup

section Storage

variable {py : Pydantic} {c : ConnectionEventCreate} {id : Uuid} {now : ℤ}

variable (c id now) in
/-- **Which accepted events the columns take.** -/
theorem storedRow_isSome_iff : (c.storedRow id now).isSome = true ↔ c.Storable := by
  have hport : int4 c.destinationPort = true := by
    have h := c.destinationPort.2
    simp only [int4, Bool.and_eq_true, decide_eq_true_eq]
    omega
  have hversion : int4 c.ipVersion = true := by
    have h := c.ipVersion.2
    simp only [List.mem_cons, List.not_mem_nil, or_false] at h
    rcases h with h | h <;> rw [h] <;> decide
  have hint4 : ∀ n : ℤ, 0 ≤ n → (int4 n = true ↔ n ≤ 2147483647) := by
    intro n hn
    simp only [int4, Bool.and_eq_true, decide_eq_true_eq]
    omega
  have hpid := hint4 c.pid (by have := c.pid.2; omega)
  have huid := hint4 c.uid c.uid.2
  have hname : varchar 64 c.processName = true ↔ noNul c.processName = true := by
    simp [varchar, c.processName.2.2]
  have hsource : varchar 20 c.source = true ↔ noNul c.source = true := by
    simp [varchar, c.source.2]
  rw [ConnectionEventCreate.storedRow, ConnectionEventCreate.row]
  by_cases hsent : c.destinationIp.2 = "" ∧ c.timestamp.encodable
  · rw [if_pos hsent, Option.bind_some]
    split_ifs with hfits
    · simp only [ConnectionEvent.fits, hpid, huid, hname, hsource] at hfits
      obtain ⟨-, hpid, hname, huid, -, -, hsource⟩ := hfits
      exact iff_of_true rfl ⟨hsent.2, hpid, hname, huid, hsent.1, hsource⟩
    · refine iff_of_false (by simp) fun h => hfits ?_
      simp only [ConnectionEvent.fits, hpid, huid, hname, hsource]
      exact ⟨h.timestamp.1, h.pid, h.processName, h.uid, hport, hversion, h.source⟩
  · rw [if_neg hsent, Option.bind_none]
    exact iff_of_false (by simp) fun h => hsent ⟨h.zone, h.timestamp⟩

/-- A stored row reads back its event, under the key it was given. -/
lemma storedRow_readsBack {row : StoredEvent} (h : c.storedRow id now = some row) :
    c.ReadsBack row ∧ row.id = id := by
  have hrow := storedRow_eq_some h
  rw [ConnectionEventCreate.row] at hrow
  split_ifs at hrow with hsent
  have hevent := Option.some.inj hrow
  refine ⟨⟨?_, ?_, ?_, ?_, ?_, ?_, ?_, ?_, ?_⟩, ?_⟩
  all_goals rw [← hevent]
  exact Prod.ext rfl hsent.1.symm

/-- A batch has rows when the columns take every event in it: the induction consumes one key for
each event. -/
lemma batchRows_isSome_iff (batch : List ConnectionEventCreate) :
    ∀ {defaults : List (Uuid × ℤ)}, batch.length ≤ defaults.length →
      ((batchRows batch defaults).isSome = true ↔ ∀ c ∈ batch, c.Storable) := by
  induction batch with
  | nil => simp [batchRows]
  | cons c batch ih =>
      rintro (_ | ⟨⟨id, now⟩, defaults⟩) henough
      · simp at henough
      have ih := ih (Nat.le_of_succ_le_succ henough)
      rw [List.forall_mem_cons, ← ih, ← storedRow_isSome_iff c id now, batchRows]
      cases c.storedRow id now <;> cases batchRows batch defaults <;> simp

/-- The rows read back the batch, event by event, under the keys they were given. -/
lemma batchRows_readsBack (batch : List ConnectionEventCreate) :
    ∀ {defaults : List (Uuid × ℤ)} {rows : List StoredEvent},
      batchRows batch defaults = some rows →
      List.Forall₂ ConnectionEventCreate.ReadsBack batch rows
        ∧ (rows.map fun row => row.id).Sublist (defaults.map Prod.fst) := by
  induction batch with
  | nil =>
      intro defaults rows hrows
      obtain rfl : [] = rows := by simpa [batchRows] using hrows
      exact ⟨.nil, List.nil_sublist _⟩
  | cons c batch ih =>
      rintro (_ | ⟨⟨id, now⟩, defaults⟩) rows hrows
      · cases hrows
      obtain ⟨row, hrow, hrows⟩ := Option.bind_eq_some_iff.mp hrows
      obtain ⟨rows', hrows', hrows⟩ := Option.bind_eq_some_iff.mp hrows
      obtain rfl := Option.some.inj hrows
      obtain ⟨hc, rfl⟩ := storedRow_readsBack hrow
      obtain ⟨hbatch, hkeys⟩ := ih hrows'
      exact ⟨.cons hc hbatch, hkeys.cons_cons _⟩

end Storage

/-! ## Schema and storage -/

/-- **The schema and the table agree on a batch**: it is inserted, one row for each event, and
the rows read back its values. -/
def StoresBatch (py : Pydantic) (events : List Json) (batch : List ConnectionEventCreate)
    (defaults : List (Uuid × ℤ)) (stored : List StoredEvent) : Prop :=
  ∃ rows, createEventBatch py events defaults stored = some rows
    ∧ List.Forall₂ ConnectionEventCreate.ReadsBack batch rows

/-- **The schema and the table agree on an event.** -/
def StoresEvent (py : Pydantic) (event : Json) (c : ConnectionEventCreate) (default : Uuid × ℤ)
    (stored : List StoredEvent) : Prop :=
  ∃ row, createEvent py event default stored = some row ∧ c.ReadsBack row

/-- **When schema and storage agree**, on a batch and on a single event: when every accepted event
has values that the columns take as well. -/
theorem storage_agrees_iff (py : Pydantic) (stored : List StoredEvent) :
    (∀ events batch defaults, ConnectionEventBatch.validate py events = some batch →
        FreshKeys batch.length defaults stored →
        (StoresBatch py events batch defaults stored ↔ ∀ c ∈ batch, c.Storable))
      ∧ ∀ event c default, ConnectionEventCreate.validate py event = some c →
        FreshKeys 1 [default] stored →
        (StoresEvent py event c default stored ↔ c.Storable) := by
  constructor
  · intro events batch defaults hvalidate hkeys
    have hrows := batchRows_isSome_iff batch hkeys.enough
    constructor
    · rintro ⟨rows, hcreate, -⟩
      rw [createEventBatch, hvalidate, Option.bind_eq_bind, Option.bind_some] at hcreate
      obtain ⟨rows', hbatch, -⟩ := Option.bind_eq_some_iff.mp hcreate
      exact hrows.mp (by rw [hbatch]; rfl)
    · intro hstorable
      obtain ⟨rows, hbatch⟩ := Option.isSome_iff_exists.mp (hrows.mpr hstorable)
      obtain ⟨hback, hsub⟩ := batchRows_readsBack batch hbatch
      refine ⟨rows, ?_, hback⟩
      have hnodup : ((stored ++ rows).map fun row => row.id).Nodup := by
        rw [List.map_append]
        exact hkeys.fresh.sublist (hsub.append_left _)
      simp only [createEventBatch, hvalidate, hbatch, Option.bind_eq_bind, Option.bind_some,
        if_pos hnodup]
  · intro event c default hvalidate hkeys
    constructor
    · rintro ⟨row, hcreate, -⟩
      rw [createEvent, hvalidate, Option.bind_eq_bind, Option.bind_some] at hcreate
      obtain ⟨row', hrow, -⟩ := Option.bind_eq_some_iff.mp hcreate
      exact (storedRow_isSome_iff c _ _).mp (by rw [hrow]; rfl)
    · intro hstorable
      obtain ⟨row, hrow⟩ := Option.isSome_iff_exists.mp
        ((storedRow_isSome_iff c default.1 default.2).mpr hstorable)
      obtain ⟨hback, hid⟩ := storedRow_readsBack hrow
      refine ⟨row, ?_, hback⟩
      have hnodup : ((stored ++ [row]).map fun row => row.id).Nodup := by
        rw [List.map_append, List.map_cons, List.map_nil, hid]
        exact hkeys.fresh
      simp only [createEvent, hvalidate, hrow, Option.bind_eq_bind, Option.bind_some,
        if_pos hnodup]

lemma length_ebpf_le : "ebpf".length ≤ 20 := by decide

/-- What a `postedEvent` is validated to. -/
def ConnectionEventCreate.curl (pid : {n : ℤ // 1 ≤ n}) (seconds : ℤ) : ConnectionEventCreate where
  timestamp := .utc (seconds * 1000000)
  pid := pid
  processName := ⟨"curl", by decide⟩
  uid := ⟨1000, by decide⟩
  destinationIp := (.v4 0x08080808, "")
  destinationPort := ⟨443, by decide⟩
  ipVersion := ⟨4, by decide⟩
  durationMs := none
  source := ⟨"ebpf", length_ebpf_le⟩

lemma validate_postedEvent (pid : {n : ℤ // 1 ≤ n}) (seconds : ℤ) :
    ConnectionEventCreate.validate .numeric (postedEvent pid seconds)
      = some (.curl pid seconds) := by
  have hpid : fieldOf (checked (fun n => 1 ≤ n) Pydantic.numeric.int) none "pid"
      (postedEvent pid seconds) = some pid := dif_pos pid.2
  rw [ConnectionEventCreate.validate, hpid]
  rfl

lemma storable_curl {pid : {n : ℤ // 1 ≤ n}} (hpid : pid.1 ≤ 2147483647) {seconds : ℤ}
    (hseconds : Datetime.representable (seconds * 1000000)) :
    (ConnectionEventCreate.curl pid seconds).Storable where
  timestamp := (Datetime.encodable_utc _).mpr hseconds
  pid := hpid
  processName := (by decide : noNul "curl" = true)
  uid := (by decide : (1000 : ℤ) ≤ 2147483647)
  zone := rfl
  source := (by decide : noNul "ebpf" = true)

/-- Connections of PIDs 42 and 43 in one batch, and the first of them alone. -/
theorem storage_agrees_iff_curl :
    StoresBatch .numeric [postedEvent 42 1700000000, postedEvent 43 1700000001]
        [.curl ⟨42, by decide⟩ 1700000000, .curl ⟨43, by decide⟩ 1700000001] [(7, 0), (8, 0)] []
      ∧ StoresEvent .numeric (postedEvent 42 1700000000) (.curl ⟨42, by decide⟩ 1700000000) (7, 0)
        [] := by
  have hfirst : (ConnectionEventCreate.curl ⟨42, by decide⟩ 1700000000).Storable :=
    storable_curl (by decide) (by decide)
  have hsecond : (ConnectionEventCreate.curl ⟨43, by decide⟩ 1700000001).Storable :=
    storable_curl (by decide) (by decide)
  have hbatch : ConnectionEventBatch.validate .numeric
      [postedEvent 42 1700000000, postedEvent 43 1700000001]
      = some [.curl ⟨42, by decide⟩ 1700000000, .curl ⟨43, by decide⟩ 1700000001] := rfl
  constructor
  · refine ((storage_agrees_iff .numeric []).1 _ _ _ hbatch ⟨by decide, by decide⟩).mpr ?_
    rw [List.forall_mem_cons, List.forall_mem_singleton]
    exact ⟨hfirst, hsecond⟩
  · exact ((storage_agrees_iff .numeric []).2 _ _ _ (validate_postedEvent ⟨42, by decide⟩ _)
      ⟨by decide, by decide⟩).mpr hfirst

/-- **A PID beyond 32 bits** passes the schema, and its insert fails, alone and with another event
of the batch. -/
theorem not_stores_largePid :
    (∃ c, ConnectionEventCreate.validate .numeric (postedEvent 2147483648 1700000000) = some c
        ∧ ¬ StoresEvent .numeric (postedEvent 2147483648 1700000000) c (7, 0) [])
      ∧ ∃ batch, ConnectionEventBatch.validate .numeric
          [postedEvent 42 1700000000, postedEvent 2147483648 1700000000] = some batch
        ∧ ¬ StoresBatch .numeric [postedEvent 42 1700000000, postedEvent 2147483648 1700000000] batch
          [(7, 0), (8, 0)] [] := by
  constructor
  · obtain ⟨c, hc⟩ := Option.isSome_iff_exists.mp
      (by decide : (ConnectionEventCreate.validate .numeric
        (postedEvent 2147483648 1700000000)).isSome = true)
    have hnone : createEvent .numeric (postedEvent 2147483648 1700000000) (7, 0) [] = none :=
      Option.isNone_iff_eq_none.mp (by decide)
    refine ⟨c, hc, ?_⟩
    rintro ⟨row, hrow, -⟩
    rw [hnone] at hrow
    cases hrow
  · obtain ⟨batch, hbatch⟩ := Option.isSome_iff_exists.mp
      (by decide : (ConnectionEventBatch.validate .numeric
        [postedEvent 42 1700000000, postedEvent 2147483648 1700000000]).isSome = true)
    have hnone : createEventBatch .numeric
        [postedEvent 42 1700000000, postedEvent 2147483648 1700000000] [(7, 0), (8, 0)] [] = none :=
      Option.isNone_iff_eq_none.mp (by decide)
    refine ⟨batch, hbatch, ?_⟩
    rintro ⟨rows, hrows, -⟩
    rw [hnone] at hrows
    cases hrows

end TracePilot
