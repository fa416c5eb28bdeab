import TracePilot.Backend.Agent

/-!
# What the tool results hold

Two facts about the formatted result of each tool, whatever rows it read.

* **Ids** — `extractToolEventIds` of the result is exactly the ids of the events it describes.
* **Values** — its keys are the literals of the program, and its values are numbers, Booleans
  and texts without NUL.  So `jsonable_encoder` drops nothing and `JSONB` accepts it.
  `get_process_connections` is the exception: it is the only tool that reports a float, and a
  duration that is not finite is refused.
-/

namespace TracePilot

open Json

/-! ## Reading ids out of a value -/

/-- The ids one dictionary item contributes. -/
def fieldIds (key : String) (child : Json) : Finset String :=
  ((idsUnderKey key child).map List.toFinset).getD (extractToolEventIds child)

@[simp] lemma extract_obj (fields : List (String × Json)) :
    extractToolEventIds (obj fields) = extractToolFields fields := by
  rw [extractToolEventIds]

@[simp] lemma extract_int (n : ℤ) : extractToolEventIds (int n) = ∅ := by
  rw [extractToolEventIds] <;> simp

@[simp] lemma extract_str (s : String) : extractToolEventIds (str s) = ∅ := by
  rw [extractToolEventIds] <;> simp

@[simp] lemma extract_bool (b : Bool) : extractToolEventIds (bool b) = ∅ := by
  rw [extractToolEventIds] <;> simp

@[simp] lemma extract_float (x : PyFloat) : extractToolEventIds (float x) = ∅ := by
  rw [extractToolEventIds] <;> simp

@[simp] lemma extract_null : extractToolEventIds null = ∅ := by
  rw [extractToolEventIds] <;> simp

@[simp] lemma extractToolFields_nil : extractToolFields [] = ∅ := by rw [extractToolFields]

@[simp] lemma extractToolFields_cons (key : String) (child : Json)
    (rest : List (String × Json)) :
    extractToolFields ((key, child) :: rest) = fieldIds key child ∪ extractToolFields rest := by
  rw [extractToolFields, fieldIds]

@[simp] lemma mem_extract_arr (items : List Json) (x : String) :
    x ∈ extractToolEventIds (arr items) ↔ ∃ v ∈ items, x ∈ extractToolEventIds v := by
  rw [extractToolEventIds]
  induction items with
  | nil => simp [extractToolItems]
  | cons v vs ih =>
      rw [extractToolItems, Finset.mem_union, ih]
      simp only [List.mem_cons, exists_eq_or_imp]

/-- Under any other key the reader descends. -/
lemma fieldIds_other {key : String} (h₁ : key ≠ "event_id") (h₂ : key ≠ "event_ids")
    (child : Json) : fieldIds key child = extractToolEventIds child := by
  cases child <;> simp [fieldIds, idsUnderKey, h₁, h₂]

@[simp] lemma fieldIds_event_id (s : String) : fieldIds "event_id" (str s) = {s} := by
  simp [fieldIds, idsUnderKey]

lemma stringItems_map_str (ids : List String) : stringItems (ids.map str) = ids := by
  simp [stringItems, List.filterMap_map]

@[simp] lemma mem_fieldIds_event_ids (ids : List String) (x : String) :
    x ∈ fieldIds "event_ids" (arr (ids.map str)) ↔ x ∈ ids := by
  simp [fieldIds, idsUnderKey, stringItems_map_str]

lemma eventIds_eq (events : List StoredEvent) :
    eventIds events = arr ((events.map fun e => e.id.str).map str) := by
  simp [eventIds, Function.comp_def]

/-- The ids under `event_ids` of a group are the ids of its events. -/
lemma mem_fieldIds_eventIds (events : List StoredEvent) (x : String) :
    x ∈ fieldIds "event_ids" (eventIds events) ↔ ∃ e ∈ events, e.id.str = x := by
  rw [eventIds_eq, mem_fieldIds_event_ids, List.mem_map]

/-! ## Ids -/

theorem ids_processConnections (a : ProcessConnectionsArguments) (rows : List StoredEvent)
    (x : String) :
    x ∈ extractToolEventIds (processConnectionsResult a rows)
      ↔ ∃ e ∈ processConnectionsRows rows, e.id.str = x := by
  have hevent : ∀ e : StoredEvent,
      x ∈ extractToolEventIds (processConnection e) ↔ e.id.str = x := by
    intro e
    have hduration : extractToolEventIds ((e.durationMs.map Json.float).getD null) = ∅ := by
      cases e.durationMs <;> simp
    simp [processConnection, isoText, fieldIds_other, hduration, eq_comm]
  simp [processConnectionsResult, fieldIds_other, hevent]

theorem ids_topNetworkProcesses (a : TopNetworkProcessesArguments) (rows : List StoredEvent)
    (x : String) :
    x ∈ extractToolEventIds (topNetworkProcessesResult a rows)
      ↔ ∃ g ∈ topGroups a.limit rows, ∃ e ∈ g.2, e.id.str = x := by
  simp [topNetworkProcessesResult, fieldIds_other, mem_fieldIds_eventIds]

theorem ids_connectionBursts (a : ConnectionBurstsArguments) (rows : List StoredEvent)
    (x : String) :
    x ∈ extractToolEventIds (connectionBurstsResult a rows)
      ↔ ∃ g ∈ burstGroups a.threshold rows, ∃ e ∈ g.2, e.id.str = x := by
  simp [connectionBurstsResult, isoText, fieldIds_other, mem_fieldIds_eventIds]

theorem ids_unusualDestinations (a : UnusualDestinationsArguments)
    (baseline recent : List StoredEvent) (x : String) :
    x ∈ extractToolEventIds (unusualDestinationsResult a baseline recent)
      ↔ ∃ g ∈ unusualGroups baseline recent, ∃ e ∈ g.2, e.id.str = x := by
  simp [unusualDestinationsResult, isoText, fieldIds_other, mem_fieldIds_eventIds]

/-- One round of the timeline loop adds the id of its event and keeps the others. -/
lemma ids_timelineStep (timeline : List TimelineEntry) (e : StoredEvent) (x : String) :
    (∃ entry ∈ timelineStep timeline e, x ∈ entry.eventIds)
      ↔ (∃ entry ∈ timeline, x ∈ entry.eventIds) ∨ e.id.str = x := by
  -- `opened` is the dictionary once the minute is known to have an entry
  obtain ⟨opened, hopened, hids, hmin⟩ : ∃ opened : List TimelineEntry,
      timelineStep timeline e = opened.map (fun entry =>
        if entry.windowStart = minuteKey e then entry.add e else entry)
      ∧ ((∃ entry ∈ opened, x ∈ entry.eventIds) ↔ ∃ entry ∈ timeline, x ∈ entry.eventIds)
      ∧ ∃ entry ∈ opened, entry.windowStart = minuteKey e := by
    by_cases h : timeline.any (fun entry => entry.windowStart = minuteKey e) = true
    · exact ⟨timeline, by simp [timelineStep, h], Iff.rfl, by simpa using h⟩
    · exact ⟨timeline ++ [⟨minuteKey e, 0, [], []⟩], by simp [timelineStep, h],
        by simp, by simp⟩
  rw [hopened, ← hids]
  constructor
  · rintro ⟨_, hmem, hx⟩
    obtain ⟨entry, hentry, rfl⟩ := List.mem_map.mp hmem
    split_ifs at hx with hkey
    · rcases List.mem_append.mp hx with hx | hx
      · exact Or.inl ⟨entry, hentry, hx⟩
      · exact Or.inr (List.mem_singleton.mp hx).symm
    · exact Or.inl ⟨entry, hentry, hx⟩
  · rintro (⟨entry, hentry, hx⟩ | rfl)
    · refine ⟨_, List.mem_map_of_mem hentry, ?_⟩
      split_ifs
      · exact List.mem_append_left _ hx
      · exact hx
    · obtain ⟨entry, hentry, hkey⟩ := hmin
      refine ⟨_, List.mem_map_of_mem hentry, ?_⟩
      rw [if_pos hkey]
      exact List.mem_append_right _ (by simp)

lemma ids_timeline (events : List StoredEvent) (x : String) :
    ∀ timeline : List TimelineEntry,
      (∃ entry ∈ events.foldl timelineStep timeline, x ∈ entry.eventIds)
        ↔ (∃ entry ∈ timeline, x ∈ entry.eventIds) ∨ ∃ e ∈ events, e.id.str = x := by
  induction events with
  | nil => simp
  | cons e events ih =>
      intro timeline
      rw [List.foldl_cons, ih, ids_timelineStep, or_assoc]
      simp only [List.mem_cons, exists_eq_or_imp]

theorem ids_eventTimeline (a : EventTimelineArguments) (rows : List StoredEvent) (x : String) :
    x ∈ extractToolEventIds (eventTimelineResult a rows)
      ↔ ∃ e ∈ timelineRows rows, e.id.str = x := by
  have hentry : ∀ entry : TimelineEntry,
      x ∈ extractToolEventIds (timelineEntry entry) ↔ x ∈ entry.eventIds := by
    intro entry
    simp [timelineEntry, fieldIds_other]
  simpa [eventTimelineResult, fieldIds_other, hentry] using ids_timeline (timelineRows rows) x []

/-! ## Values

`Plain leaf key` is what a test of scalars and a test of keys must accept for every result to
pass.  `jsonable_encoder` and `JSONB` are the two instances.
-/

/-- The keys the tools write. -/
def resultKeys : List String := [
  "pid", "event_count", "events", "event_id", "timestamp", "process_name", "uid",
  "destination_ip", "destination_port", "ip_version", "duration_ms", "minutes", "processes",
  "connection_count", "event_ids", "threshold", "bursts", "window_start", "recent_minutes",
  "baseline_minutes", "unusual_destinations", "first_seen", "lookback_hours",
  "returned_event_count", "truncated", "timeline", "destinations", "start_time", "end_time",
  "limit"]

/-- The tests accept everything a tool writes except floats. -/
structure Plain (leaf : Json → Bool) (key : String → Bool) : Prop where
  null : leaf .null = true
  bool : ∀ b, leaf (.bool b) = true
  int : ∀ n, leaf (.int n) = true
  str : ∀ s, noNul s = true → leaf (.str s) = true
  keys : resultKeys.all key = true

lemma plain_encoder : Plain (fun _ => true) encodableKey :=
  ⟨rfl, fun _ => rfl, fun _ => rfl, fun _ _ => rfl, by decide⟩

lemma plain_jsonb : Plain jsonbLeaf noNul :=
  ⟨rfl, fun _ => rfl, fun _ => rfl, fun _ h => h, by decide⟩

section Values

variable {leaf : Json → Bool} {key : String → Bool}

lemma Plain.isoText (h : Plain leaf key) (instant : ℤ) :
    (isoText instant).every leaf key = true := by
  simp [TracePilot.isoText, h.str _ (Datetime.noNul_isoformat _)]

lemma Plain.eventIds (h : Plain leaf key) (events : List StoredEvent) :
    (eventIds events).every leaf key = true := by
  simp [TracePilot.eventIds, h.str _ (Uuid.noNul_str _)]

/-- Only the durations of the reported events are in question. -/
theorem every_processConnections (h : Plain leaf key) (a : ProcessConnectionsArguments)
    (rows : List StoredEvent) :
    (processConnectionsResult a rows).every leaf key
      = (processConnectionsRows rows).all fun e => e.durationMs.all fun x => leaf (.float x) := by
  have hkeys := h.keys
  simp only [resultKeys, List.all_cons, Bool.and_eq_true] at hkeys
  have hevent : ∀ e : StoredEvent, (processConnection e).every leaf key
      = e.durationMs.all fun x => leaf (.float x) := by
    intro e
    have hname := h.str _ e.noNul_processName
    have hip := h.str _ (IpAddress.noNul_str e.destinationIp)
    cases hd : e.durationMs <;>
      simp [processConnection, hkeys, h.str _ (Uuid.noNul_str _), h.isoText, h.int, h.null,
        hname, hip, hd]
  simp [processConnectionsResult, hkeys, h.int, hevent, Function.comp_def]

/-- The name of a group is the name of one of its events. -/
lemma noNul_groupName {κ : Type} [DecidableEq κ] {groupKey : StoredEvent → κ} (name : κ → String)
    (hname : ∀ e, name (groupKey e) = e.processName) {rows : List StoredEvent}
    {g : κ × List StoredEvent} (hg : g ∈ Table.groupBy groupKey rows) :
    noNul (name g.1) = true := by
  obtain ⟨e, -, he⟩ := List.mem_map.mp (Table.mem_groupBy.mp hg).1
  rw [← he, hname]
  exact e.noNul_processName

theorem every_topNetworkProcesses (h : Plain leaf key) (a : TopNetworkProcessesArguments)
    (rows : List StoredEvent) : (topNetworkProcessesResult a rows).every leaf key = true := by
  have hkeys := h.keys
  simp only [resultKeys, List.all_cons, Bool.and_eq_true] at hkeys
  have hname : ∀ g ∈ topGroups a.limit rows, leaf (.str g.1.2) = true := by
    intro g hg
    have hmem := Table.mem_orderByDesc.mp (List.mem_of_mem_take hg)
    exact h.str _ (noNul_groupName Prod.snd (fun _ => rfl) hmem)
  simpa [topNetworkProcessesResult, hkeys, h.int, h.eventIds] using hname

theorem every_connectionBursts (h : Plain leaf key) (a : ConnectionBurstsArguments)
    (rows : List StoredEvent) : (connectionBurstsResult a rows).every leaf key = true := by
  have hkeys := h.keys
  simp only [resultKeys, List.all_cons, Bool.and_eq_true] at hkeys
  have hname : ∀ g ∈ burstGroups a.threshold rows, leaf (.str g.1.2.1) = true := by
    intro g hg
    have hmem := List.mem_of_mem_filter (Table.mem_orderByDesc.mp hg)
    exact h.str _ (noNul_groupName (fun k => k.2.1) (fun _ => rfl) hmem)
  simpa [connectionBurstsResult, hkeys, h.int, h.eventIds, h.isoText] using hname

theorem every_unusualDestinations (h : Plain leaf key) (a : UnusualDestinationsArguments)
    (baseline recent : List StoredEvent) :
    (unusualDestinationsResult a baseline recent).every leaf key = true := by
  have hkeys := h.keys
  simp only [resultKeys, List.all_cons, Bool.and_eq_true] at hkeys
  have hip : ∀ ip : IpAddress, leaf (.str ip.str) = true :=
    fun ip => h.str _ (IpAddress.noNul_str ip)
  simp [unusualDestinationsResult, hkeys, h.int, h.eventIds, h.isoText, hip]

/-- No text of a timeline entry holds NUL. -/
structure TimelineEntry.Printable (entry : TimelineEntry) : Prop where
  window : noNul entry.windowStart = true
  destinations : ∀ d ∈ entry.destinations, noNul d = true
  ids : ∀ id ∈ entry.eventIds, noNul id = true

lemma TimelineEntry.Printable.add {entry : TimelineEntry} (h : entry.Printable)
    (e : StoredEvent) : (entry.add e).Printable where
  window := h.window
  destinations := by
    intro d hd
    rcases List.mem_insert_iff.mp hd with rfl | hd
    · rw [noNul_append, noNul_append, IpAddress.noNul_str, noNul_toString_int]
      decide
    · exact h.destinations d hd
  ids := by
    intro id hid
    rcases List.mem_append.mp hid with hid | hid
    · exact h.ids id hid
    · rw [List.mem_singleton.mp hid]
      exact Uuid.noNul_str _

lemma printable_timelineStep {timeline : List TimelineEntry} (h : ∀ x ∈ timeline, x.Printable)
    (e : StoredEvent) : ∀ x ∈ timelineStep timeline e, x.Printable := by
  have hnew : TimelineEntry.Printable ⟨minuteKey e, 0, [], []⟩ :=
    ⟨Datetime.noNul_isoformat _, by simp, by simp⟩
  intro x hx
  obtain ⟨entry, hentry, rfl⟩ := List.mem_map.mp hx
  have hentry : entry.Printable := by
    split_ifs at hentry with hany
    · exact h entry hentry
    · rcases List.mem_append.mp hentry with hmem | hmem
      · exact h entry hmem
      · rw [List.mem_singleton.mp hmem]
        exact hnew
  split_ifs
  · exact hentry.add e
  · exact hentry

lemma printable_timeline (events : List StoredEvent) :
    ∀ timeline : List TimelineEntry, (∀ x ∈ timeline, x.Printable) →
      ∀ x ∈ events.foldl timelineStep timeline, x.Printable := by
  induction events with
  | nil => exact fun _ h => h
  | cons e events ih => exact fun _ h => ih _ (printable_timelineStep h e)

theorem every_eventTimeline (h : Plain leaf key) (a : EventTimelineArguments)
    (rows : List StoredEvent) : (eventTimelineResult a rows).every leaf key = true := by
  have hkeys := h.keys
  simp only [resultKeys, List.all_cons, Bool.and_eq_true] at hkeys
  have hentry : ∀ entry : TimelineEntry, entry.Printable →
      (timelineEntry entry).every leaf key = true := by
    intro entry hp
    have hdest : ∀ d ∈ entry.destinations, leaf (.str d) = true :=
      fun d hd => h.str d (hp.destinations d hd)
    have hids : ∀ id ∈ entry.eventIds, leaf (.str id) = true :=
      fun id hid => h.str id (hp.ids id hid)
    simpa [timelineEntry, hkeys, h.int, h.str _ hp.window] using ⟨hdest, hids⟩
  have hall := printable_timeline (timelineRows rows) [] (by simp)
  simpa [eventTimelineResult, hkeys, h.int, h.bool] using fun x hx => hentry x (hall x hx)

end Values

end TracePilot
