import TracePilot.Library.Distinct
import TracePilot.Backend.Evidence
import TracePilot.Backend.Timeline

/-!
# What the demo provider reports

The demo provider names one process and cites the first three ids it finds in the results of its
three tools.  Two of the tools look at the process only; the bursts are those of every process, and
stand in the middle.

* **`mem_extractEventIds`** — the two readers of tool results find the same ids.
* **`cites_reportOn`** — a report cites the first three ids it was given, and nothing else.
* **`DemoReading.rightlyAttributed_iff`** — the cited events are events of the process exactly when
  its timeline has three of them, or the first burst is its own.
* **`DemoReading.ownEvidence_iff`** — on a table that nobody changes, the second means that no other
  process has a burst.
-/

namespace TracePilot

open Distinct

/-! ## The two readers -/

namespace MockProvider

mutual
/-- **Both readers of tool results find the same ids.** -/
theorem mem_extractEventIds (x : String) :
    ∀ v : Json, x ∈ extractEventIds v ↔ x ∈ extractToolEventIds v
  | .obj fields => by
      rw [extractEventIds, extractToolEventIds, List.mem_eraseDups]
      exact mem_extractFields x fields
  | .arr items => by
      rw [extractEventIds, extractToolEventIds, List.mem_eraseDups]
      exact mem_extractItems x items
  | .null => by simp [extractEventIds]
  | .bool b => by simp [extractEventIds]
  | .int n => by simp [extractEventIds]
  | .float y => by simp [extractEventIds]
  | .str s => by simp [extractEventIds]

theorem mem_extractFields (x : String) :
    ∀ fields : List (String × Json), x ∈ extractFields fields ↔ x ∈ extractToolFields fields
  | [] => by simp [extractFields]
  | (key, child) :: rest => by
      rw [extractFields, extractToolFields, List.mem_append, Finset.mem_union,
        mem_extractFields x rest]
      refine or_congr_left ?_
      cases idsUnderKey key child with
      | none => exact mem_extractEventIds x child
      | some ids => simp

theorem mem_extractItems (x : String) :
    ∀ items : List Json, x ∈ extractItems items ↔ x ∈ extractToolItems items
  | [] => by simp [extractItems, extractToolItems]
  | item :: rest => by
      rw [extractItems, extractToolItems, List.mem_append, Finset.mem_union,
        mem_extractEventIds x item, mem_extractItems x rest]
end

lemma extractItems_eq_flatMap (items : List Json) :
    extractItems items = items.flatMap extractEventIds := by
  induction items with
  | nil => rfl
  | cons item items ih => rw [extractItems, ih, List.flatMap_cons]

lemma nodup_extractEventIds (v : Json) : (extractEventIds v).Nodup := by
  cases v with
  | obj fields => rw [extractEventIds]; exact nodup_eraseDups _
  | arr items => rw [extractEventIds]; exact nodup_eraseDups _
  | _ => simp [extractEventIds]

end MockProvider

/-! ## Reports -/

/-- The text of an identifier is the text of an event id. -/
lemma isEventId_str (id : Uuid) : IsEventId id.str := by
  have hdigit : ∀ n < 16, isHexOrDash (Nat.digitChar n) = true := by decide
  refine ⟨id.length_str, fun c hc => ?_⟩
  rcases Uuid.mem_str hc with rfl | ⟨n, hn, rfl⟩
  · decide
  · exact hdigit n hn

lemma IsEventId.bracketFree {id : String} (h : IsEventId id) : BracketFree id := by
  intro c hc
  constructor
  · rintro rfl
    exact absurd (h.2 _ hc) (by decide)
  · rintro rfl
    exact absurd (h.2 _ hc) (by decide)

/-- A list of citations cites its ids, and what follows cites what it cites. -/
lemma cites_citations_append {x : String} (hx : BracketFree x) (t : String) :
    ∀ ids : List String, (∀ id ∈ ids, BracketFree id) →
      (Cites (" ".intercalate (ids.map citation) ++ t) x ↔ x ∈ ids ∨ Cites t x)
  | [], _ => by simp
  | [id], h => by
      rw [List.map_singleton, String.intercalate_singleton, List.mem_singleton]
      exact cites_citation_append (h id (by simp)) hx t
  | id :: id' :: ids, h => by
      have ih := cites_citations_append hx t (id' :: ids) fun y hy => h y (by simp [hy])
      rw [List.map_cons, List.map_cons, String.intercalate_cons_cons, ← List.map_cons,
        String.append_assoc, String.append_assoc, cites_citation_append (h id (by simp)) hx,
        cites_append_iff (by decide), ih]
      rw [← or_assoc, ← List.mem_cons]

lemma bracket_not_mem_toString (n : ℕ) : '[' ∉ (toString n).toList := by
  have htext : (toString n).toList = Nat.toDigits 10 n := Nat.toList_repr
  intro h
  rw [htext] at h
  exact absurd (Nat.isDigit_of_mem_toDigits (by norm_num) (by norm_num) h) (by decide)

namespace MockProvider

/-- The report on the collected ids. -/
def reportOn (pid : ℕ) (eventIds : List String) : String :=
  if eventIds = [] then emptyReport pid else report pid eventIds

lemma not_cites_emptyReport (pid : ℕ) (x : String) : ¬ Cites (emptyReport pid) x := by
  unfold emptyReport
  rw [String.append_assoc, cites_append_iff (by decide +kernel),
    cites_append_iff (bracket_not_mem_toString pid)]
  exact not_cites (by decide +kernel) x

lemma cites_report {pid : ℕ} {ids : List String} (hids : ∀ id ∈ ids, BracketFree id) {x : String}
    (hx : BracketFree x) : Cites (report pid ids) x ↔ x ∈ ids.take 3 := by
  have hcitations : (fun id => "[event:" ++ id ++ "]") = citation := rfl
  rw [report, hcitations]
  simp only [String.append_assoc]
  rw [cites_append_iff (by decide +kernel), cites_append_iff (bracket_not_mem_toString pid),
    cites_append_iff (by decide +kernel), cites_append_iff (by decide +kernel),
    cites_citations_append hx _ _ fun id hid => hids id (List.mem_of_mem_take hid)]
  refine or_iff_left ?_
  rw [cites_append_iff (by decide +kernel)]
  exact not_cites (by decide +kernel) x

/-- **What a report cites**: the first three of the ids. -/
theorem cites_reportOn {pid : ℕ} {ids : List String} (hids : ∀ id ∈ ids, BracketFree id)
    {x : String} (hx : BracketFree x) : Cites (reportOn pid ids) x ↔ x ∈ ids.take 3 := by
  rw [reportOn]
  split_ifs with h
  · rw [h]
    exact iff_of_false (not_cites_emptyReport pid x) (by simp)
  · exact cites_report hids hx

/-- **A report on ids passes the evidence check** when these are the allowed ones and
well-formed. -/
theorem validate_reportOn_of_mem {pid : ℕ} {ids : List String} (hids : ∀ id ∈ ids, IsEventId id)
    {allowed : Finset String} (hallowed : ∀ x, x ∈ ids ↔ x ∈ allowed) :
    validateReportEvidence (reportOn pid ids) allowed = .ok () := by
  have hcites : ∀ {x : String}, IsEventId x → (Cites (reportOn pid ids) x ↔ x ∈ ids.take 3) :=
    fun hx => cites_reportOn (fun id hid => (hids id hid).bracketFree) hx.bracketFree
  refine (validateReportEvidence_eq_ok _ _).mpr ⟨fun x hx hc => ?_, fun hne => ?_⟩
  · exact (hallowed x).mp (List.mem_of_mem_take ((hcites hx).mp hc))
  · obtain ⟨x, hx⟩ := Finset.nonempty_iff_ne_empty.mpr hne
    have hmem := (hallowed x).mpr hx
    cases ids with
    | nil => cases hmem
    | cons y rest =>
        have hy := hids y List.mem_cons_self
        exact ⟨y, hy, (hcites hy).mpr List.mem_cons_self⟩

/-- The ids collected from three results. -/
def evidence (timeline bursts unusual : Json) : List String :=
  (extractEventIds timeline ++ extractEventIds bursts ++ extractEventIds unusual).eraseDups

/-! ## The order of the ids -/

/-- The ids of a list of rows. -/
def rowIds (rows : List StoredEvent) : List String := rows.map fun e => e.id.str

/-- The ids of all bursts, in the order of the result. -/
def burstIds (threshold : ℤ) (rows : List StoredEvent) : List String :=
  (burstGroups threshold rows).flatMap fun g => rowIds g.2

/-- A burst contributes the ids of its rows. -/
lemma extractEventIds_burst (g : (ℤ × String × ℤ) × List StoredEvent) :
    extractEventIds (.obj [
      ("pid", .int g.1.1),
      ("process_name", .str g.1.2.1),
      ("window_start", isoText g.1.2.2),
      ("connection_count", .int g.2.length),
      ("event_ids", eventIds g.2)]) = (rowIds g.2).eraseDups := by
  simp [extractEventIds, extractFields, idsUnderKey, isoText, eventIds_eq, stringItems_map_str,
    rowIds, -List.map_map]

/-- The result of the bursts tool contributes its ids in order. -/
lemma extractEventIds_connectionBursts (a : ConnectionBurstsArguments) (rows : List StoredEvent) :
    extractEventIds (connectionBurstsResult a rows) = (burstIds a.threshold rows).eraseDups := by
  have hitems : extractItems ((burstGroups a.threshold rows).map fun g => .obj [
      ("pid", .int g.1.1),
      ("process_name", .str g.1.2.1),
      ("window_start", isoText g.1.2.2),
      ("connection_count", .int g.2.length),
      ("event_ids", eventIds g.2)])
      = (burstGroups a.threshold rows).flatMap fun g => (rowIds g.2).eraseDups := by
    rw [extractItems_eq_flatMap, List.flatMap_map]
    simp only [extractEventIds_burst]
  simp only [connectionBurstsResult, extractEventIds, extractFields, idsUnderKey, Option.getD_none,
    List.nil_append, List.append_nil, hitems]
  simp [eraseDups_eraseDups, eraseDups_flatMap_eraseDups, burstIds]

/-- The collected ids: those of the timeline, those of the bursts in order, and the rest. -/
lemma evidence_eq (timeline unusual : Json) (a : ConnectionBurstsArguments)
    (rows : List StoredEvent) :
    evidence timeline (connectionBurstsResult a rows) unusual
      = (extractEventIds timeline ++ burstIds a.threshold rows
        ++ extractEventIds unusual).eraseDups := by
  refine eraseDups_append_congr (eraseDups_append_congr rfl ?_) rfl
  rw [extractEventIds_connectionBursts, eraseDups_eraseDups]

end MockProvider

/-! ## Rows and their ids -/

namespace MockProvider

lemma mem_rowIds {rows : List StoredEvent} {x : String} :
    x ∈ rowIds rows ↔ ∃ e ∈ rows, e.id.str = x := List.mem_map

/-- The timeline contributes the ids of its rows, each once. -/
lemma length_timelineIds (a : EventTimelineArguments) {rows : List StoredEvent}
    (h : Keyed rows) :
    (extractEventIds (eventTimelineResult a rows)).eraseDups.length = min 500 rows.length := by
  have hnodup := nodup_extractEventIds (eventTimelineResult a rows)
  have hperm : (extractEventIds (eventTimelineResult a rows)).Perm (rowIds (timelineRows rows)) := by
    refine (List.perm_ext_iff_of_nodup hnodup h.newest.nodup_str).mpr fun x => ?_
    rw [mem_extractEventIds, ids_eventTimeline]
    exact mem_rowIds.symm
  rw [eraseDups_of_nodup hnodup, hperm.length_eq, rowIds, List.length_map, length_timelineRows]

lemma row_of_timelineId {a : EventTimelineArguments} {rows : List StoredEvent} {x : String}
    (h : x ∈ extractEventIds (eventTimelineResult a rows)) : ∃ e ∈ rows, e.id.str = x := by
  obtain ⟨e, he, rfl⟩ := (ids_eventTimeline a rows x).mp ((mem_extractEventIds x _).mp h)
  exact ⟨e, Table.mem_orderByDesc.mp (List.mem_of_mem_take (List.mem_reverse.mp he)), rfl⟩

lemma row_of_unusualId {a : UnusualDestinationsArguments} {baseline recent : List StoredEvent}
    {x : String} (h : x ∈ extractEventIds (unusualDestinationsResult a baseline recent)) :
    ∃ e ∈ recent, e.id.str = x := by
  obtain ⟨g, hg, e, he, rfl⟩ :=
    (ids_unusualDestinations a baseline recent x).mp ((mem_extractEventIds x _).mp h)
  exact ⟨e, mem_of_mem_unusualGroups hg he, rfl⟩

end MockProvider

/-- A burst is a group of its process with more rows than the threshold. -/
lemma burstGroups_spec {threshold : ℤ} {rows : List StoredEvent}
    {g : (ℤ × String × ℤ) × List StoredEvent} (hg : g ∈ burstGroups threshold rows) :
    g.2.Sublist rows ∧ threshold < g.2.length ∧ ∀ e ∈ g.2, e.pid = g.1.1 := by
  obtain ⟨hgroup, hlarge⟩ := List.mem_filter.mp (Table.mem_orderByDesc.mp hg)
  have hrows := (Table.mem_groupBy.mp hgroup).2
  refine ⟨hrows ▸ List.filter_sublist, by simpa using hlarge, fun e he => ?_⟩
  rw [hrows] at he
  have hkey := of_decide_eq_true (List.mem_filter.mp he).2
  exact congrArg Prod.fst hkey

/-! ## Attribution -/

/-- **Right attribution** of a report on process `pid` that was made from the statements `read`:
the events it cites are events of the process, and if no statement returned one, it is the report
without evidence. -/
structure RightlyAttributed (pid : ℕ) (events : List StoredEvent) (read : List Statement)
    (report : String) : Prop where
  cited : ∀ e ∈ events, Cites report e.id.str → e.pid = pid
  empty : (∀ q ∈ read, ∀ e ∈ q.rows, e.pid ≠ pid) → report = MockProvider.emptyReport pid

/-- A PID that the tools accept. -/
abbrev DemoPid := {n : ℕ // 1 ≤ n}

/-- The PID as the tools are given it. -/
def DemoPid.argument (pid : DemoPid) : {n : ℤ // 1 ≤ n} := ⟨pid.1, Int.ofNat_le.mpr pid.2⟩

lemma demo_threshold : (1 : ℤ) ≤ 100 ∧ (100 : ℤ) ≤ 10000 := by decide

lemma demo_minutes : (1 : ℤ) ≤ 1440 ∧ (1440 : ℤ) ≤ 1440 := by decide

/-- The arguments of the second call. -/
def demoBursts : ConnectionBurstsArguments := ⟨⟨100, demo_threshold⟩, ⟨1440, demo_minutes⟩⟩

/-- What the three calls read: the clock at each call, and the table at each of the four
statements. -/
structure DemoReading where
  timelineAt : ℤ
  burstsAt : ℤ
  unusualAt : ℤ
  timeline : List StoredEvent
  bursts : List StoredEvent
  baseline : List StoredEvent
  recent : List StoredEvent

namespace DemoReading

variable (r : DemoReading) (pid : DemoPid)

def timelineStatement : Statement := ⟨eventTimelineClause ⟨pid.argument⟩ r.timelineAt, r.timeline⟩
def burstsStatement : Statement := ⟨recentClause r.burstsAt 1440, r.bursts⟩
def baselineStatement : Statement := ⟨baselineClause ⟨pid.argument⟩ r.unusualAt, r.baseline⟩
def recentStatement : Statement := ⟨lastHourClause ⟨pid.argument⟩ r.unusualAt, r.recent⟩

/-- The statements of the three calls, in order. -/
def statements : List Statement :=
  [r.timelineStatement pid, r.burstsStatement, r.baselineStatement pid, r.recentStatement pid]

/-- The results of the three calls. -/
def timelineResult : Json := eventTimelineResult ⟨pid.argument⟩ (r.timelineStatement pid).rows
@[inherit_doc timelineResult] def burstsResult : Json :=
  connectionBurstsResult demoBursts r.burstsStatement.rows
@[inherit_doc timelineResult] def unusualResult : Json :=
  unusualDestinationsResult ⟨pid.argument⟩ (r.baselineStatement pid).rows
    (r.recentStatement pid).rows

/-- The ids in the three results. -/
def ids : List String :=
  MockProvider.evidence (r.timelineResult pid) r.burstsResult (r.unusualResult pid)

/-- The report made of them. -/
def report : String := MockProvider.reportOn pid (r.ids pid)

/-- **The evidence is the process's own**: its timeline has three events, or the first burst, if
there is one, is its own. -/
def OwnEvidence : Prop :=
  3 ≤ (r.timelineStatement pid).rows.length
    ∨ ∀ g ∈ (burstGroups 100 r.burstsStatement.rows).head?, g.1.1 = pid

section Ids

open MockProvider

variable {r : DemoReading} {pid : DemoPid}

lemma pid_of_mem_rows {q : Statement} {p : ℤ} (hq : q.clause.pid = some p) {e : StoredEvent}
    (he : e ∈ q.rows) : e.pid = p := by
  have hholds := (List.mem_filter.mp he).2
  simp only [EventWhere.holds, hq, Option.all_some, Bool.and_eq_true, decide_eq_true_eq] at hholds
  exact hholds.1.1.1

/-- The collected ids, with those of the bursts in order. -/
lemma ids_eq : r.ids pid
    = (extractEventIds (r.timelineResult pid) ++ burstIds 100 r.burstsStatement.rows
      ++ extractEventIds (r.unusualResult pid)).eraseDups :=
  evidence_eq _ _ demoBursts _

/-- The bursts, seen from the first one. -/
lemma burstIds_of_head {threshold : ℤ} {rows : List StoredEvent}
    {g : (ℤ × String × ℤ) × List StoredEvent} (hg : (burstGroups threshold rows).head? = some g) :
    ∃ rest, burstIds threshold rows = rowIds g.2 ++ rest := by
  obtain ⟨groups, hgroups⟩ := List.head?_eq_some_iff.mp hg
  exact ⟨groups.flatMap fun g => rowIds g.2, by rw [burstIds, hgroups, List.flatMap_cons]⟩

/-- A burst alone fills a report. -/
lemma burst_fills {rows : List StoredEvent} (hrows : Keyed rows)
    {g : (ℤ × String × ℤ) × List StoredEvent} (hg : g ∈ burstGroups 100 rows) (xs : List String) :
    3 ≤ (xs ++ rowIds g.2).eraseDups.length := by
  obtain ⟨hsub, hlarge, -⟩ := burstGroups_spec hg
  have hnodup : (rowIds g.2).Nodup := (hrows.sublist hsub).nodup_str
  have hle := length_le_of_subset hnodup fun x hx => List.mem_append_right xs hx
  have hlen : (rowIds g.2).length = g.2.length := List.length_map _
  omega

variable (htimeline : Keyed (r.timelineStatement pid).rows)
  (hbursts : Keyed r.burstsStatement.rows)

include htimeline hbursts

/-- When the evidence is the process's own, the first three ids are ids of its events. -/
lemma row_of_own (h : r.OwnEvidence pid) {x : String} (hx : x ∈ (r.ids pid).take 3) :
    ∃ q ∈ r.statements pid, ∃ e ∈ q.rows, e.pid = pid ∧ e.id.str = x := by
  have htimelineRow : ∀ y ∈ extractEventIds (r.timelineResult pid),
      ∃ q ∈ r.statements pid, ∃ e ∈ q.rows, e.pid = pid ∧ e.id.str = y := by
    intro y hy
    obtain ⟨e, he, hid⟩ := row_of_timelineId hy
    exact ⟨r.timelineStatement pid, by simp [statements], e, he, pid_of_mem_rows rfl he, hid⟩
  rw [ids_eq] at hx
  rcases h with hmany | hfirst
  · -- the timeline fills the report
    rw [List.append_assoc, take_eraseDups_append] at hx
    · exact htimelineRow x (mem_of_mem_take_eraseDups hx)
    · rw [timelineResult, length_timelineIds _ htimeline]
      omega
  cases hhead : (burstGroups 100 r.burstsStatement.rows).head? with
  | none =>
      have hnone : burstIds 100 r.burstsStatement.rows = [] := by
        rw [burstIds, List.head?_eq_none_iff.mp hhead, List.flatMap_nil]
      rw [hnone, List.append_nil] at hx
      rcases List.mem_append.mp (mem_of_mem_take_eraseDups hx) with hx | hx
      · exact htimelineRow x hx
      · obtain ⟨e, he, hid⟩ := row_of_unusualId hx
        exact ⟨r.recentStatement pid, by simp [statements], e, he, pid_of_mem_rows rfl he, hid⟩
  | some g =>
      -- the timeline and the first burst fill it
      have hg : g ∈ burstGroups 100 r.burstsStatement.rows := List.mem_of_mem_head? hhead
      obtain ⟨rest, hrest⟩ := burstIds_of_head hhead
      rw [hrest, ← List.append_assoc, List.append_assoc _ rest,
        take_eraseDups_append (burst_fills hbursts hg _)] at hx
      rcases List.mem_append.mp (mem_of_mem_take_eraseDups hx) with hx | hx
      · exact htimelineRow x hx
      · obtain ⟨e, he, hid⟩ := mem_rowIds.mp hx
        obtain ⟨hsub, -, hpid⟩ := burstGroups_spec hg
        exact ⟨r.burstsStatement, by simp [statements], e, hsub.subset he,
          (hpid e he).trans (hfirst g hhead), hid⟩

/-- When it is not, one of the first three ids is the id of an event of another process. -/
lemma foreign_of_not_own (h : ¬ r.OwnEvidence pid) :
    ∃ e ∈ r.burstsStatement.rows, e.pid ≠ pid ∧ e.id.str ∈ (r.ids pid).take 3 := by
  simp only [OwnEvidence, not_or, not_le, not_forall] at h
  obtain ⟨hfew, g, hhead, hforeign⟩ := h
  have hg : g ∈ burstGroups 100 r.burstsStatement.rows := List.mem_of_mem_head? hhead
  obtain ⟨hsub, -, hpid⟩ := burstGroups_spec hg
  obtain ⟨rest, hrest⟩ := burstIds_of_head hhead
  have hshort : (extractEventIds (r.timelineResult pid)).eraseDups.length < 3 := by
    rw [timelineResult, length_timelineIds _ htimeline]
    omega
  obtain ⟨x, hx, hmem⟩ := exists_mem_take_eraseDups hshort (burst_fills hbursts hg _)
    (rest ++ extractEventIds (r.unusualResult pid))
  obtain ⟨e, he, rfl⟩ := mem_rowIds.mp hx
  refine ⟨e, hsub.subset he, fun hown => hforeign ((hpid e he).symm.trans hown), ?_⟩
  rw [ids_eq, hrest]
  simpa only [List.append_assoc] using hmem

end Ids

section Attribution

variable {r : DemoReading} {pid : DemoPid} {events : List StoredEvent}

/-- Every collected id is the id of a row that was read. -/
lemma row_of_mem_ids {x : String} (hx : x ∈ r.ids pid) :
    ∃ q ∈ r.statements pid, ∃ e ∈ q.rows, e.id.str = x := by
  rw [ids_eq, List.mem_eraseDups, List.mem_append, List.mem_append] at hx
  rcases hx with (hx | hx) | hx
  · obtain ⟨e, he, hid⟩ := MockProvider.row_of_timelineId hx
    exact ⟨r.timelineStatement pid, by simp [statements], e, he, hid⟩
  · obtain ⟨g, hg, hx⟩ := List.mem_flatMap.mp hx
    obtain ⟨e, he, hid⟩ := MockProvider.mem_rowIds.mp hx
    exact ⟨r.burstsStatement, by simp [statements], e, mem_of_mem_burstGroups hg he, hid⟩
  · obtain ⟨e, he, hid⟩ := MockProvider.row_of_unusualId hx
    exact ⟨r.recentStatement pid, by simp [statements], e, he, hid⟩

/-- What the report cites of the stored events. -/
lemma cites_report_iff (id : Uuid) : Cites (r.report pid) id.str ↔ id.str ∈ (r.ids pid).take 3 := by
  refine MockProvider.cites_reportOn (fun x hx => ?_) (isEventId_str id).bracketFree
  obtain ⟨q, -, e, -, rfl⟩ := row_of_mem_ids hx
  exact (isEventId_str e.id).bracketFree

/-- **When the demo report is rightly attributed.** -/
theorem rightlyAttributed_iff (hevents : Keyed events)
    (hkeyed : ∀ q ∈ r.statements pid, Keyed q.table)
    (hstored : ∀ q ∈ r.statements pid, ∀ e ∈ q.table, e ∈ events) :
    RightlyAttributed pid events (r.statements pid) (r.report pid) ↔ r.OwnEvidence pid := by
  have hrows : ∀ q ∈ r.statements pid, Keyed q.rows :=
    fun q hq => (hkeyed q hq).sublist List.filter_sublist
  have hstoredRows : ∀ q ∈ r.statements pid, ∀ e ∈ q.rows, e ∈ events :=
    fun q hq e he => hstored q hq e (List.mem_of_mem_filter he)
  have htimeline := hrows (r.timelineStatement pid) (by simp [statements])
  have hbursts := hrows r.burstsStatement (by simp [statements])
  constructor
  · intro h
    by_contra hnot
    obtain ⟨e, he, hforeign, hmem⟩ := foreign_of_not_own htimeline hbursts hnot
    have hstored := hstoredRows r.burstsStatement (by simp [statements]) e he
    exact hforeign (h.cited e hstored ((cites_report_iff e.id).mpr hmem))
  · intro h
    refine ⟨fun e he hcites => ?_, fun hnone => ?_⟩
    · obtain ⟨q, hq, e', he', hpid, hid⟩ :=
        row_of_own htimeline hbursts h ((cites_report_iff e.id).mp hcites)
      rw [← hevents.eq (hstoredRows q hq e' he') he hid]
      exact hpid
    · have hids : r.ids pid = [] := by
        cases hids : r.ids pid with
        | nil => rfl
        | cons x rest =>
            have hx : x ∈ (r.ids pid).take 3 := by rw [hids]; exact List.mem_cons_self
            obtain ⟨q, hq, e, he, hpid, -⟩ := row_of_own htimeline hbursts h hx
            exact absurd hpid (hnone q hq e he)
      rw [report, hids]
      rfl

/-- A process has a burst in the table exactly when the second call returns one of it. -/
lemma exists_burst_iff (other : ℤ) (processName : String) :
    (∃ g ∈ burstGroups 100 r.burstsStatement.rows, g.1.1 = other ∧ g.1.2.1 = processName)
      ↔ CalendarBurst r.bursts r.burstsAt 1440 100 other processName := by
  refine Iff.trans ?_
    (exists_burstGroup_iff r.bursts r.burstsAt 1440 demo_threshold.1 (fun _ => rfl) rfl)
  simp only [burstGroups, burstsStatement, Statement.rows, Table.mem_orderByDesc, List.mem_filter,
    decide_eq_true_eq, and_assoc]

/-- **Own evidence on a table that nobody changes**, while the clock does not go back: the process
has three events in its timeline, or no other process has a burst. -/
theorem ownEvidence_iff (htable : r.timeline.Perm r.bursts) (hclock : r.timelineAt ≤ r.burstsAt) :
    r.OwnEvidence pid ↔ 3 ≤ (r.timelineStatement pid).rows.length
      ∨ ∀ other processName, CalendarBurst r.bursts r.burstsAt 1440 100 other processName →
        other = pid := by
  refine or_congr_right' fun hfew => ?_
  constructor
  · intro hfirst other processName hburst
    obtain ⟨g, hg, rfl, -⟩ := (exists_burst_iff other processName).mpr hburst
    cases hhead : (burstGroups 100 r.burstsStatement.rows).head? with
    | none =>
        rw [List.head?_eq_none_iff.mp hhead] at hg
        exact absurd hg List.not_mem_nil
    | some first =>
        -- a burst of the process itself would lie in its timeline
        obtain ⟨hsub, hlarge, hpid⟩ := burstGroups_spec (List.mem_of_mem_head? hhead)
        refine absurd ?_ hfew
        have hkept : first.2.filter (r.timelineStatement pid).clause.holds = first.2 := by
          refine List.filter_eq_self.mpr fun e he => ?_
          have hwindow := (List.mem_filter.mp (hsub.subset he)).2
          have hown : e.pid = pid := (hpid e he).trans (hfirst first hhead)
          simp only [burstsStatement, timelineStatement, recentClause, eventTimelineClause,
            EventWhere.holds, Option.all_none, Option.all_some, Bool.true_and, Bool.and_true,
            Bool.and_eq_true, decide_eq_true_eq, Datetime.instant_utc] at hwindow ⊢
          exact ⟨hown, by omega⟩
        have hin : first.2.Sublist (r.bursts.filter (r.timelineStatement pid).clause.holds) :=
          hkept ▸ (hsub.trans List.filter_sublist).filter _
        have hle := hin.length_le
        rw [← (htable.filter _).length_eq] at hle
        have hlen : (r.timelineStatement pid).rows.length
          = (r.timeline.filter (r.timelineStatement pid).clause.holds).length := rfl
        omega
  · intro hnone g hhead
    have hg : g ∈ burstGroups 100 r.burstsStatement.rows := List.mem_of_mem_head? hhead
    exact hnone g.1.1 g.1.2.1 ((exists_burst_iff _ _).mp ⟨g, hg, rfl, rfl⟩)

end Attribution

end DemoReading

end TracePilot
