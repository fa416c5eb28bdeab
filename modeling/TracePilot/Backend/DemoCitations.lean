import TracePilot.Backend.Containment
import TracePilot.Backend.DemoReports

/-!
# The ids that the demo provider collects and cites

The demo provider and the agent read the ids out of a tool result separately: one collects a list
and drops the repetitions at every level, the other collects a set.

* **`extractEventIds_exact`** — the list is the set, in the order of first occurrence.
* **`demoReport_accepted`** — a report on results of any form, whose ids are texts of identifiers,
  passes the agent's evidence check and cites the first three of the distinct ids.
-/

namespace TracePilot

open Distinct

namespace MockProvider

/-! ## The order of the ids -/

mutual
/-- The ids of a value from left to right, with their repetitions. -/
def occurrences : Json → List String
  | .obj fields => fieldOccurrences fields
  | .arr items => itemOccurrences items
  | _ => []

/-- The ids of the items of a dictionary. -/
def fieldOccurrences : List (String × Json) → List String
  | [] => []
  | (key, child) :: rest =>
      (idsUnderKey key child).getD (occurrences child) ++ fieldOccurrences rest

/-- The ids of the items of a list. -/
def itemOccurrences : List Json → List String
  | [] => []
  | item :: rest => occurrences item ++ itemOccurrences rest
end

mutual
/-- **Dropping repetitions at every level is dropping them once.** -/
theorem extractEventIds_eq_eraseDups : ∀ v : Json, extractEventIds v = (occurrences v).eraseDups
  | .obj fields => by
      rw [extractEventIds, occurrences, eraseDups_extractFields fields]
  | .arr items => by
      rw [extractEventIds, occurrences, eraseDups_extractItems items]
  | .null => by simp [extractEventIds, occurrences]
  | .bool b => by simp [extractEventIds, occurrences]
  | .int n => by simp [extractEventIds, occurrences]
  | .float y => by simp [extractEventIds, occurrences]
  | .str s => by simp [extractEventIds, occurrences]

theorem eraseDups_extractFields : ∀ fields : List (String × Json),
    (extractFields fields).eraseDups = (fieldOccurrences fields).eraseDups
  | [] => rfl
  | (key, child) :: rest => by
      rw [extractFields, fieldOccurrences]
      refine eraseDups_append_congr ?_ (eraseDups_extractFields rest)
      cases idsUnderKey key child with
      | none =>
          rw [Option.getD_none, Option.getD_none, extractEventIds_eq_eraseDups child,
            eraseDups_eraseDups]
      | some ids => rfl

theorem eraseDups_extractItems : ∀ items : List Json,
    (extractItems items).eraseDups = (itemOccurrences items).eraseDups
  | [] => rfl
  | item :: rest => by
      rw [extractItems, itemOccurrences]
      refine eraseDups_append_congr ?_ (eraseDups_extractItems rest)
      rw [extractEventIds_eq_eraseDups item, eraseDups_eraseDups]
end

end MockProvider

section Readers

open MockProvider

/-- **The two readers agree**: on every value the demo provider's list has no repetitions, its
elements are the agent's set, and they stand in the order of first occurrence. -/
theorem extractEventIds_exact (v : Json) :
    (extractEventIds v).Nodup
      ∧ (extractEventIds v).toFinset = extractToolEventIds v
      ∧ (extractEventIds v).Pairwise fun x y =>
        (occurrences v).idxOf x < (occurrences v).idxOf y := by
  refine ⟨nodup_extractEventIds v, ?_, ?_⟩
  · ext x
    rw [List.mem_toFinset, mem_extractEventIds]
  · rw [extractEventIds_eq_eraseDups]
    exact pairwise_eraseDups _

end Readers

namespace MockProvider

/-! ## The citations of a report -/

/-- The distinct ids of a list of results, from left to right. -/
def distinctIds (toolResults : List ToolResult) : List String :=
  (toolResults.flatMap fun r => occurrences r.result).eraseDups

lemma continueWithToolResults_some (pid : ℕ) (toolResults : List ToolResult) :
    continueWithToolResults (some pid) toolResults
      = .ok ⟨some (reportOn pid (distinctIds toolResults)), [], some pid⟩ := by
  have hids : (toolResults.flatMap fun r => extractEventIds r.result).eraseDups
      = distinctIds toolResults := by
    simp only [extractEventIds_eq_eraseDups]
    exact eraseDups_flatMap_eraseDups (fun r => occurrences r.result) toolResults
  rw [continueWithToolResults, hids]
  rfl

/-- What the agent allows after results are the ids of these. -/
lemma mem_allowedAfter {allowed : Finset String} {toolResults : List ToolResult} {x : String} :
    x ∈ allowedAfter allowed toolResults
      ↔ x ∈ allowed ∨ ∃ r ∈ toolResults, x ∈ extractToolEventIds r.result := by
  induction toolResults generalizing allowed with
  | nil => simp [allowedAfter]
  | cons r toolResults ih =>
      have hcons : allowedAfter allowed (r :: toolResults)
          = allowedAfter (allowed ∪ extractToolEventIds r.result) toolResults := rfl
      rw [hcons, ih, Finset.mem_union, List.exists_mem_cons_iff, or_assoc]

lemma mem_distinctIds {toolResults : List ToolResult} {x : String} :
    x ∈ distinctIds toolResults ↔ ∃ r ∈ toolResults, x ∈ extractToolEventIds r.result := by
  simp only [distinctIds, List.mem_eraseDups, List.mem_flatMap, ← mem_extractEventIds,
    extractEventIds_eq_eraseDups]

end MockProvider

section Reports

open MockProvider

/-- **A demo report is accepted**, for every list of results in which all ids are texts of
identifiers: the agent's check takes it against the ids of the same results, and it cites the first
three of the distinct ids, or all of them where there are fewer, and nothing else. -/
theorem demoReport_accepted (pid : ℕ) {toolResults : List ToolResult}
    (hids : ∀ r ∈ toolResults, ∀ text ∈ extractToolEventIds r.result, ∃ id : Uuid, text = id.str) :
    ∃ report, continueWithToolResults (some pid) toolResults = .ok ⟨some report, [], some pid⟩
      ∧ validateReportEvidence report (allowedAfter ∅ toolResults) = .ok ()
      ∧ (∀ id, id ∈ citedEventIds report ↔ id ∈ (distinctIds toolResults).take 3)
      ∧ ∀ text, BracketFree text →
        (Cites report text ↔ text ∈ (distinctIds toolResults).take 3) := by
  have hevent : ∀ id ∈ distinctIds toolResults, IsEventId id := by
    intro text htext
    obtain ⟨r, hr, hmem⟩ := mem_distinctIds.mp htext
    obtain ⟨id, rfl⟩ := hids r hr text hmem
    exact isEventId_str id
  have hcites : ∀ text, BracketFree text → (Cites (reportOn pid (distinctIds toolResults)) text
      ↔ text ∈ (distinctIds toolResults).take 3) :=
    fun text hfree => cites_reportOn (fun id hid => (hevent id hid).bracketFree) hfree
  refine ⟨_, continueWithToolResults_some pid toolResults, ?_, fun id => ?_, hcites⟩
  · refine validate_reportOn_of_mem hevent fun x => ?_
    rw [mem_distinctIds, mem_allowedAfter]
    simp
  · rw [mem_citedEventIds]
    constructor
    · rintro ⟨hid, hcited⟩
      exact (hcites id hid.bracketFree).mp hcited
    · intro hid
      have hwell := hevent id (List.mem_of_mem_take hid)
      exact ⟨hwell, (hcites id hwell.bracketFree).mpr hid⟩

/-- Two results that share one of their ids. -/
def sharedResults : List ToolResult := [
  ⟨"first", "get_event_timeline", .obj [("event_ids", .arr [.str (Uuid.str 7), .str (Uuid.str 8)])]⟩,
  ⟨"second", "find_connection_bursts", .obj [("event_id", .str (Uuid.str 7))]⟩]

theorem demoReport_accepted_shared :
    ∃ report, continueWithToolResults (some 42) sharedResults = .ok ⟨some report, [], some 42⟩
      ∧ validateReportEvidence report (allowedAfter ∅ sharedResults) = .ok () := by
  have hids : ∀ r ∈ sharedResults, ∀ text ∈ extractToolEventIds r.result,
      ∃ id : Uuid, text = id.str := by
    intro r hr text htext
    have hor : text = Uuid.str 7 ∨ text = Uuid.str 8 := by
      rcases List.mem_cons.mp hr with rfl | hr
      · simpa [extractToolEventIds, extractToolFields, idsUnderKey, stringItems] using htext
      · obtain rfl := List.mem_singleton.mp hr
        exact Or.inl
          (by simpa [extractToolEventIds, extractToolFields, idsUnderKey] using htext)
    exact hor.elim (fun h => ⟨7, h⟩) fun h => ⟨8, h⟩
  obtain ⟨report, hreport, hvalid, -⟩ := demoReport_accepted 42 hids
  exact ⟨report, hreport, hvalid⟩

end Reports

end TracePilot
