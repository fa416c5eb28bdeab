import TracePilot.Backend.Agent

/-!
# What the evidence check establishes

`citedEventIds` narrows a report to the citations that a regular expression recognises, and the
check compares only those with the allowed ids.

* **`mem_citedEventIds`** — the recognised ids are exactly the texts of 36 characters of the
  class `[0-9a-fA-F-]` that the report cites.
* **`validateReportEvidence_eq_ok`** — what acceptance means.
* **`noInventedCitation_iff`** — a citation with any other text in it is never looked at, so no
  invented citation gets through only if there is no such text or another check rejects the
  report.
-/

namespace TracePilot

/-- A text of 36 characters of `[0-9a-fA-F-]`. -/
def IsEventId (id : String) : Prop := id.toList.length = 36 ∧ ∀ c ∈ id.toList, isHexOrDash c = true

/-- The report contains `[event:`, the text, and `]`. -/
def Cites (report id : String) : Prop :=
  ∃ before after, report.toList = before ++ citationOpening ++ id.toList ++ ']' :: after

/-- The text contains neither bracket. -/
def BracketFree (text : String) : Prop := ∀ c ∈ text.toList, c ≠ '[' ∧ c ≠ ']'

/-! ## The pattern -/

lemma matchHere_citationPattern (prev : Option Char) (s g rest : List Char) :
    Scan.matchHere citationPattern prev s = some (g, rest)
      ↔ s = citationOpening ++ g ++ ']' :: rest ∧ g.length = 36
          ∧ ∀ c ∈ g, isHexOrDash c = true := by
  rw [citationPattern, Scan.matchHere_word]
  constructor
  · rintro ⟨t, rfl, ht⟩
    obtain ⟨w, u, g', rfl, hw, hall, hu, rfl⟩ := (Scan.matchHere_exactly _ _ _ _ _ _ _ _).mp ht
    obtain ⟨c, v, rfl, hc, hv⟩ := (Scan.matchHere_one _ _ _ _ _ _).mp hu
    obtain rfl : c = ']' := by simpa using hc
    obtain ⟨rfl, rfl⟩ := Prod.mk.inj (Option.some.inj hv)
    exact ⟨by simp, by simpa using hw, by simpa using hall⟩
  · rintro ⟨rfl, hlen, hall⟩
    refine ⟨g ++ ']' :: rest, by simp, ?_⟩
    refine (Scan.matchHere_exactly _ _ _ _ _ _ _ _).mpr ⟨g, _, [], rfl, hlen, hall, ?_, by simp⟩
    exact (Scan.matchHere_one _ _ _ _ _ _).mpr ⟨']', rest, rfl, by simp, rfl⟩

/-- A citation opens with the only `[` of its opening. -/
lemma citationOpening_eq : ∃ word, citationOpening = '[' :: word ∧ ∀ d ∈ word, d ≠ '[' :=
  ⟨"event:".toList, by decide, forall_mem_toList (by decide)⟩

/-- A citation begins with the only `[` it contains, so two of them never overlap. -/
lemma separated_citationPattern : Scan.Separated citationPattern (· = '[') where
  shape := by
    intro prev s g rest h
    obtain ⟨rfl, -, hall⟩ := (matchHere_citationPattern _ _ _ _).mp h
    obtain ⟨word, hopening, hword⟩ := citationOpening_eq
    refine ⟨'[', word ++ g ++ [']'], ?_, rfl, ?_⟩
    · rw [hopening]
      simp
    · intro d hd
      rcases List.mem_append.mp hd with hd | hd
      · rcases List.mem_append.mp hd with hd | hd
        · exact hword d hd
        · rintro rfl
          exact absurd (hall '[' hd) (by decide)
      · rw [List.mem_singleton.mp hd]
        decide
  prev_irrelevant := by
    intro prev prev' s
    refine Option.ext fun r => ?_
    obtain ⟨g, rest⟩ := r
    exact (matchHere_citationPattern prev s g rest).trans
      (matchHere_citationPattern prev' s g rest).symm

/-- **The recognised ids are the well-formed texts that the report cites.** -/
theorem mem_citedEventIds (report id : String) :
    id ∈ citedEventIds report ↔ IsEventId id ∧ Cites report id := by
  have hmem : id ∈ citedEventIds report
      ↔ id.toList ∈ Scan.findall citationPattern report.toList := by
    rw [citedEventIds, List.mem_dedup, List.mem_map]
    constructor
    · rintro ⟨g, hg, rfl⟩
      rwa [String.toList_ofList]
    · intro h
      exact ⟨id.toList, h, String.ofList_toList⟩
  rw [hmem, Scan.mem_findall_iff separated_citationPattern]
  constructor
  · rintro ⟨before, t, rest, hs, hm⟩
    obtain ⟨rfl, hlen, hall⟩ := (matchHere_citationPattern _ _ _ _).mp hm
    exact ⟨⟨hlen, hall⟩, before, rest, by simp [hs]⟩
  · rintro ⟨⟨hlen, hall⟩, before, rest, hs⟩
    exact ⟨before, _, rest, by simpa using hs,
      (matchHere_citationPattern _ _ _ _).mpr ⟨rfl, hlen, hall⟩⟩

/-! ## Acceptance -/

/-- **What acceptance means**: every well-formed citation is allowed, and there is one if any id
is allowed. -/
theorem validateReportEvidence_eq_ok (report : String) (allowed : Finset String) :
    validateReportEvidence report allowed = .ok ()
      ↔ (∀ id, IsEventId id → Cites report id → id ∈ allowed)
          ∧ (allowed ≠ ∅ → ∃ id, IsEventId id ∧ Cites report id) := by
  have hinvented : ((citedEventIds report).filter fun id => id ∉ allowed) = []
      ↔ ∀ id, IsEventId id → Cites report id → id ∈ allowed := by
    simp only [List.filter_eq_nil_iff, mem_citedEventIds, decide_eq_true_eq, not_not, and_imp]
  have hcited : citedEventIds report = [] ↔ ¬ ∃ id, IsEventId id ∧ Cites report id := by
    simp only [List.eq_nil_iff_forall_not_mem, mem_citedEventIds, not_exists]
  unfold validateReportEvidence
  dsimp only
  rw [← hinvented]
  split_ifs with h h'
  · exact iff_of_false (by simp) fun hok => h hok.1
  · exact iff_of_false (by simp) fun hok => hcited.mp h'.2 (hok.2 h'.1)
  · refine iff_of_true rfl ⟨not_not.mp h, fun hne => ?_⟩
    by_contra hnone
    exact h' ⟨hne, hcited.mpr hnone⟩

/-- The ids that a report cites. -/
def citedIds (report : String) : Set String := {id | IsEventId id ∧ Cites report id}

/-- A report that is not accepted is rejected for its evidence. -/
lemma validateReportEvidence_rejects {report : String} {allowed : Finset String}
    (h : validateReportEvidence report allowed ≠ .ok ()) :
    ∃ message, validateReportEvidence report allowed = .error (.evidence message) := by
  unfold validateReportEvidence at h ⊢
  dsimp only at h ⊢
  split_ifs at h ⊢
  · exact ⟨_, rfl⟩
  · exact ⟨_, rfl⟩
  · exact absurd rfl h

/-- **The check decides its rule**, for every report and every set of allowed ids. -/
theorem validateReportEvidence_decides (report : String) (allowed : Finset String) :
    (validateReportEvidence report allowed = .ok ()
        ↔ citedIds report ⊆ ↑allowed ∧ (allowed = ∅ ∨ (citedIds report).Nonempty))
      ∧ ((∃ message, validateReportEvidence report allowed = .error (.evidence message))
        ↔ ¬ (citedIds report ⊆ ↑allowed ∧ (allowed = ∅ ∨ (citedIds report).Nonempty))) := by
  have hok : validateReportEvidence report allowed = .ok ()
      ↔ citedIds report ⊆ ↑allowed ∧ (allowed = ∅ ∨ (citedIds report).Nonempty) := by
    rw [validateReportEvidence_eq_ok, ← or_iff_not_imp_left]
    refine and_congr_left' ?_
    simp only [citedIds, Set.subset_def, Set.mem_ofPred_eq, Finset.mem_coe, and_imp]
  refine ⟨hok, ?_⟩
  rw [← hok]
  constructor
  · rintro ⟨message, herror⟩ hno
    rw [herror] at hno
    cases hno
  · exact validateReportEvidence_rejects

/-! ## Citations of a text that is put together -/

/-- The citation of an id. -/
def citation (id : String) : String := "[event:" ++ id ++ "]"

lemma toList_citation (id : String) :
    (citation id).toList = citationOpening ++ id.toList ++ [']'] := by
  rw [citation, String.toList_append, String.toList_append]
  rfl

/-- A `[` behind a stretch without any is behind the whole stretch. -/
lemma exists_eq_append_of_bracket {w t before rest : List Char} (hw : '[' ∉ w)
    (h : w ++ t = before ++ '[' :: rest) : ∃ before', t = before' ++ '[' :: rest := by
  rcases List.append_eq_append_iff.mp h with ⟨before', rfl, ht⟩ | ⟨w', rfl, ht⟩
  · exact ⟨before', ht⟩
  · cases w' with
    | nil => exact ⟨[], by simpa using ht.symm⟩
    | cons c w' =>
        obtain rfl : '[' = c := (List.cons.inj ht).1
        exact absurd (by simp) hw

/-- Nothing is cited in a stretch without a bracket. -/
lemma cites_append_iff {s : String} (hs : '[' ∉ s.toList) (t x : String) :
    Cites (s ++ t) x ↔ Cites t x := by
  obtain ⟨word, hopening, -⟩ := citationOpening_eq
  simp only [Cites, hopening, String.toList_append, List.append_assoc, List.cons_append]
  constructor
  · rintro ⟨before, after, h⟩
    obtain ⟨before', ht⟩ := exists_eq_append_of_bracket hs h
    exact ⟨before', after, ht⟩
  · rintro ⟨before, after, h⟩
    exact ⟨s.toList ++ before, after, by rw [h, List.append_assoc]⟩

lemma not_cites {s : String} (hs : '[' ∉ s.toList) (x : String) : ¬ Cites s x := by
  have h := cites_append_iff hs "" x
  rw [String.append_empty] at h
  obtain ⟨word, hopening, -⟩ := citationOpening_eq
  rw [h]
  rintro ⟨before, after, h⟩
  simp [hopening] at h

/-- Two texts without `]` that end at the same one are equal. -/
lemma eq_of_append_bracket {v w t u : List Char} (hv : ']' ∉ v) (hw : ']' ∉ w)
    (h : v ++ ']' :: t = w ++ ']' :: u) : v = w := by
  have hcut : ∀ {v t : List Char}, ']' ∉ v →
      (v ++ ']' :: t).takeWhile (fun c => c ≠ ']') = v := by
    intro v t hv
    rw [List.takeWhile_append_of_pos]
    · simp
    · intro c hc
      have hne : c ≠ ']' := fun h => hv (h ▸ hc)
      simpa using hne
  rw [← hcut hv, h, hcut hw]

/-- **A citation cites its id**, and what follows cites what it cites. -/
lemma cites_citation_append {y x : String} (hy : BracketFree y) (hx : BracketFree x) (t : String) :
    Cites (citation y ++ t) x ↔ x = y ∨ Cites t x := by
  obtain ⟨word, hopening, hword⟩ := citationOpening_eq
  simp only [Cites, String.toList_append, toList_citation, hopening, List.append_assoc,
    List.cons_append, List.nil_append]
  constructor
  · rintro ⟨before, after, h⟩
    cases before with
    | nil =>
        have hid := List.append_cancel_left (List.cons.inj h).2
        have hyx := eq_of_append_bracket (fun hc => (hy _ hc).2 rfl) (fun hc => (hx _ hc).2 rfl) hid
        exact Or.inl (String.toList_inj.mp hyx.symm)
    | cons c before =>
        refine Or.inr ?_
        have hinside : '[' ∉ word ++ (y.toList ++ [']']) := by
          simp only [List.mem_append, not_or]
          exact ⟨fun hc => hword _ hc rfl, fun hc => (hy _ hc).1 rfl, by decide⟩
        have htail : (word ++ (y.toList ++ [']'])) ++ t.toList
            = before ++ '[' :: (word ++ (x.toList ++ ']' :: after)) := by
          simpa using (List.cons.inj h).2
        obtain ⟨before', ht⟩ := exists_eq_append_of_bracket hinside htail
        exact ⟨before', after, ht⟩
  · rintro (rfl | ⟨before, after, h⟩)
    · exact ⟨[], t.toList, rfl⟩
    · exact ⟨'[' :: (word ++ (y.toList ++ ']' :: before)), after, by simp [h]⟩

/-! ## Citations of any form -/

/-- No invented citation gets through: whatever text without brackets an accepted report cites
is an allowed id. -/
def NoInventedCitation (report : String) (allowed : Finset String) : Prop :=
  validateReportEvidence report allowed = .ok () →
    ∀ text, BracketFree text → Cites report text → text ∈ allowed

/-- **When no invented citation gets through**: the report is rejected for a well-formed id, or
for citing none, or everything else it cites happens to be allowed. -/
theorem noInventedCitation_iff (report : String) (allowed : Finset String) :
    NoInventedCitation report allowed
      ↔ (∃ id, IsEventId id ∧ Cites report id ∧ id ∉ allowed)
        ∨ (allowed ≠ ∅ ∧ ¬ ∃ id, IsEventId id ∧ Cites report id)
        ∨ ∀ text, BracketFree text → ¬ IsEventId text → Cites report text → text ∈ allowed := by
  rw [NoInventedCitation, validateReportEvidence_eq_ok]
  constructor
  · intro h
    by_cases hbad : ∃ id, IsEventId id ∧ Cites report id ∧ id ∉ allowed
    · exact Or.inl hbad
    by_cases hnone : allowed ≠ ∅ ∧ ¬ ∃ id, IsEventId id ∧ Cites report id
    · exact Or.inr (Or.inl hnone)
    have hids : ∀ id, IsEventId id → Cites report id → id ∈ allowed :=
      fun id hid hc => not_not.mp fun hnot => hbad ⟨id, hid, hc, hnot⟩
    have hsome : allowed ≠ ∅ → ∃ id, IsEventId id ∧ Cites report id :=
      fun hne => not_not.mp fun hno => hnone ⟨hne, hno⟩
    exact Or.inr (Or.inr fun text hfree _ => h ⟨hids, hsome⟩ text hfree)
  · rintro (⟨id, hid, hc, hnot⟩ | ⟨hne, hnone⟩ | hother) ⟨hids, hsome⟩ text hfree htext
    · exact absurd (hids id hid hc) hnot
    · exact absurd (hsome hne) hnone
    · by_cases hid : IsEventId text
      · exact hids text hid htext
      · exact hother text hfree hid htext

/-- A shortened id beside a genuine one is accepted. -/
theorem not_noInventedCitation_shortened :
    ¬ NoInventedCitation
        "[event:00000000-0000-0000-0000-000000000007] and [event:deadbeef]"
        {"00000000-0000-0000-0000-000000000007"} := by
  intro h
  have hcites : Cites "[event:00000000-0000-0000-0000-000000000007] and [event:deadbeef]"
      "deadbeef" :=
    ⟨"[event:00000000-0000-0000-0000-000000000007] and ".toList, [], by decide⟩
  have hmem := h (by rfl) "deadbeef" (forall_mem_toList (by decide)) hcites
  revert hmem
  decide

end TracePilot
