import TracePilot.Library.Detector

/-!
# Runs of rows with one key

When rows come in the order of a key, the rows of each key lie side by side, so that a loop which
collects them by key cuts the list into runs.  `Runs` says what such a cut is, and
**`foldl_eq_runs`** is the rule for the loop: it is enough to say what one row does to the last run,
and what it does when it starts a new one.
-/

namespace Table

variable {ρ κ ε : Type} [LinearOrder κ] {key : ρ → κ} {rows : List ρ} {runs : List (κ × List ρ)}

/-- The runs put together are the rows, each row has the key of its run, and the keys increase. -/
structure Runs (key : ρ → κ) (rows : List ρ) (runs : List (κ × List ρ)) : Prop where
  rows_eq : runs.flatMap (fun g => g.2) = rows
  key_eq : ∀ g ∈ runs, ∀ r ∈ g.2, key r = g.1
  nonempty : ∀ g ∈ runs, g.2 ≠ []
  increasing : (runs.map fun g => g.1).Pairwise (· < ·)

namespace Runs

lemma nil : Runs key [] [] :=
  ⟨rfl, by simp, by simp, List.Pairwise.nil⟩

lemma mem_rows (h : Runs key rows runs) {r : ρ} : r ∈ rows ↔ ∃ g ∈ runs, r ∈ g.2 := by
  rw [← h.rows_eq, List.mem_flatMap]

/-- The other runs have other keys. -/
lemma exists_split (h : Runs key rows runs) {g : κ × List ρ} (hg : g ∈ runs) :
    ∃ before after, runs = before ++ g :: after ∧ (∀ g' ∈ before, g'.1 ≠ g.1)
      ∧ ∀ g' ∈ after, g'.1 ≠ g.1 := by
  obtain ⟨before, after, rfl⟩ := List.append_of_mem hg
  have hincreasing := h.increasing
  rw [List.map_append, List.map_cons, List.pairwise_append, List.pairwise_cons] at hincreasing
  refine ⟨before, after, rfl, fun g' hg' => ?_, fun g' hg' => ?_⟩
  · exact (hincreasing.2.2 _ (List.mem_map_of_mem hg') _ List.mem_cons_self).ne
  · exact (hincreasing.2.1.1 _ (List.mem_map_of_mem hg')).ne'

/-- **A run holds all rows of its key.** -/
lemma eq_groupOf (h : Runs key rows runs) {g : κ × List ρ} (hg : g ∈ runs) :
    g.2 = groupOf key rows g.1 := by
  obtain ⟨before, after, hruns, hbefore, hafter⟩ := h.exists_split hg
  have hother : ∀ runs' : List (κ × List ρ), (∀ g' ∈ runs', g' ∈ runs) →
      (∀ g' ∈ runs', g'.1 ≠ g.1) →
      (runs'.flatMap fun g' => g'.2).filter (fun r => key r = g.1) = [] := by
    intro runs' hsub hne
    refine List.filter_eq_nil_iff.mpr fun r hr => ?_
    obtain ⟨g', hg', hr'⟩ := List.mem_flatMap.mp hr
    rw [decide_eq_true_eq, h.key_eq g' (hsub g' hg') r hr']
    exact hne g' hg'
  have hself : g.2.filter (fun r => key r = g.1) = g.2 :=
    List.filter_eq_self.mpr fun r hr => decide_eq_true (h.key_eq g hg r hr)
  rw [groupOf, ← h.rows_eq, hruns, List.flatMap_append, List.flatMap_cons, List.filter_append,
    List.filter_append, hself, hother before (fun g' hg' => by simp [hruns, hg']) hbefore,
    hother after (fun g' hg' => by simp [hruns, hg']) hafter, List.nil_append, List.append_nil]

/-- **A key that occurs has exactly one run.** -/
lemma filter_key (h : Runs key rows runs) {r : ρ} (hr : r ∈ rows) :
    ∃ g ∈ runs, g.1 = key r ∧ (runs.filter fun g => g.1 = key r) = [g] := by
  obtain ⟨g, hg, hmem⟩ := h.mem_rows.mp hr
  obtain ⟨before, after, hruns, hbefore, hafter⟩ := h.exists_split hg
  have hkey : key r = g.1 := h.key_eq g hg r hmem
  refine ⟨g, hg, hkey.symm, ?_⟩
  rw [hkey, hruns, List.filter_append, List.filter_cons_of_pos (by simp),
    List.filter_eq_nil_iff.mpr (by simpa using hbefore),
    List.filter_eq_nil_iff.mpr (by simpa using hafter), List.nil_append]

/-- **One more row**, with a key that is not smaller: it extends the last run or starts a new
one. -/
lemma snoc (h : Runs key rows runs) {r : ρ} (hr : ∀ r' ∈ rows, key r' ≤ key r) :
    (∃ before group, runs = before ++ [(key r, group)] ∧ (∀ g ∈ before, g.1 < key r)
        ∧ Runs key (rows ++ [r]) (before ++ [(key r, group ++ [r])]))
      ∨ (∀ g ∈ runs, g.1 < key r) ∧ Runs key (rows ++ [r]) (runs ++ [(key r, [r])]) := by
  have hnew : (∀ g ∈ runs, g.1 < key r) → Runs key (rows ++ [r]) (runs ++ [(key r, [r])]) := by
    intro hlt
    refine ⟨by simp [h.rows_eq], ?_, ?_, ?_⟩
    · simpa [or_imp, forall_and] using h.key_eq
    · simpa [or_imp, forall_and] using h.nonempty
    · rw [List.map_append, List.pairwise_append]
      refine ⟨h.increasing, List.pairwise_singleton _ _, ?_⟩
      simpa using hlt
  rcases List.eq_nil_or_concat' runs with rfl | ⟨before, ⟨k, group⟩, rfl⟩
  · exact .inr ⟨by simp, hnew (by simp)⟩
  · have hincreasing := h.increasing
    simp only [List.map_append, List.map_cons, List.map_nil, List.pairwise_append,
      List.mem_singleton, forall_eq, List.mem_map, forall_exists_index, and_imp,
      forall_apply_eq_imp_iff₂] at hincreasing
    obtain ⟨r', hr'⟩ := List.exists_mem_of_ne_nil _ (h.nonempty (k, group) (by simp))
    have hkey : key r' = k := h.key_eq (k, group) (by simp) r' hr'
    have hle : k ≤ key r := hkey ▸ hr r' (h.mem_rows.mpr ⟨(k, group), by simp, hr'⟩)
    rcases hle.eq_or_lt with rfl | hlt
    · refine .inl ⟨before, group, rfl, hincreasing.2.2, ?_⟩
      have hkeys := h.key_eq
      have hnonempty := h.nonempty
      simp only [List.mem_append, List.mem_singleton, or_imp, forall_and, forall_eq]
        at hkeys hnonempty
      refine ⟨?_, ?_, ?_, ?_⟩
      · simp [← h.rows_eq]
      · simp only [List.mem_append, List.mem_singleton, or_imp, forall_and, forall_eq]
        exact ⟨hkeys.1, hkeys.2, trivial⟩
      · simp only [List.mem_append, List.mem_singleton, or_imp, forall_and, forall_eq]
        exact ⟨hnonempty.1, by simp⟩
      · simpa using h.increasing
    · have hall : ∀ g ∈ before ++ [(k, group)], g.1 < key r := by
        simp only [List.mem_append, List.mem_singleton, or_imp, forall_and, forall_eq]
        exact ⟨fun g hg => (hincreasing.2.2 g hg).trans hlt, hlt⟩
      exact .inr ⟨hall, hnew hall⟩

end Runs

/-- **The rule for a loop over rows in the order of their keys**: when one round does to the entries
what the row does to the runs, the loop ends with the entries of the runs. -/
theorem foldl_eq_runs {step : List ε → ρ → List ε} {entry : κ × List ρ → ε}
    (hsame : ∀ {seen before group r}, Runs key seen (before ++ [(key r, group)]) →
      (∀ g ∈ before, g.1 < key r) →
      step ((before ++ [(key r, group)]).map entry) r
        = (before ++ [(key r, group ++ [r])]).map entry)
    (hnew : ∀ {seen runs r}, Runs key seen runs → (∀ g ∈ runs, g.1 < key r) →
      step (runs.map entry) r = (runs ++ [(key r, [r])]).map entry)
    (hsorted : rows.Pairwise fun r r' => key r ≤ key r') :
    ∃ runs, Runs key rows runs ∧ rows.foldl step [] = runs.map entry := by
  induction rows using List.reverseRecOn with
  | nil => exact ⟨[], .nil, rfl⟩
  | append_singleton rows r ih =>
      obtain ⟨hrows, -, hle⟩ := List.pairwise_append.mp hsorted
      obtain ⟨runs, hruns, hfold⟩ := ih hrows
      rw [List.foldl_append, List.foldl_cons, List.foldl_nil, hfold]
      rcases hruns.snoc fun r' hr' => hle r' hr' r (by simp) with
        ⟨before, group, rfl, hlt, hruns'⟩ | ⟨hlt, hruns'⟩
      · exact ⟨_, hruns', hsame hruns hlt⟩
      · exact ⟨_, hruns', hnew hruns hlt⟩

end Table
