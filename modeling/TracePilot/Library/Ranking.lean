import TracePilot.Library.Detector

/-!
# The largest groups

`GROUP BY key ORDER BY count(*) DESC LIMIT n` with ties in physical order.  **`mem_largest_iff`**
says which groups are in the answer without sorting anything: those with a rank below the limit,
where the rank of a key is the number of keys that outrank it.  It rests on the stability of the
sort.
-/

namespace Table

section Sorting

variable {α : Type} {r : α → α → Prop} [DecidableRel r] [Std.Total r] [IsTrans α r]
  {S : α → α → Prop}

/-- Inserting a row that stood before all others keeps what `stable_insertionSort` promises. -/
lemma stable_orderedInsert {l : List α} {a : α} (ha : ∀ b ∈ l, S a b)
    (hl : l.Pairwise fun b c => r b c ∧ (r c b → S b c)) :
    (l.orderedInsert r a).Pairwise fun b c => r b c ∧ (r c b → S b c) := by
  induction l with
  | nil => exact List.pairwise_singleton _ _
  | cons b l ih =>
      obtain ⟨hb, hrest⟩ := List.pairwise_cons.mp hl
      rw [List.orderedInsert_cons]
      split_ifs with hab
      · refine List.pairwise_cons.mpr ⟨fun c hc => ⟨?_, fun _ => ha c hc⟩, hl⟩
        rcases List.mem_cons.mp hc with rfl | hc
        · exact hab
        · exact IsTrans.trans _ _ _ hab (hb c hc).1
      · have hba : r b a := (Std.Total.total a b).resolve_left hab
        refine List.pairwise_cons.mpr ⟨fun c hc => ?_, ih (fun c hc => ha c (by simp [hc])) hrest⟩
        rcases (List.mem_orderedInsert r).mp hc with rfl | hc
        · exact ⟨hba, fun h => absurd h hab⟩
        · exact hb c hc

/-- **Insertion sort is stable**: what stood before and need not move stands before. -/
lemma stable_insertionSort {l : List α} (hl : l.Pairwise S) :
    (l.insertionSort r).Pairwise fun a b => r a b ∧ (r b a → S a b) := by
  induction l with
  | nil => exact List.Pairwise.nil
  | cons a l ih =>
      obtain ⟨ha, hrest⟩ := List.pairwise_cons.mp hl
      rw [List.insertionSort_cons]
      exact stable_orderedInsert (fun b hb => ha b ((List.mem_insertionSort r).mp hb)) (ih hrest)

/-- In a list ordered by a strict relation, the first `n` are those with fewer than `n` before
them. -/
lemma mem_take_iff_of_pairwise {R : α → α → Prop} [DecidableRel R]
    (hasymm : ∀ a b, R a b → ¬ R b a) {l : List α} (hl : l.Pairwise R) {a : α} (ha : a ∈ l)
    (n : ℕ) : a ∈ l.take n ↔ (l.filter fun b => R b a).length < n := by
  induction l generalizing n with
  | nil => cases ha
  | cons b l ih =>
      obtain ⟨hb, hrest⟩ := List.pairwise_cons.mp hl
      cases n with
      | zero => simp
      | succ n =>
          rw [List.take_succ_cons, List.mem_cons]
          rcases List.mem_cons.mp ha with rfl | hmem
          · have hnone : (l.filter fun c => R c a) = [] :=
              List.filter_eq_nil_iff.mpr fun c hc => by simpa using hasymm a c (hb c hc)
            have hself : ¬ R a a := fun h => hasymm a a h h
            simp [hself, hnone]
          · have hne : a ≠ b := by
              rintro rfl
              exact hasymm a a (hb a hmem) (hb a hmem)
            rw [List.filter_cons_of_pos (by simpa using hb a hmem), List.length_cons,
              or_iff_right hne, ih hrest hmem]
            omega

end Sorting

section Groups

variable {ρ κ : Type} [DecidableEq κ] {key : ρ → κ} {rows : List ρ}

/-- The groups with the most rows. -/
def largest (key : ρ → κ) (limit : ℕ) (rows : List ρ) : List (κ × List ρ) :=
  (orderByDesc (fun g => g.2.length) (groupBy key rows)).take limit

/-- `k'` comes before `k`: more rows have it, or as many do and its group comes first. -/
def Outranks (key : ρ → κ) (rows : List ρ) (k' k : κ) : Prop :=
  (groupOf key rows k).length < (groupOf key rows k').length
    ∨ (groupOf key rows k).length = (groupOf key rows k').length
      ∧ (rows.map key).dedup.idxOf k' < (rows.map key).dedup.idxOf k

instance : DecidableRel (Outranks key rows) := fun k' k => by
  unfold Outranks
  infer_instance

/-- How many keys come before `k`. -/
def rank (key : ρ → κ) (rows : List ρ) (k : κ) : ℕ :=
  ((rows.map key).dedup.filter fun k' => Outranks key rows k' k).length

lemma Outranks.asymm {k k' : κ} (h : Outranks key rows k' k) : ¬ Outranks key rows k k' := by
  unfold Outranks at h ⊢
  omega

/-- The ordered groups stand in the order of their keys. -/
lemma pairwise_outranks :
    (orderByDesc (fun g => g.2.length) (groupBy key rows)).Pairwise
      fun g g' => Outranks key rows g.1 g'.1 := by
  have hkeys : (groupBy key rows).Pairwise fun g g' =>
      (rows.map key).dedup.idxOf g.1 < (rows.map key).dedup.idxOf g'.1 := by
    rw [groupBy, List.pairwise_map, List.pairwise_iff_getElem]
    intro i j hi hj hij
    have hnodup := List.nodup_dedup (rows.map key)
    rwa [hnodup.idxOf_getElem, hnodup.idxOf_getElem]
  have : Std.Total fun g g' : κ × List ρ => g'.2.length ≤ g.2.length :=
    ⟨fun g g' => le_total g'.2.length g.2.length⟩
  have : IsTrans (κ × List ρ) fun g g' => g'.2.length ≤ g.2.length :=
    ⟨fun _ _ _ h h' => le_trans h' h⟩
  refine (stable_insertionSort hkeys).imp_of_mem fun {g g'} hg hg' hplaced => ?_
  obtain ⟨hle, htie⟩ := hplaced
  have hrows : g.2 = groupOf key rows g.1 := (mem_groupBy.mp (mem_orderByDesc.mp hg)).2
  have hrows' : g'.2 = groupOf key rows g'.1 := (mem_groupBy.mp (mem_orderByDesc.mp hg')).2
  unfold Outranks
  rw [← hrows, ← hrows']
  rcases hle.lt_or_eq with hlt | heq
  · exact .inl hlt
  · exact .inr ⟨heq, htie heq.ge⟩

/-- **Which groups are among the largest**: those whose key has a rank below the limit. -/
theorem mem_largest_iff {limit : ℕ} {g : κ × List ρ} :
    g ∈ largest key limit rows
      ↔ g.1 ∈ rows.map key ∧ g.2 = groupOf key rows g.1 ∧ rank key rows g.1 < limit := by
  have hperm := (arranged_orderByDesc (fun g : κ × List ρ => g.2.length) (groupBy key rows)).perm
  have hrank : ((orderByDesc (fun g => g.2.length) (groupBy key rows)).filter fun g' =>
      Outranks key rows g'.1 g.1).length = rank key rows g.1 := by
    rw [(hperm.filter _).length_eq, groupBy, List.filter_map, List.length_map]
    rfl
  have htake : g ∈ orderByDesc (fun g => g.2.length) (groupBy key rows) →
      (g ∈ largest key limit rows ↔ rank key rows g.1 < limit) := by
    intro hmem
    rw [← hrank]
    exact mem_take_iff_of_pairwise (fun _ _ h => h.asymm) pairwise_outranks hmem limit
  constructor
  · intro hg
    have hmem := List.mem_of_mem_take hg
    obtain ⟨hkey, hrows⟩ := mem_groupBy.mp (mem_orderByDesc.mp hmem)
    exact ⟨hkey, hrows, (htake hmem).mp hg⟩
  · rintro ⟨hkey, hrows, hlt⟩
    exact (htake (mem_orderByDesc.mpr (mem_groupBy.mpr ⟨hkey, hrows⟩))).mpr hlt

/-- The report of the largest groups, whatever is cited of them. -/
lemma largest_countsOnly_iff {ι : Type} {ident : ρ → ι} {limit : ℕ}
    {report : κ × List ρ → Finding κ ι}
    (hreport : ∀ k, (report (k, groupOf key rows k)).CountsOnly key List.length ident rows)
    (hkey : ∀ g, (report g).key = g.1) {p : ρ → Bool} :
    (∀ f ∈ (largest key limit rows).map report,
        f.CountsOnly key List.length ident (rows.filter p))
      ↔ ∀ r ∈ rows, rank key rows (key r) < limit → p r = true := by
  refine forall_countsOnly_iff (fun k => rank key rows k < limit) (fun f hf => ?_) fun r hr => ?_
  · obtain ⟨g, hg, rfl⟩ := List.mem_map.mp hf
    have hg' : g = (g.1, groupOf key rows g.1) := Prod.ext rfl (mem_largest_iff.mp hg).2.1
    rw [hg']
    exact hreport g.1
  · constructor
    · rintro ⟨f, hf, hkeyr⟩
      obtain ⟨g, hg, rfl⟩ := List.mem_map.mp hf
      rw [← hkeyr, hkey]
      exact (mem_largest_iff.mp hg).2.2
    · intro hlt
      have hg : (key r, groupOf key rows (key r)) ∈ largest key limit rows :=
        mem_largest_iff.mpr ⟨List.mem_map_of_mem hr, rfl, hlt⟩
      exact ⟨_, List.mem_map_of_mem hg, hkey _⟩

end Groups

end Table
