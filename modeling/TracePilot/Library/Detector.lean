import TracePilot.Library.Table

/-!
# Threshold detectors

`SELECT key, measure, count(*), array_agg(id) ... GROUP BY key HAVING measure > threshold ORDER BY
measure DESC`: a detector groups the rows of a table by a key, keeps the groups whose measure
exceeds a threshold, and reports the largest first.

`Exact` is what such a report should be, said of the table alone.  **`exact_detect`** is the one
theorem about the query: whatever the key, the measure and the threshold, the report is exact.
**`exists_finding_iff`** says when a key with some property is reported.
-/

namespace Table

variable {ρ κ ι : Type} [DecidableEq κ]

/-- The rows with a given key. -/
def groupOf (key : ρ → κ) (rows : List ρ) (k : κ) : List ρ := rows.filter fun r => key r = k

/-- The groups whose measure exceeds the threshold, the largest first. -/
def detect (key : ρ → κ) (measure : List ρ → ℕ) (threshold : ℤ) (rows : List ρ) :
    List (κ × List ρ) :=
  orderByDesc (fun g => measure g.2) ((groupBy key rows).filter fun g => threshold < measure g.2)

/-- One row of a report. -/
structure Finding (κ ι : Type) where
  key : κ
  measured : ℕ
  count : ℕ
  ids : List ι

/-- What is reported of a group. -/
def finding (measure : List ρ → ℕ) (ident : ρ → ι) (g : κ × List ρ) : Finding κ ι where
  key := g.1
  measured := measure g.2
  count := g.2.length
  ids := g.2.map ident

/-- **An exact report**: one row for each key whose group exceeds the threshold and for no other; in
each row the measure of the group and the ids of its rows, each once and as many as the count says;
no id in two rows; the measure at most the count; and the rows from the largest measure down. -/
structure Exact (key : ρ → κ) (measure : List ρ → ℕ) (threshold : ℤ) (ident : ρ → ι)
    (rows : List ρ) (found : List (Finding κ ι)) : Prop where
  once : (found.map fun f => f.key).Nodup
  reported_iff : ∀ k, (∃ f ∈ found, f.key = k) ↔ threshold < measure (groupOf key rows k)
  measured : ∀ f ∈ found, f.measured = measure (groupOf key rows f.key)
  ids : ∀ f ∈ found, ∀ x, x ∈ f.ids ↔ ∃ r ∈ groupOf key rows f.key, ident r = x
  nodup : ∀ f ∈ found, f.ids.Nodup
  count : ∀ f ∈ found, f.ids.length = f.count
  disjoint : found.Pairwise fun f f' => f.ids.Disjoint f'.ids
  measured_le : ∀ f ∈ found, f.measured ≤ f.count
  sorted : found.Pairwise fun f f' => f'.measured ≤ f.measured

/-- **A finding about some of the rows only**: it measures and counts those of them that have its
key, and cites no row but them. -/
structure Finding.CountsOnly (key : ρ → κ) (measure : List ρ → ℕ) (ident : ρ → ι) (rows : List ρ)
    (f : Finding κ ι) : Prop where
  measured : f.measured = measure (groupOf key rows f.key)
  count : f.count = (groupOf key rows f.key).length
  ids : ∀ x ∈ f.ids, ∃ r ∈ groupOf key rows f.key, ident r = x

section Detect

variable {key : ρ → κ} {measure : List ρ → ℕ} {threshold : ℤ} {rows : List ρ} {ident : ρ → ι}

lemma mem_groupOf {k : κ} {r : ρ} : r ∈ groupOf key rows k ↔ r ∈ rows ∧ key r = k := by
  rw [groupOf, List.mem_filter, decide_eq_true_eq]

/-- A detected group is the group of a key that exceeds the threshold. -/
lemma mem_detect (h0 : (measure [] : ℤ) ≤ threshold) {g : κ × List ρ} :
    g ∈ detect key measure threshold rows
      ↔ g.2 = groupOf key rows g.1 ∧ threshold < measure (groupOf key rows g.1) := by
  rw [detect, mem_orderByDesc, List.mem_filter, mem_groupBy, decide_eq_true_eq]
  constructor
  · rintro ⟨⟨-, hrows⟩, hlarge⟩
    rw [hrows] at hlarge
    exact ⟨hrows, hlarge⟩
  · rintro ⟨hrows, hlarge⟩
    refine ⟨⟨?_, hrows⟩, by rwa [hrows]⟩
    -- a group that exceeds the threshold is not empty, so its key occurs
    cases hgroup : groupOf key rows g.1 with
    | nil =>
        rw [hgroup] at hlarge
        omega
    | cons r rest =>
        have hr : r ∈ groupOf key rows g.1 := hgroup ▸ List.mem_cons_self
        obtain ⟨hmem, hkey⟩ := mem_groupOf.mp hr
        exact List.mem_map.mpr ⟨r, hmem, hkey⟩

/-- **When a key with the property `p` is reported.** -/
theorem exists_detect_iff (h0 : (measure [] : ℤ) ≤ threshold) {p : κ → Prop} :
    (∃ g ∈ detect key measure threshold rows, p g.1)
      ↔ ∃ k, threshold < measure (groupOf key rows k) ∧ p k := by
  constructor
  · rintro ⟨g, hg, hp⟩
    exact ⟨g.1, ((mem_detect h0).mp hg).2, hp⟩
  · rintro ⟨k, hlarge, hp⟩
    exact ⟨(k, groupOf key rows k), (mem_detect h0).mpr ⟨rfl, hlarge⟩, hp⟩

lemma exists_finding_iff (h0 : (measure [] : ℤ) ≤ threshold) (ident : ρ → ι) {p : κ → Prop} :
    (∃ f ∈ (detect key measure threshold rows).map (finding measure ident), p f.key)
      ↔ ∃ k, threshold < measure (groupOf key rows k) ∧ p k := by
  rw [← exists_detect_iff h0]
  simp [finding]

lemma nodup_keys_detect : ((detect key measure threshold rows).map Prod.fst).Nodup := by
  have hkept : (((groupBy key rows).filter fun g => threshold < measure g.2).map Prod.fst).Nodup :=
    nodup_keys_groupBy.sublist (List.filter_sublist.map _)
  exact (((arranged_orderByDesc _ _).perm.map _).nodup_iff).mpr hkept

/-- **The report of a detector is exact**, when the ids of the rows are different and a group is
measured by at most its size. -/
theorem exact_detect (hids : (rows.map ident).Nodup) (hmeasure : ∀ group, measure group ≤ group.length)
    (hthreshold : 0 ≤ threshold) :
    Exact key measure threshold ident rows
      ((detect key measure threshold rows).map (finding measure ident)) := by
  have h0 : (measure [] : ℤ) ≤ threshold := by
    have := hmeasure []
    rw [List.length_nil] at this
    omega
  have hgroup : ∀ f ∈ (detect key measure threshold rows).map (finding measure ident),
      f = finding measure ident (f.key, groupOf key rows f.key) := by
    intro f hf
    obtain ⟨g, hg, rfl⟩ := List.mem_map.mp hf
    exact congrArg (finding measure ident) (Prod.ext rfl ((mem_detect h0).mp hg).1)
  have hmem : ∀ f ∈ (detect key measure threshold rows).map (finding measure ident),
      ∀ x, x ∈ f.ids ↔ ∃ r ∈ groupOf key rows f.key, ident r = x := by
    intro f hf x
    rw [hgroup f hf]
    exact List.mem_map
  have honce : (((detect key measure threshold rows).map (finding measure ident)).map
      fun f => f.key).Nodup := by
    rw [List.map_map]
    exact nodup_keys_detect
  refine ⟨honce, fun k => ?_, fun f hf => ?_, hmem, fun f hf => ?_, fun f hf => ?_, ?_,
    fun f hf => ?_, ?_⟩
  · exact (exists_finding_iff h0 ident (p := fun k' => k' = k)).trans exists_eq_right
  · rw [hgroup f hf]
    rfl
  · rw [hgroup f hf]
    exact hids.sublist (List.filter_sublist.map _)
  · rw [hgroup f hf]
    exact List.length_map _
  · refine (List.pairwise_map.mp honce).imp_of_mem fun {f f'} hf hf' hne x hx hx' => hne ?_
    obtain ⟨r, hr, rfl⟩ := (hmem f hf x).mp hx
    obtain ⟨r', hr', hid⟩ := (hmem f' hf' _).mp hx'
    obtain ⟨hrow, hkey⟩ := mem_groupOf.mp hr
    obtain ⟨hrow', hkey'⟩ := mem_groupOf.mp hr'
    obtain rfl := List.inj_on_of_nodup_map hids hrow' hrow hid
    exact hkey.symm.trans hkey'
  · rw [hgroup f hf]
    exact hmeasure _
  · exact List.pairwise_map.mpr (arranged_orderByDesc _ _).sorted

lemma countsOnly_finding (k : κ) :
    (finding measure ident (k, groupOf key rows k)).CountsOnly key measure ident rows :=
  ⟨rfl, rfl, fun _ hx => List.mem_map.mp hx⟩

/-- **When a finding is about the rows that pass a test**: when all rows of its group pass. -/
lemma Finding.CountsOnly.filter_iff {f : Finding κ ι} (h : f.CountsOnly key measure ident rows)
    {p : ρ → Bool} : f.CountsOnly key measure ident (rows.filter p)
      ↔ ∀ r ∈ groupOf key rows f.key, p r = true := by
  have hfilter : groupOf key (rows.filter p) f.key = (groupOf key rows f.key).filter p :=
    List.filter_comm _ _ _
  constructor
  · intro h'
    refine List.length_filter_eq_length_iff.mp ?_
    rw [← hfilter, ← h'.count, h.count]
  · intro hall
    have hsame : groupOf key (rows.filter p) f.key = groupOf key rows f.key :=
      hfilter.trans (List.filter_eq_self.mpr hall)
    refine ⟨?_, ?_, ?_⟩
    · rw [hsame, h.measured]
    · rw [hsame, h.count]
    · rw [hsame]
      exact h.ids

/-- **When a whole report is**: `reported` says which keys have a finding. -/
theorem forall_countsOnly_iff {found : List (Finding κ ι)} (reported : κ → Prop)
    (hfound : ∀ f ∈ found, f.CountsOnly key measure ident rows)
    (hkeys : ∀ r ∈ rows, (∃ f ∈ found, f.key = key r) ↔ reported (key r)) {p : ρ → Bool} :
    (∀ f ∈ found, f.CountsOnly key measure ident (rows.filter p))
      ↔ ∀ r ∈ rows, reported (key r) → p r = true := by
  constructor
  · intro h r hr hreported
    obtain ⟨f, hf, hkey⟩ := (hkeys r hr).mpr hreported
    exact (hfound f hf).filter_iff.mp (h f hf) r (mem_groupOf.mpr ⟨hr, hkey.symm⟩)
  · intro h f hf
    refine (hfound f hf).filter_iff.mpr fun r hr => ?_
    obtain ⟨hmem, hkey⟩ := mem_groupOf.mp hr
    exact h r hmem ((hkeys r hmem).mp ⟨f, hf, hkey.symm⟩)

/-- The report of a detector. -/
lemma detect_countsOnly_iff (h0 : (measure [] : ℤ) ≤ threshold) {p : ρ → Bool} :
    (∀ f ∈ (detect key measure threshold rows).map (finding measure ident),
        f.CountsOnly key measure ident (rows.filter p))
      ↔ ∀ r ∈ rows, threshold < measure (groupOf key rows (key r)) → p r = true := by
  refine forall_countsOnly_iff (fun k => threshold < measure (groupOf key rows k))
    (fun f hf => ?_) fun r _ => ?_
  · obtain ⟨g, hg, rfl⟩ := List.mem_map.mp hf
    have hg' : g = (g.1, groupOf key rows g.1) := Prod.ext rfl ((mem_detect h0).mp hg).1
    rw [hg']
    exact countsOnly_finding g.1
  · exact (exists_finding_iff h0 ident (p := fun k => k = key r)).trans exists_eq_right

end Detect

end Table
