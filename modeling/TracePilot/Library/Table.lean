import Mathlib.Tactic
import Mathlib.Data.List.Sort
import Mathlib.Data.List.Dedup

/-!
# Queries over a table of rows

The list counterparts of the clauses of a `SELECT`: `WHERE` is `List.filter`, `LIMIT` is
`List.take`, `DISTINCT` is `List.dedup`, and this file adds `GROUP BY` and `ORDER BY`.  A table
is a list in its physical order, which a database may change between two statements, so results
about all lists cover every order the database can answer in.

`Arranged` and `SameUpToTies` say what an `ORDER BY` promises when the physical order is unknown:
the rows are sorted, and two answers differ in the order of equal rows only, or, where a `LIMIT`
cuts through equal rows, in the choice among them.
-/

namespace Table

variable {ρ κ : Type}

/-- `GROUP BY key`: each key that occurs, with its rows. -/
def groupBy [DecidableEq κ] (key : ρ → κ) (rows : List ρ) : List (κ × List ρ) :=
  (rows.map key).dedup.map fun k => (k, rows.filter fun r => key r = k)

/-- `ORDER BY key`, ties in physical order. -/
def orderBy [LinearOrder κ] (key : ρ → κ) (rows : List ρ) : List ρ :=
  rows.insertionSort fun a b => key a ≤ key b

/-- `ORDER BY key DESC`. -/
def orderByDesc [LinearOrder κ] (key : ρ → κ) (rows : List ρ) : List ρ :=
  rows.insertionSort fun a b => key b ≤ key a

@[simp] lemma mem_orderBy [LinearOrder κ] {key : ρ → κ} {rows : List ρ} {r : ρ} :
    r ∈ orderBy key rows ↔ r ∈ rows := List.mem_insertionSort _

@[simp] lemma mem_orderByDesc [LinearOrder κ] {key : ρ → κ} {rows : List ρ} {r : ρ} :
    r ∈ orderByDesc key rows ↔ r ∈ rows := List.mem_insertionSort _

/-- A group is the rows that share its key. -/
lemma mem_groupBy [DecidableEq κ] {key : ρ → κ} {rows : List ρ} {g : κ × List ρ} :
    g ∈ groupBy key rows ↔ g.1 ∈ rows.map key ∧ g.2 = rows.filter fun r => key r = g.1 := by
  constructor
  · intro h
    obtain ⟨k, hk, rfl⟩ := List.mem_map.mp h
    exact ⟨List.mem_dedup.mp hk, rfl⟩
  · rintro ⟨hk, hg⟩
    exact List.mem_map.mpr ⟨g.1, List.mem_dedup.mpr hk, Prod.ext rfl hg.symm⟩

/-- Each key has one group. -/
lemma nodup_keys_groupBy [DecidableEq κ] {key : ρ → κ} {rows : List ρ} :
    ((groupBy key rows).map Prod.fst).Nodup := by
  have hkeys : (groupBy key rows).map Prod.fst = (rows.map key).dedup := by
    simp [groupBy, Function.comp_def]
  rw [hkeys]
  exact List.nodup_dedup _

/-- Every member of a group is a row of the table. -/
lemma mem_of_mem_groupBy [DecidableEq κ] {key : ρ → κ} {rows : List ρ} {g : κ × List ρ} {r : ρ}
    (hg : g ∈ groupBy key rows) (hr : r ∈ g.2) : r ∈ rows := by
  rw [(mem_groupBy.mp hg).2] at hr
  exact List.mem_of_mem_filter hr

/-- `HAVING count(...) > n`: the key of a group that is large enough occurs. -/
lemma exists_large_group_iff [DecidableEq κ] {key : ρ → κ} {rows : List ρ} {n : ℕ}
    {p : κ → Prop} :
    (∃ g ∈ groupBy key rows, n < g.2.length ∧ p g.1)
      ↔ ∃ k, n < (rows.filter fun r => key r = k).length ∧ p k := by
  constructor
  · rintro ⟨g, hg, hn, hp⟩
    exact ⟨g.1, (mem_groupBy.mp hg).2 ▸ hn, hp⟩
  · rintro ⟨k, hn, hp⟩
    obtain ⟨r, hr⟩ := List.exists_mem_of_length_pos (Nat.zero_lt_of_lt hn)
    obtain ⟨hmem, hkey⟩ := List.mem_filter.mp hr
    refine ⟨(k, rows.filter fun r => key r = k), mem_groupBy.mpr ⟨?_, rfl⟩, hn, hp⟩
    exact List.mem_map.mpr ⟨r, hmem, by simpa using hkey⟩

/-- Rows that pass one of two tests are at most those that pass the first and those that pass the
second. -/
lemma length_filter_le_add {p q q' : ρ → Bool} {rows : List ρ}
    (h : ∀ r ∈ rows, p r = true → q r = true ∨ q' r = true) :
    (rows.filter p).length ≤ (rows.filter q).length + (rows.filter q').length := by
  induction rows with
  | nil => simp
  | cons r rows ih =>
      have ih := ih fun r' hr' => h r' (by simp [hr'])
      have hr := h r (by simp)
      simp only [List.filter_cons]
      split_ifs <;> simp_all <;> omega

/-- A conversion of every row, all or nothing. -/
lemma mapM_eq_some_iff {β : Type} {f : ρ → Option β} {rows : List ρ} :
    ∀ {results : List β},
      rows.mapM f = some results ↔ List.Forall₂ (fun r b => f r = some b) rows results := by
  induction rows with
  | nil => intro results; simp [eq_comm]
  | cons r rows ih =>
      intro results
      rw [List.mapM_cons]
      constructor
      · intro h
        obtain ⟨b, hb, h⟩ := Option.bind_eq_some_iff.mp h
        obtain ⟨results', hresults', h⟩ := Option.bind_eq_some_iff.mp h
        obtain rfl := Option.some.inj h
        exact .cons hb (ih.mp hresults')
      · rintro (_ | ⟨hb, hresults⟩)
        simp [hb, ih.mpr hresults]

/-- It succeeds when every row can be converted. -/
lemma mapM_isSome_iff {β : Type} {f : ρ → Option β} {rows : List ρ} :
    (rows.mapM f).isSome = true ↔ ∀ r ∈ rows, (f r).isSome = true := by
  induction rows with
  | nil => simp
  | cons r rows ih =>
      rw [List.forall_mem_cons, ← ih, List.mapM_cons]
      cases f r <;> cases rows.mapM f <;> simp

/-! ## Answers whatever the physical order -/

section Order

variable {β : Type}

/-- `result` holds the rows of `rows`, sorted by `le`. -/
structure Arranged (le : ρ → ρ → Prop) (rows result : List ρ) : Prop where
  perm : result.Perm rows
  sorted : result.Pairwise le

/-- Two answers to one `ORDER BY ... LIMIT`: each is cut from an arrangement of the same rows. -/
def SameUpToTies (le : ρ → ρ → Prop) (limit : ℕ) (xs ys : List ρ) : Prop :=
  ∃ rows full full', Arranged le rows full ∧ Arranged le rows full'
    ∧ xs = full.take limit ∧ ys = full'.take limit

/-- Two answers to one `ORDER BY`: each arranges the same rows. -/
def SameUpToOrder (le : ρ → ρ → Prop) (xs ys : List ρ) : Prop :=
  ∃ rows, Arranged le rows xs ∧ Arranged le rows ys

lemma arranged_orderBy [LinearOrder κ] (key : ρ → κ) (rows : List ρ) :
    Arranged (fun a b => key a ≤ key b) rows (orderBy key rows) where
  perm := List.perm_insertionSort _ _
  sorted := by
    have : Std.Total fun a b : ρ => key a ≤ key b := ⟨fun a b => le_total (key a) (key b)⟩
    have : IsTrans ρ fun a b => key a ≤ key b := ⟨fun _ _ _ => le_trans⟩
    exact List.pairwise_insertionSort _ _

lemma arranged_orderByDesc [LinearOrder κ] (key : ρ → κ) (rows : List ρ) :
    Arranged (fun a b => key b ≤ key a) rows (orderByDesc key rows) where
  perm := List.perm_insertionSort _ _
  sorted := by
    have : Std.Total fun a b : ρ => key b ≤ key a := ⟨fun a b => le_total (key b) (key a)⟩
    have : IsTrans ρ fun a b => key b ≤ key a := ⟨fun _ _ _ h h' => le_trans h' h⟩
    exact List.pairwise_insertionSort _ _

lemma Arranged.perm_rows {le : ρ → ρ → Prop} {rows rows' result : List ρ}
    (h : Arranged le rows result) (hrows : rows.Perm rows') : Arranged le rows' result :=
  ⟨h.perm.trans hrows, h.sorted⟩

/-- Reporting arranged rows arranges their reports. -/
lemma Arranged.map {le : ρ → ρ → Prop} {le' : β → β → Prop} {rows result : List ρ} {f : ρ → β}
    (h : Arranged le rows result) (hf : ∀ a b, le a b → le' (f a) (f b)) :
    Arranged le' (rows.map f) (result.map f) :=
  ⟨h.perm.map f, List.pairwise_map.mpr (h.sorted.imp (hf _ _))⟩

/-- Leaving out some arranged rows. -/
lemma Arranged.filter {le : ρ → ρ → Prop} {rows result : List ρ} (p : ρ → Bool)
    (h : Arranged le rows result) : Arranged le (rows.filter p) (result.filter p) :=
  ⟨h.perm.filter p, h.sorted.filter p⟩

/-- Rows arranged the other way. -/
lemma Arranged.reverse {le : ρ → ρ → Prop} {rows result : List ρ}
    (h : Arranged (fun a b => le b a) rows result) : Arranged le rows result.reverse :=
  ⟨(List.reverse_perm _).trans h.perm, List.pairwise_reverse.mpr h.sorted⟩

/-- `kept` are the `limit` first of the rows in some arrangement: they are sorted, and no row that
was left out had to stand before one of them. -/
structure Foremost (le : ρ → ρ → Prop) (limit : ℕ) (rows kept : List ρ) : Prop where
  length : kept.length = min limit rows.length
  sorted : kept.Pairwise le
  omitted : ∃ omitted, (kept ++ omitted).Perm rows ∧ ∀ r ∈ kept, ∀ r' ∈ omitted, le r r'

/-- `LIMIT` keeps the foremost rows. -/
lemma Arranged.foremost_take {le : ρ → ρ → Prop} {rows result : List ρ}
    (h : Arranged le rows result) (limit : ℕ) : Foremost le limit rows (result.take limit) := by
  have hsorted := h.sorted
  rw [← List.take_append_drop limit result, List.pairwise_append] at hsorted
  refine ⟨?_, hsorted.1, result.drop limit, ?_, hsorted.2.2⟩
  · rw [List.length_take, h.perm.length_eq]
  · rw [List.take_append_drop]
    exact h.perm

/-- Reporting the foremost rows. -/
lemma Foremost.map {le : ρ → ρ → Prop} {le' : β → β → Prop} {limit : ℕ} {rows kept : List ρ}
    {f : ρ → β} (h : Foremost le limit rows kept) (hf : ∀ a b, le a b → le' (f a) (f b)) :
    Foremost le' limit (rows.map f) (kept.map f) := by
  obtain ⟨omitted, hperm, hle⟩ := h.omitted
  refine ⟨?_, List.pairwise_map.mpr (h.sorted.imp (hf _ _)), omitted.map f, ?_, ?_⟩
  · rw [List.length_map, List.length_map, h.length]
  · rw [← List.map_append]
    exact hperm.map f
  · rw [List.forall_mem_map]
    intro r hr
    rw [List.forall_mem_map]
    exact fun r' hr' => hf _ _ (hle r hr r' hr')

/-- **Tables that differ in their physical order have the same groups**, as far as `f` can tell
when it ignores the order of a group. -/
lemma perm_map_groupBy [DecidableEq κ] {key : ρ → κ} {rows rows' : List ρ}
    (h : rows.Perm rows') {f : κ × List ρ → β}
    (hf : ∀ k {group group' : List ρ}, group.Perm group' → f (k, group) = f (k, group')) :
    ((groupBy key rows).map f).Perm ((groupBy key rows').map f) := by
  have hgroup : ∀ k, f (k, rows.filter fun r => key r = k) = f (k, rows'.filter fun r => key r = k) :=
    fun k => hf k (h.filter _)
  have hkeys := (h.map key).dedup
  simp only [groupBy, List.map_map, Function.comp_def, hgroup]
  exact hkeys.map _

/-- The same for the groups that pass a test, which ignores the order of a group as well. -/
lemma perm_map_filter_groupBy [DecidableEq κ] {key : ρ → κ} {rows rows' : List ρ}
    (h : rows.Perm rows') {p p' : κ × List ρ → Bool} {f : κ × List ρ → β}
    (hp : ∀ k {group group' : List ρ}, group.Perm group' → p (k, group) = p (k, group'))
    (hpp : ∀ g, p g = p' g)
    (hf : ∀ k {group group' : List ρ}, group.Perm group' → f (k, group) = f (k, group')) :
    (((groupBy key rows).filter p).map f).Perm (((groupBy key rows').filter p').map f) := by
  obtain rfl : p = p' := funext hpp
  have hmap : ∀ groups : List (κ × List ρ), (groups.filter p).map f
      = ((groups.map fun g => (p g, f g)).filter fun r => r.1).map fun r => r.2 := by
    intro groups
    simp [List.filter_map, Function.comp_def]
  rw [hmap, hmap]
  refine ((perm_map_groupBy h fun k group group' hperm => ?_).filter _).map _
  rw [hp k hperm, hf k hperm]

/-- Groups of such tables, arranged and reported, are the same up to order. -/
lemma sameUpToOrder_map_groups [DecidableEq κ] {key : ρ → κ} {rows rows' : List ρ}
    (h : rows.Perm rows') {p p' : κ × List ρ → Bool} {f : κ × List ρ → β}
    {le : κ × List ρ → κ × List ρ → Prop} {le' : β → β → Prop} {xs ys : List (κ × List ρ)}
    (hp : ∀ k {group group' : List ρ}, group.Perm group' → p (k, group) = p (k, group'))
    (hpp : ∀ g, p g = p' g)
    (hf : ∀ k {group group' : List ρ}, group.Perm group' → f (k, group) = f (k, group'))
    (hle : ∀ g g', le g g' → le' (f g) (f g'))
    (hxs : Arranged le ((groupBy key rows).filter p) xs)
    (hys : Arranged le ((groupBy key rows').filter p') ys) :
    SameUpToOrder le' (xs.map f) (ys.map f) :=
  ⟨_, hxs.map hle, (hys.map hle).perm_rows (perm_map_filter_groupBy h hp hpp hf).symm⟩

end Order

end Table
