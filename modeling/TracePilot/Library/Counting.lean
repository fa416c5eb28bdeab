import Mathlib.Tactic
import Mathlib.Data.List.Dedup

/-!
# Counting along provenance

Entries of a list are counted through what they came from.  **`exists_producers`** finds producers
for elements that came in any order: if each of these produced at most one element, different
elements have different producers.  **`countP_le_of_forall₂`** goes from entries to their origins,
and **`countP_le_of_positions`** from origins that are different positions of a list to its elements.
Together they bound the number of entries by the number of producers.
-/

namespace Counting

variable {α β : Type}

/-- Every entry that counts has an origin that counts. -/
lemma countP_le_of_forall₂ {r : α → β → Prop} {p : α → Bool} {q : β → Bool}
    (hpq : ∀ a b, r a b → q b = true → p a = true) {origins : List α} {entries : List β}
    (h : List.Forall₂ r origins entries) : entries.countP q ≤ origins.countP p := by
  induction h with
  | nil => exact Nat.le_refl 0
  | @cons a b origins entries hab _ ih =>
      rw [List.countP_cons, List.countP_cons]
      by_cases hq : q b = true
      · rw [if_pos hq, if_pos (hpq a b hab hq)]
        omega
      · rw [if_neg hq]
        omega

/-- Every origin is the origin of an entry. -/
lemma exists_mem_of_forall₂ {r : α → β → Prop} {origins : List α} {entries : List β}
    (h : List.Forall₂ r origins entries) {a : α} (ha : a ∈ origins) : ∃ b ∈ entries, r a b := by
  induction h with
  | nil => cases ha
  | @cons a' b origins entries hab _ ih =>
      rcases List.mem_cons.mp ha with rfl | ha
      · exact ⟨b, List.mem_cons_self, hab⟩
      · obtain ⟨b', hb', hr⟩ := ih ha
        exact ⟨b', List.mem_cons_of_mem _ hb', hr⟩

/-- The positions of the elements with a property. -/
def positions (p : α → Bool) (xs : List α) : List ℕ :=
  (List.range xs.length).filter fun k => xs[k]?.any p

lemma mem_positions {p : α → Bool} {xs : List α} {k : ℕ} {x : α} (hx : xs[k]? = some x)
    (hp : p x = true) : k ∈ positions p xs := by
  obtain ⟨hk, -⟩ := List.getElem?_eq_some_iff.mp hx
  refine List.mem_filter.mpr ⟨List.mem_range.mpr hk, ?_⟩
  rw [hx]
  exact hp

lemma length_positions (p : α → Bool) (xs : List α) : (positions p xs).length = xs.countP p := by
  have hmap : xs.map some = (List.range xs.length).map fun k => xs[k]? := by
    refine List.ext_getElem (by simp) fun k hk hk' => ?_
    simp at hk
    simp [hk]
  calc (positions p xs).length
      = (List.range xs.length).countP fun k => xs[k]?.any p := (List.countP_eq_length_filter).symm
    _ = ((List.range xs.length).map fun k => xs[k]?).countP fun o => o.any p := by
        rw [List.countP_map]
        rfl
    _ = (xs.map some).countP fun o => o.any p := by rw [hmap]
    _ = xs.countP p := by
        rw [List.countP_map]
        rfl

/-- **Different positions, different elements**: positions whose elements have a property are no more
than the elements with it. -/
theorem countP_le_of_positions {p : α → Bool} {xs : List α} {origins : List ℕ}
    (hnodup : origins.Nodup) : (origins.countP fun k => xs[k]?.any p) ≤ xs.countP p := by
  have hsub : (origins.filter fun k => xs[k]?.any p).Subperm (positions p xs) := by
    refine (hnodup.filter _).subperm fun k hk => ?_
    obtain ⟨x, hx, hp⟩ := (Option.any_eq_true _ _).mp (List.mem_filter.mp hk).2
    exact mem_positions hx hp
  rw [List.countP_eq_length_filter, ← length_positions]
  exact hsub.length_le

/-- Elements that were produced one after the other. -/
lemma exists_producers_flatMap {f : β → List α} {producers : List β}
    (hone : ∀ b ∈ producers, (f b).length ≤ 1) :
    ∃ origins : List ℕ, origins.Nodup ∧ (∀ k ∈ origins, k < producers.length)
      ∧ List.Forall₂ (fun x k => ∃ b, producers[k]? = some b ∧ x ∈ f b) (producers.flatMap f)
        origins := by
  induction producers using List.reverseRecOn with
  | nil => exact ⟨[], List.nodup_nil, by simp, .nil⟩
  | append_singleton producers b ih =>
      obtain ⟨origins, hnodup, hlt, horigins⟩ :=
        ih fun c hc => hone c (List.mem_append_left _ hc)
      have hearlier : List.Forall₂ (fun x k => ∃ c, (producers ++ [b])[k]? = some c ∧ x ∈ f c)
          (producers.flatMap f) origins := by
        refine horigins.imp ?_
        rintro x k ⟨c, hc, hx⟩
        obtain ⟨hk, -⟩ := List.getElem?_eq_some_iff.mp hc
        exact ⟨c, (List.getElem?_append_left hk).trans hc, hx⟩
      have hlt' : ∀ k ∈ origins, k < (producers ++ [b]).length := by
        intro k hk
        rw [List.length_append]
        exact Nat.lt_add_right _ (hlt k hk)
      rw [List.flatMap_append, List.flatMap_singleton]
      cases hb : f b with
      | nil =>
          rw [List.append_nil]
          exact ⟨origins, hnodup, hlt', hearlier⟩
      | cons x rest =>
          obtain rfl : rest = [] := by
            have hlength := hone b (by simp)
            rw [hb, List.length_cons] at hlength
            exact List.length_eq_zero_iff.mp (by omega)
          refine ⟨origins ++ [producers.length], ?_, ?_, ?_⟩
          · refine List.nodup_append.mpr ⟨hnodup, List.nodup_singleton _, ?_⟩
            rintro k hk _ hlast rfl
            exact (hlt k hk).ne (List.mem_singleton.mp hlast)
          · intro k hk
            rcases List.mem_append.mp hk with hk | hk
            · exact hlt' k hk
            · rw [List.mem_singleton.mp hk]
              simp
          · exact List.rel_append hearlier (.cons ⟨b, by simp, by simp [hb]⟩ .nil)

/-- **At most one each**: elements that came in any order have producers of their own. -/
theorem exists_producers {f : β → List α} {producers : List β} {xs : List α}
    (hxs : xs.Perm (producers.flatMap f)) (hone : ∀ b ∈ producers, (f b).length ≤ 1) :
    ∃ origins : List ℕ, origins.Nodup
      ∧ List.Forall₂ (fun x k => ∃ b, producers[k]? = some b ∧ x ∈ f b) xs origins := by
  obtain ⟨origins, hnodup, -, horigins⟩ := exists_producers_flatMap hone
  obtain ⟨origins', horigins', hperm⟩ := List.perm_comp_forall₂ hxs horigins
  exact ⟨origins', hperm.nodup_iff.mpr hnodup, horigins'⟩

end Counting
