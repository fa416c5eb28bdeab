import Mathlib.Tactic
import Mathlib.Data.List.Dedup

/-!
# Lists without their repetitions

`List.eraseDups` keeps the first occurrence of every element: the keys of a dictionary that is
filled from the list, in insertion order.

A program that collects elements in nested loops may drop the repetitions at every level or once
at the end; **`eraseDups_flatMap_eraseDups`** says that this makes no difference.  What is left
stands in the order of first occurrence, by **`pairwise_eraseDups`**.  What is cut from the front of
the result is decided by the front of the list: **`take_eraseDups_append`** when the front holds
enough distinct elements, **`exists_mem_take_eraseDups`** when it does not.
-/

namespace Distinct

variable {α β : Type} [BEq β] [LawfulBEq β]

theorem nodup_eraseDups (xs : List β) : xs.eraseDups.Nodup := by
  -- the recursion is on the tail without the head, so the induction is on the length
  induction hn : xs.length using Nat.strong_induction_on generalizing xs with
  | _ n ih =>
      cases xs with
      | nil => simp
      | cons x xs =>
          rw [List.eraseDups_cons, List.nodup_cons]
          refine ⟨by simp [List.mem_eraseDups], ih _ ?_ _ rfl⟩
          exact hn ▸ Nat.lt_succ_of_le (List.length_filter_le _ _)

lemma eraseDups_filter (p : β → Bool) (xs : List β) :
    (xs.filter p).eraseDups = xs.eraseDups.filter p := by
  induction hn : xs.length using Nat.strong_induction_on generalizing xs with
  | _ n ih =>
      cases xs with
      | nil => simp
      | cons x xs =>
          have hlt : (xs.filter fun y => !y == x).length < n :=
            hn ▸ Nat.lt_succ_of_le (List.length_filter_le _ _)
          have hrec := ih _ hlt _ rfl
          rw [List.filter_filter] at hrec
          rw [List.eraseDups_cons, List.filter_cons, List.filter_cons, ← hrec]
          split_ifs with hx
          · rw [List.eraseDups_cons, List.filter_filter]
            simp only [Bool.and_comm]
          · -- the head does not pass the test, so the test also removes its repetitions
            congr 1
            refine List.filter_congr fun y _ => ?_
            cases hy : p y with
            | false => rfl
            | true =>
                have hne : y ≠ x := fun h => hx (h ▸ hy)
                simp [hne]

lemma eraseDups_of_nodup {xs : List β} (h : xs.Nodup) : xs.eraseDups = xs := by
  induction xs with
  | nil => rfl
  | cons x xs ih =>
      obtain ⟨hx, h⟩ := List.nodup_cons.mp h
      have hall : xs.filter (fun y => !y == x) = xs := by
        refine List.filter_eq_self.mpr fun y hy => ?_
        have hne : y ≠ x := fun h => hx (h ▸ hy)
        simp [hne]
      rw [List.eraseDups_cons, hall, ih h]

/-- Dropping the repetitions of a part first makes no difference. -/
lemma eraseDups_append_congr {xs xs' ys ys' : List β} (hxs : xs.eraseDups = xs'.eraseDups)
    (hys : ys.eraseDups = ys'.eraseDups) : (xs ++ ys).eraseDups = (xs' ++ ys').eraseDups := by
  have hmem : ∀ y, y ∈ xs ↔ y ∈ xs' := by
    intro y
    rw [← List.mem_eraseDups, hxs, List.mem_eraseDups]
  have hremove : ∀ zs : List β, zs.removeAll xs = zs.removeAll xs' := by
    intro zs
    refine List.filter_congr fun y _ => congrArg Bool.not ?_
    rw [Bool.eq_iff_iff, List.elem_iff, List.elem_iff, hmem]
  rw [List.eraseDups_append, List.eraseDups_append, hxs, hremove]
  congr 1
  simp only [List.removeAll, eraseDups_filter, hys]

lemma eraseDups_eraseDups (xs : List β) : xs.eraseDups.eraseDups = xs.eraseDups :=
  eraseDups_of_nodup (nodup_eraseDups xs)

/-- **Repetitions may be dropped at every level, or once at the end.** -/
theorem eraseDups_flatMap_eraseDups (f : α → List β) (items : List α) :
    (items.flatMap fun item => (f item).eraseDups).eraseDups = (items.flatMap f).eraseDups := by
  induction items with
  | nil => rfl
  | cons item items ih =>
      rw [List.flatMap_cons, List.flatMap_cons]
      exact eraseDups_append_congr (eraseDups_eraseDups _) ih

/-! ## In which order they stand -/

/-- Dropping elements does not change the order of what is left. -/
lemma idxOf_lt_of_filter {p : β → Bool} {xs : List β} {y z : β} (hy : p y = true) (hz : p z = true)
    (h : (xs.filter p).idxOf y < (xs.filter p).idxOf z) : xs.idxOf y < xs.idxOf z := by
  induction xs with
  | nil => simp at h
  | cons x xs ih =>
      by_cases hxy : x = y
      · subst hxy
        rw [List.filter_cons_of_pos hy] at h
        by_cases hxz : x = z
        · subst hxz
          exact absurd h (lt_irrefl _)
        · simp [List.idxOf_cons_ne _ hxz]
      · rw [List.idxOf_cons_ne _ hxy]
        by_cases hxz : x = z
        · subst hxz
          rw [List.filter_cons_of_pos hz] at h
          simp at h
        · rw [List.idxOf_cons_ne _ hxz]
          refine Nat.succ_lt_succ (ih ?_)
          by_cases hx : p x = true
          · rw [List.filter_cons_of_pos hx, List.idxOf_cons_ne _ hxy,
              List.idxOf_cons_ne _ hxz] at h
            exact Nat.lt_of_succ_lt_succ h
          · rwa [List.filter_cons_of_neg hx] at h

/-- **What is left stands in the order of first occurrence.** -/
theorem pairwise_eraseDups (xs : List β) :
    xs.eraseDups.Pairwise fun y z => xs.idxOf y < xs.idxOf z := by
  induction hn : xs.length using Nat.strong_induction_on generalizing xs with
  | _ n ih =>
      cases xs with
      | nil => simp
      | cons x xs =>
          have hlt : (xs.filter fun y => !y == x).length < n :=
            hn ▸ Nat.lt_succ_of_le (List.length_filter_le _ _)
          have hne : ∀ y ∈ (xs.filter fun y => !y == x).eraseDups, y ≠ x := by
            intro y hy
            simpa using (List.mem_filter.mp (List.mem_eraseDups.mp hy)).2
          rw [List.eraseDups_cons, List.pairwise_cons]
          refine ⟨fun y hy => ?_, (ih _ hlt _ rfl).imp_of_mem fun {y z} hy hz h => ?_⟩
          · rw [List.idxOf_cons_self, List.idxOf_cons_ne _ (hne y hy).symm]
            exact Nat.succ_pos _
          · rw [List.idxOf_cons_ne _ (hne y hy).symm, List.idxOf_cons_ne _ (hne z hz).symm]
            refine Nat.succ_lt_succ (idxOf_lt_of_filter ?_ ?_ h)
            · simpa using hne y hy
            · simpa using hne z hz

/-! ## How many there are -/

/-- A list of different elements is no longer than any list that holds them, repetitions aside. -/
lemma length_le_of_subset {xs ys : List β} (h : xs.Nodup) (hsub : ∀ x ∈ xs, x ∈ ys) :
    xs.length ≤ ys.eraseDups.length :=
  (h.subperm fun x hx => List.mem_eraseDups.mpr (hsub x hx)).length_le

/-! ## The front -/

variable {n : ℕ} {xs ys : List β}

/-- When the front of a list holds `n` different elements, it decides the first `n`. -/
theorem take_eraseDups_append (h : n ≤ xs.eraseDups.length) (ys : List β) :
    (xs ++ ys).eraseDups.take n = xs.eraseDups.take n := by
  rw [List.eraseDups_append, List.take_append_of_le_length h]

lemma mem_of_mem_take_eraseDups {x : β} (h : x ∈ xs.eraseDups.take n) : x ∈ xs :=
  List.mem_eraseDups.mp (List.mem_of_mem_take h)

/-- When it holds fewer, and `ys` behind it holds enough, one of the first `n` is from `ys`. -/
theorem exists_mem_take_eraseDups (h : xs.eraseDups.length < n)
    (h' : n ≤ (xs ++ ys).eraseDups.length) (zs : List β) :
    ∃ y ∈ ys, y ∈ (xs ++ ys ++ zs).eraseDups.take n := by
  rw [take_eraseDups_append h' zs, List.eraseDups_append]
  rw [List.eraseDups_append, List.length_append] at h'
  cases hrest : (ys.removeAll xs).eraseDups with
  | nil =>
      rw [hrest, List.length_nil] at h'
      omega
  | cons y rest =>
      have hy : y ∈ ys.removeAll xs := List.mem_eraseDups.mp (hrest ▸ List.mem_cons_self)
      refine ⟨y, List.mem_of_mem_filter hy, ?_⟩
      obtain ⟨k, hk⟩ : ∃ k, n - xs.eraseDups.length = k + 1 :=
        ⟨n - xs.eraseDups.length - 1, by omega⟩
      rw [List.take_append, hk, List.take_succ_cons]
      exact List.mem_append_right _ List.mem_cons_self

end Distinct
