import Mathlib.Tactic

/-!
# List objects

Programs that share lists by reference see each other's appends.  A heap holds the contents of every
list object that was allocated, under its address.

* `alloc`, `read`, `append` — the operations.
* **`Extends`** — the heaps in which the objects of an earlier heap are what they were.  Allocation
  extends a heap, and so does appending to an object that was allocated since.
-/

/-- The list objects of a process. -/
structure ListHeap (α : Type) where
  objects : List (List α) := []

namespace ListHeap

variable {α β : Type} {h h₁ h₂ : ListHeap α} {a b : ℕ}

/-- The content of an object. -/
def read (h : ListHeap α) (a : ℕ) : List α := h.objects.getD a []

/-- The address that the next object gets. -/
def fresh (h : ListHeap α) : ℕ := h.objects.length

/-- A new object. -/
def alloc (h : ListHeap α) (items : List α) : ListHeap α := ⟨h.objects ++ [items]⟩

/-- `a.append(x)`. -/
def append (h : ListHeap α) (a : ℕ) (x : α) : ListHeap α := ⟨h.objects.modify a (· ++ [x])⟩

@[simp] lemma fresh_alloc (items : List α) : (h.alloc items).fresh = h.fresh + 1 := by
  simp [alloc, fresh]

@[simp] lemma fresh_append (x : α) : (h.append a x).fresh = h.fresh := by simp [append, fresh]

@[simp] lemma read_alloc_fresh (items : List α) : (h.alloc items).read h.fresh = items := by
  simp [read, alloc, fresh]

lemma read_append_self (ha : a < h.fresh) (x : α) : (h.append a x).read a = h.read a ++ [x] := by
  have hobject : h.objects[a]? = some h.objects[a] := List.getElem?_eq_getElem ha
  simp [read, append, List.getD_eq_getElem?_getD, hobject]

lemma read_append_ne (hab : a ≠ b) (x : α) : (h.append b x).read a = h.read a := by
  simp [read, append, List.getD_eq_getElem?_getD, hab.symm]

/-- A loop that appends an item for each element of a list. -/
lemma read_foldl_append (f : β → α) (xs : List β) (ha : a < h.fresh) :
    (xs.foldl (fun h x => h.append a (f x)) h).read a = h.read a ++ xs.map f := by
  induction xs generalizing h with
  | nil => simp
  | cons x xs ih =>
      rw [List.foldl_cons, ih (by simpa using ha), read_append_self ha, List.append_assoc]
      rfl

/-- The objects of `h` are in `h'`, unchanged. -/
structure Extends (h h' : ListHeap α) : Prop where
  fresh_le : h.fresh ≤ h'.fresh
  read_eq : ∀ a < h.fresh, h'.read a = h.read a

namespace Extends

lemma refl (h : ListHeap α) : Extends h h := ⟨le_rfl, fun _ _ => rfl⟩

lemma trans (h₁₂ : Extends h h₁) (h₂₃ : Extends h₁ h₂) : Extends h h₂ where
  fresh_le := h₁₂.fresh_le.trans h₂₃.fresh_le
  read_eq a ha := (h₂₃.read_eq a (ha.trans_le h₁₂.fresh_le)).trans (h₁₂.read_eq a ha)

lemma alloc (h : ListHeap α) (items : List α) : Extends h (h.alloc items) where
  fresh_le := by simp
  read_eq a ha := by
    have hlt : a < h.objects.length := ha
    simp [read, ListHeap.alloc, List.getD_eq_getElem?_getD, List.getElem?_append_left hlt]

/-- Appending to an object that `h` does not have. -/
lemma append (hextends : Extends h h₁) (hb : h.fresh ≤ b) (x : α) : Extends h (h₁.append b x) where
  fresh_le := by simpa using hextends.fresh_le
  read_eq a ha := (read_append_ne (by omega) x).trans (hextends.read_eq a ha)

lemma foldl_append (hextends : Extends h h₁) (hb : h.fresh ≤ b) (f : β → α) (xs : List β) :
    Extends h (xs.foldl (fun h x => h.append b (f x)) h₁) := by
  induction xs generalizing h₁ with
  | nil => exact hextends
  | cons x xs ih => exact ih (hextends.append hb (f x))

end Extends

end ListHeap
