import Mathlib.Tactic
import Mathlib.Data.List.AList

/-!
# A map with a fixed capacity

An association list that never holds more than `capacity` keys: an update of a key that is there
replaces its value, an update of a new key is refused when the map is full.

`lookup` is the whole interface of the lemmas.  What a map may hold is bounded from outside:
**`hasRoom_of_keys`** says that a map whose keys all lie in a list with one more element than it
uses accepts the next update.
-/

/-- A map from `κ` to `ν` with at most `capacity` keys. -/
structure BoundedMap (κ ν : Type) (capacity : ℕ) where
  entries : AList fun _ : κ => ν
  bounded : entries.keys.length ≤ capacity

namespace BoundedMap

variable {κ ν : Type} {capacity : ℕ}

/-- The map without keys. -/
def empty : BoundedMap κ ν capacity := ⟨∅, Nat.zero_le _⟩

variable [DecidableEq κ]

/-- The value of a key. -/
def lookup (m : BoundedMap κ ν capacity) (k : κ) : Option ν := m.entries.lookup k

/-- The map accepts an update of `k`. -/
def HasRoom (m : BoundedMap κ ν capacity) (k : κ) : Prop :=
  k ∈ m.entries ∨ m.entries.keys.length < capacity

instance (m : BoundedMap κ ν capacity) (k : κ) : Decidable (m.HasRoom k) :=
  inferInstanceAs (Decidable (_ ∨ _))

lemma length_keys_insert {m : BoundedMap κ ν capacity} {k : κ} (h : m.HasRoom k) (v : ν) :
    (m.entries.insert k v).keys.length ≤ capacity := by
  have hb := m.bounded
  rw [AList.keys_insert, List.length_cons, List.length_erase]
  split_ifs with hk
  · have hpos : 0 < m.entries.keys.length := List.length_pos_of_mem hk
    omega
  · exact h.elim (fun hmem => absurd hmem hk) id

/-- Set the value of a key.  A full map refuses a new key and stays as it is. -/
def update (m : BoundedMap κ ν capacity) (k : κ) (v : ν) : BoundedMap κ ν capacity :=
  if h : m.HasRoom k then ⟨m.entries.insert k v, length_keys_insert h v⟩ else m

/-- Remove a key, if it is there. -/
def delete (m : BoundedMap κ ν capacity) (k : κ) : BoundedMap κ ν capacity where
  entries := m.entries.erase k
  bounded := by
    rw [AList.keys_erase]
    exact List.length_erase_le.trans m.bounded

@[simp] lemma lookup_empty (k : κ) : (empty : BoundedMap κ ν capacity).lookup k = none := rfl

lemma lookup_update {m : BoundedMap κ ν capacity} {k : κ} (h : m.HasRoom k) (v : ν) :
    (m.update k v).lookup k = some v := by
  rw [update, dif_pos h, lookup, AList.lookup_insert]

lemma lookup_update_of_ne (m : BoundedMap κ ν capacity) {j k : κ} (h : j ≠ k) (v : ν) :
    (m.update k v).lookup j = m.lookup j := by
  rw [update]
  split_ifs
  · exact AList.lookup_insert_ne h
  · rfl

@[simp] lemma lookup_delete (m : BoundedMap κ ν capacity) (k : κ) :
    (m.delete k).lookup k = none :=
  AList.lookup_erase k m.entries

lemma lookup_delete_of_ne (m : BoundedMap κ ν capacity) {j k : κ} (h : j ≠ k) :
    (m.delete k).lookup j = m.lookup j :=
  AList.lookup_erase_ne h

/-- **Room for one more**: a new key `k` and all keys of the map lie among `users`, and the map can
hold that many. -/
lemma hasRoom_of_keys {m : BoundedMap κ ν capacity} {k : κ} (users : List κ)
    (hkeys : ∀ j v, m.lookup j = some v → j ∈ users) (hk : k ∈ users) (hnew : m.lookup k = none)
    (husers : users.length ≤ capacity) : m.HasRoom k := by
  right
  have hnodup : (k :: m.entries.keys).Nodup :=
    List.nodup_cons.mpr ⟨AList.lookup_eq_none.mp hnew, m.entries.keys_nodup⟩
  have hsub : k :: m.entries.keys ⊆ users := by
    intro j hj
    rcases List.mem_cons.mp hj with rfl | hj
    · exact hk
    · obtain ⟨v, hv⟩ := Option.isSome_iff_exists.mp (AList.lookup_isSome.mpr hj)
      exact hkeys j v hv
  have hlength := (hnodup.subperm hsub).length_le
  rw [List.length_cons] at hlength
  omega

end BoundedMap
