import Mathlib.Tactic

/-!
# Decoding UTF-8 with replacement

A decoder that never fails: each maximal ill-formed piece of the input becomes one replacement
character.  It is a machine that reads one byte at a time and is either between characters or
owed continuation bytes.

* `decodeReplace` — the decoder.
* **`length_decodeReplace_le`** — it returns at most as many characters as it reads bytes.
* **`decodeReplace_ne_nil`** — it returns something for every non-empty input.
* **`ne_nul_of_mem_decodeReplace`** — it returns NUL only for a zero byte.
-/

namespace Utf8

/-- The character at a code point; U+FFFD where there is none. -/
def scalar (n : ℕ) : Char := if n.isValidChar then Char.ofNat n else '\uFFFD'

/-- A character of which some bytes are still owed: the bits read so far, how many bytes follow
the next one, and the range the next one must lie in.  The range rules overlong forms out, so
the character will not be NUL. -/
structure Pending where
  bits : ℕ
  left : ℕ
  lo : ℕ
  hi : ℕ
  nonzero : 0 < bits * 64 + (lo - 0x80)

/-- A byte between characters: what it emits, and what it leaves owed. -/
def first (b : ℕ) : List Char × Option Pending :=
  if b < 0x80 then ([scalar b], none)
  else if h : 0xC2 ≤ b ∧ b ≤ 0xDF then ([], some ⟨b - 0xC0, 0, 0x80, 0xBF, by omega⟩)
  else if b = 0xE0 then ([], some ⟨0, 1, 0xA0, 0xBF, by omega⟩)
  else if b = 0xED then ([], some ⟨0xD, 1, 0x80, 0x9F, by omega⟩)
  else if h : 0xE1 ≤ b ∧ b ≤ 0xEF then ([], some ⟨b - 0xE0, 1, 0x80, 0xBF, by omega⟩)
  else if b = 0xF0 then ([], some ⟨0, 2, 0x90, 0xBF, by omega⟩)
  else if b = 0xF4 then ([], some ⟨4, 2, 0x80, 0x8F, by omega⟩)
  else if h : 0xF1 ≤ b ∧ b ≤ 0xF3 then ([], some ⟨b - 0xF0, 2, 0x80, 0xBF, by omega⟩)
  else (['\uFFFD'], none)

/-- A byte while others are owed.  A byte out of range ends the pending piece and is read again
as a first byte. -/
def Pending.next (p : Pending) (b : ℕ) : List Char × Option Pending :=
  if h : p.lo ≤ b ∧ b ≤ p.hi then
    if p.left = 0 then ([scalar (p.bits * 64 + (b - 0x80))], none)
    else ([], some ⟨p.bits * 64 + (b - 0x80), p.left - 1, 0x80, 0xBF, by
      have := p.nonzero
      omega⟩)
  else ('\uFFFD' :: (first b).1, (first b).2)

/-- One byte. -/
def step : Option Pending → ℕ → List Char × Option Pending
  | none => first
  | some p => p.next

/-- The machine on a whole input.  A piece cut off by the end is replaced. -/
def decodeFrom : Option Pending → List (BitVec 8) → List Char
  | none, [] => []
  | some _, [] => ['\uFFFD']
  | p, b :: bs => (step p b.toNat).1 ++ decodeFrom (step p b.toNat).2 bs

/-- `bytes.decode("utf-8", errors="replace")`. -/
def decodeReplace (bs : List (BitVec 8)) : List Char := decodeFrom none bs

/-! ## Bounds

Every byte but one emits at most one character, and the one that emits two has a pending piece
to answer for.
-/

/-- Characters a machine state already owes. -/
def owed : Option Pending → ℕ
  | none => 0
  | some _ => 1

lemma first_spec (b : ℕ) : (first b).1.length + owed (first b).2 = 1 := by
  unfold first
  split_ifs <;> rfl

lemma step_spec (p : Option Pending) (b : ℕ) :
    (step p b).1.length + owed (step p b).2 ≤ 1 + owed p
      ∧ 1 ≤ (step p b).1.length + owed (step p b).2 := by
  have hfirst := first_spec b
  cases p with
  | none =>
      rw [step, hfirst]
      simp [owed]
  | some p =>
      rw [step]
      unfold Pending.next
      split_ifs
      · simp [owed]
      · simp [owed]
      · have hrest : ('\uFFFD' :: (first b).1).length + owed (first b).2 = 2 := by
          rw [List.length_cons]
          omega
        rw [hrest]
        simp [owed]

/-- The characters of the rest are bounded by its bytes and what is owed, from both sides. -/
lemma length_decodeFrom (bs : List (BitVec 8)) :
    ∀ p, (decodeFrom p bs).length ≤ bs.length + owed p
      ∧ (0 < bs.length + owed p → 0 < (decodeFrom p bs).length) := by
  induction bs with
  | nil =>
      intro p
      cases p <;> simp [decodeFrom, owed]
  | cons b bs ih =>
      intro p
      obtain ⟨hle, hge⟩ := step_spec p b.toNat
      obtain ⟨hle', hge'⟩ := ih (step p b.toNat).2
      rw [decodeFrom, List.length_append, List.length_cons]
      constructor
      · omega
      · intro _
        by_cases h : 0 < bs.length + owed (step p b.toNat).2
        · have := hge' h
          omega
        · omega

theorem length_decodeReplace_le (bs : List (BitVec 8)) :
    (decodeReplace bs).length ≤ bs.length :=
  (length_decodeFrom bs none).1

theorem decodeReplace_ne_nil {bs : List (BitVec 8)} (h : bs ≠ []) : decodeReplace bs ≠ [] := by
  have hpos : 0 < bs.length + owed none := Nat.lt_add_right _ (List.length_pos_iff.mpr h)
  exact List.length_pos_iff.mp ((length_decodeFrom bs none).2 hpos)

/-! ## NUL -/

lemma scalar_ne_nul {n : ℕ} (h : n ≠ 0) : scalar n ≠ '\x00' := by
  unfold scalar
  split_ifs with hv
  · intro heq
    have hn : (Char.ofNat n).toNat = n := by
      rw [Char.ofNat, dif_pos hv]
      rfl
    exact h (hn.symm.trans (congrArg Char.toNat heq))
  · decide

lemma first_ne_nul {b : ℕ} (h : b ≠ 0) : ∀ c ∈ (first b).1, c ≠ '\x00' := by
  unfold first
  split_ifs <;> simp [scalar_ne_nul h]

lemma step_ne_nul (p : Option Pending) {b : ℕ} (h : b ≠ 0) : ∀ c ∈ (step p b).1, c ≠ '\x00' := by
  cases p with
  | none => exact first_ne_nul h
  | some p =>
      have hp := p.nonzero
      rw [step]
      unfold Pending.next
      split_ifs with hb
      · simpa using scalar_ne_nul (n := p.bits * 64 + (b - 0x80)) (by omega)
      · simp
      · simpa using first_ne_nul h

/-- The decoder returns NUL only for a zero byte. -/
theorem ne_nul_of_mem_decodeReplace {bs : List (BitVec 8)} (h : ∀ b ∈ bs, b ≠ 0) :
    ∀ c ∈ decodeReplace bs, c ≠ '\x00' := by
  suffices hfrom : ∀ p, ∀ c ∈ decodeFrom p bs, c ≠ '\x00' from hfrom none
  induction bs with
  | nil =>
      intro p
      cases p <;> simp [decodeFrom]
  | cons b bs ih =>
      intro p c hc
      have hb : b.toNat ≠ 0 := fun h0 => h b (by simp) (BitVec.eq_of_toNat_eq h0)
      rw [decodeFrom, List.mem_append] at hc
      rcases hc with hc | hc
      · exact step_ne_nul p hb c hc
      · exact ih (fun b' hb' => h b' (by simp [hb'])) _ c hc

example :
    decodeReplace [0x63, 0xC3, 0xA9, 0xF0, 0x9F, 0x41] = ['c', 'é', '\uFFFD', 'A'] := by decide

end Utf8
