import Mathlib.Tactic

/-!
# Scanning a text for a pattern

The regular expressions that programs scan texts with are mostly flat: a sequence of character
classes, each with a repetition count, possibly anchored at word boundaries, with one part
captured.  This file gives such a sequence the leftmost, greedy, backtracking meaning of the
usual regular-expression engines.

* `Piece` — a repeated class, or a word boundary.
* `matchHere` — match a sequence of pieces at one position, longest repetition first.
* `search` — the leftmost match.  `findall` — all matches, left to right, none overlapping.
* **`mem_findall_iff`** — skipping the matched text loses nothing when a match can only begin
  with a symbol that does not occur inside a match.  The engine then finds every occurrence.

A pattern is assumed to consume at least one symbol; none of the lemmas needs the assumption.
-/

namespace Scan

variable {α : Type}

/-- A piece of a pattern: between `min` and `max` symbols of a class (no `max` means no bound),
captured or not; or a position between a word symbol and another. -/
inductive Piece (α : Type)
  | rep (cls : α → Bool) (min : ℕ) (max : Option ℕ) (captured : Bool)
  | boundary (word : α → Bool)

/-- A class taken exactly once and not captured. -/
def Piece.one (cls : α → Bool) : Piece α := .rep cls 1 (some 1) false

/-- Take as many symbols of `cls` as allowed, then continue; on failure give one back. -/
def repeatGreedy (cls : α → Bool) (captured : Bool)
    (next : Option α → List α → Option (List α × List α)) :
    ℕ → Option ℕ → Option α → List α → Option (List α × List α)
  | min, _, prev, [] => if min = 0 then next prev [] else none
  | min, max, prev, c :: cs =>
      let stop := if min = 0 then next prev (c :: cs) else none
      if cls c = true ∧ max ≠ some 0 then
        match repeatGreedy cls captured next (min - 1) (max.map (· - 1)) (some c) cs with
        | some (g, rest) => some (if captured then c :: g else g, rest)
        | none => stop
      else stop

/-- The symbol before the position reached by reading `w` after `prev`. -/
def lastRead : Option α → List α → Option α
  | prev, [] => prev
  | _, c :: w => lastRead (some c) w

/-- Is the position between `prev` and the head of `s` at the edge of a word? -/
def atBoundary (word : α → Bool) (prev : Option α) (s : List α) : Bool :=
  (prev.map word).getD false != (s.head?.map word).getD false

/-- Match `ps` at the start of `s`, where `prev` is the symbol before it.  Returns the captured
text and what follows the match. -/
def matchHere : List (Piece α) → Option α → List α → Option (List α × List α)
  | [], _, s => some ([], s)
  | .boundary word :: ps, prev, s =>
      if atBoundary word prev s then matchHere ps prev s else none
  | .rep cls min max captured :: ps, prev, s =>
      repeatGreedy cls captured (matchHere ps) min max prev s

/-- The text captured by the leftmost match. -/
def search (ps : List (Piece α)) : Option α → List α → Option (List α)
  | prev, [] => (matchHere ps prev []).map Prod.fst
  | prev, c :: cs =>
      match matchHere ps prev (c :: cs) with
      | some (g, _) => some g
      | none => search ps (some c) cs

/-- The captured texts of all matches from the left, once `skip` symbols have been passed. -/
def findallFrom (ps : List (Piece α)) : ℕ → Option α → List α → List (List α)
  | _, _, [] => []
  | skip + 1, _, c :: cs => findallFrom ps skip (some c) cs
  | 0, prev, c :: cs =>
      match matchHere ps prev (c :: cs) with
      | some (g, rest) => g :: findallFrom ps (cs.length - rest.length) (some c) cs
      | none => findallFrom ps 0 (some c) cs

/-- The captured texts of all non-overlapping matches in `s`, left to right. -/
def findall (ps : List (Piece α)) (s : List α) : List (List α) := findallFrom ps 0 none s

/-! ## Matching a fixed number of symbols -/

/-- A piece with equal bounds takes exactly that many symbols of its class. -/
lemma repeatGreedy_exactly (cls : α → Bool) (captured : Bool)
    (next : Option α → List α → Option (List α × List α)) (g rest : List α) :
    ∀ (n : ℕ) (prev : Option α) (s : List α),
      repeatGreedy cls captured next n (some n) prev s = some (g, rest)
        ↔ ∃ w t g', s = w ++ t ∧ w.length = n ∧ (∀ c ∈ w, cls c = true)
            ∧ next (lastRead prev w) t = some (g', rest)
            ∧ g = (if captured then w else []) ++ g'
  | 0, prev, s => by
      have hs : repeatGreedy cls captured next 0 (some 0) prev s = next prev s := by
        cases s <;> simp [repeatGreedy]
      rw [hs]
      constructor
      · intro h
        exact ⟨[], s, g, rfl, rfl, by simp, h, by simp⟩
      · rintro ⟨w, t, g', rfl, hw, -, hn, rfl⟩
        obtain rfl := List.length_eq_zero_iff.mp hw
        simpa [lastRead] using hn
  | n + 1, prev, [] => by
      simp only [repeatGreedy, Nat.add_eq_zero_iff, one_ne_zero, and_false, if_false]
      constructor
      · intro h; cases h
      · rintro ⟨w, t, g', hs, hw, -⟩
        obtain ⟨rfl, rfl⟩ := List.append_eq_nil_iff.mp hs.symm
        simp at hw
  | n + 1, prev, c :: cs => by
      have ih := fun g => repeatGreedy_exactly cls captured next g rest n (some c) cs
      by_cases hc : cls c = true
      · have hstep : repeatGreedy cls captured next (n + 1) (some (n + 1)) prev (c :: cs)
            = (repeatGreedy cls captured next n (some n) (some c) cs).map
                fun r => (if captured then c :: r.1 else r.1, r.2) := by
          simp only [repeatGreedy, hc, Option.map_some, Nat.add_sub_cancel]
          cases repeatGreedy cls captured next n (some n) (some c) cs <;> simp
        rw [hstep, Option.map_eq_some_iff]
        constructor
        · rintro ⟨⟨g₀, r₀⟩, h, hg⟩
          obtain ⟨rfl, rfl⟩ := Prod.mk.inj hg
          obtain ⟨w, t, g', rfl, hw, hall, hn, rfl⟩ := (ih g₀).mp h
          refine ⟨c :: w, t, g', rfl, by simp [hw], by simpa [hc] using hall, hn, ?_⟩
          cases captured <;> simp
        · rintro ⟨w, t, g', hs, hw, hall, hn, rfl⟩
          cases w with
          | nil => simp at hw
          | cons d w =>
              obtain ⟨rfl, rfl⟩ := List.cons.inj hs
              refine ⟨((if captured then w else []) ++ g', rest), (ih _).mpr ?_, ?_⟩
              · exact ⟨w, t, g', rfl, by simpa using hw, fun x hx => hall x (by simp [hx]), hn, rfl⟩
              · cases captured <;> simp
      · have hstep : repeatGreedy cls captured next (n + 1) (some (n + 1)) prev (c :: cs)
            = none := by
          simp [repeatGreedy, hc]
        rw [hstep]
        constructor
        · intro h; cases h
        · rintro ⟨w, t, g', hs, hw, hall, -⟩
          cases w with
          | nil => simp at hw
          | cons d w =>
              obtain ⟨rfl, rfl⟩ := List.cons.inj hs
              exact absurd (hall c (by simp)) hc

/-- A sequence of pieces with equal bounds reads off a fixed number of symbols each. -/
lemma matchHere_exactly (cls : α → Bool) (n : ℕ) (captured : Bool) (ps : List (Piece α))
    (prev : Option α) (s g rest : List α) :
    matchHere (.rep cls n (some n) captured :: ps) prev s = some (g, rest)
      ↔ ∃ w t g', s = w ++ t ∧ w.length = n ∧ (∀ c ∈ w, cls c = true)
          ∧ matchHere ps (lastRead prev w) t = some (g', rest)
          ∧ g = (if captured then w else []) ++ g' :=
  repeatGreedy_exactly cls captured (matchHere ps) g rest n prev s

/-- Reading one literal symbol. -/
lemma matchHere_one (cls : α → Bool) (ps : List (Piece α)) (prev : Option α)
    (s g rest : List α) :
    matchHere (.one cls :: ps) prev s = some (g, rest)
      ↔ ∃ c t, s = c :: t ∧ cls c = true ∧ matchHere ps (some c) t = some (g, rest) := by
  rw [Piece.one, matchHere_exactly]
  constructor
  · rintro ⟨w, t, g', rfl, hw, hall, hn, rfl⟩
    obtain ⟨c, rfl⟩ := List.length_eq_one_iff.mp hw
    exact ⟨c, t, rfl, hall c (by simp), by simpa [lastRead] using hn⟩
  · rintro ⟨c, t, rfl, hc, hn⟩
    exact ⟨[c], t, g, rfl, rfl, by simpa using hc, hn, by simp⟩

/-- Reading a literal word, one piece per symbol. -/
lemma matchHere_word [DecidableEq α] (ps : List (Piece α)) (g rest : List α) :
    ∀ (lit : List α) (prev : Option α) (s : List α),
      matchHere (lit.map (fun a => Piece.one (· == a)) ++ ps) prev s = some (g, rest)
        ↔ ∃ t, s = lit ++ t
            ∧ matchHere ps (lastRead prev lit) t = some (g, rest)
  | [], prev, s => by simp [lastRead]
  | a :: lit, prev, s => by
      rw [List.map_cons, List.cons_append, matchHere_one]
      constructor
      · rintro ⟨c, t, rfl, hc, hm⟩
        obtain ⟨u, rfl, hu⟩ := (matchHere_word ps g rest lit (some c) t).mp hm
        obtain rfl : c = a := by simpa using hc
        exact ⟨u, rfl, hu⟩
      · rintro ⟨u, rfl, hu⟩
        exact ⟨a, lit ++ u, rfl, by simp,
          (matchHere_word ps g rest lit (some a) (lit ++ u)).mpr ⟨u, rfl, hu⟩⟩

/-! ## Finding every occurrence -/

/-- What `findall` loses by skipping: an occurrence that begins inside another.  `Separated`
rules that out — a match begins with a symbol of the class `head`, the rest of what it consumes
has none, and whether a position matches does not depend on the symbol before it. -/
structure Separated (ps : List (Piece α)) (head : α → Prop) : Prop where
  shape : ∀ {prev s g rest}, matchHere ps prev s = some (g, rest) →
    ∃ c w, s = c :: w ++ rest ∧ head c ∧ ∀ d ∈ w, ¬ head d
  prev_irrelevant : ∀ prev prev' s, matchHere ps prev s = matchHere ps prev' s

/-- `g` is captured by a match at some position of `s`. -/
def Occurs (ps : List (Piece α)) (g s : List α) : Prop :=
  ∃ pre t rest, s = pre ++ t ∧ matchHere ps none t = some (g, rest)

lemma not_occurs_nil {ps : List (Piece α)} {head : α → Prop} (hps : Separated ps head)
    (g : List α) : ¬ Occurs ps g [] := by
  rintro ⟨pre, t, rest, hs, hm⟩
  obtain ⟨-, rfl⟩ := List.append_eq_nil_iff.mp hs.symm
  obtain ⟨c, w, hcw, -⟩ := hps.shape hm
  simp at hcw

/-- An occurrence is at the first symbol or further on. -/
lemma occurs_cons_iff (ps : List (Piece α)) (g : List α) (c : α) (cs : List α) :
    Occurs ps g (c :: cs)
      ↔ (∃ rest, matchHere ps none (c :: cs) = some (g, rest)) ∨ Occurs ps g cs := by
  constructor
  · rintro ⟨pre, t, rest, hs, hm⟩
    cases pre with
    | nil =>
        obtain rfl : c :: cs = t := hs
        exact Or.inl ⟨rest, hm⟩
    | cons d pre =>
        obtain ⟨rfl, rfl⟩ := List.cons.inj hs
        exact Or.inr ⟨pre, t, rest, rfl, hm⟩
  · rintro (⟨rest, hm⟩ | ⟨pre, t, rest, rfl, hm⟩)
    · exact ⟨[], c :: cs, rest, rfl, hm⟩
    · exact ⟨c :: pre, t, rest, rfl, hm⟩

/-- No occurrence begins inside a stretch without `head` symbols. -/
lemma occurs_append_iff {ps : List (Piece α)} {head : α → Prop} (hps : Separated ps head)
    (g : List α) : ∀ (w s : List α), (∀ d ∈ w, ¬ head d) →
      (Occurs ps g (w ++ s) ↔ Occurs ps g s)
  | [], s, _ => Iff.rfl
  | d :: w, s, hw => by
      rw [List.cons_append, occurs_cons_iff,
        occurs_append_iff hps g w s fun e he => hw e (by simp [he])]
      refine or_iff_right ?_
      rintro ⟨rest, hm⟩
      obtain ⟨c, v, hcv, hc, -⟩ := hps.shape hm
      obtain ⟨rfl, -⟩ := List.cons.inj hcv
      exact hw d (by simp) hc

lemma findallFrom_skip (ps : List (Piece α)) :
    ∀ (w s : List α) (prev : Option α),
      ∃ prev', findallFrom ps w.length prev (w ++ s) = findallFrom ps 0 prev' s
  | [], s, prev => ⟨prev, rfl⟩
  | d :: w, s, prev => by
      obtain ⟨prev', h⟩ := findallFrom_skip ps w s (some d)
      exact ⟨prev', h⟩

/-- **The scan misses no occurrence and invents none.** -/
theorem mem_findallFrom_iff {ps : List (Piece α)} {head : α → Prop} (hps : Separated ps head)
    (g : List α) (n : ℕ) : ∀ (s : List α) (prev : Option α), s.length ≤ n →
      (g ∈ findallFrom ps 0 prev s ↔ Occurs ps g s) := by
  -- the recursion continues behind the match, so the induction is on a bound for the length
  induction n with
  | zero =>
      intro s prev hn
      obtain rfl := List.length_eq_zero_iff.mp (Nat.le_zero.mp hn)
      simp [findallFrom, not_occurs_nil hps g]
  | succ n ih =>
      intro s prev hn
      cases s with
      | nil => simp [findallFrom, not_occurs_nil hps g]
      | cons c cs =>
          have hcs : cs.length ≤ n := by simpa using hn
          rw [occurs_cons_iff, findallFrom, hps.prev_irrelevant prev none (c :: cs)]
          cases hm : matchHere ps none (c :: cs) with
          | none => simpa using ih cs (some c) hcs
          | some r =>
              obtain ⟨g₀, rest⟩ := r
              obtain ⟨d, w, hcw, -, hw⟩ := hps.shape hm
              obtain rfl : cs = w ++ rest := (List.cons.inj hcw).2
              obtain ⟨prev', hskip⟩ := findallFrom_skip ps w rest (some c)
              have hlen : (w ++ rest).length - rest.length = w.length := by simp
              have hrest : rest.length ≤ n := by
                rw [List.length_append] at hcs; omega
              simp only [hlen, hskip, List.mem_cons, ih rest prev' hrest,
                occurs_append_iff hps g w rest hw]
              refine or_congr_left ?_
              constructor
              · rintro rfl
                exact ⟨rest, rfl⟩
              · rintro ⟨r, hr⟩
                simpa using (Prod.mk.inj (Option.some.inj hr)).1.symm

/-- What `findall` returns is exactly what occurs in the text. -/
theorem mem_findall_iff {ps : List (Piece α)} {head : α → Prop} (hps : Separated ps head)
    (g s : List α) : g ∈ findall ps s ↔ Occurs ps g s :=
  mem_findallFrom_iff hps g s.length s none le_rfl

end Scan
