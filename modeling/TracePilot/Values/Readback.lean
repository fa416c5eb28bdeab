import Mathlib.Data.List.TakeWhile
import TracePilot.Values.Wire

/-!
# Addresses and minutes, read back from their texts

The program compares addresses by `str(address)` and groups the events of a minute by
`isoformat()`, so that it relies on different values having different texts.

* **`IpAddress.str_injective`** — an IPv6 text is cut at its colons, and the empty piece shows where
  zero groups were left out.
* **`Datetime.isoformat_injective`** — the text of an instant has its fields at fixed places, and
  the day can be computed back from year, month and day.
-/

namespace TracePilot

/-! ## Digits -/

/-- **Different numbers have different digits.** -/
lemma toDigits_injective {b : ℕ} (hb : 1 < b) (hb' : b ≤ 16) :
    Function.Injective (Nat.toDigits b) := by
  have hdigit : ∀ m < 16, ∀ n < 16, Nat.digitChar m = Nat.digitChar n → m = n := by decide
  have hsmall : ∀ m, m % b < 16 := fun m => lt_of_lt_of_le (Nat.mod_lt m (by omega)) hb'
  intro m
  induction m using Nat.strong_induction_on with
  | _ m ih =>
      intro n h
      rw [Nat.toDigits_eq_if (n := m) hb, Nat.toDigits_eq_if (n := n) hb] at h
      split_ifs at h with hm hn hn
      · exact hdigit m (by omega) n (by omega) (List.singleton_inj.mp h)
      · have hlength := congrArg List.length h
        have hpos : 0 < (Nat.toDigits b (n / b)).length := Nat.length_toDigits_pos
        simp only [List.length_append, List.length_singleton] at hlength
        omega
      · have hlength := congrArg List.length h
        have hpos : 0 < (Nat.toDigits b (m / b)).length := Nat.length_toDigits_pos
        simp only [List.length_append, List.length_singleton] at hlength
        omega
      · obtain ⟨hhigh, hlow⟩ := List.append_inj' h rfl
        have hdiv := ih (m / b) (Nat.div_lt_self (by omega) hb) hhigh
        have hmod := hdigit _ (hsmall m) _ (hsmall n) (List.singleton_inj.mp hlow)
        rw [← Nat.div_add_mod m b, ← Nat.div_add_mod n b, hdiv, hmod]

/-- What a digit is not. -/
lemma not_mem_toDigits {b : ℕ} (hb : 1 < b) (hb' : b ≤ 16) {c : Char}
    (hc : ∀ n < 16, Nat.digitChar n ≠ c) (n : ℕ) : c ∉ Nat.toDigits b n := by
  induction n using Nat.strong_induction_on with
  | _ n ih =>
      rw [Nat.toDigits_eq_if hb]
      split_ifs with h
      · simpa using (hc n (by omega)).symm
      · have hlow := hc (n % b) (lt_of_lt_of_le (Nat.mod_lt n (by omega)) hb')
        simpa [hlow.symm] using ih (n / b) (Nat.div_lt_self (by omega) hb)

/-! ## Addresses -/

/-- The pieces of a text between the colons. -/
def pieces (s : String) : List (List Char) := s.toList.splitOn ':'

/-- The pieces before the first empty one. -/
def leadingPieces (s : String) : List (List Char) := (pieces s).takeWhile fun piece => piece ≠ []

/-- The pieces after it. -/
def trailingPieces (s : String) : List (List Char) :=
  ((pieces s).dropWhile fun piece => piece ≠ []).filter fun piece => piece ≠ []

/-- The groups from `start` on are zero, `len` of them. -/
def ZeroRun (groups : List ℕ) (start len : ℕ) : Prop :=
  start + len ≤ groups.length ∧ ∀ i, start ≤ i → i < start + len → groups[i]? = some 0

lemma ZeroRun.append {groups : List ℕ} {start len : ℕ} (h : ZeroRun groups start len) (g : ℕ) :
    ZeroRun (groups ++ [g]) start len := by
  refine ⟨by simpa using h.1.trans (Nat.le_succ _), fun i hi hi' => ?_⟩
  rw [List.getElem?_append_left (lt_of_lt_of_le hi' h.1)]
  exact h.2 i hi hi'

/-- A run that reaches the end goes on with one more zero. -/
lemma ZeroRun.extend {groups : List ℕ} {start len : ℕ} (h : ZeroRun groups start len)
    (hend : start + len = groups.length) : ZeroRun (groups ++ [0]) start (len + 1) := by
  refine ⟨by simp [← hend]; omega, fun i hi hi' => ?_⟩
  rcases Nat.lt_or_ge i (start + len) with hlt | hge
  · rw [List.getElem?_append_left (hend ▸ hlt)]
    exact h.2 i hi hlt
  · have hlast : i = groups.length := by omega
    rw [hlast, List.getElem?_concat_length]

/-- One round of the search: the start and the length of the current run, and the best run. -/
def zeroRunStep (state : ℕ × ℕ × ℕ × ℕ) (entry : ℕ × ℕ) : ℕ × ℕ × ℕ × ℕ :=
  if entry.1 = 0 then
    let start := if state.2.1 = 0 then entry.2 else state.1
    (start, state.2.1 + 1,
      if state.2.2.2 < state.2.1 + 1 then (start, state.2.1 + 1) else state.2.2)
  else (0, 0, state.2.2)

/-- What holds after the search went through `groups`: the current run is one of zeros up to the
end, and the best one is a run of zeros. -/
structure Searched (groups : List ℕ) (state : ℕ × ℕ × ℕ × ℕ) : Prop where
  current : state.2.1 = 0 ∨ ZeroRun groups state.1 state.2.1
    ∧ state.1 + state.2.1 = groups.length
  best : ZeroRun groups state.2.2.1 state.2.2.2

/-- A zero starts a run or goes on with the current one. -/
lemma Searched.run {groups : List ℕ} {state : ℕ × ℕ × ℕ × ℕ} (h : Searched groups state) :
    ZeroRun (groups ++ [0]) (if state.2.1 = 0 then groups.length else state.1) (state.2.1 + 1)
      ∧ (if state.2.1 = 0 then groups.length else state.1) + (state.2.1 + 1)
        = (groups ++ [0]).length := by
  rw [List.length_append, List.length_singleton]
  split_ifs with hempty
  · rw [hempty]
    refine ⟨⟨by simp, fun i hi hi' => ?_⟩, rfl⟩
    rw [show i = groups.length by omega, List.getElem?_concat_length]
  · obtain ⟨hrun, hend⟩ := h.current.resolve_left hempty
    exact ⟨hrun.extend hend, by omega⟩

lemma Searched.step {groups : List ℕ} {state : ℕ × ℕ × ℕ × ℕ} (h : Searched groups state) (g : ℕ) :
    Searched (groups ++ [g]) (zeroRunStep state (g, groups.length)) := by
  unfold zeroRunStep
  dsimp only
  by_cases hg : g = 0
  · obtain ⟨hrun, hend⟩ := h.run
    rw [if_pos hg, hg]
    refine ⟨.inr ⟨hrun, hend⟩, ?_⟩
    dsimp only
    split
    · exact hrun
    · exact h.best.append 0
  · rw [if_neg hg]
    exact ⟨.inl rfl, h.best.append g⟩

/-- **The run that is found is one of zeros.** -/
lemma zeroRun_longest (groups : List ℕ) :
    ZeroRun groups (longestZeroRun groups).1 (longestZeroRun groups).2 := by
  have hsearch : Searched groups (groups.zipIdx.foldl zeroRunStep (0, 0, 0, 0)) := by
    induction groups using List.reverseRecOn with
    | nil => exact ⟨.inl rfl, ⟨le_rfl, fun i _ hi => absurd hi (Nat.not_lt_zero i)⟩⟩
    | append_singleton groups g ih =>
        rw [List.zipIdx_append, List.foldl_append]
        simpa using ih.step g
  exact hsearch.best

/-- Cutting the run out leaves the groups before and after it. -/
lemma ZeroRun.eq_append {groups : List ℕ} {start len : ℕ} (h : ZeroRun groups start len) :
    groups = groups.take start ++ List.replicate len 0 ++ groups.drop (start + len) := by
  have hzeros : (groups.drop start).take len = List.replicate len 0 := by
    refine List.ext_getElem? fun i => ?_
    rw [List.getElem?_take, List.getElem?_replicate, List.getElem?_drop]
    split_ifs with hi
    · exact h.2 (start + i) (by omega) (by omega)
    · rfl
  rw [← hzeros, List.append_assoc, ← List.drop_drop, List.take_append_drop,
    List.take_append_drop]

/-- The text of a group. -/
def hextetText (group : ℕ) : String := String.ofList (Nat.toDigits 16 group)

lemma colon_not_mem_hextetText (group : ℕ) : ':' ∉ (hextetText group).toList := by
  rw [hextetText, String.toList_ofList]
  exact not_mem_toDigits (by norm_num) (by norm_num) (by decide) group

lemma hextetText_ne_nil (group : ℕ) : (hextetText group).toList ≠ [] := by
  rw [hextetText, String.toList_ofList]
  exact Nat.toDigits_ne_nil

/-- The pieces of a joined text are the texts that were joined. -/
lemma pieces_intercalate {texts : List String} (hne : texts ≠ [])
    (hcolon : ∀ s ∈ texts, ':' ∉ s.toList) :
    pieces (":".intercalate texts) = texts.map String.toList := by
  rw [pieces, String.toList_intercalate]
  refine List.splitOn_intercalate ':' (fun l hl => ?_) (by simpa using hne)
  obtain ⟨s, hs, rfl⟩ := List.mem_map.mp hl
  exact hcolon s hs

/-- Texts as they are joined: joining none is joining one empty text. -/
def orEmpty (texts : List String) : List String := if texts = [] then [""] else texts

lemma orEmpty_ne_nil (texts : List String) : orEmpty texts ≠ [] := by
  unfold orEmpty
  split_ifs with h
  · simp
  · exact h

lemma intercalate_orEmpty (sep : String) (texts : List String) :
    sep.intercalate (orEmpty texts) = sep.intercalate texts := by
  unfold orEmpty
  split_ifs with h
  · rw [h, String.intercalate_singleton, String.intercalate_nil]
  · rfl

/-- Texts of groups: not empty, and free of colons. -/
def GroupTexts (texts : List String) : Prop := ∀ s ∈ texts, s.toList ≠ [] ∧ ':' ∉ s.toList

lemma GroupTexts.colon_not_mem_orEmpty {texts : List String} (h : GroupTexts texts) :
    ∀ s ∈ orEmpty texts, ':' ∉ s.toList := by
  unfold orEmpty
  split_ifs
  · simp
  · exact fun s hs => (h s hs).2

lemma GroupTexts.map_ne_nil {texts : List String} (h : GroupTexts texts) :
    ∀ piece ∈ texts.map String.toList, decide (piece ≠ []) = true := by
  intro piece hpiece
  obtain ⟨s, hs, rfl⟩ := List.mem_map.mp hpiece
  exact decide_eq_true (h s hs).1

/-- A text without a `::`. -/
lemma leadingPieces_intercalate {texts : List String} (h : GroupTexts texts) (hne : texts ≠ []) :
    leadingPieces (":".intercalate texts) = texts.map String.toList
      ∧ trailingPieces (":".intercalate texts) = [] := by
  rw [leadingPieces, trailingPieces, pieces_intercalate hne fun s hs => (h s hs).2,
    List.takeWhile_eq_self_iff.mpr h.map_ne_nil, List.dropWhile_eq_nil_iff.mpr h.map_ne_nil]
  exact ⟨rfl, rfl⟩

/-- A text with one. -/
lemma leadingPieces_compressed {before after : List String} (hbefore : GroupTexts before)
    (hafter : GroupTexts after) :
    leadingPieces (":".intercalate before ++ "::" ++ ":".intercalate after)
        = before.map String.toList
      ∧ trailingPieces (":".intercalate before ++ "::" ++ ":".intercalate after)
        = after.map String.toList := by
  have hjoin : ":".intercalate before ++ "::" ++ ":".intercalate after
      = ":".intercalate (orEmpty before ++ ("" :: orEmpty after)) := by
    have hcolons : "::" = ":" ++ ":" := rfl
    rw [String.intercalate_append_of_ne_nil (orEmpty_ne_nil _) (List.cons_ne_nil _ _),
      String.intercalate_cons_of_ne_nil (orEmpty_ne_nil _), intercalate_orEmpty,
      intercalate_orEmpty, hcolons, String.empty_append]
    simp only [String.append_assoc]
  have hcolon : ∀ s ∈ orEmpty before ++ ("" :: orEmpty after), ':' ∉ s.toList := by
    simp only [List.forall_mem_append, List.forall_mem_cons]
    exact ⟨hbefore.colon_not_mem_orEmpty, by simp, hafter.colon_not_mem_orEmpty⟩
  have hrest : ((orEmpty after).map String.toList).filter (fun piece => piece ≠ [])
      = after.map String.toList := by
    unfold orEmpty
    split_ifs with h
    · simp [h]
    · exact List.filter_eq_self.mpr hafter.map_ne_nil
  rw [leadingPieces, trailingPieces, hjoin, pieces_intercalate (by simp) hcolon, List.map_append,
    List.map_cons]
  rcases eq_or_ne before [] with rfl | hne
  · simpa [orEmpty] using hrest
  · rw [orEmpty, if_neg hne, List.takeWhile_append_of_pos hbefore.map_ne_nil,
      List.dropWhile_append_of_pos hbefore.map_ne_nil]
    simpa using hrest

/-- **The groups of an address, read back from its text**: those before the `::`, as many zeros as
are missing, and those after it. -/
lemma readback_compressHextets {groups : List ℕ} (hlength : groups.length = 8) :
    groups.map (Nat.toDigits 16) = leadingPieces (compressHextets groups)
      ++ List.replicate (8 - ((leadingPieces (compressHextets groups)).length
        + (trailingPieces (compressHextets groups)).length)) ['0']
      ++ trailingPieces (compressHextets groups) := by
  have htexts : ∀ gs : List ℕ, GroupTexts (gs.map hextetText) := by
    intro gs s hs
    obtain ⟨group, -, rfl⟩ := List.mem_map.mp hs
    exact ⟨hextetText_ne_nil group, colon_not_mem_hextetText group⟩
  have hdigits : ∀ gs : List ℕ, (gs.map hextetText).map String.toList
      = gs.map (Nat.toDigits 16) := by
    intro gs
    simp [hextetText, Function.comp_def]
  have hrun := zeroRun_longest groups
  rcases hfound : longestZeroRun groups with ⟨start, len⟩
  have hunfold : compressHextets groups
      = if 1 < len then ":".intercalate ((groups.take start).map hextetText) ++ "::"
          ++ ":".intercalate ((groups.drop (start + len)).map hextetText)
        else ":".intercalate (groups.map hextetText) := by
    rw [compressHextets, hfound]
    simp only [List.map_take, List.map_drop]
    rfl
  rw [hfound] at hrun
  rw [hunfold]
  split_ifs
  · obtain ⟨hlead, htrail⟩ := leadingPieces_compressed (htexts (groups.take start))
      (htexts (groups.drop (start + len)))
    have hbound : start + len ≤ groups.length := hrun.1
    have hmissing : 8 - ((groups.take start).length + (groups.drop (start + len)).length) = len := by
      rw [List.length_take, List.length_drop]
      omega
    rw [hlead, htrail, hdigits, hdigits, List.length_map, List.length_map, hmissing]
    conv_lhs => rw [hrun.eq_append]
    simp [Nat.toDigits_zero]
  · obtain ⟨hlead, htrail⟩ := leadingPieces_intercalate (htexts groups) (by
      rw [Ne, List.map_eq_nil_iff, ← List.length_eq_zero_iff]
      omega)
    rw [hlead, htrail, hdigits]
    simp [hlength]

lemma hextets_injective {m n : ℕ} (hm : m < 2 ^ 128) (hn : n < 2 ^ 128)
    (h : hextets m = hextets n) : m = n := by
  have hall : ∀ i < 8, m / 65536 ^ i % 65536 = n / 65536 ^ i % 65536 := by
    intro i hi
    have hgroup := List.map_inj_left.mp h (7 - i) (List.mem_range.mpr (by omega))
    rwa [show 7 - (7 - i) = i by omega] at hgroup
  have hmod := Uuid.mod_pow_eq_of_digits 8 hall
  rwa [Nat.mod_eq_of_lt (hm.trans_le (by norm_num)),
    Nat.mod_eq_of_lt (hn.trans_le (by norm_num))] at hmod

lemma not_mem_octetText {c : Char} (hc : ∀ n < 16, Nat.digitChar n ≠ c) {k : ℕ} {s : String}
    (hs : s ∈ (List.range 4).map fun i => toString (k / 256 ^ (3 - i) % 256)) : c ∉ s.toList := by
  obtain ⟨i, -, rfl⟩ := List.mem_map.mp hs
  rw [Nat.toString_eq_repr, Nat.toList_repr]
  exact not_mem_toDigits (by norm_num) (by norm_num) hc _

/-- **The octets of an IPv4 address, read back from its text.** -/
lemma splitOn_ipv4Text (k : ℕ) : (ipv4Text k).toList.splitOn '.'
    = (List.range 4).map fun i => Nat.toDigits 10 (k / 256 ^ (3 - i) % 256) := by
  rw [ipv4Text, String.toList_intercalate]
  refine (List.splitOn_intercalate '.' (fun l hl => ?_) (by simp)).trans ?_
  · obtain ⟨s, hs, rfl⟩ := List.mem_map.mp hl
    exact not_mem_octetText (by decide) hs
  · simp [Nat.toString_eq_repr, Nat.toList_repr, Function.comp_def]

lemma ipv4Text_injective {m n : ℕ} (hm : m < 2 ^ 32) (hn : n < 2 ^ 32)
    (h : ipv4Text m = ipv4Text n) : m = n := by
  have hoctets := splitOn_ipv4Text m
  rw [h, splitOn_ipv4Text] at hoctets
  have hall : ∀ i < 4, m / 256 ^ i % 256 = n / 256 ^ i % 256 := by
    intro i hi
    have hoctet := List.map_inj_left.mp hoctets (3 - i) (List.mem_range.mpr (by omega))
    rw [show 3 - (3 - i) = i by omega] at hoctet
    exact (toDigits_injective (by norm_num) (by norm_num) hoctet).symm
  have hmod := Uuid.mod_pow_eq_of_digits 4 hall
  rwa [Nat.mod_eq_of_lt (hm.trans_le (by norm_num)),
    Nat.mod_eq_of_lt (hn.trans_le (by norm_num))] at hmod

lemma dot_mem_ipv4Text (k : ℕ) : '.' ∈ (ipv4Text k).toList := by
  by_contra hdot
  have hone : (['.'].intercalate [(ipv4Text k).toList]).splitOn '.' = [(ipv4Text k).toList] :=
    List.splitOn_intercalate '.' (by simpa using hdot) (by simp)
  rw [List.intercalate_singleton, splitOn_ipv4Text] at hone
  have hlength := congrArg List.length hone
  simp at hlength

lemma not_mem_intercalate {c : Char} {sep : List Char} (hsep : c ∉ sep) :
    ∀ texts : List (List Char), (∀ l ∈ texts, c ∉ l) → c ∉ sep.intercalate texts
  | [], _ => by simp
  | [l], h => by simpa using h
  | l :: l' :: texts, h => by
      have hrest := not_mem_intercalate hsep (l' :: texts) fun x hx => h x (by simp [hx])
      rw [List.intercalate_cons_cons, List.mem_append, List.mem_append]
      exact not_or.mpr ⟨not_or.mpr ⟨h l (by simp), hsep⟩, hrest⟩

lemma colon_not_mem_ipv4Text (k : ℕ) : ':' ∉ (ipv4Text k).toList := by
  rw [ipv4Text, String.toList_intercalate]
  refine not_mem_intercalate (by decide) _ fun l hl => ?_
  obtain ⟨s, hs, rfl⟩ := List.mem_map.mp hl
  exact not_mem_octetText (by decide) hs

/-- An IPv4 text has no colon, so it would be the first group of an IPv6 address, but it has
dots. -/
lemma ipv4Text_ne_compressHextets (k : ℕ) {groups : List ℕ} (hlength : groups.length = 8) :
    ipv4Text k ≠ compressHextets groups := by
  intro h
  have hdot := dot_mem_ipv4Text k
  have hpieces : pieces (ipv4Text k) = [(ipv4Text k).toList] := by
    rw [← String.intercalate_singleton (s := ":") (t := ipv4Text k)]
    refine (pieces_intercalate (by simp) ?_).trans (by simp)
    simpa using colon_not_mem_ipv4Text k
  have hlead : leadingPieces (ipv4Text k) = [(ipv4Text k).toList] := by
    rw [leadingPieces, hpieces, List.takeWhile_eq_self_iff]
    simpa using List.ne_nil_of_mem hdot
  have hread := readback_compressHextets hlength
  rw [← h, hlead] at hread
  have hmem : (ipv4Text k).toList ∈ groups.map (Nat.toDigits 16) := by
    rw [hread]
    simp
  obtain ⟨group, -, hgroup⟩ := List.mem_map.mp hmem
  rw [← hgroup] at hdot
  exact not_mem_toDigits (by norm_num) (by norm_num) (by decide) group hdot

/-- **Different addresses have different texts.** -/
theorem IpAddress.str_injective : Function.Injective IpAddress.str := by
  have hlength : ∀ bits, (hextets bits).length = 8 := fun _ => by simp [hextets]
  intro address address' h
  cases address with
  | v4 bits =>
      cases address' with
      | v4 bits' =>
          exact congrArg IpAddress.v4
            (BitVec.eq_of_toNat_eq (ipv4Text_injective bits.isLt bits'.isLt h))
      | v6 bits' => exact absurd h (ipv4Text_ne_compressHextets _ (hlength _))
  | v6 bits =>
      cases address' with
      | v4 bits' => exact absurd h.symm (ipv4Text_ne_compressHextets _ (hlength _))
      | v6 bits' =>
          have hread := readback_compressHextets (hlength bits.toNat)
          rw [show compressHextets (hextets bits.toNat) = compressHextets (hextets bits'.toNat) from h,
            ← readback_compressHextets (hlength bits'.toNat)] at hread
          have hgroups := List.map_injective_iff.mpr
            (toDigits_injective (by norm_num) (by norm_num)) hread
          exact congrArg IpAddress.v6
            (BitVec.eq_of_toNat_eq (hextets_injective bits.isLt bits'.isLt hgroups))

/-! ## Instants -/

/-- The value of a padded text. -/
lemma padded_injective {width m n : ℕ} (h : padded width m = padded width n) : m = n := by
  have hvalue : ∀ k, Nat.ofDigitChars 10 (padded width k).toList 0 = k := by
    intro k
    simp only [padded, String.toList_append, String.toList_ofList, Nat.ofDigitChars_append,
      Nat.ofDigitChars_replicate_zero, Nat.toString_eq_repr, Nat.toList_repr, Nat.mul_zero,
      Nat.ofDigitChars_ten_toDigits]
  rw [← hvalue m, h, hvalue n]

/-- A number that fits takes exactly the width. -/
lemma length_padded {width n : ℕ} (hwidth : 0 < width) (hn : n < 10 ^ width) :
    (padded width n).toList.length = width := by
  have hdigits := (Nat.length_toDigits_le_iff (b := 10) (by norm_num) hwidth).mpr hn
  have hlength : (toString n).length = (Nat.toDigits 10 n).length := by
    rw [Nat.toString_eq_repr, ← String.length_toList, Nat.toList_repr]
  simp only [padded, String.toList_append, String.toList_ofList, List.length_append,
    List.length_replicate, String.length_toList, hlength]
  omega

/-- A field of fixed width comes off the front of a text. -/
lemma padded_append_inj {width m n : ℕ} {s t : String} (hwidth : 0 < width)
    (hm : m < 10 ^ width) (hn : n < 10 ^ width) (h : padded width m ++ s = padded width n ++ t) :
    m = n ∧ s = t := by
  have hlists := congrArg String.toList h
  rw [String.toList_append, String.toList_append] at hlists
  obtain ⟨hfield, hrest⟩ := List.append_inj hlists
    ((length_padded hwidth hm).trans (length_padded hwidth hn).symm)
  exact ⟨padded_injective (String.toList_inj.mp hfield), String.toList_inj.mp hrest⟩

namespace Datetime

/-- The year of an era and the day of that year, which `civil` starts from. -/
lemma dayOfYear_bounds {doe yoe : ℤ} (h0 : 0 ≤ doe) (h1 : doe < 146097)
    (hyoe : yoe = (doe - doe / 1460 + doe / 36524 - doe / 146096) / 365) :
    0 ≤ doe - (365 * yoe + yoe / 4 - yoe / 100) ∧ doe - (365 * yoe + yoe / 4 - yoe / 100) ≤ 365
      ∧ 0 ≤ yoe ∧ yoe ≤ 399 := by
  have hcentury : yoe / 100 = doe / 36524 - doe / 146096 := by
    have hb : 0 ≤ doe / 36524 ∧ doe / 36524 ≤ 4 := by omega
    generalize hcenturies : doe / 36524 = b at *
    obtain ⟨hb0, hb4⟩ := hb
    interval_cases b <;> omega
  have hleap : yoe / 4 ≤ doe / 1460 := by omega
  have hleap' : doe / 1460 ≤ yoe / 4 + 1 := by omega
  omega

/-- The days that a `datetime` can hold. -/
def CivilRange (day : ℤ) : Prop := -719162 ≤ day ∧ day ≤ 2932896

/-- What `civil` computes with, and that its fields fit their widths. -/
lemma civil_spec {day : ℤ} (h : CivilRange day) : ∃ era yoe doy mp : ℤ,
    day + 719468 = era * 146097 + (365 * yoe + yoe / 4 - yoe / 100) + doy
      ∧ 0 ≤ era ∧ 0 ≤ yoe ∧ yoe ≤ 399 ∧ 0 ≤ doy ∧ doy ≤ 365 ∧ mp = (5 * doy + 2) / 153
      ∧ (civil day).1 = (yoe + era * 400 + if mp < 10 then 0 else 1).toNat
      ∧ (civil day).2.1 = (if mp < 10 then mp + 3 else mp - 9).toNat
      ∧ (civil day).2.2 = (doy - (153 * mp + 2) / 5 + 1).toNat := by
  obtain ⟨doe, hdoe⟩ : ∃ doe, doe = (day + 719468) % 146097 := ⟨_, rfl⟩
  obtain ⟨yoe, hyoe⟩ : ∃ yoe, yoe = (doe - doe / 1460 + doe / 36524 - doe / 146096) / 365 :=
    ⟨_, rfl⟩
  obtain ⟨hdoy0, hdoy1, hyoe0, hyoe1⟩ := dayOfYear_bounds (by omega) (by omega) hyoe
  obtain ⟨doy, hdoy⟩ : ∃ doy, doy = doe - (365 * yoe + yoe / 4 - yoe / 100) := ⟨_, rfl⟩
  obtain ⟨mp, hmp⟩ : ∃ mp, mp = (5 * doy + 2) / 153 := ⟨_, rfl⟩
  have hjanuary : ((if mp < 10 then mp + 3 else mp - 9) ≤ 2) ↔ ¬ mp < 10 := by
    split_ifs <;> omega
  refine ⟨(day + 719468) / 146097, yoe, doy, mp, by omega, by have := h.1; omega, hyoe0, hyoe1,
    by omega, by omega, hmp, ?_, ?_, ?_⟩
  · simp only [civil, ← hdoe, ← hyoe, ← hdoy, ← hmp, hjanuary, ite_not]
  · simp only [civil, ← hdoe, ← hyoe, ← hdoy, ← hmp]
  · simp only [civil, ← hdoe, ← hyoe, ← hdoy, ← hmp]

/-- The fields fit their widths. -/
lemma civil_bounds {day : ℤ} (h : CivilRange day) :
    (civil day).1 < 10 ^ 4 ∧ (civil day).2.1 < 10 ^ 2 ∧ (civil day).2.2 < 10 ^ 2 := by
  obtain ⟨era, yoe, doy, mp, hday, hera, hyoe0, hyoe1, hdoy0, hdoy1, hmp, hy, hm, hd⟩ := civil_spec h
  have hlast := h.2
  rw [hy, hm, hd]
  refine ⟨?_, ?_, ?_⟩
  · -- the last year of the range ends before the January that would start the next one
    have hera24 : era ≤ 24 := by omega
    split_ifs <;> omega
  · split_ifs <;> omega
  · omega

/-- **The day can be computed back.** -/
lemma civil_injective {day day' : ℤ} (h : CivilRange day) (h' : CivilRange day')
    (heq : civil day = civil day') : day = day' := by
  obtain ⟨era, yoe, doy, mp, hday, hera, hyoe0, hyoe1, hdoy0, hdoy1, hmp, hy, hm, hd⟩ := civil_spec h
  obtain ⟨era', yoe', doy', mp', hday', hera', hyoe0', hyoe1', hdoy0', hdoy1', hmp', hy', hm', hd'⟩ :=
    civil_spec h'
  rw [heq, hy'] at hy
  rw [heq, hm'] at hm
  rw [heq, hd'] at hd
  have hmonth : mp = mp' := by
    split_ifs at hm <;> omega
  subst hmonth
  have hdoy : doy = doy' := by omega
  have hyear : yoe + era * 400 = yoe' + era' * 400 := by
    split_ifs at hy <;> omega
  have hera : era = era' := by omega
  have hyoe : yoe = yoe' := by omega
  subst hdoy hera hyoe
  omega

/-- **Different instants have different texts.** -/
theorem isoformat_injective {t t' : ℤ} (ht : representable t) (ht' : representable t')
    (h : (utc t).isoformat = (utc t').isoformat) : t = t' := by
  have hrange : CivilRange (t / 86400000000) := by
    unfold CivilRange representable at *
    omega
  have hrange' : CivilRange (t' / 86400000000) := by
    unfold CivilRange representable at *
    omega
  obtain ⟨hy, hm, hd⟩ := civil_bounds hrange
  obtain ⟨hy', hm', hd'⟩ := civil_bounds hrange'
  obtain ⟨us, hus⟩ : ∃ us, us = (t % 86400000000).toNat := ⟨_, rfl⟩
  obtain ⟨us', hus'⟩ : ∃ us', us' = (t' % 86400000000).toNat := ⟨_, rfl⟩
  have hbound : us < 86400000000 := by omega
  have hbound' : us' < 86400000000 := by omega
  simp only [isoformat, utc, ← hus, ← hus', String.append_assoc] at h
  obtain ⟨hyear, h⟩ := padded_append_inj (by norm_num) hy hy' h
  obtain ⟨hmonth, h⟩ := padded_append_inj (by norm_num) hm hm' ((String.append_right_inj _).mp h)
  obtain ⟨hday, h⟩ := padded_append_inj (by norm_num) hd hd' ((String.append_right_inj _).mp h)
  obtain ⟨hhour, h⟩ := padded_append_inj (by norm_num) (by omega) (by omega)
    ((String.append_right_inj _).mp h)
  obtain ⟨hminute, h⟩ := padded_append_inj (by norm_num) (by omega) (by omega)
    ((String.append_right_inj _).mp h)
  obtain ⟨hsecond, h⟩ := padded_append_inj (by norm_num) (by omega) (by omega)
    ((String.append_right_inj _).mp h)
  have hmicro : us % 1000000 = us' % 1000000 := by
    have h := (String.append_left_inj _).mp h
    split_ifs at h with hz hz' hz'
    · omega
    · exact absurd (congrArg String.toList h) (by simp)
    · exact absurd (congrArg String.toList h) (by simp)
    · exact padded_injective ((String.append_right_inj _).mp h)
  have hdays := civil_injective hrange hrange'
    (Prod.ext hyear (Prod.ext hmonth hday))
  omega

end Datetime

end TracePilot
