import TracePilot.Backend.Evidence

/-!
# Letter case in citations

The pattern of a citation takes hexadecimal digits of either case, and the check compares the texts
it captured with the texts of the allowed ids, which `str` writes in lower case.

* `Recased` — other letter cases in the ids that a report cites, and nothing else.
* **`Recased.cited`** — such a report cites the same ids, up to letter case.
* **`comparedAsUuids_iff`** — when the check compares citations as identifiers.
-/

namespace TracePilot

/-! ## Hexadecimal digits -/

/-- Two characters of an id that are the same up to letter case. -/
structure SameHexDigit (c d : Char) : Prop where
  left : isHexOrDash c = true
  right : isHexOrDash d = true
  lower : c.toLower = d.toLower

/-- A letter: it has two cases. -/
def isLetter (c : Char) : Bool := c.toLower ≠ c.toUpper

/-- The characters of an id are ASCII, so a property of them can be evaluated. -/
lemma forall_hexOrDash {p : Char → Prop}
    (h : ∀ n < 128, isHexOrDash (Char.ofNat n) = true → p (Char.ofNat n)) {c : Char}
    (hc : isHexOrDash c = true) : p c := by
  have hascii : c.toNat < 128 := by
    have hval : c.val.toNat = c.toNat := rfl
    have hclass := hc
    simp only [isHexOrDash, Char.isDigit, Bool.or_eq_true, Bool.and_eq_true, decide_eq_true_eq,
      beq_iff_eq, Char.le_def, UInt32.le_iff_toNat_le] at hclass
    rcases hclass with ((⟨-, hle⟩ | ⟨-, hle⟩) | ⟨-, hle⟩) | rfl
    · exact lt_of_le_of_lt hle (by decide)
    · exact lt_of_le_of_lt hle (by decide)
    · exact lt_of_le_of_lt hle (by decide)
    · decide
  have hcase := h c.toNat hascii
  rw [Char.ofNat_toNat] at hcase
  exact hcase hc

namespace SameHexDigit

lemma refl {c : Char} (hc : isHexOrDash c = true) : SameHexDigit c c := ⟨hc, hc, rfl⟩

lemma symm {c d : Char} (h : SameHexDigit c d) : SameHexDigit d c := ⟨h.right, h.left, h.lower.symm⟩

lemma toLower {c : Char} (hc : isHexOrDash c = true) : SameHexDigit c c.toLower := by
  refine forall_hexOrDash (p := fun c => SameHexDigit c c.toLower) (fun n hn hc => ⟨hc, ?_, ?_⟩) hc
  · revert n
    decide
  · revert n
    decide

lemma toUpper {c : Char} (hc : isHexOrDash c = true) : SameHexDigit c c.toUpper := by
  refine forall_hexOrDash (p := fun c => SameHexDigit c c.toUpper) (fun n hn hc => ⟨hc, ?_, ?_⟩) hc
  · revert n
    decide
  · revert n
    decide

end SameHexDigit

/-- The text of an id in lower case. -/
def lowered (id : String) : String := String.ofList (id.toList.map Char.toLower)

/-- The text of an id in upper case. -/
def raised (id : String) : String := String.ofList (id.toList.map Char.toUpper)

@[simp] lemma toList_lowered (id : String) : (lowered id).toList = id.toList.map Char.toLower :=
  String.toList_ofList

@[simp] lemma toList_raised (id : String) : (raised id).toList = id.toList.map Char.toUpper :=
  String.toList_ofList

lemma bracket_not_mem {c : Char} (hc : isHexOrDash c = false) {id : List Char}
    (h : ∀ d ∈ id, isHexOrDash d = true) : c ∉ id := by
  intro hmem
  rw [h c hmem] at hc
  cases hc

/-- Two texts of an id that are the same up to letter case. -/
def SameId (id id' : List Char) : Prop := List.Forall₂ SameHexDigit id id'

namespace SameId

variable {id id' : List Char}

lemma left (h : SameId id id') : ∀ c ∈ id, isHexOrDash c = true := by
  intro c hc
  obtain ⟨i, hi, rfl⟩ := List.getElem_of_mem hc
  exact (h.get hi (h.length_eq ▸ hi)).left

lemma symm (h : SameId id id') : SameId id' id := List.Forall₂.flip (h.imp fun _ _ h => h.symm)

lemma right (h : SameId id id') : ∀ c ∈ id', isHexOrDash c = true := h.symm.left

lemma map_toLower (h : SameId id id') : id.map Char.toLower = id'.map Char.toLower := by
  induction h with
  | nil => rfl
  | cons h _ ih => rw [List.map_cons, List.map_cons, h.lower, ih]

lemma refl (h : ∀ c ∈ id, isHexOrDash c = true) : SameId id id := by
  refine List.forall₂_same.mpr fun c hc => SameHexDigit.refl (h c hc)

/-- Changing every digit of an id. -/
lemma map {f : Char → Char} (hf : ∀ {c}, isHexOrDash c = true → SameHexDigit c (f c))
    (h : ∀ c ∈ id, isHexOrDash c = true) : SameId id (id.map f) := by
  induction id with
  | nil => exact .nil
  | cons c id ih => exact .cons (hf (h c (by simp))) (ih fun d hd => h d (by simp [hd]))

end SameId

/-! ## Reports that differ in the case of their citations -/

/-- `Recased s t`: `t` is `s` with other letter cases in the ids it cites. -/
inductive Recased : List Char → List Char → Prop
  | nil : Recased [] []
  | char (c : Char) {s t : List Char} (rest : Recased s t) : Recased (c :: s) (c :: t)
  | citation {id id' s t : List Char} (hlength : id.length = 36)
      (hsame : SameId id id') (rest : Recased s t) :
      Recased (citationOpening ++ id ++ ']' :: s) (citationOpening ++ id' ++ ']' :: t)

namespace Recased

variable {s t : List Char}

lemma refl (s : List Char) : Recased s s := by
  induction s with
  | nil => exact .nil
  | cons c s ih => exact .char c ih

lemma append (before : List Char) (h : Recased s t) : Recased (before ++ s) (before ++ t) := by
  induction before with
  | nil => exact h
  | cons c before ih => exact .char c ih

lemma symm (h : Recased s t) : Recased t s := by
  induction h with
  | nil => exact .nil
  | char c rest ih => exact .char c ih
  | citation hlength hsame rest ih =>
      exact .citation (hsame.length_eq ▸ hlength) hsame.symm ih

/-- A stretch without `[` is the same in both. -/
lemma of_append {w u : List Char} (hw : '[' ∉ w) :
    ∀ {s : List Char}, Recased s (w ++ u) → ∃ v, s = w ++ v ∧ Recased v u := by
  induction w with
  | nil => exact fun h => ⟨_, rfl, h⟩
  | cons c w ih =>
      intro s h
      obtain ⟨hc, hw⟩ : '[' ≠ c ∧ '[' ∉ w := by simpa using hw
      obtain ⟨word, hopening, -⟩ := citationOpening_eq
      generalize ht : c :: w ++ u = t at h
      cases h with
      | nil => cases ht
      | char d rest =>
          obtain ⟨rfl, rfl⟩ := List.cons.inj ht
          obtain ⟨v, rfl, hv⟩ := ih hw rest
          exact ⟨v, rfl, hv⟩
      | citation hlength hsame rest =>
          rw [hopening] at ht
          exact absurd (List.cons.inj ht).1.symm hc

end Recased

/-- Behind its first character a citation has no `[`. -/
lemma bracket_not_mem_citation {word id : List Char} (hword : ∀ c ∈ word, c ≠ '[')
    (hid : ∀ c ∈ id, isHexOrDash c = true) : '[' ∉ word ++ id ++ [']'] := by
  simp only [List.mem_append, not_or]
  exact ⟨⟨fun hc => hword _ hc rfl, bracket_not_mem (by decide) hid⟩, by decide⟩

section Occurrences

variable {before id id' after s t : List Char} (hid' : ∀ c ∈ id', isHexOrDash c = true)

include hid'

/-- Where a citation is followed by a text, another one is the same or begins in that text. -/
lemma occurrence_of_citation (hid : ∀ c ∈ id, isHexOrDash c = true)
    (h : citationOpening ++ id ++ ']' :: t = before ++ citationOpening ++ id' ++ ']' :: after) :
    id = id' ∨ ∃ before', t = before' ++ citationOpening ++ id' ++ ']' :: after := by
  obtain ⟨word, hopening, hword⟩ := citationOpening_eq
  cases before with
  | nil =>
      have hids : id ++ ']' :: t = id' ++ ']' :: after := by simpa [hopening] using h
      exact Or.inl (eq_of_append_bracket (bracket_not_mem (by decide) hid)
        (bracket_not_mem (by decide) hid') hids)
  | cons c before =>
      rw [hopening] at h
      have htail : word ++ id ++ [']'] ++ t = before ++ '[' :: (word ++ id' ++ ']' :: after) := by
        simpa using (List.cons.inj h).2
      obtain ⟨before', rfl⟩ := exists_eq_append_of_bracket (bracket_not_mem_citation hword hid) htail
      exact Or.inr ⟨before', by simp [hopening]⟩

/-- Where a character is followed by a text, a citation begins at the character, in both reports, or
in that text. -/
lemma Recased.occurrence_of_char (rest : Recased s t) {c : Char}
    (h : c :: t = before ++ citationOpening ++ id' ++ ']' :: after) :
    (∃ after', c :: s = citationOpening ++ id' ++ ']' :: after')
      ∨ ∃ before', t = before' ++ citationOpening ++ id' ++ ']' :: after := by
  obtain ⟨word, hopening, hword⟩ := citationOpening_eq
  cases before with
  | cons d before => exact Or.inr ⟨before, (List.cons.inj h).2⟩
  | nil =>
      rw [hopening] at h ⊢
      obtain ⟨rfl, h⟩ := List.cons.inj h
      obtain rfl : t = word ++ id' ++ [']'] ++ after := by simpa using h
      obtain ⟨after', rfl, -⟩ := rest.of_append (bracket_not_mem_citation hword hid')
      exact Or.inl ⟨after', by simp⟩

/-- **What `t` cites, `s` cites up to letter case.** -/
lemma Recased.occurrence (h : Recased s t) :
    ∀ {before : List Char}, t = before ++ citationOpening ++ id' ++ ']' :: after →
      ∃ before' id after', s = before' ++ citationOpening ++ id ++ ']' :: after' ∧ SameId id id' := by
  induction h with
  | nil =>
      obtain ⟨word, hopening, -⟩ := citationOpening_eq
      intro before ht
      simp [hopening] at ht
  | char c rest ih =>
      intro before ht
      rcases rest.occurrence_of_char hid' ht with ⟨after', hs⟩ | ⟨before', ht⟩
      · exact ⟨[], id', after', hs, SameId.refl hid'⟩
      · obtain ⟨before, id, after', rfl, hsame⟩ := ih ht
        exact ⟨c :: before, id, after', rfl, hsame⟩
  | @citation id id₂ s t hlength hsame rest ih =>
      intro before ht
      rcases occurrence_of_citation hid' hsame.right ht with rfl | ⟨before', ht⟩
      · exact ⟨[], id, s, rfl, hsame⟩
      · obtain ⟨before, id₀, after', rfl, hsame₀⟩ := ih ht
        exact ⟨citationOpening ++ id ++ ']' :: before, id₀, after', by simp, hsame₀⟩

end Occurrences

/-- **The ids that two such reports cite are the same up to letter case.** -/
theorem Recased.cited {report report' : String} (h : Recased report.toList report'.toList)
    {id' : String} (hid' : id' ∈ citedIds report') :
    ∃ id ∈ citedIds report, SameId id.toList id'.toList := by
  obtain ⟨⟨hlength, hall⟩, before, after, ht⟩ := hid'
  obtain ⟨before', id, after', hs, hsame⟩ := h.occurrence hall ht
  refine ⟨String.ofList id, ⟨⟨?_, ?_⟩, before', after', by simpa using hs⟩, by simpa using hsame⟩
  · rw [String.toList_ofList, hsame.length_eq, hlength]
  · rw [String.toList_ofList]
    exact hsame.left

/-- The report with its citations in lower case. -/
lemma exists_recased_lowered (s : List Char) :
    ∃ t, Recased s t ∧ ∀ before id after, t = before ++ citationOpening ++ id ++ ']' :: after →
      id.length = 36 → (∀ c ∈ id, isHexOrDash c = true) → id.map Char.toLower = id := by
  induction hn : s.length using Nat.strong_induction_on generalizing s with
  | _ n ih =>
      by_cases hcitation : ∃ id rest, s = citationOpening ++ id ++ ']' :: rest ∧ id.length = 36
          ∧ ∀ c ∈ id, isHexOrDash c = true
      · obtain ⟨id, rest, rfl, hlength, hall⟩ := hcitation
        obtain ⟨t, hrest, ht⟩ := ih rest.length (by simp [← hn]; omega) rest rfl
        have hsame : SameId id (id.map Char.toLower) := SameId.map SameHexDigit.toLower hall
        refine ⟨_, .citation hlength hsame hrest, fun before id₀ after h hlength₀ hall₀ => ?_⟩
        rcases occurrence_of_citation hall₀ hsame.right h with rfl | ⟨before', h⟩
        · exact hsame.map_toLower.symm
        · exact ht before' id₀ after h hlength₀ hall₀
      · cases s with
        | nil =>
            obtain ⟨word, hopening, -⟩ := citationOpening_eq
            exact ⟨[], .nil, fun before id after h => by simp [hopening] at h⟩
        | cons c s =>
            obtain ⟨t, hrest, ht⟩ := ih s.length (by simp [← hn]) s rfl
            refine ⟨c :: t, .char c hrest, fun before id after h hlength hall => ?_⟩
            rcases hrest.occurrence_of_char hall h with ⟨after', hs⟩ | ⟨before', h⟩
            · exact absurd ⟨id, after', hs, hlength, hall⟩ hcitation
            · exact ht before' id after h hlength hall

/-- The report with one of its citations in upper case. -/
lemma exists_recased_raised {report id : String} (h : id ∈ citedIds report) :
    ∃ report' : String, Recased report.toList report'.toList ∧ raised id ∈ citedIds report' := by
  obtain ⟨⟨hlength, hall⟩, before, after, hs⟩ := h
  have hsame : SameId id.toList (raised id).toList := by
    rw [toList_raised]
    exact SameId.map SameHexDigit.toUpper hall
  refine ⟨String.ofList (before ++ (citationOpening ++ (raised id).toList ++ ']' :: after)), ?_,
    ⟨by rw [← hsame.length_eq, hlength], hsame.right⟩, before, after, by simp⟩
  rw [hs, String.toList_ofList, List.append_assoc, List.append_assoc]
  refine Recased.append before ?_
  rw [← List.append_assoc]
  exact .citation hlength hsame (.refl after)

/-! ## Citations as identifiers -/

/-- `invented_event_ids`. -/
def inventedEventIds (report : String) (allowed : Finset String) : List String :=
  (citedEventIds report).filter fun id => id ∉ allowed

lemma mem_inventedEventIds {report id : String} {allowed : Finset String} :
    id ∈ inventedEventIds report allowed ↔ id ∈ citedIds report ∧ id ∉ allowed := by
  rw [inventedEventIds, List.mem_filter, mem_citedEventIds, decide_eq_true_eq]
  rfl

/-- The check compares citations as identifiers: letter case decides nothing, and no citation of an
allowed id is listed as invented. -/
structure ComparedAsUuids (report : String) (allowed : Finset String) : Prop where
  caseBlind : ∀ report' : String, Recased report.toList report'.toList →
    (validateReportEvidence report' allowed = .ok () ↔ validateReportEvidence report allowed = .ok ())
  returned : ∀ id ∈ citedIds report, lowered id ∈ allowed → id ∉ inventedEventIds report allowed

/-- No character of the text is a letter. -/
def LetterFree (id : String) : Prop := ∀ c ∈ id.toList, isLetter c = false

/-- The text of an identifier is in lower case. -/
lemma lowered_str (id : Uuid) : lowered id.str = id.str := by
  have hdigit : ∀ n < 16, (Nat.digitChar n).toLower = Nat.digitChar n := by decide
  refine String.toList_inj.mp ?_
  rw [toList_lowered]
  refine (List.map_congr_left fun c hc => ?_).trans (List.map_id _)
  rcases Uuid.mem_str hc with rfl | ⟨n, hn, rfl⟩
  · decide
  · exact hdigit n hn

/-- The only text of an id without letters is itself. -/
lemma SameId.eq_of_letterFree {id id' : List Char} (h : SameId id id')
    (hfree : ∀ c ∈ id, isLetter c = false) : id = id' := by
  have hlower : ∀ {c}, isHexOrDash c = true → isLetter c = false → c.toLower = c :=
    fun hc => forall_hexOrDash (p := fun c => isLetter c = false → c.toLower = c) (by decide) hc
  have hraise : ∀ {c}, isHexOrDash c = true → isLetter c.toLower = false → c = c.toLower :=
    fun hc => forall_hexOrDash (p := fun c => isLetter c.toLower = false → c = c.toLower)
      (by decide) hc
  induction h with
  | nil => rfl
  | @cons c d id id' hcd h ih =>
      have hc : isLetter c = false := hfree c (by simp)
      have hdc : d.toLower = c := hcd.lower.symm.trans (hlower hcd.left hc)
      have hd : d = d.toLower := hraise hcd.right (hdc ▸ hc)
      rw [hd, hdc, ih fun e he => hfree e (by simp [he])]

lemma raised_ne {id : String} (hid : IsEventId id) (h : ¬ LetterFree id) :
    lowered (raised id) ≠ raised id := by
  obtain ⟨c, hc, hletter⟩ : ∃ c ∈ id.toList, isLetter c = true := by
    simpa [LetterFree] using h
  intro heq
  have hsame : SameHexDigit c c.toUpper := .toUpper (hid.2 c hc)
  have hupper : c.toUpper ∈ (raised id).toList := by
    rw [toList_raised]
    exact List.mem_map_of_mem hc
  have hall : ∀ d ∈ (raised id).toList, d.toLower = d := by
    have hlist := congrArg String.toList heq
    rw [toList_lowered] at hlist
    exact List.map_eq_map_iff.mp (hlist.trans (List.map_id _).symm)
  have hcase : c.toLower = c.toUpper := hsame.lower.trans (hall _ hupper)
  simp [isLetter, hcase] at hletter

section ComparedAsUuids

variable {report : String} {allowed : Finset String}

/-- Acceptance depends on the cited ids only. -/
lemma validate_congr {report' : String} (h : citedIds report' = citedIds report) :
    validateReportEvidence report' allowed = .ok ()
      ↔ validateReportEvidence report allowed = .ok () := by
  rw [(validateReportEvidence_decides report' allowed).1, h,
    (validateReportEvidence_decides report allowed).1]

/-- Without letters, other letter cases are the same report. -/
lemma citedIds_of_letterFree (hfree : ∀ id ∈ citedIds report, LetterFree id) {report' : String}
    (h : Recased report.toList report'.toList) : citedIds report' = citedIds report := by
  refine Set.Subset.antisymm (fun id' hid' => ?_) fun id hid => ?_
  · obtain ⟨id, hid, hsame⟩ := h.cited hid'
    rwa [← String.toList_inj.mp (hsame.eq_of_letterFree (hfree id hid))]
  · obtain ⟨id', hid', hsame⟩ := h.symm.cited hid
    rwa [String.toList_inj.mp (hsame.symm.eq_of_letterFree (hfree id hid))]

/-- A report whose citations all name allowed ids is accepted in lower case. -/
lemma exists_accepted (h : ∀ id ∈ citedIds report, lowered id ∈ allowed)
    (hcites : (citedIds report).Nonempty) :
    ∃ report' : String, Recased report.toList report'.toList
      ∧ validateReportEvidence report' allowed = .ok () := by
  obtain ⟨t, hrecased, hlower⟩ := exists_recased_lowered report.toList
  have hreport : Recased report.toList (String.ofList t).toList := by rwa [String.toList_ofList]
  refine ⟨String.ofList t, hreport, ?_⟩
  rw [(validateReportEvidence_decides _ allowed).1]
  constructor
  · intro id' hid'
    obtain ⟨id, hid, hsame⟩ := hreport.cited hid'
    obtain ⟨⟨hlength, hall⟩, before, after, ht⟩ := hid'
    rw [String.toList_ofList] at ht
    have hself : id'.toList.map Char.toLower = id'.toList := hlower before _ after ht hlength hall
    have hid'' : lowered id = id' := by
      refine String.toList_inj.mp ?_
      rw [toList_lowered, hsame.map_toLower, hself]
    exact hid'' ▸ h id hid
  · obtain ⟨id, hid⟩ := hcites
    obtain ⟨id', hid', -⟩ := hreport.symm.cited hid
    exact Or.inr ⟨id', hid'⟩

variable (hallowed : ∀ id ∈ allowed, lowered id = id)

include hallowed

/-- A report with a letter in a citation is rejected in upper case. -/
lemma exists_rejected {id : String} (hid : id ∈ citedIds report) (hletter : ¬ LetterFree id) :
    ∃ report' : String, Recased report.toList report'.toList
      ∧ validateReportEvidence report' allowed ≠ .ok () := by
  obtain ⟨report', hrecased, hraised⟩ := exists_recased_raised hid
  refine ⟨report', hrecased, fun hok => ?_⟩
  have hmem := ((validateReportEvidence_decides report' allowed).1.mp hok).1 hraised
  exact raised_ne hid.1 hletter (hallowed _ hmem)

/-- A report with a citation of no allowed id is rejected in any case. -/
lemma rejected_of_foreign {id : String} (hid : id ∈ citedIds report) (hforeign : lowered id ∉ allowed)
    {report' : String} (h : Recased report.toList report'.toList) :
    validateReportEvidence report' allowed ≠ .ok () := by
  intro hok
  obtain ⟨id', hid', hsame⟩ := h.symm.cited hid
  have hmem : id' ∈ allowed := ((validateReportEvidence_decides report' allowed).1.mp hok).1 hid'
  have hlower : lowered id' = lowered id := by
    refine String.toList_inj.mp ?_
    rw [toList_lowered, toList_lowered, hsame.map_toLower]
  rw [← hlower, hallowed id' hmem] at hforeign
  exact hforeign hmem

omit hallowed

/-- **When citations are compared as identifiers**: the cited ids have no letters; or one of them is
no allowed id in lower case either, and those that are one are written in lower case. -/
theorem comparedAsUuids_iff (report : String) {allowed : Finset String}
    (hallowed : ∀ text ∈ allowed, ∃ id : Uuid, text = id.str) :
    ComparedAsUuids report allowed
      ↔ (∀ id ∈ citedIds report, LetterFree id)
        ∨ (∃ id ∈ citedIds report, lowered id ∉ allowed)
          ∧ ∀ id ∈ citedIds report, lowered id ∈ allowed → lowered id = id := by
  have hlower : ∀ text ∈ allowed, lowered text = text := by
    intro text htext
    obtain ⟨id, rfl⟩ := hallowed text htext
    exact lowered_str id
  constructor
  · intro h
    by_cases hfree : ∀ id ∈ citedIds report, LetterFree id
    · exact Or.inl hfree
    refine Or.inr ⟨?_, fun id hid hmem => ?_⟩
    · obtain ⟨id, hid, hletter⟩ : ∃ id ∈ citedIds report, ¬ LetterFree id := by
        simpa using hfree
      by_contra hnone
      have hall : ∀ id ∈ citedIds report, lowered id ∈ allowed := by simpa using hnone
      obtain ⟨accepted, haccepted, hok⟩ := exists_accepted hall ⟨id, hid⟩
      obtain ⟨rejected, hrejected, hno⟩ := exists_rejected hlower hid hletter
      exact hno ((h.caseBlind rejected hrejected).mpr ((h.caseBlind accepted haccepted).mp hok))
    · have hmem' : id ∈ allowed := by
        by_contra hnot
        exact h.returned id hid hmem (mem_inventedEventIds.mpr ⟨hid, hnot⟩)
      exact hlower id hmem'
  · rintro (hfree | ⟨⟨id, hid, hforeign⟩, hcase⟩)
    · refine ⟨fun report' h => validate_congr (citedIds_of_letterFree hfree h), fun id hid hmem => ?_⟩
      have hsame : SameId id.toList (lowered id).toList := by
        rw [toList_lowered]
        exact SameId.map SameHexDigit.toLower hid.1.2
      have hself : id = lowered id := String.toList_inj.mp (hsame.eq_of_letterFree (hfree id hid))
      exact fun hinvented => (mem_inventedEventIds.mp hinvented).2 (hself.symm ▸ hmem)
    · refine ⟨fun report' h => iff_of_false (rejected_of_foreign hlower hid hforeign h)
        (rejected_of_foreign hlower hid hforeign (.refl _)), fun id hid hmem => ?_⟩
      exact fun hinvented => (mem_inventedEventIds.mp hinvented).2 (hcase id hid hmem ▸ hmem)

end ComparedAsUuids

/-- An id of the sample reports, with letters. -/
def letteredId : Uuid := 0xabcdef00000000000000000000000007

/-- A report that cites it as `str` writes it. -/
def letteredReport : String := "[event:abcdef00-0000-0000-0000-000000000007]"

theorem comparedAsUuids_iff_lettered :
    ComparedAsUuids letteredReport {letteredId.str}
      ↔ (∀ id ∈ citedIds letteredReport, LetterFree id)
        ∨ (∃ id ∈ citedIds letteredReport, lowered id ∉ ({letteredId.str} : Finset String))
          ∧ ∀ id ∈ citedIds letteredReport, lowered id ∈ ({letteredId.str} : Finset String) →
            lowered id = id :=
  comparedAsUuids_iff _ fun _ htext => ⟨letteredId, Finset.mem_singleton.mp htext⟩

/-- The id of a returned event, cited in upper case, is listed as invented. -/
theorem not_comparedAsUuids_raised :
    ¬ ComparedAsUuids "[event:ABCDEF00-0000-0000-0000-000000000007]" {letteredId.str} := by
  intro h
  have hid : "ABCDEF00-0000-0000-0000-000000000007"
      ∈ citedIds "[event:ABCDEF00-0000-0000-0000-000000000007]" :=
    ⟨⟨rfl, forall_mem_toList (by decide)⟩, [], [], by decide⟩
  refine h.returned _ hid (by decide) (mem_inventedEventIds.mpr ⟨hid, by decide⟩)

end TracePilot
