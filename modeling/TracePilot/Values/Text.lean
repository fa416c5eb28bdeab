import Mathlib.Tactic

/-!
# Python text

`str` methods and regular expressions depend on the Unicode character database, which differs
between Python versions.  `Unicode` collects what the program reads from it together with the
part that is fixed by ASCII, so that every result holds for whatever version runs.
-/

namespace TracePilot

/-- A property of every character of a text, evaluated along the text. -/
lemma forall_mem_toList {p : Char → Prop} [DecidablePred p] {s : String}
    (h : (s.toList.all fun c => decide (p c)) = true) : ∀ c ∈ s.toList, p c := by
  simpa using h

/-- The ASCII white space of `str.isspace`: tab to carriage return, the four separators, blank. -/
def asciiSpace (c : Char) : Bool :=
  (9 ≤ c.toNat && c.toNat ≤ 13) || (28 ≤ c.toNat && c.toNat ≤ 32)

/-- What Python's text functions read from the Unicode character database, with the values
that every version of it has for ASCII characters. -/
structure Unicode where
  /-- `str.isspace`, and `\s` in a pattern -/
  isSpace : Char → Bool
  /-- `\w` in a pattern -/
  isWord : Char → Bool
  /-- the value of a decimal digit, which is what `\d` matches and `int` reads -/
  digit : Char → Option ℕ
  /-- equality of two characters under `re.IGNORECASE` -/
  sameLetter : Char → Char → Bool
  /-- `str.lower` -/
  lower : String → String
  isSpace_ascii : ∀ c : Char, c.toNat < 128 → isSpace c = asciiSpace c
  isWord_ascii : ∀ c : Char, c.toNat < 128 → isWord c = (c.isAlphanum || c == '_')
  digit_ascii : ∀ c : Char, c.toNat < 128 →
    digit c = if c.isDigit then some (c.toNat - 48) else none
  sameLetter_ascii : ∀ c d : Char, c.toNat < 128 → d.toNat < 128 →
    sameLetter c d = (c.toLower == d.toLower)
  lower_ascii : ∀ s : String, (∀ c ∈ s.toList, c.toNat < 128) →
    lower s = String.ofList (s.toList.map Char.toLower)

namespace Unicode

/-- `str.strip()`. -/
def strip (u : Unicode) (s : String) : String :=
  String.ofList ((s.toList.dropWhile u.isSpace).reverse.dropWhile u.isSpace).reverse

/-- The database cut down to ASCII, where every other character is a letter to no one. -/
def ascii : Unicode where
  isSpace := asciiSpace
  isWord c := c.isAlphanum || c == '_'
  digit c := if c.isDigit then some (c.toNat - 48) else none
  sameLetter c d := c.toLower == d.toLower
  lower s := String.ofList (s.toList.map Char.toLower)
  isSpace_ascii _ _ := rfl
  isWord_ascii _ _ := rfl
  digit_ascii _ _ := rfl
  sameLetter_ascii _ _ _ _ := rfl
  lower_ascii _ _ := rfl

end Unicode

/-- `int(text)` on a string of decimal digits. -/
def pyInt (u : Unicode) (text : List Char) : ℕ :=
  text.foldl (fun n c => 10 * n + (u.digit c).getD 0) 0

/-- The decimal text of a number, padded with zeros on the left to `width` digits. -/
def padded (width n : ℕ) : String :=
  let digits := toString n
  String.ofList (List.replicate (width - digits.length) '0') ++ digits

/-! ## Texts without NUL

PostgreSQL stores no NUL in a text.  Everything the program formats from numbers, identifiers
and instants is free of it; names are not.
-/

/-- The text contains no NUL character. -/
def noNul (s : String) : Bool := s.toList.all (· ≠ '\x00')

@[simp] lemma noNul_append (s t : String) : noNul (s ++ t) = (noNul s && noNul t) := by
  simp [noNul]

lemma noNul_intercalate {sep : String} (hsep : noNul sep = true) :
    ∀ texts : List String, (∀ s ∈ texts, noNul s = true) → noNul (sep.intercalate texts) = true
  | [], _ => by simp [noNul]
  | [s], h => by simpa using h s (by simp)
  | s :: t :: texts, h => by
      have ih := noNul_intercalate hsep (t :: texts) fun x hx => h x (by simp [hx])
      rw [String.intercalate_cons_cons]
      simp [hsep, ih, h s (by simp)]

lemma digitChar_ne_nul {n : ℕ} (h : n < 16) : Nat.digitChar n ≠ '\x00' := by
  interval_cases n <;> decide

/-- Digits in any base up to 16. -/
lemma noNul_toDigits {b : ℕ} (hb : 1 < b) (hb' : b ≤ 16) (n : ℕ) :
    noNul (String.ofList (Nat.toDigits b n)) = true := by
  induction n using Nat.strong_induction_on with
  | _ n ih =>
      rw [Nat.toDigits_eq_if hb]
      split_ifs with h
      · simp [noNul, digitChar_ne_nul (lt_of_lt_of_le h hb')]
      · have hmod : n % b < 16 := lt_of_lt_of_le (Nat.mod_lt n (by omega)) hb'
        have hrec := ih (n / b) (Nat.div_lt_self (by omega) hb)
        simpa [noNul, digitChar_ne_nul hmod] using hrec

lemma noNul_toString (n : ℕ) : noNul (toString n) = true :=
  noNul_toDigits (by norm_num) (by norm_num) n

lemma noNul_toString_int : ∀ n : ℤ, noNul (toString n) = true
  | .ofNat n => noNul_toString n
  | .negSucc n => by
      have h : toString (Int.negSucc n) = "-" ++ toString (n + 1) := rfl
      rw [h, noNul_append, noNul_toString]
      decide

lemma noNul_padded (width n : ℕ) : noNul (padded width n) = true := by
  rw [padded, noNul_append, noNul_toString, Bool.and_true]
  simp [noNul]

end TracePilot
