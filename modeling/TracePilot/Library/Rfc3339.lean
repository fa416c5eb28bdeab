import Mathlib.Tactic

/-!
# Internet timestamps

The `date-time` production of RFC 3339: a date, a time with an optional fraction of any length, and
an offset from UTC, as in `2023-11-14T23:13:25.5+01:00`.

* `parse` — the reader of the notation.  The fields have the ranges of the calendar; the second 60
  is a leap second.
* `Timestamp.instant` — the instant that a timestamp denotes, in seconds since the epoch, exactly.
* **`Timestamp.floor_eq_iff`** — cutting a timestamp to microseconds keeps its instant exactly when
  it has no finer digits.
* **`parse_fields`** — a text whose fields stand at their places is read as the timestamp of these
  fields.
-/

namespace Rfc3339

/-- The fields of a timestamp. -/
structure Timestamp where
  year : ℕ
  month : ℕ
  day : ℕ
  hour : ℕ
  minute : ℕ
  second : ℕ
  /-- the digits behind the decimal point -/
  fraction : List ℕ
  /-- minutes ahead of UTC -/
  offset : ℤ
  deriving DecidableEq

/-! ## The notation -/

def isLeapYear (year : ℕ) : Bool := year % 4 = 0 ∧ (year % 100 ≠ 0 ∨ year % 400 = 0)

def daysInMonth (year month : ℕ) : ℕ :=
  if month = 2 then if isLeapYear year then 29 else 28
  else if month ∈ [4, 6, 9, 11] then 30 else 31

/-- The ranges of the fields. -/
def Timestamp.inRange (t : Timestamp) : Bool :=
  (1 ≤ t.month ∧ t.month ≤ 12) ∧ (1 ≤ t.day ∧ t.day ≤ daysInMonth t.year t.month)
    ∧ t.hour ≤ 23 ∧ t.minute ≤ 59 ∧ t.second ≤ 60

/-- The number at a place of a text. -/
def digitsAt (text : List Char) (start width : ℕ) : Option ℕ :=
  let digits := (text.drop start).take width
  if digits.length = width ∧ digits.all Char.isDigit then some (Nat.ofDigitChars 10 digits 0)
  else none

/-- The digits of a fraction, and what follows. -/
def parseFraction : List Char → Option (List ℕ × List Char)
  | '.' :: rest =>
      let digits := rest.takeWhile Char.isDigit
      if digits = [] then none
      else some (digits.map fun c => c.toNat - 48, rest.dropWhile Char.isDigit)
  | rest => some ([], rest)

/-- `Z`, or a sign, hours and minutes. -/
def parseOffset (text : List Char) : Option ℤ :=
  if text = ['Z'] ∨ text = ['z'] then some 0
  else do
    let hours ← digitsAt text 1 2
    let minutes ← digitsAt text 4 2
    if text.length ≠ 6 ∨ text[3]? ≠ some ':' ∨ 23 < hours ∨ 59 < minutes then none
    else if text[0]? = some '+' then some (hours * 60 + minutes)
    else if text[0]? = some '-' then some (-(hours * 60 + minutes))
    else none

/-- The separators between the fields stand where they should. -/
def separated (text : List Char) : Bool :=
  text[4]? = some '-' ∧ text[7]? = some '-' ∧ (text[10]? = some 'T' ∨ text[10]? = some 't')
    ∧ text[13]? = some ':' ∧ text[16]? = some ':'

/-- **The reader of timestamps.** -/
def parse (text : String) : Option Timestamp := do
  let text := text.toList
  let year ← digitsAt text 0 4
  let month ← digitsAt text 5 2
  let day ← digitsAt text 8 2
  let hour ← digitsAt text 11 2
  let minute ← digitsAt text 14 2
  let second ← digitsAt text 17 2
  let (fraction, rest) ← parseFraction (text.drop 19)
  let offset ← parseOffset rest
  let t : Timestamp := ⟨year, month, day, hour, minute, second, fraction, offset⟩
  if separated text ∧ t.inRange then some t else none

/-! ## The meaning -/

/-- The number of a day of the proleptic Gregorian calendar, counted from the epoch. -/
def dayNumber (year month day : ℕ) : ℤ :=
  let y : ℤ := if month ≤ 2 then year - 1 else year
  let era := y / 400
  let yearOfEra := y % 400
  let dayOfYear : ℤ := (153 * ((month + 9) % 12) + 2) / 5 + day - 1
  era * 146097 + (yearOfEra * 365 + yearOfEra / 4 - yearOfEra / 100 + dayOfYear) - 719468

namespace Timestamp

variable (t : Timestamp)

/-- The whole seconds of the clock that the timestamp was read from, counted from its epoch. -/
def seconds : ℤ := dayNumber t.year t.month t.day * 86400 + t.hour * 3600 + t.minute * 60 + t.second

/-- The fraction of the second. -/
def subsecond : ℚ := t.fraction.foldr (fun digit rest => (digit + rest) / 10) 0

/-- **The instant**, in seconds since the epoch. -/
def instant : ℚ := t.seconds - t.offset * 60 + t.subsecond

/-- The microseconds of the fraction, cut off. -/
def microsecond : ℤ := ⌊t.subsecond * 1000000⌋

/-- The fraction is a whole number of microseconds. -/
def WholeMicroseconds : Prop := (t.microsecond : ℚ) = t.subsecond * 1000000

instance : Decidable t.WholeMicroseconds := by
  unfold WholeMicroseconds
  infer_instance

/-- **Cutting to microseconds** keeps the instant exactly when there is nothing to cut. -/
theorem floor_eq_iff :
    ((t.seconds * 1000000 + t.microsecond - t.offset * 60 * 1000000 : ℤ) : ℚ) = t.instant * 1000000
      ↔ t.WholeMicroseconds := by
  rw [WholeMicroseconds, instant]
  push_cast
  constructor
  · intro h
    linarith
  · intro h
    rw [h]
    ring

end Timestamp

/-- The same instant in two time zones, a fraction that is finer than microseconds, and a leap
second. -/
example : (parse "2023-11-14T22:13:25Z").map Timestamp.instant = some 1700000005
    ∧ (parse "2023-11-14t23:13:25.500+01:00").map Timestamp.instant = some (1700000005 + 1 / 2)
    ∧ ((parse "2023-11-14T22:13:25.0000001Z").map fun t => t.microsecond) = some 0
    ∧ ((parse "2016-12-31T23:59:60Z").map fun t => t.second) = some 60
    ∧ parse "2023-02-29T00:00:00Z" = none ∧ parse "2023-11-14 22:13:25" = none := by
  decide +kernel

/-! ## Texts that are read -/

/-- The text of a number that takes `width` digits. -/
structure FieldText (width n : ℕ) (text : List Char) : Prop where
  length : text.length = width
  digits : text.all Char.isDigit = true
  value : Nat.ofDigitChars 10 text 0 = n

lemma digitsAt_field {width n : ℕ} {field : List Char} (h : FieldText width n field)
    (before after : List Char) :
    digitsAt (before ++ (field ++ after)) before.length width = some n := by
  have htake : ((before ++ (field ++ after)).drop before.length).take width = field := by
    rw [List.drop_left, ← h.length, List.take_left]
  simp only [digitsAt, htake, h.length, h.digits, h.value, and_self, if_true]

/-- No fraction. -/
lemma parseFraction_none {rest : List Char} (hrest : rest.head? ≠ some '.') :
    parseFraction rest = some ([], rest) := by
  cases rest with
  | nil => rfl
  | cons c rest =>
      have hc : c ≠ '.' := by simpa using hrest
      rw [parseFraction]
      simpa using hc

/-- A fraction ends before what is not a digit. -/
lemma parseFraction_digits {digits rest : List Char} (hne : digits ≠ [])
    (hdigits : digits.all Char.isDigit = true)
    (hrest : (rest.head?.all fun c => !c.isDigit) = true) :
    parseFraction ('.' :: (digits ++ rest))
      = some (digits.map fun c => c.toNat - 48, rest) := by
  have hall : ∀ c ∈ digits, Char.isDigit c = true := List.all_eq_true.mp hdigits
  have hstop : rest.takeWhile Char.isDigit = [] ∧ rest.dropWhile Char.isDigit = rest := by
    cases rest with
    | nil => exact ⟨rfl, rfl⟩
    | cons c rest =>
        have hc : Char.isDigit c = false := by simpa using hrest
        simp [hc]
  simp only [parseFraction, List.takeWhile_append_of_pos hall, List.dropWhile_append_of_pos hall,
    hstop, List.append_nil, hne, if_false]

/-- The value of a fraction is that of its digits, scaled by their number. -/
lemma Timestamp.subsecond_digits {t : Timestamp} {digits : List Char}
    (h : t.fraction = digits.map fun c => c.toNat - 48) :
    t.subsecond = Nat.ofDigitChars 10 digits 0 / 10 ^ digits.length := by
  have hcast : (do let digit ← t.fraction; pure (digit : ℚ))
      = t.fraction.map fun digit : ℕ => (digit : ℚ) :=
    List.map_eq_flatMap.symm
  rw [Timestamp.subsecond, hcast, h]
  clear h hcast
  induction digits with
  | nil => simp
  | cons c digits ih =>
      have hvalue : Nat.ofDigitChars 10 (c :: digits) 0
          = 10 ^ digits.length * (c.toNat - 48) + Nat.ofDigitChars 10 digits 0 := by
        rw [Nat.ofDigitChars_cons, Nat.ofDigitChars_eq_ofDigitChars_zero]
        simp
      rw [List.map_cons, List.map_cons, List.foldr_cons, ih, hvalue, List.length_cons, pow_succ]
      push_cast
      field_simp

/-- **A text with its fields at their places** is read as the timestamp of these fields. -/
theorem parse_fields {t : Timestamp} {year month day hour minute second tail rest : List Char}
    (hyear : FieldText 4 t.year year) (hmonth : FieldText 2 t.month month)
    (hday : FieldText 2 t.day day) (hhour : FieldText 2 t.hour hour)
    (hminute : FieldText 2 t.minute minute) (hsecond : FieldText 2 t.second second)
    (hfraction : parseFraction tail = some (t.fraction, rest))
    (hoffset : parseOffset rest = some t.offset) (hrange : t.inRange = true) :
    parse (String.ofList (year ++ '-' :: (month ++ '-' :: (day ++ 'T' :: (hour ++ ':' ::
      (minute ++ ':' :: (second ++ tail))))))) = some t := by
  -- the separators and the six places, with the digits named
  obtain ⟨y₁, y₂, y₃, y₄, rfl⟩ := List.length_eq_four.mp hyear.length
  obtain ⟨m₁, m₂, rfl⟩ := List.length_eq_two.mp hmonth.length
  obtain ⟨d₁, d₂, rfl⟩ := List.length_eq_two.mp hday.length
  obtain ⟨h₁, h₂, rfl⟩ := List.length_eq_two.mp hhour.length
  obtain ⟨n₁, n₂, rfl⟩ := List.length_eq_two.mp hminute.length
  obtain ⟨s₁, s₂, rfl⟩ := List.length_eq_two.mp hsecond.length
  have hyear' := digitsAt_field hyear []
  have hmonth' := digitsAt_field hmonth [y₁, y₂, y₃, y₄, '-']
  have hday' := digitsAt_field hday [y₁, y₂, y₃, y₄, '-', m₁, m₂, '-']
  have hhour' := digitsAt_field hhour [y₁, y₂, y₃, y₄, '-', m₁, m₂, '-', d₁, d₂, 'T']
  have hminute' := digitsAt_field hminute
    [y₁, y₂, y₃, y₄, '-', m₁, m₂, '-', d₁, d₂, 'T', h₁, h₂, ':']
  have hsecond' := digitsAt_field hsecond
    [y₁, y₂, y₃, y₄, '-', m₁, m₂, '-', d₁, d₂, 'T', h₁, h₂, ':', n₁, n₂, ':']
  simp only [List.length_cons, List.length_nil, List.cons_append, List.nil_append, Nat.zero_add,
    Nat.reduceAdd] at hyear' hmonth' hday' hhour' hminute' hsecond'
  simp only [parse, String.toList_ofList, List.cons_append, List.nil_append, hyear', hmonth', hday',
    hhour', hminute', hsecond', List.drop_succ_cons, List.drop_zero, hfraction, hoffset,
    Option.bind_eq_bind, Option.bind_some]
  exact if_pos ⟨rfl, hrange⟩

end Rfc3339
