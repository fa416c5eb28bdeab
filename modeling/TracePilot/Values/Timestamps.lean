import TracePilot.Library.Rfc3339
import TracePilot.Values.Readback

/-!
# Instants, read back from their texts

Both the collector and the simulator send an instant as `isoformat()`, and the API reads an RFC 3339
timestamp.  The two notations were written separately: the first has Python's calendar, the second
its own ranges for the days of a month.

* **`Datetime.parse_isoformat`** — the text of every instant in UTC is a timestamp, with the fields
  that `isoformat` wrote.
* **`Datetime.fields_instant`** — these fields denote the instant, to the microsecond.
-/

namespace TracePilot

open Rfc3339

/-- A padded number is a field. -/
lemma fieldText_padded {width n : ℕ} (hwidth : 0 < width) (hn : n < 10 ^ width) :
    FieldText width n (padded width n).toList where
  length := length_padded hwidth hn
  digits := by
    refine List.all_eq_true.mpr fun c hc => ?_
    simp only [padded, String.toList_append, String.toList_ofList, List.mem_append,
      List.mem_replicate, Nat.toString_eq_repr, Nat.toList_repr] at hc
    rcases hc with ⟨-, rfl⟩ | hc
    · decide
    · exact Nat.isDigit_of_mem_toDigits (by norm_num) (by norm_num) hc
  value := by
    simp only [padded, String.toList_append, String.toList_ofList, Nat.ofDigitChars_append,
      Nat.ofDigitChars_replicate_zero, Nat.toString_eq_repr, Nat.toList_repr, Nat.mul_zero,
      Nat.ofDigitChars_ten_toDigits]

namespace Datetime

/-! ## The calendar -/

/-- The day that `civil` computed year, month and day from. -/
lemma dayNumber_civil {day : ℤ} (h : CivilRange day) :
    dayNumber (civil day).1 (civil day).2.1 (civil day).2.2 = day := by
  obtain ⟨era, yoe, doy, mp, hday, hera, hyoe0, hyoe1, hdoy0, hdoy1, hmp, hy, hm, hd⟩ :=
    civil_spec h
  have hmp0 : 0 ≤ mp ∧ mp ≤ 11 := by omega
  have hdom : ((doy - (153 * mp + 2) / 5 + 1).toNat : ℤ) = doy - (153 * mp + 2) / 5 + 1 :=
    Int.toNat_of_nonneg (by omega)
  rw [dayNumber, hy, hm, hd, hdom]
  -- January and February belong to the year that began in the March before
  by_cases hmp10 : mp < 10
  · rw [if_pos hmp10, if_pos hmp10]
    have hmonth : ((mp + 3).toNat : ℤ) = mp + 3 := Int.toNat_of_nonneg (by omega)
    have hyear : ((yoe + era * 400 + 0).toNat : ℤ) = yoe + era * 400 := by omega
    have hshift : (mp + 3 + 9) % 12 = mp := by omega
    rw [if_neg (by omega), hmonth, hyear, hshift]
    omega
  · rw [if_neg hmp10, if_neg hmp10]
    have hmonth : ((mp - 9).toNat : ℤ) = mp - 9 := Int.toNat_of_nonneg (by omega)
    have hyear : ((yoe + era * 400 + 1).toNat : ℤ) = yoe + era * 400 + 1 := by omega
    have hshift : (mp - 9 + 9) % 12 = mp := by omega
    rw [if_pos (by omega), hmonth, hyear, hshift]
    omega

/-- The century of a day of an era. -/
lemma century_eq {doe yoe : ℤ} (h0 : 0 ≤ doe) (h1 : doe < 146097)
    (hyoe : yoe = (doe - doe / 1460 + doe / 36524 - doe / 146096) / 365) :
    yoe / 100 = doe / 36524 - doe / 146096 := by
  have hb : 0 ≤ doe / 36524 ∧ doe / 36524 ≤ 4 := by omega
  generalize hcenturies : doe / 36524 = b at *
  obtain ⟨hb0, hb4⟩ := hb
  interval_cases b <;> omega

/-- A year that starts in March has a 366th day only before the February of a leap year. -/
lemma leap_of_last_day {doe yoe : ℤ} (h0 : 0 ≤ doe) (h1 : doe < 146097)
    (hyoe : yoe = (doe - doe / 1460 + doe / 36524 - doe / 146096) / 365)
    (hlast : doe - (365 * yoe + yoe / 4 - yoe / 100) = 365) :
    (yoe + 1) % 4 = 0 ∧ ((yoe + 1) % 100 ≠ 0 ∨ (yoe + 1) % 400 = 0) := by
  have hcentury := century_eq h0 h1 hyoe
  obtain ⟨-, -, hyoe0, hyoe1⟩ := dayOfYear_bounds h0 h1 hyoe
  have hfour : (yoe + 1) % 4 = 0 := by
    by_contra hne
    -- otherwise the day is in the year after `yoe`
    have hrest : yoe % 4 ≤ 2 := by omega
    have hquarter : doe / 1460 = yoe / 4 := by omega
    omega
  refine ⟨hfour, ?_⟩
  by_contra hne
  push Not at hne
  -- otherwise the day is in the century after that of `yoe`
  have hlate : doe / 36524 = yoe / 100 + 1 := by omega
  omega

/-- The 29th of February is a day of leap years only. -/
lemma isLeapYear_civil {day : ℤ} (h : CivilRange day) (hmonth : (civil day).2.1 = 2)
    (hday : (civil day).2.2 = 29) : isLeapYear (civil day).1 = true := by
  obtain ⟨doe, hdoe⟩ : ∃ doe, doe = (day + 719468) % 146097 := ⟨_, rfl⟩
  obtain ⟨yoe, hyoe⟩ : ∃ yoe, yoe = (doe - doe / 1460 + doe / 36524 - doe / 146096) / 365 :=
    ⟨_, rfl⟩
  obtain ⟨doy, hdoy⟩ : ∃ doy, doy = doe - (365 * yoe + yoe / 4 - yoe / 100) := ⟨_, rfl⟩
  obtain ⟨era, hera⟩ : ∃ era, era = (day + 719468) / 146097 := ⟨_, rfl⟩
  have hdoe0 : 0 ≤ doe ∧ doe < 146097 := by omega
  obtain ⟨hdoy0, hdoy1, hyoe0, -⟩ := dayOfYear_bounds hdoe0.1 hdoe0.2 hyoe
  simp only [civil, ← hdoe, ← hyoe, ← hdoy] at hmonth hday
  have hlast : doy = 365 := by omega
  obtain ⟨hfour, hcentury⟩ := leap_of_last_day hdoe0.1 hdoe0.2 hyoe (hdoy ▸ hlast)
  have hyear : ((civil day).1 : ℤ) = yoe + 1 + era * 400 := by
    have hera0 : 0 ≤ era := by have := h.1; omega
    simp only [civil, ← hdoe, ← hyoe, ← hdoy, ← hera, hlast]
    norm_num
    omega
  simp only [isLeapYear, decide_eq_true_eq]
  omega

/-- **The calendar**: `civil` gives a month and one of its days, in a year that a `datetime` has. -/
lemma civil_inRange {day : ℤ} (h : CivilRange day) :
    1 ≤ (civil day).1 ∧ 1 ≤ (civil day).2.1 ∧ (civil day).2.1 ≤ 12 ∧ 1 ≤ (civil day).2.2
      ∧ (civil day).2.2 ≤ daysInMonth (civil day).1 (civil day).2.1 := by
  have hleap := isLeapYear_civil h
  obtain ⟨era, yoe, doy, mp, hday, hera, hyoe0, hyoe1, hdoy0, hdoy1, hmp, hy, hm, hd⟩ :=
    civil_spec h
  have hfirst := h.1
  have hmp0 : 0 ≤ mp ∧ mp ≤ 11 := by omega
  refine ⟨?_, ?_, ?_, ?_, ?_⟩
  · rw [hy]
    split_ifs <;> omega
  · rw [hm]
    split_ifs <;> omega
  · rw [hm]
    split_ifs <;> omega
  · omega
  · generalize (civil day).1 = year at *
    generalize (civil day).2.1 = month at *
    generalize (civil day).2.2 = dayOfMonth at *
    have hmonth : month = (if mp < 10 then mp + 3 else mp - 9 : ℤ) := by
      rw [hm]
      split_ifs <;> omega
    rw [daysInMonth]
    by_cases hfeb : month = 2
    · have hlast : dayOfMonth ≤ 29 := by
        split_ifs at hmonth <;> omega
      rw [if_pos hfeb]
      split_ifs with hyear
      · exact hlast
      · exact Nat.le_of_lt_succ (lt_of_le_of_ne hlast fun h29 => hyear (hleap hfeb h29))
    · rw [if_neg hfeb]
      split_ifs with hshort
      · simp only [List.mem_cons, List.not_mem_nil, or_false] at hshort
        split_ifs at hmonth <;> omega
      · omega

/-! ## The text -/

/-- The fields that `isoformat` writes for an instant in UTC. -/
def fields (instant : ℤ) : Timestamp :=
  let (year, month, day) := civil (instant / 86400000000)
  let us := (instant % 86400000000).toNat
  { year := year
    month := month
    day := day
    hour := us / 3600000000
    minute := us / 60000000 % 60
    second := us / 1000000 % 60
    fraction :=
      if us % 1000000 = 0 then []
      else (padded 6 (us % 1000000)).toList.map fun c => c.toNat - 48
    offset := 0 }

variable {instant : ℤ}

lemma civilRange_of_representable (h : representable instant) :
    CivilRange (instant / 86400000000) := by
  unfold CivilRange representable at *
  omega

/-- The fields are in their ranges. -/
lemma fields_inRange (h : representable instant) : (fields instant).inRange = true := by
  obtain ⟨-, hmonth, hmonth', hday, hday'⟩ := civil_inRange (civilRange_of_representable h)
  have hus : (instant % 86400000000).toNat < 86400000000 := by omega
  refine decide_eq_true ⟨⟨hmonth, hmonth'⟩, ⟨hday, hday'⟩, ?_, ?_, ?_⟩
  · change (instant % 86400000000).toNat / 3600000000 ≤ 23
    omega
  · change (instant % 86400000000).toNat / 60000000 % 60 ≤ 59
    omega
  · change (instant % 86400000000).toNat / 1000000 % 60 ≤ 60
    omega

/-- The fraction of the text, and what follows. -/
lemma parseFraction_fields (us : ℕ) :
    parseFraction ((if us % 1000000 = 0 then "" else "." ++ padded 6 (us % 1000000)).toList
        ++ (isoOffset 0).toList)
      = some (if us % 1000000 = 0 then []
          else (padded 6 (us % 1000000)).toList.map fun c => c.toNat - 48,
        (isoOffset 0).toList) := by
  split_ifs with hus
  · exact parseFraction_none (by decide)
  · have hfield := @fieldText_padded 6 (us % 1000000) (by norm_num) (by omega)
    have hne : (padded 6 (us % 1000000)).toList ≠ [] := by
      intro h
      have := hfield.length
      simp [h] at this
    rw [String.toList_append]
    exact parseFraction_digits hne hfield.digits (by decide)

/-- **The text of an instant is a timestamp**, with the fields that were written. -/
theorem parse_isoformat (h : representable instant) :
    parse (utc instant).isoformat = some (fields instant) := by
  obtain ⟨hyear, hmonth, hday⟩ := civil_bounds (civilRange_of_representable h)
  have hus : (instant % 86400000000).toNat < 86400000000 := by omega
  have hhour : (fields instant).hour < 10 ^ 2 := by
    change (instant % 86400000000).toNat / 3600000000 < 10 ^ 2
    omega
  have hminute : (fields instant).minute < 10 ^ 2 := by
    change (instant % 86400000000).toNat / 60000000 % 60 < 10 ^ 2
    omega
  have hsecond : (fields instant).second < 10 ^ 2 := by
    change (instant % 86400000000).toNat / 1000000 % 60 < 10 ^ 2
    omega
  have hparse := parse_fields (t := fields instant)
    (fieldText_padded (by norm_num) hyear) (fieldText_padded (by norm_num) hmonth)
    (fieldText_padded (by norm_num) hday) (fieldText_padded (by norm_num) hhour)
    (fieldText_padded (by norm_num) hminute) (fieldText_padded (by norm_num) hsecond)
    (parseFraction_fields _) (show parseOffset (isoOffset 0).toList = some 0 by decide)
    (fields_inRange h)
  rw [← hparse]
  refine congrArg parse (String.toList_inj.mp ?_)
  simp only [isoformat, utc, fields, String.toList_append, String.append_assoc,
    String.toList_ofList, String.reduceToList, List.cons_append, List.nil_append]
  congr

/-! ## The values -/

lemma fields_seconds (h : representable instant) :
    (fields instant).seconds = instant / 1000000 := by
  have hday := dayNumber_civil (civilRange_of_representable h)
  change dayNumber (civil (instant / 86400000000)).1 (civil (instant / 86400000000)).2.1
      (civil (instant / 86400000000)).2.2 * 86400
    + ((instant % 86400000000).toNat / 3600000000 : ℕ) * 3600
    + ((instant % 86400000000).toNat / 60000000 % 60 : ℕ) * 60
    + ((instant % 86400000000).toNat / 1000000 % 60 : ℕ) = instant / 1000000
  rw [hday]
  omega

lemma fields_subsecond : (fields instant).subsecond = ((instant % 1000000 : ℤ) : ℚ) / 1000000 := by
  have hus : (((instant % 86400000000).toNat % 1000000 : ℕ) : ℤ) = instant % 1000000 := by omega
  rw [← hus]
  generalize hn : (instant % 86400000000).toNat % 1000000 = n
  have hfraction : (fields instant).fraction
      = if n = 0 then [] else (padded 6 n).toList.map fun c => c.toNat - 48 := by
    rw [← hn]
    rfl
  split_ifs at hfraction with hzero
  · rw [Timestamp.subsecond, hfraction, hzero]
    simp
  · have hfield := @fieldText_padded 6 n (by norm_num) (by omega)
    rw [Timestamp.subsecond_digits hfraction, hfield.length, hfield.value]
    norm_num

lemma fields_microsecond : (fields instant).microsecond = instant % 1000000 := by
  rw [Timestamp.microsecond, fields_subsecond, div_mul_cancel₀ _ (by norm_num), Int.floor_intCast]

/-- **The fields denote the instant.** -/
theorem fields_instant (h : representable instant) :
    (fields instant).instant = (instant : ℚ) / 1000000 := by
  have hsplit : instant / 1000000 * 1000000 + instant % 1000000 = instant := by omega
  have hoffset : (fields instant).offset = 0 := rfl
  rw [Timestamp.instant, fields_seconds h, fields_subsecond, hoffset]
  nth_rewrite 3 [← hsplit]
  push_cast
  ring

end Datetime

end TracePilot
