import DocQuery.Calendar
import DocQuery.Proofs.Text.Numerals
import Mathlib.Data.List.DropRight

/-!
# Points in time from their texts

A day is known by its date, and a point in time by the text that is shown of it: the number of the
day can be calculated from the date, and every part of the text is either of a known length or ends
at a mark that is in none of the parts before. A point in time too far away to have a date shown is
a plain number, which cannot be taken for a date.
-/

namespace DocQuery

open Text

namespace Calendar

/-! ## Dates -/

/-- The year in which a day of an era lies. Years begin with March, and an era has four hundred of
them, of which one in four has a leap day but only one of the four that end a century. -/
theorem year_bounds {day year : Nat} (inside : day < 146097)
    (counted : year = (day - day / 1460 + day / 36524 - day / 146096) / 365) :
    year ≤ 399 ∧ 365 * year + year / 4 - year / 100 ≤ day ∧
      day ≤ 365 * year + year / 4 - year / 100 + 366 := by
  generalize fours : day / 1460 = q₁ at counted
  generalize centuries : day / 36524 = q₂ at counted
  generalize last : day / 146096 = q₃ at counted
  have small : year ≤ 399 := by omega
  refine ⟨small, ?_, ?_⟩
  · have century : q₂ - q₃ ≤ year / 100 ∨ year / 100 < q₂ - q₃ := by omega
    rcases century with before | after <;> omega
  · -- The bounds are stated one by one: together they are too many unknowns for one refutation.
    apply Nat.le_of_not_lt
    intro past
    have top : day + q₂ ≤ 365 * year + 364 + q₁ + q₃ := by omega
    have once : q₃ ≤ 1 := by omega
    have early : q₁ ≤ year / 4 + 1 := by
      clear centuries last past
      omega
    have late : year / 100 ≤ q₂ := by
      clear fours last counted top
      omega
    clear fours centuries last counted inside
    omega

/-- The date of a day, by its place in a year that begins with March. -/
theorem exists_ofDayNumber_eq (n : Int) :
    ∃ (era : Int) (year dayOfYear : Nat), year ≤ 399 ∧ dayOfYear ≤ 366 ∧
      n + 719468 = era * 146097 + (365 * year + year / 4 - year / 100 + dayOfYear : Nat) ∧
      Date.ofDayNumber n =
        let monthIndex := (5 * dayOfYear + 2) / 153
        let day := dayOfYear - (153 * monthIndex + 2) / 5 + 1
        if monthIndex < 10 then ⟨era * 400 + year, monthIndex + 3, day⟩
        else ⟨era * 400 + year + 1, monthIndex - 9, day⟩ := by
  have inside : ((n + 719468) % 146097).toNat < 146097 := by omega
  obtain ⟨small, start, stop⟩ := year_bounds inside rfl
  refine ⟨(n + 719468) / 146097, _, _, small, Nat.sub_le_of_le_add (Nat.add_comm _ _ ▸ stop), ?_, ?_⟩
  · rw [Nat.add_sub_of_le start]
    omega
  · unfold Date.ofDayNumber
    simp only [Int.fdiv_eq_ediv_of_nonneg _ (show (0 : Int) ≤ 146097 by decide),
      Int.fmod_eq_emod_of_nonneg _ (show (0 : Int) ≤ 146097 by decide)]

/-- The number of the day that has a date. -/
def Date.dayNumber (date : Date) : Int :=
  let year := if date.month < 3 then date.year - 1 else date.year
  let monthIndex := if date.month < 3 then date.month + 9 else date.month - 3
  let yearOfEra := year % 400
  year / 400 * 146097 + (365 * yearOfEra + yearOfEra / 4 - yearOfEra / 100) +
    ((153 * monthIndex + 2) / 5 + date.day - 1 : Nat) - 719468

/-- A day is known by its date. -/
theorem dayNumber_ofDayNumber (n : Int) : (Date.ofDayNumber n).dayNumber = n := by
  obtain ⟨era, year, dayOfYear, small, short, whole, date⟩ := exists_ofDayNumber_eq n
  have month : (153 * ((5 * dayOfYear + 2) / 153) + 2) / 5 ≤ dayOfYear := by omega
  have months : (5 * dayOfYear + 2) / 153 ≤ 11 := by omega
  have yearOfEra : (era * 400 + year) % 400 = year := by omega
  have eraOfYear : (era * 400 + year) / 400 = era := by omega
  rw [date]
  generalize (5 * dayOfYear + 2) / 153 = monthIndex at month months ⊢
  unfold Date.dayNumber
  dsimp only
  split
  · have late : ¬ monthIndex + 3 < 3 := by omega
    simp only [late, if_false, yearOfEra, eraOfYear, Nat.add_sub_cancel]
    omega
  · have early : monthIndex - 9 < 3 := by omega
    have index : monthIndex - 9 + 9 = monthIndex := by omega
    simp only [early, if_true, index, Int.add_sub_cancel, yearOfEra, eraOfYear]
    omega

theorem Date.eq_of_parts {a b : Date} (year : a.year = b.year) (month : a.month = b.month)
    (day : a.day = b.day) : a = b := by
  obtain ⟨year', month', day'⟩ := a
  subst year month day
  rfl

/-- Months and days have at most two digits. -/
theorem date_bounds (n : Int) :
    (Date.ofDayNumber n).month < 100 ∧ (Date.ofDayNumber n).day < 100 := by
  obtain ⟨era, year, dayOfYear, -, short, -, date⟩ := exists_ofDayNumber_eq n
  rw [date]
  dsimp only
  split <;> constructor <;> dsimp only <;> omega

end Calendar

namespace DateTime

/-! ## Times -/

theorem eq_of_date_eq {a b : DateTime} (date : a.date = b.date)
    (time : a.timeOfDay = b.timeOfDay) : a = b := by
  have days := congrArg Calendar.Date.dayNumber date
  rw [DateTime.date, DateTime.date, Calendar.dayNumber_ofDayNumber,
    Calendar.dayNumber_ofDayNumber] at days
  have positive : (0 : Int) ≤ dayLength := by decide
  rw [timeOfDay, timeOfDay, Int.fmod_eq_emod_of_nonneg _ positive,
    Int.fmod_eq_emod_of_nonneg _ positive] at time
  rw [Int.fdiv_eq_ediv_of_nonneg _ positive, Int.fdiv_eq_ediv_of_nonneg _ positive] at days
  have millis : a.millis.toInt = b.millis.toInt := by
    rw [dayLength] at days time
    omega
  exact congrArg DateTime.mk (Int64.toInt_inj.mp millis)

/-- The time of a day is known by its hours, minutes, seconds and milliseconds. -/
theorem timeOfDay_eq {a b : DateTime} (hour : a.hour = b.hour) (minute : a.minute = b.minute)
    (second : a.second = b.second) (millis : a.timeOfDay % 1000 = b.timeOfDay % 1000) :
    a.timeOfDay = b.timeOfDay := by
  unfold DateTime.hour at hour
  unfold DateTime.minute at minute
  unfold DateTime.second at second
  omega

/-- The digits of a fraction without the zeros at its end. -/
theorem fractionDigits_eq (t : DateTime) :
    t.fractionDigits = (Numeral.padded 3 (t.timeOfDay % 1000)).rdropWhile (· = '0') := rfl

/-- Zeros at the end are put back where the number of digits is known. -/
theorem append_replicate_of_rdropWhile (cs : List Char) :
    cs.rdropWhile (· = '0') ++ List.replicate (cs.length - (cs.rdropWhile (· = '0')).length) '0' =
      cs := by
  have whole : cs.rdropWhile (· = '0') ++ cs.rtakeWhile (· = '0') = cs :=
    List.rdropWhile_append_rtakeWhile
  have zeros : ∀ c ∈ cs.rtakeWhile (· = '0'), c = '0' := by
    intro c member
    have zero := List.mem_rtakeWhile_imp member
    exact of_decide_eq_true zero
  have count : cs.length - (cs.rdropWhile (· = '0')).length = (cs.rtakeWhile (· = '0')).length := by
    have lengths := congrArg List.length whole
    rw [List.length_append] at lengths
    omega
  rw [count, ← List.eq_replicate_of_mem zeros, whole]

/-- Of a known number of digits the zeros at the end need not be given. -/
theorem eq_of_rdropWhile_eq {a b : List Char} (length : a.length = b.length)
    (same : a.rdropWhile (· = '0') = b.rdropWhile (· = '0')) : a = b := by
  have restored := append_replicate_of_rdropWhile a
  rw [same, length, append_replicate_of_rdropWhile] at restored
  exact restored.symm

/-- The milliseconds are known by the fraction that is shown, which has a digit even if it is
zero. -/
theorem millis_eq_of_fraction {a b : DateTime}
    (same : (if a.fractionDigits = [] then ['0'] else a.fractionDigits) =
      if b.fractionDigits = [] then ['0'] else b.fractionDigits) :
    a.timeOfDay % 1000 = b.timeOfDay % 1000 := by
  have shown : ∀ t : DateTime, t.fractionDigits ≠ ['0'] := by
    intro t zero
    rw [fractionDigits_eq] at zero
    have last := List.rdropWhile_last_not (· = '0') (Numeral.padded 3 (t.timeOfDay % 1000))
    simp [zero] at last
  have digits : a.fractionDigits = b.fractionDigits := by
    split at same <;> split at same
    · simp_all
    · exact absurd same.symm (shown b)
    · exact absurd same (shown a)
    · exact same
  have length : ∀ t : DateTime, (Numeral.padded 3 (t.timeOfDay % 1000)).length = 3 :=
    fun t => Numeral.length_padded (by decide) (Nat.mod_lt _ (by decide))
  exact Numeral.padded_inj.mp (eq_of_rdropWhile_eq ((length a).trans (length b).symm) digits)

/-! ## Texts -/

/-- The characters of a year are digits and signs. -/
theorem not_mem_yearChars {mark : Char} (other : mark.isDigit = false) (minus : mark ≠ '-')
    (plus : mark ≠ '+') (year : Int) : mark ∉ yearChars year := by
  have padded := Numeral.not_mem_padded other 4 year.natAbs
  have digits := Numeral.not_mem_digits other year.natAbs
  unfold yearChars
  split <;> split <;> simp [padded, digits, minus, plus]

theorem yearChars_of_short {year : Int} (short : year.natAbs < 10000) :
    yearChars year = (if year < 0 then ['-'] else []) ++ Numeral.padded 4 year.natAbs :=
  if_pos short

theorem yearChars_of_long {year : Int} (long : ¬ year.natAbs < 10000) :
    yearChars year = (if year < 0 then '-' else '+') :: Numeral.digits year.natAbs :=
  if_neg long

/-- A longer year cannot be taken for a year of four digits. -/
theorem yearChars_ne {a b : Int} (short : a.natAbs < 10000) (long : ¬ b.natAbs < 10000) :
    yearChars a ≠ yearChars b := by
  intro same
  have lengths := congrArg List.length same
  have four : (Numeral.padded 4 a.natAbs).length = 4 := Numeral.length_padded (by decide) short
  have five : 4 < (Numeral.digits b.natAbs).length :=
    Nat.lt_of_not_le fun fits => long ((Nat.length_toDigits_le_iff (by decide) (by decide)).mp fits)
  have sign : (if a < 0 then ['-'] else []).length ≤ 1 := by split <;> decide
  rw [yearChars_of_short short, yearChars_of_long long, List.length_append, four,
    List.length_cons] at lengths
  omega

theorem yearChars_inj {a b : Int} (same : yearChars a = yearChars b) : a = b := by
  by_cases short : a.natAbs < 10000 <;> by_cases short' : b.natAbs < 10000
  · have four : (Numeral.padded 4 a.natAbs).length = 4 := Numeral.length_padded (by decide) short
    have four' : (Numeral.padded 4 b.natAbs).length = 4 := Numeral.length_padded (by decide) short'
    rw [yearChars_of_short short, yearChars_of_short short'] at same
    obtain ⟨signs, digits⟩ := List.append_inj' same (four.trans four'.symm)
    have size := Numeral.padded_inj.mp digits
    split at signs <;> split at signs <;> first | contradiction | omega
  · exact absurd same (yearChars_ne short short')
  · exact absurd same.symm (yearChars_ne short' short)
  · rw [yearChars_of_long short, yearChars_of_long short'] at same
    have size := Numeral.digits_inj.mp (List.tail_eq_of_cons_eq same)
    have signs := List.head_eq_of_cons_eq same
    split at signs <;> split at signs <;> first | contradiction | omega

/-- The text of a point in time that has one, part by part. -/
theorem toList_text {t : DateTime} (near : t.hasText = true) :
    t.text.toList =
      (yearChars t.date.year ++
        ('-' :: (Numeral.padded 2 t.date.month ++ '-' :: Numeral.padded 2 t.date.day))) ++
      ' ' :: (Numeral.digits t.hour ++
        ':' :: (Numeral.padded 2 t.minute ++ ':' :: (Numeral.padded 2 t.second ++
          '.' :: if t.fractionDigits = [] then ['0'] else t.fractionDigits))) ++
      " +00:00:00".toList := by
  rw [text, if_pos near, String.toList_append, String.toList_ofList]
  change yearChars t.date.year ++
      ('-' :: Numeral.padded 2 t.date.month ++ '-' :: Numeral.padded 2 t.date.day) ++
      ' ' :: Numeral.digits t.hour ++
      (':' :: Numeral.padded 2 t.minute ++ ':' :: Numeral.padded 2 t.second) ++
      ('.' :: if t.fractionDigits = [] then ['0'] else t.fractionDigits) ++ _ = _
  simp only [List.append_assoc, List.cons_append]

theorem text_of_far {t : DateTime} (far : ¬ t.hasText = true) :
    t.text = Numeral.ofInt t.millis.toInt :=
  if_neg far

/-- A date is not taken for a number: there is a blank in it. -/
theorem text_ne {a b : DateTime} (near : a.hasText = true) (far : ¬ b.hasText = true) :
    a.text ≠ b.text := by
  intro same
  have blank : ' ' ∈ a.text.toList := by
    rw [toList_text near]
    simp
  rw [same, text_of_far far, Numeral.ofInt, String.toList_ofList] at blank
  exact Numeral.not_mem_intChars rfl (by decide) _ blank

theorem length_monthAndDay (t : DateTime) :
    ('-' :: (Numeral.padded 2 t.date.month ++ '-' :: Numeral.padded 2 t.date.day)).length = 6 := by
  obtain ⟨month, day⟩ := Calendar.date_bounds (Int.fdiv t.millis.toInt dayLength)
  have month' : (Numeral.padded 2 t.date.month).length = 2 :=
    Numeral.length_padded (by decide) month
  have day' : (Numeral.padded 2 t.date.day).length = 2 := Numeral.length_padded (by decide) day
  rw [List.length_cons, List.length_append, List.length_cons, month', day']

theorem blank_not_mem_date (t : DateTime) :
    ' ' ∉ yearChars t.date.year ++
      ('-' :: (Numeral.padded 2 t.date.month ++ '-' :: Numeral.padded 2 t.date.day)) := by
  have year : ' ' ∉ yearChars t.date.year := not_mem_yearChars rfl (by decide) (by decide) _
  have padded : ∀ n, ' ' ∉ Numeral.padded 2 n := Numeral.not_mem_padded rfl 2
  simp [year, padded]

/-- A date is read off part by part: the year is what is left in front of month and day, and the
other parts end at a mark. -/
theorem eq_of_near {a b : DateTime} (near : a.hasText = true) (near' : b.hasText = true)
    (same : a.text = b.text) : a = b := by
  have colon : ∀ n, ':' ∉ Numeral.padded 2 n := Numeral.not_mem_padded rfl 2
  have point : ∀ n, '.' ∉ Numeral.padded 2 n := Numeral.not_mem_padded rfl 2
  have dash : ∀ n, '-' ∉ Numeral.padded 2 n := Numeral.not_mem_padded rfl 2
  have characters := congrArg String.toList same
  rw [toList_text near, toList_text near'] at characters
  obtain ⟨date, time⟩ := append_cons_inj (blank_not_mem_date a) (blank_not_mem_date b)
    (List.append_cancel_right characters)
  obtain ⟨year, rest⟩ :=
    List.append_inj' date ((length_monthAndDay a).trans (length_monthAndDay b).symm)
  obtain ⟨month, day⟩ := append_cons_inj (dash _) (dash _) (List.tail_eq_of_cons_eq rest)
  obtain ⟨hour, time⟩ := append_cons_inj (Numeral.not_mem_digits rfl _)
    (Numeral.not_mem_digits rfl _) time
  obtain ⟨minute, time⟩ := append_cons_inj (colon _) (colon _) time
  obtain ⟨second, fraction⟩ := append_cons_inj (point _) (point _) time
  apply eq_of_date_eq
  · exact Calendar.Date.eq_of_parts (yearChars_inj year) (Numeral.padded_inj.mp month)
      (Numeral.padded_inj.mp day)
  · exact timeOfDay_eq (Numeral.digits_inj.mp hour) (Numeral.padded_inj.mp minute)
      (Numeral.padded_inj.mp second) (millis_eq_of_fraction fraction)

/-- A point in time is known by its text. -/
theorem text_inj {a b : DateTime} : a.text = b.text ↔ a = b := by
  constructor
  · intro same
    by_cases near : a.hasText = true <;> by_cases near' : b.hasText = true
    · exact eq_of_near near near' same
    · exact absurd same (text_ne near near')
    · exact absurd same.symm (text_ne near' near)
    · rw [text_of_far near, text_of_far near'] at same
      exact congrArg DateTime.mk (Int64.toInt_inj.mp (Numeral.ofInt_inj.mp same))
  · rintro rfl
    rfl

end DateTime

end DocQuery
