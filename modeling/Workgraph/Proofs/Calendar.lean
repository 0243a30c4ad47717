import Workgraph.Calendar

/-!
# Days in order

The days of the calendar follow one another without a gap: the number of a day is one more than that of the
day before it, over the ends of months and years as well, and only the last day has none after it. So the
days of the week go around, and so many days later is so many days further on in the count. A time
can be told from its text.
-/

namespace Workgraph

namespace Calendar

def yearLength (year : Nat) : Nat := if isLeap year then 366 else 365

private theorem isLeap_iff {year : Nat} :
    isLeap year = true ↔ 4 ∣ year ∧ (100 ∣ year → 400 ∣ year) := by
  simp only [isLeap, Bool.and_eq_true, Bool.or_eq_true, beq_iff_eq, bne_iff_ne,
    Nat.dvd_iff_mod_eq_zero]
  omega

theorem monthLength_le (year month : Nat) : monthLength year month ≤ 31 := by
  unfold monthLength
  repeat' split
  all_goals omega

end Calendar

open Calendar

namespace Date

private theorem daysBeforeYear_succ {year : Nat} (h : 1 ≤ year) :
    daysBeforeYear (year + 1) = daysBeforeYear year + yearLength year := by
  obtain ⟨past, rfl⟩ : ∃ past, year = past + 1 := ⟨year - 1, by omega⟩
  have hcentury : 100 ∣ past + 1 → 4 ∣ past + 1 := Nat.dvd_trans (by decide)
  have hfourth : 400 ∣ past + 1 → 100 ∣ past + 1 := Nat.dvd_trans (by decide)
  have hquotient : past / 100 ≤ past := Nat.div_le_self past 100
  simp only [daysBeforeYear, yearLength, isLeap_iff, Nat.add_sub_cancel, Nat.succ_div]
  -- each quotient grows in the years that it divides, so only the divisors of this year matter
  generalize past / 4 = fours
  generalize past / 100 = hundreds at *
  generalize past / 400 = fourHundreds
  by_cases h4 : 4 ∣ past + 1
  · by_cases h100 : 100 ∣ past + 1
    · by_cases h400 : 400 ∣ past + 1
      · simp only [h4, h100, h400, if_true, imp_self, and_self]
        omega
      · simp only [h4, h100, h400, if_true, if_false, imp_false, not_true, and_false]
        omega
    · simp only [h4, h100, mt hfourth h100, if_true, if_false, false_imp_iff, and_self]
      omega
  · have h100 := mt hcentury h4
    simp only [h4, h100, mt hfourth h100, if_false, false_and]
    omega

theorem daysBeforeMonth_succ {month : Nat} (h : 1 ≤ month) (year : Nat) :
    daysBeforeMonth year (month + 1) = daysBeforeMonth year month + monthLength year month := by
  cases month with
  | zero => omega
  | succ month => rfl

private theorem daysBeforeMonth_thirteen (year : Nat) : daysBeforeMonth year 13 = yearLength year := by
  unfold yearLength
  cases hleap : isLeap year <;> simp [daysBeforeMonth, monthLength, hleap]

/-- The number of the day after is one more, whether a month or a year ends between the two. -/
theorem ordinal_of_next? {d e : Date} (h : d.next? = some e) : e.ordinal = d.ordinal + 1 := by
  have hday := d.day_valid
  have hmonth := d.month_valid
  unfold next? at h
  split at h
  · cases h
    rfl
  split at h
  · cases h
    simp only [ordinal, daysBeforeMonth_succ hmonth.1]
    omega
  split at h
  · cases h
    have hdecember : d.month = 12 := by omega
    have hend : d.day = monthLength d.year d.month := by omega
    have hyear := daysBeforeMonth_succ hmonth.1 d.year
    have hjanuary : daysBeforeMonth (d.year + 1) 1 = 0 := rfl
    rw [hdecember, daysBeforeMonth_thirteen] at hyear
    simp only [ordinal, daysBeforeYear_succ d.year_valid.1, hjanuary]
    rw [hdecember] at hend ⊢
    omega
  · cases h

def lastDay : Date := ⟨lastYear, 12, 31, by decide, by decide, by decide⟩

private theorem eq_lastDay_of_next? {d : Date} (h : d.next? = none) : d = lastDay := by
  obtain ⟨year, month, day, hyear, hmonth, hday⟩ := d
  unfold next? at h
  split at h
  · cases h
  split at h
  · cases h
  split at h
  · cases h
  · dsimp only at *
    obtain rfl : year = lastYear := by omega
    obtain rfl : month = 12 := by omega
    have hlength : monthLength lastYear 12 = 31 := by decide
    obtain rfl : day = 31 := by omega
    rfl

theorem ordinal_of_advance? {days : Nat} {d e : Date} (h : d.advance? days = some e) :
    e.ordinal = d.ordinal + days := by
  induction days generalizing d with
  | zero =>
      cases h
      rfl
  | succ days ih =>
      obtain ⟨next, hnext, hrest⟩ := Option.bind_eq_some_iff.1 h
      rw [ih hrest, ordinal_of_next? hnext]
      omega

theorem lastDay_lt_of_advance? {days : Nat} {d : Date} (h : d.advance? days = none) :
    lastDay.ordinal < d.ordinal + days := by
  induction days generalizing d with
  | zero => cases h
  | succ days ih =>
      cases hnext : d.next? with
      | none =>
          rw [eq_lastDay_of_next? hnext]
          omega
      | some next =>
          have hrest : next.advance? days = none := by
            simpa only [advance?, hnext, Option.bind_some] using h
          have hlater := ih hrest
          rw [ordinal_of_next? hnext] at hlater
          omega

theorem weekday_lt (d : Date) : d.weekday < 7 := Nat.mod_lt _ (by decide)

theorem weekday_of_advance? {days : Nat} {d e : Date} (h : d.advance? days = some e) :
    e.weekday = (d.weekday + days) % 7 := by
  have hordinal := ordinal_of_advance? h
  unfold weekday
  omega

end Date

namespace DateTime

def secondOfDay (t : DateTime) : Nat := (t.hour.val * 60 + t.minute.val) * 60 + t.second.val

private theorem secondOfDay_lt (t : DateTime) : t.secondOfDay < 86400 := by
  have hhour := t.hour.isLt
  have hminute := t.minute.isLt
  have hsecond := t.second.isLt
  unfold secondOfDay
  omega

/-- The microseconds from the midnight before day 0 of the count to a time. -/
def instant (t : DateTime) : Nat :=
  (t.date.ordinal * 86400 + t.secondOfDay) * 1000000 + t.microsecond.val

theorem instant_le_atHour_iff (t : DateTime) (hour : Fin 24) :
    t.instant ≤ (t.atHour hour).instant ↔ t.secondOfDay ≤ hour.val * 3600 := by
  have hhour : (t.atHour hour).secondOfDay = hour.val * 3600 := by
    simp only [secondOfDay, atHour]
    omega
  have hsame : (t.atHour hour).instant =
      (t.date.ordinal * 86400 + (t.atHour hour).secondOfDay) * 1000000 + t.microsecond.val := rfl
  rw [hsame, hhour, instant]
  omega

theorem instant_le_of_earlier_day {s t : DateTime} (h : s.date.ordinal < t.date.ordinal) :
    s.instant ≤ t.instant := by
  have hseconds := s.secondOfDay_lt
  have hmicrosecond := s.microsecond.isLt
  unfold instant
  omega

theorem toList_padded (width n : Nat) : (padded width n).toList =
    List.replicate (width - (Nat.toDigits 10 n).length) '0' ++ Nat.toDigits 10 n := by
  simp only [padded, String.toList_ofList]

theorem ofDigitChars_padded (width n : Nat) : Nat.ofDigitChars 10 (padded width n).toList 0 = n := by
  rw [toList_padded, Nat.ofDigitChars_append, Nat.ofDigitChars_replicate_zero, Nat.mul_zero,
    Nat.ofDigitChars_ten_toDigits]

theorem padded_injective {width m n : Nat} (h : padded width m = padded width n) : m = n := by
  rw [← ofDigitChars_padded width m, h, ofDigitChars_padded]

theorem length_padded {width n : Nat} (hwidth : 0 < width) (h : n < Nat.pow 10 width) :
    (padded width n).toList.length = width := by
  have hdigits := (Nat.length_toDigits_le_iff (by decide) hwidth).2 h
  rw [toList_padded, List.length_append, List.length_replicate]
  omega

theorem padded_append_inj {width m n : Nat} {s t : String} (hwidth : 0 < width)
    (hm : m < Nat.pow 10 width) (hn : n < Nat.pow 10 width)
    (h : padded width m ++ s = padded width n ++ t) : m = n ∧ s = t := by
  have hlists := congrArg String.toList h
  rw [String.toList_append, String.toList_append] at hlists
  have hlength : (padded width m).toList.length = (padded width n).toList.length := by
    rw [length_padded hwidth hm, length_padded hwidth hn]
  obtain ⟨hnumber, hrest⟩ := List.append_inj hlists hlength
  exact ⟨padded_injective (String.toList_inj.1 hnumber), String.toList_inj.1 hrest⟩

theorem padded_mark_inj {width m n : Nat} {mark s t : String} (hwidth : 0 < width)
    (hm : m < Nat.pow 10 width) (hn : n < Nat.pow 10 width)
    (h : padded width m ++ (mark ++ s) = padded width n ++ (mark ++ t)) : m = n ∧ s = t := by
  obtain ⟨hnumber, hrest⟩ := padded_append_inj hwidth hm hn h
  exact ⟨hnumber, (String.append_right_inj mark).1 hrest⟩

private theorem fraction_inj {m n : Nat}
    (h : (if m = 0 then "" else "." ++ padded 6 m) = if n = 0 then "" else "." ++ padded 6 n) :
    m = n := by
  split at h <;> split at h
  · omega
  · simp at h
  · simp at h
  · exact padded_injective ((String.append_right_inj ".").1 h)

theorem text_injective {s t : DateTime} (h : s.text = t.text) : s = t := by
  obtain ⟨⟨year, month, day, hyear, hmonth, hday⟩, hour, minute, second, micro⟩ := s
  obtain ⟨⟨year', month', day', hyear', hmonth', hday'⟩, hour', minute', second', micro'⟩ := t
  have hlength := monthLength_le year month
  have hlength' := monthLength_le year' month'
  have hlast : lastYear = 9999 := rfl
  simp only [text, String.append_assoc] at h
  obtain ⟨hyears, h⟩ := padded_mark_inj (by decide) (by omega : year < 10000)
    (by omega : year' < 10000) h
  obtain ⟨hmonths, h⟩ := padded_mark_inj (by decide) (by omega : month < 100)
    (by omega : month' < 100) h
  obtain ⟨hdays, h⟩ := padded_mark_inj (by decide) (by omega : day < 100) (by omega : day' < 100) h
  obtain ⟨hhours, h⟩ := padded_mark_inj (by decide) (by omega : hour.val < 100)
    (by omega : hour'.val < 100) h
  obtain ⟨hminutes, h⟩ := padded_mark_inj (by decide) (by omega : minute.val < 100)
    (by omega : minute'.val < 100) h
  obtain ⟨hseconds, h⟩ := padded_append_inj (by decide) (by omega : second.val < 100)
    (by omega : second'.val < 100) h
  have hmicros := fraction_inj h
  obtain rfl := hyears
  obtain rfl := hmonths
  obtain rfl := hdays
  obtain rfl := Fin.ext hhours
  obtain rfl := Fin.ext hminutes
  obtain rfl := Fin.ext hseconds
  obtain rfl := Fin.ext hmicros
  rfl

end DateTime

end Workgraph
