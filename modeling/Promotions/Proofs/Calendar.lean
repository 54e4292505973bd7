import Mathlib.Tactic.SplitIfs
import Mathlib.Tactic.IntervalCases
import Promotions.Calendar

/-!
# Days and dates

The days are counted one by one from the 1st of January 1970 (`Date.IsDay`): after the last day of a
month, which a leap year makes longer in February, comes the first of the next one. `Date.dayNumber`
and `Date.ofDayNumber` jump instead, by eras of 400 years that begin in March. Both of them find the
same days (`Date.isDay_iff`, `Date.isDay_ofDayNumber`), since a day of an era is the day of one of
its years only (`Date.yearOfEra_eq`, `Date.exists_ofEra`), and a day of such a year that of one of
its months.
-/

namespace Promotions

namespace Date

/-- **A date that there is**: its month has so many days. -/
structure IsCivil (date : Date) : Prop where
  month_bounds : 1 ≤ date.month ∧ date.month ≤ 12
  day_bounds : 1 ≤ date.day ∧ date.day ≤ daysIn date.year date.month

/-- The date after a date. -/
def next (date : Date) : Date :=
  if date.day < daysIn date.year date.month then { date with day := date.day + 1 }
  else if date.month < 12 then ⟨date.year, date.month + 1, 1⟩
  else ⟨date.year + 1, 1, 1⟩

/-- **A date is that of a day.** The days are counted from the 1st of January 1970, one by one,
later ones as well as earlier ones. -/
inductive IsDay : Date → Int → Prop
  | first : IsDay ⟨1970, 1, 1⟩ 0
  | next {date : Date} {day : Int} : IsDay date day → IsDay date.next (day + 1)
  | previous {date : Date} {day : Int} : date.IsCivil → IsDay date.next (day + 1) → IsDay date day

theorem isLeapYear_iff (year : Int) :
    isLeapYear year = true ↔ year % 4 = 0 ∧ (year % 100 ≠ 0 ∨ year % 400 = 0) := by
  simp [isLeapYear]

/-! ### The years of an era -/

/-- **A day of an era**: the day so many after the start of a year. The years of an era are counted
from its start and begin in March, so that one before a leap year is longer. -/
structure OfEra (year day : Int) : Prop where
  year_bounds : 0 ≤ year ∧ year < 400
  day_nonneg : 0 ≤ day
  day_lt : day < if isLeapYear (year + 1) then 366 else 365

/-- The days of an era before one of its years. -/
def eraStart (year : Int) : Int := year * 365 + year / 4 - year / 100

/-- A day of an era, by its century, by the four years' term and the year of it, and by the day of
the year. A year is longer if it is the last one of its term and the term is not the last of its
century, or the century is the last of the era. -/
structure OfTerm (century term year day : Int) : Prop where
  century_bounds : 0 ≤ century ∧ century ≤ 3
  term_bounds : 0 ≤ term ∧ term ≤ 24
  year_bounds : 0 ≤ year ∧ year ≤ 3
  day_nonneg : 0 ≤ day
  day_le : day ≤ 364 ∨ day = 365 ∧ year = 3 ∧ (term ≤ 23 ∨ century = 3)

section Era
variable {century term year day d : Int}

theorem OfEra.ofTerm (h : OfEra year day) :
    OfTerm (year / 100) (year % 100 / 4) (year % 4) day := by
  obtain ⟨hyear, hday, hlt⟩ := h
  refine ⟨by omega, by omega, by omega, hday, ?_⟩
  split_ifs at hlt with hleap
  · rw [isLeapYear_iff] at hleap
    omega
  · omega

theorem OfTerm.ofEra (h : OfTerm century term year day) :
    OfEra (100 * century + 4 * term + year) day := by
  obtain ⟨hcentury, hterm, hyear, hday, hle⟩ := h
  refine ⟨by omega, hday, ?_⟩
  split_ifs with hleap
  · omega
  · rw [isLeapYear_iff] at hleap
    omega

theorem eraStart_eq (hterm : 0 ≤ term ∧ term ≤ 24) (hyear : 0 ≤ year ∧ year ≤ 3) :
    eraStart (100 * century + 4 * term + year) = 36524 * century + 1461 * term + 365 * year := by
  unfold eraStart
  omega

theorem OfTerm.yearOfEra_eq (h : OfTerm century term year day)
    (hd : d = 36524 * century + 1461 * term + 365 * year + day) :
    (d - d / 1460 + d / 36524 - d / 146096) / 365 = 100 * century + 4 * term + year := by
  obtain ⟨hcentury, hterm, hyear, hday, hle⟩ := h
  -- the last day of an era, which would begin another century, is taken back
  have hhundreds : d / 36524 - d / 146096 = century := by
    by_cases hlast : d = 146096
    · subst hlast
      omega
    · have hwithin : 36524 * century ≤ d ∧ d < 36524 * (century + 1) := by omega
      omega
  -- the terms that are counted too long for the days that are left
  have hterms : d / 1460 = 25 * century + term ∨ d / 1460 = 25 * century + term + 1 := by omega
  rcases hterms with hterms | hterms
  · omega
  · omega

theorem yearOfEra_eq (h : OfEra year day) (hd : d = eraStart year + day) :
    (d - d / 1460 + d / 36524 - d / 146096) / 365 = year := by
  have hparts : year = 100 * (year / 100) + 4 * (year % 100 / 4) + year % 4 := by omega
  have hterm := h.ofTerm
  rw [hparts, eraStart_eq hterm.term_bounds hterm.year_bounds] at hd
  rw [hterm.yearOfEra_eq hd]
  exact hparts.symm

/-- **Every day of an era is one of a year of it**: its century, the term and the year are split off
one after the other. -/
theorem exists_ofEra (hd : 0 ≤ d ∧ d < 146097) :
    ∃ year day, OfEra year day ∧ d = eraStart year + day := by
  obtain ⟨century, m, hcentury, hm, rfl⟩ : ∃ century m : Int, (0 ≤ century ∧ century ≤ 3) ∧
      (0 ≤ m ∧ (m < 36524 ∨ century = 3 ∧ m = 36524)) ∧ d = 36524 * century + m :=
    ⟨min (d / 36524) 3, d - 36524 * min (d / 36524) 3, by omega, by omega, by omega⟩
  obtain ⟨term, n, hterm, hn, rfl⟩ : ∃ term n : Int, (0 ≤ term ∧ term ≤ 24) ∧
      (0 ≤ n ∧ n < 1461 ∧ (n < 1460 ∨ term ≤ 23 ∨ century = 3)) ∧ m = 1461 * term + n :=
    ⟨m / 1461, m % 1461, by omega, by omega, by omega⟩
  obtain ⟨year, day, hyear, hday, rfl⟩ : ∃ year day : Int, (0 ≤ year ∧ year ≤ 3) ∧
      (0 ≤ day ∧ (day ≤ 364 ∨ day = 365 ∧ year = 3)) ∧ n = 365 * year + day :=
    ⟨min (n / 365) 3, n - 365 * min (n / 365) 3, by omega, by omega, by omega⟩
  have hofTerm : OfTerm century term year day := ⟨hcentury, hterm, hyear, hday.1, by omega⟩
  refine ⟨_, day, hofTerm.ofEra, ?_⟩
  rw [eraStart_eq hterm hyear]
  omega

theorem OfEra.bounds (h : OfEra year day) :
    0 ≤ eraStart year + day ∧ eraStart year + day < 146097 := by
  obtain ⟨hyear, hday, hlt⟩ := h
  unfold eraStart
  split_ifs at hlt with hleap
  · rw [isLeapYear_iff] at hleap
    omega
  · omega

end Era

/-! ### The months of a year -/

/-- The date of a day of a month, counted from March, in a year that begins there. -/
def ofMarch (year month day : Int) : Date :=
  if month < 10 then ⟨year, month + 3, day⟩ else ⟨year + 1, month - 9, day⟩

section March
variable {year month day : Int}

/-- The days before a month, counted from March, of a year that begins there. -/
def monthStart (month : Int) : Int := (153 * month + 2) / 5

/-- The length of a month, counted from March, of a year that begins there. February is the last
one, and its year in the calendar the next. -/
def monthLength (year month : Int) : Int :=
  if month = 11 then if isLeapYear (year + 1) then 29 else 28
  else monthStart (month + 1) - monthStart month

theorem dayNumber_ofMarch (hmonth : 0 ≤ month ∧ month < 12) :
    (ofMarch year month day).dayNumber =
      year / 400 * 146097 + eraStart (year % 400) + (monthStart month + day - 1) - 719468 := by
  have hera : year - year / 400 * 400 = year % 400 := by omega
  unfold ofMarch dayNumber eraStart monthStart
  by_cases hnew : month < 10
  · have hlate : ¬month + 3 ≤ 2 := by omega
    simp only [hnew, hlate, if_true, if_false, hera]
    omega
  · have hlate : month - 9 ≤ 2 := by omega
    simp only [hnew, hlate, if_true, if_false, Int.add_sub_cancel, hera, Int.sub_add_cancel]
    omega

theorem daysIn_ofMarch (hmonth : 0 ≤ month ∧ month < 12) :
    daysIn (ofMarch year month day).year (ofMarch year month day).month =
      monthLength year month := by
  obtain ⟨hlow, hhigh⟩ := hmonth
  interval_cases month <;> rfl

theorem day_ofMarch : (ofMarch year month day).day = day := by
  unfold ofMarch
  split_ifs <;> rfl

theorem isLeapYear_emod (year : Int) : isLeapYear (year % 400 + 1) = isLeapYear (year + 1) := by
  rw [Bool.eq_iff_iff, isLeapYear_iff, isLeapYear_iff]
  omega

theorem isCivil_ofMarch_iff (hmonth : 0 ≤ month ∧ month < 12) :
    (ofMarch year month day).IsCivil ↔ 1 ≤ day ∧ day ≤ monthLength year month := by
  have hbounds : 1 ≤ (ofMarch year month day).month ∧ (ofMarch year month day).month ≤ 12 := by
    unfold ofMarch
    split_ifs
    · dsimp only
      omega
    · dsimp only
      omega
  constructor
  · rintro ⟨-, hday⟩
    rwa [day_ofMarch, daysIn_ofMarch hmonth] at hday
  · intro hday
    refine ⟨hbounds, ?_⟩
    rwa [day_ofMarch, daysIn_ofMarch hmonth]

theorem IsCivil.ofEra (hmonth : 0 ≤ month ∧ month < 12) (h : (ofMarch year month day).IsCivil) :
    OfEra (year % 400) (monthStart month + day - 1) := by
  rw [isCivil_ofMarch_iff hmonth] at h
  obtain ⟨hday, hle⟩ := h
  refine ⟨by omega, ?_, ?_⟩
  · unfold monthStart
    omega
  · rw [isLeapYear_emod]
    unfold monthLength monthStart at *
    split_ifs at hle ⊢ <;> omega

theorem IsCivil.month_eq (hmonth : 0 ≤ month ∧ month < 12) (h : (ofMarch year month day).IsCivil) :
    (5 * (monthStart month + day - 1) + 2) / 153 = month := by
  rw [isCivil_ofMarch_iff hmonth] at h
  obtain ⟨hday, hle⟩ := h
  unfold monthLength monthStart at *
  split_ifs at hle <;> omega

theorem OfEra.isCivil (h : OfEra year day) (era : Int) :
    let month := (5 * day + 2) / 153
    (0 ≤ month ∧ month < 12) ∧
      (ofMarch (year + era * 400) month (day - monthStart month + 1)).IsCivil := by
  intro month
  obtain ⟨hyear, hday, hlt⟩ := h
  have hmonth : 0 ≤ month ∧ month < 12 := by
    split_ifs at hlt <;> omega
  refine ⟨hmonth, (isCivil_ofMarch_iff hmonth).mpr ⟨?_, ?_⟩⟩
  · unfold monthStart
    omega
  · have hleap : isLeapYear (year + era * 400 + 1) = isLeapYear (year + 1) := by
      rw [← isLeapYear_emod, ← isLeapYear_emod year, Int.add_mul_emod_self_right]
    unfold monthLength
    rw [hleap]
    unfold monthStart
    split_ifs at hlt ⊢ <;> omega

theorem next_ofMarch (hmonth : 0 ≤ month ∧ month < 12) :
    (ofMarch year month day).next =
      if day < monthLength year month then ofMarch year month (day + 1)
      else if month < 11 then ofMarch year (month + 1) 1
      else ofMarch (year + 1) 0 1 := by
  unfold next
  rw [day_ofMarch, daysIn_ofMarch hmonth]
  split_ifs with hwithin hlast
  · unfold ofMarch
    split_ifs <;> rfl
  all_goals
    obtain ⟨hlow, hhigh⟩ := hmonth
    interval_cases month <;> simp_all [ofMarch]

end March

/-! ### Dates and day counts -/

theorem exists_ofMarch {date : Date} (h : date.IsCivil) :
    ∃ year month day, (0 ≤ month ∧ month < 12) ∧ date = ofMarch year month day := by
  obtain ⟨year, month, day⟩ := date
  obtain ⟨hmonth, -⟩ := h
  dsimp only at hmonth
  by_cases hnew : 3 ≤ month
  · refine ⟨year, month - 3, day, by omega, ?_⟩
    unfold ofMarch
    rw [if_pos (by omega), Int.sub_add_cancel]
  · refine ⟨year - 1, month + 9, day, by omega, ?_⟩
    unfold ofMarch
    rw [if_neg (by omega), Int.sub_add_cancel, Int.add_sub_cancel]

theorem ofDayNumber_eq {era year day : Int} (h : OfEra year day) :
    ofDayNumber (era * 146097 + eraStart year + day - 719468) =
      ofMarch (year + era * 400) ((5 * day + 2) / 153)
        (day - monthStart ((5 * day + 2) / 153) + 1) := by
  have hwithin := h.bounds
  have hera : (era * 146097 + eraStart year + day) / 146097 = era := by omega
  have hday : era * 146097 + eraStart year + day - era * 146097 = eraStart year + day := by omega
  have hofYear : eraStart year + day - (365 * year + year / 4 - year / 100) = day := by
    unfold eraStart
    omega
  unfold ofDayNumber
  simp only [Int.sub_add_cancel, hera, hday, yearOfEra_eq h rfl, hofYear]
  rfl

theorem ofDayNumber_dayNumber {date : Date} (h : date.IsCivil) :
    ofDayNumber date.dayNumber = date := by
  obtain ⟨year, month, day, hmonth, rfl⟩ := exists_ofMarch h
  have hyear : year % 400 + year / 400 * 400 = year := by omega
  have hday : monthStart month + day - 1 - monthStart month + 1 = day := by omega
  rw [dayNumber_ofMarch hmonth, ofDayNumber_eq (h.ofEra hmonth), h.month_eq hmonth, hyear, hday]

/-- **Every day has a date.** -/
theorem exists_dayNumber_eq (count : Int) : ∃ date : Date, date.IsCivil ∧ date.dayNumber = count := by
  have hwithin : 0 ≤ (count + 719468) % 146097 ∧ (count + 719468) % 146097 < 146097 := by omega
  obtain ⟨year, day, h, hday⟩ := exists_ofEra hwithin
  obtain ⟨hmonth, hcivil⟩ := h.isCivil ((count + 719468) / 146097)
  refine ⟨_, hcivil, ?_⟩
  obtain ⟨hyear, -, -⟩ := h
  have hera : (year + (count + 719468) / 146097 * 400) / 400 = (count + 719468) / 146097 := by omega
  have hofEra : (year + (count + 719468) / 146097 * 400) % 400 = year := by omega
  rw [dayNumber_ofMarch hmonth, hera, hofEra]
  omega

theorem isCivil_ofDayNumber (count : Int) : (ofDayNumber count).IsCivil := by
  obtain ⟨date, hcivil, rfl⟩ := exists_dayNumber_eq count
  rwa [ofDayNumber_dayNumber hcivil]

theorem dayNumber_ofDayNumber (count : Int) : (ofDayNumber count).dayNumber = count := by
  obtain ⟨date, hcivil, rfl⟩ := exists_dayNumber_eq count
  rw [ofDayNumber_dayNumber hcivil]

/-- **The next date is that of the next day.** -/
theorem IsCivil.next {date : Date} (h : date.IsCivil) :
    date.next.IsCivil ∧ date.next.dayNumber = date.dayNumber + 1 := by
  obtain ⟨year, month, day, hmonth, rfl⟩ := exists_ofMarch h
  obtain ⟨hday, hle⟩ := (isCivil_ofMarch_iff hmonth).mp h
  rw [next_ofMarch hmonth, dayNumber_ofMarch hmonth]
  by_cases hwithin : day < monthLength year month
  · rw [if_pos hwithin, isCivil_ofMarch_iff hmonth, dayNumber_ofMarch hmonth]
    exact ⟨⟨by omega, by omega⟩, by omega⟩
  rw [if_neg hwithin]
  by_cases hnew : month < 11
  · have hnext : 0 ≤ month + 1 ∧ month + 1 < 12 := by omega
    have hlength : monthLength year month = monthStart (month + 1) - monthStart month :=
      if_neg (by omega)
    rw [if_pos hnew, isCivil_ofMarch_iff hnext, dayNumber_ofMarch hnext]
    refine ⟨⟨by omega, ?_⟩, by omega⟩
    unfold monthLength monthStart
    split_ifs <;> omega
  · -- the last day of February ends the year, and perhaps the era
    have hlast : month = 11 := by omega
    have hfirst : (0 : Int) ≤ 0 ∧ (0 : Int) < 12 := by decide
    have hlength : monthLength year month = if isLeapYear (year + 1) then 29 else 28 :=
      if_pos hlast
    rw [if_neg hnew, isCivil_ofMarch_iff hfirst, dayNumber_ofMarch hfirst]
    rw [hlength] at hwithin hle
    refine ⟨⟨by decide, (by decide : (1 : Int) ≤ 31)⟩, ?_⟩
    subst hlast
    unfold eraStart monthStart
    split_ifs at hwithin hle with hleap <;> rw [isLeapYear_iff] at hleap <;> omega

/-- **The days that are counted one by one** are the dates that there are, with their day counts. -/
theorem isDay_iff {date : Date} {day : Int} :
    date.IsDay day ↔ date.IsCivil ∧ date.dayNumber = day := by
  constructor
  · intro h
    induction h with
    | first => exact ⟨⟨by decide, by decide⟩, rfl⟩
    | next _ ih =>
      obtain ⟨hcivil, rfl⟩ := ih
      exact hcivil.next
    | previous hcivil _ ih =>
      have hnext := hcivil.next.2
      exact ⟨hcivil, by omega⟩
  · rintro ⟨hcivil, rfl⟩
    have hnext : ∀ count, (ofDayNumber count).next = ofDayNumber (count + 1) := fun count => by
      obtain ⟨hnext, hnumber⟩ := (isCivil_ofDayNumber count).next
      rw [← ofDayNumber_dayNumber hnext, hnumber, dayNumber_ofDayNumber]
    have hall : ∀ count : Int, IsDay (ofDayNumber count) count := fun count => by
      induction count with
      | zero => exact .first
      | succ n ih => exact hnext n ▸ ih.next
      | pred n ih =>
        refine .previous (isCivil_ofDayNumber _) ?_
        rw [hnext, Int.sub_add_cancel]
        exact ih
    have hday := hall date.dayNumber
    rwa [ofDayNumber_dayNumber hcivil] at hday

theorem isDay_ofDayNumber (day : Int) : (ofDayNumber day).IsDay day :=
  isDay_iff.mpr ⟨isCivil_ofDayNumber day, dayNumber_ofDayNumber day⟩

theorem IsDay.eq_ofDayNumber {date : Date} {day : Int} (h : date.IsDay day) :
    date = ofDayNumber day := by
  obtain ⟨hcivil, rfl⟩ := isDay_iff.mp h
  exact (ofDayNumber_dayNumber hcivil).symm

theorem year_ofDayNumber_bounds {count : Int} (h : -719164 ≤ count ∧ count ≤ 2932896) :
    0 ≤ (ofDayNumber count).year ∧ (ofDayNumber count).year < 10 ^ 4 := by
  obtain ⟨⟨year, month, day⟩, ⟨hmonth, hday, hle⟩, rfl⟩ := exists_dayNumber_eq count
  rw [ofDayNumber_dayNumber ⟨hmonth, hday, hle⟩]
  have hlong : day ≤ 31 := by
    refine hle.trans ?_
    unfold daysIn
    split_ifs <;> omega
  unfold dayNumber at h
  dsimp only at *
  split_ifs at h <;> omega

end Date

/-! ### Texts of dates -/

namespace Text

theorem length_padded {width n : Nat} (hwidth : 0 < width) (h : n < 10 ^ width) :
    (padded width n).toList.length = width := by
  have hle := (Nat.length_toDigits_le_iff (by decide : 1 < 10) hwidth).mpr h
  simp only [padded, String.toList_ofList, List.length_append, List.length_replicate]
  omega

/-- **The digits of a number** tell the number. -/
theorem padded_inj {width n m : Nat} (h : (padded width n).toList = (padded width m).toList) :
    n = m := by
  have hvalue (n : Nat) : Nat.ofDigitChars 10 (padded width n).toList 0 = n := by
    simp [padded, Nat.ofDigitChars_append, Nat.ofDigitChars_replicate_zero,
      Nat.ofDigitChars_ten_toDigits]
  rw [← hvalue n, h, hvalue]

end Text

namespace Date

/-- **A date whose text has ten characters.** -/
structure IsShort (date : Date) : Prop where
  year_bounds : 0 ≤ date.year ∧ date.year < 10 ^ 4
  month_bounds : 0 ≤ date.month ∧ date.month < 10 ^ 2
  day_bounds : 0 ≤ date.day ∧ date.day < 10 ^ 2

theorem isShort_ofDayNumber {count : Int} (h : -719164 ≤ count ∧ count ≤ 2932896) :
    (ofDayNumber count).IsShort := by
  obtain ⟨hmonth, hday, hle⟩ := isCivil_ofDayNumber count
  have hlong : daysIn (ofDayNumber count).year (ofDayNumber count).month ≤ 31 := by
    unfold daysIn
    split_ifs <;> omega
  exact ⟨year_ofDayNumber_bounds h, by omega, by omega⟩

variable {date other : Date}

theorem IsShort.length_dateText (h : date.IsShort) :
    (Instant.dateText date).toList.length = 10 := by
  obtain ⟨hyear, hmonth, hday⟩ := h
  simp only [Instant.dateText, String.toList_append, List.length_append,
    Text.length_padded (by decide : 0 < 4) (by omega : date.year.toNat < 10 ^ 4),
    Text.length_padded (by decide : 0 < 2) (by omega : date.month.toNat < 10 ^ 2),
    Text.length_padded (by decide : 0 < 2) (by omega : date.day.toNat < 10 ^ 2)]
  rfl

/-- **Different dates have different texts.** -/
theorem IsShort.eq_of_dateText_eq (h : date.IsShort) (hother : other.IsShort)
    (htext : Instant.dateText date = Instant.dateText other) : date = other := by
  obtain ⟨hyear, hmonth, hday⟩ := h
  obtain ⟨hyear', hmonth', hday'⟩ := hother
  have hlist := congrArg String.toList htext
  simp only [Instant.dateText, String.toList_append] at hlist
  -- the parts have the same widths
  obtain ⟨hlist, hdays⟩ := List.append_inj' hlist
    (by rw [Text.length_padded (by decide) (by omega), Text.length_padded (by decide) (by omega)])
  obtain ⟨hlist, -⟩ := List.append_inj' hlist rfl
  obtain ⟨hlist, hmonths⟩ := List.append_inj' hlist
    (by rw [Text.length_padded (by decide) (by omega), Text.length_padded (by decide) (by omega)])
  obtain ⟨hyears, -⟩ := List.append_inj' hlist rfl
  have := Text.padded_inj hyears
  have := Text.padded_inj hmonths
  have := Text.padded_inj hdays
  cases date
  cases other
  simp only [mk.injEq]
  dsimp only at *
  omega

end Date

end Promotions
