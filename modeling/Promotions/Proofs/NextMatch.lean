import Promotions.Proofs.Expressions
import Promotions.Proofs.Windows

/-!
# The next minute that an expression means

A cron expression means the minutes whose date, hour and day of the week are among what its fields
stand for (`CronExpression.Matches`), on the calendar that is counted day by day. The search for the
next one is left to a library (`CronSearch`), of which it is asked that it yields the least match on
the clock of a zone (`CronSearch.YieldsLeast`). Then the next run is the first instant after its
base that the expression means, and the base counts as the instant that it denotes, however it is
spelled.

The search minute by minute is such a library (`CronSearch.exact_yieldsLeast`): the minutes of an
expression are those at which the timetable is due that is read from its text
(`CronExpression.IsReadAs.matches_iff_isDue`). The standard one counts the seconds of its base in a
double, which from 2514 on, and as far back, takes the last microseconds of a second for the next
one; what it may pass over is a minute that begins right after these (`CronSearch.standard_next`).
-/

namespace Promotions

/-- A cron expression, by the items of its five fields. -/
structure CronExpression where
  minutes : List CronItem
  hours : List CronItem
  monthDays : List CronItem
  months : List CronItem
  weekdays : List CronItem

namespace CronExpression

/-- **The text of an expression**: five words, one for each field. The case of letters does not
count. -/
def IsWritten (e : CronExpression) (text : String) : Prop :=
  ∃ minute hour monthDay month weekday,
    Text.words (text.toList.map Char.toLower) = [minute, hour, monthDay, month, weekday] ∧
    CronField.minute.IsWritten e.minutes minute ∧ CronField.hour.IsWritten e.hours hour ∧
    CronField.monthDay.IsWritten e.monthDays monthDay ∧
    CronField.month.IsWritten e.months month ∧ CronField.weekday.IsWritten e.weekdays weekday

/-- Some day field is free to be any day. -/
def HasFreeDay (e : CronExpression) : Prop :=
  CronField.monthDay.IsFree e.monthDays e.weekdays ∨
    CronField.weekday.IsFree e.weekdays e.monthDays

/-- **A day is one of the expression.** If neither day field is free, one of them is enough. -/
structure MatchesDay (e : CronExpression) (date : Date) (day : Int) : Prop where
  month : CronField.month.Means e.months date.month.toNat
  both : e.HasFreeDay → CronField.monthDay.Means e.monthDays date.day.toNat ∧
    CronField.weekday.Means e.weekdays (Date.weekday day).toNat
  either : ¬e.HasFreeDay → CronField.monthDay.Means e.monthDays date.day.toNat ∨
    CronField.weekday.Means e.weekdays (Date.weekday day).toNat

/-- **An instant is one of the expression**: the start of a minute that is one, on a day that is
one. -/
def Matches (e : CronExpression) (t : Instant) : Prop :=
  ∃ (date : Date) (day : Int) (hour minute : Nat), date.IsDay day ∧ hour < 24 ∧ minute < 60 ∧
    t.micros = ((day * 24 + hour) * 60 + minute) * Instant.minute ∧ e.MatchesDay date day ∧
    CronField.hour.Means e.hours hour ∧ CronField.minute.Means e.minutes minute

/-- **A timetable has the values of an expression.** -/
structure IsReadAs (e : CronExpression) (cron : Cron) : Prop where
  minutes : ∀ n, n ∈ cron.minutes ↔ CronField.minute.Means e.minutes n
  hours : ∀ n, n ∈ cron.hours ↔ CronField.hour.Means e.hours n
  monthDays : ∀ n, n ∈ cron.monthDays ↔ CronField.monthDay.Means e.monthDays n
  months : ∀ n, n ∈ cron.months ↔ CronField.month.Means e.months n
  weekdays : ∀ n, n ∈ cron.weekdays ↔ CronField.weekday.Means e.weekdays n
  anyMonthDay : cron.anyMonthDay = true ↔ CronField.monthDay.IsFree e.monthDays e.weekdays
  anyWeekday : cron.anyWeekday = true ↔ CronField.weekday.IsFree e.weekdays e.monthDays

open CronField

/-- **Reading an expression.** -/
theorem read?_of_isWritten {e : CronExpression} {text : String} (h : e.IsWritten text) :
    ∃ cron, Cron.read? text = some cron ∧ e.IsReadAs cron := by
  obtain ⟨minute, hour, monthDay, month, weekday, hwords, hminute, hhour, hmonthDay, hmonth,
    hweekday⟩ := h
  obtain ⟨minutes, hminutes, hminuteMeans, -⟩ := values?_of_isWritten isProper_minute hminute
  obtain ⟨hours, hhours, hhourMeans, -⟩ := values?_of_isWritten isProper_hour hhour
  obtain ⟨monthDays, hmonthDays, hmonthDayMeans, hmonthDaySize⟩ :=
    values?_of_isWritten isProper_monthDay hmonthDay
  obtain ⟨months, hmonths, hmonthMeans, -⟩ := values?_of_isWritten isProper_month hmonth
  obtain ⟨weekdays, hweekdays, hweekdayMeans, hweekdaySize⟩ :=
    values?_of_isWritten isProper_weekday hweekday
  have hanyMonthDay :=
    isOpen_iff isProper_monthDay isProper_weekday hmonthDay hweekday hmonthDaySize
  have hanyWeekday :=
    isOpen_iff isProper_weekday isProper_monthDay hweekday hmonthDay hweekdaySize
  refine ⟨⟨minutes, hours, monthDays, months, weekdays, _, _⟩, ?_, hminuteMeans, hhourMeans,
    hmonthDayMeans, hmonthMeans, hweekdayMeans, hanyMonthDay, hanyWeekday⟩
  unfold Cron.read?
  simp only [hwords, hminutes, hhours, hmonthDays, hmonths, hweekdays]
  rfl

/-- **Every text that can be read is that of an expression.** -/
theorem exists_of_read? {text : String} {cron : Cron} (h : Cron.read? text = some cron) :
    ∃ e : CronExpression, e.IsWritten text := by
  unfold Cron.read? at h
  split at h
  · next minute hour monthDay month weekday hwords =>
    obtain ⟨_, hminute, h⟩ := Option.bind_eq_some_iff.mp h
    obtain ⟨_, hhour, h⟩ := Option.bind_eq_some_iff.mp h
    obtain ⟨_, hmonthDay, h⟩ := Option.bind_eq_some_iff.mp h
    obtain ⟨_, hmonth, h⟩ := Option.bind_eq_some_iff.mp h
    obtain ⟨_, hweekday, -⟩ := Option.bind_eq_some_iff.mp h
    obtain ⟨minutes, hminutes⟩ := exists_of_values? isProper_minute hminute
    obtain ⟨hours, hhours⟩ := exists_of_values? isProper_hour hhour
    obtain ⟨monthDays, hmonthDays⟩ := exists_of_values? isProper_monthDay hmonthDay
    obtain ⟨months, hmonths⟩ := exists_of_values? isProper_month hmonth
    obtain ⟨weekdays, hweekdays⟩ := exists_of_values? isProper_weekday hweekday
    exact ⟨⟨minutes, hours, monthDays, months, weekdays⟩, minute, hour, monthDay, month, weekday,
      hwords, hminutes, hhours, hmonthDays, hmonths, hweekdays⟩
  · cases h

section Matching
variable {e : CronExpression} {cron : Cron} (h : e.IsReadAs cron)
include h

theorem IsReadAs.hasFreeDay_iff : e.HasFreeDay ↔ (cron.anyMonthDay || cron.anyWeekday) = true := by
  rw [Bool.or_eq_true, h.anyMonthDay, h.anyWeekday]
  exact Iff.rfl

/-- **A day is one of the timetable if it is one of the expression.** A free field has the day in
any case. -/
theorem IsReadAs.matchesDay_iff (day : Int) :
    cron.matchesDay day = true ↔ e.MatchesDay (Date.ofDayNumber day) day := by
  have hdate : CronField.monthDay.holds (Date.ofDayNumber day).day.toNat = true := by
    obtain ⟨-, hlow, hhigh⟩ := Date.isCivil_ofDayNumber day
    have hlong : Date.daysIn (Date.ofDayNumber day).year (Date.ofDayNumber day).month ≤ 31 := by
      unfold Date.daysIn
      split_ifs <;> decide
    rw [holds_iff]
    dsimp only [CronField.monthDay]
    omega
  have hweek : CronField.weekday.holds (Date.weekday day).toNat = true := by
    rw [holds_iff]
    dsimp only [CronField.weekday, Date.weekday]
    omega
  have hbyDate (hany : cron.anyMonthDay = true) :
      cron.monthDays.contains (Date.ofDayNumber day).day.toNat = true :=
    List.contains_iff_mem.mpr ((h.monthDays _).mpr ((h.anyMonthDay.mp hany).means hdate))
  have hbyWeekday (hany : cron.anyWeekday = true) :
      cron.weekdays.contains (Date.weekday day).toNat = true :=
    List.contains_iff_mem.mpr ((h.weekdays _).mpr ((h.anyWeekday.mp hany).means hweek))
  have hrule : e.MatchesDay (Date.ofDayNumber day) day ↔
      cron.months.contains (Date.ofDayNumber day).month.toNat = true ∧
      (e.HasFreeDay → cron.monthDays.contains (Date.ofDayNumber day).day.toNat = true ∧
        cron.weekdays.contains (Date.weekday day).toNat = true) ∧
      (¬e.HasFreeDay → cron.monthDays.contains (Date.ofDayNumber day).day.toNat = true ∨
        cron.weekdays.contains (Date.weekday day).toNat = true) := by
    simp only [List.contains_iff_mem, h.months, h.monthDays, h.weekdays]
    constructor
    · rintro ⟨hmonth, hboth, heither⟩
      exact ⟨hmonth, hboth, heither⟩
    · rintro ⟨hmonth, hboth, heither⟩
      exact ⟨hmonth, hboth, heither⟩
  rw [hrule, h.hasFreeDay_iff]
  unfold Cron.matchesDay
  dsimp only
  rw [Bool.and_eq_true]
  refine and_congr_right fun _ => ?_
  cases hmonthDay : cron.anyMonthDay <;> cases hweekday : cron.anyWeekday <;> simp_all

theorem IsReadAs.matchesTime_iff (minute : Nat) : cron.matchesTime minute = true ↔
    CronField.hour.Means e.hours (minute / 60) ∧ CronField.minute.Means e.minutes (minute % 60) := by
  unfold Cron.matchesTime
  rw [Bool.and_eq_true, List.contains_iff_mem, List.contains_iff_mem, h.hours, h.minutes]

/-- **A timetable is due when its expression matches.** -/
theorem IsReadAs.matches_iff_isDue (t : Instant) : e.Matches t ↔ cron.IsDue t := by
  constructor
  · rintro ⟨date, day, hour, minute, hdate, hhour, hminute, ht, hday, hhours, hminutes⟩
    obtain rfl := hdate.eq_ofDayNumber
    have hplace : hour * 60 + minute < Cron.dayLength := by
      unfold Cron.dayLength
      omega
    have hofHour : (hour * 60 + minute) / 60 = hour := by omega
    have hofMinute : (hour * 60 + minute) % 60 = minute := by omega
    have htime : cron.matchesTime (hour * 60 + minute) = true := by
      rw [h.matchesTime_iff, hofHour, hofMinute]
      exact ⟨hhours, hminutes⟩
    refine ⟨day * Cron.dayLength + (hour * 60 + minute : Nat), ?_, ?_⟩
    · rw [ht]
      unfold Cron.dayLength Instant.minute
      omega
    · rw [Cron.matchesMinute_add cron day hplace, (h.matchesDay_iff day).mpr hday, htime]
      rfl
  · rintro ⟨m, ht, hm⟩
    obtain ⟨hlow, hhigh⟩ : m / Cron.dayLength * Cron.dayLength ≤ m ∧
        m < (m / Cron.dayLength + 1) * Cron.dayLength := by
      unfold Cron.dayLength
      omega
    obtain ⟨place, hplace, hsplit⟩ := Cron.exists_minute hlow hhigh
    rw [hsplit, Cron.matchesMinute_add cron _ hplace, Bool.and_eq_true] at hm
    obtain ⟨hday, htime⟩ := hm
    obtain ⟨hhours, hminutes⟩ := (h.matchesTime_iff place).mp htime
    unfold Cron.dayLength at hplace hsplit
    refine ⟨_, m / Cron.dayLength, place / 60, place % 60, Date.isDay_ofDayNumber _, by omega,
      by omega, ?_, (h.matchesDay_iff _).mp hday, hhours, hminutes⟩
    rw [ht]
    unfold Cron.dayLength Instant.minute
    omega

end Matching

end CronExpression

/-! ### The base -/

namespace Instant

/-- The microseconds of a second that may count as the next one, in the years 1 to 9999. -/
theorem countedSecond_le {t : Instant} (h : t.isStorable = true) :
    t.countedSecond.micros ≤ t.micros + 15 := by
  have hbounds : -62135596800000000 ≤ t.micros ∧ t.micros ≤ 253402300799999999 := by
    unfold isStorable at h
    rw [Bool.and_eq_true, decide_eq_true_eq, decide_eq_true_eq] at h
    exact h
  have hpower : 2 ^ Nat.log2 (t.micros.natAbs / 1000000) ≤ 2 ^ 37 :=
    Nat.pow_le_pow_right (by decide) (log2_le (by omega))
  unfold countedSecond
  dsimp only
  split_ifs with hmissing
  · rw [Nat.shiftLeft_eq, Nat.shiftLeft_eq] at hmissing
    unfold later wholeSecond second at *
    dsimp only
    omega
  · unfold wholeSecond second
    dsimp only
    omega

end Instant

/-! ### Libraries that search -/

namespace CronSearch

/-- **A library yields the least match** on the clock of a zone: what it finds for the text of an
expression is the first instant after its base that the expression means. -/
def YieldsLeast (search : CronSearch) (zone : Zone) : Prop :=
  ∀ (text : String) (e : CronExpression) (base next : Instant), e.IsWritten text →
    search.next text zone base = .ok next →
      e.Matches (zone.toLocal next) ∧ base < next ∧
        ∀ t, e.Matches (zone.toLocal t) → base < t → next ≤ t

/-- **The search takes a text if it is that of an expression.** -/
theorem isValid_exact_iff {text : String} :
    exact.isValid text = true ↔ ∃ e : CronExpression, e.IsWritten text := by
  show (Cron.read? text).isSome = true ↔ _
  rw [Option.isSome_iff_exists]
  constructor
  · rintro ⟨cron, hcron⟩
    exact CronExpression.exists_of_read? hcron
  · rintro ⟨e, he⟩
    obtain ⟨cron, hcron, -⟩ := e.read?_of_isWritten he
    exact ⟨cron, hcron⟩

/-- **The search minute by minute yields the least match.** -/
theorem exact_yieldsLeast : exact.YieldsLeast .utc := by
  intro text e base next he h
  obtain ⟨cron, hcron, hvalues⟩ := e.read?_of_isWritten he
  have hnext := Cron.isNextAfter_of_exact hcron h
  simp only [Zone.toLocal_utc, hvalues.matches_iff_isDue]
  exact ⟨hnext.isDue, hnext.after_base, hnext.least⟩

/-- **What the standard library passes over**: it yields a match after its base, and if it passes
over one, then that begins at most 15 microseconds after the base, in years so far away that a
double does not tell these from none. -/
theorem standard_next {text : String} {e : CronExpression} {base next t : Instant}
    (he : e.IsWritten text) (hbase : base.isStorable = true)
    (h : nextRun base text "UTC" = .ok next) :
    e.Matches next ∧ base < next ∧
      (e.Matches t → base < t → t < next →
        t.micros ≤ base.micros + 15 ∧ (1 <<< 34) * 1000000 ≤ base.micros.natAbs) := by
  obtain ⟨cron, hcron, hvalues⟩ := e.read?_of_isWritten he
  have hzone : Zone.find? "UTC" = some .utc := by decide
  have hnext := Cron.isNextAfter_of_nextRun hcron hzone h
  refine ⟨(hvalues.matches_iff_isDue next).mpr hnext.isDue, Cron.lt_of_nextRun hcron hzone h,
    fun ht hfrom hto => ?_⟩
  have hdue := (hvalues.matches_iff_isDue t).mp ht
  have hcounted : t.micros ≤ base.countedSecond.micros := by
    by_contra hlate
    have hle : next.micros ≤ t.micros := hnext.least t hdue (Int.not_le.mp hlate)
    have hto : t.micros < next.micros := hto
    omega
  refine ⟨hcounted.trans (Instant.countedSecond_le hbase), ?_⟩
  -- nearer to the start of 1970 the base counts as its own second, which is not after it
  by_contra hnear
  have hwhole := Instant.countedSecond_eq_wholeSecond (Nat.not_le.mp hnear)
  have hsecond : base.wholeSecond.micros = base.micros / 1000000 * 1000000 := rfl
  have hfrom : base.micros < t.micros := hfrom
  rw [hwhole, hsecond] at hcounted
  omega

end CronSearch

theorem CronExpression.Matches.whole_minute {e : CronExpression} {t : Instant} (h : e.Matches t) :
    t.micros % Instant.minute = 0 := by
  obtain ⟨_, day, hour, minute, -, -, -, ht, -⟩ := h
  rw [ht]
  exact Int.mul_emod_left _ Instant.minute

/-- **The next run is the least match.** Let a library yield the least match on the clock of UTC.
Then the next run that is worked out with it for the text of an expression is the first minute after
the base that the expression means, and only the instant that the base denotes counts. -/
theorem next_run_is_least_match {search : CronSearch} (hsearch : search.YieldsLeast .utc)
    {e : CronExpression} {base : Timestamp} {text zone : String} {next : Instant}
    (he : e.IsWritten text) (hzone : Zone.find? zone = some .utc)
    (h : search.nextRunAfter base text zone = .ok next) :
    base.instant < next ∧ next.micros % Instant.minute = 0 ∧ e.Matches next ∧
      (∀ t, e.Matches t → base.instant < t → next ≤ t) ∧
      ∀ other : Timestamp, other.instant = base.instant →
        search.nextRunAfter other text zone = .ok next := by
  obtain ⟨hvalid, found, utc, hfound, hutc, hlocal, hnext, hstorable⟩ :=
    CronSearch.nextRunAfter_eq_ok_iff.mp h
  obtain rfl := Option.some.inj (hfound.symm.trans hzone)
  rw [Zone.toLocal_utc] at hlocal
  rw [Timestamp.utc?_eq, Option.ite_none_right_eq_some, Option.some.injEq] at hutc
  obtain ⟨-, rfl⟩ := hutc
  obtain ⟨hmatches, hafter, hleast⟩ := hsearch text e base.instant next he hnext
  simp only [Zone.toLocal_utc] at hmatches hleast
  refine ⟨hafter, hmatches.whole_minute, hmatches, hleast, fun other hother => ?_⟩
  have hread : other.utc? = some base.instant := by
    rw [Timestamp.utc?_eq, hother, if_pos (Or.inr hlocal)]
  exact CronSearch.nextRunAfter_eq_ok_iff.mpr
    ⟨hvalid, .utc, base.instant, hzone, hread, by rwa [Zone.toLocal_utc], hnext, hstorable⟩

namespace CronExpression

/-- Every twenty minutes of some hours of the night, of a leap day or a Sunday in February. -/
def winterNights : CronExpression where
  minutes := [.all (some 20)]
  hours := [.range (.number 22) (.number 5) (some 3)]
  monthDays := [.single (.number 29) none]
  months := [.single (.name 1) none]
  weekdays := [.single (.number 7) none]

theorem isWritten_winterNights : winterNights.IsWritten "*/20 22-5/3 29 Feb 7" := by
  refine ⟨['*', '/', '2', '0'], ['2', '2', '-', '5', '/', '3'], ['2', '9'], ['f', 'e', 'b'],
    ['7'], by decide, ⟨?_, ?_⟩, ⟨?_, ?_⟩, ⟨?_, ?_⟩, ⟨?_, ?_⟩, ⟨?_, ?_⟩⟩
  · exact List.forall_mem_singleton.mpr (by decide : some 20 ≠ some 0)
  · exact .cons ⟨_, ⟨['2', '0'], by decide, rfl⟩, rfl⟩ .nil
  · exact List.forall_mem_singleton.mpr ⟨by decide, by decide, by decide, by decide⟩
  · exact .cons ⟨['2', '2'], ['5'], _, by decide, by decide, ⟨['3'], by decide, rfl⟩, rfl⟩ .nil
  · exact List.forall_mem_singleton.mpr ⟨nofun, by decide⟩
  · exact .cons ⟨['2', '9'], [], by decide, rfl, rfl⟩ .nil
  · exact List.forall_mem_singleton.mpr ⟨nofun, by decide⟩
  · exact .cons ⟨['f', 'e', 'b'], [], by decide, rfl, rfl⟩ .nil
  · exact List.forall_mem_singleton.mpr ⟨nofun, by decide⟩
  · exact .cons ⟨['7'], [], by decide, rfl, rfl⟩ .nil

end CronExpression

/-- The base is the last half second of February 2026 in Tokyo. The next run is at 2 o'clock of the
first Sunday of the next February, since the range takes three hours from 22 on and leaves out what
is left of the third one. -/
theorem next_run_is_least_match_winterNights :
    let base : Timestamp := ⟨⟨1772323199500000⟩, some 540⟩
    let next : Instant := ⟨1801965600000000⟩
    CronSearch.exact.YieldsLeast .utc ∧
    CronExpression.winterNights.IsWritten "*/20 22-5/3 29 Feb 7" ∧
    CronSearch.exact.nextRunAfter base "*/20 22-5/3 29 Feb 7" "UTC" = .ok next ∧
    CronExpression.winterNights.Matches next ∧ base.instant < next ∧
    (∀ t, CronExpression.winterNights.Matches t → base.instant < t → next ≤ t) ∧
    CronSearch.exact.nextRunAfter { reading := base.instant } "*/20 22-5/3 29 Feb 7" "UTC" =
      .ok next := by
  intro base next
  have hrun : CronSearch.exact.nextRunAfter base "*/20 22-5/3 29 Feb 7" "UTC" = .ok next := by
    decide +kernel
  obtain ⟨hafter, -, hmatches, hleast, hspelled⟩ :=
    next_run_is_least_match CronSearch.exact_yieldsLeast CronExpression.isWritten_winterNights
      (by decide) hrun
  exact ⟨CronSearch.exact_yieldsLeast, CronExpression.isWritten_winterNights, hrun, hmatches, hafter,
    hleast, hspelled _ rfl⟩

end Promotions
