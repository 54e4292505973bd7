import Mathlib.Tactic.SplitIfs
import Promotions.Timetable

/-!
# The next run is the least match

A timetable is due at the start of a minute that it means (`Cron.IsDue`). The search for the next
run goes through days and, on a day that matches, through the minutes of the day; if both day fields
are restricted it is done once for each of them, and the earlier result wins. What all of this finds
is the first due instant after the base (`Cron.IsNextAfter`), since what one search did not find in
its years the other one would have to find there (`Found.earlierRun`).

The base is a reading in seconds that are counted in a double. In the years before 2514 this cuts
off the fraction of a second (`Instant.countedSecond_eq_wholeSecond`), which no due instant lies in;
later the last microseconds of a second count as the next second (`Instant.countedSecond_cases`).
-/

namespace Promotions

namespace Cron

/-- **A timetable is due** at the start of a minute that it means. -/
def IsDue (cron : Cron) (t : Instant) : Prop :=
  ∃ minute : Int, t.micros = minute * Instant.minute ∧ cron.matchesMinute minute = true

/-- **The first due instant after a base.** -/
structure IsNextAfter (cron : Cron) (base next : Instant) : Prop where
  isDue : cron.IsDue next
  after_base : base < next
  least : ∀ t, cron.IsDue t → base < t → next ≤ t

end Cron

/-! ### Searches -/

/-- **A search finds the first number** of a range that has a property, if there is one. -/
structure Finds (p : Int → Bool) (low high : Int) (found : Option Int) : Prop where
  holds : ∀ n, found = some n → low ≤ n ∧ n < high ∧ p n = true
  least : ∀ m, low ≤ m → m < high → p m = true → ∃ n, found = some n ∧ n ≤ m

namespace Finds

variable {p : Int → Bool} {low middle high : Int} {found : Option Int}

theorem of_nothing (h : ∀ m, low ≤ m → m < high → p m = false) : Finds p low high none where
  holds := nofun
  least m hlow hhigh hm := by
    rw [h m hlow hhigh] at hm
    cases hm

theorem append (hlow : low ≤ middle) (hnone : Finds p low middle none)
    (h : Finds p middle high found) : Finds p low high found where
  holds n hn := by
    obtain ⟨hmiddle, hhigh, hpn⟩ := h.holds n hn
    exact ⟨by omega, hhigh, hpn⟩
  least m hm hhigh hpm := by
    by_cases hmiddle : m < middle
    · obtain ⟨n, hn, -⟩ := hnone.least m hm hmiddle hpm
      cases hn
    · exact h.least m (by omega) hhigh hpm

theorem mono {n : Int} (h : Finds p low middle (some n)) (hmiddle : middle ≤ high) :
    Finds p low high (some n) where
  holds k hk := by
    obtain ⟨hlow, hto, hpk⟩ := h.holds k hk
    exact ⟨hlow, by omega, hpk⟩
  least m hm hhigh hpm := by
    obtain ⟨-, hto, -⟩ := h.holds n rfl
    by_cases hwithin : m < middle
    · exact h.least m hm hwithin hpm
    · exact ⟨n, rfl, by omega⟩

end Finds

namespace Cron

variable (cron : Cron)

theorem matchesMinute_add (day : Int) {minute : Nat} (h : minute < dayLength) :
    cron.matchesMinute (day * dayLength + minute) =
      (cron.matchesDay day && cron.matchesTime minute) := by
  have hday : (day * (dayLength : Int) + minute) / dayLength = day := by
    unfold dayLength at h ⊢
    omega
  have htime : ((day * (dayLength : Int) + minute) % dayLength).toNat = minute := by
    unfold dayLength at h ⊢
    omega
  unfold matchesMinute
  rw [hday, htime]

theorem exists_minute {day m : Int} (hlow : day * dayLength ≤ m) (hhigh : m < (day + 1) * dayLength) :
    ∃ minute : Nat, minute < dayLength ∧ m = day * dayLength + minute := by
  refine ⟨(m - day * dayLength).toNat, ?_, ?_⟩
  · unfold dayLength at hlow hhigh ⊢
    omega
  · unfold dayLength at hlow hhigh ⊢
    omega

theorem finds_firstTime? {day : Int} (hday : cron.matchesDay day = true) (start : Nat) :
    Finds cron.matchesMinute (day * dayLength + start) ((day + 1) * dayLength)
      ((cron.firstTime? start).map fun minute : Nat => day * dayLength + minute) where
  holds n hn := by
    obtain ⟨minute, hfound, rfl⟩ := Option.map_eq_some_iff.mp hn
    obtain ⟨hholds, hminute, -⟩ := List.find?_range_eq_some.mp hfound
    have hminute : minute < dayLength := List.mem_range.mp hminute
    obtain ⟨hstart, htime⟩ : start ≤ minute ∧ cron.matchesTime minute = true := by
      simpa using hholds
    refine ⟨by omega, ?_, ?_⟩
    · unfold dayLength at hminute ⊢
      omega
    · rw [matchesMinute_add cron day hminute, hday, htime]
      rfl
  least m hlow hhigh hm := by
    obtain ⟨minute, hminute, rfl⟩ := exists_minute (by omega : day * (dayLength : Int) ≤ m) hhigh
    have hstart : start ≤ minute := by omega
    have htime : cron.matchesTime minute = true := by
      rw [matchesMinute_add cron day hminute, hday, Bool.true_and] at hm
      exact hm
    cases hfound : cron.firstTime? start with
    | none =>
      have hnone := List.find?_range_eq_none.mp hfound minute hminute
      simp [hstart, htime] at hnone
    | some first =>
      obtain ⟨-, -, hleast⟩ := List.find?_range_eq_some.mp hfound
      have hnot : ¬minute < first := by
        intro hbefore
        have hnone := hleast minute hbefore
        simp [hstart, htime] at hnone
      exact ⟨day * dayLength + first, rfl, by omega⟩

theorem finds_of_not_matchesDay {day : Int} (hday : cron.matchesDay day = false) (start : Nat) :
    Finds cron.matchesMinute (day * dayLength + start) ((day + 1) * dayLength) none := by
  refine .of_nothing fun m hlow hhigh => ?_
  obtain ⟨minute, hminute, rfl⟩ := exists_minute (by omega : day * (dayLength : Int) ≤ m) hhigh
  rw [matchesMinute_add cron day hminute, hday, Bool.false_and]

/-- **The search of a number of days**, by induction on it: what the first day has not is left to
the others, which are searched from their start. -/
theorem finds_search? (days : Nat) (day : Int) {start : Nat} (hstart : start ≤ dayLength) :
    Finds cron.matchesMinute (day * dayLength + start) ((day + days) * dayLength)
      (cron.search? days day start) := by
  induction days generalizing day start with
  | zero =>
    refine .of_nothing fun m hlow hhigh => ?_
    exfalso
    simp only [Int.natCast_zero, Int.add_zero] at hhigh
    omega
  | succ days ih =>
    have hrest := ih (day + 1) (Nat.zero_le dayLength)
    have hend : (day + 1 + (days : Int)) * dayLength = (day + ((days + 1 : Nat) : Int)) * dayLength := by
      unfold dayLength
      omega
    have hnext : (day + 1) * (dayLength : Int) + (0 : Nat) = (day + 1) * dayLength := by omega
    have hmiddle : day * (dayLength : Int) + start ≤ (day + 1) * dayLength := by
      unfold dayLength at hstart ⊢
      omega
    rw [hend, hnext] at hrest
    unfold search?
    cases hday : cron.matchesDay day with
    | false =>
      simp only [Bool.false_eq_true, if_false]
      exact .append hmiddle (finds_of_not_matchesDay cron hday start) hrest
    | true =>
      have hfirst := finds_firstTime? cron hday start
      simp only [if_true]
      cases htime : cron.firstTime? start with
      | none =>
        rw [htime, Option.map_none] at hfirst
        exact .append hmiddle hfirst hrest
      | some minute =>
        rw [htime, Option.map_some] at hfirst
        have hwithin : (day + 1) * (dayLength : Int) ≤ (day + ((days + 1 : Nat) : Int)) * dayLength := by
          unfold dayLength
          omega
        exact hfirst.mono hwithin

/-- The minute with which the days of a search end. -/
def searchEnd (minute : Int) : Int := ((minute + 1) / dayLength + horizonDays) * dayLength

/-- **The search for the next minute.** -/
theorem finds_next? (minute : Int) :
    Finds cron.matchesMinute (minute + 1) (searchEnd minute) (cron.next? minute) := by
  have hstart : ((minute + 1) % (dayLength : Int)).toNat ≤ dayLength := by
    unfold dayLength
    omega
  have hsearch := finds_search? cron horizonDays ((minute + 1) / dayLength) hstart
  have hbegin : (minute + 1) / (dayLength : Int) * dayLength +
      ((minute + 1) % (dayLength : Int)).toNat = minute + 1 := by
    unfold dayLength
    omega
  rw [hbegin] at hsearch
  exact hsearch

end Cron

/-! ### The next run -/

/-- **A result of a search for the next run**: the start of the first minute of a range that has a
property. If it never finds one, there is none in the range; other faults say nothing. -/
structure Found (p : Int → Bool) (low high : Int) (result : Except TimetableFault Instant) :
    Prop where
  holds : ∀ t, result = .ok t →
    ∃ n, t.micros = n * Instant.minute ∧ low ≤ n ∧ n < high ∧ p n = true
  least : ∀ m, low ≤ m → m < high → p m = true →
    result ≠ .error .neverDue ∧ ∀ t, result = .ok t → t.micros ≤ m * Instant.minute

namespace Found

variable {p q : Int → Bool} {low high : Int} {first second : Except TimetableFault Instant}

theorem of_fault {fault : TimetableFault} (h : fault ≠ .neverDue) :
    Found p low high (.error fault) where
  holds := nofun
  least _ _ _ _ := ⟨fun hfault => h (Except.error.inj hfault), nofun⟩

theorem never : Found (fun _ => false) low high (.error .neverDue) where
  holds := nofun
  least := nofun

theorem of_finds {n : Int} (h : Finds p low high (some n)) :
    Found p low high (.ok ⟨n * Instant.minute⟩) where
  holds t ht := by
    rw [← Except.ok.inj ht]
    exact ⟨n, rfl, h.holds n rfl⟩
  least m hlow hhigh hm := by
    obtain ⟨k, hk, hle⟩ := h.least m hlow hhigh hm
    rw [← Option.some.inj hk] at hle
    refine ⟨nofun, fun t ht => ?_⟩
    rw [← Except.ok.inj ht]
    exact Int.mul_le_mul_of_nonneg_right hle (by decide)

theorem of_finds_none (h : Finds p low high none) : Found p low high (.error .neverDue) where
  holds := nofun
  least m hlow hhigh hm := by
    obtain ⟨k, hk, -⟩ := h.least m hlow hhigh hm
    cases hk

theorem congr (h : Found p low high first) (hpq : ∀ m, q m = p m) : Found q low high first := by
  have heq : q = p := funext hpq
  rwa [heq]

theorem earlierRun_fault {fault : TimetableFault} (h : fault ≠ .neverDue) :
    earlierRun (.error fault) second = .error fault := by
  cases fault with
  | neverDue => exact absurd rfl h
  | invalidCron | unknownZone | dateRange | yearRange => rfl

theorem earlierRun_ok_fault {fault : TimetableFault} (h : fault ≠ .neverDue) (t : Instant) :
    earlierRun (.ok t) (.error fault) = .error fault := by
  cases fault with
  | neverDue => exact absurd rfl h
  | invalidCron | unknownZone | dateRange | yearRange => rfl

/-- **The earlier of two results** is the first minute that has one property or the other. A search
that finds nothing leaves nothing in the range to be found. -/
theorem earlierRun (h : Found p low high first) (h' : Found q low high second) :
    Found (fun m => p m || q m) low high (earlierRun first second) := by
  cases first with
  | error fault =>
    by_cases hnever : fault = .neverDue
    · subst hnever
      refine ⟨fun t ht => ?_, fun m hlow hhigh hm => ?_⟩
      · obtain ⟨n, hn, hlow, hhigh, hq⟩ := h'.holds t ht
        exact ⟨n, hn, hlow, hhigh, by simp [hq]⟩
      · have hp : p m = false :=
          Bool.eq_false_iff.mpr fun hp => (h.least m hlow hhigh hp).1 rfl
        rw [hp, Bool.false_or] at hm
        exact h'.least m hlow hhigh hm
    · rw [earlierRun_fault hnever]
      exact .of_fault hnever
  | ok t =>
    cases second with
    | error fault =>
      by_cases hnever : fault = .neverDue
      · subst hnever
        refine ⟨fun u hu => ?_, fun m hlow hhigh hm => ?_⟩
        · obtain ⟨n, hn, hlow, hhigh, hp⟩ := h.holds u hu
          exact ⟨n, hn, hlow, hhigh, by simp [hp]⟩
        · have hq : q m = false :=
            Bool.eq_false_iff.mpr fun hq => (h'.least m hlow hhigh hq).1 rfl
          rw [hq, Bool.or_false] at hm
          exact h.least m hlow hhigh hm
      · rw [earlierRun_ok_fault hnever]
        exact .of_fault hnever
    | ok u =>
      have hresult : Promotions.earlierRun (.ok t) (.ok u) = .ok (if u < t then u else t) := rfl
      rw [hresult]
      refine ⟨fun v hv => ?_, fun m hlow hhigh hm => ⟨nofun, fun v hv => ?_⟩⟩
      · rw [← Except.ok.inj hv]
        split_ifs with hbefore
        · obtain ⟨n, hn, hlow, hhigh, hq⟩ := h'.holds u rfl
          exact ⟨n, hn, hlow, hhigh, by simp [hq]⟩
        · obtain ⟨n, hn, hlow, hhigh, hp⟩ := h.holds t rfl
          exact ⟨n, hn, hlow, hhigh, by simp [hp]⟩
      · rw [← Except.ok.inj hv]
        have horder : (if u < t then u else t).micros ≤ t.micros ∧
            (if u < t then u else t).micros ≤ u.micros := by
          have hlt : u < t ↔ u.micros < t.micros := Iff.rfl
          split_ifs with hbefore
          · rw [hlt] at hbefore
            omega
          · rw [hlt] at hbefore
            omega
        rcases Bool.or_eq_true_iff.mp hm with hp | hq
        · have hle := (h.least m hlow hhigh hp).2 t rfl
          omega
        · have hle := (h'.least m hlow hhigh hq).2 u rfl
          omega

end Found

/-! ### On the clock of UTC -/

namespace Zone

variable (t : Instant)

theorem toLocal_utc : utc.toLocal t = t := congrArg Instant.mk (Int.add_zero t.micros)

theorem skipping?_utc : utc.skipping? t = none := rfl

theorem nextShowing_utc (base : Instant) : utc.nextShowing base t = t :=
  congrArg Instant.mk (Int.add_zero t.micros)

theorem puttingBack?_utc : utc.puttingBack? t = none := rfl

end Zone

namespace Cron

variable (cron : Cron) (base : Instant)

theorem isStorable_of_nextReading {due : Instant} (h : cron.nextReading base = .ok due) :
    due.isStorable = true := by
  unfold nextReading at h
  dsimp only at h
  split at h
  · cases h
  · split at h
    · split at h
      · next hstorable =>
        rw [← Except.ok.inj h]
        exact hstorable
      · cases h
    · split at h <;> cases h

theorem nextFound_utc : cron.nextFound .utc base = cron.nextReading base := by
  unfold nextFound nextReadingIn
  rw [Zone.toLocal_utc]
  cases hreading : cron.nextReading base with
  | error fault => rfl
  | ok due =>
    have hstorable := cron.isStorable_of_nextReading base hreading
    simp only [Zone.skipping?_utc, Zone.nextShowing_utc, Zone.puttingBack?_utc, Option.bind_none,
      hstorable, if_true]

theorem calendarEnd_ne_neverDue : cron.calendarEnd ≠ .neverDue := by
  unfold calendarEnd
  split <;> nofun

/-- **One search for the next run** finds the first matching minute after its base. -/
theorem found_nextReading :
    Found cron.matchesMinute (base.micros / Instant.minute + 1)
      (searchEnd (base.micros / Instant.minute)) (cron.nextReading base) := by
  have hfinds := cron.finds_next? (base.micros / Instant.minute)
  have hend : cron.calendarEnd ≠ .neverDue := cron.calendarEnd_ne_neverDue
  unfold nextReading
  dsimp only
  split
  · exact .of_fault nofun
  · cases hnext : cron.next? (base.micros / Instant.minute) with
    | some due =>
      rw [hnext] at hfinds
      dsimp only
      split
      · exact .of_finds hfinds
      · exact .of_fault hend
    | none =>
      rw [hnext] at hfinds
      dsimp only
      split
      · exact .of_finds_none hfinds
      · exact .of_fault hend

theorem matchesMinute_eq_any (minute : Int) :
    cron.matchesMinute minute = cron.searches.any (·.matchesMinute minute) := by
  unfold searches
  by_cases hopen : (cron.anyMonthDay || cron.anyWeekday) = true
  · rw [if_pos hopen, List.any_cons, List.any_nil, Bool.or_false]
  · -- a day of either field is one of the timetable
    obtain ⟨hmonthDay, hweekday⟩ : cron.anyMonthDay = false ∧ cron.anyWeekday = false := by
      simpa using hopen
    rw [if_neg hopen, List.any_cons, List.any_cons, List.any_nil, Bool.or_false]
    unfold matchesMinute matchesDay matchesTime
    simp only [hmonthDay, hweekday, Bool.false_eq_true, if_false, if_true, Bool.false_or]
    rw [Bool.and_or_distrib_left, Bool.and_or_distrib_right]

/-- **The search for the next run** finds the first matching minute after its base, however many
searches it takes. -/
theorem found_nextAfter :
    Found cron.matchesMinute (base.micros / Instant.minute + 1)
      (searchEnd (base.micros / Instant.minute)) (cron.nextAfter .utc base) := by
  suffices hall : ∀ crons : List Cron,
      Found (fun m => crons.any (·.matchesMinute m)) (base.micros / Instant.minute + 1)
        (searchEnd (base.micros / Instant.minute))
        (crons.foldr (fun search found => earlierRun (search.nextFound .utc base) found)
          (.error .neverDue)) from
    (hall cron.searches).congr cron.matchesMinute_eq_any
  intro crons
  induction crons with
  | nil => exact .never
  | cons search rest ih =>
    have hfirst := search.found_nextReading base
    rw [← nextFound_utc] at hfirst
    exact hfirst.earlierRun ih

theorem isNextAfter_of_found {next : Instant} (h : cron.nextAfter .utc base = .ok next) :
    cron.IsNextAfter base next := by
  have hfound := cron.found_nextAfter base
  obtain ⟨n, hn, hlow, -, hmatch⟩ := hfound.holds next h
  refine ⟨⟨n, hn, hmatch⟩, ?_, ?_⟩
  · show base.micros < next.micros
    unfold Instant.minute at hn hlow
    omega
  · rintro t ⟨m, hm, hmatches⟩ hafter
    have hafter : base.micros < t.micros := hafter
    show next.micros ≤ t.micros
    have hfrom : base.micros / Instant.minute + 1 ≤ m := by
      unfold Instant.minute at hm ⊢
      omega
    by_cases hto : m < searchEnd (base.micros / Instant.minute)
    · have hle := (hfound.least m hfrom hto hmatches).2 next h
      omega
    · -- what was found lies within the days of the search
      obtain ⟨k, hk, -, hwithin, -⟩ := hfound.holds next h
      unfold Instant.minute at hk hm
      omega

end Cron

/-- **The next run is what a library finds** for a base and a zone that there are. -/
theorem CronSearch.nextRunAfter_eq_ok_iff {search : CronSearch} {base : Timestamp}
    {text zone : String} {next : Instant} :
    search.nextRunAfter base text zone = .ok next ↔
      search.isValid text = true ∧ ∃ found utc, Zone.find? zone = some found ∧
        base.utc? = some utc ∧ (found.toLocal utc).isStorable = true ∧
        search.next text found utc = .ok next ∧ next.isStorable = true := by
  unfold nextRunAfter
  constructor
  · intro h
    split_ifs at h with hvalid
    split at h
    · cases h
    · next found hfound =>
      split at h
      · cases h
      · next utc hutc =>
        split_ifs at h with hlocal
        split at h
        · cases h
        · next due hdue =>
          split_ifs at h with hstorable
          cases h
          exact ⟨by simpa using hvalid, found, utc, hfound, hutc, by simpa using hlocal, hdue,
            hstorable⟩
  · rintro ⟨hvalid, found, utc, hfound, hutc, hlocal, hdue, hstorable⟩
    simp [hvalid, hfound, hutc, hlocal, hdue, hstorable]

theorem eq_ok_of_nextRun {base next : Instant} {text zone : String}
    (h : nextRun base text zone = .ok next) :
    ∃ found, Zone.find? zone = some found ∧ (found.toLocal base).isStorable = true ∧
      CronSearch.standard.next text found base = .ok next := by
  have h : CronSearch.standard.nextRunAfter { reading := base } text zone = .ok next := h
  obtain ⟨-, found, utc, hfound, hutc, hlocal, hsearch, -⟩ := CronSearch.nextRunAfter_eq_ok_iff.mp h
  cases hutc
  exact ⟨found, hfound, hlocal, hsearch⟩

/-! ### The base in whole seconds -/

namespace Instant

theorem countedSecond_cases (t : Instant) :
    t.countedSecond = t.wholeSecond ∨ t.countedSecond = t.wholeSecond.later second := by
  unfold countedSecond
  dsimp only
  split
  · exact Or.inr rfl
  · exact Or.inl rfl

theorem log2_le {n k : Nat} (h : n < 1 <<< (k + 1)) : Nat.log2 n ≤ k := by
  by_cases hzero : n = 0
  · rw [hzero, Nat.log2_zero]
    exact Nat.zero_le k
  · rw [Nat.shiftLeft_eq, Nat.one_mul] at h
    exact Nat.le_of_lt_succ ((Nat.log2_lt hzero).mpr h)

/-- **In the years before 2514**, and as far back, a double tells all microseconds of a second
apart. -/
theorem countedSecond_eq_wholeSecond {t : Instant} (h : t.micros.natAbs < (1 <<< 34) * 1000000) :
    t.countedSecond = t.wholeSecond := by
  have hmissing : 1 ≤ (second - t.micros % second).toNat := by
    unfold second
    omega
  have hpower : 2 ^ Nat.log2 (t.micros.natAbs / 1000000) ≤ 2 ^ 33 :=
    Nat.pow_le_pow_right (by decide) (log2_le (by omega))
  unfold countedSecond
  dsimp only
  rw [if_neg]
  rw [Nat.shiftLeft_eq, Nat.shiftLeft_eq]
  omega

end Instant

namespace Cron

variable {cron : Cron}

theorem IsDue.minute_le {t u : Instant} (ht : cron.IsDue t) (hu : cron.IsDue u) (h : t < u) :
    t.micros + Instant.minute ≤ u.micros := by
  obtain ⟨m, hm, -⟩ := ht
  obtain ⟨n, hn, -⟩ := hu
  have h : t.micros < u.micros := h
  unfold Instant.minute at hm hn ⊢
  omega

/-- The first due instant after one base is that after another, if none lies between the two. -/
theorem IsNextAfter.of_base {base other next : Instant} (h : cron.IsNextAfter other next)
    (hlt : base < next) (hnone : ∀ t, cron.IsDue t → base < t → other < t) :
    cron.IsNextAfter base next where
  isDue := h.isDue
  after_base := hlt
  least t ht hafter := h.least t ht (hnone t ht hafter)

/-- **The search minute by minute** finds the first due instant after its base. -/
theorem isNextAfter_of_exact {text : String} {base next : Instant}
    (hcron : Cron.read? text = some cron)
    (h : CronSearch.exact.next text .utc base = .ok next) : cron.IsNextAfter base next := by
  unfold CronSearch.exact at h
  simp only [hcron] at h
  exact cron.isNextAfter_of_found base h

section NextRun
variable {text zone : String} (hcron : Cron.read? text = some cron)
  (hzone : Zone.find? zone = some .utc) {base next : Instant}
  (h : nextRun base text zone = .ok next)
include hcron hzone h

/-- **The next run is the first due instant** after the second that its base counts as. -/
theorem isNextAfter_of_nextRun : cron.IsNextAfter base.countedSecond next := by
  obtain ⟨found, hfound, -, hsearch⟩ := eq_ok_of_nextRun h
  obtain rfl := Option.some.inj (hfound.symm.trans hzone)
  unfold CronSearch.standard at hsearch
  dsimp only at hsearch
  split at hsearch
  · exact isNextAfter_of_exact hcron hsearch
  · cases hsearch

/-- **The next run comes after its base**, whatever second that counts as. -/
theorem lt_of_nextRun : base < next := by
  have hnext := isNextAfter_of_nextRun hcron hzone h
  obtain ⟨n, hn, -⟩ := hnext.isDue
  have hafter : base.countedSecond.micros < next.micros := hnext.after_base
  have hwhole : base.wholeSecond.micros = base.micros / 1000000 * 1000000 := rfl
  show base.micros < next.micros
  unfold Instant.minute at hn
  rcases base.countedSecond_cases with heq | heq
  · rw [heq] at hafter
    omega
  · have hlater : (base.wholeSecond.later Instant.second).micros =
        base.wholeSecond.micros + 1000000 := rfl
    rw [heq] at hafter
    omega

/-- **Between 1425 and 2514 the next run is the first due instant after its base.** -/
theorem isNextAfter_base_of_nextRun (hbase : base.micros.natAbs < (1 <<< 34) * 1000000) :
    cron.IsNextAfter base next := by
  have hnext := isNextAfter_of_nextRun hcron hzone h
  rw [Instant.countedSecond_eq_wholeSecond hbase] at hnext
  refine hnext.of_base (lt_of_nextRun hcron hzone h) fun t ht hafter => ?_
  have hafter : base.micros < t.micros := hafter
  show base.micros / 1000000 * 1000000 < t.micros
  omega

/-- **From the second of a due instant on**, the next run is the first due instant after
that one. -/
theorem isNextAfter_of_nextRun_in {slot : Instant} (hslot : cron.IsDue slot) (hfrom : slot ≤ base)
    (hto : base < slot.later Instant.second) : cron.IsNextAfter slot next := by
  have hnext := isNextAfter_of_nextRun hcron hzone h
  obtain ⟨m, hm, -⟩ := id hslot
  have hfrom : slot.micros ≤ base.micros := hfrom
  have hto : base.micros < slot.micros + 1000000 := hto
  have hwhole : base.wholeSecond = slot := by
    have hmicros : base.micros / 1000000 * 1000000 = slot.micros := by
      unfold Instant.minute at hm
      omega
    exact congrArg Instant.mk hmicros
  have hwithin : slot.micros ≤ base.countedSecond.micros ∧
      base.countedSecond.micros ≤ slot.micros + 1000000 := by
    rcases base.countedSecond_cases with heq | heq
    · rw [heq, hwhole]
      omega
    · have hlater : (slot.later Instant.second).micros = slot.micros + 1000000 := rfl
      rw [heq, hwhole]
      omega
  refine hnext.of_base ?_ fun t ht hafter => ?_
  · have hlt : base.countedSecond.micros < next.micros := hnext.after_base
    show slot.micros < next.micros
    omega
  · have hapart := hslot.minute_le ht hafter
    show base.countedSecond.micros < t.micros
    unfold Instant.minute at hapart
    omega

end NextRun

end Cron

end Promotions
