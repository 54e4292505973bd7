import Mathlib.Algebra.BigOperators.Group.List.Lemmas
import Mathlib.Algebra.Order.Field.Rat
import Mathlib.Algebra.Order.Field.Basic
import Mathlib.Data.Finset.Card
import Promotions.Proofs.Attendance
import Promotions.Proofs.Calendar

/-!
# Statistics add up

The statistics of an event are counted anew whenever they are asked for, from the rows of the event
that count. The numbers by day tally those rows (`IsTally`), so that they add up to all of them, and
a day has a number of its own, since different days have different texts
(`Session.TellsDays.dayOf_eq_dateText_iff`).

The day of a participation is told by the store, which may round its time to milliseconds first
(`Session.TellsDays`). In the last half millisecond of some days it may therefore tell the next one;
and participations of the very end of the calendar may fall on no day. They count together, apart
from the days.

In a database that can be reached the counter of the event says the same, and the users are told
from the numbers that participations carry: each of them has a first one
(`Books.Attended.card_users`).
-/

namespace Promotions

/-! ### Tallies -/

/-- **Entries tally a list of texts**: each text that occurs has one entry, which says how often. -/
structure IsTally (texts : List String) (entries : List (String × Nat)) : Prop where
  nodup : (entries.map Prod.fst).Nodup
  mem_iff : ∀ text n, (text, n) ∈ entries ↔ 0 < n ∧ texts.count text = n

theorem isTally_tally (texts : List String) : IsTally texts (Books.tally texts) where
  nodup := by
    have hfirst : (Books.tally texts).map Prod.fst =
        texts.eraseDups.mergeSort fun a b => a ≤ b := by
      simp [Books.tally, Function.comp_def]
    rw [hfirst, (List.mergeSort_perm _ _).nodup_iff]
    exact nodup_eraseDups texts
  mem_iff := by
    intro text n
    simp only [Books.tally, List.mem_map, List.mem_mergeSort, List.mem_eraseDups, Prod.mk.injEq]
    constructor
    · rintro ⟨text, hmem, rfl, rfl⟩
      exact ⟨List.count_pos_iff.mpr hmem, rfl⟩
    · rintro ⟨hpos, rfl⟩
      exact ⟨text, List.count_pos_iff.mp hpos, rfl, rfl⟩

/-- **The numbers of a tally** add up to the length of the list. -/
theorem IsTally.sum_eq {texts : List String} {entries : List (String × Nat)}
    (h : IsTally texts entries) : (entries.map Prod.snd).sum = texts.length := by
  have hcount : entries.map Prod.snd = (entries.map Prod.fst).map fun text => texts.count text := by
    rw [List.map_map]
    refine List.map_congr_left fun entry hentry => ?_
    exact ((h.mem_iff entry.1 entry.2).mp hentry).2.symm
  have hperm : (entries.map Prod.fst).Perm texts.dedup := by
    refine (List.perm_ext_iff_of_nodup h.nodup texts.nodup_dedup).mpr fun text => ?_
    rw [List.mem_dedup]
    constructor
    · intro hmem
      obtain ⟨⟨_, n⟩, hentry, rfl⟩ := List.mem_map.mp hmem
      obtain ⟨hpos, hn⟩ := (h.mem_iff _ n).mp hentry
      exact List.count_pos_iff.mp (hn ▸ hpos)
    · intro hmem
      exact List.mem_map.mpr ⟨_, (h.mem_iff text _).mpr ⟨List.count_pos_iff.mpr hmem, rfl⟩, rfl⟩
  rw [hcount, (hperm.map _).sum_eq, List.sum_map_count_dedup_eq_length]

/-! ### The days of participations -/

/-- The reading lies on a day. -/
def Instant.IsOn (t : Instant) (day : Int) : Prop :=
  Instant.ofDayNumber day ≤ t ∧ t < Instant.ofDayNumber (day + 1)

instance (t : Instant) (day : Int) : Decidable (t.IsOn day) := by
  unfold Instant.IsOn
  infer_instance

theorem Instant.isOn_iff {t : Instant} {day : Int} : t.IsOn day ↔ t.dayNumber = day := by
  show day * Instant.day ≤ t.micros ∧ t.micros < (day + 1) * Instant.day ↔
    t.micros / Instant.day = day
  unfold Instant.day
  omega

/-- The day's last half millisecond, on the 29th of a month or later: rounded to milliseconds, the
time lies on the next day. -/
def Instant.RoundsOver (t : Instant) : Prop :=
  28 < (Date.ofDayNumber t.dayNumber).day ∧ t.dayNumber < (t.later 500).dayNumber

theorem Instant.isStorable_iff {t : Instant} :
    t.isStorable = true ↔ -62135596800000000 ≤ t.micros ∧ t.micros ≤ 253402300799999999 := by
  unfold isStorable
  rw [Bool.and_eq_true, decide_eq_true_eq, decide_eq_true_eq]
  exact Iff.rfl

theorem Instant.isShort_of_isStorable {t : Instant} (h : t.isStorable = true) :
    (Date.ofDayNumber t.dayNumber).IsShort := by
  refine Date.isShort_ofDayNumber ?_
  rw [isStorable_iff] at h
  unfold dayNumber day
  omega

/-- Only the last half millisecond of the year 9999 is rounded beyond the calendar. -/
theorem Instant.roundsOver_of_not_isStorable {t : Instant} (h : t.isStorable = true)
    (hlater : (t.later 500).isStorable = false) : t.RoundsOver := by
  rw [← Bool.not_eq_true, isStorable_iff] at hlater
  rw [isStorable_iff] at h
  have hmicros : (t.later 500).micros = t.micros + 500 := rfl
  have hday : t.dayNumber = 2932896 := by
    unfold dayNumber day
    omega
  refine ⟨by rw [hday]; decide, ?_⟩
  rw [hday]
  unfold dayNumber day
  omega

/-- **The store tells days**: the date of a time is that of its day on the calendar. Only of a time
that is rounded over to the next day it may tell that day, or none if the calendar has ended. -/
structure Session.TellsDays (s : Session) : Prop where
  dateOf_eq : ∀ t, t.isStorable = true → s.dateOf t = some (Date.ofDayNumber t.dayNumber) ∨
    t.RoundsOver ∧ s.dateOf t =
      if (t.later 500).isStorable then some (Date.ofDayNumber (t.later 500).dayNumber) else none
  dateOf_eq_none : ∀ t, t.isStorable = false → s.dateOf t = none

/-- The date of a time that is rounded to milliseconds from the 29th of a month on. -/
def Instant.roundedDate? (t : Instant) : Option Date :=
  let rounded := if 28 < (Date.ofDayNumber t.dayNumber).day then t.later 500 else t
  if t.isStorable && rounded.isStorable then some (Date.ofDayNumber rounded.dayNumber) else none

namespace Session

theorem tellsDays_of_storedDate? {s : Session} (h : s.dateOf = Instant.storedDate?) :
    s.TellsDays where
  dateOf_eq t ht := by
    rw [h, Instant.storedDate?, ht, Bool.true_and]
    cases hlater : (t.later 500).isStorable with
    | true => exact .inl rfl
    | false => exact .inr ⟨t.roundsOver_of_not_isStorable ht hlater, rfl⟩
  dateOf_eq_none t ht := by
    rw [h, Instant.storedDate?, ht]
    rfl

/-- A store may round all times over to the next day that can be. -/
theorem tellsDays_of_roundedDate? {s : Session} (h : s.dateOf = Instant.roundedDate?) :
    s.TellsDays where
  dateOf_eq t ht := by
    rw [h, Instant.roundedDate?, ht, Bool.true_and]
    split
    · next hlate =>
      by_cases hover : t.dayNumber < (t.later 500).dayNumber
      · exact .inr ⟨⟨hlate, hover⟩, rfl⟩
      · have hlater : (t.later 500).isStorable = true := by
          by_contra hnot
          exact hover (t.roundsOver_of_not_isStorable ht (Bool.eq_false_iff.mpr hnot)).2
        have hsame : (t.later 500).dayNumber = t.dayNumber := by
          have hmicros : (t.later 500).micros = t.micros + 500 := rfl
          unfold Instant.dayNumber Instant.day at *
          omega
        rw [if_pos hlater, hsame]
        exact .inl rfl
    · exact .inl rfl
  dateOf_eq_none t ht := by
    rw [h, Instant.roundedDate?]
    simp [ht]

variable {s : Session} (hs : s.TellsDays)
include hs

theorem TellsDays.isShort {t : Instant} {date : Date} (h : s.dateOf t = some date) :
    date.IsShort ∧ ∃ day, Date.IsDay date day := by
  cases ht : t.isStorable with
  | false =>
    rw [hs.dateOf_eq_none t ht] at h
    cases h
  | true =>
    rcases hs.dateOf_eq t ht with heq | ⟨-, heq⟩
    · rw [heq] at h
      cases h
      exact ⟨Instant.isShort_of_isStorable ht, _, Date.isDay_ofDayNumber _⟩
    · rw [heq] at h
      split at h
      · next hlater =>
        cases h
        exact ⟨Instant.isShort_of_isStorable hlater, _, Date.isDay_ofDayNumber _⟩
      · cases h

/-- **A time that is not rounded over** is told to be on the day on which it lies. -/
theorem TellsDays.dateOf_iff {t : Instant} (ht : t.isStorable = true) (hover : ¬t.RoundsOver)
    {date : Date} {day : Int} (hday : Date.IsDay date day) :
    s.dateOf t = some date ↔ t.IsOn day := by
  obtain rfl := hday.eq_ofDayNumber
  rw [Instant.isOn_iff, (hs.dateOf_eq t ht).resolve_right fun h => hover h.1, Option.some.injEq]
  constructor
  · intro hsame
    rw [← Date.dayNumber_ofDayNumber t.dayNumber, hsame, Date.dayNumber_ofDayNumber]
  · rintro rfl
    rfl

variable {p : Participation}

theorem TellsDays.dayOf_eq_none_iff :
    Books.dayOf s p = "None" ↔ s.dateOf p.participatedAt = none := by
  unfold Books.dayOf
  split
  · next date hdate =>
    rw [hdate]
    refine ⟨fun hnone => ?_, nofun⟩
    have hlength := (hs.isShort hdate).1.length_dateText
    rw [hnone] at hlength
    exact absurd hlength (by decide)
  · next hnone => simp [hnone]

theorem TellsDays.dayOf_eq_dateText_iff {date : Date} (hdate : date.IsShort) :
    Books.dayOf s p = Instant.dateText date ↔ s.dateOf p.participatedAt = some date := by
  cases htold : s.dateOf p.participatedAt with
  | none =>
    refine ⟨fun hsame => ?_, nofun⟩
    have hlength := hdate.length_dateText
    rw [← hsame, hs.dayOf_eq_none_iff.mpr htold] at hlength
    exact absurd hlength (by decide)
  | some told =>
    have htext : Books.dayOf s p = Instant.dateText told := by
      unfold Books.dayOf
      rw [htold]
    rw [htext, Option.some.injEq]
    exact ⟨(hs.isShort htold).1.eq_of_dateText_eq hdate, fun h => by rw [h]⟩

end Session

/-- A text under which participations count, and how many do: those of a day, or those that have
none. -/
def IsDayCount (s : Session) (counted : List Participation) (text : String) (n : Nat) : Prop :=
  (∃ date day, Date.IsDay date day ∧ text = Instant.dateText date ∧
    n = counted.countP fun p => s.dateOf p.participatedAt = some date) ∨
  (text = "None" ∧ n = counted.countP fun p => s.dateOf p.participatedAt = none)

/-- **The texts under which participations count**, with their numbers. -/
theorem count_dayOf_iff {s : Session} (hs : s.TellsDays) {counted : List Participation}
    {text : String} {n : Nat} (hpos : 0 < n) :
    (counted.map (Books.dayOf s)).count text = n ↔ IsDayCount s counted text n := by
  have hcount : (counted.map (Books.dayOf s)).count text =
      counted.countP fun p => Books.dayOf s p = text := by
    rw [List.count, List.countP_map]
    exact List.countP_congr fun p _ => by simp
  have hday {date : Date} (hdate : date.IsShort) (htext : text = Instant.dateText date) :
      (counted.map (Books.dayOf s)).count text =
        counted.countP fun p => s.dateOf p.participatedAt = some date := by
    rw [hcount, htext]
    exact List.countP_congr fun p _ => by simp [hs.dayOf_eq_dateText_iff hdate]
  have hnone (htext : text = "None") : (counted.map (Books.dayOf s)).count text =
      counted.countP fun p => s.dateOf p.participatedAt = none := by
    rw [hcount, htext]
    exact List.countP_congr fun p _ => by simp [hs.dayOf_eq_none_iff]
  constructor
  · intro hn
    obtain ⟨p, -, htext⟩ := List.mem_map.mp (List.count_pos_iff.mp (hn ▸ hpos))
    cases htold : s.dateOf p.participatedAt with
    | some date =>
      obtain ⟨hdate, day, hisDay⟩ := hs.isShort htold
      have htext : text = Instant.dateText date :=
        htext.symm.trans ((hs.dayOf_eq_dateText_iff hdate).mpr htold)
      exact .inl ⟨date, day, hisDay, htext, hn.symm.trans (hday hdate htext)⟩
    | none =>
      have htext : text = "None" := htext.symm.trans (hs.dayOf_eq_none_iff.mpr htold)
      exact .inr ⟨htext, hn.symm.trans (hnone htext)⟩
  · rintro (⟨date, day, -, htext, hn⟩ | ⟨htext, hn⟩)
    · -- some participation counts under the date
      obtain ⟨p, -, hp⟩ := List.countP_pos_iff.mp (hn ▸ hpos)
      have htold : s.dateOf p.participatedAt = some date := by simpa using hp
      rw [hday (hs.isShort htold).1 htext, hn]
    · rw [hnone htext, hn]

/-! ### Users -/

section
variable {books : Books} (h : books.Attended)
include h

/-- **Each user who took part** has one first participation. -/
theorem Books.Attended.card_users (eventId : Id) :
    let rows := books.participations.rows.filter fun p => p.eventId = eventId
    (rows.map Participation.userId).toFinset.card =
      rows.countP fun p => p.participationCount = 1 := by
  intro rows
  have hordinals (userId : String) : (rows.filter fun p => p.userId = userId).map
      Participation.participationCount =
        (List.range (rows.filter fun p => p.userId = userId).length).map
          fun k : Nat => (k : Int) + 1 := by
    have hrows : (rows.filter fun p => p.userId = userId) = books.rowsOf eventId userId := by
      simp only [rows, List.filter_filter, Books.rowsOf]
      exact List.filter_congr fun p _ => Bool.and_comm _ _
    rw [hrows, h.ordinals_eq]
    simp [← List.map_eq_flatMap]
  let firsts := rows.filter fun p => p.participationCount = 1
  have hnodup : (firsts.map Participation.userId).Nodup := by
    refine List.nodup_iff_count_le_one.mpr fun userId => ?_
    have hcount : (firsts.map Participation.userId).count userId =
        ((rows.filter fun p => p.userId = userId).map Participation.participationCount).count 1 := by
      simp only [firsts, List.count, List.countP_map, List.countP_filter]
      refine List.countP_congr fun p _ => ?_
      simp [and_comm]
    rw [hcount, hordinals]
    refine List.nodup_iff_count_le_one.mp (List.nodup_range.map fun a b hab => ?_) 1
    simpa using hab
  have hmem : (firsts.map Participation.userId).toFinset =
      (rows.map Participation.userId).toFinset := by
    ext userId
    simp only [List.mem_toFinset]
    constructor
    · intro huser
      obtain ⟨p, hp, rfl⟩ := List.mem_map.mp huser
      exact List.mem_map_of_mem (List.mem_filter.mp hp).1
    · intro huser
      obtain ⟨p, hp, rfl⟩ := List.mem_map.mp huser
      -- the numbers of the user begin with one
      have hone : (1 : Int) ∈ (rows.filter fun q => q.userId = p.userId).map
          Participation.participationCount := by
        have hsome : 0 < (rows.filter fun q => q.userId = p.userId).length :=
          List.length_pos_of_mem (List.mem_filter.mpr ⟨hp, by simp⟩)
        rw [hordinals]
        exact List.mem_map.mpr ⟨0, List.mem_range.mpr hsome, rfl⟩
      obtain ⟨q, hq, hfirst⟩ := List.mem_map.mp hone
      obtain ⟨hq, hsame⟩ := List.mem_filter.mp hq
      refine List.mem_map.mpr ⟨q, List.mem_filter.mpr ⟨hq, by simp [hfirst]⟩, ?_⟩
      simpa using hsame
  rw [← hmem, List.toFinset_card_of_nodup hnodup, List.length_map, List.countP_eq_length_filter]

end

/-! ### What is shown -/

theorem Double.share_zero (part : Nat) : Double.share part 0 = ⟨0⟩ := by
  unfold Double.share
  rw [if_pos rfl]
  rfl

theorem Statistics.share_bounds {part whole : Nat} (h : part ≤ whole) :
    0 ≤ (part : Rat) / whole ∧ (part : Rat) / whole ≤ 1 :=
  ⟨by positivity, div_le_one_of_le₀ (by exact_mod_cast h) (by positivity)⟩

/-- The statistics of participations that count, and of requests. -/
def Statistics.ofRows (s : Session) (counted : List Participation) (filed : List RewardRequest) :
    Statistics :=
  { participations := counted.length
    users := (counted.map Participation.userId).eraseDups.length
    byDay := Books.tally (counted.map (Books.dayOf s))
    requests := filed.length
    approved := (filed.filter fun q => q.status = .approved || q.status = .issued).length }

namespace Books

/-- The participations of an event that count. -/
def countedIn (books : Books) (eventId : Id) : List Participation :=
  books.participations.rows.filter fun p => p.eventId = eventId ∧ p.status = .participated

/-- The requests for rewards of an event. -/
def requestsIn (books : Books) (eventId : Id) : List RewardRequest :=
  books.requests.rows.filter fun q => q.eventId = eventId

theorem statistics_eq_ok {books : Books} {eventId : Id} {event : Event}
    (hfound : books.events.find? eventId = some event) (s : Session) :
    books.statistics s eventId =
      .ok (.ofRows s (books.countedIn eventId) (books.requestsIn eventId)) := by
  have hid : event.id = eventId := Table.id_of_find?_eq_some hfound
  have hcounted : (books.participations.filter fun p =>
      p.eventId = event.id && p.status = .participated) = books.countedIn eventId := by
    rw [hid]
    exact List.filter_congr fun p _ => by simp
  have hfiled : (books.requests.filter fun q => q.eventId = event.id) = books.requestsIn eventId := by
    rw [hid]
    rfl
  unfold statistics findEvent
  rw [hfound, ← hcounted, ← hfiled]
  rfl

theorem Attended.countedIn_eq {books : Books} (h : books.Attended) (eventId : Id) :
    books.countedIn eventId = books.participations.rows.filter fun p => p.eventId = eventId := by
  refine List.filter_congr fun p hp => ?_
  have hstatus : p.status = .participated := h.inOrder.participated _ (List.mem_map_of_mem hp)
  simp [hstatus]

end Books

/-- **Statistics add up.** For every event that is found they are given, and count the
participations of the event that have the status for it, and the users of these, each once. The
numbers by day have different names, are positive, and add up to the participations: they are just
those of the days that the store tells of some participations, each named by its date, and beside
them the number of those of which it tells none. The day that is told is the one on which a
participation lies, but for the last half millisecond of some days. Approved are some of the
requests of the event, so that their share lies between zero and one; it is shown rounded to a
double, as is that of requests to participations, and zero where there is nothing to divide by. In a
database that can be reached, the event counts the same participations, and as many of them are
first ones as there are users. -/
theorem statistics_add_up {db : Database} {eventId : Id} {event : Event}
    (hfound : db.books.events.find? eventId = some event) {s : Session} (hs : s.TellsDays) :
    let counted := db.books.participations.rows.filter fun p =>
      p.eventId = eventId ∧ p.status = .participated
    let filed := db.books.requests.rows.filter fun q => q.eventId = eventId
    ∃ stats : Statistics,
      (Action.statistics eventId).perform s db = .ok (.statistics stats, db) ∧
      (stats.participations = counted.length ∧
        stats.users = (counted.map Participation.userId).toFinset.card ∧
        stats.requests = filed.length ∧
        stats.approved = filed.countP fun q => q.status = .approved ∨ q.status = .issued) ∧
      (stats.participations = (stats.byDay.map Prod.snd).sum ∧
        (stats.byDay.map Prod.fst).Nodup ∧
        (∀ text n, (text, n) ∈ stats.byDay ↔ 0 < n ∧
          ((∃ date day, Date.IsDay date day ∧ text = Instant.dateText date ∧
            n = counted.countP fun p => s.dateOf p.participatedAt = some date) ∨
          (text = "None" ∧ n = counted.countP fun p => s.dateOf p.participatedAt = none))) ∧
        ∀ p ∈ counted, p.participatedAt.isStorable = true → ¬p.participatedAt.RoundsOver →
          ∀ date day, Date.IsDay date day →
            (s.dateOf p.participatedAt = some date ↔ p.participatedAt.IsOn day)) ∧
      (stats.view.get? "success_rate" = some (.double (.share stats.approved stats.requests)) ∧
        (0 ≤ (stats.approved : Rat) / stats.requests ∧
          (stats.approved : Rat) / stats.requests ≤ 1) ∧
        stats.view.get? "reward_request_rate" =
          some (.double (.share stats.requests stats.participations)) ∧
        ∀ part, Double.share part 0 = ⟨0⟩) ∧
      ∀ P, db.Reachable P → event.participantCount = stats.participations ∧
        stats.users = db.books.participations.rows.countP fun p =>
          p.eventId = eventId ∧ p.participationCount = 1 := by
  intro counted filed
  let stats := Statistics.ofRows s counted filed
  have hid : event.id = eventId := Table.id_of_find?_eq_some hfound
  have hdays : IsTally (counted.map (Books.dayOf s)) stats.byDay := isTally_tally _
  have husers : stats.users = (counted.map Participation.userId).toFinset.card := by
    show (counted.map Participation.userId).eraseDups.length = _
    rw [← List.toFinset_card_of_nodup (nodup_eraseDups (counted.map Participation.userId))]
    congr 1
    ext userId
    simp
  refine ⟨stats, ?_, ⟨rfl, husers, rfl, ?_⟩, ⟨?_, hdays.nodup, fun text n => ?_,
    fun p _ hp hover date day hday => hs.dateOf_iff hp hover hday⟩,
    ⟨rfl, ?_, rfl, Double.share_zero⟩, fun P hdb => ?_⟩
  · show Action.found db .statistics (db.books.statistics s eventId) = _
    rw [Books.statistics_eq_ok hfound]
    rfl
  · simp [stats, Statistics.ofRows, List.countP_eq_length_filter]
  · rw [hdays.sum_eq, List.length_map]
    rfl
  · rw [hdays.mem_iff]
    exact and_congr_right fun hpos => count_dayOf_iff hs hpos
  · exact Statistics.share_bounds (List.length_filter_le _ _)
  · have hall : counted = db.books.participations.rows.filter fun p => p.eventId = eventId :=
      hdb.attended.countedIn_eq eventId
    constructor
    · rw [hdb.attended.participantCount_eq (Table.mem_of_find?_eq_some hfound), hid,
        List.countP_eq_length_filter, ← hall]
      rfl
    · rw [husers, hall, hdb.attended.card_users eventId, List.countP_filter]
      exact List.countP_congr fun p _ => by simp [and_comm]

/-- After `attendingRun` its two participations of one user count, both on the first of January
1970. -/
theorem statistics_add_up_attendingRun :
    let db := Database.empty.after attendingRun
    let s : Session := { clock := ⟨9000000⟩ }
    s.TellsDays ∧ ∃ stats : Statistics,
      (Action.statistics ({} : Table Event).nextId).perform s db = .ok (.statistics stats, db) ∧
      stats.participations = 2 ∧ stats.users = 1 ∧ ("1970-01-01", 2) ∈ stats.byDay := by
  intro db s
  have hs : s.TellsDays := Session.tellsDays_of_storedDate? rfl
  have hsome : (db.books.events.find? ({} : Table Event).nextId).isSome = true := by decide +kernel
  obtain ⟨event, hfound⟩ := Option.isSome_iff_exists.mp hsome
  obtain ⟨stats, hstats, ⟨hcount, husers, -⟩, ⟨-, -, hdays, -⟩, -⟩ := statistics_add_up hfound hs
  refine ⟨hs, stats, hstats, ?_, ?_, ?_⟩
  · rw [hcount]
    decide +kernel
  · rw [husers]
    decide +kernel
  · refine (hdays _ _).mpr ⟨by decide, Or.inl ⟨_, _, .first, ?_, ?_⟩⟩
    · decide +kernel
    · decide +kernel

/-- **The end of the calendar has no day.** A participation of its last half millisecond, on the
last of December 9999, counts under the text of nothing. -/
theorem last_moment_has_no_day :
    let s : Session := { clock := ⟨0⟩ }
    let p : Participation :=
      { (default : Participation) with
        status := .participated, participatedAt := ⟨253402300799999600⟩ }
    let db : Database :=
      { books := { events := ⟨[default], 1⟩, participations := ⟨[p], 1⟩ } }
    p.participatedAt.isStorable = true ∧ p.participatedAt.dayText = "9999-12-31" ∧
      ∃ stats : Statistics,
        (Action.statistics p.eventId).perform s db = .ok (.statistics stats, db) ∧
        stats.byDay = [("None", 1)] := by
  refine ⟨by decide, by decide +kernel, _, rfl, ?_⟩
  decide +kernel

end Promotions
