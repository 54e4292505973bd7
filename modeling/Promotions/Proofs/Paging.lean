import Promotions.Proofs.Links

/-!
# Turning the pages of the journal

A reader of the journal who asks for one page after the other, each where the one before it ended,
until a page is not full, gets a list of pages (`Database.Turns`). Put together they are the
listing: the entries that are asked for, from the latest on, those of one time in order of creation
(`JournalQuery.Lists`). A page is cut off the entries that are left (`Database.shows_iff`), and the
next one begins where it ends, so that nothing is lost or shown twice at the joints; an induction
over the pages carries that to all of them (`Database.Turns.flatten_eq`).

A page can be asked for only where its place fits 64 bits. No table has more rows than that, and the
reader never gets beyond the last row.
-/

namespace Promotions

/-! ### The listing -/

namespace JournalQuery

theorem admits_iff {query : JournalQuery} {entry : LogEntry} :
    query.admits entry = true ↔
      (∀ id, query.eventId = some id → entry.eventId = some id) ∧
      (∀ id, query.requestId = some id → entry.requestId = some id) ∧
      (∀ word, query.logType = some word → word ≠ "" → entry.logType.name = word) := by
  have hword : Text.isWanted query.logType entry.logType.name = true ↔
      ∀ word, query.logType = some word → word ≠ "" → entry.logType.name = word := by
    unfold Text.isWanted
    cases query.logType with
    | none => simp
    | some word =>
      simp only [Option.all_some, Bool.or_eq_true, decide_eq_true_eq, Option.some.injEq,
        forall_eq', or_iff_not_imp_left]
      exact imp_congr_right fun _ => eq_comm
  unfold admits
  rw [Bool.and_eq_true, Bool.and_eq_true, hword, and_assoc]
  refine and_congr ?_ (and_congr_left fun _ => ?_)
  · cases query.eventId <;> simp
  · cases query.requestId <;> simp

/-- **A listing of the entries that are asked for**: all of them, from the latest to the earliest;
entries of one time are in order of creation. -/
structure Lists (query : JournalQuery) (journal : Table LogEntry) (listed : List LogEntry) :
    Prop where
  perm : listed.Perm (journal.rows.filter query.admits)
  sorted : listed.Pairwise fun earlier later => notAfter later.createdAt earlier.createdAt = true
  stable : ∀ time, listed.filter (fun entry => entry.createdAt = time) =
    (journal.rows.filter query.admits).filter fun entry => entry.createdAt = time

theorem lists_matching (query : JournalQuery) (journal : Table LogEntry) :
    query.Lists journal (journal.matching query) where
  perm := List.mergeSort_perm _ _
  sorted := pairwise_latestFirst LogEntry.createdAt (journal.filter query.admits)
  stable := filter_latestFirst LogEntry.createdAt (journal.filter query.admits)

theorem length_matching_le (query : JournalQuery) (journal : Table LogEntry) :
    (journal.matching query).length ≤ journal.size := by
  rw [(query.lists_matching journal).perm.length_eq]
  exact List.length_filter_le _ _

end JournalQuery

/-! ### Pages -/

namespace Database

/-- The journal shows a page of the entries that are asked for, the one that begins after a number
of them. -/
def Shows (db : Database) (query : JournalQuery) (offset : Nat) (page : List LogEntry) : Prop :=
  ∀ s, (Action.findLogs { query with offset := offset }).perform s db = .ok (.logs page, db)

/-- **A reader turns the pages**: each page begins where the one before it ends, and the first one
that is not full is the last. -/
inductive Turns (db : Database) (query : JournalQuery) : Nat → List (List LogEntry) → Prop
  | last {offset : Nat} {page : List LogEntry} : db.Shows query offset page →
    page.length < query.pageSize → Turns db query offset [page]
  | next {offset : Nat} {page : List LogEntry} {pages : List (List LogEntry)} :
    db.Shows query offset page → query.pageSize ≤ page.length →
    Turns db query (offset + query.pageSize) pages → Turns db query offset (page :: pages)

variable {db : Database} {query : JournalQuery} {offset : Nat} {page : List LogEntry}
  {pages : List (List LogEntry)}

/-- **A page** is cut off the entries that are left. -/
theorem shows_iff : db.Shows query offset page ↔ fits64 offset = true ∧
    page = ((db.journal.matching query).drop offset).take query.pageSize := by
  have hskipped : ({ query with offset := offset } : JournalQuery).skipped = offset := by
    simp [JournalQuery.skipped]
  have hperform (s : Session) : (Action.findLogs { query with offset := offset }).perform s db =
      if fits64 offset = true then
        .ok (.logs (((db.journal.matching query).drop offset).take query.pageSize), db)
      else .error (.fault .integerRange) := by
    show Action.found db .logs (db.journal.page { query with offset := offset }) = _
    unfold Table.page
    rw [hskipped]
    cases fits64 offset <;> rfl
  unfold Shows
  simp only [hperform]
  constructor
  · intro h
    have h := h { clock := default }
    split at h
    · next hfits =>
      cases h
      exact ⟨hfits, rfl⟩
    · cases h
  · rintro ⟨hfits, rfl⟩ s
    rw [if_pos hfits]

/-- **The pages that are turned** are what is left of the listing, cut where a page is full. -/
theorem Turns.flatten_eq (h : db.Turns query offset pages) :
    pages.flatten = (db.journal.matching query).drop offset := by
  induction h with
  | last hpage hshort =>
    obtain ⟨-, rfl⟩ := shows_iff.mp hpage
    rw [List.length_take] at hshort
    rw [List.flatten_singleton, List.take_of_length_le (by omega)]
  | next hpage _ _ ih =>
    obtain ⟨-, rfl⟩ := shows_iff.mp hpage
    rw [List.flatten_cons, ih, ← List.drop_drop, List.take_append_drop]

theorem Turns.exists_last (h : db.Turns query offset pages) :
    ∃ full last, pages = full ++ [last] ∧ (∀ page ∈ full, page.length = query.pageSize) ∧
      last.length < query.pageSize := by
  induction h with
  | last _ hshort => exact ⟨[], _, rfl, by simp, hshort⟩
  | @next _ page _ hpage hfull _ ih =>
    obtain ⟨full, last, rfl, hpages, hshort⟩ := ih
    refine ⟨page :: full, last, rfl, fun other hother => ?_, hshort⟩
    rcases List.mem_cons.mp hother with rfl | hother
    · obtain ⟨-, rfl⟩ := shows_iff.mp hpage
      exact Nat.le_antisymm (List.length_take_le _ _) hfull
    · exact hpages other hother

theorem Turns.unique {others : List (List LogEntry)} (h : db.Turns query offset pages)
    (hothers : db.Turns query offset others) : others = pages := by
  have hpage {offset : Nat} {page other : List LogEntry} (h : db.Shows query offset page)
      (hother : db.Shows query offset other) : other = page := by
    rw [(shows_iff.mp h).2, (shows_iff.mp hother).2]
  induction h generalizing others with
  | last hlast hshort =>
    cases hothers with
    | last hother => rw [hpage hlast hother]
    | next hother hfull =>
      rw [hpage hlast hother] at hfull
      omega
  | next hnext hfull _ ih =>
    cases hothers with
    | last hother hshort =>
      rw [hpage hnext hother] at hshort
      omega
    | next hother _ hrest => rw [hpage hnext hother, ih hrest]

/-- **The pages can be turned** from any place of the listing to its end. -/
theorem exists_turns (hrows : fits64 (db.journal.matching query).length = true)
    (hoffset : offset ≤ (db.journal.matching query).length) :
    ∃ pages, db.Turns query offset pages := by
  induction hleft : (db.journal.matching query).length - offset using Nat.strongRecOn
    generalizing offset with
  | _ left ih =>
    have hfits : fits64 offset = true := by
      simp only [fits64, Bool.and_eq_true, decide_eq_true_eq] at hrows ⊢
      omega
    let page := ((db.journal.matching query).drop offset).take query.pageSize
    have hshows : db.Shows query offset page := shows_iff.mpr ⟨hfits, rfl⟩
    by_cases hshort : page.length < query.pageSize
    · exact ⟨_, .last hshows hshort⟩
    · have hfull : query.pageSize ≤ min query.pageSize
          ((db.journal.matching query).length - offset) := by
        rw [← List.length_drop, ← List.length_take]
        exact Nat.not_lt.mp hshort
      have hpos := query.pageSize_pos
      obtain ⟨pages, hpages⟩ := ih _ (by omega) (by omega : offset + query.pageSize ≤ _) rfl
      exact ⟨_, .next hshows (Nat.not_lt.mp hshort) hpages⟩

end Database

/-- **Turning the pages loses and repeats nothing.** Whatever entries are asked for, by event,
request or type, and whatever limit is given, which counts as one if it is lower and as 200 if it is
higher: the pages from the start on can be turned, in one way, until one is not full. Put together
they are a listing of the entries that are asked for, from the latest on; every page but the last
has as many entries as the limit says, and the last one fewer. And an offset below zero is read as
zero. -/
theorem pages_join {db : Database} (hrows : fits64 db.journal.size = true) (query : JournalQuery) :
    (query.pageSize : Int) = max 1 (min query.limit 200) ∧
    (∀ entry, query.admits entry = true ↔
      (∀ id, query.eventId = some id → entry.eventId = some id) ∧
      (∀ id, query.requestId = some id → entry.requestId = some id) ∧
      (∀ word, query.logType = some word → word ≠ "" → entry.logType.name = word)) ∧
    (∃ pages, db.Turns query 0 pages ∧ (∀ others, db.Turns query 0 others → others = pages) ∧
      query.Lists db.journal pages.flatten ∧
      ∃ full last, pages = full ++ [last] ∧ (∀ page ∈ full, page.length = query.pageSize) ∧
        last.length < query.pageSize) ∧
    ∀ s (offset : Int), offset ≤ 0 →
      (Action.findLogs { query with offset := offset }).perform s db =
        (Action.findLogs { query with offset := 0 }).perform s db := by
  refine ⟨?_, fun entry => JournalQuery.admits_iff, ?_, fun s offset hoffset => ?_⟩
  · unfold JournalQuery.pageSize JournalQuery.largestPage
    omega
  · have hfits : fits64 (db.journal.matching query).length = true := by
      have hle := query.length_matching_le db.journal
      simp only [fits64, Bool.and_eq_true, decide_eq_true_eq] at hrows ⊢
      omega
    obtain ⟨pages, hpages⟩ := Database.exists_turns hfits (Nat.zero_le _)
    refine ⟨pages, hpages, fun others hothers => hpages.unique hothers, ?_, hpages.exists_last⟩
    rw [hpages.flatten_eq, List.drop_zero]
    exact query.lists_matching db.journal
  · have hskipped : ({ query with offset := offset } : JournalQuery).skipped =
        ({ query with offset := 0 } : JournalQuery).skipped := by
      simp only [JournalQuery.skipped]
      omega
    have hpage : db.journal.page { query with offset := offset } =
        db.journal.page { query with offset := 0 } := by
      unfold Table.page
      rw [hskipped]
      rfl
    exact congrArg (Action.found db .logs) hpage

/-- A journal of three entries, two of them of one time. -/
def threeEntries : Database :=
  { journal := ⟨[{ (default : LogEntry) with id := ⟨1⟩, createdAt := some ⟨2000000⟩ },
      { (default : LogEntry) with id := ⟨2⟩, createdAt := some ⟨1000000⟩ },
      { (default : LogEntry) with id := ⟨3⟩, createdAt := some ⟨2000000⟩ }], 3⟩ }

/-- With a limit of none the three entries are on three pages, and a fourth one is empty. -/
theorem pages_join_threeEntries :
    let query : JournalQuery := { limit := 0 }
    ∃ pages, threeEntries.Turns query 0 pages ∧ pages.flatten.length = 3 ∧
      pages.map List.length = [1, 1, 1, 0] := by
  intro query
  obtain ⟨-, -, ⟨pages, hturns, -, hlists, full, last, rfl, hfull, hlast⟩, -⟩ :=
    pages_join (show fits64 threeEntries.journal.size = true by decide) query
  have hall : (full ++ [last]).flatten.length = 3 := hlists.perm.length_eq.trans (by decide)
  have hone : ∀ page ∈ full, page.length = 1 := hfull
  have hnone : last.length = 0 := Nat.lt_one_iff.mp hlast
  have hlengths : full.map List.length = List.replicate full.length 1 :=
    List.map_eq_replicate_iff.mpr hone
  have hthree : full.length = 3 := by
    simpa [List.length_flatten, hlengths, hnone] using hall
  refine ⟨_, hturns, hall, ?_⟩
  rw [List.map_append, hlengths, hthree, List.map_singleton, hnone]
  rfl

end Promotions
