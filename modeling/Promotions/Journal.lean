import Promotions.Outcome

/-!
# Listing the journal

Entries are listed from the latest, page by page. A page has at least one place and at most
`largestPage`.
-/

namespace Promotions

/-- Which entries of the journal to list, and which page of them. -/
structure JournalQuery where
  eventId : Option Id := none
  requestId : Option Id := none
  /-- An empty word is no restriction. -/
  logType : Option String := none
  limit : Int := 50
  offset : Int := 0
  deriving Repr

namespace JournalQuery

/-- The most entries that a page may have. -/
def largestPage : Int := 200

/-- The number of places of a page. -/
def pageSize (query : JournalQuery) : Nat := (max 1 (min query.limit largestPage)).toNat

theorem pageSize_pos (query : JournalQuery) : 0 < query.pageSize := by
  unfold pageSize largestPage; omega

/-- How many entries come before the page; a negative number counts as none. -/
def skipped (query : JournalQuery) : Int := max 0 query.offset

/-- An entry is one of those that are asked for. -/
def admits (query : JournalQuery) (entry : LogEntry) : Bool :=
  query.eventId.all (entry.eventId = some ·) && query.requestId.all (entry.requestId = some ·) &&
    Text.isWanted query.logType entry.logType.name

end JournalQuery

/-- The entries that are asked for, all pages of them. -/
def Table.matching (journal : Table LogEntry) (query : JournalQuery) : List LogEntry :=
  latestFirst LogEntry.createdAt (journal.filter query.admits)

/-- The page of entries that is asked for. -/
def Table.page (journal : Table LogEntry) (query : JournalQuery) :
    Except Failure (List LogEntry) :=
  if !fits64 query.skipped then Failure.breakOff .integerRange
  else .ok (((journal.matching query).drop query.skipped.toNat).take query.pageSize)

end Promotions
