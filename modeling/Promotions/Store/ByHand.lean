import Promotions.Store.Columns

/-!
# Rows written by hand

Rows can be added, changed and deleted directly, past all rules of the business but not past the
constraints of the tables, and all tables can be dumped. Nothing of this is told to the journal. A
column is written only if its new content is not loosely the old one, and the time of the last
change, where the table keeps it, moves when some column is written. A date that is given with an
offset is never the old one.
-/

namespace Promotions

/-- The seven kinds of row. -/
inductive RowKind where
  | event
  | reward
  | participation
  | request
  | claim
  | grant
  | log
  deriving DecidableEq, Repr

namespace RowKind

/-- All kinds, in the order of the tables. -/
def all : List RowKind := [event, reward, participation, request, claim, grant, log]

/-- The word for a kind. -/
def name : RowKind → String
  | event => "event"
  | reward => "reward"
  | participation => "participation"
  | request => "request"
  | claim => "claim"
  | grant => "grant"
  | log => "log"

/-- The kind of a word. -/
def ofName? (word : String) : Option RowKind := all.find? fun kind => kind.name = word

end RowKind

namespace Columns

/-- The members of an object. -/
def membersOf : Json → List (String × Json)
  | .obj members => members
  | _ => []

/-- The columns of a row with new contents written over them: a column whose new content is loosely
the old one keeps the old one. -/
def merged (old new : List (String × Json)) : List (String × Json) :=
  old.map fun (name, before) =>
    match Json.lookup name new with
    | some after => (name, if Json.looselyEq before after then before else after)
    | none => (name, before)

/-- Some column has another content than before. -/
def differ (old new : List (String × Json)) : Bool :=
  old.any fun (name, before) =>
    match Json.lookup name new with
    | some after => !Json.looselyEq before after
    | none => false

/-- The columns of dates. -/
def dates : List String :=
  ["start_date", "end_date", "created_at", "updated_at", "participated_at", "reward_requested_at",
    "rewarded_at", "requested_at", "approved_at", "issued_at", "expiry_date", "used_at"]

/-- A column is a date that is given with an offset. -/
def hasOffset : String × Json → Bool
  | (name, .str text) =>
    name ∈ dates && ((Timestamp.ofText? text).bind Timestamp.offset).isSome
  | _ => false

/-- Amends a row: reads it with the given columns written over its own, and writes it unless all
columns are loosely what they were. -/
def amend {ρ : Type} (columns : ρ → Json) (ofColumns : Columns → Except Fault ρ)
    (stamped : Option (ρ → ρ)) (row : ρ) (given : List (String × Json)) : Except Fault ρ := do
  screen given
  let old := membersOf (columns row)
  let overwritten := given.foldl (fun (all : List (String × Json)) (name, value) =>
    Json.assign name value all) old
  let read ← ofColumns { given := overwritten, isNew := false }
  let new := membersOf (columns read)
  let written ← ofColumns { given := merged old new, isNew := false }
  match stamped with
  | none => return written
  | some stamp =>
    let explicit := Json.lookup "updated_at" old != Json.lookup "updated_at" new ||
      given.any fun column => column.1 = "updated_at" && hasOffset column
    return if (differ old new || given.any hasOffset) && !explicit then stamp written else written

end Columns

namespace Database

/-- Turns a missing addition into a broken constraint. -/
def orConstraint {α : Type} : Option α → Except Fault α
  | some value => .ok value
  | none => .error .constraint

/-- Adds a row of the given columns. -/
def insertRow (db : Database) (stamp : Instant) (kind : RowKind) (given : List (String × Json)) :
    Except Fault Database := do
  Columns.screen given
  let c : Columns := { given, isNew := true }
  let books := db.books
  match kind with
  | .event =>
    let row ← Event.ofColumns books.events.nextId stamp c
    return { db with books := { books with events := books.events.push row } }
  | .reward =>
    let row ← Reward.ofColumns books.rewards.nextId stamp c
    if Books.stockOk row then
      return { db with books := { books with rewards := books.rewards.push row } }
    else throw .constraint
  | .participation =>
    let row ← Participation.ofColumns books.participations.nextId stamp c
    return { db with books := ← orConstraint (books.addParticipation? row) }
  | .request =>
    let row ← RewardRequest.ofColumns books.requests.nextId stamp c
    return { db with books := { books with requests := books.requests.push row } }
  | .claim =>
    let row ← Claim.ofColumns stamp c
    return { db with books := ← orConstraint (books.addClaim? row) }
  | .grant =>
    let row ← Grant.ofColumns books.grants.nextId stamp c
    return { db with books := ← orConstraint (books.addGrant? row) }
  | .log =>
    let row ← LogEntry.ofColumns db.journal.nextId stamp c
    return { db with journal := db.journal.push row }

/-- The row of an identifier, which has to exist. -/
def existing {ρ : Type} [Row ρ] (table : Table ρ) (id : Id) : Except Fault ρ :=
  orConstraint (table.find? id)

/-- Writes columns of a row. Claims have no identifier and cannot be changed. -/
def updateRow (db : Database) (stamp : Instant) (kind : RowKind) (id : Id)
    (given : List (String × Json)) : Except Fault Database := do
  let books := db.books
  match kind with
  | .event =>
    let row ← Columns.amend Event.columns (Event.ofColumns id stamp)
      (some fun e => { e with updatedAt := some stamp }) (← existing books.events id) given
    return { db with books := { books with events := books.events.put row } }
  | .reward =>
    let row ← Columns.amend (Reward.columns "meta") (Reward.ofColumns id stamp)
      (some fun r => { r with updatedAt := some stamp }) (← existing books.rewards id) given
    if Books.stockOk row then
      return { db with books := { books with rewards := books.rewards.put row } }
    else throw .constraint
  | .participation =>
    let row ← Columns.amend Participation.columns (Participation.ofColumns id stamp) none
      (← existing books.participations id) given
    let taken := books.participations.any fun p =>
      p.id ≠ id && row.dedupeKey.isSome && p.dedupeKey = row.dedupeKey
    if taken then throw .constraint
    else return { db with books := { books with participations := books.participations.put row } }
  | .request =>
    let row ← Columns.amend RewardRequest.columns (RewardRequest.ofColumns id stamp)
      (some fun q => { q with updatedAt := some stamp }) (← existing books.requests id) given
    return { db with books := { books with requests := books.requests.put row } }
  | .grant =>
    let row ← Columns.amend (Grant.columns "meta") (Grant.ofColumns id stamp) none
      (← existing books.grants id) given
    let taken := books.grants.any fun g =>
      g.id ≠ id && g.requestId = row.requestId && g.rewardId = row.rewardId
    if taken then throw .constraint
    else return { db with books := { books with grants := books.grants.put row } }
  | .log =>
    let row ← Columns.amend LogEntry.columns (LogEntry.ofColumns id stamp) none
      (← existing db.journal id) given
    return { db with journal := db.journal.put row }
  | .claim => throw .constraint

/-- Deletes a row. Claims have no identifier and cannot be deleted. -/
def deleteRow (db : Database) (kind : RowKind) (id : Id) : Database :=
  let books := db.books
  match kind with
  | .event => { db with books := { books with events := books.events.erase id } }
  | .reward => { db with books := { books with rewards := books.rewards.erase id } }
  | .participation =>
    { db with books := { books with participations := books.participations.erase id } }
  | .request => { db with books := { books with requests := books.requests.erase id } }
  | .grant => { db with books := { books with grants := books.grants.erase id } }
  | .log => { db with journal := db.journal.erase id }
  | .claim => db

/-- All rows of a kind with all their columns, in order of creation. -/
def dump (db : Database) : RowKind → List Json
  | .event => db.books.events.rows.map Event.columns
  | .reward => db.books.rewards.rows.map (Reward.columns "meta")
  | .participation => db.books.participations.rows.map Participation.columns
  | .request => db.books.requests.rows.map RewardRequest.columns
  | .claim => db.books.claims.map Claim.columns
  | .grant => db.books.grants.rows.map (Grant.columns "meta")
  | .log => db.journal.rows.map LogEntry.columns

/-- All rows but the claims can be read again: the store takes none of their identifiers for a
number. This can only fail for identifiers that no row has. -/
def isReadable (db : Database) : Bool :=
  db.books.rewards.rows.all (fun r => Id.isReadable r.eventId) &&
    db.books.participations.rows.all
      (fun p => [some p.eventId, p.rewardRequestId].all Id.isReadable) &&
    db.books.requests.rows.all (fun q => Id.isReadable q.eventId) &&
    db.books.grants.rows.all
      (fun g => [some g.eventId, some g.rewardId, some g.requestId].all Id.isReadable) &&
    db.journal.rows.all fun l => l.named.all Id.isReadable

/-- The number of rows of each kind. -/
def counts (db : Database) : List Nat :=
  [db.books.events.size, db.books.rewards.size, db.books.participations.size,
    db.books.requests.size, db.books.claims.length, db.books.grants.size, db.journal.size]

end Database

end Promotions
