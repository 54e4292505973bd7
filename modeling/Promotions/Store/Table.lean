import Promotions.Id

/-!
# Tables

A table is the list of its rows in order of creation, with the number of rows ever added, from which
the identifier of the next row is made. Identifiers of one table are therefore never used twice, not
even after a row was deleted.
-/

namespace Promotions

/-- A kind of row: its identifier, and the number that the identifiers of its table count from. -/
class Row (ρ : Type) where
  id : ρ → Id
  origin : Nat

/-- The rows of one kind, in order of creation. -/
structure Table (ρ : Type) where
  rows : List ρ := []
  /-- How many rows were ever added. -/
  added : Nat := 0
  deriving Repr, Inhabited

namespace Table

variable {ρ : Type}

/-- The number of rows. -/
def size (t : Table ρ) : Nat := t.rows.length

/-- The rows that satisfy a condition, in order of creation. -/
def filter (t : Table ρ) (p : ρ → Bool) : List ρ := t.rows.filter p

/-- Some row satisfies a condition. -/
def any (t : Table ρ) (p : ρ → Bool) : Bool := t.rows.any p

/-- How many rows satisfy a condition. -/
def count (t : Table ρ) (p : ρ → Bool) : Nat := t.rows.countP p

/-- Adds a row, which has to carry the next identifier. -/
def push (t : Table ρ) (row : ρ) : Table ρ := { rows := t.rows ++ [row], added := t.added + 1 }

@[simp]
theorem rows_push (t : Table ρ) (row : ρ) : (t.push row).rows = t.rows ++ [row] := rfl

@[simp]
theorem added_push (t : Table ρ) (row : ρ) : (t.push row).added = t.added + 1 := rfl

@[simp]
theorem size_push (t : Table ρ) (row : ρ) : (t.push row).size = t.size + 1 := by simp [size]

variable [Row ρ]

/-- The identifier of the next row. -/
def nextId (t : Table ρ) : Id := ⟨Row.origin ρ + t.added + 1⟩

/-- The row of an identifier. -/
def find? (t : Table ρ) (id : Id) : Option ρ := t.rows.find? fun row => Row.id row = id

/-- Changes the row of an identifier. -/
def modify (t : Table ρ) (id : Id) (f : ρ → ρ) : Table ρ :=
  { t with rows := t.rows.map fun row => if Row.id row = id then f row else row }

/-- Puts a row in the place of the row that has its identifier. -/
def put (t : Table ρ) (row : ρ) : Table ρ := t.modify (Row.id row) fun _ => row

/-- Deletes the row of an identifier. -/
def erase (t : Table ρ) (id : Id) : Table ρ :=
  { t with rows := t.rows.filter fun row => Row.id row ≠ id }

/-! ### What changing and finding do to the rows -/

@[simp]
theorem rows_modify (t : Table ρ) (id : Id) (f : ρ → ρ) :
    (t.modify id f).rows = t.rows.map fun row => if Row.id row = id then f row else row := rfl

@[simp]
theorem rows_erase (t : Table ρ) (id : Id) :
    (t.erase id).rows = t.rows.filter fun row => Row.id row ≠ id := rfl

@[simp]
theorem added_modify (t : Table ρ) (id : Id) (f : ρ → ρ) : (t.modify id f).added = t.added := rfl

@[simp]
theorem size_modify (t : Table ρ) (id : Id) (f : ρ → ρ) : (t.modify id f).size = t.size := by
  simp [size]

theorem mem_of_find?_eq_some {t : Table ρ} {id : Id} {row : ρ} (h : t.find? id = some row) :
    row ∈ t.rows := List.mem_of_find?_eq_some h

theorem id_of_find?_eq_some {t : Table ρ} {id : Id} {row : ρ} (h : t.find? id = some row) :
    Row.id row = id := by simpa using List.find?_some h

theorem find?_eq_none_iff {t : Table ρ} {id : Id} :
    t.find? id = none ↔ ∀ row ∈ t.rows, Row.id row ≠ id := by simp [find?]

end Table

end Promotions
