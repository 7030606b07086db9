import RecordSync.Store.Column

/-! A table of rows, each known by its external id and by a number that is never
given twice. -/

namespace RecordSync.Store

open RecordSync.Record

/-- The rows in the order of their ids, and the last id that was given. -/
structure RowTable where
  rows : List StoredRow
  lastId : Nat
  deriving DecidableEq, Repr

instance : Inhabited RowTable := ⟨⟨[], 0⟩⟩

namespace RowTable

def empty : RowTable := ⟨[], 0⟩

def size (table : RowTable) : Nat := table.rows.length

def find? (table : RowTable) (externalId : String) : Option StoredRow :=
  table.rows.find? (·.externalId == externalId)

/-- The row with both ids. -/
def findExact? (table : RowTable) (id : Int) (externalId : String) : Option StoredRow :=
  table.rows.find? fun stored => stored.id == id && stored.externalId == externalId

/-- An id that is above all ids that were given and all that are there. -/
def nextId (table : RowTable) : Nat :=
  table.rows.foldl (fun next stored => max next (stored.id + 1).toNat) (table.lastId + 1)

/-- The greatest id that there is. -/
def greatestId : Nat := Number.signed64 - 1

def isFull (table : RowTable) : Bool := greatestId < table.nextId

/-- The next id is used up. -/
def insert (table : RowTable) (row : Row) : RowTable :=
  ⟨table.rows ++ [.ofRow table.nextId row], table.nextId⟩

/-- The table with a stored row in the place of another one. -/
def replace (table : RowTable) (existing written : StoredRow) : RowTable :=
  { table with rows := table.rows.map fun stored => if stored.id = existing.id then written else stored }

/-- A stored row overwritten in place. It keeps the instant of its creation. -/
def overwrite (table : RowTable) (existing : StoredRow) (row : Row) : RowTable :=
  let written := { StoredRow.ofRow existing.id row with firstSyncedAt := existing.firstSyncedAt }
  table.replace existing written

def erase (table : RowTable) (externalId : String) : RowTable :=
  { table with rows := table.rows.filter (·.externalId != externalId) }

end RowTable

end RecordSync.Store
