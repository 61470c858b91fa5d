import ActionBoard.Records.Table

/-!
# Stores of tables

A store keeps tables in memory, each under its name.  Asking for a table that is not there is no
error: it has no columns, and no record matches in it.
-/

namespace ActionBoard

/-- Tables by name. -/
abbrev RecordStore := Dictionary Table

namespace RecordStore

/-- The first record of a table whose cell reads like the value. -/
def search (store : RecordStore) (name column value : String) : Option Record :=
  (store.find? name).bind fun table => table.search column value

def columns (store : RecordStore) (name : String) : List String :=
  (store.find? name).elim [] Table.columns

/-- The store with one cell set in the first matching record of a table, and whether there
was such a record. -/
def updateFirst (store : RecordStore) (name column value target : String) (new : Value) :
    Bool × RecordStore :=
  match store.find? name with
  | none => (false, store)
  | some table =>
    let (updated, table) := table.updateFirst column value target new
    if updated then (true, store.insert name table) else (false, store)

/-- The tables of an object. -/
def ofJson? (json : Json) : Option RecordStore :=
  Json.dictionary? Table.ofJson? json

end RecordStore

end ActionBoard
