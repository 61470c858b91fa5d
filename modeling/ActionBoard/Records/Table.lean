import ActionBoard.Action.Metadata

/-!
# Tables of records

A record maps column names to values.  A table is a list of records with the names of its columns; a
record need not have a value in every column, and may have values under other names.

A cell is compared with a text by their texts, white space at the ends left aside; a cell that is
missing has the empty text.
-/

namespace ActionBoard

/-- A list of records under some columns. -/
structure Table where
  columns : List String
  data : List Record

namespace Table

/-- Whether the cell of a record reads like a text. -/
def cellMatches (record : Record) (column value : String) : Bool :=
  let cell := (record.find? column).elim "" Value.text
  Text.trimmed cell == Text.trimmed value

/-- The first record whose cell reads like the value. -/
def search (table : Table) (column value : String) : Option Record :=
  table.data.find? fun record => cellMatches record column value

/-- The records with one cell set in the first record that matches. -/
def updateRecords (column value target : String) (new : Value) : List Record → List Record
  | [] => []
  | record :: records =>
    if cellMatches record column value then record.insert target new :: records
    else record :: updateRecords column value target new records

/-- The table with one cell set in the first record that matches, and whether there was one. -/
def updateFirst (table : Table) (column value target : String) (new : Value) : Bool × Table :=
  (table.data.any fun record => cellMatches record column value,
    { table with data := updateRecords column value target new table.data })

def ofJson? (json : Json) : Option Table := do
  let fields ← Fields.ofJson? ["columns", "data"] json
  some
    { columns := ← fields.withDefault "columns" (Json.list? Json.string?) []
      data := ← fields.withDefault "data" (Json.list? Json.record?) [] }

def toJson (table : Table) : Json :=
  .object
    [("columns", .strings table.columns),
      ("data", .array (table.data.map fun record => (Value.object record).json))]

/-- Without a matching record nothing is changed. -/
theorem updateRecords_of_none {column value target : String} {new : Value} {records : List Record}
    (h : ∀ record ∈ records, cellMatches record column value = false) :
    updateRecords column value target new records = records := by
  induction records with
  | nil => rfl
  | cons record records ih =>
    rw [updateRecords, h record List.mem_cons_self,
      ih fun r member => h r (List.mem_cons_of_mem _ member)]
    rfl

end Table

end ActionBoard
