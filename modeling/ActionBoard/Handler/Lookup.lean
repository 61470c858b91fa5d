import ActionBoard.Handler.Substitution
import ActionBoard.Handler.Basic

/-!
# Looking up and saving records

These handlers exchange values between the variables of the run and the tables of the record store.
-/

namespace ActionBoard.Handler

/-- The store has to be there. -/
def requireStore (ports : PortSet) : Handling Unit :=
  Handling.requirePort ports.records "record store"

/-- A table that has to be there. -/
def requireTable (ports : PortSet) (name : String) : Handling Table := do
  requireStore ports
  Handling.require (← Handling.device (.readTable name)) (.storeNotFound name)

/-! ## Searching -/

/-- What a search leaves in its variable: a cell of the record, or the whole record where no column
is named or the record has no such cell. -/
def searchResult (record : Record) (column : String) : Value :=
  if column.isEmpty then .object record else (record.find? column).getD (.object record)

/-- Searches a table for a record and stores it or one of its cells; null, where none is found. -/
def dbSearch (ports : PortSet) (a : Action) : Handling Outcome := do
  requireStore ports
  let database := a.metaTextOr "database" ""
  let resultVariable := a.metaTextOr "result_variable" "db_result"
  let call := DeviceCall.searchRecord database (a.metaTextOr "search_column" "")
    ((a.metaText? "search_value").getD "")
  match ← Handling.device call with
  | some record =>
    let found := searchResult record (a.metaTextOr "result_column" "")
    Handling.setVariable resultVariable found
    return .succeeded a ("found in " ++ database ++ ": " ++ resultVariable ++ "=" ++ found.text)
  | none =>
    Handling.setVariable resultVariable .null
    return .unmet a "not found"

/-- Copies a cell of a record that a variable holds. -/
def dbGetValue (a : Action) : Handling Outcome := do
  let variableName := a.metaTextOr "variable" ""
  let column := a.metaTextOr "column" ""
  let holder ← Handling.getVariable? variableName
  match (holder.bind Value.fields?).bind fun record => record.find? column with
  | some cell =>
    Handling.setVariable (a.metaTextOr "result_variable" "db_value") cell
    return .succeeded a ("got " ++ column ++ "=" ++ cell.text)
  | none =>
    return .failed a ("variable " ++ variableName ++ " not found or has no column " ++ column)

/-! ## Walking through a table -/

/-- How many records of a table are visited at most. -/
def iterateLimit : Nat := 100

/-- Goes through records whose positions start at `position`, publishing the position of each of
them and its value; the number of records that had a value.  Stops where the run is over. -/
def visitRecords (rowVariable valueVariable valueColumn : String) (position : Nat) :
    List Record → Variables → Nat × Variables
  | [], vars => (0, vars)
  | record :: records, vars =>
    if vars.isRunning then
      let vars := vars.insert rowVariable (.nat position)
      match record.find? valueColumn with
      | some value =>
        let (count, vars) := visitRecords rowVariable valueVariable valueColumn (position + 1)
          records (vars.insert valueVariable value)
        (count + 1, vars)
      | none =>
        visitRecords rowVariable valueVariable valueColumn (position + 1) records vars
    else
      (0, vars)

/-- Walks through the first records of a table. -/
def dbIterate (ports : PortSet) (a : Action) : Handling Outcome := do
  let database := a.metaTextOr "database" ""
  let table ← requireTable ports database
  let (count, vars) := visitRecords (a.metaTextOr "row_variable" "current_row")
    (a.metaTextOr "value_variable" "current_value") (a.metaTextOr "value_column" "") 1
    (table.data.take iterateLimit) (← Handling.getVariables)
  Handling.modifyVariables fun _ => vars
  return .succeeded a ("processed " ++ Text.natText count ++ " rows from " ++ database)

/-! ## Saving -/

/-- Sets a cell of the first record in which a value is found. -/
def saveText (ports : PortSet) (a : Action) (searchValue saveValue : String) :
    Handling Outcome := do
  let database := a.metaTextOr "database" ""
  let updateColumn := a.metaTextOr "update_column" ""
  let _ ← requireTable ports database
  let updated ← Handling.device
    (.updateRecord database (a.metaTextOr "search_column" "") searchValue updateColumn
      (.string saveValue))
  if updated then
    Handling.setVariable "db_last_saved_value" (.string saveValue)
    return .succeeded a ("updated " ++ updateColumn ++ "=" ++ saveValue)
  else
    return .unmet a "no record to update"

/-- Saves a value; it and the value searched for may name variables, which are replaced in the order
in which they are enumerated. -/
def saveInOrder (enumerate : Variables → List (String × Value)) (ports : PortSet) (a : Action) :
    Handling Outcome := do
  requireStore ports
  let vars ← Handling.getVariables
  let searchValue := substituteIn (enumerate vars) ((a.metaText? "search_value").getD "")
  let saveValue := substituteIn (enumerate vars) ((a.metaText? "save_value").getD "")
  saveText ports a searchValue saveValue

/-- Saves with the variables as they are enumerated. -/
def dbSave (enumeration : Enumeration) (ports : PortSet) (a : Action) : Handling Outcome :=
  saveInOrder enumeration.entries ports a

/-! ## Translating a value -/

/-- Translates the value of a variable through two columns of a table; a value that is not in
the table is kept. -/
def checkValue (ports : PortSet) (a : Action) : Handling Outcome := do
  let toColumn := a.metaTextOr "to_column" ""
  let fromColumn := a.metaTextOr "from_column" ""
  let table ← requireTable ports (a.metaTextOr "database" "")
  let current := (← Handling.getVariable? (a.metaTextOr "check_variable" "")).getD (.string "")
  let resultVariable := a.metaTextOr "result_variable" "new_value"
  let translates (record : Record) : Bool :=
    (record.find? fromColumn).any fun cell => cell.text == current.text
  match table.data.find? translates with
  | some record =>
    let new := (record.find? toColumn).getD (.string "")
    Handling.setVariable resultVariable new
    return .succeeded a ("replaced " ++ current.text ++ " -> " ++ new.text)
  | none =>
    Handling.setVariable resultVariable current
    return .unmet a ("no replacement for " ++ current.text)

end ActionBoard.Handler
