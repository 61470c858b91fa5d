import ActionBoard.Action.Document
import ActionBoard.Board.Basic
import ActionBoard.Json.Printer
import ActionBoard.Json.Reader

/-!
# Board documents

A board is saved as one JSON object: the fields of the board next to the version of the format and
the name of the application.  When a document is read, the two extra fields have to be texts but are
not looked at any further.

How trees and times become texts, and which texts are read as which, is up to a `DocumentFormat`.
What a board is as a tree, and which trees are boards, does not depend on it any further.

A document is *malformed* when its text is no JSON, and *ill typed* when it is JSON of the wrong
shape.  A text may have both faults, and then the one that its reader meets first counts.  The
reader of the standard format walks the members of the document once: the two extra fields are
checked on the spot, every other member is only stored, and the board is made out of the stored
members when the closing brace has been reached; what comes behind that brace is looked at last.
-/

namespace ActionBoard

/-- The version of the format that is written. -/
def formatVersion : String := "0.3.0"

/-- The name of the application that is written. -/
def applicationName : String := "macroboard"

/-- What is wrong with a document. -/
inductive DocumentFault where
  | malformed
  | illTyped
  deriving DecidableEq, Repr

/-- How trees and times are written in documents, and how they are read. -/
structure DocumentFormat where
  /-- The text of a tree. -/
  text : Json → String
  /-- The tree of a text that is JSON. -/
  tree? : List Char → Option Json
  timeText : UtcTime → String
  time? : String → Option UtcTime
  /-- What is found first in a text of which no board is made. -/
  fault : List Char → DocumentFault

/-! ## Rows and boards as JSON -/

namespace Row

def fieldNames : List String :=
  ["id", "name", "enabled", "subroutine", "actions"]

def ofJson? (form : ActionKind.UnitForm) (json : Json) : Option Row := do
  let fields ← Fields.ofJson? fieldNames json
  some
    { id := ← fields.withDefault "id" Json.string? ""
      name := ← fields.withDefault "name" Json.string? ""
      enabled := ← fields.withDefault "enabled" Json.bool? true
      subroutine := ← fields.withDefault "subroutine" Json.bool? false
      actions := ← fields.withDefault "actions" (Json.list? (Action.ofJson? form)) [] }

/-- The row as an object with its actions written already; only a subroutine says
whether it is one. -/
def jsonWith (row : Row) (actions : List Json) : Json :=
  .object
    ([("id", .string row.id), ("name", .string row.name), ("enabled", .bool row.enabled)]
      ++ (if row.subroutine then [("subroutine", .bool true)] else [])
      ++ [("actions", .array actions)])

def toJson (row : Row) : Json :=
  row.jsonWith (row.actions.map Action.toJson)

end Row

namespace Board

def fieldNames : List String :=
  ["id", "name", "rows", "created_at", "modified_at"]

def defaultId : String := "board_1"

def defaultName : String := "Loaded board"

/-- A text that is not looked at any further. -/
def tagOfJson? (json : Json) : Option Unit :=
  json.string?.map fun _ => ()

section

variable (time? : String → Option UtcTime)

def timeOfJson? (json : Json) : Option UtcTime :=
  json.string?.bind time?

/-- The board written as `json`; a time that is missing is the present. -/
def ofJson? (form : ActionKind.UnitForm) (now : UtcTime) (json : Json) : Option Board := do
  let fields ← Fields.ofJson? fieldNames json
  some
    { id := ← fields.withDefault "id" Json.string? defaultId
      name := ← fields.withDefault "name" Json.string? defaultName
      rows := ← fields.withDefault "rows" (Json.list? (Row.ofJson? form)) []
      createdAt := ← fields.withDefault "created_at" (timeOfJson? time?) now
      modifiedAt := ← fields.withDefault "modified_at" (timeOfJson? time?) now }

/-- The board of a document that has been read as a tree. -/
def ofDocumentJson? (now : UtcTime) : Json → Option Board
  | .object members => do
    let tags ← Fields.ofJson? ["version", "app"] (.object members)
    tags.withDefault "version" tagOfJson? ()
    tags.withDefault "app" tagOfJson? ()
    ofJson? time? .nullOrEmpty now (.object members)
  | _ => none

end

section

variable (format : DocumentFormat)

/-- The board of a document. -/
def ofDocument (now : UtcTime) (text : String) : Except DocumentFault Board :=
  match (format.tree? text.toList).bind (ofDocumentJson? format.time? now) with
  | some board => .ok board
  | none => .error (format.fault text.toList)

/-- The fields of a board with its rows written already. -/
def membersWith (board : Board) (rows : List Json) : List (String × Json) :=
  [("id", .string board.id), ("name", .string board.name), ("rows", .array rows),
    ("created_at", .string (format.timeText board.createdAt)),
    ("modified_at", .string (format.timeText board.modifiedAt))]

def toJson (board : Board) : Json :=
  .object (board.membersWith format (board.rows.map Row.toJson))

/-- The saved form of a board with its rows written already. -/
def documentWith (board : Board) (rows : List Json) : Json :=
  .object ([("version", .string formatVersion), ("app", .string applicationName)]
    ++ board.membersWith format rows)

/-- The saved form of a board. -/
def documentJson (board : Board) : Json :=
  board.documentWith format (board.rows.map Row.toJson)

/-- The text of the saved form. -/
def document (board : Board) : String :=
  format.text (board.documentJson format)

end

end Board

/-! ## The standard format -/

/-- What is left of a text once something that may be at fault has been read. -/
abbrev DocumentReader (α : Type) := List Char → Except DocumentFault (α × List Char)

namespace BoardDocument

open Json

/-- A reader of well-formed text as a reader of documents. -/
def wellFormed {α : Type} (reader : Reader α) : DocumentReader α := fun text =>
  match reader text with
  | some result => .ok result
  | none => .error .malformed

/-- The fault of a text where something else than a text or an object is found: an array is known to
be wrong by its bracket, and so is an object where a text is expected, but a number, a word or a
string is first read to its end. -/
def faultOf (text : List Char) : DocumentFault :=
  match skipSpace text with
  | '[' :: _ => .illTyped
  | '{' :: _ => .illTyped
  | text => if (readValue 0 text).isSome then .illTyped else .malformed

/-- A text of an extra field. -/
def readText : DocumentReader String := fun text =>
  match skipSpace text with
  | '"' :: rest => wellFormed readStringBody rest
  | _ => .error (faultOf text)

/-- The text behind the colon of a member. -/
def afterColon (text : List Char) : Except DocumentFault (List Char) :=
  match readColon text with
  | some rest => .ok rest
  | none => .error .malformed

/-- The members of a document behind those already read: the names of the extra fields seen, and the
stored members in reverse. -/
def readMembers :
    Nat → List String → List (String × Json) → DocumentReader (List (String × Json))
  | 0, _, _ => fun _ => .error .malformed
  | rounds + 1, extra, stored => fun text => do
    let (name, rest) ← wellFormed readName text
    if name == "version" || name == "app" then
      if extra.contains name then .error .illTyped
      else
        let (_, rest) ← readText (← afterColon rest)
        next rounds (name :: extra) stored rest
    else
      let (json, rest) ← wellFormed (readValue (nestingLimit - 1)) (← afterColon rest)
      next rounds extra ((name, json) :: stored) rest
where
  /-- What comes after a member: another one, or the end. -/
  next (rounds : Nat) (extra : List String) (stored : List (String × Json)) :
      DocumentReader (List (String × Json)) := fun text =>
    match skipSpace text with
    | ',' :: rest => readMembers rounds extra stored rest
    | '}' :: rest => .ok (stored.reverse, rest)
    | _ => .error .malformed

/-- The members of a document from its opening brace on. -/
def readAllMembers : DocumentReader (List (String × Json)) := fun text =>
  match skipSpace text with
  | '{' :: rest =>
    match skipSpace rest with
    | '}' :: behind => .ok ([], behind)
    | _ => readMembers (rest.length + 1) [] [] rest
  | _ => .error (faultOf text)

/-- The fault that is met first on the way through a document, if any is met.  Whether the stored
members make a board does not depend on the present. -/
def fault? (text : List Char) : Option DocumentFault :=
  match readAllMembers text with
  | .error fault => some fault
  | .ok (members, rest) =>
    match Board.ofJson? UtcTime.ofText? .nullOrEmpty .epoch (.object members) with
    | none => some .illTyped
    | some _ => if (skipSpace rest).isEmpty then none else some .malformed

end BoardDocument

/-- Indented trees, and times as in RFC 3339. -/
def DocumentFormat.standard : DocumentFormat where
  text := Json.document
  tree? := Json.parse?
  timeText := UtcTime.text
  time? := UtcTime.ofText?
  fault text := (BoardDocument.fault? text).getD .malformed

/-- Whether two boards are the same, with the two floating zeros taken as one number. -/
def Board.same (a b : Board) : Bool :=
  (a.toJson .standard).same (b.toJson .standard)

end ActionBoard
