import ActionBoard.Board.Document
import ActionBoard.Proofs.Json.ReadBack
import ActionBoard.Proofs.Json.Typed
import ActionBoard.Proofs.Time
import Mathlib.Data.List.Forall2

/-!
# Boards that are read as they are saved

A board is read back from its document, field by field, when the document can hold it
(`Board.IsStorable`).  The metadata of an action may be written in any order of its entries, each
time in another one, so a board has many documents (`Board.IsSavedAs`), and it is read back from
each of them.

Of the format only two things are asked (`DocumentFormat.ReadsBack`): trees of whole numbers that do
not nest too deep, and times in years of four digits, are read as they are written.  The rest is
said about trees: the tree that a board is written as is read as that board, with every field, given
or left out (`Board.ofJson?_documentWith`).
-/

namespace ActionBoard

/-! ## Orders of the metadata -/

/-- A tree that an action may be written as. -/
def Action.IsWrittenAs (a : Action) (json : Json) : Prop :=
  ∃ metadata, metadata.Perm a.metadata.toList ∧ json = a.jsonWith metadata

/-- A tree that a row may be written as. -/
def Row.IsWrittenAs (row : Row) (json : Json) : Prop :=
  ∃ actions, List.Forall₂ Action.IsWrittenAs row.actions actions ∧ json = row.jsonWith actions

/-- A tree that a board may be saved as. -/
def Board.IsSavedAs (format : DocumentFormat) (board : Board) (json : Json) : Prop :=
  ∃ rows, List.Forall₂ Row.IsWrittenAs board.rows rows ∧ json = board.documentWith format rows

theorem forall₂_map {α β : Type} {R : α → β → Prop} {f : α → β} (h : ∀ a, R a (f a)) (as : List α) :
    List.Forall₂ R as (as.map f) :=
  List.forall₂_map_right_iff.mpr (List.forall₂_same.mpr fun a _ => h a)

theorem Action.isWrittenAs_toJson (a : Action) : a.IsWrittenAs a.toJson :=
  ⟨a.metadata.toList, .refl _, rfl⟩

theorem Row.isWrittenAs_toJson (row : Row) : row.IsWrittenAs row.toJson :=
  ⟨_, forall₂_map Action.isWrittenAs_toJson row.actions, rfl⟩

/-- The order of the names is one of the orders. -/
theorem Board.isSavedAs_documentJson (format : DocumentFormat) (board : Board) :
    board.IsSavedAs format (board.documentJson format) :=
  ⟨_, forall₂_map Row.isWrittenAs_toJson board.rows, rfl⟩

/-! ## Trees -/

theorem Coordinates.ofJson?_toJson (at_ : Coordinates) : ofJson? at_.toJson = some at_ := by
  rw [ofJson?, toJson]
  refine Option.bind_eq_some_iff.mpr ⟨_, Fields.ofJson?_object (by simp), ?_⟩
  refine Option.bind_eq_some_iff.mpr
    ⟨_, Fields.required_eq_some rfl (Json.int32?_ofInt32 at_.x), ?_⟩
  exact Option.bind_eq_some_iff.mpr
    ⟨_, Fields.required_eq_some rfl (Json.int32?_ofInt32 at_.y), rfl⟩

theorem Color.ofJson?_toJson (color : Color) : ofJson? color.toJson = some color := by
  rw [ofJson?, toJson]
  refine Option.bind_eq_some_iff.mpr ⟨_, Fields.ofJson?_object (by simp), ?_⟩
  refine Option.bind_eq_some_iff.mpr
    ⟨_, Fields.required_eq_some rfl (Json.word8?_nat color.red), ?_⟩
  refine Option.bind_eq_some_iff.mpr ⟨_, Fields.required_eq_some rfl (Json.word8?_nat color.green),
    ?_⟩
  refine Option.bind_eq_some_iff.mpr ⟨_, Fields.required_eq_some rfl (Json.word8?_nat color.blue),
    ?_⟩
  have htolerance := Json.word8?_nat color.tolerance
  exact Option.bind_eq_some_iff.mpr ⟨_, Fields.withDefault_eq_some rfl htolerance _, rfl⟩

theorem ActionKind.ofJson?_toJson (form : UnitForm) (kind : ActionKind) :
    ofJson? form kind.toJson = some kind := by
  rw [toJson, ofJson?, ofName?_name]

theorem Json.list?_of_forall₂ {α : Type} {R : α → Json → Prop} {read : Json → Option α}
    (hread : ∀ a json, R a json → read json = some a) {values : List α} {items : List Json}
    (h : List.Forall₂ R values items) : list? read (.array items) = some values := by
  rw [list?]
  induction h with
  | nil => rfl
  | cons hfirst _ ih =>
    rw [List.mapM_cons, hread _ _ hfirst, ih]
    rfl

theorem Action.ofJson?_of_isWrittenAs (form : ActionKind.UnitForm) (a : Action) (json : Json)
    (h : a.IsWrittenAs json) : ofJson? form json = some a := by
  obtain ⟨metadata, hperm, rfl⟩ := h
  have hkind := ActionKind.ofJson?_toJson form a.kind
  have hcoordinates : Json.orNull Coordinates.ofJson?
      (a.coordinates.elim .null Coordinates.toJson) = some a.coordinates :=
    Json.orNull_elim Coordinates.ofJson?_toJson (fun _ => Json.noConfusion) a.coordinates
  have hcolor : Json.orNull Color.ofJson? (a.color.elim .null Color.toJson) = some a.color :=
    Json.orNull_elim Color.ofJson?_toJson (fun _ => Json.noConfusion) a.color
  have hkey : Json.orNull Json.string? (Json.stringOrNull a.key) = some a.key :=
    Json.orNull_elim Json.string?_string (fun _ => Json.noConfusion) a.key
  have hbefore := Json.word64?_ofWord a.delayBefore
  have hafter := Json.word64?_ofWord a.delayAfter
  have hrepeat := Json.word32?_nat a.repeatCount
  rw [ofJson?, jsonWith]
  refine Option.bind_eq_some_iff.mpr ⟨_, Fields.ofJson?_object (by simp), ?_⟩
  refine Option.bind_eq_some_iff.mpr
    ⟨_, Fields.withDefault_eq_some rfl (Json.string?_string a.id) _, ?_⟩
  refine Option.bind_eq_some_iff.mpr ⟨_, Fields.required_eq_some rfl hkind, ?_⟩
  refine Option.bind_eq_some_iff.mpr
    ⟨_, Fields.withDefault_eq_some rfl (Json.string?_string a.name) _, ?_⟩
  refine Option.bind_eq_some_iff.mpr
    ⟨_, Fields.withDefault_eq_some rfl (Json.bool?_bool a.enabled) _, ?_⟩
  refine Option.bind_eq_some_iff.mpr ⟨_, Fields.withDefault_eq_some rfl hbefore _, ?_⟩
  refine Option.bind_eq_some_iff.mpr ⟨_, Fields.withDefault_eq_some rfl hafter _, ?_⟩
  refine Option.bind_eq_some_iff.mpr ⟨_, Fields.withDefault_eq_some rfl hrepeat _, ?_⟩
  refine Option.bind_eq_some_iff.mpr ⟨_, Fields.withDefault_eq_some rfl hcoordinates _, ?_⟩
  refine Option.bind_eq_some_iff.mpr ⟨_, Fields.withDefault_eq_some rfl hcolor _, ?_⟩
  refine Option.bind_eq_some_iff.mpr
    ⟨_, Fields.withDefault_eq_some rfl (Json.string?_string a.button) _, ?_⟩
  refine Option.bind_eq_some_iff.mpr ⟨_, Fields.withDefault_eq_some rfl hkey _, ?_⟩
  exact Option.bind_eq_some_iff.mpr
    ⟨_, Fields.withDefault_eq_some rfl (Json.record?_object hperm) _, rfl⟩

/-- A row that does not say so is no subroutine. -/
theorem Row.ofJson?_of_isWrittenAs (form : ActionKind.UnitForm) (row : Row) (json : Json)
    (h : row.IsWrittenAs json) : ofJson? form json = some row := by
  obtain ⟨items, hitems, rfl⟩ := h
  have hactions : Json.list? (Action.ofJson? form) (.array items) = some row.actions :=
    Json.list?_of_forall₂ (Action.ofJson?_of_isWrittenAs form) hitems
  obtain ⟨id, name, enabled, subroutine, actions⟩ := row
  rw [ofJson?, jsonWith]
  cases subroutine with
  | false =>
    refine Option.bind_eq_some_iff.mpr ⟨_, Fields.ofJson?_object (by simp), ?_⟩
    refine Option.bind_eq_some_iff.mpr
      ⟨_, Fields.withDefault_eq_some rfl (Json.string?_string id) _, ?_⟩
    refine Option.bind_eq_some_iff.mpr
      ⟨_, Fields.withDefault_eq_some rfl (Json.string?_string name) _, ?_⟩
    refine Option.bind_eq_some_iff.mpr
      ⟨_, Fields.withDefault_eq_some rfl (Json.bool?_bool enabled) _, ?_⟩
    refine Option.bind_eq_some_iff.mpr ⟨_, Fields.withDefault_of_missing rfl _ _, ?_⟩
    exact Option.bind_eq_some_iff.mpr ⟨_, Fields.withDefault_eq_some rfl hactions _, rfl⟩
  | true =>
    refine Option.bind_eq_some_iff.mpr ⟨_, Fields.ofJson?_object (by simp), ?_⟩
    refine Option.bind_eq_some_iff.mpr
      ⟨_, Fields.withDefault_eq_some rfl (Json.string?_string id) _, ?_⟩
    refine Option.bind_eq_some_iff.mpr
      ⟨_, Fields.withDefault_eq_some rfl (Json.string?_string name) _, ?_⟩
    refine Option.bind_eq_some_iff.mpr
      ⟨_, Fields.withDefault_eq_some rfl (Json.bool?_bool enabled) _, ?_⟩
    refine Option.bind_eq_some_iff.mpr
      ⟨_, Fields.withDefault_eq_some rfl (Json.bool?_bool true) _, ?_⟩
    exact Option.bind_eq_some_iff.mpr ⟨_, Fields.withDefault_eq_some rfl hactions _, rfl⟩

/-! ## Documents -/

/-- A format in which trees of whole numbers and times in years of four digits are read as they are
written. -/
structure DocumentFormat.ReadsBack (format : DocumentFormat) : Prop where
  tree : ∀ json : Json, json.isWhole = true → json.depth ≤ Json.nestingLimit →
    format.tree? (format.text json).toList = some json
  time : ∀ t : UtcTime, 0 ≤ t.year ∧ t.year ≤ 9999 → format.time? (format.timeText t) = some t

theorem DocumentFormat.readsBack_standard : standard.ReadsBack where
  tree _ := Json.parse?_document
  time _ := UtcTime.ofText?_text

namespace Board

variable {format : DocumentFormat} {board : Board}

/-- A board that a document keeps: its numbers are whole, the document does not nest too deep, and
its times lie in years of four digits. -/
structure IsStorable (format : DocumentFormat) (board : Board) : Prop where
  whole : ∀ row ∈ board.rows, ∀ a ∈ row.actions, ∀ entry ∈ a.metadata.toList,
    entry.2.json.isWhole = true
  depth_le : (board.documentJson format).depth ≤ Json.nestingLimit
  created : 0 ≤ board.createdAt.year ∧ board.createdAt.year ≤ 9999
  modified : 0 ≤ board.modifiedAt.year ∧ board.modifiedAt.year ≤ 9999

/-- A document is read as its board; the two extra fields are texts. -/
theorem ofDocumentJson?_documentWith (hformat : format.ReadsBack) (h : board.IsStorable format)
    (now : UtcTime) {rows : List Json} (hrows : List.Forall₂ Row.IsWrittenAs board.rows rows) :
    ofDocumentJson? format.time? now (board.documentWith format rows) = some board := by
  have hlist : Json.list? (Row.ofJson? .nullOrEmpty) (.array rows) = some board.rows :=
    Json.list?_of_forall₂ (Row.ofJson?_of_isWrittenAs .nullOrEmpty) hrows
  have htime : ∀ t : UtcTime, 0 ≤ t.year ∧ t.year ≤ 9999 →
      timeOfJson? format.time? (.string (format.timeText t)) = some t := fun t ht => by
    rw [timeOfJson?, Json.string?_string, Option.bind_some, hformat.time t ht]
  have htag : ∀ s, tagOfJson? (.string s) = some () := fun _ => rfl
  rw [documentWith, ofDocumentJson?, ofJson?, membersWith]
  refine Option.bind_eq_some_iff.mpr ⟨_, Fields.ofJson?_object (by simp), ?_⟩
  refine Option.bind_eq_some_iff.mpr ⟨_, Fields.withDefault_eq_some rfl (htag formatVersion) _, ?_⟩
  refine Option.bind_eq_some_iff.mpr
    ⟨_, Fields.withDefault_eq_some rfl (htag applicationName) _, ?_⟩
  refine Option.bind_eq_some_iff.mpr ⟨_, Fields.ofJson?_object (by simp), ?_⟩
  refine Option.bind_eq_some_iff.mpr
    ⟨_, Fields.withDefault_eq_some rfl (Json.string?_string board.id) _, ?_⟩
  refine Option.bind_eq_some_iff.mpr
    ⟨_, Fields.withDefault_eq_some rfl (Json.string?_string board.name) _, ?_⟩
  refine Option.bind_eq_some_iff.mpr ⟨_, Fields.withDefault_eq_some rfl hlist _, ?_⟩
  refine Option.bind_eq_some_iff.mpr ⟨_, Fields.withDefault_eq_some rfl (htime _ h.created) _, ?_⟩
  exact Option.bind_eq_some_iff.mpr ⟨_, Fields.withDefault_eq_some rfl (htime _ h.modified) _, rfl⟩

/-! ### What the order leaves alone -/

end Board

theorem Action.isWhole_of_isWrittenAs {a : Action} {json : Json} (h : a.IsWrittenAs json)
    (hwhole : ∀ entry ∈ a.metadata.toList, entry.2.json.isWhole = true) : json.isWhole = true := by
  obtain ⟨metadata, hperm, rfl⟩ := h
  have hmetadata :
      Json.membersWhole (metadata.map fun entry => (entry.1, entry.2.json)) = true := by
    refine Json.membersWhole_iff.mpr fun member hmember => ?_
    obtain ⟨entry, hentry, rfl⟩ := List.mem_map.mp hmember
    exact hwhole entry (hperm.mem_iff.mp hentry)
  have hcoordinates : (a.coordinates.elim .null Coordinates.toJson).isWhole = true := by
    cases a.coordinates <;> rfl
  have hcolor : (a.color.elim .null Color.toJson).isWhole = true := by
    cases a.color <;> rfl
  have hkey : (Json.stringOrNull a.key).isWhole = true := by
    cases a.key <;> rfl
  simp [jsonWith, Json.isWhole, Json.membersWhole, ActionKind.toJson, Json.int, Json.nat,
    hcoordinates, hcolor, hkey, hmetadata]

theorem Json.allWhole_of_forall₂ {α : Type} {R : α → Json → Prop} {as : List α} {items : List Json}
    (h : List.Forall₂ R as items) (hwhole : ∀ a ∈ as, ∀ json, R a json → json.isWhole = true) :
    allWhole items = true := by
  induction h with
  | nil => rfl
  | cons hfirst _ ih =>
    obtain ⟨hhead, htail⟩ := List.forall_mem_cons.mp hwhole
    rw [allWhole, hhead _ hfirst, ih htail, Bool.and_self]

theorem Row.isWhole_of_isWrittenAs {row : Row} {json : Json} (h : row.IsWrittenAs json)
    (hwhole : ∀ a ∈ row.actions, ∀ entry ∈ a.metadata.toList, entry.2.json.isWhole = true) :
    json.isWhole = true := by
  obtain ⟨items, hitems, rfl⟩ := h
  have hactions : Json.allWhole items = true :=
    Json.allWhole_of_forall₂ hitems fun a ha _ hjson => Action.isWhole_of_isWrittenAs
      hjson (hwhole a ha)
  cases hsubroutine : row.subroutine <;>
    simp [jsonWith, Json.isWhole, Json.membersWhole, hsubroutine, hactions]

theorem Json.depthMembers_perm {members members' : List (String × Json)}
    (h : members.Perm members') : depthMembers members = depthMembers members' := by
  have hle : ∀ {xs ys : List (String × Json)}, xs.Perm ys → depthMembers xs ≤ depthMembers ys :=
    fun h => depthMembers_le_iff.mpr fun member hmember =>
      depthMembers_le_iff.mp (Nat.le_refl _) member (h.mem_iff.mp hmember)
  exact Nat.le_antisymm (hle h) (hle h.symm)

theorem Json.depthAll_of_forall₂ {α : Type} {R : α → Json → Prop} {write : α → Json}
    (hdepth : ∀ a json, R a json → json.depth = (write a).depth) {as : List α} {items : List Json}
    (h : List.Forall₂ R as items) : depthAll items = depthAll (as.map write) := by
  induction h with
  | nil => rfl
  | cons hfirst _ ih => rw [List.map_cons, depthAll, depthAll, hdepth _ _ hfirst, ih]

theorem Action.depth_of_isWrittenAs (a : Action) (json : Json) (h : a.IsWrittenAs json) :
    json.depth = a.toJson.depth := by
  obtain ⟨metadata, hperm, rfl⟩ := h
  simp only [toJson, jsonWith, Json.depth, Json.depthMembers, Json.depthMembers_perm (hperm.map _)]

theorem Row.depth_of_isWrittenAs (row : Row) (json : Json) (h : row.IsWrittenAs json) :
    json.depth = row.toJson.depth := by
  obtain ⟨items, hitems, rfl⟩ := h
  have hactions := Json.depthAll_of_forall₂ Action.depth_of_isWrittenAs hitems
  cases hsubroutine : row.subroutine <;>
    simp [toJson, jsonWith, Json.depth, Json.depthMembers, hsubroutine, hactions]

namespace Board

variable {format : DocumentFormat} {board : Board} {json : Json}

theorem IsSavedAs.isWhole (h : board.IsSavedAs format json) (hstorable : board.IsStorable format) :
    json.isWhole = true := by
  obtain ⟨rows, hrows, rfl⟩ := h
  have hall : Json.allWhole rows = true := Json.allWhole_of_forall₂ hrows
    fun row hrow _ hjson => Row.isWhole_of_isWrittenAs hjson (hstorable.whole row hrow)
  simp [documentWith, membersWith, Json.isWhole, Json.membersWhole, hall]

theorem IsSavedAs.depth_eq (h : board.IsSavedAs format json) :
    json.depth = (board.documentJson format).depth := by
  obtain ⟨rows, hrows, rfl⟩ := h
  have hall := Json.depthAll_of_forall₂ Row.depth_of_isWrittenAs hrows
  simp only [documentJson, documentWith, membersWith, Json.depth, Json.depthMembers,
    List.cons_append, List.nil_append, hall]

/-- **A board is read back from its document**, whatever the order in which its metadata is
written. -/
theorem ofDocument_document (hformat : format.ReadsBack) (h : board.IsStorable format)
    (now : UtcTime) :
    ofDocument format now (board.document format) = .ok board ∧
      ∀ json, board.IsSavedAs format json → ofDocument format now (format.text json) =
        .ok board := by
  have hsaved : ∀ json, board.IsSavedAs format json →
      ofDocument format now (format.text json) = .ok board := by
    intro json hjson
    have hdepth : json.depth ≤ Json.nestingLimit := hjson.depth_eq ▸ h.depth_le
    have htree := hformat.tree json (hjson.isWhole h) hdepth
    obtain ⟨rows, hrows, rfl⟩ := hjson
    rw [ofDocument, htree, Option.bind_some, ofDocumentJson?_documentWith hformat h now hrows]
  exact ⟨hsaved _ (isSavedAs_documentJson format board), hsaved⟩

/-- A board with a subroutine in which a message is logged; the metadata has two entries, and one of
them nests. -/
def nested : Board :=
  let deep : Value :=
    ⟨.array [.null, .object [("count", .int (.ofWord 3)), ("text", .string "a\t\"b\"")]], by decide⟩
  let log := ((Action.new "a" .log "Log").withMeta "deep" deep).withMeta "message" (.string "m")
  let row := (Row.new "row" "Row").asSubroutine.addAction log
  (Board.new "board" "Board" .epoch).addRow row .epoch

/-- The document of that board with the metadata from the last entry to the first. -/
def nestedReversed : Json :=
  nested.documentWith .standard
    (nested.rows.map fun row =>
      row.jsonWith (row.actions.map fun a => a.jsonWith a.metadata.toList.reverse))

theorem isSavedAs_nestedReversed : nested.IsSavedAs .standard nestedReversed :=
  ⟨_, forall₂_map
    (fun row => ⟨_, forall₂_map (fun _ => ⟨_, List.reverse_perm _, rfl⟩) row.actions, rfl⟩)
    nested.rows, rfl⟩

theorem isStorable_nested : nested.IsStorable .standard where
  whole := by decide
  depth_le := by decide
  created := by decide
  modified := by decide

theorem ofDocument_document_of_nested :
    (DocumentFormat.standard.ReadsBack ∧ nested.IsStorable .standard ∧
      nested.IsSavedAs .standard nestedReversed) ∧
    nestedReversed.same (nested.documentJson .standard) = false ∧
    ofDocument .standard .epoch (nested.document .standard) = .ok nested ∧
    ofDocument .standard .epoch nestedReversed.document = .ok nested := by
  obtain ⟨hsaved, hreversed⟩ :=
    ofDocument_document DocumentFormat.readsBack_standard isStorable_nested .epoch
  have hne : nestedReversed.same (nested.documentJson .standard) = false := by decide
  exact ⟨⟨DocumentFormat.readsBack_standard, isStorable_nested, isSavedAs_nestedReversed⟩, hne,
    hsaved,
    hreversed _ isSavedAs_nestedReversed⟩

end Board

end ActionBoard
