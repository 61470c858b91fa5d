import ActionBoard.Proofs.Board.Changes
import ActionBoard.Proofs.Board.Document
import Mathlib.Logic.Relation

/-!
# Tolerant reading of documents

A document that is accepted stays accepted, and keeps its board, under any number of the changes of
the module before (`Board.ofDocument_of_changes`).

Every reader of typed data is `Indifferent` to a change at the place it reads.  This is shown from
the leaves upwards, for no reader looks further down than the readers it calls:

* scalars are no objects and no arrays, and so are never changed (`indifferent_of_refuses`),
* a value is read up to the order of its members (`Changed.canonicalize_eq`), and a kind has
  one member at most,
* a field is read alike before and after, whether it has to be there or may be missing
  (`Alike.required`, `Alike.withDefault`).  The second one compares the default that the reader
  takes with the written default of the table, and evaluation decides this for each field,
* points, colors, actions, rows and documents are then read field by field.

The extra members are read as texts, which may say anything, and a text is what is left
out (`Alike.tag`).

From one change to any number, only a well-written tree has to be carried along.  One thing remains.
A time that is missing is the present, so only a document with both its times says the same whenever
it is read (`ofDocumentJson?_of_isDated`).  Nothing is asked of the format here: whatever texts it
takes for trees, a text whose tree is changed stays accepted.
-/

namespace ActionBoard

theorem Json.canonicalizeAll_eq_map (items : List Json) :
    canonicalizeAll items = items.map canonicalize := by
  induction items with
  | nil => rfl
  | cons item items ih => rw [canonicalizeAll, ih, List.map_cons]

theorem Json.canonicalizeMembers_eq_map (members : List (String × Json)) :
    canonicalizeMembers members = members.map fun member => (member.1, member.2.canonicalize) := by
  induction members with
  | nil => rfl
  | cons member members ih => rw [canonicalizeMembers, ih, List.map_cons]

namespace BoardDocument

variable {shape : Shape} {name : String} {json json' : Json}
  {members members' : List (String × Json)}

/-! ## Readers that do not notice -/

/-- A reader to which a change makes no difference. -/
def Indifferent {α : Type} (shape : Shape) (read : Json → Option α) : Prop :=
  ∀ json json' : Json, Changed shape json json' → WellWritten shape json → read json = read json'

variable {α : Type} {read : Json → Option α}

/-- Only arrays and objects can be changed. -/
theorem indifferent_of_refuses (harray : ∀ items, read (.array items) = none)
    (hobject : ∀ members, read (.object members) = none) : Indifferent shape read := by
  intro json json' h _
  cases h with
  | reorder | add | leaveOut | member => rw [hobject, hobject]
  | item => rw [harray, harray]

/-- What can be changed is not null. -/
theorem Indifferent.orNull (hread : Indifferent shape read) :
    Indifferent shape (Json.orNull read) := by
  intro json json' h hjson
  have hsame := hread json json' h hjson
  cases h with
  | reorder | add | leaveOut | member | item => exact congrArg (Option.map some) hsame

theorem Indifferent.list? (hread : Indifferent shape.item read) :
    Indifferent shape (Json.list? read) := by
  intro json json' h hjson
  cases h with
  | reorder | add | leaveOut | member => rfl
  | @item _ json json' h before after =>
    have hsame := hread json json' h (hjson.of_mem_items List.mem_append_cons_self)
    rw [Json.list?, Json.list?, List.mapM_append, List.mapM_append, List.mapM_cons,
      List.mapM_cons, hsame]

theorem indifferent_string? : Indifferent shape Json.string? :=
    indifferent_of_refuses (fun _ => rfl) fun _ => rfl

theorem indifferent_bool? : Indifferent shape Json.bool? :=
    indifferent_of_refuses (fun _ => rfl) fun _ => rfl

theorem indifferent_word8? : Indifferent shape Json.word8? :=
    indifferent_of_refuses (fun _ => rfl) fun _ => rfl

theorem indifferent_word32? : Indifferent shape Json.word32? :=
    indifferent_of_refuses (fun _ => rfl) fun _ => rfl

theorem indifferent_word64? : Indifferent shape Json.word64? :=
    indifferent_of_refuses (fun _ => rfl) fun _ => rfl

theorem indifferent_int32? : Indifferent shape Json.int32? :=
    indifferent_of_refuses (fun _ => rfl) fun _ => rfl

theorem indifferent_timeOfJson? (time? : String → Option UtcTime) :
    Indifferent shape (Board.timeOfJson? time?) :=
  indifferent_of_refuses (fun _ => rfl) fun _ => rfl

theorem indifferent_tagOfJson? : Indifferent shape Board.tagOfJson? :=
  indifferent_of_refuses (fun _ => rfl) fun _ => rfl

/-! ### Values -/

/-- In a value nothing can be left out. -/
theorem not_omittable_value : ¬Omittable .value name json := by
  intro h
  cases h with
  | default h => cases h

/-- In a value, the order of the members makes no difference to the dictionary of what
they are read as. -/
theorem ofList_map_perm {β : Type} (f : Json → β) (h : members.Perm members')
    (hjson : WellWritten .value (.object members)) :
    Dictionary.ofList (members.map fun member => (member.1, f member.2)) =
      Dictionary.ofList (members'.map fun member => (member.1, f member.2)) := by
  refine Dictionary.ofList_perm (h.map _) fun name => ?_
  have honce : Fields.occurrences name members ≤ 1 := hjson.once rfl
  rw [List.filter_map, List.length_map]
  exact honce

/-- A value is changed in the order of its members only. -/
theorem Changed.canonicalize_eq (h : Changed shape json json') (hshape : shape = .value)
    (hjson : WellWritten shape json) : json.canonicalize = json'.canonicalize := by
  induction h with
  | @reorder shape members members' h =>
    subst hshape
    rw [Json.canonicalize, Json.canonicalize, Json.canonicalizeMembers_eq_map,
      Json.canonicalizeMembers_eq_map, ofList_map_perm Json.canonicalize h hjson]
  | add h =>
    subst hshape
    cases h
  | leaveOut h =>
    subst hshape
    exact absurd h not_omittable_value
  | @member shape name json json' h before after ih =>
    subst hshape
    have hsame := ih rfl (hjson.of_mem List.mem_append_cons_self)
    rw [Json.canonicalize, Json.canonicalize, Json.canonicalizeMembers_eq_map,
      Json.canonicalizeMembers_eq_map,
      List.map_append, List.map_append, List.map_cons, List.map_cons, hsame]
  | @item shape json json' h before after ih =>
    subst hshape
    have hsame := ih rfl (hjson.of_mem_items List.mem_append_cons_self)
    rw [Json.canonicalize, Json.canonicalize, Json.canonicalizeAll_eq_map,
      Json.canonicalizeAll_eq_map,
      List.map_append, List.map_append, List.map_cons, List.map_cons, hsame]

/-- Metadata is read as a dictionary of values, each of them in canonical form. -/
theorem indifferent_record? : Indifferent .value Json.record? := by
  intro json json' h hjson
  have hread : ∀ members, Json.record? (.object members) =
      some (Dictionary.ofList (members.map fun member => (member.1, Value.ofJson member.2))) :=
    fun members => congrArg (Option.map Dictionary.ofList) List.mapM_pure
  cases h with
  | @reorder _ members members' h =>
    rw [hread, hread, ofList_map_perm Value.ofJson h hjson]
  | add h => cases h
  | leaveOut h => exact absurd h not_omittable_value
  | @member _ name json json' h before after =>
    have hsame : Value.ofJson json = Value.ofJson json' := by
      have hcanonical := h.canonicalize_eq rfl (hjson.of_mem List.mem_append_cons_self)
      simp only [Value.ofJson, hcanonical]
    rw [hread, hread, List.map_append, List.map_append, List.map_cons, List.map_cons, hsame]
  | item => rfl

/-- What lets a value pass for null is not changed. -/
theorem Changed.admits_eq (h : Changed .value json json') (form : ActionKind.UnitForm) :
    form.admits json = form.admits json' := by
  cases h with
  | @reorder _ members members' h =>
    cases members with
    | nil => rw [List.nil_perm.mp h]
    | cons member members =>
      cases members' with
      | nil => exact absurd h.symm.nil_eq (by simp)
      | cons => cases form <;> rfl
  | add h => cases h
  | leaveOut h => exact absurd h not_omittable_value
  | member h before after => cases form <;> cases before <;> rfl
  | item => cases form <;> rfl

/-- A kind that is written as an object has a single member, so there is nothing to put in order. -/
theorem indifferent_kind (form : ActionKind.UnitForm) :
    Indifferent .value (ActionKind.ofJson? form) := by
  intro json json' h hjson
  cases h with
  | @reorder _ members members' h =>
    match members, h, h.length_eq with
    | [], h, _ => rw [List.nil_perm.mp h]
    | [member], h, _ => rw [List.singleton_perm.mp h]
    | _ :: _ :: _, h, hlength =>
      match members', hlength with
      | _ :: _ :: _, _ => rfl
  | add h => cases h
  | leaveOut h => exact absurd h not_omittable_value
  | member h before after =>
    match before, after with
    | [], [] => simp only [List.nil_append, ActionKind.ofJson?, Changed.admits_eq h]
    | [], _ :: _ => rfl
    | [_], _ => rfl
    | _ :: _ :: _, _ => rfl
  | item => rfl

/-! ### Fields -/

/-- Outside of the extra fields, only a field written as its default may be left out. -/
theorem Omittable.default?_eq (h : Omittable shape name json) (htag : isTag name = false) :
    (shape.field? name).bind Field.default? = some json := by
  cases h with
  | default h => exact h
  | tag h => exact Bool.noConfusion (htag.symm.trans h)

theorem bind_fields {read : Fields → Option α} {fields fields' : Option Fields}
    (h : fields = some (Fields.ofMembers members)) (h' : fields' = some (Fields.ofMembers members'))
    (hsame : read (Fields.ofMembers members) = read (Fields.ofMembers members')) :
    (fields >>= read) = (fields' >>= read) := by
  rw [h, h']
  exact hsame

/-- One field after the other is read alike. -/
theorem bind_congr_left {β : Type} {x y : Option α} {f g : α → Option β} (hxy : x = y)
    (hfg : ∀ a, f a = g a) : (x >>= f) = (y >>= g) := by
  rw [hxy, funext hfg]

/-- A field that has to be there is never left out. -/
theorem Alike.required (h : Alike shape name (lookupEntry name members) (lookupEntry name members'))
    (htag : isTag name = false) (hdefault : (shape.field? name).bind Field.default? = none)
    (hread : Indifferent (shape.member name) read) :
    (Fields.ofMembers members).required name read =
      (Fields.ofMembers members').required name read := by
  rw [Fields.required_ofMembers, Fields.required_ofMembers]
  generalize lookupEntry name members = field at h
  generalize lookupEntry name members' = field' at h
  cases h with
  | same => rfl
  | leftOut h => cases hdefault.symm.trans (h.default?_eq htag)
  | changed h hjson => exact hread _ _ h hjson

/-- A field that may be missing is left out only where it is written as what a missing
field is read as. -/
theorem Alike.withDefault
    (h : Alike shape name (lookupEntry name members) (lookupEntry name members'))
    (htag : isTag name = false) (hread : Indifferent (shape.member name) read) (missing : α)
    (hdefault : ((shape.field? name).bind Field.default?).elim (some missing) read = some missing) :
    (Fields.ofMembers members).withDefault name read missing =
      (Fields.ofMembers members').withDefault name read missing := by
  rw [Fields.withDefault_ofMembers, Fields.withDefault_ofMembers]
  generalize lookupEntry name members = field at h
  generalize lookupEntry name members' = field' at h
  cases h with
  | same => rfl
  | leftOut h => rwa [h.default?_eq htag] at hdefault
  | changed h hjson => exact hread _ _ h hjson

/-- An extra field may be left out whatever its text. -/
theorem Alike.tag
    (h : Alike .document name (lookupEntry name members) (lookupEntry name members'))
    (hdefault : (Shape.document.field? name).bind Field.default? = none) :
    (Fields.ofMembers members).withDefault name Board.tagOfJson? () =
      (Fields.ofMembers members').withDefault name Board.tagOfJson? () := by
  rw [Fields.withDefault_ofMembers, Fields.withDefault_ofMembers]
  generalize lookupEntry name members = field at h
  generalize lookupEntry name members' = field' at h
  cases h with
  | same => rfl
  | leftOut h =>
    cases h with
    | default h => cases hdefault.symm.trans h
    | tag => rfl
  | changed h hjson => exact indifferent_tagOfJson? _ _ h hjson

/-! ## The readers of a document -/

theorem indifferent_coordinates : Indifferent .coordinates Coordinates.ofJson? := by
  intro json json' h hjson
  obtain ⟨members, members', hfields, hfields', halike⟩ :=
    h.fields hjson (by decide) ["x", "y"] (by decide)
  have hx := (halike "x" rfl).required rfl rfl indifferent_int32?
  have hy := (halike "y" rfl).required rfl rfl indifferent_int32?
  rw [Coordinates.ofJson?, Coordinates.ofJson?]
  refine bind_fields hfields hfields' ?_
  exact bind_congr_left hx fun _ => bind_congr_left hy fun _ => rfl

theorem indifferent_color : Indifferent .color Color.ofJson? := by
  intro json json' h hjson
  obtain ⟨members, members', hfields, hfields', halike⟩ :=
    h.fields hjson (by decide) ["r", "g", "b", "tolerance"] (by decide)
  have hred := (halike "r" rfl).required rfl rfl indifferent_word8?
  have hgreen := (halike "g" rfl).required rfl rfl indifferent_word8?
  have hblue := (halike "b" rfl).required rfl rfl indifferent_word8?
  have htolerance :=
    (halike "tolerance" rfl).withDefault rfl indifferent_word8? Color.defaultTolerance rfl
  rw [Color.ofJson?, Color.ofJson?]
  refine bind_fields hfields hfields' ?_
  exact bind_congr_left hred fun _ => bind_congr_left hgreen fun _ => bind_congr_left hblue fun _ =>
    bind_congr_left htolerance fun _ => rfl

theorem indifferent_action (form : ActionKind.UnitForm) :
    Indifferent .action (Action.ofJson? form) := by
  intro json json' h hjson
  obtain ⟨members, members', hfields, hfields', halike⟩ :=
    h.fields hjson (by decide) Action.fieldNames (by decide)
  have hid := (halike "id" rfl).withDefault rfl indifferent_string? "" rfl
  have hkind := (halike "action_type" rfl).required rfl rfl (indifferent_kind form)
  have hname := (halike "name" rfl).withDefault rfl indifferent_string? "" rfl
  have henabled := (halike "enabled" rfl).withDefault rfl indifferent_bool? true rfl
  have hbefore := (halike "delay_before_ms" rfl).withDefault rfl indifferent_word64? 0 rfl
  have hafter := (halike "delay_after_ms" rfl).withDefault rfl indifferent_word64? 0 rfl
  have hrepeat := (halike "repeat_count" rfl).withDefault rfl indifferent_word32? 1 rfl
  have hcoordinates :=
    (halike "coordinates" rfl).withDefault rfl indifferent_coordinates.orNull none rfl
  have hcolor := (halike "color" rfl).withDefault rfl indifferent_color.orNull none rfl
  have hbutton :=
    (halike "mouse_button" rfl).withDefault rfl indifferent_string? Action.defaultButton rfl
  have hkey := (halike "key" rfl).withDefault rfl indifferent_string?.orNull none rfl
  have hmetadata := (halike "metadata" rfl).withDefault rfl indifferent_record? ∅ rfl
  rw [Action.ofJson?, Action.ofJson?]
  refine bind_fields hfields hfields' ?_
  exact bind_congr_left hid fun _ => bind_congr_left hkind fun _ => bind_congr_left hname fun _ =>
    bind_congr_left henabled fun _ => bind_congr_left hbefore fun _ => bind_congr_left
      hafter fun _ =>
    bind_congr_left hrepeat fun _ => bind_congr_left hcoordinates fun _ => bind_congr_left
      hcolor fun _ =>
    bind_congr_left hbutton fun _ => bind_congr_left hkey fun _ => bind_congr_left
      hmetadata fun _ => rfl

theorem indifferent_actions (form : ActionKind.UnitForm) :
    Indifferent .actions (Json.list? (Action.ofJson? form)) :=
  Indifferent.list? (indifferent_action form)

theorem indifferent_row (form : ActionKind.UnitForm) : Indifferent .row (Row.ofJson? form) := by
  intro json json' h hjson
  obtain ⟨members, members', hfields, hfields', halike⟩ :=
    h.fields hjson (by decide) Row.fieldNames (by decide)
  have hid := (halike "id" rfl).withDefault rfl indifferent_string? "" rfl
  have hname := (halike "name" rfl).withDefault rfl indifferent_string? "" rfl
  have henabled := (halike "enabled" rfl).withDefault rfl indifferent_bool? true rfl
  have hsubroutine := (halike "subroutine" rfl).withDefault rfl indifferent_bool? false rfl
  have hactions := (halike "actions" rfl).withDefault rfl (indifferent_actions form) [] rfl
  rw [Row.ofJson?, Row.ofJson?]
  refine bind_fields hfields hfields' ?_
  exact bind_congr_left hid fun _ => bind_congr_left hname fun _ => bind_congr_left
    henabled fun _ =>
    bind_congr_left hsubroutine fun _ => bind_congr_left hactions fun _ => rfl

theorem indifferent_rows (form : ActionKind.UnitForm) :
    Indifferent .rows (Json.list? (Row.ofJson? form)) :=
  Indifferent.list? (indifferent_row form)

theorem indifferent_board (time? : String → Option UtcTime) (form : ActionKind.UnitForm)
    (now : UtcTime) : Indifferent .document (Board.ofJson? time? form now) := by
  intro json json' h hjson
  obtain ⟨members, members', hfields, hfields', halike⟩ :=
    h.fields hjson (by decide) Board.fieldNames (by decide)
  have htime := @indifferent_timeOfJson? .value time?
  have hid := (halike "id" rfl).withDefault rfl indifferent_string? Board.defaultId rfl
  have hname := (halike "name" rfl).withDefault rfl indifferent_string? Board.defaultName rfl
  have hrows := (halike "rows" rfl).withDefault rfl (indifferent_rows form) [] rfl
  have hcreated := (halike "created_at" rfl).withDefault rfl htime now rfl
  have hmodified := (halike "modified_at" rfl).withDefault rfl htime now rfl
  rw [Board.ofJson?, Board.ofJson?]
  refine bind_fields hfields hfields' ?_
  exact bind_congr_left hid fun _ => bind_congr_left hname fun _ => bind_congr_left hrows fun _ =>
    bind_congr_left hcreated fun _ => bind_congr_left hmodified fun _ => rfl

theorem indifferent_document (time? : String → Option UtcTime) (now : UtcTime) :
    Indifferent .document (Board.ofDocumentJson? time? now) := by
  intro json json' h hjson
  have hboard := indifferent_board time? .nullOrEmpty now json json' h hjson
  have hjson' := h.wellWritten hjson
  obtain ⟨members, members', rfl, rfl, halike⟩ := h.alike hjson (by decide)
  have hversion := (halike "version" rfl).tag rfl
  have happ := (halike "app" rfl).tag rfl
  rw [Board.ofDocumentJson?, Board.ofDocumentJson?, ← hboard]
  refine bind_fields (hjson.fields ["version", "app"] (by decide))
    (hjson'.fields ["version", "app"] (by decide)) ?_
  exact bind_congr_left hversion fun _ => bind_congr_left happ fun _ => rfl

/-! ## Any number of changes -/

theorem wellWritten_of_changes (h : Relation.ReflTransGen (Changed shape) json json')
    (hjson : WellWritten shape json) : WellWritten shape json' := by
  induction h with
  | refl => exact hjson
  | tail _ hstep ih => exact hstep.wellWritten ih

theorem Indifferent.of_changes (hread : Indifferent shape read)
    (h : Relation.ReflTransGen (Changed shape) json json')
    (hjson : WellWritten shape json) : read json = read json' := by
  induction h with
  | refl => rfl
  | tail hchanges hstep ih =>
    exact ih.trans (hread _ _ hstep (wellWritten_of_changes hchanges hjson))

/-- A document with both its times. -/
def IsDated (json : Json) : Prop :=
  (json.member? "created_at").isSome = true ∧ (json.member? "modified_at").isSome = true

/-- The board of a document with both its times does not depend on when it is read. -/
theorem ofDocumentJson?_of_isDated (hjson : WellWritten .document json) (hdated : IsDated json)
    (time? : String → Option UtcTime) (now now' : UtcTime) :
    Board.ofDocumentJson? time? now json = Board.ofDocumentJson? time? now' json := by
  cases json with
  | object members =>
    have hpresent : ∀ name, (lookupEntry name members).isSome = true →
        (Fields.ofMembers members).withDefault name (Board.timeOfJson? time?) now =
          (Fields.ofMembers members).withDefault name (Board.timeOfJson? time?) now' := by
      intro name hname
      obtain ⟨json, hfield⟩ := Option.isSome_iff_exists.mp hname
      rw [Fields.withDefault_ofMembers, Fields.withDefault_ofMembers, hfield]
      rfl
    have hfields := hjson.fields Board.fieldNames (by decide)
    rw [Board.ofDocumentJson?, Board.ofDocumentJson?, Board.ofJson?, Board.ofJson?, hfields]
    simp only [bind, Option.bind_some, hpresent _ hdated.1, hpresent _ hdated.2]
  | null | bool | number | string | array => cases hdated.1

end BoardDocument

namespace Board

open BoardDocument

/-- A text is accepted if it is read as a tree that is a document. -/
theorem ofDocument_eq_ok_iff {format : DocumentFormat} {now : UtcTime} {text : String}
    {board : Board} :
    ofDocument format now text = .ok board ↔
      ∃ json, format.tree? text.toList = some json ∧
        ofDocumentJson? format.time? now json = some board := by
  rw [← Option.bind_eq_some_iff, ofDocument]
  cases (format.tree? text.toList).bind (ofDocumentJson? format.time? now) <;> simp

/-- **Reading is tolerant.**  An accepted text is the tree of a document.  If the tree is well
written and has both times, then every text whose tree is reached from it by unnoticed changes is
accepted with the same board, whenever it is read. -/
theorem ofDocument_of_changes {format : DocumentFormat} {now : UtcTime} {text : String}
    {board : Board} (haccepted : ofDocument format now text = .ok board) :
    ∃ json, format.tree? text.toList = some json ∧
      (WellWritten .document json → IsDated json →
        ∀ now' text' json', format.tree? text'.toList = some json' →
          Relation.ReflTransGen (Changed .document) json json' →
            ofDocument format now' text' = .ok board) := by
  obtain ⟨json, hread, hboard⟩ := ofDocument_eq_ok_iff.mp haccepted
  refine ⟨json, hread, fun hjson hdated now' text' json' hread' hchanges => ?_⟩
  refine ofDocument_eq_ok_iff.mpr ⟨json', hread', ?_⟩
  calc ofDocumentJson? format.time? now' json'
      = ofDocumentJson? format.time? now' json :=
        ((indifferent_document format.time? now').of_changes hchanges hjson).symm
    _ = ofDocumentJson? format.time? now json := ofDocumentJson?_of_isDated hjson hdated _ _ _
    _ = some board := hboard

/-- A board with one row that is empty. -/
def single : Board :=
  (Board.new "board" "Board" .epoch).addRow (.new "row" "Row") .epoch

/-- The members of its document, but for the version, with the row written somehow. -/
def singleMembers (row : Json) : List (String × Json) :=
  ("app", .string applicationName) :: single.membersWith .standard [row]

/-- The row without its switch. -/
def switchlessRow : Json :=
  .object [("id", .string "row"), ("name", .string "Row"), ("actions", .array [])]

/-- The row without its switch, but with a note. -/
def notedRow : Json :=
  .object [("note", .null), ("id", .string "row"), ("name", .string "Row"), ("actions", .array [])]

theorem changed_singleMembers {row row' : Json} (h : Changed .row row row') :
    Changed .document (.object (singleMembers row)) (.object (singleMembers row')) :=
  have hrows : Changed .rows (.array [row]) (.array [row']) := @Changed.item .rows row row' h [] []
  @Changed.member .document "rows" _ _ hrows ((singleMembers row).take 3)
    ((singleMembers row).drop 4)

theorem isStorable_single : single.IsStorable .standard where
  whole := by decide
  depth_le := by decide
  created := by decide
  modified := by decide

theorem wellWritten_single : WellWritten .document (single.documentJson .standard) := by
  have hrow : WellWritten .row (Row.new "row" "Row").toJson := by
    refine .object (fun _ _ => Fields.occurrences_le_one (by decide)) ?_
    simp only [Row.new, Bool.false_eq_true, if_false, List.cons_append, List.nil_append,
      List.forall_mem_cons]
    exact ⟨.string _, .string _, .bool _, .array rfl (List.forall_mem_nil _), List.forall_mem_nil _⟩
  have hrows : WellWritten .rows (.array [(Row.new "row" "Row").toJson]) :=
    .array rfl (List.forall_mem_singleton.mpr hrow)
  refine .object (fun _ _ => Fields.occurrences_le_one (by decide)) ?_
  simp only [membersWith, List.cons_append, List.nil_append, List.forall_mem_cons]
  exact ⟨.string _, .string _, .string _, .string _, hrows, .string _, .string _,
    List.forall_mem_nil _⟩

theorem changes_single : Relation.ReflTransGen (Changed .document) (single.documentJson .standard)
    (.object (singleMembers notedRow).reverse) := by
  have hversion : Changed .document (single.documentJson .standard)
      (.object (singleMembers (Row.new "row" "Row").toJson)) :=
    .leaveOut (.tag rfl formatVersion) [] _
  have henabled : Changed .row (Row.new "row" "Row").toJson switchlessRow :=
    @Changed.leaveOut .row "enabled" (.bool true) (.default rfl)
      [("id", .string "row"), ("name", .string "Row")] [("actions", .array [])]
  have hnote : Changed .row switchlessRow notedRow := .add rfl .null [] _
  have hreversed : Changed .document (.object (singleMembers notedRow))
      (.object (singleMembers notedRow).reverse) :=
    .reorder (List.reverse_perm _).symm
  exact (((Relation.ReflTransGen.single hversion).tail (changed_singleMembers henabled)).tail
    (changed_singleMembers hnote)).tail hreversed

/-- In the document of a board the version and a switch are left out, a note is added, and the order
is reversed. -/
theorem ofDocument_of_changes_of_reversed :
    let json := single.documentJson .standard
    let changed := Json.object (singleMembers notedRow).reverse
    ofDocument .standard .epoch (single.document .standard) = .ok single ∧
      WellWritten .document json ∧ IsDated json ∧
      Relation.ReflTransGen (Changed .document) json changed ∧
      ofDocument .standard .epoch changed.document = .ok single := by
  intro json changed
  have hread : Json.parse? json.document.toList = some json :=
    Json.parse?_document rfl (by decide)
  have hchanged : Json.parse? changed.document.toList = some changed :=
    Json.parse?_document rfl (by decide)
  have haccepted : ofDocument .standard .epoch (single.document .standard) = .ok single :=
    ofDocument_eq_ok_iff.mpr ⟨json, hread, ofDocumentJson?_documentWith
      DocumentFormat.readsBack_standard isStorable_single .epoch
      (forall₂_map Row.isWrittenAs_toJson single.rows)⟩
  have hdated : IsDated json := ⟨rfl, rfl⟩
  obtain ⟨tree, htree, h⟩ := ofDocument_of_changes haccepted
  obtain rfl : json = tree := Option.some.inj (hread.symm.trans htree)
  exact ⟨haccepted, wellWritten_single, hdated, changes_single,
    h wellWritten_single hdated _ _ _ hchanged changes_single⟩

end Board

end ActionBoard
