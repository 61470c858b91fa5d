import ActionBoard.Proofs.Board.Reading
import ActionBoard.Proofs.Json.ReadBack
import ActionBoard.Proofs.Json.Typed

/-!
# Changes that a reader of documents does not notice

The same board can be written as many documents.  This module says which changes lead from one of
them to another, and what such a change looks like to a reader; that readers take no notice is the
matter of the next module.

* `Shape` names the places of a document, and `Shape.fields` is the one table of what is expected
  there: the fields of each place, what each of them holds, and its default as it would be written.
* `Changed` is one change, somewhere in the tree: members are put in another order, a member of an
  unknown name is added, a field that holds its default is left out.  It goes down into members and
  items by the table.
* `WellWritten` asks that whatever has fields is written as an object, and that no name is given
  twice.  Both are asked only of what is looked at.  A member that is added may hold anything, so
  nothing could be asked of it, and this is what makes the demand survive a change
  (`Changed.wellWritten`).
* `Changed.fields`: read by the names of its fields, a place has the same fields before and after a
  change, apart from one that was left out or changed inside (`Alike`).

Metadata has no fields of its own: every name in it is looked at.  It is therefore of the shape
`Shape.value`, where only the order may change.
-/

namespace ActionBoard

/-- A member given once is the one that is found. -/
theorem lookupEntry_eq_none_of_once {name : String} {json : Json}
    {before after : List (String × Json)}
    (honce : Fields.occurrences name (before ++ (name, json) :: after) ≤ 1) :
    lookupEntry name before = none ∧ lookupEntry name after = none := by
  rw [Fields.occurrences_append, Fields.occurrences_cons_self] at honce
  have hbefore : (before.filter fun member => member.1 == name) = [] :=
    List.length_eq_zero_iff.mp (show Fields.occurrences name before = 0 by omega)
  have hafter : (after.filter fun member => member.1 == name) = [] :=
    List.length_eq_zero_iff.mp (show Fields.occurrences name after = 0 by omega)
  rw [lookupEntry_eq_head?, lookupEntry_eq_head?, hbefore, hafter]
  exact ⟨rfl, rfl⟩

namespace BoardDocument

/-! ## The shape of a document -/

/-- What is expected at a place of a document. -/
inductive Shape where
  | document
  | rows
  | row
  | actions
  | action
  | coordinates
  | color
  /-- Something read as one: a number, a text, a kind, the metadata. -/
  | value
  /-- Something that is not looked at. -/
  | unknown
  deriving DecidableEq

/-- A field: what it holds, and how its default is written if it has one. -/
structure Field where
  name : String
  shape : Shape
  default? : Option Json

namespace Shape

/-- The fields of a place where an object with named fields is expected. -/
def fields : Shape → List Field
  | .document =>
    [⟨"version", .value, none⟩, ⟨"app", .value, none⟩, ⟨"id", .value, some (.string "board_1")⟩,
      ⟨"name", .value, some (.string "Loaded board")⟩, ⟨"rows", .rows, some (.array [])⟩,
      ⟨"created_at", .value, none⟩, ⟨"modified_at", .value, none⟩]
  | .row =>
    [⟨"id", .value, some (.string "")⟩, ⟨"name", .value, some (.string "")⟩,
      ⟨"enabled", .value, some (.bool true)⟩,
      ⟨"subroutine", .value, some (.bool false)⟩, ⟨"actions", .actions, some (.array [])⟩]
  | .action =>
    [⟨"id", .value, some (.string "")⟩, ⟨"action_type", .value, none⟩,
      ⟨"name", .value, some (.string "")⟩,
      ⟨"enabled", .value, some (.bool true)⟩, ⟨"delay_before_ms", .value, some (.nat 0)⟩,
      ⟨"delay_after_ms", .value, some (.nat 0)⟩, ⟨"repeat_count", .value, some (.nat 1)⟩,
      ⟨"coordinates", .coordinates, some .null⟩, ⟨"color", .color, some .null⟩,
      ⟨"mouse_button", .value, some (.string "left")⟩, ⟨"key", .value, some .null⟩,
      ⟨"metadata", .value, some (.object [])⟩]
  | .coordinates => [⟨"x", .value, none⟩, ⟨"y", .value, none⟩]
  | .color =>
    [⟨"r", .value, none⟩, ⟨"g", .value, none⟩, ⟨"b", .value, none⟩,
      ⟨"tolerance", .value, some (.nat 10)⟩]
  | .rows | .actions | .value | .unknown => []

def field? (shape : Shape) (name : String) : Option Field :=
  shape.fields.find? fun field => field.name == name

/-- Whether a member of that name is looked at; a value is looked at as a whole. -/
def knows (shape : Shape) (name : String) : Bool :=
  shape == .value || (shape.field? name).isSome

/-- What a member of that name is expected to hold. -/
def member (shape : Shape) (name : String) : Shape :=
  if shape = .value then .value else ((shape.field? name).map Field.shape).getD .unknown

/-- What the items of an array are expected to be. -/
def item : Shape → Shape
  | .rows => .row
  | .actions => .action
  | .value => .value
  | _ => .unknown

theorem member_of_not_knows {shape : Shape} {name : String} (h : shape.knows name = false) :
    shape.member name = .unknown := by
  simp only [knows, Bool.or_eq_false_iff, beq_eq_false_iff_ne, Option.isSome_eq_false_iff,
    Option.isNone_iff_eq_none] at h
  rw [member, if_neg h.1, h.2]
  rfl

/-- An unknown name is none of the known ones. -/
theorem ne_of_knows {shape : Shape} {name other : String} (h : shape.knows name = false)
    (hother : shape.knows other = true) : name ≠ other := by
  rintro rfl
  exact Bool.noConfusion (h.symm.trans hother)

end Shape

/-- A member that may be left out: a field written as its default, or an extra field of the
document. -/
inductive Omittable : Shape → String → Json → Prop
  | default {shape : Shape} {name : String} {json : Json}
      (h : (shape.field? name).bind Field.default? = some json) : Omittable shape name json
  | tag {name : String} (h : isTag name = true) (s : String) : Omittable .document name (.string s)

/-- One change that is not noticed at a place of that shape, or further down.  A value knows all
names, so nothing is added to it. -/
inductive Changed : Shape → Json → Json → Prop
  | reorder {shape : Shape} {members members' : List (String × Json)} (h : members.Perm members') :
      Changed shape (.object members) (.object members')
  | add {shape : Shape} {name : String} (h : shape.knows name = false) (json : Json)
      (before after : List (String × Json)) :
      Changed shape (.object (before ++ after)) (.object (before ++ (name, json) :: after))
  | leaveOut {shape : Shape} {name : String} {json : Json} (h : Omittable shape name json)
      (before after : List (String × Json)) :
      Changed shape (.object (before ++ (name, json) :: after)) (.object (before ++ after))
  | member {shape : Shape} {name : String} {json json' : Json}
      (h : Changed (shape.member name) json json')
      (before after : List (String × Json)) :
      Changed shape (.object (before ++ (name, json) :: after))
        (.object (before ++ (name, json') :: after))
  | item {shape : Shape} {json json' : Json} (h : Changed shape.item json json')
      (before after : List Json) :
      Changed shape (.array (before ++ json :: after)) (.array (before ++ json' :: after))

/-- In the part of a tree that is looked at, what has fields is no array, and no name is given
twice. -/
inductive WellWritten : Shape → Json → Prop
  | null {shape : Shape} : WellWritten shape .null
  | bool {shape : Shape} (b : Bool) : WellWritten shape (.bool b)
  | number {shape : Shape} (n : JsonNumber) : WellWritten shape (.number n)
  | string {shape : Shape} (s : String) : WellWritten shape (.string s)
  | array {shape : Shape} {items : List Json} (hshape : shape.fields = [])
      (hitems : ∀ item ∈ items, WellWritten shape.item item) : WellWritten shape (.array items)
  | object {shape : Shape} {members : List (String × Json)}
      (once : ∀ name, shape.knows name = true → Fields.occurrences name members ≤ 1)
      (hmembers : ∀ member ∈ members, WellWritten (shape.member member.1) member.2) :
      WellWritten shape (.object members)

variable {shape : Shape} {name : String} {json json' : Json}
  {members members' : List (String × Json)}

/-! ## Changes keep a tree well written -/

/-- Nothing is asked of what is not looked at. -/
theorem wellWritten_unknown (json : Json) : WellWritten .unknown json := by
  induction json using Json.induction with
  | null => exact .null
  | bool b => exact .bool b
  | number n => exact .number n
  | string s => exact .string s
  | array items ih => exact .array rfl ih
  | object members ih => exact .object (fun _ hknown => Bool.noConfusion hknown) ih

theorem WellWritten.once (h : WellWritten shape (.object members))
    (hname : shape.knows name = true) : Fields.occurrences name members ≤ 1 := by
  cases h with
  | object once _ => exact once name hname

theorem WellWritten.of_mem (h : WellWritten shape (.object members)) {member : String × Json}
    (hmember : member ∈ members) : WellWritten (shape.member member.1) member.2 := by
  cases h with
  | object _ hmembers => exact hmembers member hmember

theorem WellWritten.of_mem_items {items : List Json}
    (h : WellWritten shape (.array items)) {item : Json}
    (hitem : item ∈ items) : WellWritten shape.item item := by
  cases h with
  | array _ hitems => exact hitems item hitem

/-- **A change leaves a tree well written.** -/
theorem Changed.wellWritten (h : Changed shape json json') (hjson : WellWritten shape json) :
    WellWritten shape json' := by
  induction h with
  | @reorder shape members members' h =>
    refine .object (fun name hname => ?_) fun member hmember => hjson.of_mem (h.mem_iff.mpr hmember)
    rw [← Fields.occurrences_perm h]
    exact hjson.once hname
  | @add shape name h json before after =>
    refine .object (fun other hother => ?_) fun member hmember => ?_
    · rw [Fields.occurrences_append, Fields.occurrences_cons_of_ne (Shape.ne_of_knows h hother),
        ← Fields.occurrences_append]
      exact hjson.once hother
    · rcases List.mem_cons.mp (List.perm_middle.mem_iff.mp hmember) with rfl | hmember
      · rw [Shape.member_of_not_knows h]
        exact wellWritten_unknown json
      · exact hjson.of_mem hmember
  | @leaveOut shape name json h before after =>
    have hsublist := (List.sublist_cons_self (name, json) after).append_left before
    refine .object (fun other hother => ?_) fun member hmember =>
      hjson.of_mem (hsublist.subset hmember)
    have hfilter := hsublist.filter fun member => member.1 == other
    exact Nat.le_trans hfilter.length_le (hjson.once hother)
  | @member shape name json json' h before after ih =>
    refine .object (fun other hother => ?_) fun member hmember => ?_
    · have honce := hjson.once hother
      by_cases hname : name = other
      · subst hname
        rwa [Fields.occurrences_append, Fields.occurrences_cons_self] at honce ⊢
      · rwa [Fields.occurrences_append, Fields.occurrences_cons_of_ne hname] at honce ⊢
    · rcases List.mem_cons.mp (List.perm_middle.mem_iff.mp hmember) with rfl | hmember
      · exact ih (hjson.of_mem List.mem_append_cons_self)
      · exact hjson.of_mem (List.perm_middle.mem_iff.mpr (List.mem_cons_of_mem _ hmember))
  | @item shape json json' h before after ih =>
    cases hjson with
    | array hshape hitems =>
      refine .array hshape fun item hitem => ?_
      rcases List.mem_cons.mp (List.perm_middle.mem_iff.mp hitem) with rfl | hitem
      · exact ih (hitems json List.mem_append_cons_self)
      · exact hitems item (List.perm_middle.mem_iff.mpr (List.mem_cons_of_mem _ hitem))

/-! ## Fields before and after a change -/

/-- What a change makes of a field that is looked at: it stays, or it is left out, or what it
holds is changed. -/
inductive Alike (shape : Shape) (name : String) : Option Json → Option Json → Prop
  | same (field : Option Json) : Alike shape name field field
  | leftOut {json : Json} (h : Omittable shape name json) : Alike shape name (some json) none
  | changed {json json' : Json} (h : Changed (shape.member name) json json')
      (hjson : WellWritten (shape.member name) json) : Alike shape name (some json) (some json')

/-- Only a place with fields is an object for certain; an array has been ruled out there. -/
theorem Changed.alike (h : Changed shape json json') (hjson : WellWritten shape json)
    (hfields : shape.fields ≠ []) :
    ∃ members members', json = .object members ∧ json' = .object members' ∧
      ∀ name, shape.knows name = true →
        Alike shape name (lookupEntry name members) (lookupEntry name members') := by
  cases h with
  | @reorder _ members members' h =>
    refine ⟨members, members', rfl, rfl, fun name hname => ?_⟩
    rw [lookupEntry_perm h (hjson.once hname)]
    exact .same _
  | @add _ name h json before after =>
    refine ⟨_, _, rfl, rfl, fun other hother => ?_⟩
    rw [lookupEntry_append, lookupEntry_append, lookupEntry_cons_of_ne (Shape.ne_of_knows h hother)]
    exact .same _
  | @leaveOut _ name json h before after =>
    refine ⟨_, _, rfl, rfl, fun other hother => ?_⟩
    rw [lookupEntry_append, lookupEntry_append]
    by_cases hother' : name = other
    · subst hother'
      obtain ⟨hbefore, hafter⟩ := lookupEntry_eq_none_of_once (hjson.once hother)
      rw [hbefore, hafter, lookupEntry_cons_self]
      exact .leftOut h
    · rw [lookupEntry_cons_of_ne hother']
      exact .same _
  | @member _ name json json' h before after =>
    refine ⟨_, _, rfl, rfl, fun other hother => ?_⟩
    rw [lookupEntry_append, lookupEntry_append]
    by_cases hother' : name = other
    · subst hother'
      obtain ⟨hbefore, hafter⟩ := lookupEntry_eq_none_of_once (hjson.once hother)
      rw [hbefore, lookupEntry_cons_self, lookupEntry_cons_self]
      exact .changed h (hjson.of_mem List.mem_append_cons_self)
    · rw [lookupEntry_cons_of_ne hother', lookupEntry_cons_of_ne hother']
      exact .same _
  | item =>
    cases hjson with
    | array hshape _ => exact absurd hshape hfields

theorem WellWritten.fields (h : WellWritten shape (.object members)) (names : List String)
    (hnames : ∀ name ∈ names, shape.knows name = true) :
    Fields.ofJson? names (.object members) = some (Fields.ofMembers members) :=
  Fields.ofJson?_of_once fun name hname => h.once (hnames name hname)

/-- A record before and after a change: its fields are found in both, and they are alike. -/
theorem Changed.fields (h : Changed shape json json') (hjson : WellWritten shape json)
    (hfields : shape.fields ≠ [])
    (names : List String) (hnames : ∀ name ∈ names, shape.knows name = true) :
    ∃ members members', Fields.ofJson? names json = some (Fields.ofMembers members) ∧
      Fields.ofJson? names json' = some (Fields.ofMembers members') ∧
      ∀ name, shape.knows name = true →
        Alike shape name (lookupEntry name members) (lookupEntry name members') := by
  have hjson' := h.wellWritten hjson
  obtain ⟨members, members', rfl, rfl, halike⟩ := h.alike hjson hfields
  exact ⟨members, members', hjson.fields names hnames, hjson'.fields names hnames, halike⟩

end BoardDocument

end ActionBoard
