import ActionBoard.Board.Document
import ActionBoard.Proofs.Json.Typed

/-!
# Walking through a document

Which texts are documents is said about trees: a text of which no tree is made is none, and the tree
has to be a board with the two extra fields.  The reader of the standard format gets along without
the tree.  It walks the text on its own, looks at the extra fields on the spot and keeps the other
members for later, so that it can tell which fault comes first.  This module shows that both say the
same about which texts are documents.

* `ofDocumentJson?_eq_some_iff`: an object is a board where its extra members are texts, none of
  them given twice (`TagsFit`), and where its other members make that board (`untagged`).
* `readMembers_eq_ok_iff`: both readers make one round for each member and count their rounds alike,
  so they are compared round by round.  The walk carries along the names of the extra fields it has
  met; that is why `TagsFit` counts a name both in what is behind the reader and in what is before
  it.
* `ofDocument_standard_eq_error_iff`: the fault of a text is the one that is met on the walk, and a
  document has none.
-/

namespace ActionBoard

namespace Json

variable {text rest : List Char}

/-- A string is read where a quote opens it, and only there. -/
theorem readValue_eq_string_iff {depth : Nat} {s : String} :
    readValue depth text = some (.string s, rest) ↔
      ∃ body, skipSpace text = '"' :: body ∧ readStringBody body = some (s, rest) := by
  constructor
  · intro h
    unfold readValue at h
    split at h
    case h_4 body hquote =>
      obtain ⟨⟨t, behind⟩, hbody, hread⟩ := Option.map_eq_some_iff.mp h
      cases hread
      exact ⟨body, hquote, hbody⟩
    all_goals simp [readWord] at h
    all_goals (repeat' split at h) <;> simp at h
  · rintro ⟨body, hquote, hbody⟩
    unfold readValue
    simp [hquote, hbody]

/-- An object is read where a brace opens it, and only there; it is empty if the next thing is
the closing brace. -/
theorem readValue_eq_object_iff {depth : Nat} {members : List (String × Json)} :
    readValue (depth + 1) text = some (.object members, rest) ↔
      ∃ inner, skipSpace text = '{' :: inner ∧
        ((skipSpace inner = '}' :: rest ∧ members = []) ∨
          (∀ behind, skipSpace inner ≠ '}' :: behind) ∧
            readMembers (readValue depth) (inner.length + 1) [] inner = some (members, rest)) := by
  constructor
  · intro h
    unfold readValue at h
    split at h
    case h_7 inner hopen =>
      refine ⟨inner, hopen, ?_⟩
      dsimp only at h
      split at h
      case h_1 behind hclose =>
        cases h
        exact .inl ⟨hclose, rfl⟩
      case h_2 hclose =>
        obtain ⟨⟨read, behind⟩, hmembers, hread⟩ := Option.map_eq_some_iff.mp h
        cases hread
        exact .inr ⟨hclose, hmembers⟩
    all_goals simp [readWord] at h
    all_goals (repeat' split at h) <;> simp at h
  · rintro ⟨inner, hopen, ⟨hclose, rfl⟩ | ⟨hclose, hmembers⟩⟩
    · unfold readValue
      simp [hopen, hclose]
    · unfold readValue
      simp [hopen, hmembers]

/-- One member: its name, a colon and its value. -/
def readMember (value : Reader Json) : Reader (String × Json) := fun text => do
  let (name, rest) ← readName text
  let (json, rest) ← value (← readColon rest)
  some ((name, json), rest)

theorem readMember_eq_some_iff {value : Reader Json} {name : String} {json : Json} :
    readMember value text = some ((name, json), rest) ↔
      ∃ named after, readName text = some (name, named) ∧ readColon named = some after ∧
        value after = some (json, rest) := by
  constructor
  · intro h
    obtain ⟨⟨name', named⟩, hname, h⟩ := Option.bind_eq_some_iff.mp h
    obtain ⟨after, hcolon, h⟩ := Option.bind_eq_some_iff.mp h
    obtain ⟨⟨json', behind⟩, hvalue, h⟩ := Option.bind_eq_some_iff.mp h
    cases h
    exact ⟨named, after, hname, hcolon, hvalue⟩
  · rintro ⟨named, after, hname, hcolon, hvalue⟩
    refine Option.bind_eq_some_iff.mpr ⟨_, hname, ?_⟩
    refine Option.bind_eq_some_iff.mpr ⟨_, hcolon, ?_⟩
    exact Option.bind_eq_some_iff.mpr ⟨_, hvalue, rfl⟩

theorem readMembers_succ (value : Reader Json) (rounds : Nat) (read : List (String × Json))
    (text : List Char) :
    readMembers value (rounds + 1) read text =
      (readMember value text).bind fun result =>
        match skipSpace result.2 with
        | ',' :: rest => readMembers value rounds (result.1 :: read) rest
        | '}' :: rest => some ((result.1 :: read).reverse, rest)
        | _ => none := by
  refine Eq.trans ?_ (Option.bind_assoc (readName text) _ _).symm
  refine congrArg (Option.bind (readName text)) (funext fun named => ?_)
  refine Eq.trans ?_ (Option.bind_assoc (readColon named.2) _ _).symm
  refine congrArg (Option.bind (readColon named.2)) (funext fun after => ?_)
  cases value after with
  | none => rfl
  | some result => rfl

/-- What has been read already stands in front of what is still to be read. -/
theorem readMembers_eq_map (value : Reader Json) (rounds : Nat) (read : List (String × Json))
    (text : List Char) :
    readMembers value rounds read text =
      (readMembers value rounds [] text).map fun (members, rest) =>
        (read.reverse ++ members, rest) := by
  induction rounds generalizing read text with
  | zero => rfl
  | succ rounds ih =>
    rw [readMembers_succ, readMembers_succ]
    cases readMember value text with
    | none => rfl
    | some result =>
      obtain ⟨member, rest⟩ := result
      simp only [Option.bind_some]
      split
      case h_1 behind _ =>
        rw [ih (member :: read), ih [member], Option.map_map]
        congr 1
        funext result
        simp
      case h_2 => simp
      case h_3 => rfl

/-- What comes behind a member: the closing brace, or a comma and more members. -/
def MembersBehind (value : Reader Json) (rounds : Nat) (text : List Char)
    (members : List (String × Json)) (rest : List Char) : Prop :=
  (skipSpace text = '}' :: rest ∧ members = []) ∨
    ∃ next, skipSpace text = ',' :: next ∧ readMembers value rounds [] next = some (members, rest)

/-- Members are one member and what comes behind it. -/
theorem readMembers_succ_eq_some_iff {value : Reader Json} {rounds : Nat}
    {members : List (String × Json)} :
    readMembers value (rounds + 1) [] text = some (members, rest) ↔
      ∃ member behind others, readMember value text = some (member, behind) ∧
        MembersBehind value rounds behind others rest ∧ members = member :: others := by
  rw [readMembers_succ, Option.bind_eq_some_iff]
  constructor
  · rintro ⟨⟨member, behind⟩, hmember, h⟩
    split at h
    case h_1 next hcomma =>
      rw [readMembers_eq_map] at h
      obtain ⟨⟨others, last⟩, hothers, hread⟩ := Option.map_eq_some_iff.mp h
      cases hread
      exact ⟨member, behind, others, hmember, .inr ⟨next, hcomma, hothers⟩, rfl⟩
    case h_2 hclose =>
      cases h
      exact ⟨member, behind, [], hmember, .inl ⟨hclose, rfl⟩, rfl⟩
    case h_3 => cases h
  · rintro ⟨member, behind, others, hmember, ⟨hclose, rfl⟩ | ⟨next, hcomma, hothers⟩, rfl⟩
    · exact ⟨_, hmember, by simp [hclose]⟩
    · refine ⟨_, hmember, ?_⟩
      simp only [hcomma]
      rw [readMembers_eq_map, hothers]
      rfl

end Json

namespace BoardDocument

open Json

/-! ## Extra members -/

/-- Whether a member of that name is an extra one. -/
def isTag (name : String) : Bool :=
  name == "version" || name == "app"

/-- The members that are no extra ones. -/
def untagged (members : List (String × Json)) : List (String × Json) :=
  members.filter fun member => !isTag member.1

/-- The extra members are texts, and none is given twice, not even together with those already
met. -/
structure TagsFit (met : List String) (members : List (String × Json)) : Prop where
  once : ∀ name, isTag name = true → met.count name + Fields.occurrences name members ≤ 1
  text : ∀ member ∈ members, isTag member.1 = true → ∃ s, member.2 = .string s

variable {met : List String} {name : String} {json : Json} {member : String × Json}
  {members stored : List (String × Json)} {rounds : Nat} {text rest : List Char}

theorem tagsFit_nil (h : met.Nodup) : TagsFit met [] where
  once name _ := List.nodup_iff_count_le_one.mp h name
  text _ hmember := nomatch hmember

/-- An extra member that is passed counts among those met. -/
theorem tagsFit_cons_tag (htag : isTag name = true) :
    TagsFit met ((name, json) :: members) ↔ (∃ s, json = .string s) ∧
      TagsFit (name :: met) members := by
  have hcount : ∀ other, met.count other + Fields.occurrences other ((name, json) :: members) =
      (name :: met).count other + Fields.occurrences other members := by
    intro other
    by_cases hother : name = other
    · subst hother
      rw [Fields.occurrences_cons_self, List.count_cons_self]
      omega
    · rw [Fields.occurrences_cons_of_ne hother, List.count_cons_of_ne hother]
  constructor
  · intro h
    refine ⟨h.text (name, json) List.mem_cons_self htag, fun other hother => ?_,
      fun member hmember => ?_⟩
    · rw [← hcount]
      exact h.once other hother
    · exact h.text member (List.mem_cons_of_mem _ hmember)
  · rintro ⟨htext, hfit⟩
    refine ⟨fun other hother => ?_, fun member hmember hname => ?_⟩
    · rw [hcount]
      exact hfit.once other hother
    · rcases List.mem_cons.mp hmember with rfl | hmember
      · exact htext
      · exact hfit.text member hmember hname

theorem tagsFit_cons_of_not (htag : isTag name = false) :
    TagsFit met ((name, json) :: members) ↔ TagsFit met members := by
  have hne : ∀ other, isTag other = true → name ≠ other := by
    rintro other hother rfl
    exact Bool.noConfusion (htag.symm.trans hother)
  constructor
  · intro h
    refine ⟨fun other hother => ?_,
      fun member hmember => h.text member (List.mem_cons_of_mem _ hmember)⟩
    rw [← Fields.occurrences_cons_of_ne (hne other hother) json]
    exact h.once other hother
  · intro h
    refine ⟨fun other hother => ?_, fun member hmember hname => ?_⟩
    · rw [Fields.occurrences_cons_of_ne (hne other hother)]
      exact h.once other hother
    · rcases List.mem_cons.mp hmember with rfl | hmember
      · exact absurd rfl (hne _ hname)
      · exact h.text member hmember hname

/-- An extra field that has been met does not fit again. -/
theorem TagsFit.not_mem (h : TagsFit (name :: met) members) (htag : isTag name = true) :
    name ∉ met := by
  intro hmem
  have honce := h.once name htag
  have hpos := List.count_pos_iff.mpr hmem
  rw [List.count_cons_self] at honce
  omega

theorem untagged_cons_tag (htag : isTag name = true) :
    untagged ((name, json) :: members) = untagged members := by
  simp [untagged, htag]

theorem untagged_cons_of_not (htag : isTag name = false) :
    untagged ((name, json) :: members) = (name, json) :: untagged members := by
  simp [untagged, htag]

/-! ## The two readers side by side -/

theorem bind_eq_ok_iff {α β : Type} {x : Except DocumentFault α}
    {f : α → Except DocumentFault β} {b : β} :
    (x >>= f) = .ok b ↔ ∃ a, x = .ok a ∧ f a = .ok b := by
  cases x <;> simp [bind, Except.bind]

theorem wellFormed_eq_ok_iff {α : Type} {reader : Reader α} {result : α × List Char} :
    wellFormed reader text = .ok result ↔ reader text = some result := by
  rw [wellFormed]
  cases reader text <;> simp

theorem afterColon_eq_ok_iff : afterColon text = .ok rest ↔ readColon text = some rest := by
  rw [afterColon]
  cases readColon text <;> simp

theorem readText_eq_ok_iff {s : String} (depth : Nat) :
    readText text = .ok (s, rest) ↔ readValue depth text = some (.string s, rest) := by
  rw [readValue_eq_string_iff, readText]
  constructor
  · intro h
    split at h
    case h_1 body hquote => exact ⟨body, hquote, wellFormed_eq_ok_iff.mp h⟩
    case h_2 => cases h
  · rintro ⟨body, hquote, hbody⟩
    simp only [hquote]
    exact wellFormed_eq_ok_iff.mpr hbody

/-- In one round the reader takes one member.  An extra one has to be a new text. -/
theorem readMembers_succ_eq_ok_iff {result : List (String × Json) × List Char} :
    readMembers (rounds + 1) met stored text = .ok result ↔
      ∃ name json behind, readMember (readValue (nestingLimit - 1)) text =
        some ((name, json), behind) ∧
        if isTag name then
          name ∉ met ∧ (∃ s, json = .string s) ∧
            readMembers.next rounds (name :: met) stored behind = .ok result
        else readMembers.next rounds met ((name, json) :: stored) behind = .ok result := by
  have htags : ∀ name : String, (name == "version" || name == "app") = isTag name := fun _ => rfl
  rw [readMembers, bind_eq_ok_iff]
  simp only [htags]
  constructor
  · rintro ⟨⟨name, named⟩, hname, h⟩
    rw [wellFormed_eq_ok_iff] at hname
    split at h
    case isTrue htag =>
      split at h
      case isTrue => cases h
      case isFalse hfresh =>
        obtain ⟨after, hcolon, h⟩ := bind_eq_ok_iff.mp h
        obtain ⟨⟨s, behind⟩, htext, h⟩ := bind_eq_ok_iff.mp h
        rw [afterColon_eq_ok_iff] at hcolon
        rw [readText_eq_ok_iff (nestingLimit - 1)] at htext
        refine ⟨name, .string s, behind,
          readMember_eq_some_iff.mpr ⟨named, after, hname, hcolon, htext⟩, ?_⟩
        rw [if_pos htag]
        exact ⟨by simpa using hfresh, ⟨s, rfl⟩, h⟩
    case isFalse htag =>
      obtain ⟨after, hcolon, h⟩ := bind_eq_ok_iff.mp h
      obtain ⟨⟨json, behind⟩, hvalue, h⟩ := bind_eq_ok_iff.mp h
      rw [afterColon_eq_ok_iff] at hcolon
      rw [wellFormed_eq_ok_iff] at hvalue
      refine ⟨name, json, behind, readMember_eq_some_iff.mpr ⟨named, after, hname, hcolon, hvalue⟩,
        ?_⟩
      rw [if_neg htag]
      exact h
  · rintro ⟨name, json, behind, hread, h⟩
    obtain ⟨named, after, hname, hcolon, hvalue⟩ := readMember_eq_some_iff.mp hread
    refine ⟨(name, named), wellFormed_eq_ok_iff.mpr hname, ?_⟩
    split at h
    case isTrue htag =>
      obtain ⟨hfresh, ⟨s, rfl⟩, h⟩ := h
      rw [if_pos htag, if_neg (by simpa using hfresh)]
      refine bind_eq_ok_iff.mpr ⟨after, afterColon_eq_ok_iff.mpr hcolon, ?_⟩
      exact bind_eq_ok_iff.mpr ⟨(s, behind), (readText_eq_ok_iff _).mpr hvalue, h⟩
    case isFalse htag =>
      rw [if_neg htag]
      refine bind_eq_ok_iff.mpr ⟨after, afterColon_eq_ok_iff.mpr hcolon, ?_⟩
      exact bind_eq_ok_iff.mpr ⟨(json, behind), wellFormed_eq_ok_iff.mpr hvalue, h⟩

/-- What comes behind a member is the same for both readers if the members are. -/
theorem next_eq_ok_iff {kept : List (String × Json)} (hmet : met.Nodup)
    (h : ∀ text, readMembers rounds met stored text = .ok (kept, rest) ↔
      ∃ members, Json.readMembers (readValue (nestingLimit - 1)) rounds [] text =
        some (members, rest) ∧
        TagsFit met members ∧ kept = stored.reverse ++ untagged members) :
    readMembers.next rounds met stored text = .ok (kept, rest) ↔
      ∃ members, MembersBehind (readValue (nestingLimit - 1)) rounds text members rest ∧
        TagsFit met members ∧ kept = stored.reverse ++ untagged members := by
  rw [readMembers.next]
  constructor
  · intro hnext
    split at hnext
    case h_1 next hcomma =>
      obtain ⟨members, hread, hfit, hkept⟩ := (h next).mp hnext
      exact ⟨members, .inr ⟨next, hcomma, hread⟩, hfit, hkept⟩
    case h_2 behind hclose =>
      cases hnext
      exact ⟨[], .inl ⟨hclose, rfl⟩, tagsFit_nil hmet, (List.append_nil _).symm⟩
    case h_3 => cases hnext
  · rintro ⟨members, ⟨hclose, rfl⟩ | ⟨next, hcomma, hread⟩, hfit, rfl⟩
    · simp [hclose, untagged]
    · simp only [hcomma]
      exact (h next).mpr ⟨members, hread, hfit, rfl⟩

/-- **The reader of documents takes the members that the reader of trees takes**, if their extra
ones fit, and keeps those that are no extra ones. -/
theorem readMembers_eq_ok_iff {kept : List (String × Json)} (hmet : met.Nodup) :
    readMembers rounds met stored text = .ok (kept, rest) ↔
      ∃ members, Json.readMembers (readValue (nestingLimit - 1)) rounds [] text =
        some (members, rest) ∧
        TagsFit met members ∧ kept = stored.reverse ++ untagged members := by
  induction rounds generalizing met stored text with
  | zero => simp [readMembers, Json.readMembers]
  | succ rounds ih =>
    rw [readMembers_succ_eq_ok_iff]
    constructor
    · rintro ⟨name, json, behind, hmember, h⟩
      split at h
      case isTrue htag =>
        obtain ⟨hfresh, htext, hnext⟩ := h
        have hmet' : (name :: met).Nodup := List.nodup_cons.mpr ⟨hfresh, hmet⟩
        obtain ⟨others, hothers, hfit, rfl⟩ := (next_eq_ok_iff hmet' fun text => ih hmet').mp hnext
        refine ⟨(name, json) :: others,
          readMembers_succ_eq_some_iff.mpr ⟨_, _, _, hmember, hothers, rfl⟩, ?_, ?_⟩
        · exact (tagsFit_cons_tag htag).mpr ⟨htext, hfit⟩
        · rw [untagged_cons_tag htag]
      case isFalse htag =>
        rw [Bool.not_eq_true] at htag
        obtain ⟨others, hothers, hfit, rfl⟩ := (next_eq_ok_iff hmet fun text => ih hmet).mp h
        refine ⟨(name, json) :: others,
          readMembers_succ_eq_some_iff.mpr ⟨_, _, _, hmember, hothers, rfl⟩, ?_, ?_⟩
        · exact (tagsFit_cons_of_not htag).mpr hfit
        · rw [untagged_cons_of_not htag, List.reverse_cons, List.append_assoc,
            List.singleton_append]
    · rintro ⟨members, hread, hfit, rfl⟩
      obtain ⟨⟨name, json⟩, behind, others, hmember, hothers, rfl⟩ :=
        readMembers_succ_eq_some_iff.mp hread
      refine ⟨name, json, behind, hmember, ?_⟩
      split
      case isTrue htag =>
        obtain ⟨htext, hfit⟩ := (tagsFit_cons_tag htag).mp hfit
        have hfresh := hfit.not_mem htag
        have hmet' : (name :: met).Nodup := List.nodup_cons.mpr ⟨hfresh, hmet⟩
        refine ⟨hfresh, htext,
          (next_eq_ok_iff hmet' fun text => ih hmet').mpr ⟨others, hothers, hfit, ?_⟩⟩
        rw [untagged_cons_tag htag]
      case isFalse htag =>
        rw [Bool.not_eq_true] at htag
        have hfit := (tagsFit_cons_of_not htag).mp hfit
        refine (next_eq_ok_iff hmet fun text => ih hmet).mpr ⟨others, hothers, hfit, ?_⟩
        rw [untagged_cons_of_not htag, List.reverse_cons, List.append_assoc, List.singleton_append]

/-- The members of a document are those of an object whose extra members fit, without these. -/
theorem readAllMembers_eq_ok_iff {kept : List (String × Json)} :
    readAllMembers text = .ok (kept, rest) ↔
      ∃ members, readValue nestingLimit text = some (.object members, rest) ∧ TagsFit [] members ∧
        kept = untagged members := by
  rw [readAllMembers]
  constructor
  · intro h
    split at h
    case h_1 inner hopen =>
      split at h
      case h_1 hclose =>
        cases h
        exact ⟨[], readValue_eq_object_iff.mpr ⟨inner, hopen, .inl ⟨hclose, rfl⟩⟩,
          tagsFit_nil List.nodup_nil, rfl⟩
      case h_2 hclose =>
        obtain ⟨members, hread, hfit, rfl⟩ := (readMembers_eq_ok_iff List.nodup_nil).mp h
        exact ⟨members, readValue_eq_object_iff.mpr ⟨inner, hopen, .inr ⟨hclose, hread⟩⟩, hfit, rfl⟩
    case h_2 => cases h
  · rintro ⟨members, hread, hfit, rfl⟩
    obtain ⟨inner, hopen, ⟨hclose, rfl⟩ | ⟨hclose, hmembers⟩⟩ := readValue_eq_object_iff.mp hread
    · simp [hopen, hclose, untagged]
    · simp only [hopen]
      exact (readMembers_eq_ok_iff List.nodup_nil).mpr ⟨members, hmembers, hfit, rfl⟩

/-! ## Boards -/

variable {time? : String → Option UtcTime} {form : ActionKind.UnitForm} {now : UtcTime}
  {board : Board}

/-- A field that is no extra one is found without these. -/
theorem lookupEntry_untagged (htag : isTag name = false) (members : List (String × Json)) :
    lookupEntry name (untagged members) = lookupEntry name members := by
  induction members with
  | nil => rfl
  | cons member members ih =>
    obtain ⟨other, json⟩ := member
    cases hother : isTag other with
    | true =>
      have hne : other ≠ name := by
        rintro rfl
        exact Bool.noConfusion (htag.symm.trans hother)
      rw [untagged_cons_tag hother, ih, lookupEntry, if_neg hne]
    | false => rw [untagged_cons_of_not hother, lookupEntry, lookupEntry, ih]

theorem occurrences_untagged (htag : isTag name = false) (members : List (String × Json)) :
    Fields.occurrences name (untagged members) = Fields.occurrences name members := by
  rw [Fields.occurrences, Fields.occurrences, untagged, List.filter_filter]
  refine congrArg List.length (List.filter_congr fun member _ => ?_)
  by_cases hname : member.1 = name
  · simp [hname, htag]
  · simp [hname]

/-- The extra fields are not looked at by the reader of boards. -/
theorem ofJson?_untagged (members : List (String × Json)) :
    Board.ofJson? time? form now (.object (untagged members)) =
      Board.ofJson? time? form now (.object members) := by
  have hnames : ∀ name ∈ Board.fieldNames, isTag name = false := by decide
  have hsame : (∀ name ∈ Board.fieldNames, Fields.occurrences name (untagged members) ≤ 1) ↔
      ∀ name ∈ Board.fieldNames, Fields.occurrences name members ≤ 1 :=
    forall₂_congr fun name hname => by rw [occurrences_untagged (hnames name hname)]
  rw [Board.ofJson?, Board.ofJson?]
  by_cases honce : ∀ name ∈ Board.fieldNames, Fields.occurrences name members ≤ 1
  · rw [Fields.ofJson?_of_once honce, Fields.ofJson?_of_once (hsame.mpr honce)]
    simp only [bind, Option.bind_some, Fields.withDefault_ofMembers]
    rw [@lookupEntry_untagged "id" rfl, @lookupEntry_untagged "name" rfl,
      @lookupEntry_untagged "rows" rfl, @lookupEntry_untagged "created_at" rfl,
      @lookupEntry_untagged "modified_at" rfl]
  · rw [Fields.ofJson?_eq_none_of_not_once honce,
      Fields.ofJson?_eq_none_of_not_once (mt hsame.mp honce)]

/-- An extra field, if there is one, is a text. -/
theorem withDefault_tagOfJson?_eq_some_iff :
    (Fields.ofMembers members).withDefault name Board.tagOfJson? () = some () ↔
      ∀ json, lookupEntry name members = some json → ∃ s, json = .string s := by
  rw [Fields.withDefault_ofMembers]
  cases lookupEntry name members with
  | none => simp
  | some json => cases json <;> simp [Board.tagOfJson?, Json.string?]

theorem isTag_iff : isTag name = true ↔ name = "version" ∨ name = "app" := by
  simp [isTag]

/-- Extra members fit where none is given twice and those that are there are texts. -/
theorem tagsFit_iff :
    TagsFit [] members ↔ ∀ name, isTag name = true → Fields.occurrences name members ≤ 1 ∧
      (Fields.ofMembers members).withDefault name Board.tagOfJson? () = some () := by
  constructor
  · intro h name htag
    have honce : Fields.occurrences name members ≤ 1 := by simpa using h.once name htag
    refine ⟨honce, withDefault_tagOfJson?_eq_some_iff.mpr fun json hfield => ?_⟩
    exact h.text (name, json) (mem_of_lookupEntry hfield) htag
  · intro h
    refine ⟨fun name htag => by simpa using (h name htag).1, fun member hmember htag => ?_⟩
    obtain ⟨honce, htext⟩ := h member.1 htag
    exact withDefault_tagOfJson?_eq_some_iff.mp htext _ (lookupEntry_of_mem hmember honce)

/-- An object is a document where its extra members fit and where it makes a board. -/
theorem ofDocumentJson?_eq_some_iff :
    Board.ofDocumentJson? time? now (.object members) = some board ↔
      TagsFit [] members ∧
        Board.ofJson? time? .nullOrEmpty now (.object (untagged members)) = some board := by
  have hfit : TagsFit [] members ↔
      (∀ name ∈ ["version", "app"], Fields.occurrences name members ≤ 1) ∧
      (Fields.ofMembers members).withDefault "version" Board.tagOfJson? () = some () ∧
      (Fields.ofMembers members).withDefault "app" Board.tagOfJson? () = some () := by
    rw [tagsFit_iff]
    simp only [isTag_iff, forall_eq_or_imp, forall_eq, List.forall_mem_cons]
    grind
  rw [ofJson?_untagged, Board.ofDocumentJson?, hfit]
  simp only [Option.bind_eq_bind, Option.bind_eq_some_iff, Fields.ofJson?_object_eq_some_iff]
  constructor
  · rintro ⟨_, ⟨honce, rfl⟩, ⟨⟩, hversion, ⟨⟩, happ, hboard⟩
    exact ⟨⟨honce, hversion, happ⟩, hboard⟩
  · rintro ⟨⟨honce, hversion, happ⟩, hboard⟩
    exact ⟨_, ⟨honce, rfl⟩, (), hversion, (), happ, hboard⟩

/-! ## The standard format -/

/-- Whether a board is made does not depend on the present. -/
theorem exists_ofJson? {json : Json} (h : Board.ofJson? time? form now json = some board)
    (now' : UtcTime) : ∃ board', Board.ofJson? time? form now' json = some board' := by
  have hfield : ∀ {fields : Fields} {name : String} {t : UtcTime},
      fields.withDefault name (Board.timeOfJson? time?) now = some t →
        ∃ t', fields.withDefault name (Board.timeOfJson? time?) now' = some t' := by
    intro fields name t ht
    rw [Fields.withDefault] at ht ⊢
    split at ht
    case h_1 => exact ⟨t, ht⟩
    case h_2 => exact ⟨now', rfl⟩
  rw [Board.ofJson?] at h
  simp only [Option.bind_eq_bind, Option.bind_eq_some_iff] at h
  obtain ⟨fields, hfields, id, hid, name, hname, rows, hrows, created, hcreated, modified,
      hmodified, -⟩ := h
  obtain ⟨created', hcreated'⟩ := hfield hcreated
  obtain ⟨modified', hmodified'⟩ := hfield hmodified
  rw [Board.ofJson?]
  simp only [Option.bind_eq_bind, Option.bind_eq_some_iff]
  exact ⟨_, fields, hfields, id, hid, name, hname, rows, hrows, created', hcreated', modified',
    hmodified', rfl⟩

/-- The walk through a text meets no fault just where the text is a document. -/
theorem fault?_eq_none_iff :
    fault? text = none ↔
      ∃ board, (Json.parse? text).bind (Board.ofDocumentJson? UtcTime.ofText? now) =
        some board := by
  rw [fault?, Json.parse?]
  constructor
  · intro h
    split at h
    case h_1 => cases h
    case h_2 kept rest hread =>
      obtain ⟨members, hvalue, hfit, rfl⟩ := readAllMembers_eq_ok_iff.mp hread
      split at h
      case h_1 => cases h
      case h_2 board hboard =>
        split at h
        case isTrue hend =>
          obtain ⟨board', hboard'⟩ := exists_ofJson? hboard now
          refine ⟨board', ?_⟩
          simp only [hvalue, hend, if_true, Option.bind_some]
          exact ofDocumentJson?_eq_some_iff.mpr ⟨hfit, hboard'⟩
        case isFalse => cases h
  · rintro ⟨board, h⟩
    obtain ⟨json, hparse, hboard⟩ := Option.bind_eq_some_iff.mp h
    split at hparse
    case h_1 json' rest hvalue =>
      split at hparse
      case isTrue hend =>
        cases hparse
        cases json with
        | object members =>
          obtain ⟨hfit, hmade⟩ := ofDocumentJson?_eq_some_iff.mp hboard
          obtain ⟨board', hmade'⟩ := exists_ofJson? hmade .epoch
          simp [readAllMembers_eq_ok_iff.mpr ⟨members, hvalue, hfit, rfl⟩, hmade', hend]
        | null | bool | number | string | array => cases hboard
      case isFalse => cases hparse
    case h_2 => cases hparse

end BoardDocument

/-- **The fault of a text is the one that is met on the way through it**, and a document has
none. -/
theorem Board.ofDocument_standard_eq_error_iff {now : UtcTime} {text : String}
    {fault : DocumentFault} :
    ofDocument .standard now text = .error fault ↔ BoardDocument.fault? text.toList =
      some fault := by
  have hnone := @BoardDocument.fault?_eq_none_iff text.toList now
  have hfault : DocumentFormat.standard.fault text.toList =
      (BoardDocument.fault? text.toList).getD .malformed := rfl
  have hread : (DocumentFormat.standard.tree? text.toList).bind
      (ofDocumentJson? DocumentFormat.standard.time? now) =
      (Json.parse? text.toList).bind (ofDocumentJson? UtcTime.ofText? now) := rfl
  rw [ofDocument, hread, hfault]
  cases hboard : (Json.parse? text.toList).bind (ofDocumentJson? UtcTime.ofText? now) with
  | some board =>
    rw [hnone.mpr ⟨board, hboard⟩]
    simp
  | none =>
    cases hmet : BoardDocument.fault? text.toList with
    | none =>
      obtain ⟨board, hsome⟩ := hnone.mp hmet
      cases hboard.symm.trans hsome
    | some other => simp

end ActionBoard
