import ActionBoard.Device.Recorder
import ActionBoard.Handler.Lookup
import ActionBoard.Proofs.Dictionary
import ActionBoard.Proofs.Engine.Playing
import Mathlib.Data.List.Infix

/-!
# Variables in texts, in any order

The variables of a run are put into a text one after the other, and each of them sees what the ones
before it have brought into the text.  So the result may depend on the order in which the variables
are enumerated.  It does not where one round is enough: where the text with all its places filled at
once has no place left.

* `pieces`: a text cut into places of variables and other characters, in one pass from left to
  right; `fillOnce` is the text with all these places filled.
* `render`: the text with the places of some of the variables filled.  This is what the text is
  between two variables.
* `replaceAll_flatMap_render`: the next variable fills its own places, and finds none but them.
-/

namespace ActionBoard

/-! ## Replacing parts of a text -/

namespace Text

variable {part replacement : List Char}

theorem contains_cons_eq_false {c : Char} {rest : List Char}
    (h : contains part (c :: rest) = false) :
    ¬ part <+: c :: rest ∧ contains part rest = false := by
  rw [contains, Bool.or_eq_false_iff] at h
  refine ⟨fun hstarts => ?_, h.2⟩
  have hfound : part.isPrefixOf (c :: rest) = true := by simpa using hstarts
  rw [hfound] at h
  exact Bool.noConfusion h.1

theorem contains_append_eq_false {front rest : List Char}
    (h : contains part (front ++ rest) = false) : contains part rest = false := by
  induction front with
  | nil => exact h
  | cons c front ih => exact ih (contains_cons_eq_false h).2

theorem replaceAll_cons_of_not_begun {c : Char} {rest : List Char} (h : ¬ part <+: c :: rest) :
    replaceAll part replacement (c :: rest) = c :: replaceAll part replacement rest := by
  have hnone : part.isPrefixOf? (c :: rest) = none := by
    rw [Option.eq_none_iff_forall_ne_some]
    intro behind hbehind
    exact h ⟨behind, List.isPrefixOf?_eq_some_iff_append_eq.mp hbehind⟩
  rw [replaceAll, hnone]

theorem replaceAll_append_self (hpart : part ≠ []) (rest : List Char) :
    replaceAll part replacement (part ++ rest) =
      replacement ++ replaceAll part replacement rest := by
  obtain ⟨c, part, rfl⟩ := List.exists_cons_of_ne_nil hpart
  have hsome : (c :: part).isPrefixOf? (c :: (part ++ rest)) = some rest :=
    List.isPrefixOf?_eq_some_iff_append_eq.mpr rfl
  have hshorter : rest.length < (c :: (part ++ rest)).length := by
    simp only [List.length_cons, List.length_append]
    omega
  rw [List.cons_append, replaceAll, hsome]
  exact if_pos hshorter

/-- Characters that the part does not begin with are passed over. -/
theorem replaceAll_append_of_notMem {c : Char} {front : List Char} (h : c ∉ front)
    (rest : List Char) :
    replaceAll (c :: part) replacement (front ++ rest) =
      front ++ replaceAll (c :: part) replacement rest := by
  induction front with
  | nil => rfl
  | cons other front ih =>
    rw [List.mem_cons, not_or] at h
    have hstarts : ¬ c :: part <+: other :: (front ++ rest) := fun hstarts =>
      h.1 (List.cons_prefix_cons.mp hstarts).1
    rw [List.cons_append, replaceAll_cons_of_not_begun hstarts, ih h.2, List.cons_append]

end Text

/-! ## Pieces of a text -/

/-- A name without braces. -/
def IsBraceFree (name : String) : Prop :=
  '{' ∉ name.toList ∧ '}' ∉ name.toList

instance (name : String) : Decidable (IsBraceFree name) :=
  inferInstanceAs (Decidable (_ ∧ _))

/-- The place of such a name has one opening brace, which is its first character. -/
theorem IsBraceFree.notMem_behind_brace {name : String} (h : IsBraceFree name) :
    '{' ∉ name.toList ++ ['}'] := by
  rw [List.mem_append, List.mem_singleton, not_or]
  exact ⟨h.1, by decide⟩

/-- A character of a text, or the place of a variable. -/
inductive Piece where
  | kept (c : Char)
  | place (name : String) (value : Value)

namespace Piece

/-- What stands in the text for a piece when the places of some variables are filled. -/
def render (filled : List String) : Piece → List Char
  | kept c => [c]
  | place name value => if name ∈ filled then value.text.toList else placeholder name

/-- What stands in the text for a piece when every place is filled. -/
def fill : Piece → List Char
  | kept c => [c]
  | place _ value => value.text.toList

end Piece

/-- The variable whose place a text begins with, and what is behind this place. -/
def placeAt? (vars : List (String × Value)) (text : List Char) :
    Option ((String × Value) × List Char) :=
  vars.findSome? fun entry => ((placeholder entry.1).isPrefixOf? text).map fun behind =>
    (entry, behind)

theorem eq_append_of_placeAt? {vars : List (String × Value)} {text behind : List Char}
    {entry : String × Value} (h : placeAt? vars text = some (entry, behind)) : entry ∈ vars ∧
      text = placeholder entry.1 ++ behind := by
  obtain ⟨other, hother, hsome⟩ := List.exists_of_findSome?_eq_some h
  obtain ⟨rest, hrest, heq⟩ := Option.map_eq_some_iff.mp hsome
  cases heq
  exact ⟨hother, (List.isPrefixOf?_eq_some_iff_append_eq.mp hrest).symm⟩

theorem length_lt_of_placeAt? {vars : List (String × Value)} {text behind : List Char}
    {entry : String × Value}
    (h : placeAt? vars text = some (entry, behind)) : behind.length < text.length := by
  rw [(eq_append_of_placeAt? h).2, placeholder, List.length_append, List.length_append,
    List.length_cons]
  omega

/-- A text cut into places of variables and other characters, in one pass. -/
def pieces (vars : List (String × Value)) (text : List Char) : List Piece :=
  match text with
  | [] => []
  | c :: rest =>
    match _hplace : placeAt? vars (c :: rest) with
    | some (entry, behind) => .place entry.1 entry.2 :: pieces vars behind
    | none => .kept c :: pieces vars rest
termination_by text.length
decreasing_by
  · exact length_lt_of_placeAt? _hplace
  · exact Nat.lt_succ_self rest.length

/-- The text with the places of all variables filled at once. -/
def fillOnce (vars : List (String × Value)) (text : List Char) : List Char :=
  (pieces vars text).flatMap Piece.fill

/-! ## One variable after the other -/

section

variable {vars order : List (String × Value)} {text : List Char}

/-- Without any place filled, the pieces are the text. -/
theorem flatMap_render_pieces (vars : List (String × Value)) (text : List Char) :
    (pieces vars text).flatMap (Piece.render []) = text := by
  fun_induction pieces vars text with
  | case1 => rfl
  | case2 c rest entry behind hplace ih =>
    rw [List.flatMap_cons, ih, (eq_append_of_placeAt? hplace).2]
    rfl
  | case3 c rest hnone ih =>
    rw [List.flatMap_cons, ih]
    rfl

/-- The places of a text are places of its variables. -/
theorem mem_of_place_mem_pieces {name : String} {value : Value}
    (h : .place name value ∈ pieces vars text) : (name, value) ∈ vars := by
  fun_induction pieces vars text with
  | case1 => cases h
  | case2 c rest entry behind hplace ih =>
    rcases List.mem_cons.mp h with hfirst | hrest
    · cases hfirst
      exact (eq_append_of_placeAt? hplace).1
    · exact ih hrest
  | case3 c rest hnone ih =>
    rcases List.mem_cons.mp h with hfirst | hrest
    · cases hfirst
    · exact ih hrest

/-- Where all its variables are filled, a text is filled. -/
theorem flatMap_render_eq_fill {filled : List String} {ps : List Piece}
    (h : ∀ name value, .place name value ∈ ps → name ∈ filled) :
    ps.flatMap (Piece.render filled) = ps.flatMap Piece.fill := by
  refine List.flatMap_congr fun piece hpiece => ?_
  cases piece with
  | kept c => rfl
  | place name value => exact if_pos (h name value hpiece)

theorem prefix_append_of_imp {c : Char} {before after : List Char}
    (h : ∀ front, c ∉ front → front <+: before → front <+: after) {front shared : List Char}
    (hfront : c ∉ front) (hstarts : front <+: shared ++ before) : front <+: shared ++ after := by
  induction shared generalizing front with
  | nil => exact h front hfront hstarts
  | cons d shared ih =>
    cases front with
    | nil => exact ⟨_, rfl⟩
    | cons e front =>
      obtain ⟨rfl, hrest⟩ := List.cons_prefix_cons.mp hstarts
      exact List.cons_prefix_cons.mpr ⟨rfl,
        ih (fun hmem => hfront (List.mem_cons_of_mem e hmem)) hrest⟩

/-- What begins a text that is partly filled, and has no opening brace, also begins the text when it
is filled: there is no difference up to the next place that is not filled. -/
theorem prefix_fill {filled : List String} {front : List Char}
    (hfront : '{' ∉ front) {ps : List Piece}
    (h : front <+: ps.flatMap (Piece.render filled)) : front <+: ps.flatMap Piece.fill := by
  induction ps generalizing front with
  | nil => exact h
  | cons piece ps ih =>
    rw [List.flatMap_cons] at h ⊢
    cases piece with
    | kept c => exact prefix_append_of_imp (fun _ => ih) hfront h
    | place name value =>
      by_cases hname : name ∈ filled
      · rw [Piece.render, if_pos hname] at h
        exact prefix_append_of_imp (fun _ => ih) hfront h
      · rw [Piece.render, if_neg hname] at h
        -- a place that is not filled begins with a brace
        cases front with
        | nil => exact ⟨_, rfl⟩
        | cons c front =>
          have hbrace : c = '{' := (List.cons_prefix_cons.mp h).1
          exact absurd (hbrace ▸ List.mem_cons_self) hfront

variable {name : String} {new : List Char}

/-- A variable passes over what is already filled, where it has no place in the text
when everything is. -/
theorem replaceAll_append_of_contains (hname : IsBraceFree name) {filled : List String}
    {ps : List Piece} {shared : List Char}
    (hfinal : Text.contains (placeholder name) (shared ++ ps.flatMap Piece.fill) = false) :
    Text.replaceAll (placeholder name) new (shared ++ ps.flatMap (Piece.render filled)) =
      shared ++ Text.replaceAll (placeholder name) new (ps.flatMap (Piece.render filled)) := by
  induction shared with
  | nil => rfl
  | cons c shared ih =>
    obtain ⟨hnot, hrest⟩ := Text.contains_cons_eq_false hfinal
    have hstarts : ¬ placeholder name <+: c :: (shared ++ ps.flatMap (Piece.render filled)) := by
      intro hstarts
      obtain ⟨hbrace, htail⟩ := List.cons_prefix_cons.mp hstarts
      exact hnot (List.cons_prefix_cons.mpr
        ⟨hbrace, prefix_append_of_imp (fun _ hfront => prefix_fill hfront)
          hname.notMem_behind_brace htail⟩)
    rw [List.cons_append, Text.replaceAll_cons_of_not_begun hstarts, ih hrest, List.cons_append]

/-- The place of another variable does not begin like the place of this one. -/
theorem not_prefix_placeholder {other : String} (hname : IsBraceFree name)
    (hother : IsBraceFree other)
    (hne : name ≠ other) (rest : List Char) : ¬ placeholder name <+: placeholder other ++ rest := by
  rintro ⟨behind, hbehind⟩
  have hmark : name.toList ++ '}' :: behind = other.toList ++ '}' :: rest := by
    simpa [placeholder] using hbehind
  have hread : ∀ {front : List Char}, '}' ∉ front → ∀ rest : List Char,
      (front ++ '}' :: rest).takeWhile (· ≠ '}') = front := by
    intro front hfront rest
    have hkept : ∀ c ∈ front, decide (c ≠ '}') = true := fun c hc =>
      decide_eq_true fun hmark => hfront (hmark ▸ hc)
    rw [List.takeWhile_append_of_pos hkept, List.takeWhile_cons_of_neg (by decide), List.append_nil]
  have htake := congrArg (List.takeWhile (· ≠ '}')) hmark
  rw [hread hname.2, hread hother.2] at htake
  exact hne (String.toList_inj.mp htake)

/-- A variable passes over the place of another one. -/
theorem replaceAll_placeholder_append {other : String} (hname : IsBraceFree name)
    (hother : IsBraceFree other) (hne : name ≠ other) (rest : List Char) :
    Text.replaceAll (placeholder name) new (placeholder other ++ rest) =
      placeholder other ++ Text.replaceAll (placeholder name) new rest := by
  have hfirst : ¬ placeholder name <+: '{' :: (other.toList ++ ['}'] ++ rest) :=
    not_prefix_placeholder hname hother hne rest
  have hothers : Text.replaceAll (placeholder name) new (other.toList ++ ['}'] ++ rest) = _ :=
    Text.replaceAll_append_of_notMem hother.notMem_behind_brace rest
  show Text.replaceAll (placeholder name) new ('{' :: (other.toList ++ ['}'] ++ rest)) = _
  rw [Text.replaceAll_cons_of_not_begun hfirst, hothers]
  rfl

/-- **A variable fills its own places and no others.**  This is so in a text that is partly filled,
if the variable has no place in the text when everything is filled. -/
theorem replaceAll_flatMap_render (hname : IsBraceFree name) {filled : List String} {value : Value}
    {ps : List Piece} (hbraces : ∀ other value', .place other value' ∈ ps → IsBraceFree other)
    (hvalue : ∀ value', .place name value' ∈ ps → value' = value)
    (hfinal : Text.contains (placeholder name) (ps.flatMap Piece.fill) = false) :
    Text.replaceAll (placeholder name) value.text.toList (ps.flatMap (Piece.render filled)) =
      ps.flatMap (Piece.render (name :: filled)) := by
  induction ps with
  | nil => rw [List.flatMap_nil, List.flatMap_nil, Text.replaceAll]
  | cons piece ps ih =>
    have hrest :=
      ih (fun other value' hmem => hbraces other value' (List.mem_cons_of_mem piece hmem))
      (fun value' hmem => hvalue value' (List.mem_cons_of_mem piece hmem))
    rw [List.flatMap_cons] at hfinal
    have hbehind := hrest (Text.contains_append_eq_false hfinal)
    rw [List.flatMap_cons, List.flatMap_cons]
    cases piece with
    | kept c => exact (replaceAll_append_of_contains hname hfinal).trans (congrArg _ hbehind)
    | place other value' =>
      by_cases hfilled : other ∈ filled
      · rw [Piece.render, Piece.render, if_pos hfilled, if_pos (List.mem_cons_of_mem name hfilled)]
        exact (replaceAll_append_of_contains hname hfinal).trans (congrArg _ hbehind)
      · rw [Piece.render, if_neg hfilled]
        by_cases hsame : name = other
        · subst hsame
          obtain rfl := hvalue value' List.mem_cons_self
          have hplace : placeholder name ≠ [] := List.cons_ne_nil _ _
          rw [Piece.render, if_pos List.mem_cons_self, Text.replaceAll_append_self hplace, hbehind]
        · have hother : IsBraceFree other := hbraces other value' List.mem_cons_self
          have hunfilled : other ∉ name :: filled := by
            rw [List.mem_cons, not_or]
            exact ⟨fun h => hsame h.symm, hfilled⟩
          rw [Piece.render, if_neg hunfilled,
            replaceAll_placeholder_append hname hother hsame, hbehind]

/-! ## All variables, in any order -/

/-- Variables fill a text at once: no name has a brace that could be mistaken for one of its place,
and the text with all places filled has no place left. -/
structure FillsAtOnce (vars : List (String × Value)) (text : List Char) : Prop where
  names : ∀ entry ∈ vars, IsBraceFree entry.1
  final : ∀ entry ∈ vars, Text.contains (placeholder entry.1) (fillOnce vars text) = false

instance (vars : List (String × Value)) (text : List Char) : Decidable (FillsAtOnce vars text) :=
  decidable_of_iff ((∀ entry ∈ vars, IsBraceFree entry.1) ∧
      ∀ entry ∈ vars, Text.contains (placeholder entry.1) (fillOnce vars text) = false)
    ⟨fun h => ⟨h.1, h.2⟩, fun h => ⟨h.names, h.final⟩⟩

/-- From a text that is partly filled on, each variable fills its own places. -/
theorem substituteAll_flatMap_render (hnodup : (vars.map Prod.fst).Nodup)
    (h : FillsAtOnce vars text) (horder : order ⊆ vars) (filled : List String) :
    substituteAll order ((pieces vars text).flatMap (Piece.render filled)) =
      (pieces vars text).flatMap (Piece.render ((order.map Prod.fst).reverse ++ filled)) := by
  induction order generalizing filled with
  | nil => rfl
  | cons entry order ih =>
    have hentry : entry ∈ vars := horder List.mem_cons_self
    have hbraces : ∀ other value, .place other value ∈ pieces vars text → IsBraceFree other :=
      fun other value hplace =>
      h.names (other, value) (mem_of_place_mem_pieces hplace)
    have hvalue : ∀ value, .place entry.1 value ∈ pieces vars text → value = entry.2 :=
      fun value hplace =>
      congrArg Prod.snd
        (List.inj_on_of_nodup_map hnodup (mem_of_place_mem_pieces hplace) hentry rfl)
    show substituteAll order (Text.replaceAll _ _ _) = _
    rw [replaceAll_flatMap_render (h.names entry hentry) hbraces hvalue (h.final entry hentry),
      ih fun other hother => horder (List.mem_cons_of_mem entry hother), List.map_cons,
      List.reverse_cons, List.append_assoc, List.singleton_append]

/-- **Where the result has no place left, putting variables into a text is filling all places at
once**, in whatever order the variables are enumerated. -/
theorem substituteAll_of_fillsAtOnce (hnodup : (vars.map Prod.fst).Nodup) (horder : order.Perm vars)
    (h : FillsAtOnce vars text) : substituteAll order text = fillOnce vars text := by
  have hrender := substituteAll_flatMap_render hnodup h horder.subset []
  rw [flatMap_render_pieces] at hrender
  rw [hrender, fillOnce]
  refine flatMap_render_eq_fill fun name value hplace => ?_
  have hmem : (name, value) ∈ order := horder.mem_iff.mpr (mem_of_place_mem_pieces hplace)
  rw [List.append_nil, List.mem_reverse]
  exact List.mem_map_of_mem (f := Prod.fst) hmem

end

/-! ## Saving -/

theorem substituteIn_of_fillsAtOnce {vars : Variables} {order : List (String × Value)}
    {text : String} (horder : order.Perm vars.toList) (h : FillsAtOnce vars.toList text.toList) :
    substituteIn order text = String.ofList (fillOnce vars.toList text.toList) := by
  rw [substituteIn, substituteAll_of_fillsAtOnce vars.nodup_keys horder h]

/-- Saving begins with the texts, and goes on with them where there is a store. -/
theorem run_saveInOrder (enumerate : Variables → List (String × Value))
    (ports : PortSet) (a : Action) (vars : Variables) :
    (Handler.saveInOrder enumerate ports a).run vars =
      if ports.records then
        (Handler.saveText ports a
          (substituteIn (enumerate vars) ((a.metaText? "search_value").getD ""))
          (substituteIn (enumerate vars) ((a.metaText? "save_value").getD ""))).run vars
      else .done (.error (.portMissing "record store"), vars) := by
  have hpure : ∀ next : Unit → Handling Outcome, (pure () >>= next : Handling Outcome).run vars =
      (next ()).run vars :=
    fun _ => rfl
  have hvars : ∀ next : Variables → Handling Outcome,
      (Handling.getVariables >>= next).run vars = (next vars).run vars := fun _ => rfl
  have hfail : ∀ next : Unit → Handling Outcome,
      (Handling.fail (.portMissing "record store") >>= next).run vars =
      .done (.error (.portMissing "record store"), vars) := fun _ => rfl
  rw [Handler.saveInOrder, Handler.requireStore, Handling.requirePort]
  by_cases hrecords : ports.records = true
  · rw [if_pos hrecords, if_pos hrecords, hpure, hvars]
  · rw [if_neg hrecords, if_neg hrecords, hfail]

/-- **Saving does not depend on the order of the variables**, where they fill the text that is
searched for and the text that is saved at once.  Both are then the texts with all places filled,
and saving is the same program: whatever is in the tables, it updates the same record with the same
text and leaves the same variables. -/
theorem save_in_any_order (enumerate : Variables → List (String × Value))
    (enumeration : Enumeration)
    (vars : Variables) (ports : PortSet) (a : Action) (horder : (enumerate vars).Perm vars.toList)
    (hatonce : ∀ key ∈ ["search_value", "save_value"],
      FillsAtOnce vars.toList ((a.metaText? key).getD "").toList) :
    (∀ key ∈ ["search_value", "save_value"],
      substituteIn (enumerate vars) ((a.metaText? key).getD "") =
      String.ofList (fillOnce vars.toList ((a.metaText? key).getD "").toList)) ∧
    (Handler.saveInOrder enumerate ports a).run vars =
      (Handler.dbSave enumeration ports a).run vars := by
  have hfilled : ∀ {order : List (String × Value)}, order.Perm vars.toList →
      ∀ key ∈ ["search_value", "save_value"], substituteIn order ((a.metaText? key).getD "") =
        String.ofList (fillOnce vars.toList ((a.metaText? key).getD "").toList) :=
          fun horder key hkey =>
    substituteIn_of_fillsAtOnce horder (hatonce key hkey)
  refine ⟨hfilled horder, ?_⟩
  have hsame : ∀ key ∈ ["search_value", "save_value"],
      substituteIn (enumerate vars) ((a.metaText? key).getD "") =
      substituteIn (enumeration.entries vars) ((a.metaText? key).getD "") := fun key hkey =>
    (hfilled horder key hkey).trans (hfilled (enumeration.perm vars) key hkey).symm
  have hsearch := hsame "search_value" (by decide)
  have hsave := hsame "save_value" (by decide)
  rw [Handler.dbSave, run_saveInOrder, run_saveInOrder, hsearch, hsave]

/-- An action that saves what one text says in the records that another one names. -/
def savingOf (searchValue saveValue : String) : Action :=
  ((((((Action.new "1" .dbSave "").withMeta "database" (.string "T")).withMeta "search_column"
    (.string "k")).withMeta
    "search_value" (.string searchValue)).withMeta "update_column"
      (.string "v")).withMeta "save_value"
    (.string saveValue))

/-- Two variables that do not name each other. -/
def plainVariables : Variables :=
  (Dictionary.empty.insert "name" (.string "alice")).insert "code" (.nat 7)

/-- They may be put into the texts backwards. -/
theorem save_in_any_order_of_plain :
    let a := savingOf "\x7bname\x7d" "\x7bname\x7d has \x7bcode\x7d (\x7bmissing\x7d)"
    let backwards : Variables → List (String × Value) := fun vars => vars.toList.reverse
    (backwards plainVariables).Perm plainVariables.toList ∧
      (∀ key ∈ ["search_value", "save_value"],
        FillsAtOnce plainVariables.toList ((a.metaText? key).getD "").toList) ∧
      substituteIn (backwards plainVariables) ((a.metaText? "save_value").getD "") =
        "alice has 7 (\x7bmissing\x7d)" ∧
      (Handler.saveInOrder backwards .everything a).run plainVariables =
        (Handler.dbSave .byName .everything a).run plainVariables := by
  intro a backwards
  have horder : (backwards plainVariables).Perm plainVariables.toList := List.reverse_perm _
  have hatonce : ∀ key ∈ ["search_value", "save_value"],
      FillsAtOnce plainVariables.toList ((a.metaText? key).getD "").toList := by decide +kernel
  obtain ⟨hfilled, hsame⟩ :=
    save_in_any_order backwards .byName plainVariables .everything a horder hatonce
  refine ⟨horder, hatonce, ?_, hsame⟩
  rw [hfilled "save_value" (by decide)]
  decide +kernel

/-- Two variables of which one names the other. -/
def nestedVariables : Variables :=
  (Dictionary.empty.insert "a" (.string "\x7bb\x7d")).insert "b" (.string "x")

/-- A table with a record for each of the two texts. -/
def nestedStage : Stage Recorder where
  devices :=
    { tables := Dictionary.empty.insert "T"
        ⟨["k", "v"], [Dictionary.empty.insert "k" (.string "x"),
          Dictionary.empty.insert "k" (.string "\x7bb\x7d")]⟩ }
  registry := .standard .byName .everything {}

/-- **Saving depends on the order of the variables** where one of them names another: of two orders
of the same variables, one updates the first record and the other one the second, and they leave
different values behind. -/
theorem save_depends_on_order :
    let a := savingOf "\x7ba\x7d" "\x7ba\x7d"
    let backwards : Variables → List (String × Value) := fun vars => vars.toList.reverse
    let saved (enumerate : Variables → List (String × Value)) :=
      Stage.play Recorder.devices
        ((Handler.saveInOrder enumerate .everything a).run nestedVariables) nestedStage
    let updated (enumerate : Variables → List (String × Value)) :=
      ((saved enumerate).2.devices.tables.find? "T").map fun table =>
        table.data.map fun record => (record.find? "v").map Value.text
    let last (enumerate : Variables → List (String × Value)) :=
      ((saved enumerate).1.2.find? "db_last_saved_value").map Value.text
    (backwards nestedVariables).Perm nestedVariables.toList ∧
      updated Dictionary.toList = some [some "x", none] ∧ last Dictionary.toList = some "x" ∧
      updated backwards = some [none, some "\x7bb\x7d"] ∧ last backwards = some "\x7bb\x7d" := by
  refine ⟨List.reverse_perm _, ?_, ?_, ?_, ?_⟩ <;> decide +kernel

end ActionBoard
