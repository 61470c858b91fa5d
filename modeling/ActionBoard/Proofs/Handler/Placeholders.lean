import ActionBoard.Proofs.Handler.Substitution
import Mathlib.Data.List.TakeWhile

/-!
# Places of variables that are filled once

Putting one variable into a text after the other is filling all places in one pass, where
nothing that is put in can make a new place.  The variables here have no braces in their names
or values, and no opening brace of the text is followed by another one before it is closed.
Then a brace of the result is a brace of the text, and what stands between the two braces of a
place in the result is what stood there in the text: a place that was filled in between would
have had an opening brace of its own.

* `bracedName?`: the place that a text begins with, whatever the variables are.
* `fillNamed`: the text with the places of variables filled in one pass.
* `BracesApart`: the texts whose braces do not nest.
* `fillsAtOnce_of_bracesApart`: such a text has no place left when it is filled, so one round is
  enough.
* `substituteIn_of_bracesApart`: what the variables make of it, in any order.
-/

namespace ActionBoard

/-! ## One pass over a text -/

/-- A character that is no brace. -/
def isUnbraced (c : Char) : Bool :=
  c != '{' && c != '}'

/-- The name in braces that a text begins with, which has no brace in it, and what is behind it. -/
def bracedName? : List Char → Option (String × List Char)
  | '{' :: rest =>
    match rest.dropWhile isUnbraced with
    | '}' :: behind => some (String.ofList (rest.takeWhile isUnbraced), behind)
    | _ => none
  | _ => none

/-- The value of the variable whose place a text begins with, and what is behind this place. -/
def namedValue? (vars : Variables) (text : List Char) : Option (Value × List Char) :=
  (bracedName? text).bind fun place => (vars.find? place.1).map fun value => (value, place.2)

variable {vars : Variables} {order : List (String × Value)} {name : String} {value : Value}
  {text front rest behind : List Char} {c : Char}

theorem isBraceFree_iff : IsBraceFree name ↔ ∀ c ∈ name.toList, isUnbraced c = true := by
  constructor
  · rintro ⟨hopening, hclosing⟩ c hc
    have hne : c ≠ '{' ∧ c ≠ '}' := ⟨fun h => hopening (h ▸ hc), fun h => hclosing (h ▸ hc)⟩
    simpa [isUnbraced] using hne
  · intro h
    exact ⟨fun hmem => absurd (h _ hmem) (by decide), fun hmem => absurd (h _ hmem) (by decide)⟩

theorem bracedName?_eq_some : bracedName? text = some (name, behind) ↔
    text = placeholder name ++ behind ∧ IsBraceFree name := by
  rw [isBraceFree_iff]
  constructor
  · intro h
    unfold bracedName? at h
    split at h
    · rename_i rest
      split at h
      · rename_i hdrop
        cases h
        have hrest : rest = rest.takeWhile isUnbraced ++ '}' :: behind := by
          rw [← hdrop, List.takeWhile_append_dropWhile]
        refine ⟨?_, fun c hc => ?_⟩
        · conv_lhs => rw [hrest]
          simp [placeholder]
        · rw [String.toList_ofList] at hc
          exact List.mem_takeWhile_imp hc
      · cases h
    · cases h
  · rintro ⟨rfl, hname⟩
    have htext : placeholder name ++ behind = '{' :: (name.toList ++ '}' :: behind) := by
      simp [placeholder]
    have htake : (name.toList ++ '}' :: behind).takeWhile isUnbraced = name.toList := by
      rw [List.takeWhile_append_of_pos hname, List.takeWhile_cons_of_neg (by decide),
        List.append_nil]
    have hdrop : (name.toList ++ '}' :: behind).dropWhile isUnbraced = '}' :: behind := by
      rw [List.dropWhile_append_of_pos hname, List.dropWhile_cons_of_neg (by decide)]
    rw [htext]
    simp [bracedName?, htake, hdrop]

/-- A text begins with the place of a variable where it begins with its name in braces. -/
theorem namedValue?_eq_some : namedValue? vars text = some (value, behind) ↔
    ∃ name, IsBraceFree name ∧ vars.find? name = some value ∧
      text = placeholder name ++ behind := by
  constructor
  · intro h
    obtain ⟨⟨name, rest⟩, hplace, hvalue⟩ := Option.bind_eq_some_iff.mp h
    obtain ⟨found, hfound, hsame⟩ := Option.map_eq_some_iff.mp hvalue
    cases hsame
    obtain ⟨htext, hname⟩ := bracedName?_eq_some.mp hplace
    exact ⟨name, hname, hfound, htext⟩
  · rintro ⟨name, hname, hvalue, htext⟩
    rw [namedValue?, bracedName?_eq_some.mpr ⟨htext, hname⟩, Option.bind_some, hvalue,
      Option.map_some]

theorem length_lt_of_namedValue? (h : namedValue? vars text = some (value, behind)) :
    behind.length < text.length := by
  obtain ⟨name, -, -, rfl⟩ := namedValue?_eq_some.mp h
  rw [placeholder, List.length_append, List.length_append, List.length_cons]
  omega

/-- The text with every place of a variable filled, in one pass from left to right.  All other
characters are kept, also those of places that belong to no variable. -/
def fillNamed (vars : Variables) (text : List Char) : List Char :=
  match text with
  | [] => []
  | c :: rest =>
    match _hplace : namedValue? vars (c :: rest) with
    | some (value, behind) => value.text.toList ++ fillNamed vars behind
    | none => c :: fillNamed vars rest
termination_by text.length
decreasing_by
  · exact length_lt_of_namedValue? _hplace
  · exact Nat.lt_succ_self rest.length

/-! ## Variables without braces -/

/-- What is found under a name is its entry. -/
theorem Variables.find?_eq_some_iff : vars.find? name = some value ↔ (name, value) ∈ vars.toList :=
  ⟨mem_of_lookupEntry,
    fun hmem => lookupEntry_of_mem hmem (length_filter_le_one vars.nodup_keys name)⟩

/-- Where no name has a brace, both ways of finding a place find the same ones. -/
theorem placeAt?_eq_namedValue? (hnames : ∀ entry ∈ vars.toList, IsBraceFree entry.1)
    (text : List Char) :
    (placeAt? vars.toList text).map (fun place => (place.1.2, place.2)) =
      namedValue? vars text := by
  cases hplace : placeAt? vars.toList text with
  | some place =>
    obtain ⟨⟨name, value⟩, behind⟩ := place
    obtain ⟨hmem, htext⟩ := eq_append_of_placeAt? hplace
    exact (namedValue?_eq_some.mpr ⟨name, hnames _ hmem,
      Variables.find?_eq_some_iff.mpr hmem, htext⟩).symm
  | none =>
    symm
    rw [Option.map_none, Option.eq_none_iff_forall_ne_some]
    rintro ⟨value, behind⟩ hnamed
    obtain ⟨name, -, hvalue, htext⟩ := namedValue?_eq_some.mp hnamed
    have hnone :=
      List.findSome?_eq_none_iff.mp hplace (name, value) (Variables.find?_eq_some_iff.mp hvalue)
    have hsome : (placeholder name).isPrefixOf? text = some behind :=
      List.isPrefixOf?_eq_some_iff_append_eq.mpr htext.symm
    rw [hsome] at hnone
    cases hnone

theorem fillOnce_eq_fillNamed (hnames : ∀ entry ∈ vars.toList, IsBraceFree entry.1)
    (text : List Char) : fillOnce vars.toList text = fillNamed vars text := by
  rw [fillOnce]
  fun_induction pieces vars.toList text with
  | case1 => rw [fillNamed, List.flatMap_nil]
  | case2 c rest entry behind hplace ih =>
    have hnamed : namedValue? vars (c :: rest) = some (entry.2, behind) := by
      rw [← placeAt?_eq_namedValue? hnames, hplace, Option.map_some]
    rw [List.flatMap_cons, ih, fillNamed]
    split
    · rename_i value behind' hsome
      rw [hnamed] at hsome
      cases hsome
      rfl
    · rename_i hnone
      rw [hnamed] at hnone
      cases hnone
  | case3 c rest hnone ih =>
    have hnamed : namedValue? vars (c :: rest) = none := by
      rw [← placeAt?_eq_namedValue? hnames, hnone, Option.map_none]
    rw [List.flatMap_cons, ih, fillNamed]
    split
    · rename_i value behind hsome
      rw [hnamed] at hsome
      cases hsome
    · rfl

/-! ## Braces that do not nest -/

/-- No opening brace of the text is followed by another one before the next closing brace,
if there is any. -/
def BracesApart : List Char → Prop
  | [] => True
  | c :: rest => (c = '{' → '}' ∈ rest → '{' ∉ rest.takeWhile (· ≠ '}')) ∧ BracesApart rest

instance decidableBracesApart : (text : List Char) → Decidable (BracesApart text)
  | [] => isTrue trivial
  | c :: rest =>
    have := decidableBracesApart rest
    inferInstanceAs (Decidable ((c = '{' → '}' ∈ rest → '{' ∉ rest.takeWhile (· ≠ '}')) ∧
      BracesApart rest))

theorem BracesApart.of_append (h : BracesApart (front ++ rest)) : BracesApart rest := by
  induction front with
  | nil => exact h
  | cons c front ih => exact ih h.2

theorem contains_append_of_notMem {part : List Char} (h : c ∉ front) (rest : List Char) :
    Text.contains (c :: part) (front ++ rest) = Text.contains (c :: part) rest := by
  induction front with
  | nil => rfl
  | cons other front ih =>
    obtain ⟨hne, hfront⟩ : c ≠ other ∧ c ∉ front := by simpa using h
    rw [List.cons_append, Text.contains, ih hfront]
    simp [hne]

/-- What has no braces and stands in front of a closing brace when the text is filled, stood there
before; or else a place was filled, which had an opening brace. -/
theorem prefix_of_prefix_fillOnce {entries : List (String × Value)}
    (hfree : '{' ∉ front ∧ '}' ∉ front)
    (h : front ++ ['}'] <+: fillOnce entries text) :
    front ++ ['}'] <+: text ∨ ('}' ∈ text ∧ '{' ∈ text.takeWhile (· ≠ '}')) := by
  rw [fillOnce] at h
  fun_induction pieces entries text generalizing front with
  | case1 => exact absurd (List.prefix_nil.mp h) (by simp)
  | case2 c rest entry behind hplace ih =>
    refine .inr ?_
    rw [(eq_append_of_placeAt? hplace).2]
    simp [placeholder]
  | case3 c rest hnone ih =>
    have hkept : front ++ ['}'] <+: c :: (pieces entries rest).flatMap Piece.fill := h
    cases front with
    | nil =>
      obtain ⟨rfl, -⟩ := List.cons_prefix_cons.mp hkept
      exact .inl (List.cons_prefix_cons.mpr ⟨rfl, List.nil_prefix⟩)
    | cons d front =>
      obtain ⟨rfl, hrest⟩ := List.cons_prefix_cons.mp hkept
      obtain ⟨⟨-, hopening⟩, hne, hclosing⟩ :
          (¬ '{' = d ∧ '{' ∉ front) ∧ ¬ '}' = d ∧ '}' ∉ front := by simpa using hfree
      rcases ih ⟨hopening, hclosing⟩ hrest with hbegins | ⟨hclosed, hopened⟩
      · exact .inl (List.cons_prefix_cons.mpr ⟨rfl, hbegins⟩)
      · refine .inr ⟨List.mem_cons_of_mem d hclosed, ?_⟩
        rw [List.takeWhile_cons_of_pos (by simpa using Ne.symm hne)]
        exact List.mem_cons_of_mem d hopened

/-- **A text whose braces do not nest has no place left** when it is filled with values
without braces. -/
theorem contains_fillOnce_of_bracesApart {entries : List (String × Value)} {entry : String × Value}
    (hentry : entry ∈ entries) (hname : IsBraceFree entry.1)
    (hvalues : ∀ other ∈ entries, IsBraceFree other.2.text) (htext : BracesApart text) :
    Text.contains (placeholder entry.1) (fillOnce entries text) = false := by
  rw [fillOnce]
  fun_induction pieces entries text with
  | case1 => rfl
  | case2 c rest other behind hplace ih =>
    obtain ⟨hother, hrest⟩ := eq_append_of_placeAt? hplace
    rw [hrest] at htext
    exact (contains_append_of_notMem (hvalues other hother).1 _).trans (ih htext.of_append)
  | case3 c rest hnone ih =>
    show Text.contains _ (c :: (pieces entries rest).flatMap Piece.fill) = false
    rw [Text.contains, ih htext.2, Bool.or_false, ← Bool.not_eq_true, List.isPrefixOf_iff_prefix]
    intro hbegins
    obtain ⟨rfl, hbehind⟩ := List.cons_prefix_cons.mp hbegins
    rcases prefix_of_prefix_fillOnce hname hbehind with ⟨behind, hrest⟩ | ⟨hclosed, hopened⟩
    · -- the text begins with the place of the variable, which is then no kept character
      have hsome : (placeholder entry.1).isPrefixOf? ('{' :: rest) = some behind :=
        List.isPrefixOf?_eq_some_iff_append_eq.mpr (congrArg (List.cons '{') hrest)
      have hunplaced := List.findSome?_eq_none_iff.mp hnone entry hentry
      rw [hsome] at hunplaced
      cases hunplaced
    · exact htext.1 rfl hclosed hopened

/-- **One round is enough** for a text whose braces do not nest. -/
theorem fillsAtOnce_of_bracesApart {entries : List (String × Value)}
    (hplain : ∀ entry ∈ entries, IsBraceFree entry.1 ∧ IsBraceFree entry.2.text)
    (htext : BracesApart text) : FillsAtOnce entries text where
  names := fun entry hentry => (hplain entry hentry).1
  final := fun entry hentry => contains_fillOnce_of_bracesApart hentry (hplain entry hentry).1
    (fun other hother => (hplain other hother).2) htext

/-! ## Variables in a text -/

/-- **Variables are put into a text in one pass**, in whatever order they are enumerated:
every place of a variable, wherever it is, becomes the text of its value, and all else stays
as it is.  This is so for variables without braces in their names and values, in a text whose
braces do not nest. -/
theorem substituteIn_of_bracesApart {vars : Variables} {order : List (String × Value)}
    {text : String} (horder : order.Perm vars.toList)
    (hplain : ∀ entry ∈ vars.toList, IsBraceFree entry.1 ∧ IsBraceFree entry.2.text)
    (htext : BracesApart text.toList) :
    substituteIn order text = String.ofList (fillNamed vars text.toList) := by
  rw [substituteIn_of_fillsAtOnce horder (fillsAtOnce_of_bracesApart hplain htext),
    fillOnce_eq_fillNamed fun entry hentry => (hplain entry hentry).1]

/-- Places of variables and of others, one of them twice, and braces that open or close nothing. -/
theorem substituteIn_of_bracesApart_backwards :
    let text := "\x7d\x7bname\x7d has \x7bcode\x7d\x7bcode\x7d\x7d (\x7bmissing\x7d) \x7bname"
    let order := plainVariables.toList.reverse
    order.Perm plainVariables.toList ∧
      (∀ entry ∈ plainVariables.toList, IsBraceFree entry.1 ∧ IsBraceFree entry.2.text) ∧
      BracesApart text.toList ∧ substituteIn order text =
        "\x7dalice has 77\x7d (\x7bmissing\x7d) \x7bname" := by
  intro text order
  have horder : order.Perm plainVariables.toList := List.reverse_perm _
  have hplain : ∀ entry ∈ plainVariables.toList, IsBraceFree entry.1 ∧
      IsBraceFree entry.2.text := by decide +kernel
  have htext : BracesApart text.toList := by decide +kernel
  refine ⟨horder, hplain, htext, ?_⟩
  rw [substituteIn_of_bracesApart horder hplain htext]
  decide +kernel

end ActionBoard
