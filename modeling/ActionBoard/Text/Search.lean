/-!
# Finding and replacing parts of a text

A part is searched from left to right, and the places that are replaced do not overlap.  What a
replacement brings into the text is not searched again.
-/

namespace ActionBoard.Text

/-- Whether a part occurs in a text. -/
def contains (part : List Char) : List Char → Bool
  | [] => part.isEmpty
  | c :: rest => part.isPrefixOf (c :: rest) || contains part rest

theorem contains_iff_isInfix {part text : List Char} :
    contains part text = true ↔ part <:+: text := by
  induction text with
  | nil => rw [contains, List.isEmpty_iff, List.infix_nil]
  | cons c rest ih =>
    rw [contains, Bool.or_eq_true, List.isPrefixOf_iff_prefix, ih, List.infix_cons_iff]

/-- All places of a part replaced; the empty part has none. -/
def replaceAll (part replacement : List Char) (text : List Char) : List Char :=
  match text with
  | [] => []
  | c :: rest =>
    match part.isPrefixOf? (c :: rest) with
    | some behind =>
      if behind.length < (c :: rest).length then
        replacement ++ replaceAll part replacement behind
      else
        c :: replaceAll part replacement rest
    | none => c :: replaceAll part replacement rest
termination_by text.length
decreasing_by all_goals (simp only [List.length_cons] at *; omega)

end ActionBoard.Text
