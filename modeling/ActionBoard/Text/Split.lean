/-!
# Splitting at a character

A text of `n` separators has `n + 1` parts, some of which may be empty; joining the parts with the
separator gives the text back (`intercalate_splitAt`).
-/

namespace ActionBoard.Text

/-- The parts of a text between the separators. -/
def splitAt (separator : Char) : List Char → List (List Char)
  | [] => [[]]
  | c :: rest =>
    if c == separator then
      [] :: splitAt separator rest
    else
      match splitAt separator rest with
      | [] => [[c]]
      | part :: parts => (c :: part) :: parts

theorem splitAt_eq_splitOn (separator : Char) (text : List Char) :
    splitAt separator text = text.splitOn separator := by
  induction text with
  | nil => rfl
  | cons c rest ih =>
    rw [splitAt, List.splitOn_cons_eq_if_modifyHead, ih]
    split
    · rfl
    · cases h : rest.splitOn separator with
      | nil => exact absurd h (List.splitOn_ne_nil separator rest)
      | cons part parts => rfl

theorem splitAt_ne_nil (separator : Char) (text : List Char) : splitAt separator text ≠ [] := by
  rw [splitAt_eq_splitOn]
  exact List.splitOn_ne_nil separator text

/-- The parts, joined by the separator, are the text. -/
theorem intercalate_splitAt (separator : Char) (text : List Char) :
    [separator].intercalate (splitAt separator text) = text := by
  rw [splitAt_eq_splitOn, List.intercalate_splitOn]

/-- Parts without a separator in them are those of the text that they are joined to. -/
theorem splitAt_intercalate {separator : Char} {parts : List (List Char)} (hne : parts ≠ [])
    (h : ∀ part ∈ parts, separator ∉ part) :
    splitAt separator ([separator].intercalate parts) = parts := by
  rw [splitAt_eq_splitOn, List.splitOn_intercalate separator h hne]

/-- No part has a separator in it. -/
theorem notMem_of_mem_splitAt {separator : Char} :
    ∀ {text part : List Char}, part ∈ splitAt separator text → separator ∉ part
  | [], part, h => by
    rw [splitAt, List.mem_singleton] at h
    simp [h]
  | c :: rest, part, h => by
    rw [splitAt] at h
    by_cases hc : c = separator
    · rw [if_pos (beq_iff_eq.2 hc)] at h
      rcases List.mem_cons.1 h with rfl | h
      · exact List.not_mem_nil
      · exact notMem_of_mem_splitAt h
    · rw [if_neg (mt beq_iff_eq.1 hc)] at h
      cases eq : splitAt separator rest with
      | nil => exact absurd eq (splitAt_ne_nil separator rest)
      | cons first parts =>
        rw [eq] at h
        rcases List.mem_cons.1 h with rfl | h
        · have : separator ∉ first := notMem_of_mem_splitAt (eq ▸ List.mem_cons_self)
          exact fun member => (List.mem_cons.1 member).elim (fun e => hc e.symm) this
        · exact notMem_of_mem_splitAt (eq ▸ List.mem_cons_of_mem _ h)

end ActionBoard.Text
