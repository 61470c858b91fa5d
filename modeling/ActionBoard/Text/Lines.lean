/-!
# Lines of a text

A text is cut after every line feed.  The line feed itself is dropped, and so is one carriage
return directly before it.  A last piece without a line feed is a line of its own unless it is
empty, so a text that ends in a line feed has no empty line after it.

Lines that are written one after the other, each with a line feed behind it, are the lines of that
text (`lines_flatMap`).
-/

namespace ActionBoard.Text

/-- The line without one carriage return at its end. -/
def dropReturn (line : List Char) : List Char :=
  if line.getLast? = some '\r' then line.dropLast else line

/-- The lines of the text behind the characters already read of the current line, in reverse. -/
def linesFrom : List Char → List Char → List (List Char)
  | [], [] => []
  | [], read => [read.reverse]
  | c :: rest, read =>
    if c = '\n' then dropReturn read.reverse :: linesFrom rest [] else linesFrom rest (c :: read)

/-- The lines of a text. -/
def lines (text : List Char) : List (List Char) :=
  linesFrom text []

@[simp] theorem lines_nil : lines [] = [] := rfl

theorem linesFrom_append {line : List Char} (h : '\n' ∉ line) (rest read : List Char) :
    linesFrom (line ++ '\n' :: rest) read = dropReturn (read.reverse ++ line) :: lines rest := by
  induction line generalizing read with
  | nil => simp [linesFrom, lines]
  | cons c line ih =>
    obtain ⟨hne, hline⟩ : '\n' ≠ c ∧ '\n' ∉ line := by simpa using h
    simp [linesFrom, hne.symm, ih hline]

/-- A text up to its first line feed is its first line. -/
theorem lines_append {line : List Char} (h : '\n' ∉ line) (rest : List Char) :
    lines (line ++ '\n' :: rest) = dropReturn line :: lines rest :=
  linesFrom_append h rest []

/-- Lines with a line feed behind each of them are the lines of that text. -/
theorem lines_flatMap {texts : List (List Char)} (h : ∀ line ∈ texts, '\n' ∉ line)
    (hreturn : ∀ line ∈ texts, line.getLast? ≠ some '\r') :
    lines (texts.flatMap fun line => line ++ ['\n']) = texts := by
  induction texts with
  | nil => rfl
  | cons line rest ih =>
    have hkept : dropReturn line = line := if_neg (hreturn line List.mem_cons_self)
    rw [List.flatMap_cons, List.append_assoc, List.singleton_append,
      lines_append (h line List.mem_cons_self), hkept,
      ih (fun other hother => h other (List.mem_cons_of_mem line hother)) fun other hother =>
        hreturn other (List.mem_cons_of_mem line hother)]

end ActionBoard.Text
