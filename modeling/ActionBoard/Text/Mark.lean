import ActionBoard.Text.Blank

/-!
# Byte order marks

A text in a file may begin with a mark that tells the order of its bytes.  It is not a part of the
text, but neither is it white space.
-/

namespace ActionBoard.Text

/-- The mark that may stand at the start of a text to tell the order of its bytes. -/
def byteOrderMark : Char := '\uFEFF'

/-- The text without byte order marks at its start. -/
def withoutMarks (text : List Char) : List Char :=
  stripStart (· == byteOrderMark) text

end ActionBoard.Text
