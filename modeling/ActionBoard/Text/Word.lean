import ActionBoard.Text.Blank
import ActionBoard.Text.WordTable
import ActionBoard.Text.DigitTable

/-!
# Words, digits and letters without regard to case

Names in scripts are words, version numbers are made of digits, and a few directives are recognised
whatever the case of their letters.  All three classes follow Unicode, so that `ä`, `٣` or `名` take
part in them.  The characters of ASCII are told apart directly; only what lies beyond is looked up.
-/

namespace ActionBoard.Text

def isAsciiLetter (c : Char) : Bool :=
  ('a' ≤ c && c ≤ 'z') || ('A' ≤ c && c ≤ 'Z')

def isAsciiDigit (c : Char) : Bool :=
  '0' ≤ c && c ≤ '9'

/-- A letter, mark, decimal digit, connector or joiner. -/
def isWord (c : Char) : Bool :=
  isAsciiLetter c || isAsciiDigit c || c == '_'
    || (0x80 ≤ c.toNat
        && inRanges (wordRangesFirst ++ wordRangesSecond ++ wordRangesThird ++ wordRangesFourth)
            c.toNat)

/-- A character that may begin a name: a letter of ASCII or the underscore. -/
def startsName (c : Char) : Bool :=
  isAsciiLetter c || c == '_'

/-- A decimal digit of any script. -/
def isDigit (c : Char) : Bool :=
  isAsciiDigit c || (0x80 ≤ c.toNat && inRanges digitRanges c.toNat)

/-- The small form of a letter of ASCII; any other character is kept. -/
def asciiLower (c : Char) : Char :=
  if 'A' ≤ c && c ≤ 'Z' then Char.ofNat (c.toNat + 32) else c

/-- Whether `c` is the small letter `letter` of ASCII in either case.  Simple case folding takes two
characters beyond ASCII into the classes of `s` and `k`: the long s and the Kelvin sign. -/
def sameLetter (letter c : Char) : Bool :=
  asciiLower c == letter || (letter == 's' && c == '\u017F') || (letter == 'k' && c == '\u212A')

/-- What follows the word at the start of the text, compared without regard to case. -/
def dropWord? : List Char → List Char → Option (List Char)
  | [], text => some text
  | letter :: word, c :: text => if sameLetter letter c then dropWord? word text else none
  | _ :: _, [] => none

end ActionBoard.Text
