import ActionBoard.Text.Blank

/-!
# Quoted texts

A text in quotes for diagnosis: quotes and backslashes have a backslash before them, and characters
that would not be seen are written by their numbers.
-/

namespace ActionBoard.Text

/-- Characters that change others or are not seen, without those of ASCII. -/
def unseenRanges : List (Nat × Nat) :=
  [(0x80, 0xA0), (0xAD, 0xAD), (0x300, 0x36F), (0x483, 0x489), (0x591, 0x5BD), (0x610, 0x61C),
    (0x64B, 0x65F), (0x1680, 0x1680), (0x180B, 0x180F), (0x1AB0, 0x1ACE), (0x1DC0, 0x1DFF),
    (0x2000, 0x200F), (0x2028, 0x202F), (0x205F, 0x206F), (0x20D0, 0x20F0), (0x3000, 0x3000),
    (0x302A, 0x302F), (0xE000, 0xF8FF), (0xFE00, 0xFE0F), (0xFE20, 0xFE2F), (0xFEFF, 0xFEFF),
    (0xFFF0, 0xFFFB), (0xFFFE, 0xFFFF), (0xE0000, 0x10FFFF)]

/-- The digits of a number to the base 16, of which there are at most `places`. -/
def hexadecimal : Nat → Nat → List Char
  | 0, _ => []
  | places + 1, n =>
    (if n < 16 then [] else hexadecimal places (n / 16))
      ++ ["0123456789abcdef".toList.getD (n % 16) '0']

/-- A character between quotes. -/
def quotedChar (c : Char) : List Char :=
  if c == '\x00' then ['\\', '0']
  else if c == '\t' then ['\\', 't']
  else if c == '\n' then ['\\', 'n']
  else if c == '\r' then ['\\', 'r']
  else if c == '"' || c == '\'' || c == '\\' then ['\\', c]
  else if c.toNat < 0x20 || c.toNat == 0x7F || inRanges unseenRanges c.toNat then
    "\\u\x7b".toList ++ hexadecimal 8 c.toNat ++ "\x7d".toList
  else [c]

/-- A text in quotes. -/
def quoted (text : String) : String :=
  String.ofList ('"' :: text.toList.flatMap quotedChar ++ ['"'])

end ActionBoard.Text
