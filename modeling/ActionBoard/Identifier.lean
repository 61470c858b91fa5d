import ActionBoard.Time

/-!
# Generated identifiers

A new board, row or action that is given no identifier gets one that is generated.  It begins with
what it identifies, and then has 26 digits to the base 32: ten for the millisecond in which it was
made and sixteen for a number, so that identifiers sort by time.

A stamp holds what the generation depends on.  The numbers count up from a first one, so no two
identifiers from one stamp are equal.
-/

namespace ActionBoard

/-- The digits to the base 32, without the letters that are mistaken for others. -/
def base32Digits : List Char :=
  "0123456789abcdefghjkmnpqrstvwxyz".toList

/-- The last `places` digits of a number to the base 32. -/
def base32 : Nat → Nat → List Char
  | 0, _ => []
  | places + 1, n => base32 places (n / 32) ++ [base32Digits.getD (n % 32) '0']

/-- What new things are marked with. -/
structure Stamp where
  now : UtcTime
  /-- Milliseconds since the beginning of 1970. -/
  milliseconds : Nat
  /-- The number of the running process. -/
  process : Nat
  /-- The number of the first identifier. -/
  first : Nat

namespace Stamp

/-- The `index`-th identifier of a kind. -/
def identifier (stamp : Stamp) (kind : String) (index : Nat) : String :=
  kind ++ "_"
    ++ String.ofList (base32 10 stamp.milliseconds ++ base32 16 (stamp.first + index))

/-- The identifier of a board that is made from a script. -/
def scriptBoardId (stamp : Stamp) : String :=
  "script_" ++ Text.natText stamp.process

end Stamp

end ActionBoard
