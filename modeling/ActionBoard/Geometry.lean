import ActionBoard.Json.Typed
import ActionBoard.Text.Numeral

/-!
# Points, regions and colors of the screen

Coordinates have 32 bits with a sign, sizes 32 bits without, channels of a color 8 bits.  A color
carries a tolerance, and another color matches it when every channel on its own is within that
tolerance; a pixel that is off by the whole tolerance on all three channels still matches.
-/

namespace ActionBoard

/-- A point of the screen. -/
structure Coordinates where
  x : Int32
  y : Int32
  deriving DecidableEq

/-- A number comes back from a word with a sign exactly if it fits in there. -/
theorem toInt_ofInt_eq_self_iff (x : Int) : (Int32.ofInt x).toInt = x ↔ -0x80000000 ≤ x ∧
    x < 0x80000000 := by
  rw [Int32.toInt_ofInt, Int32.size, Int.bmod]
  omega

/-- The point as it is shown in messages. -/
def Coordinates.text (at_ : Coordinates) : String :=
  "(" ++ Text.intText at_.x.toInt ++ ", " ++ Text.intText at_.y.toInt ++ ")"

/-- A rectangle of the screen. -/
structure Region where
  x : Int32
  y : Int32
  width : UInt32
  height : UInt32
  deriving DecidableEq

/-- The color of a pixel, with the tolerance that other colors are compared with. -/
structure Color where
  red : UInt8
  green : UInt8
  blue : UInt8
  tolerance : UInt8
  deriving DecidableEq

namespace Color

def defaultTolerance : UInt8 := 10

/-- A color with the default tolerance. -/
def rgb (red green blue : UInt8) : Color :=
  ⟨red, green, blue, defaultTolerance⟩

/-- The distance of two channels. -/
def distance (a b : UInt8) : Nat :=
  ((a.toNat : Int) - b.toNat).natAbs

/-- Whether every channel of the other color is within the tolerance of this one. -/
def accepts (target other : Color) : Bool :=
  distance target.red other.red ≤ target.tolerance.toNat
    && distance target.green other.green ≤ target.tolerance.toNat
    && distance target.blue other.blue ≤ target.tolerance.toNat

theorem distance_self (a : UInt8) : distance a a = 0 := by
  simp [distance]

theorem distance_comm (a b : UInt8) : distance a b = distance b a := by
  unfold distance
  omega

/-- A color matches itself, whatever its tolerance. -/
theorem accepts_self (c : Color) : c.accepts c = true := by
  simp [accepts, distance_self]

end Color

/-! ## As JSON -/

namespace Coordinates

def ofJson? (json : Json) : Option Coordinates := do
  let fields ← Fields.ofJson? ["x", "y"] json
  some ⟨← fields.required "x" Json.int32?, ← fields.required "y" Json.int32?⟩

def toJson (at_ : Coordinates) : Json :=
  .object [("x", .int (.ofInt32 at_.x)), ("y", .int (.ofInt32 at_.y))]

end Coordinates

namespace Region

def toJson (region : Region) : Json :=
  .object
    [("x", .int (.ofInt32 region.x)), ("y", .int (.ofInt32 region.y)),
      ("width", .nat region.width.toNat), ("height", .nat region.height.toNat)]

end Region

namespace Color

def ofJson? (json : Json) : Option Color := do
  let fields ← Fields.ofJson? ["r", "g", "b", "tolerance"] json
  some
    ⟨← fields.required "r" Json.word8?, ← fields.required "g" Json.word8?,
      ← fields.required "b" Json.word8?,
      ← fields.withDefault "tolerance" Json.word8? defaultTolerance⟩

def toJson (color : Color) : Json :=
  .object
    [("r", .nat color.red.toNat), ("g", .nat color.green.toNat), ("b", .nat color.blue.toNat),
      ("tolerance", .nat color.tolerance.toNat)]

end Color

end ActionBoard
