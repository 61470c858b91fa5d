import ActionBoard.Action.Kind
import ActionBoard.Geometry

/-!
# Actions

An action is one step of a board.  What every action has are fields of their own; the parameters of
a particular kind travel in the metadata, under names that only the handler of that kind knows.
-/

namespace ActionBoard

/-- The parameters of an action that belong to its kind. -/
abbrev Metadata := Dictionary Value

/-- A single step. -/
structure Action where
  id : String
  kind : ActionKind
  /-- The label shown in results. -/
  name : String
  /-- A disabled action is never dispatched. -/
  enabled : Bool
  /-- Milliseconds to wait before the dispatch. -/
  delayBefore : UInt64
  /-- Milliseconds that dispatch and following wait take at least. -/
  delayAfter : UInt64
  /-- How often a loop turns that does not say it in its metadata. -/
  repeatCount : UInt32
  coordinates : Option Coordinates
  color : Option Color
  /-- The name of the mouse button. -/
  button : String
  /-- A key, or several keys joined by plus signs. -/
  key : Option String
  metadata : Metadata

namespace Action

def defaultButton : String := "left"

/-- An enabled action with no more than an identifier, a kind and a name. -/
def new (id : String) (kind : ActionKind) (name : String) : Action :=
  { id, kind, name, enabled := true, delayBefore := 0, delayAfter := 0, repeatCount := 1
    coordinates := none, color := none, button := defaultButton, key := none, metadata := ∅ }

def withId (a : Action) (id : String) : Action :=
  { a with id }

def withCoordinates (a : Action) (at_ : Coordinates) : Action :=
  { a with coordinates := some at_ }

def withColor (a : Action) (color : Color) : Action :=
  { a with color := some color }

def withKey (a : Action) (key : String) : Action :=
  { a with key := some key }

def withButton (a : Action) (button : String) : Action :=
  { a with button }

def withDelays (a : Action) (before after : UInt64) : Action :=
  { a with delayBefore := before, delayAfter := after }

/-- The action with one more metadata entry. -/
def withMeta (a : Action) (key : String) (value : Value) : Action :=
  { a with metadata := a.metadata.insert key value }

def disabled (a : Action) : Action :=
  { a with enabled := false }

end Action

end ActionBoard
