import ActionBoard.Text.Split

/-!
# Paths and locations

A path is a text of parts with slashes between them.  It begins at the root if it begins with a
slash, and otherwise wherever the reader of the path happens to be.  Empty parts mean nothing, and
neither do parts that are a single dot, except one at the very beginning: `./a` and `a` are two
paths to the same place.

A location is a place in the tree of files, given by the names on the way from the root.  A path
without links leads to the location that one gets by following its parts one by one
(`Location.follow`); where there are links it need not.

Of where one is nobody may know.  A path that begins there is then followed from there all the same,
and what one gets is a route rather than a location.
-/

namespace ActionBoard

namespace Path

/-- Whether a path begins at the root. -/
def isRooted (path : String) : Bool :=
  path.toList.head? == some '/'

/-- The parts of a path, with the meaningless ones. -/
def parts (path : String) : List (List Char) :=
  Text.splitAt '/' path.toList

/-- The path that is read from a base; one that begins at the root does not depend on it. -/
def join (base path : String) : String :=
  if isRooted path || base.isEmpty then path
  else if base.toList.getLast? == some '/' then base ++ path
  else base ++ "/" ++ path

/-- Parts in reverse, without the meaningless ones in front. -/
def dropMeaningless : List (List Char) → List (List Char)
  | [] => []
  | [first] => if first.isEmpty then [] else [first]
  | part :: rest =>
    if part.isEmpty || part == ['.'] then dropMeaningless rest else part :: rest

/-- The path without its last part, if it has one. -/
def parent? (path : String) : Option String :=
  match dropMeaningless (parts path).reverse with
  | [] => none
  | _ :: before =>
    match dropMeaningless before with
    | [] => some (if isRooted path then "/" else "")
    | kept => some (String.ofList (['/'].intercalate kept.reverse))

/-- The last part of a path, if it is a name. -/
def fileName? (path : String) : Option (List Char) :=
  match dropMeaningless (parts path).reverse with
  | [] => none
  | part :: _ => if part == ['.'] || part == ['.', '.'] then none else some part

/-- What stands behind the last dot of the file name, unless that dot is its first character. -/
def extension? (path : String) : Option (List Char) :=
  (fileName? path).bind fun name =>
    match name.reverse.dropWhile (· != '.') with
    | _ :: _ :: _ => some (name.reverse.takeWhile (· != '.')).reverse
    | _ => none

/-- Whether a path has an extension, in letters of either case. -/
def hasExtension (path : String) (extension : String) : Bool :=
  (extension? path).any fun own => own.map Char.toLower == extension.toList

end Path

/-- A place in the tree of files: the names on the way from the root. -/
abbrev Location := List String

namespace Location

/-- One part of a path further.  The place above the root is the root. -/
def step (location : Location) (part : List Char) : Location :=
  if part.isEmpty || part == ['.'] then location
  else if part == ['.', '.'] then location.dropLast
  else location ++ [String.ofList part]

/-- Where the parts of a path lead if none of them is a link. -/
def follow (start : Location) (path : String) : Location :=
  (Path.parts path).foldl step (if Path.isRooted path then [] else start)

/-- The path to a location from the root. -/
def path (location : Location) : String :=
  "/" ++ "/".intercalate location

/-- Whether a location is the given root or lies below it. -/
def isWithin (location root : Location) : Bool :=
  root.isPrefixOf location

end Location

/-- Names to be followed one by one, from the root or from wherever one is. -/
structure Route where
  isRooted : Bool
  names : List String
  deriving DecidableEq

namespace Route

/-- The route to a location from the root. -/
def ofLocation (location : Location) : Route :=
  ⟨true, location⟩

/-- The route that goes nowhere. -/
def here : Route :=
  ⟨false, []⟩

/-- Where the parts of a path lead behind a route if none of them is a link.  Nothing is above the
beginning of a route. -/
def follow (start : Route) (path : String) : Route :=
  ⟨start.isRooted || Path.isRooted path, Location.follow start.names path⟩

/-- The path that is followed on a route. -/
def path (route : Route) : String :=
  if route.isRooted then Location.path route.names else "/".intercalate route.names

/-- Whether a route begins with the given one, part by part; the root is the first part of one
that begins there. -/
def isWithin (route root : Route) : Bool :=
  if root.isRooted then route.isRooted && Location.isWithin route.names root.names
  else root.names.isEmpty || (!route.isRooted && Location.isWithin route.names root.names)

@[simp]
theorem path_ofLocation (location : Location) : (ofLocation location).path = location.path := rfl

@[simp]
theorem isWithin_ofLocation (location root : Location) :
    (ofLocation location).isWithin (ofLocation root) = location.isWithin root := rfl

@[simp]
theorem ofLocation_follow (location : Location) (path : String) :
    (ofLocation location).follow path = ofLocation (Location.follow location path) := rfl

/-- Where a path that begins at the root leads does not depend on where one is. -/
theorem follow_of_isRooted {path : String} (h : Path.isRooted path = true) (start : Route)
    (location : Location) : start.follow path = ofLocation (Location.follow location path) := by
  rw [follow, ofLocation, h, Bool.or_true, Location.follow, Location.follow, if_pos h, if_pos h]

end Route

end ActionBoard
