import ActionBoard.Host.Basic

/-!
# File trees

A file tree says what is at each location: a directory, a file or a link.  The root is a directory.

`FileTree.locate` follows a path as an operating system does.  Links are followed where they stand
on the way and at the end; a link leads on from the directory that it is in, or from the root.
Whatever is left by a step, also one to the directory above, has to be a directory.  After forty
links the way is given up.

A place for something new need not exist yet, but the way to it has to.
-/

namespace ActionBoard

/-- What may be at a location. -/
inductive FileNode where
  | directory
  | file (content : ByteArray) (executable : Bool)
  | link (target : String)

/-- What is at each location. -/
structure FileTree where
  nodes : List (Location × FileNode) := []

namespace FileTree

/-- What is at a location. -/
def node? (tree : FileTree) (location : Location) : Option FileNode :=
  if location.isEmpty then some .directory
  else (tree.nodes.find? fun entry => entry.1 == location).map Prod.snd

/-- The tree with something at a location, in place of what was there. -/
def put (tree : FileTree) (location : Location) (node : FileNode) : FileTree :=
  ⟨(location, node) :: tree.nodes.filter fun entry => entry.1 != location⟩

def isDirectoryAt (tree : FileTree) (location : Location) : Bool :=
  (tree.node? location) matches some .directory

def isFileAt (tree : FileTree) (location : Location) : Bool :=
  (tree.node? location) matches some (.file ..)

/-! ## Following paths -/

/-- How many links are followed on one way. -/
def linkLimit : Nat := 40

/-- How many bytes a name may have. -/
def nameLimit : Nat := 255

/-- Where a way begins: at the root, or where one is. -/
def startOf (location : Location) (path : String) : Location :=
  if Path.isRooted path then [] else location

/-- Follows parts from a location.  Whether the last of them may be missing is told by
`isNew`; where there is a link, `onLink` goes on from the beginning of its target with the
parts that then are left. -/
def followWith (tree : FileTree) (isNew : Bool)
    (onLink : Location → List (List Char) → Except FileError Location) (location : Location) :
    List (List Char) → Except FileError Location
  | [] => .ok location
  | part :: rest =>
    if !tree.isDirectoryAt location then .error .notDirectory
    else if part.isEmpty || part == ['.'] then followWith tree isNew onLink location rest
    else if part == ['.', '.'] then followWith tree isNew onLink location.dropLast rest
    else
      let name := String.ofList part
      let next := location ++ [name]
      if nameLimit < name.utf8ByteSize then .error .nameTooLong
      else
        match tree.node? next with
        | none => if isNew && rest.isEmpty then .ok next else .error .notFound
        | some (.link target) =>
          onLink (startOf location target) (Path.parts target ++ rest)
        | some _ => followWith tree isNew onLink next rest

/-- Follows parts from a location, and as many links as are allowed. -/
def followLinks (tree : FileTree) (isNew : Bool) :
    Nat → Location → List (List Char) → Except FileError Location
  | 0 => tree.followWith isNew fun _ _ => .error .tooManyLinks
  | links + 1 => tree.followWith isNew (tree.followLinks isNew links)

/-- Where a path leads from a directory. -/
def follow (tree : FileTree) (isNew : Bool) (start : Location) (path : String) :
    Except FileError Location :=
  if path.isEmpty then .error .notFound
  else if path.toList.contains '\x00' then .error .nullCharacter
  else tree.followLinks isNew linkLimit (startOf start path) (Path.parts path)

/-- The location of something that exists. -/
def locate (tree : FileTree) (start : Location) (path : String) : Except FileError Location :=
  tree.follow false start path

/-! ## Files -/

/-- The directory that a path names something in. -/
def directoryOf (path : String) : String :=
  match Path.parent? path with
  | none => path
  | some parent => if parent.isEmpty then "." else parent

/-- The content of a file. -/
def read (tree : FileTree) (start : Location) (path : String) : Except FileError ByteArray := do
  match tree.node? (← tree.locate start path) with
  | some (.file content _) => .ok content
  | some .directory => .error .isDirectory
  | _ => .error .notFound

/-- Whether a path leads to a file. -/
def isFile (tree : FileTree) (start : Location) (path : String) : Bool :=
  match tree.locate start path with
  | .ok location => tree.isFileAt location
  | .error _ => false

/-- Whether a path leads to a directory. -/
def isDirectory (tree : FileTree) (start : Location) (path : String) : Bool :=
  match tree.locate start path with
  | .ok location => tree.isDirectoryAt location
  | .error _ => false

/-- Where a path leads for a file to be written.  A path that ends in a slash leads to a
directory. -/
def writingPlace (tree : FileTree) (start : Location) (path : String) :
    Except FileError Location :=
  if path.toList.getLast? == some '/' then do
    let _ ← tree.locate start (directoryOf path)
    .error .isDirectory
  else tree.follow true start path

/-- With a file of the given content where a path leads. -/
def write (tree : FileTree) (start : Location) (path content : String) :
    Except FileError FileTree := do
  let location ← tree.writingPlace start path
  match tree.node? location with
  | some .directory => .error .isDirectory
  | some (.file _ executable) => .ok (tree.put location (.file content.toUTF8 executable))
  | _ => .ok (tree.put location (.file content.toUTF8 false))

/-! ## Directories -/

/-- With a new directory.  A link at its place is not followed. -/
def makeDirectory (tree : FileTree) (start : Location) (path : String) :
    Except FileError FileTree := do
  match Path.fileName? path with
  | some part =>
    let above ← tree.locate start (directoryOf path)
    let name := String.ofList part
    if !tree.isDirectoryAt above then .error .notDirectory
    else if nameLimit < name.utf8ByteSize then .error .nameTooLong
    else if (tree.node? (above ++ [name])).isSome then .error .exists
    else .ok (tree.put (above ++ [name]) .directory)
  | none =>
    let _ ← tree.locate start path
    .error .exists

/-- With a directory and those above it that are missing, of which there are fewer than `fuel`. -/
def makeDirectoriesUp (tree : FileTree) (start : Location) (path : String) :
    Nat → Except FileError FileTree
  | 0 => .error .notFound
  | fuel + 1 =>
    let ensure (tree : FileTree) : Except FileError FileTree :=
      match tree.makeDirectory start path with
      | .ok tree => .ok tree
      | .error e => if tree.isDirectory start path then .ok tree else .error e
    if path.isEmpty then .ok tree
    else
      match ensure tree with
      | .error .notFound =>
        match Path.parent? path with
        | none => .error .notFound
        | some parent => do ensure (← tree.makeDirectoriesUp start parent fuel)
      | result => result

/-- With a directory, and with those above it that are missing. -/
def makeDirectories (tree : FileTree) (start : Location) (path : String) :
    Except FileError FileTree :=
  tree.makeDirectoriesUp start path (path.length + 1)

end FileTree

end ActionBoard
