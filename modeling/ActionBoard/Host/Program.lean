import ActionBoard.Dialogue
import ActionBoard.Host.Basic

/-!
# Programs on a host

A program whose questions are requests to the host.  What it does depends on the host only through
the answers, and it changes nothing but by asking for it.
-/

namespace ActionBoard

/-- A program that asks its host. -/
abbrev HostProgram := Dialogue HostRequest.Answer

namespace HostProgram

/-- The text of a file. -/
def readText (path : String) : HostProgram (Except FileError String) :=
  .ask (.readFile path) fun answer => .done <|
    match answer with
    | .error e => .error e
    | .ok bytes => (String.fromUTF8? bytes).elim (.error .notText) .ok

/-- The value of an environment variable. -/
def environmentVariable (name : String) : HostProgram (Option String) :=
  .question (HostRequest.environmentVariable name)

def realLocation (path : String) : HostProgram (Option Location) :=
  .question (HostRequest.realLocation path)

def workingDirectory : HostProgram (Option Location) :=
  .question HostRequest.workingDirectory

def isFile (path : String) : HostProgram Bool :=
  .question (HostRequest.isFile path)

/-- The route to where a path leads: to the real location, if everything on the way exists, and
otherwise the one that the parts of the path spell.  It begins at the root, unless the path does not
and there is no working directory. -/
def resolve (path : String) : HostProgram Route := do
  match ← realLocation path with
  | some location => return .ofLocation location
  | none =>
    if Path.isRooted path then return Route.here.follow path
    else return (((← workingDirectory).map Route.ofLocation).getD .here).follow path

/-- The first of some paths that leads to a file. -/
def firstFile? : List String → HostProgram (Option String)
  | [] => return none
  | path :: rest => do if ← isFile path then return some path else firstFile? rest

/-- Makes the directory that a path names something in, unless that is where one is.  An error comes
with the path of that directory. -/
def makeParent (path : String) : HostProgram (Except (String × FileError) Unit) :=
  match Path.parent? path with
  | none => .done (.ok ())
  | some parent =>
    if parent.isEmpty then .done (.ok ())
    else .ask (.makeDirectories parent) fun answer => .done (answer.mapError (parent, ·))

end HostProgram

end ActionBoard
