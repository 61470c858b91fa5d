import ActionBoard.Host.FileTree
import ActionBoard.Host.Program

/-!
# Described machines

A machine that is only described: a file tree, the directory one is in, environment variables, and
what the programs do that are started on it.  It answers whatever a program asks its host, so what a
program does on it can be computed.
-/

namespace ActionBoard

/-- The start of a program on a machine, which is given some milliseconds. -/
structure Launch where
  program : String
  arguments : List String
  limit : Nat
  directory : Location
  tree : FileTree
  environment : List (String × String)

/-- What programs do: what is known of one when it has ended and what it has made of the files, or
why it could not be started. -/
abbrev Programs := Launch → Except FileError (ProcessReport × FileTree)

/-- A description of a machine. -/
structure Machine where
  tree : FileTree
  directory : Location
  environment : List (String × String) := []
  programs : Programs

namespace Machine

/-- How a machine answers, and how it is afterwards. -/
def answer : (request : HostRequest) → Machine → request.Answer × Machine
  | .readFile path, m => (m.tree.read m.directory path, m)
  | .realLocation path, m => ((m.tree.locate m.directory path).toOption, m)
  | .workingDirectory, m => (some m.directory, m)
  | .isFile path, m => (m.tree.isFile m.directory path, m)
  | .environmentVariable name, m => (m.environment.lookup name, m)
  | .makeDirectories path, m =>
    match m.tree.makeDirectories m.directory path with
    | .ok tree => (.ok (), { m with tree })
    | .error e => (.error e, m)
  | .writeFile path content, m =>
    match m.tree.write m.directory path content with
    | .ok tree => (.ok (), { m with tree })
    | .error e => (.error e, m)
  | .launch program script limit, m =>
    match m.programs ⟨program, [script], limit, m.directory, m.tree, m.environment⟩ with
    | .ok (report, tree) => (.ok report, { m with tree })
    | .error e => (.error e, m)

end Machine

end ActionBoard
