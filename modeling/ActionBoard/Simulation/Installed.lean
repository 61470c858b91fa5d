import ActionBoard.Simulation.Machine
import ActionBoard.Simulation.Shell.Evaluation

/-!
# Installed programs

A few programs that a described machine may have, first of all a shell (`Shell.Evaluation`).  A file
that is executable may also name its interpreter in its first line.
-/

namespace ActionBoard

namespace Programs

/-- The programs that are installed. -/
def installed : Programs := fun start =>
  Shell.launch start.program start.arguments
    { name := start.program
      arguments := start.arguments
      limit := start.limit
      directory := start.directory
      tree := start.tree
      vars := start.environment
      exported := start.environment.map Prod.fst }

/-- The content of the file of an installed program, which is no text. -/
def machineCode : ByteArray :=
  ⟨#[0x7F, 0x45, 0x4C, 0x46, 0xFF]⟩

/-- A tree with nothing but the installed programs. -/
def bareTree : FileTree :=
  let directories : List Location := [["bin"], ["usr"], ["usr", "bin"], ["dev"], ["tmp"]]
  ⟨directories.map (·, .directory) ++ [(["dev", "null"], .file .empty false)]
    ++ Shell.installed.map fun entry => (entry.1, .file machineCode true)⟩

end Programs

end ActionBoard
