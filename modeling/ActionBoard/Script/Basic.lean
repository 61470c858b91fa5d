import ActionBoard.Json.Basic

/-!
# Scripts

A script declares globals, hotkeys and functions, and has commands outside of them, its top level.
Hotkeys and functions have commands of their own.  Every command remembers the line it was written
in and the text it was written as.

Declared things are kept in the order of their first declaration.  Declaring a name again replaces
what it stands for without moving it (`declare`).
-/

namespace ActionBoard

/-! ## Declarations -/

/-- Named things in the order of their first declaration. -/
abbrev Declarations (β : Type) := List (String × β)

namespace Declarations

variable {β : Type}

/-- With a name declared, or declared again in its place. -/
def declare (name : String) (value : β) : Declarations β → Declarations β
  | [] => [(name, value)]
  | (other, old) :: rest =>
    if other = name then (name, value) :: rest else (other, old) :: declare name value rest

/-- What a name stands for. -/
def find? (declarations : Declarations β) (name : String) : Option β :=
  lookupEntry name declarations

def names (declarations : Declarations β) : List String :=
  declarations.map Prod.fst

def values (declarations : Declarations β) : List β :=
  declarations.map Prod.snd

theorem mem_of_find?_eq_some {name : String} {value : β} {declarations : Declarations β}
    (h : declarations.find? name = some value) : (name, value) ∈ declarations := by
  induction declarations with
  | nil => cases h
  | cons first rest ih =>
    obtain ⟨key, old⟩ := first
    rw [find?, lookupEntry] at h
    split at h
    · subst key
      cases h
      exact List.mem_cons_self
    · exact List.mem_cons_of_mem _ (ih h)

/-- What is declared stands for something. -/
theorem exists_find?_eq_some {name : String} {declarations : Declarations β}
    (h : name ∈ declarations.names) : ∃ value, declarations.find? name = some value := by
  induction declarations with
  | nil => cases h
  | cons first rest ih =>
    obtain ⟨key, value⟩ := first
    rw [find?, lookupEntry]
    split
    · exact ⟨value, rfl⟩
    · rename_i ne
      exact ih ((List.mem_cons.1 h).resolve_left (Ne.symm ne))

theorem mem_names_declare {name other : String} {value : β} {declarations : Declarations β} :
    other ∈ (declarations.declare name value).names ↔ other = name ∨
      other ∈ declarations.names := by
  induction declarations with
  | nil => simp [declare, names]
  | cons first rest ih =>
    obtain ⟨key, old⟩ := first
    rw [declare]
    split
    · subst key
      simp [names]
    · simp only [names, List.map_cons, List.mem_cons] at ih ⊢
      rw [ih]
      constructor <;> rintro (h | h | h) <;> simp [h]

/-- Every name is declared once. -/
theorem nodup_names_declare {name : String} {value : β} {declarations : Declarations β}
    (h : declarations.names.Nodup) : (declarations.declare name value).names.Nodup := by
  induction declarations with
  | nil => simp [declare, names]
  | cons first rest ih =>
    obtain ⟨key, old⟩ := first
    have ⟨fresh, others⟩ := List.nodup_cons.1 h
    rw [declare]
    split
    · rename_i same
      exact List.nodup_cons.2 ⟨same ▸ fresh, others⟩
    · rename_i ne
      refine List.nodup_cons.2 ⟨fun member => ?_, ih others⟩
      exact (mem_names_declare.1 member).elim ne fresh

end Declarations

/-! ## Commands, functions, scripts -/

/-- A command with its arguments. -/
structure Command where
  name : String
  args : List String
  /-- The text it was written as, without comment. -/
  raw : String
  /-- The line it was written in, counted from one; zero for a command that stands in no line. -/
  line : Nat
  deriving DecidableEq

/-- A function with its parameters and its body. -/
structure Function where
  name : String
  params : List String
  body : List Command
  deriving DecidableEq

structure Script where
  /-- The version that the script requires. -/
  requires : Option String := none
  /-- Other directives as they are written. -/
  directives : List String := []
  /-- Globals with the text of their first value, which may be empty. -/
  globals : Declarations String := []
  topLevel : List Command := []
  /-- Hotkey labels with their bodies. -/
  hotkeys : Declarations (List Command) := []
  functions : Declarations Function := []
  deriving DecidableEq

namespace Script

/-- Every command: the top level, then those of the hotkeys, then those of the functions. -/
def allCommands (script : Script) : List Command :=
  script.topLevel ++ script.hotkeys.values.flatten ++ script.functions.values.flatMap Function.body

end Script

/-! ## As JSON -/

namespace Command

def toJson (c : Command) : Json :=
  .object
    [("name", .string c.name), ("args", .strings c.args), ("raw", .string c.raw),
      ("line_no", .nat c.line)]

end Command

namespace Function

def toJson (f : Function) : Json :=
  .object
    [("name", .string f.name), ("params", .strings f.params),
      ("body", .array (f.body.map Command.toJson))]

end Function

namespace Script

def toJson (script : Script) : Json :=
  let commands (cs : List Command) : Json := .array (cs.map Command.toJson)
  .object
    [("requires", Json.stringOrNull script.requires), ("directives", .strings script.directives),
      ("globals", .object (script.globals.map fun g => (g.1, .string g.2))),
      ("top_level", commands script.topLevel),
      ("hotkeys", .object (script.hotkeys.map fun h => (h.1, commands h.2))),
      ("functions", .object (script.functions.map fun f => (f.1, f.2.toJson)))]

end Script

end ActionBoard
