import ActionBoard.Handler.Standard

/-!
# Registries of handlers

A registry has at most one handler for every kind.  Handlers can be replaced at any time, also while
a board runs; an action is executed by the handler that its kind has when the action is dispatched.
-/

namespace ActionBoard

/-- Which handler executes the actions of a kind, if there is one. -/
structure Registry where
  handler? : ActionKind → Option Handler

namespace Registry

def empty : Registry :=
  ⟨fun _ => none⟩

/-- The standard handler for every kind. -/
def standard (enumeration : Enumeration) (ports : PortSet) (settings : EngineSettings) : Registry :=
  ⟨fun kind => some (Handler.standard enumeration ports settings kind)⟩

/-- With the handler of a kind added or replaced. -/
def register (registry : Registry) (kind : ActionKind) (handler : Handler) : Registry :=
  ⟨fun other => if other = kind then some handler else registry.handler? other⟩

/-- The kinds that have a handler, in their order. -/
def kinds (registry : Registry) : List ActionKind :=
  ActionKind.all.filter fun kind => (registry.handler? kind).isSome

theorem handler?_register_self (registry : Registry) (kind : ActionKind) (handler : Handler) :
    (registry.register kind handler).handler? kind = some handler := by
  simp [register]

theorem handler?_register_of_ne (registry : Registry) {kind other : ActionKind} (handler : Handler)
    (h : other ≠ kind) : (registry.register kind handler).handler? other =
      registry.handler? other := by
  simp [register, h]

/-- The registry on one line, for diagnosis: its kinds in the order of their names. -/
def describe (registry : Registry) : String :=
  let names := (registry.kinds.map ActionKind.name).mergeSort (· ≤ ·)
  let quoted := names.map fun name => "\"" ++ name ++ "\""
  "HandlerRegistry \x7b kinds: [" ++ ", ".intercalate quoted ++ "] \x7d"

end Registry

end ActionBoard
