import ActionBoard.Handler.Basic
import ActionBoard.Text.Split

/-!
# Pressing keys

A key descriptor names one key, or several keys to be pressed together, joined by plus signs.  The
plus key itself is written as a lone plus sign.
-/

namespace ActionBoard.Handler

/-- The keys of a descriptor.  White space around the keys of a combination does not count; where
nothing is left, the descriptor is the name of one key. -/
def combination (descriptor : String) : List String :=
  if descriptor.toList.contains '+' then
    match ((Text.splitAt '+' descriptor.toList).map Text.trim).filter (!·.isEmpty) with
    | [] => [descriptor]
    | keys => keys.map String.ofList
  else
    [descriptor]

/-- Presses the keys of a descriptor, several of them together. -/
def pressKeys : List String → Handling Unit
  | [key] => Handling.device (.press key)
  | keys => Handling.device (.pressTogether keys)

/-- Presses the key or the combination of the action. -/
def press (ports : PortSet) (a : Action) : Handling Outcome := do
  Handling.requirePort ports.keys "keyboard"
  let descriptor ← Handling.require (a.key.filter (!·.isEmpty)) .keyMissing
  pressKeys (combination descriptor)
  return .succeeded a ("pressed " ++ descriptor)

end ActionBoard.Handler
