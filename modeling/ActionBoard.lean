import ActionBoard.Action.Metadata
import ActionBoard.Action.Outcome
import ActionBoard.Configuration.Document
import ActionBoard.Device.Faults
import ActionBoard.Main
import ActionBoard.Simulation.Installed
import ActionBoard.Simulation.Scene
import ActionBoard.Proofs.Engine.Interleaving
import ActionBoard.Proofs.Dialogue
import ActionBoard.Proofs.Engine.Checked
import ActionBoard.Proofs.Engine.CallStack
import ActionBoard.Proofs.Engine.Overflow
import ActionBoard.Proofs.Host.RealLocation
import ActionBoard.Proofs.Runner.Containment
import ActionBoard.Proofs.Handler.Invariant
import ActionBoard.Proofs.Engine.Playing
import ActionBoard.Proofs.Engine.Inlining
import ActionBoard.Proofs.Engine.Handling
import ActionBoard.Proofs.Engine.Polling
import ActionBoard.Proofs.Engine.AnyChange
import ActionBoard.Proofs.Text.Case
import ActionBoard.Proofs.Script.Inlining
import ActionBoard.Proofs.Script.Identifiers
import ActionBoard.Proofs.Engine.Background
import ActionBoard.Proofs.Script.Argument
import ActionBoard.Proofs.Board.Document
import ActionBoard.Proofs.Script.Line
import ActionBoard.Proofs.Script.Listing
import ActionBoard.Proofs.Engine.Account
import ActionBoard.Proofs.Engine.Boundary
import ActionBoard.Proofs.Engine.SkipCount
import ActionBoard.Proofs.Engine.Rejection
import ActionBoard.Proofs.Engine.Duration
import ActionBoard.Proofs.Engine.Seeding
import ActionBoard.Proofs.Engine.Endings
import ActionBoard.Proofs.Engine.Renewal
import ActionBoard.Proofs.Script.CalledRow
import ActionBoard.Proofs.Script.Provenance
import ActionBoard.Proofs.Runner.Gate
import ActionBoard.Proofs.Handler.Atomicity
import ActionBoard.Proofs.Handler.Capture
import ActionBoard.Proofs.Handler.Substitution
import ActionBoard.Proofs.Engine.Atomicity
import ActionBoard.Proofs.Script.Layout
import ActionBoard.Proofs.Script.Parts
import ActionBoard.Proofs.Script.Dangers
import ActionBoard.Proofs.Script.SentKeys
import ActionBoard.Proofs.Script.Assignments
import ActionBoard.Proofs.Engine.Pruning
import ActionBoard.Proofs.Board.Changes
import ActionBoard.Proofs.Board.Tolerance
import ActionBoard.Proofs.Records.Update
import ActionBoard.Proofs.Records.ReadBack
import ActionBoard.Proofs.Script.Version
import ActionBoard.Proofs.Script.Colons
import ActionBoard.Proofs.Script.BareLabels
import ActionBoard.Proofs.Macro.Agreement
import ActionBoard.Proofs.Configuration.Environment
import ActionBoard.Proofs.Script.Mirroring
import ActionBoard.Proofs.Action.Metadata
import ActionBoard.Proofs.Handler.Placeholders
import ActionBoard.Proofs.Script.ArgumentList
import ActionBoard.Proofs.Shell.TimeLimit
import ActionBoard.Proofs.Shell.Pattern
import ActionBoard.Proofs.Shell.Quotes
