import MessageFlow.Analysis
import MessageFlow.Analysis.Source
import MessageFlow.Command.Arguments
import MessageFlow.Command.Execute
import MessageFlow.Command.Log
import MessageFlow.Decimal.Shortest
import MessageFlow.Decimal.Spelling
import MessageFlow.Diagram.Document
import MessageFlow.Diagram.Dot
import MessageFlow.Diagram.Escape
import MessageFlow.Diagram.Layout
import MessageFlow.Diagram.Palette
import MessageFlow.Diagram.Selection
import MessageFlow.Diagram.Settings
import MessageFlow.Diagram.Target
import MessageFlow.Fault
import MessageFlow.FileTree.Basic
import MessageFlow.FileTree.Change
import MessageFlow.FileTree.Fault
import MessageFlow.FileTree.Path
import MessageFlow.FileTree.Walk
import MessageFlow.Found
import MessageFlow.Graph.Basic
import MessageFlow.Graph.Derived
import MessageFlow.Graph.Join
import MessageFlow.Graph.Walk
import MessageFlow.Handler
import MessageFlow.Host.Basic
import MessageFlow.Host.Program
import MessageFlow.Host.Session
import MessageFlow.Json.Fault
import MessageFlow.Json.Number
import MessageFlow.Json.Skip
import MessageFlow.Json.Text
import MessageFlow.Json.Value
import MessageFlow.Main
import MessageFlow.Manifest.Basic
import MessageFlow.Manifest.Collect
import MessageFlow.Manifest.Format
import MessageFlow.Message
import MessageFlow.Name
import MessageFlow.Observation.Kind
import MessageFlow.Observation.Map
import MessageFlow.Observation.Set
import MessageFlow.Power
import MessageFlow.Proofs.Graph.Join
import MessageFlow.Proofs.Graph.Obtainable
import MessageFlow.Proofs.Graph.Operations
import MessageFlow.Proofs.Graph.Part
import MessageFlow.Proofs.Graph.Walk
import MessageFlow.Proofs.Observation.Map
import MessageFlow.Proofs.Roster
import MessageFlow.Proofs.Snapshot.Acceptance
import MessageFlow.Proofs.Snapshot.Grammar
import MessageFlow.Proofs.Snapshot.RoundTrip
import MessageFlow.Roster
import MessageFlow.Script.Arithmetic
import MessageFlow.Script.Builtin
import MessageFlow.Script.Condition
import MessageFlow.Script.Evaluate
import MessageFlow.Script.Expand
import MessageFlow.Script.FileTools
import MessageFlow.Script.Format
import MessageFlow.Script.Glob
import MessageFlow.Script.Grammar
import MessageFlow.Script.Opening
import MessageFlow.Script.Redirect
import MessageFlow.Script.Run
import MessageFlow.Script.State
import MessageFlow.Script.TextTools
import MessageFlow.Script.Tool
import MessageFlow.Script.Word
import MessageFlow.Settings.Basic
import MessageFlow.Settings.Format
import MessageFlow.Settings.Load
import MessageFlow.Snapshot.Digest
import MessageFlow.Snapshot.Envelope
import MessageFlow.Snapshot.Fault
import MessageFlow.Snapshot.Payload
import MessageFlow.Snapshot.Store
import MessageFlow.Snapshot.Varint
import MessageFlow.Text.Alphanumeric
import MessageFlow.Text.Blank
import MessageFlow.Text.Literal
import MessageFlow.Text.Pattern
import MessageFlow.Text.Printable
import MessageFlow.Text.Upper
import MessageFlow.Text.Utf8
import MessageFlow.Toml.Document
import MessageFlow.Toml.Lexical
import MessageFlow.Toml.Number
import MessageFlow.Toml.Text
import MessageFlow.Toml.Value
import MessageFlow.Proofs.Manifest.Tables
import MessageFlow.Proofs.Observation.Set
import MessageFlow.Proofs.Manifest.Records
import MessageFlow.Proofs.Manifest.Graph
import MessageFlow.Proofs.Diagram.Content
import MessageFlow.Proofs.Manifest.Collect
import MessageFlow.Proofs.Diagram.Escape
import MessageFlow.Proofs.Diagram.Markup
import MessageFlow.Proofs.Diagram.Scanner
import MessageFlow.Proofs.Diagram.Reading
import MessageFlow.Proofs.Diagram.Drawing
import MessageFlow.Proofs.Observation.Precedence
import MessageFlow.Proofs.Graph.Growth
import MessageFlow.Proofs.Graph.History
import MessageFlow.Proofs.Graph.Indexed
import MessageFlow.Proofs.Graph.Agreement
import MessageFlow.Proofs.Graph.IndexedObtainable
import MessageFlow.Proofs.Snapshot.Canonical
import MessageFlow.Proofs.FileTree.Change
import MessageFlow.Proofs.Snapshot.Store
import MessageFlow.Proofs.Host.Looking
import MessageFlow.Proofs.Command.Phase
import MessageFlow.Proofs.Diagram.Writing
import MessageFlow.Proofs.Command.Steps
import MessageFlow.Proofs.Command.Failure
import MessageFlow.Proofs.Host.Calm
import MessageFlow.Proofs.Command.Calm
import MessageFlow.Proofs.Command.Stored
import MessageFlow.Proofs.Command.Repeat
import MessageFlow.Proofs.Snapshot.Damage
import MessageFlow.Proofs.Graph.Preorder
import MessageFlow.Proofs.Diagram.Palette
import MessageFlow.Proofs.Diagram.Selection
import MessageFlow.Proofs.Host.Warnings
import MessageFlow.Proofs.Settings
import MessageFlow.Proofs.Command.Drawing
import MessageFlow.Proofs.Observation.Merge
import MessageFlow.Proofs.Graph.Unconsumed
import MessageFlow.Proofs.Manifest.Groups
import MessageFlow.Proofs.FileTree.Walk
import MessageFlow.Proofs.Manifest.Order
import MessageFlow.Proofs.Manifest.Directory
import MessageFlow.Proofs.Graph.InterModule
import MessageFlow.Proofs.Graph.Regroup
import MessageFlow.Proofs.Graph.Rewalk
import MessageFlow.Proofs.Diagram.Rank
import MessageFlow.Proofs.Manifest.Depth
import MessageFlow.Proofs.Snapshot.Words
import MessageFlow.Proofs.Diagram.Identity
import MessageFlow.Proofs.Diagram.Coloring
import MessageFlow.Proofs.Manifest.Text
import MessageFlow.Proofs.Name.Cuts
import MessageFlow.Proofs.Diagram.Delimiters
