import EditorBridge.Command.Activate
import EditorBridge.Command.Format
import EditorBridge.Command.FormatAll
import EditorBridge.Command.Install
import EditorBridge.Command.Overview
import EditorBridge.Command.Program
import EditorBridge.Config
import EditorBridge.Decimal.Binary64
import EditorBridge.Decimal.Digits
import EditorBridge.Decimal.Places
import EditorBridge.Decimal.Reader
import EditorBridge.Decimal.Shortest
import EditorBridge.Document
import EditorBridge.Error
import EditorBridge.Machine.Basic
import EditorBridge.Machine.Fault
import EditorBridge.Machine.Launch
import EditorBridge.Machine.Tree
import EditorBridge.Machine.Walk
import EditorBridge.Main
import EditorBridge.Outcome
import EditorBridge.Overview.Fence
import EditorBridge.Overview.Uri
import EditorBridge.Path
import EditorBridge.Proofs.Command.Cleaning
import EditorBridge.Proofs.Program.Hosts
import EditorBridge.Proofs.Program.Ways
import EditorBridge.Session.Basic
import EditorBridge.Session.History
import EditorBridge.Session.Journal
import EditorBridge.Session.Script
import EditorBridge.Session.Stage
import EditorBridge.Settings
import EditorBridge.Settings.File
import EditorBridge.Settings.Reader
import EditorBridge.Shell.Act
import EditorBridge.Shell.Arithmetic
import EditorBridge.Shell.Builtin
import EditorBridge.Shell.Builtin.Directory
import EditorBridge.Shell.Builtin.Jobs
import EditorBridge.Shell.Builtin.Mask
import EditorBridge.Shell.Builtin.Names
import EditorBridge.Shell.Builtin.Options
import EditorBridge.Shell.Builtin.Parameters
import EditorBridge.Shell.Builtin.Printf
import EditorBridge.Shell.Builtin.Quoting
import EditorBridge.Shell.Builtin.Signals
import EditorBridge.Shell.Builtin.Table
import EditorBridge.Shell.Callee
import EditorBridge.Shell.Condition
import EditorBridge.Shell.Descriptor
import EditorBridge.Shell.Expansion
import EditorBridge.Shell.Field
import EditorBridge.Shell.Field.Files
import EditorBridge.Shell.Fork
import EditorBridge.Shell.Frame
import EditorBridge.Shell.Invocation
import EditorBridge.Shell.Loop
import EditorBridge.Shell.Numeral
import EditorBridge.Shell.Pattern
import EditorBridge.Shell.Printing.Escape
import EditorBridge.Shell.Printing.Layout
import EditorBridge.Shell.Printing.Real
import EditorBridge.Shell.Process
import EditorBridge.Shell.Raw
import EditorBridge.Shell.Reader.Grammar
import EditorBridge.Shell.Reader.Problem
import EditorBridge.Shell.Reader.Scan
import EditorBridge.Shell.Reader.Token
import EditorBridge.Shell.Reader.Word
import EditorBridge.Shell.Redirect
import EditorBridge.Shell.Run
import EditorBridge.Shell.Schedule
import EditorBridge.Shell.Signal
import EditorBridge.Shell.Syntax
import EditorBridge.Shell.System
import EditorBridge.Shell.Tools
import EditorBridge.Shell.Tools.Cat
import EditorBridge.Shell.Tools.Echo
import EditorBridge.Shell.Tools.Environment
import EditorBridge.Shell.Tools.MakeDirectory
import EditorBridge.Shell.Tools.Options
import EditorBridge.Shell.Tools.Printf
import EditorBridge.Shell.Tools.Pwd
import EditorBridge.Shell.Tools.Quoting
import EditorBridge.Shell.Tools.Remove
import EditorBridge.Shell.Tools.Sleep
import EditorBridge.Shell.Trace
import EditorBridge.Shell.Variables
import EditorBridge.Shell.World
import EditorBridge.Terminal.Arguments
import EditorBridge.Terminal.Buffers
import EditorBridge.Terminal.CommandLine
import EditorBridge.Terminal.Host
import EditorBridge.Terminal.Operation
import EditorBridge.Text.Blank
import EditorBridge.Text.Hidden
import EditorBridge.Text.Json
import EditorBridge.Text.Quoted
import EditorBridge.Text.Utf8
import EditorBridge.Toml.Table
import EditorBridge.Toml.Number
import EditorBridge.Toml.Reader
import EditorBridge.Toml.Strings
import EditorBridge.Tool.Arguments
import EditorBridge.Tool.Call
import EditorBridge.Tool.Options
import EditorBridge.Tool.Status
import EditorBridge.Proofs.Command.Pool
import EditorBridge.Proofs.Command.Interleaving
import EditorBridge.Proofs.Command.Telling
import EditorBridge.Proofs.Session.Notifications
import EditorBridge.Proofs.Terminal.InputFilter
import EditorBridge.Proofs.Path.Directory
import EditorBridge.Proofs.Command.Mixture
import EditorBridge.Proofs.Command.Spawning
import EditorBridge.Proofs.Tool.Lookup
import EditorBridge.Proofs.Session.Spawning
import EditorBridge.Proofs.Command.Consent
import EditorBridge.Proofs.Session.Installing
import EditorBridge.Proofs.Command.Editing
import EditorBridge.Proofs.Session.Documents
import EditorBridge.Proofs.Session.Buffers
import EditorBridge.Proofs.Settings.CommandLine
import EditorBridge.Proofs.Overview.Address
import EditorBridge.Proofs.Terminal.Asking
import EditorBridge.Proofs.Terminal.Status
import EditorBridge.Proofs.Decimal.Whole
import EditorBridge.Proofs.Settings.Entries
import EditorBridge.Proofs.Settings.Acceptance
import EditorBridge.Proofs.Toml.Written
import EditorBridge.Proofs.Settings.RoundTrip
import EditorBridge.Proofs.Text.Decoding
import EditorBridge.Proofs.Tool.Streams
import EditorBridge.Proofs.Command.Content
import EditorBridge.Proofs.Overview.Fencing
import EditorBridge.Proofs.Machine.Walks
import EditorBridge.Proofs.Command.States
import EditorBridge.Proofs.Terminal.Files
import EditorBridge.Proofs.Terminal.Schedules
import EditorBridge.Proofs.Version.Order
import EditorBridge.Proofs.Version.Canonical
import EditorBridge.Proofs.Text.Words
import EditorBridge.Proofs.Tool.Verdict
import EditorBridge.Proofs.Tool.ArgumentLine
import EditorBridge.Proofs.Decimal.Value
import EditorBridge.Proofs.Settings.Indent
import EditorBridge.Proofs.Command.Repetition
import EditorBridge.Proofs.Session.Repetition
import EditorBridge.Proofs.Settings.Defaults
import EditorBridge.Proofs.Command.SaveHook
import EditorBridge.Proofs.Command.Overviews
import EditorBridge.Proofs.Terminal.SaveGate
import EditorBridge.Proofs.Path.Names
import EditorBridge.Proofs.Terminal.Accounts
import EditorBridge.Proofs.Command.ManualInstall
