import LineShell.Arrange
import LineShell.Builtin
import LineShell.Command
import LineShell.Completion
import LineShell.Completion.PlainName
import LineShell.Error
import LineShell.Event
import LineShell.Event.Directive
import LineShell.Event.DirectiveList
import LineShell.Event.Filter
import LineShell.Fault
import LineShell.FileSystem
import LineShell.FileSystem.Arrival
import LineShell.FileSystem.Changes
import LineShell.FileSystem.Forest
import LineShell.FileSystem.Setup
import LineShell.FileSystem.Walk
import LineShell.FileSystem.WellFormed
import LineShell.FileSystem.Write
import LineShell.LineSource
import LineShell.LineSource.Edited
import LineShell.LineSource.Plain
import LineShell.Live
import LineShell.Machine
import LineShell.Main
import LineShell.Path
import LineShell.Process
import LineShell.Process.Probe
import LineShell.Process.Script
import LineShell.Program
import LineShell.Proofs.Command.Lookup
import LineShell.Proofs.FileSystem.ExplicitPath
import LineShell.Proofs.FileSystem.Growth
import LineShell.Proofs.FileSystem.Locating
import LineShell.Proofs.FileSystem.Opening
import LineShell.Proofs.LineSource.Lines
import LineShell.Proofs.Machine.Growth
import LineShell.Proofs.Machine.Launch
import LineShell.Proofs.Machine.BusyFile
import LineShell.Proofs.Machine.Moving
import LineShell.Proofs.Redirection.Splitting
import LineShell.Proofs.Session.WholeRun
import LineShell.Proofs.Shell.Answers
import LineShell.Proofs.Shell.Arguments
import LineShell.Proofs.Shell.Failures
import LineShell.Proofs.Shell.Results
import LineShell.Proofs.Token.Unambiguous
import LineShell.Proofs.Token.WrittenLine
import LineShell.Proofs.Transcript.Errors
import LineShell.Redirection
import LineShell.Session
import LineShell.Shell
import LineShell.Startup
import LineShell.Surroundings
import LineShell.Text
import LineShell.Text.Blank
import LineShell.Text.Decimal
import LineShell.Text.Letter
import LineShell.Text.Pattern
import LineShell.Text.Pattern.Flags
import LineShell.Text.Pattern.Height
import LineShell.Text.Pattern.Reader
import LineShell.Text.Printable
import LineShell.Text.Quoted
import LineShell.Text.Utf8
import LineShell.Token
import LineShell.Token.Grammar
import LineShell.Token.Spelling
import LineShell.Transcript
import LineShell.Writer
import LineShell.World
import LineShell.Proofs.Shell.Transparency
import LineShell.Proofs.Shell.Effects
import LineShell.Proofs.Session.Stability
import LineShell.Proofs.Shell.Operators
import LineShell.Proofs.FileSystem.Entries
import LineShell.Proofs.Text.Decoding
import LineShell.Proofs.Completion.Agreement
import LineShell.Proofs.FileSystem.LonePath
import LineShell.Proofs.FileSystem.PhysicalPath
import LineShell.Proofs.Shell.TypeReport
import LineShell.Proofs.Live.Acts
import LineShell.Proofs.Live.Agreement
import LineShell.Proofs.Program.Logging
import LineShell.Proofs.Session.WorkingDir
import LineShell.Proofs.Completion.Boundaries
import LineShell.Proofs.Token.Positions
import LineShell.Proofs.Session.Bounds
import LineShell.Proofs.Token.Standing
import LineShell.Proofs.Token.Conservation
import LineShell.Proofs.Token.LineEnd
import LineShell.Proofs.LineSource.Agreement
import LineShell.Proofs.Session.SameLines
import LineShell.Proofs.Token.PlainWords
import LineShell.Proofs.Completion.Offering
import LineShell.Proofs.Completion.Accepting
import LineShell.Proofs.Command.SearchPath
import LineShell.Proofs.Redirection.Extraction
import LineShell.Proofs.Text.InvalidParts
import LineShell.Proofs.LineSource.Lossless
import LineShell.Proofs.LineSource.Interruption
import LineShell.Proofs.Session.Interruption
import LineShell.Proofs.FileSystem.Reopening
import LineShell.Proofs.Shell.Repetition
import LineShell.Proofs.Text.Numerals
import LineShell.Proofs.Program.ExitStatus
import LineShell.Proofs.Command.Dialogue
import LineShell.Proofs.Command.ChangingDirectory
import LineShell.Proofs.Session.HomeDirectory
