import TapeMachine.Main
import TapeMachine.Narration
import TapeMachine.Session
import TapeMachine.Proofs.TapeView
import TapeMachine.Proofs.Textbook
import TapeMachine.Proofs.Commands
import TapeMachine.Proofs.Margin
import TapeMachine.Proofs.Source.Layout
import TapeMachine.Proofs.Source.Scanner
import TapeMachine.Proofs.Source.Sentence
import TapeMachine.Proofs.Source.Parsing
import TapeMachine.Proofs.Build
import TapeMachine.Proofs.Linking
import TapeMachine.Proofs.Source.Progress
import TapeMachine.Proofs.Source.Refusal
import TapeMachine.Proofs.Source.Records
import TapeMachine.Proofs.BuildOutcome
import TapeMachine.Proofs.Arithmetic
import TapeMachine.Proofs.Numbers
import TapeMachine.Proofs.SumThenDec
import TapeMachine.Proofs.Resolution
import TapeMachine.Proofs.Counters
import TapeMachine.Proofs.Inclusion
import TapeMachine.Proofs.Decompiled
import TapeMachine.Proofs.Source.Pieces
import TapeMachine.Proofs.Libraries
import TapeMachine.Proofs.Text.Description
import TapeMachine.Proofs.Patience
import TapeMachine.Proofs.Dialogues
import TapeMachine.Proofs.LineEnds
import TapeMachine.Proofs.Files.Walks
import TapeMachine.Proofs.Files.Places
import TapeMachine.Proofs.Files.Folders
import TapeMachine.Proofs.Files.Writes
import TapeMachine.Proofs.Files.Targets
import TapeMachine.Proofs.Files.Making
import TapeMachine.Proofs.Journal
import TapeMachine.Proofs.Journal.Statuses
import TapeMachine.Proofs.Binary64.Rounding
import TapeMachine.Proofs.Binary64.Shortest
import TapeMachine.Proofs.Json.Strings
import TapeMachine.Proofs.Json.Numbers
import TapeMachine.Proofs.Json.Values
import TapeMachine.Proofs.Json.Characters
import TapeMachine.Proofs.Journal.Lines
import TapeMachine.Proofs.Batch.Entries
import TapeMachine.Proofs.Batch.Records
import TapeMachine.Proofs.Batch.Portions
import TapeMachine.Proofs.Batch.Calls
import TapeMachine.Proofs.Batch.Restarts
import TapeMachine.Proofs.Batch.Sizes
import TapeMachine.Proofs.Verdicts
import TapeMachine.Proofs.LoopLimit
import TapeMachine.Proofs.Finished
import TapeMachine.Proofs.Halting
import TapeMachine.Proofs.Text.Rows
import TapeMachine.Proofs.Source.Spans
import TapeMachine.Proofs.ErrorPlaces
import TapeMachine.Proofs.RuleText
import TapeMachine.Proofs.Decoding
import TapeMachine.Proofs.Numerals
import TapeMachine.Proofs.Handover
import TapeMachine.Proofs.Increments
import TapeMachine.Proofs.Navigation
import TapeMachine.Proofs.Termination
import TapeMachine.Proofs.Renewal
import TapeMachine.Proofs.Recomposition
import TapeMachine.Proofs.Charts
import TapeMachine.Proofs.ChartOrder
import TapeMachine.Proofs.Display
import TapeMachine.Proofs.Reports
import TapeMachine.Proofs.Json.Dictionaries
import TapeMachine.Proofs.Settings.Validity
import TapeMachine.Proofs.Settings.Merging
import TapeMachine.Proofs.Settings.Saving
import TapeMachine.Proofs.RuleRefusal
import TapeMachine.Proofs.Confirmations
