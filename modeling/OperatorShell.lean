import OperatorShell.Command.Record
import OperatorShell.Main
import OperatorShell.Terminal
import OperatorShell.Proofs.Line.Nodes
import OperatorShell.Proofs.Line.Expression
import OperatorShell.Proofs.Session.ShortCircuit
import OperatorShell.Proofs.Session.Steps
import OperatorShell.Proofs.Session.Interrupt
import OperatorShell.Proofs.Command.Ids
import OperatorShell.Proofs.Command.Registration
import OperatorShell.Proofs.Command.Reading
import OperatorShell.Proofs.Command.Resolving
import OperatorShell.Proofs.Command.Checks
import OperatorShell.Proofs.Session.Admission
import OperatorShell.Proofs.Session.Gate
import OperatorShell.Proofs.Session.Hiding
import OperatorShell.Proofs.Command.LongestMatch
import OperatorShell.Proofs.Command.Tree
import OperatorShell.Proofs.Command.Forest
import OperatorShell.Proofs.Session.OptionEntries
import OperatorShell.Proofs.Session.NextArgument
import OperatorShell.Proofs.Line.Splitting
import OperatorShell.Proofs.Line.Tokens
import OperatorShell.Proofs.Completion.Cursor
import OperatorShell.Proofs.Completion.Narrowing
import OperatorShell.Proofs.Completion.Locality
import OperatorShell.Proofs.Command.Children
import OperatorShell.Proofs.Completion.Offers
import OperatorShell.Proofs.Command.Arrangement
import OperatorShell.Proofs.Line.Partition
import OperatorShell.Proofs.Line.NormalForm
import OperatorShell.Proofs.Line.Grammar
import OperatorShell.Proofs.Session.Acceptance
import OperatorShell.Proofs.Line.Composition
import OperatorShell.Proofs.Session.Replay
import OperatorShell.Proofs.Console.Mode
import OperatorShell.Proofs.Session.Turns
import OperatorShell.Proofs.Session.Mode
import OperatorShell.Proofs.Json.RoundTrip
import OperatorShell.Proofs.History.Saving
import OperatorShell.Proofs.History.Restart
import OperatorShell.Proofs.History.Log
import OperatorShell.Proofs.Edit.Veil
import OperatorShell.Proofs.Keys.Typing
import OperatorShell.Proofs.Question.Masked
import OperatorShell.Proofs.Session.PromptInterrupt
import OperatorShell.Proofs.Session.Recording
import OperatorShell.Proofs.Console.Readers
import OperatorShell.Proofs.Question.Choosing
import OperatorShell.Proofs.Session.Completing
import OperatorShell.Proofs.Session.PickerClosing
import OperatorShell.Proofs.Completion.Delays
import OperatorShell.Proofs.Session.Busy
import OperatorShell.Proofs.Session.Endings
import OperatorShell.Proofs.Session.Lines
import OperatorShell.Proofs.Sites.Installations
import OperatorShell.Proofs.Picker.Window
import OperatorShell.Proofs.Session.TypedToken
import OperatorShell.Proofs.Keys.Bindings
import OperatorShell.Proofs.Picker.Deciding
import OperatorShell.Proofs.Session.PickedCandidate
import OperatorShell.Proofs.Screen.Canvas
import OperatorShell.Proofs.Picker.Cleanup
import OperatorShell.Proofs.Edit.Changes
import OperatorShell.Proofs.History.Suggestion
import OperatorShell.Proofs.Session.Suggesting
import OperatorShell.Proofs.Session.Browsing
import OperatorShell.Proofs.Question.Accepting
import OperatorShell.Proofs.Keys.Chords
import OperatorShell.Proofs.Edit.Positions
import OperatorShell.Proofs.Keys.Guards
import OperatorShell.Proofs.Keys.ReadingBack
import OperatorShell.Proofs.Edit.Words
