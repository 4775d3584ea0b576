import Stepwise.Text.Basic
import Stepwise.Text.Blank
import Stepwise.Text.Word
import Stepwise.Text.Quoted
import Stepwise.Text.Letter
import Stepwise.Text.Hidden
import Stepwise.Text.Columns
import Stepwise.Number.Basic
import Stepwise.Number.Decimal
import Stepwise.Number.Shortest
import Stepwise.Number.Numeral
import Stepwise.Value
import Stepwise.Listing
import Stepwise.Declaration
import Stepwise.Statement
import Stepwise.Fault
import Stepwise.Variable
import Stepwise.Frame
import Stepwise.Expression
import Stepwise.Instant
import Stepwise.Snapshot
import Stepwise.History
import Stepwise.Settings
import Stepwise.Recording
import Stepwise.Json.Basic
import Stepwise.Json.Library
import Stepwise.Json.Document
import Stepwise.Json.Decoding
import Stepwise.Archive
import Stepwise.Toml.Basic
import Stepwise.Toml.Scalar
import Stepwise.Toml.Reader
import Stepwise.SettingsFile
import Stepwise.Command.Options
import Stepwise.Command.Help
import Stepwise.Command.Folder
import Stepwise.Command.Basic
import Stepwise.Screen.Style
import Stepwise.Screen.Row
import Stepwise.Screen.Basic
import Stepwise.Highlight
import Stepwise.Pane.Basic
import Stepwise.Pane.Source
import Stepwise.Pane.Items
import Stepwise.Pane.Status
import Stepwise.Player.Basic
import Stepwise.Player.Viewer
import Stepwise.Screen.Terminal
import Stepwise.Player.Keyboard
import Stepwise.Main
import Stepwise.Proofs.VariableTable
import Stepwise.Proofs.Execution
import Stepwise.Proofs.History
import Stepwise.Proofs.Listing
import Stepwise.Proofs.Run
import Stepwise.Proofs.Ending
import Stepwise.Proofs.Output
import Stepwise.Proofs.Resumption
import Stepwise.Proofs.Accumulation
import Stepwise.Proofs.Continuation
import Stepwise.Proofs.Changes
import Stepwise.Proofs.Flags
import Stepwise.Proofs.Bodies
import Stepwise.Proofs.Declarations
import Stepwise.Proofs.StructuralLines
import Stepwise.Proofs.Calls
import Stepwise.Proofs.Interchange
import Stepwise.Proofs.Spellings
import Stepwise.Proofs.Playback
import Stepwise.Proofs.ReadBack
import Stepwise.Proofs.Decimal
import Stepwise.Proofs.Numeral
import Stepwise.Proofs.Instant
import Stepwise.Proofs.Library
import Stepwise.Proofs.Json
import Stepwise.Proofs.Decoding
import Stepwise.Proofs.Archive
import Stepwise.Proofs.Parts
import Stepwise.Proofs.Layout
import Stepwise.Proofs.OneLine
import Stepwise.Proofs.Printing
import Stepwise.Proofs.Report
import Stepwise.Proofs.Reordering
import Stepwise.Proofs.Commutation
import Stepwise.Proofs.Scanning
import Stepwise.Proofs.Offsets
import Stepwise.Proofs.Splitting
import Stepwise.Proofs.Grammar
import Stepwise.Proofs.Groups
import Stepwise.Proofs.Operands
import Stepwise.Proofs.MissingNames
import Stepwise.Proofs.Assignments
import Stepwise.Proofs.Comparisons
import Stepwise.Proofs.Rounding
import Stepwise.Proofs.PrintedNumbers
import Stepwise.Proofs.Headers
import Stepwise.Proofs.Pushes
import Stepwise.Proofs.Cursor
import Stepwise.Proofs.Reexecution
import Stepwise.Proofs.Highlight
import Stepwise.Proofs.Windows
import Stepwise.Proofs.Screens
import Stepwise.Proofs.ItemPanes
