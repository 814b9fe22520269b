import LetInspector.Command
import LetInspector.Inspector.Basic
import LetInspector.Inspector.Frame
import LetInspector.Main
import LetInspector.Program.Basic
import LetInspector.Program.Window
import LetInspector.Proofs.Accounting
import LetInspector.Proofs.Cut
import LetInspector.Proofs.Display
import LetInspector.Proofs.Echo
import LetInspector.Proofs.Faults
import LetInspector.Proofs.Following
import LetInspector.Proofs.Grammar
import LetInspector.Proofs.Highlight
import LetInspector.Proofs.Joining
import LetInspector.Proofs.Lexical
import LetInspector.Proofs.Lines
import LetInspector.Proofs.Listing
import LetInspector.Proofs.Lookahead
import LetInspector.Proofs.Moves
import LetInspector.Proofs.Nearest
import LetInspector.Proofs.Painting
import LetInspector.Proofs.Place
import LetInspector.Proofs.Positions
import LetInspector.Proofs.Progress
import LetInspector.Proofs.Pulling
import LetInspector.Proofs.Ranking
import LetInspector.Proofs.Reader
import LetInspector.Proofs.Relocation
import LetInspector.Proofs.Report
import LetInspector.Proofs.RowCount
import LetInspector.Proofs.Scrolling
import LetInspector.Proofs.Seam
import LetInspector.Proofs.Selection
import LetInspector.Proofs.Semicolon
import LetInspector.Proofs.Slicing
import LetInspector.Proofs.Spacing
import LetInspector.Proofs.Tiling
import LetInspector.Proofs.TokenRows
import LetInspector.Proofs.TokenScan
import LetInspector.Screen.Basic
import LetInspector.Screen.Rows
import LetInspector.Screen.Text
import LetInspector.Session.Basic
import LetInspector.Session.Sink
import LetInspector.Text.Basic
import LetInspector.Text.Cluster
import LetInspector.Text.Quoted
import LetInspector.Text.Width
import LetInspector.Token.Basic
import LetInspector.Token.Cursor
import LetInspector.Token.Stream
import LetInspector.View.Pane
import LetInspector.View.Report
import LetInspector.View.SourceText
