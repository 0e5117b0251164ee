import TargetDocs.Text.Basic
import TargetDocs.Text.CodeRange
import TargetDocs.Text.Blank
import TargetDocs.Text.DecimalDigit
import TargetDocs.Text.Printable
import TargetDocs.Text.CellWidth
import TargetDocs.Text.Extent
import TargetDocs.Text.UpperCase
import TargetDocs.Text.Numeral
import TargetDocs.Text.Quoted
import TargetDocs.Text.Utf8
import TargetDocs.Pattern
import TargetDocs.Makefile.Line
import TargetDocs.Makefile.Scan
import TargetDocs.Makefile.Goal
import TargetDocs.Entry
import TargetDocs.Catalogue
import TargetDocs.Node
import TargetDocs.Terminal
import TargetDocs.Listing
import TargetDocs.Stream
import TargetDocs.Files
import TargetDocs.Log
import TargetDocs.Loading
import TargetDocs.Preferences
import TargetDocs.CommandLine.Word
import TargetDocs.CommandLine.Request
import TargetDocs.CommandLine.Usage
import TargetDocs.Run
import TargetDocs.Session
import TargetDocs.Main
import TargetDocs.Proofs.Makefile.Block
import TargetDocs.Proofs.Makefile.Place
import TargetDocs.Proofs.Makefile.Seam
import TargetDocs.Proofs.Loading.LastDeclaration
import TargetDocs.Proofs.Makefile.Writing
import TargetDocs.Proofs.Makefile.CommentRun
import TargetDocs.Proofs.Run.Ending
import TargetDocs.Proofs.Run.Printing
import TargetDocs.Proofs.Loading.FirstFailure
import TargetDocs.Proofs.Session.Logging
import TargetDocs.Proofs.Loading.Rearrangement
import TargetDocs.Proofs.Listing.VisibleText
import TargetDocs.Proofs.Text.Decimal
import TargetDocs.Proofs.Run.ExitCode
import TargetDocs.Proofs.CommandLine.Spelling
import TargetDocs.Proofs.CommandLine.Arrangement
import TargetDocs.Proofs.CommandLine.Front
import TargetDocs.Proofs.Session.Precedence
import TargetDocs.Proofs.Session.Interference
import TargetDocs.Proofs.Run.Filtering
import TargetDocs.Proofs.Run.ReadBack
import TargetDocs.Proofs.Makefile.Grammar
import TargetDocs.Proofs.Makefile.Assignment
import TargetDocs.Proofs.Makefile.GoalLine
import TargetDocs.Proofs.Loading.GoalMark
import TargetDocs.Proofs.Entry.BlankLine
import TargetDocs.Proofs.Listing.StyledText
import TargetDocs.Proofs.Listing.GoalColor
import TargetDocs.Proofs.Text.Utf8
import TargetDocs.Proofs.Text.LineEnd
import TargetDocs.Proofs.Loading.Encoding
import TargetDocs.Proofs.Text.Numeral
import TargetDocs.Proofs.Session.Width
import TargetDocs.Proofs.Session.Environment
import TargetDocs.Proofs.Text.Quoted
import TargetDocs.Proofs.Node.Written
