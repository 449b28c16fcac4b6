import LoxReader.Bisect
import LoxReader.Unicode.CharSet
import LoxReader.Unicode.Alphabetic
import LoxReader.Unicode.DefaultIgnorable
import LoxReader.Unicode.GraphemeExtend
import LoxReader.Unicode.Printable
import LoxReader.Unicode.WhiteSpace
import LoxReader.Text.Basic
import LoxReader.Text.Line
import LoxReader.Token.Kind
import LoxReader.Token.Trivia
import LoxReader.Token.Lexeme
import LoxReader.Text.Utf8
import LoxReader.Text.Quoted
import LoxReader.Source.Path
import LoxReader.Source.Uuid
import LoxReader.Source.Basic
import LoxReader.Source.Lookup
import LoxReader.Source.Position
import LoxReader.Token.Basic
import LoxReader.Token.Lexer
import LoxReader.Report.Styled
import LoxReader.Report.Message
import LoxReader.Report.Excerpt
import LoxReader.Report.Collector
import LoxReader.Report.Diagnostic
import LoxReader.Source.Load
import LoxReader.Source.Directory
import LoxReader.Command.Arguments
import LoxReader.Command.Run
import LoxReader.Expectation
import LoxReader.Main
import LoxReader.Proofs.BlockComment
import LoxReader.Proofs.Gap
import LoxReader.Proofs.CharClass
import LoxReader.Proofs.Grammar
import LoxReader.Proofs.Placement
import LoxReader.Proofs.Tiling
import LoxReader.Proofs.Isolation
import LoxReader.Proofs.Reports
import LoxReader.Proofs.Classification
import LoxReader.Proofs.HelpCause
import LoxReader.Proofs.Printing
import LoxReader.Proofs.LineTable
import LoxReader.Proofs.Lines
import LoxReader.Proofs.LineScan
import LoxReader.Proofs.LineStarts
import LoxReader.Proofs.LineEndings
import LoxReader.Proofs.Concatenation
import LoxReader.Proofs.Stability
import LoxReader.Proofs.Encoding
import LoxReader.Proofs.Outcome
import LoxReader.Proofs.Quoted
import LoxReader.Proofs.Dump
import LoxReader.Proofs.WellFormed
import LoxReader.Proofs.LocationOrder
import LoxReader.Proofs.Checked.Word
import LoxReader.Proofs.Checked.Source
import LoxReader.Proofs.Checked.Cursor
import LoxReader.Proofs.CommentEnd
import LoxReader.Proofs.Progress
import LoxReader.Proofs.Checked.Excerpt
import LoxReader.Proofs.Session
import LoxReader.Proofs.Rows
import LoxReader.Proofs.Opening
import LoxReader.Proofs.ReportText
import LoxReader.Proofs.Terminal
import LoxReader.Proofs.Highlight
import LoxReader.Proofs.Carets
import LoxReader.Proofs.Contract
import LoxReader.Proofs.Cover
import LoxReader.Proofs.LineComment
import LoxReader.Proofs.Alignment
import LoxReader.Proofs.Layout
import LoxReader.Proofs.Expectation
import LoxReader.Proofs.RangeError
import LoxReader.Proofs.Marks
