import Calculator.CommandLine
import Calculator.Decimal.Basic
import Calculator.Decimal.Layout
import Calculator.Decimal.Shortest
import Calculator.Evaluation
import Calculator.Expr
import Calculator.Expr.Parse
import Calculator.Expr.Reply
import Calculator.File
import Calculator.Interpreter
import Calculator.Main
import Calculator.Number
import Calculator.Number.Arithmetic
import Calculator.Operator
import Calculator.Proofs.Arithmetic
import Calculator.Proofs.ByteOrder
import Calculator.Proofs.Commitment
import Calculator.Proofs.Comparisons
import Calculator.Proofs.Composition
import Calculator.Proofs.Conversation
import Calculator.Proofs.EventLog
import Calculator.Proofs.Exactness
import Calculator.Proofs.FloatValues
import Calculator.Proofs.Footprint
import Calculator.Proofs.Grammar
import Calculator.Proofs.Independence
import Calculator.Proofs.LineJoining
import Calculator.Proofs.Listing
import Calculator.Proofs.Lookahead
import Calculator.Proofs.NearestFloat
import Calculator.Proofs.NumberOrder
import Calculator.Proofs.NumberStatements
import Calculator.Proofs.Opening
import Calculator.Proofs.Parsing
import Calculator.Proofs.Places
import Calculator.Proofs.Printing
import Calculator.Proofs.Progress
import Calculator.Proofs.Prompts
import Calculator.Proofs.Rounding
import Calculator.Proofs.StatementEnds
import Calculator.Proofs.StatementLines
import Calculator.Proofs.StatementTrees
import Calculator.Proofs.Stepping
import Calculator.Proofs.Targets
import Calculator.Proofs.Tiling
import Calculator.Proofs.TrailingComment
import Calculator.Proofs.TreeTexts
import Calculator.Proofs.TypeSoundness
import Calculator.Proofs.Viability
import Calculator.Proofs.WholeLiterals
import Calculator.Session
import Calculator.Session.Buffer
import Calculator.Session.Lines
import Calculator.Store
import Calculator.Text.Blank
import Calculator.Text.Extender
import Calculator.Text.Ignorable
import Calculator.Text.Printable
import Calculator.Text.Quoted
import Calculator.Token
import Calculator.Token.Description
import Calculator.Token.Scan
import Calculator.Token.Written
import Calculator.Value
