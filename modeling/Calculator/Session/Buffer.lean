import Calculator.Text.Blank

/-!
# Collecting lines into statements

A statement may span lines. Its last line is the first with a semicolon in front of any comment,
and a line that says only `quit` drops what was collected. What a line is depends on that line
alone.
-/

namespace Calculator

/-- The part of a line in front of its comment. -/
def uncommented : List Char → List Char
  | [] => []
  | '/' :: '/' :: _ => []
  | c :: cs => c :: uncommented cs

def endsStatement (line : String) : Bool := (uncommented line.toList).contains ';'

/-- Whether the line says `quit` in letters of either case. -/
def saysQuit (line : String) : Bool :=
  (Text.trim (uncommented line.toList)).map Char.toLower = "quit".toList

/-- What a line makes of the lines before it. -/
inductive Pushed where
  | statement (source : String)
  | quit
  | pending
deriving DecidableEq, Repr

/-- The text of a statement that has not ended. -/
structure StatementBuffer where
  source : String
deriving DecidableEq, Repr

namespace StatementBuffer

def empty : StatementBuffer := ⟨""⟩

/-- The collected text with one more line. Nothing marks an empty first line. -/
def extended (b : StatementBuffer) (line : String) : String :=
  if b.source.isEmpty then line else b.source ++ "\n" ++ line

def push (b : StatementBuffer) (line : String) : Pushed × StatementBuffer :=
  if endsStatement line then (.statement (b.extended line), empty)
  else if saysQuit line then (.quit, empty)
  else (.pending, ⟨b.extended line⟩)

/-- Whether nothing but blanks was collected. -/
def isBlank (b : StatementBuffer) : Bool := b.source.toList.all Text.isBlank

end StatementBuffer

end Calculator
