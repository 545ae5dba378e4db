import Calculator.Number
import Calculator.Operator

/-!
# Tokens

The words of a statement. `Token.text` is how a token is written in a source, and for most tokens
it depends on the kind alone.
-/

namespace Calculator

inductive TokenKind where
  | quit
  | bool
  | name
  | comment
  | assign
  | semicolon
  | arith (op : ArithOp)
  | compare (op : CompareOp)
  | leftParen
  | rightParen
  | number
deriving DecidableEq, Repr

/-- What messages call a kind. -/
def TokenKind.text : TokenKind → String
  | .quit => "quit"
  | .bool => "boolean"
  | .name => "identifier"
  | .comment => "comment"
  | .assign => ":="
  | .semicolon => ";"
  | .arith op => op.text
  | .compare op => op.text
  | .leftParen => "("
  | .rightParen => ")"
  | .number => "number"

inductive Token where
  | quit
  | bool (b : Bool)
  | name (s : String)
  | comment (s : String)
  | assign
  | semicolon
  | arith (op : ArithOp)
  | compare (op : CompareOp)
  | leftParen
  | rightParen
  | number (n : Number)
deriving DecidableEq

def boolText : Bool → String
  | true => "true"
  | false => "false"

namespace Token

def kind : Token → TokenKind
  | .quit => .quit
  | .bool _ => .bool
  | .name _ => .name
  | .comment _ => .comment
  | .assign => .assign
  | .semicolon => .semicolon
  | .arith op => .arith op
  | .compare op => .compare op
  | .leftParen => .leftParen
  | .rightParen => .rightParen
  | .number _ => .number

def text : Token → String
  | .bool b => boolText b
  | .name s => s
  | .comment s => "// " ++ s
  | .number n => n.text
  | t => t.kind.text

def isComment (t : Token) : Bool := t.kind = .comment

end Token

end Calculator
