import Calculator.Text.Quoted
import Calculator.Token

/-!
# Descriptions of tokens

A description names the kind of a token and shows what it carries.
-/

namespace Calculator

/-- The word for a kind in descriptions. -/
def TokenKind.label : TokenKind → String
  | .quit => "Quit"
  | .bool => "Bool"
  | .name => "Id"
  | .comment => "Comment"
  | .assign => "Assign"
  | .semicolon => "Semi"
  | .arith .add => "Plus"
  | .arith .sub => "Minus"
  | .arith .mul => "Multiply"
  | .arith .div => "Divide"
  | .compare .eq => "Eq"
  | .compare .ne => "Neq"
  | .compare .ge => "Ge"
  | .compare .le => "Le"
  | .compare .lt => "Lt"
  | .compare .gt => "Gt"
  | .leftParen => "LParen"
  | .rightParen => "RParen"
  | .number => "Num"

def Number.description : Number → String
  | .integer n => "Integer(" ++ intText n.toInt ++ ")"
  | .float x => "Float(" ++ Layout.marked.float x ++ ")"

namespace Token

/-- The text between the parentheses of a description, for tokens that carry something. -/
def payload? : Token → Option String
  | .bool b => some (boolText b)
  | .name s => some (Text.quote s)
  | .comment s => some (Text.quote s)
  | .number n => some n.description
  | _ => none

def description (t : Token) : String :=
  match t.payload? with
  | some p => t.kind.label ++ "(" ++ p ++ ")"
  | none => t.kind.label

end Token

end Calculator
