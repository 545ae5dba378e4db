import Calculator.Token

/-!
# Expression trees

A tree is written fully parenthesised, the operator in front. Its floats keep their mark, so that
`(+ 2 2.0)` tells an integer from a float.
-/

namespace Calculator

inductive Expr where
  | number (n : Number)
  | bool (b : Bool)
  | name (s : String)
  | assign (s : String) (value : Expr)
  | negate (e : Expr)
  | arith (op : ArithOp) (left right : Expr)
  | compare (op : CompareOp) (left right : Expr)
  | quit
deriving DecidableEq

namespace Expr

def text : Expr → String
  | .number n => n.write .marked
  | .bool b => boolText b
  | .name s => s
  | .assign s e => "(:= " ++ s ++ " " ++ e.text ++ ")"
  | .negate e => "(- " ++ e.text ++ ")"
  | .arith op l r => "(" ++ op.text ++ " " ++ l.text ++ " " ++ r.text ++ ")"
  | .compare op l r => "(" ++ op.text ++ " " ++ l.text ++ " " ++ r.text ++ ")"
  | .quit => "(quit)"

end Expr

end Calculator
