import Calculator.Number
import Calculator.Operator

/-!
# Arithmetic on numbers

Two integers give an integer as long as the exact result is one that 64 bits can hold. In every
other case both operands become floats first.
-/

namespace Calculator

namespace ArithOp

/-- The exact result, if it is an integer. -/
def exactly? : ArithOp → Int → Int → Option Int
  | .add, i, j => some (i + j)
  | .sub, i, j => some (i - j)
  | .mul, i, j => some (i * j)
  | .div, i, j => if j ≠ 0 ∧ i.tmod j = 0 then some (i.tdiv j) else none

def float : ArithOp → Float → Float → Float
  | .add, x, y => x + y
  | .sub, x, y => x - y
  | .mul, x, y => x * y
  | .div, x, y => x / y

/-- The result in 64 bits, if the exact one is an integer that they hold. -/
def int64? (op : ArithOp) (m n : Int64) : Option Int64 :=
  (op.exactly? m.toInt n.toInt).bind Calculator.int64?

end ArithOp

namespace Number

def apply (op : ArithOp) : Number → Number → Number
  | .integer m, .integer n =>
    match op.int64? m n with
    | some k => .integer k
    | none => .float (op.float (nearestFloat m.toInt) (nearestFloat n.toInt))
  | a, b => .float (op.float a.toFloat b.toFloat)

/-- Two integers compare exactly, any other pair as floats. -/
def compare? : Number → Number → Option Ordering
  | .integer m, .integer n => some (compare m.toInt n.toInt)
  | a, b => Float.Model.compare a.toFloat.toModel b.toFloat.toModel

end Number

end Calculator
