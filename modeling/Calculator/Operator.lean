/-!
# Operators

Four arithmetic operators and six comparisons. A comparison is decided by the order of its
operands, and two operands may have none.
-/

namespace Calculator

inductive ArithOp where
  | add
  | sub
  | mul
  | div
deriving DecidableEq, Repr

def ArithOp.text : ArithOp → String
  | .add => "+"
  | .sub => "-"
  | .mul => "*"
  | .div => "/"

inductive CompareOp where
  | eq
  | ne
  | ge
  | le
  | lt
  | gt
deriving DecidableEq, Repr

namespace CompareOp

def text : CompareOp → String
  | .eq => "="
  | .ne => "<>"
  | .ge => ">="
  | .le => "<="
  | .lt => "<"
  | .gt => ">"

/-- Whether the comparison holds of operands in this order. Of unordered ones only `ne` does. -/
def holds : CompareOp → Option Ordering → Bool
  | .eq, o => o == some .eq
  | .ne, o => o != some .eq
  | .lt, o => o == some .lt
  | .gt, o => o == some .gt
  | .le, o => o == some .lt || o == some .eq
  | .ge, o => o == some .gt || o == some .eq

@[simp] theorem holds_none (op : CompareOp) : op.holds none = decide (op = .ne) := by
  cases op <;> rfl

end CompareOp

end Calculator
