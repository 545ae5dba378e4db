import Calculator.Number.Arithmetic
import Calculator.Token

/-!
# Values

What a statement comes to. An undefined operand makes arithmetic come to the float that is not a
number, and a truth value or `quit` as an operand of arithmetic is an error.
-/

namespace Calculator

inductive Value where
  | number (n : Number)
  | bool (b : Bool)
  | undefined
  | quit
deriving DecidableEq

/-- Operands that an operator does not take. -/
inductive EvalError where
  | negate (operand : Value)
  | arith (op : ArithOp) (left right : Value)
  | compare (op : CompareOp) (left right : Value)
deriving DecidableEq

namespace Value

def text : Value → String
  | .number n => n.text
  | .bool b => boolText b
  | .undefined => "undefined"
  | .quit => "quit"

def isNumeric : Value → Bool
  | .number _ => true
  | _ => false

def isBool : Value → Bool
  | .bool _ => true
  | _ => false

def toFloat? : Value → Option Float
  | .number n => some n.toFloat
  | _ => none

/-- The float that is not a number. -/
def notANumber : Value := .number (.float (.ofModel (.pack .notANumber)))

def negate : Value → Except EvalError Value
  | .number n => .ok (.number n.negate)
  | .undefined => .ok notANumber
  | v => .error (.negate v)

def arith (op : ArithOp) : Value → Value → Except EvalError Value
  | .number m, .number n => .ok (.number (Number.apply op m n))
  | .undefined, .undefined => .ok notANumber
  | .undefined, v => if v.isNumeric then .ok notANumber else .error (.arith op .undefined v)
  | v, .undefined => if v.isNumeric then .ok notANumber else .error (.arith op v .undefined)
  | l, r => .error (.arith op l r)

/-- Whether the comparison holds. Two undefined operands are equal and nothing else. -/
def compare (op : CompareOp) : Value → Value → Except EvalError Bool
  | .number m, .number n => .ok (op.holds (Number.compare? m n))
  | .bool a, .bool b => .ok (op.holds (some (Ord.compare a b)))
  | .undefined, .undefined => .ok (op = .eq)
  | .undefined, v =>
    if v.isNumeric || v.isBool then .ok (op.holds none) else .error (.compare op .undefined v)
  | v, .undefined =>
    if v.isNumeric || v.isBool then .ok (op.holds none) else .error (.compare op v .undefined)
  | l, r => .error (.compare op l r)

/-! ## A float as an operand -/

section

variable {l r : Value} {x y : Float}

theorem arith_float_left (op : ArithOp) (x : Float) (hr : r.toFloat? = some y) :
    arith op (.number (.float x)) r = .ok (.number (.float (op.float x y))) := by
  cases r with
  | number n =>
    cases hr
    rfl
  | _ => cases hr

theorem arith_float_right (op : ArithOp) (y : Float) (hl : l.toFloat? = some x) :
    arith op l (.number (.float y)) = .ok (.number (.float (op.float x y))) := by
  cases l with
  | number n =>
    cases hl
    cases n <;> rfl
  | _ => cases hl

theorem compare_float_left (op : CompareOp) (x : Float) (hr : r.toFloat? = some y) :
    compare op (.number (.float x)) r =
      .ok (op.holds (Float.Model.compare x.toModel y.toModel)) := by
  cases r with
  | number n =>
    cases hr
    rfl
  | _ => cases hr

theorem compare_float_right (op : CompareOp) (y : Float) (hl : l.toFloat? = some x) :
    compare op l (.number (.float y)) =
      .ok (op.holds (Float.Model.compare x.toModel y.toModel)) := by
  cases l with
  | number n =>
    cases hl
    cases n <;> rfl
  | _ => cases hl

end

end Value

def EvalError.message (e : EvalError) : String :=
  let shape := match e with
    | .negate v => "-" ++ v.text
    | .arith op l r => l.text ++ " " ++ op.text ++ " " ++ r.text
    | .compare op l r => l.text ++ " " ++ op.text ++ " " ++ r.text
  "internal inconsistency: unsupported operands: " ++ shape

end Calculator
