import Calculator.Expr
import Calculator.Store

/-!
# Evaluation

A tree is evaluated against a store, the left operand first. Only an assignment writes, and only
once its right side has a value; what was written before an error stays.
-/

namespace Calculator

/-- What evaluating a tree comes to: its result, the store behind it, and the writes in order. -/
structure Evaluation where
  result : Except EvalError Value
  store : Store
  writes : List (String × Value)

namespace Evaluation

/-- A result that writes nothing. -/
def of (result : Except EvalError Value) (st : Store) : Evaluation := ⟨result, st, []⟩

/-- Goes on with a value; stops at an error. -/
def andThen (e : Evaluation) (next : Value → Store → Evaluation) : Evaluation :=
  match e.result with
  | .error _ => e
  | .ok v =>
    let f := next v e.store
    ⟨f.result, f.store, e.writes ++ f.writes⟩

variable {e : Evaluation} {next : Value → Store → Evaluation}

theorem andThen_of_error {err : EvalError} (h : e.result = .error err) : e.andThen next = e := by
  simp [andThen, h]

theorem result_andThen_of_ok {v : Value} (h : e.result = .ok v) :
    (e.andThen next).result = (next v e.store).result := by
  simp [andThen, h]

theorem store_andThen_of_ok {v : Value} (h : e.result = .ok v) :
    (e.andThen next).store = (next v e.store).store := by
  simp [andThen, h]

theorem writes_andThen_of_ok {v : Value} (h : e.result = .ok v) :
    (e.andThen next).writes = e.writes ++ (next v e.store).writes := by
  simp [andThen, h]

end Evaluation

namespace Expr

def evaluate : Expr → Store → Evaluation
  | .number n, st => .of (.ok (.number n)) st
  | .bool b, st => .of (.ok (.bool b)) st
  | .name s, st => .of (.ok (st.get s)) st
  | .assign s e, st => (e.evaluate st).andThen fun v st => ⟨.ok v, st.insert s v, [(s, v)]⟩
  | .negate e, st => (e.evaluate st).andThen fun v st => .of v.negate st
  | .arith op l r, st =>
    (l.evaluate st).andThen fun a st =>
      (r.evaluate st).andThen fun b st => .of (Value.arith op a b) st
  | .compare op l r, st =>
    (l.evaluate st).andThen fun a st =>
      (r.evaluate st).andThen fun b st => .of ((Value.compare op a b).map .bool) st
  | .quit, st => .of (.ok .quit) st

end Expr

end Calculator
