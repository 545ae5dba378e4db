import Calculator.Proofs.Grammar
import Calculator.Proofs.Targets

/-!
# Arithmetic trees

A tree of numbers, names, negations and the four operators assigns nothing, and every tree that
the grammar derives for a sum is of this kind.
-/

namespace Calculator

namespace Expr

inductive Arithmetic : Expr → Prop where
  | number (n : Number) : Arithmetic (.number n)
  | name (s : String) : Arithmetic (.name s)
  | negate {e : Expr} (operand : Arithmetic e) : Arithmetic (.negate e)
  | arith {l r : Expr} (op : ArithOp) (left : Arithmetic l) (right : Arithmetic r) :
      Arithmetic (.arith op l r)

theorem Arithmetic.targets {e : Expr} (h : e.Arithmetic) : e.targets = [] := by
  induction h with
  | number | name => rfl
  | negate _ ih => exact ih
  | arith op _ _ ihl ihr => simp [Expr.targets, ihl, ihr]

end Expr

theorem Derives.arithmetic {l : Level} {ts : List Token} {e : Expr} (h : Derives l ts e) :
    e.Arithmetic := by
  induction h with
  | name s => exact .name s
  | number n | plus n | minus n => exact .number _
  | group _ ih | ofOperand _ ih | ofProduct _ ih => exact ih
  | product _ _ _ ihl ihr | sum _ _ _ ihl ihr => exact .arith _ ihl ihr

/-! ## Operands -/

/-- The values that arithmetic takes. -/
inductive Value.IsOperand : Value → Prop where
  | number (n : Number) : IsOperand (.number n)
  | undefined : IsOperand .undefined

/-- Every variable holds an operand. -/
def Store.Operands (st : Store) : Prop := ∀ s v, st.get? s = some v → v.IsOperand

/-- None of these names holds a truth value or `quit`. -/
def Store.OperandsAt (st : Store) (names : List String) : Prop := ∀ s ∈ names, (st.get s).IsOperand

namespace Store

theorem operands_empty : empty.Operands := by simp [Operands]

theorem Operands.insert {st : Store} (h : st.Operands) (s : String) {v : Value}
    (hv : v.IsOperand) : (st.insert s v).Operands := by
  intro t w ht
  rw [get?_insert] at ht
  split at ht
  · exact Option.some.inj ht ▸ hv
  · exact h t w ht

theorem Operands.get {st : Store} (h : st.Operands) (s : String) : (st.get s).IsOperand := by
  unfold Store.get
  cases hs : st.get? s with
  | none => exact .undefined
  | some v => exact h s v hs

theorem Operands.at {st : Store} (h : st.Operands) (names : List String) : st.OperandsAt names :=
  fun s _ => h.get s

end Store

namespace Value

theorem compare_of_isOperand (op : CompareOp) {a b : Value} (ha : a.IsOperand)
    (hb : b.IsOperand) : ∃ holds, compare op a b = .ok holds := by
  cases ha <;> cases hb <;> exact ⟨_, rfl⟩

end Value

end Calculator
