import Calculator.Expr.Parse

/-!
# The grammar

```
statement ::= name ':=' sum ';' | sum ';' | sum comparison sum ';' | 'quit' | 'quit' ';'
sum       ::= product | sum ('+' | '-') product
product   ::= operand | product ('*' | '/') operand
operand   ::= name | number | '+' number | '-' number | '(' sum ')'
```

A derivation carries the tree that it builds. It knows nothing of reading from the left, so the
operators group to the left by recursion on the left.
-/

namespace Calculator

inductive Level where
  | sum
  | product
  | operand
deriving DecidableEq

inductive Derives : Level → List Token → Expr → Prop where
  | name (s : String) : Derives .operand [.name s] (.name s)
  | number (n : Number) : Derives .operand [.number n] (.number n.settle)
  | plus (n : Number) : Derives .operand [.arith .add, .number n] (.number n.settle)
  | minus (n : Number) : Derives .operand [.arith .sub, .number n] (.number n.negate.settle)
  | group {ts : List Token} {e : Expr} (inner : Derives .sum ts e) :
      Derives .operand (.leftParen :: ts ++ [.rightParen]) e
  | ofOperand {ts : List Token} {e : Expr} (operand : Derives .operand ts e) :
      Derives .product ts e
  | product {ts us : List Token} {l r : Expr} {op : ArithOp} (hop : op = .mul ∨ op = .div)
      (left : Derives .product ts l) (right : Derives .operand us r) :
      Derives .product (ts ++ .arith op :: us) (.arith op l r)
  | ofProduct {ts : List Token} {e : Expr} (product : Derives .product ts e) : Derives .sum ts e
  | sum {ts us : List Token} {l r : Expr} {op : ArithOp} (hop : op = .add ∨ op = .sub)
      (left : Derives .sum ts l) (right : Derives .product us r) :
      Derives .sum (ts ++ .arith op :: us) (.arith op l r)

inductive DerivesStatement : List Token → Expr → Prop where
  | assign {ts : List Token} {e : Expr} (s : String) (value : Derives .sum ts e) :
      DerivesStatement (.name s :: .assign :: ts ++ [.semicolon]) (.assign s e)
  | sum {ts : List Token} {e : Expr} (value : Derives .sum ts e) :
      DerivesStatement (ts ++ [.semicolon]) e
  | compare {ts us : List Token} {l r : Expr} (op : CompareOp) (left : Derives .sum ts l)
      (right : Derives .sum us r) :
      DerivesStatement (ts ++ .compare op :: us ++ [.semicolon]) (.compare op l r)
  | quit : DerivesStatement [.quit] .quit
  | quitSemicolon : DerivesStatement [.quit, .semicolon] .quit

/-! ## Sums and products alike -/

namespace Level

/-- The level of what stands between the operators of a level. -/
def lower : Level → Level
  | .sum => .product
  | .product => .operand
  | .operand => .operand

def takes : Level → ArithOp → Bool
  | .sum, op => op.isAdditive
  | .product, op => !op.isAdditive
  | .operand, _ => false

theorem takes_sum_iff {op : ArithOp} : sum.takes op ↔ op = .add ∨ op = .sub := by
  cases op <;> simp [takes, ArithOp.isAdditive]

theorem takes_product_iff {op : ArithOp} : product.takes op ↔ op = .mul ∨ op = .div := by
  cases op <;> simp [takes, ArithOp.isAdditive]

theorem not_takes_lower {l : Level} {op : ArithOp} (h : l.takes op) : ¬ l.lower.takes op := by
  cases l <;> simp_all [takes, lower]

/-- No operator of the level comes next. -/
def Stops (l : Level) (ts : List Token) : Prop :=
  ∀ op us, ts = .arith op :: us → ¬ l.takes op

@[simp] theorem stops_operand (ts : List Token) : operand.Stops ts := by simp [Stops, takes]

@[simp] theorem stops_arith {l : Level} {op : ArithOp} {us : List Token} :
    l.Stops (.arith op :: us) ↔ ¬ l.takes op := by
  simp [Stops]

theorem stops_of_ne_arith {l : Level} {ts : List Token}
    (h : ∀ op us, ts = .arith op :: us → False) : l.Stops ts :=
  fun op us hts => (h op us hts).elim

end Level

/-- The tokens besides names that an expression may begin with. -/
def Token.opens : Token → Bool
  | .number _ | .arith .add | .arith .sub | .leftParen => true
  | _ => false

namespace Derives

variable {l : Level} {ts us : List Token} {d e : Expr}

theorem of_lower (h : Derives l.lower ts e) : Derives l ts e := by
  cases l with
  | sum => exact .ofProduct h
  | product => exact .ofOperand h
  | operand => exact h

theorem chain {op : ArithOp} (hop : l.takes op) (left : Derives l ts d)
    (right : Derives l.lower us e) : Derives l (ts ++ .arith op :: us) (.arith op d e) := by
  cases l with
  | sum => exact .sum (Level.takes_sum_iff.mp hop) left right
  | product => exact .product (Level.takes_product_iff.mp hop) left right
  | operand => cases hop

theorem begins (h : Derives l ts e) : ∃ t us, ts = t :: us ∧ (t.opens ∨ ∃ s, t = .name s) := by
  induction h with
  | name s => exact ⟨.name s, [], rfl, .inr ⟨s, rfl⟩⟩
  | number n => exact ⟨.number n, [], rfl, .inl rfl⟩
  | plus n => exact ⟨.arith .add, [.number n], rfl, .inl rfl⟩
  | minus n => exact ⟨.arith .sub, [.number n], rfl, .inl rfl⟩
  | group => exact ⟨.leftParen, _, rfl, .inl rfl⟩
  | ofOperand _ ih | ofProduct _ ih => exact ih
  | product _ _ _ ih _ | sum _ _ _ ih _ =>
    obtain ⟨t, us, rfl, ht⟩ := ih
    exact ⟨t, _, rfl, ht⟩

theorem assign_not_mem (h : Derives l ts e) : .assign ∉ ts := by
  induction h <;> simp_all

theorem comment_not_mem (h : Derives l ts e) (s : String) : .comment s ∉ ts := by
  induction h <;> simp_all

end Derives

theorem DerivesStatement.withoutComments_eq {ts : List Token} {e : Expr}
    (h : DerivesStatement ts e) : withoutComments ts = ts := by
  refine withoutComments_eq_self fun s => ?_
  cases h with
  | assign _ value | sum value => simpa using value.comment_not_mem s
  | compare _ left right => simpa using ⟨left.comment_not_mem s, right.comment_not_mem s⟩
  | quit | quitSemicolon => simp

end Calculator
