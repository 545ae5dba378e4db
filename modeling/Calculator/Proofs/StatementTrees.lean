import Calculator.Proofs.Parsing

/-!
# The trees of statements

A statement is a sum, a comparison of two sums, an assignment of a sum, or `quit`, and a sum nests
the four operators in any way over names and settled numbers. Nothing else is ever read: a sign is
gone into its number, and no assignment, comparison or command stands inside a tree. Each of these
trees is read from its own tokens, with every operation in parentheses.
-/

namespace Calculator

theorem Number.settle_settle (n : Number) : n.settle.settle = n.settle := by
  cases n with
  | integer n => rfl
  | float x => cases h : (wholeValue? x).bind int64? <;> simp [settle, h]

namespace Expr

/-! ## Sums -/

/-- A float stays one in a tree only where no integer of 64 bits is equal to it. -/
inductive IsSum : Expr → Prop where
  | name (s : String) : IsSum (.name s)
  | integer (n : Int64) : IsSum (.number (.integer n))
  | float {x : Float} (kept : (Number.float x).settle = .float x) : IsSum (.number (.float x))
  | arith {l r : Expr} (op : ArithOp) (left : IsSum l) (right : IsSum r) : IsSum (.arith op l r)

theorem isSum_settle (n : Number) : IsSum (.number n.settle) := by
  have hsettled := n.settle_settle
  cases h : n.settle with
  | integer m => exact .integer m
  | float x =>
    rw [h] at hsettled
    exact .float hsettled

/-- Tokens that a sum is read from. -/
def tokens : Expr → List Token
  | .name s => [.name s]
  | .number n => [.number n]
  | .arith op l r => .leftParen :: (l.tokens ++ .arith op :: r.tokens) ++ [.rightParen]
  | _ => []

end Expr

theorem Derives.isSum {l : Level} {ts : List Token} {e : Expr} (h : Derives l ts e) :
    e.IsSum := by
  induction h with
  | name s => exact .name s
  | number n | plus n => exact Expr.isSum_settle n
  | minus n => exact Expr.isSum_settle n.negate
  | group _ ih | ofOperand _ ih | ofProduct _ ih => exact ih
  | product _ _ _ ihl ihr | sum _ _ _ ihl ihr => exact .arith _ ihl ihr

theorem Derives.operation {ts us : List Token} {l r : Expr} (op : ArithOp)
    (left : Derives .operand ts l) (right : Derives .operand us r) :
    Derives .sum (ts ++ .arith op :: us) (.arith op l r) := by
  by_cases hop : op.isAdditive
  · exact .chain (l := .sum) hop (.ofProduct (.ofOperand left)) (.ofOperand right)
  · have htakes : Level.product.takes op := by simp [Level.takes, hop]
    exact .ofProduct (.chain htakes (.ofOperand left) right)

theorem Expr.IsSum.derives_tokens {e : Expr} (h : e.IsSum) : Derives .operand e.tokens e := by
  induction h with
  | name s => exact .name s
  | integer n => exact .number (.integer n)
  | @float x kept =>
    have hread := Derives.number (.float x)
    rwa [kept] at hread
  | arith op _ _ ihl ihr => exact .group (.operation op ihl ihr)

theorem Expr.IsSum.derives {e : Expr} (h : e.IsSum) : Derives .sum e.tokens e :=
  .ofProduct (.ofOperand h.derives_tokens)

/-! ## Statements -/

inductive Expr.IsStatement : Expr → Prop where
  | sum {e : Expr} (value : IsSum e) : IsStatement e
  | compare {l r : Expr} (op : CompareOp) (left : IsSum l) (right : IsSum r) :
      IsStatement (.compare op l r)
  | assign {e : Expr} (s : String) (value : IsSum e) : IsStatement (.assign s e)
  | quit : IsStatement .quit

theorem DerivesStatement.isStatement {ts : List Token} {e : Expr} (h : DerivesStatement ts e) :
    e.IsStatement := by
  cases h with
  | assign s value => exact .assign s value.isSum
  | sum value => exact .sum value.isSum
  | compare op left right => exact .compare op left.isSum right.isSum
  | quit | quitSemicolon => exact .quit

theorem Expr.IsStatement.exists_derives {e : Expr} (h : e.IsStatement) :
    ∃ ts, DerivesStatement ts e := by
  cases h with
  | sum value => exact ⟨_, .sum value.derives⟩
  | compare op left right => exact ⟨_, .compare op left.derives right.derives⟩
  | assign s value => exact ⟨_, .assign s value.derives⟩
  | quit => exact ⟨_, .quit⟩

/-- The trees that some tokens are parsed to are exactly those of statements. -/
theorem exists_parse_eq_ok_iff (e : Expr) : (∃ ts, parse ts = .ok e) ↔ e.IsStatement := by
  constructor
  · rintro ⟨ts, hparse⟩
    have hderives := parse_eq_ok_iff.mp hparse
    exact hderives.isStatement
  · intro h
    obtain ⟨ts, hderives⟩ := h.exists_derives
    exact ⟨ts, parse_of_derivesStatement hderives⟩

end Calculator
