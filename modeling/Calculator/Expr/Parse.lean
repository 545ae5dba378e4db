import Calculator.Expr.Reply

/-!
# Reading a statement

A statement is an assignment, a comparison, a sum or `quit`. Products bind tighter than sums, both
group to the left, and a sign belongs to the number behind it. No token is read twice: each
production goes on where the one before it stopped.

A statement that begins with a name reads its sums and products in one loop, `flatTail`, in which a
summand still takes in the factors behind it.
-/

namespace Calculator

/-- The operators between summands; the others stand between factors. They are also the signs. -/
def ArithOp.isAdditive : ArithOp → Bool
  | .add | .sub => true
  | .mul | .div => false

/-- Whether an operand stands first in its statement or within it. -/
inductive Place where
  | opening
  | inner
deriving DecidableEq, Repr

namespace Place

def sum : Place → Production
  | .opening => .openingSum
  | .inner => .sum

def product : Place → Production
  | .opening => .openingProduct
  | .inner => .product

end Place

namespace Expr

/-! ## Numbers -/

/-- A number that `sign` is applied to before it is settled. -/
def ofNumber (sign : Number → Number) (expected : Expected) (ts : List Token) : Reply ts :=
  match ts with
  | .number n :: us => (Reply.done (.number (sign n).settle) us).after (.number n)
  | us => .fail expected us

def ofSignedNumber (ts : List Token) : Reply ts :=
  match ts with
  | .arith .add :: us => (ofNumber id .numberAfterSign us).after (.arith .add)
  | .arith .sub :: us => (ofNumber Number.negate .numberAfterSign us).after (.arith .sub)
  | us => ofNumber id .number us

/-! ## Sums, products and operands -/

mutual

def ofSum (p : Place) (ts : List Token) : Reply ts :=
  ((ofProduct p ts).andThen fun e us _ => sumTail e us).entering p.sum
termination_by 7 * ts.length + 6
decreasing_by
  · omega
  · have := List.IsSuffix.length_le ‹_›; omega

/-- The further summands of a sum. -/
def sumTail (left : Expr) (ts : List Token) : Reply ts :=
  match ts with
  | .arith op :: us =>
    if op.isAdditive then
      ((ofProduct .inner us).andThen fun e vs _ => sumTail (.arith op left e) vs).after (.arith op)
    else
      .done left (.arith op :: us)
  | us => .done left us
termination_by 7 * ts.length + 1
decreasing_by
  · simp only [List.length_cons]; omega
  · have := List.IsSuffix.length_le ‹_›; simp only [List.length_cons]; omega

def ofProduct (p : Place) (ts : List Token) : Reply ts :=
  ((ofOperand p ts).andThen fun e us _ => productTail e us).entering p.product
termination_by 7 * ts.length + 5
decreasing_by
  · omega
  · have := List.IsSuffix.length_le ‹_›; omega

/-- The further factors of a product. -/
def productTail (left : Expr) (ts : List Token) : Reply ts :=
  match ts with
  | .arith op :: us =>
    if op.isAdditive then
      .done left (.arith op :: us)
    else
      ((ofOperand .inner us).andThen fun e vs _ => productTail (.arith op left e) vs).after
        (.arith op)
  | us => .done left us
termination_by 7 * ts.length + 1
decreasing_by
  · simp only [List.length_cons]; omega
  · have := List.IsSuffix.length_le ‹_›; simp only [List.length_cons]; omega

def ofOperand (p : Place) (ts : List Token) : Reply ts :=
  match p with
  | .opening => openingOperand ts
  | .inner => innerOperand ts
termination_by 7 * ts.length + 4

/-- The first operand of a statement. A name is none, since it opens a statement in its own way. -/
def openingOperand (ts : List Token) : Reply ts :=
  (match ts with
    | .number n :: us => ofSignedNumber (.number n :: us)
    | .arith op :: us =>
      if op.isAdditive then ofSignedNumber (.arith op :: us)
      else .fail .opening (.arith op :: us)
    | .leftParen :: us => ofGroup (.leftParen :: us)
    | us => .fail .opening us : Reply ts).entering .openingOperand
termination_by 7 * ts.length + 3
decreasing_by omega

def innerOperand (ts : List Token) : Reply ts :=
  (match ts with
    | .name s :: us => (Reply.done (.name s) us).after (.name s)
    | .number n :: us => ofSignedNumber (.number n :: us)
    | .arith op :: us =>
      if op.isAdditive then ofSignedNumber (.arith op :: us)
      else .fail .operand (.arith op :: us)
    | .leftParen :: us => ofGroup (.leftParen :: us)
    | us => .fail .operand us : Reply ts).entering .operand
termination_by 7 * ts.length + 3
decreasing_by omega

/-- A sum in parentheses, which leave no trace in the tree. -/
def ofGroup (ts : List Token) : Reply ts :=
  match ts with
  | .leftParen :: us =>
    ((ofSum .inner us).andThen fun e vs _ => .closing .rightParen .rightParen e vs).after .leftParen
  | us => .fail .leftParen us
termination_by 7 * ts.length + 2
decreasing_by simp only [List.length_cons]; omega

end

/-! ## Statements -/

/-- What follows the left side of a comparison, or of none. -/
def comparisonTail (left : Expr) (ts : List Token) : Reply ts :=
  match ts with
  | .compare op :: us =>
    ((ofSum .inner us).andThen fun e vs _ => .done (.compare op left e) vs).after (.compare op)
  | us => .done left us

/-- The operators behind a leading name, each with its right side. -/
def flatTail (left : Expr) (ts : List Token) : Reply ts :=
  match ts with
  | .arith op :: us =>
    let right := if op.isAdditive then ofProduct .inner us else ofOperand .inner us
    (right.andThen fun e vs _ => flatTail (.arith op left e) vs).after (.arith op)
  | us => .done left us
termination_by ts.length
decreasing_by have := List.IsSuffix.length_le ‹_›; simp only [List.length_cons]; omega

def nameTail (left : Expr) (ts : List Token) : Reply ts :=
  ((flatTail left ts).andThen fun e us _ => comparisonTail e us).entering .nameTail

def openingComparison (ts : List Token) : Reply ts :=
  ((ofSum .opening ts).andThen fun e us _ => comparisonTail e us).entering .openingComparison

/-- The semicolon behind every statement but `quit`. -/
def semicolon (e : Expr) (ts : List Token) : Reply ts := .closing .semicolon .semicolon e ts

/-- One statement at the front of the tokens, none of which is a comment. -/
def ofStatement (ts : List Token) : Reply ts :=
  (match ts with
    | .name s :: .assign :: us =>
      (((ofSum .inner us).andThen fun e vs _ => semicolon (.assign s e) vs).after .assign).after
        (.name s)
    | .name s :: us =>
      ((nameTail (.name s) us).andThen fun e vs _ => semicolon e vs).after (.name s)
    | .quit :: .semicolon :: us => ((Reply.done .quit us).after .semicolon).after .quit
    | .quit :: us => (Reply.done .quit us).after .quit
    | us => (openingComparison us).andThen fun e vs _ => semicolon e vs : Reply ts).entering
      .statement

end Expr

/-- The tokens that take part in a statement. -/
def withoutComments (tokens : List Token) : List Token := tokens.filter fun t => !t.isComment

theorem withoutComments_append (ts us : List Token) :
    withoutComments (ts ++ us) = withoutComments ts ++ withoutComments us :=
  List.filter_append ts us

theorem withoutComments_idem (ts : List Token) :
    withoutComments (withoutComments ts) = withoutComments ts :=
  List.filter_filter.trans (by simp [withoutComments])

theorem withoutComments_eq_self {ts : List Token} (h : ∀ s, .comment s ∉ ts) :
    withoutComments ts = ts := by
  refine List.filter_eq_self.mpr fun t ht => ?_
  cases t with
  | comment s => exact absurd ht (h s)
  | _ => rfl

/-- Reads the tokens of one statement. -/
def read (tokens : List Token) : Reply (withoutComments tokens) :=
  Expr.ofStatement (withoutComments tokens)

/-- The tree of exactly one statement. -/
def parse (tokens : List Token) : Except ParseError Expr := (read tokens).complete

/-! ## Parsers -/

/-- The tokens that take part in a statement, and how many of them were passed. -/
structure Parser where
  tokens : List Token
  position : Nat
deriving DecidableEq

/-- What a parser comes to, where it stands then, and the positions of the productions entered. -/
structure Parsed where
  outcome : Except ParseError Expr
  parser : Parser
  entered : List (Production × Nat)

namespace Parser

def new (tokens : List Token) : Parser := ⟨withoutComments tokens, 0⟩

/-- The tokens that are not passed yet. -/
def ahead (p : Parser) : List Token := p.tokens.drop p.position

/-- Reads on from where the parser stands, and leaves it where the reading stops. -/
def enter (p : Parser) (read : (ts : List Token) → Reply ts) : Parsed :=
  let reply := read p.ahead
  let total := p.tokens.length
  ⟨reply.outcome, { p with position := total - reply.rest.length },
    reply.entries.map fun e => (e.production, e.position total)⟩

/-- Reads exactly one statement, from the first token on wherever the parser stands. -/
def parse (p : Parser) : Parsed :=
  let parsed := { p with position := 0 }.enter Expr.ofStatement
  match parsed.outcome, parsed.parser.ahead with
  | .ok _, t :: _ => { parsed with outcome := .error ⟨some t, .nothing⟩ }
  | _, _ => parsed

end Parser

end Calculator
