import Calculator.Expr

/-!
# Replies

What reading a list of tokens from its front comes to. A reply says how far the reading got also
when it failed, and which productions it entered on the way. It never gives a token back: the rest
is always an end of the list.
-/

namespace Calculator

/-! ## Errors -/

/-- What the grammar asks for where it cannot go on. -/
inductive Expected where
  | semicolon
  /-- Nothing, since the statement is complete. -/
  | nothing
  /-- An operand that is not a name. -/
  | opening
  | operand
  | number
  | numberAfterSign
  | leftParen
  | rightParen
deriving DecidableEq, Repr

def Expected.message : Expected → String
  | .semicolon => "semicolon required"
  | .nothing => "only one statement is allowed per input"
  | .opening => "expected a number or '(' to start the statement"
  | .operand => "expected an identifier, a number or '('"
  | .number => "number expected"
  | .numberAfterSign => "number expected after sign"
  | .leftParen => "'(' expected"
  | .rightParen => "missing right parenthesis"

/-- The token that the grammar has no place for, or the end of the tokens. -/
structure ParseError where
  token? : Option Token
  expected : Expected
deriving DecidableEq

def ParseError.message (e : ParseError) : String :=
  let place := match e.token? with
    | some t => "unexpected '" ++ t.text ++ "'"
    | none => "unexpected end of input"
  place ++ ": " ++ e.expected.message

/-! ## Entries -/

/-- The productions that leave an entry when they are entered. The opening ones read the beginning
of a statement, where a name may not stand. -/
inductive Production where
  | statement
  | nameTail
  | openingComparison
  | openingSum
  | openingProduct
  | openingOperand
  | sum
  | product
  | operand
deriving DecidableEq, Repr

def Production.text : Production → String
  | .statement => "command"
  | .nameTail => "idless tail"
  | .openingComparison => "non-id arith or compare"
  | .openingSum => "non-id arith exp"
  | .openingProduct => "non-id term"
  | .openingOperand => "non-id factor"
  | .sum => "arith exp"
  | .product => "term"
  | .operand => "factor"

/-- A production and the tokens that were ahead of it. -/
structure Entry where
  production : Production
  ahead : List Token
deriving DecidableEq

/-- How many of `total` tokens stand before the entry. -/
def Entry.position (total : Nat) (e : Entry) : Nat := total - e.ahead.length

/-! ## Replies -/

structure Reply (ts : List Token) where
  outcome : Except ParseError Expr
  rest : List Token
  entries : List Entry
  suffix : rest <:+ ts

namespace Reply

variable {ts us : List Token}

def done (e : Expr) (ts : List Token) : Reply ts := ⟨.ok e, ts, [], List.suffix_refl ts⟩

/-- Stops at the next token. -/
def fail (expected : Expected) (ts : List Token) : Reply ts :=
  ⟨.error ⟨ts.head?, expected⟩, ts, [], List.suffix_refl ts⟩

/-- The same reply as seen from an earlier place. -/
def lift (r : Reply us) (h : us <:+ ts) : Reply ts :=
  ⟨r.outcome, r.rest, r.entries, r.suffix.trans h⟩

/-- The same reply as seen from one token earlier. -/
def after (t : Token) (r : Reply us) : Reply (t :: us) := r.lift (List.suffix_cons t us)

/-- Puts the entry of a production in front. -/
def entering (p : Production) (r : Reply ts) : Reply ts :=
  { r with entries := ⟨p, ts⟩ :: r.entries }

/-- Goes on behind a tree; stays where an error is. -/
def andThen (r : Reply ts) (next : Expr → (us : List Token) → us <:+ ts → Reply us) : Reply ts :=
  match r.outcome with
  | .error _ => r
  | .ok e =>
    let s := next e r.rest r.suffix
    ⟨s.outcome, s.rest, r.entries ++ s.entries, s.suffix.trans r.suffix⟩

@[simp] theorem outcome_after (t : Token) (r : Reply us) : (r.after t).outcome = r.outcome := rfl

@[simp] theorem rest_after (t : Token) (r : Reply us) : (r.after t).rest = r.rest := rfl

@[simp] theorem entries_after (t : Token) (r : Reply us) : (r.after t).entries = r.entries := rfl

@[simp] theorem outcome_entering (p : Production) (r : Reply ts) :
    (r.entering p).outcome = r.outcome := rfl

@[simp] theorem rest_entering (p : Production) (r : Reply ts) :
    (r.entering p).rest = r.rest := rfl

@[simp] theorem entries_entering (p : Production) (r : Reply ts) :
    (r.entering p).entries = ⟨p, ts⟩ :: r.entries := rfl

section andThen

variable {r : Reply ts} {next : Expr → (us : List Token) → us <:+ ts → Reply us}

theorem andThen_of_error {e : ParseError} (h : r.outcome = .error e) : r.andThen next = r := by
  simp [andThen, h]

theorem rest_andThen_of_ok {e : Expr} (h : r.outcome = .ok e) :
    (r.andThen next).rest = (next e r.rest r.suffix).rest := by
  simp [andThen, h]

theorem entries_andThen_of_ok {e : Expr} (h : r.outcome = .ok e) :
    (r.andThen next).entries = r.entries ++ (next e r.rest r.suffix).entries := by
  simp [andThen, h]

end andThen

/-- Takes a token that carries nothing and keeps the tree. -/
def closing (t : Token) (expected : Expected) (e : Expr) (ts : List Token) : Reply ts :=
  match ts with
  | [] => fail expected []
  | u :: us => if u = t then (done e us).after u else fail expected (u :: us)

/-- Allows no further token. -/
def complete (r : Reply ts) : Except ParseError Expr :=
  match r.outcome, r.rest with
  | .ok _, t :: _ => .error ⟨some t, .nothing⟩
  | outcome, _ => outcome

end Reply

end Calculator
