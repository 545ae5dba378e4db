import Calculator.Proofs.Grammar

/-!
# Readings

What a reply comes to and where it stops, without the place it began at and without its entries.
Replies from different places compare as readings, and each production has its equation here.
-/

namespace Calculator

open Calculator.Expr

structure Reading where
  outcome : Except ParseError Expr
  rest : List Token

namespace Reading

/-- Goes on behind a tree; stays where an error is. -/
def bind (r : Reading) (next : Expr → List Token → Reading) : Reading :=
  match r.outcome with
  | .error _ => r
  | .ok e => next e r.rest

section bind

variable {e : Expr} {us : List Token} {err : ParseError}
variable {r : Reading} {f g : Expr → List Token → Reading}

@[simp] theorem bind_ok : (⟨.ok e, us⟩ : Reading).bind f = f e us := rfl

@[simp] theorem bind_error : (⟨.error err, us⟩ : Reading).bind f = ⟨.error err, us⟩ := rfl

theorem ok_inj {d : Expr} {vs : List Token} :
    (⟨.ok d, us⟩ : Reading) = ⟨.ok e, vs⟩ ↔ d = e ∧ us = vs := by
  simp

theorem error_inj {err' : ParseError} {vs : List Token} :
    (⟨.error err, us⟩ : Reading) = ⟨.error err', vs⟩ ↔ err = err' ∧ us = vs := by
  simp

theorem bind_ok_self : (r.bind fun e us => ⟨.ok e, us⟩) = r := by
  obtain ⟨_ | _, _⟩ := r <;> rfl

theorem bind_assoc : (r.bind f).bind g = r.bind fun e us => (f e us).bind g := by
  obtain ⟨_ | _, _⟩ := r <;> rfl

theorem bind_congr (h : ∀ e us, r = ⟨.ok e, us⟩ → f e us = g e us) : r.bind f = r.bind g := by
  obtain ⟨_ | e, us⟩ := r
  · rfl
  · exact h e us rfl

theorem bind_eq_ok_iff :
    r.bind f = ⟨.ok e, us⟩ ↔ ∃ d vs, r = ⟨.ok d, vs⟩ ∧ f d vs = ⟨.ok e, us⟩ := by
  constructor
  · intro h
    obtain ⟨_ | d, vs⟩ := r
    · simp at h
    · exact ⟨d, vs, rfl, h⟩
  · rintro ⟨d, vs, rfl, h⟩
    exact h

theorem bind_eq_error_iff :
    r.bind f = ⟨.error err, us⟩ ↔
      r = ⟨.error err, us⟩ ∨ ∃ d vs, r = ⟨.ok d, vs⟩ ∧ f d vs = ⟨.error err, us⟩ := by
  obtain ⟨_ | d, vs⟩ := r
  · simp
  · constructor
    · intro h
      exact .inr ⟨d, vs, rfl, h⟩
    · rintro (h | ⟨d', vs', h, hf⟩)
      · simp at h
      · obtain ⟨rfl, rfl⟩ := ok_inj.mp h
        exact hf

end bind

end Reading

/-! ## Replies as readings -/

namespace Reply

variable {ts us : List Token}

def reading (r : Reply ts) : Reading := ⟨r.outcome, r.rest⟩

theorem suffix_of_reading {r : Reply ts} {outcome : Except ParseError Expr}
    (h : r.reading = ⟨outcome, us⟩) : us <:+ ts := by
  have hrest : r.rest = us := congrArg Reading.rest h
  exact hrest ▸ r.suffix

@[simp] theorem reading_done (e : Expr) : (done e ts).reading = ⟨.ok e, ts⟩ := rfl

@[simp] theorem reading_fail (expected : Expected) :
    (fail expected ts).reading = ⟨.error ⟨ts.head?, expected⟩, ts⟩ := rfl

@[simp] theorem reading_after (t : Token) (r : Reply us) : (r.after t).reading = r.reading := rfl

@[simp] theorem reading_entering (p : Production) (r : Reply ts) :
    (r.entering p).reading = r.reading := rfl

@[simp] theorem reading_andThen (r : Reply ts) (next : Expr → (us : List Token) → Reply us) :
    (r.andThen fun e us _ => next e us).reading =
      r.reading.bind fun e us => (next e us).reading := by
  obtain ⟨_ | _, _, _, _⟩ := r <;> rfl

@[simp] theorem reading_closing_cons (t : Token) (expected : Expected) (e : Expr) :
    (closing t expected e (t :: us)).reading = ⟨.ok e, us⟩ := by
  simp [closing]

theorem reading_closing_eq_ok_iff {t : Token} {expected : Expected} {d e : Expr} :
    (closing t expected e ts).reading = ⟨.ok d, us⟩ ↔ d = e ∧ ts = t :: us := by
  unfold closing
  split
  · simp
  · split
    · simp [*, eq_comm]
    · simp [*]

theorem reading_closing_eq_error_iff {t : Token} {expected : Expected} {e : Expr}
    {err : ParseError} :
    (closing t expected e ts).reading = ⟨.error err, us⟩ ↔
      ts.head? ≠ some t ∧ err = ⟨ts.head?, expected⟩ ∧ us = ts := by
  unfold closing
  split
  · simp [eq_comm]
  · next u vs =>
    split
    · simp [*]
    · simp [*, eq_comm (a := err), eq_comm (a := us)]

end Reply

/-! ## Sums and products -/

namespace Level

def read (p : Place) : Level → (ts : List Token) → Reply ts
  | .sum => ofSum p
  | .product => ofProduct p
  | .operand => ofOperand p

def readTail : Level → Expr → (ts : List Token) → Reply ts
  | .sum => sumTail
  | .product => productTail
  | .operand => Reply.done

variable (l : Level) (p : Place) (left : Expr) {ts us : List Token}

theorem reading_read (ts : List Token) :
    (l.read p ts).reading =
      (l.lower.read p ts).reading.bind fun e us => (l.readTail e us).reading := by
  cases l with
  | sum => simp [read, lower, readTail, ofSum]
  | product => simp [read, lower, readTail, ofProduct]
  | operand => simp [read, lower, readTail, Reading.bind_ok_self]

theorem reading_readTail_arith {op : ArithOp} (h : l.takes op) (us : List Token) :
    (l.readTail left (.arith op :: us)).reading =
      (l.lower.read .inner us).reading.bind fun e vs =>
        (l.readTail (.arith op left e) vs).reading := by
  cases l with
  | sum => simp_all [read, lower, readTail, takes, sumTail]
  | product => simp_all [read, lower, readTail, takes, productTail]
  | operand => cases h

theorem reading_readTail_stop (h : l.Stops ts) : (l.readTail left ts).reading = ⟨.ok left, ts⟩ := by
  cases l with
  | sum =>
    rw [readTail, sumTail.eq_def]
    split
    · simp_all [takes]
    · rfl
  | product =>
    rw [readTail, productTail.eq_def]
    split
    · simp_all [takes]
    · rfl
  | operand => rfl

/-- Induction along a tail: it stops, or it takes an operator with its right side and goes on. -/
theorem tail_induct (l : Level) {motive : Expr → List Token → Prop}
    (stop : ∀ left ts, l.Stops ts → motive left ts)
    (step : ∀ left op us, l.takes op →
      (∀ e vs, (l.lower.read .inner us).reading = ⟨.ok e, vs⟩ → motive (.arith op left e) vs) →
      motive left (.arith op :: us))
    (left : Expr) (ts : List Token) : motive left ts := by
  induction left, ts using flatTail.induct with
  | case1 left op us ih =>
    by_cases hop : l.takes op
    · exact step left op us hop fun e vs h => ih e vs (Reply.suffix_of_reading h)
    · exact stop left _ (stops_arith.mpr hop)
  | case2 left ts hts => exact stop left ts (stops_of_ne_arith hts)

/-- Induction along a reading: an operand reads sums in fewer tokens, and every other level reads
the level below it. -/
theorem read_induct {motive : Level → List Token → Prop}
    (atOperand : ∀ ts, (∀ us, us.length < ts.length → motive .sum us) → motive .operand ts)
    (above : ∀ l ts, (∀ us, us.length ≤ ts.length → motive l.lower us) → motive l ts)
    (l : Level) (ts : List Token) : motive l ts := by
  induction hn : ts.length using Nat.strongRecOn generalizing l ts with
  | ind n ih =>
    have hoperand (us : List Token) (hus : us.length ≤ n) : motive .operand us :=
      atOperand us fun vs hvs => ih vs.length (Nat.lt_of_lt_of_le hvs hus) .sum vs rfl
    have hproduct (us : List Token) (hus : us.length ≤ n) : motive .product us :=
      above .product us fun vs hvs => hoperand vs (Nat.le_trans hvs hus)
    cases l with
    | sum => exact above .sum ts fun us hus => hproduct us (hn ▸ hus)
    | product => exact hproduct ts (Nat.le_of_eq hn)
    | operand => exact hoperand ts (Nat.le_of_eq hn)

theorem stops_of_readTail {left e : Expr} (h : (l.readTail left ts).reading = ⟨.ok e, us⟩) :
    l.Stops us := by
  induction left, ts using l.tail_induct with
  | stop left ts hstop =>
    rw [l.reading_readTail_stop left hstop] at h
    obtain ⟨-, rfl⟩ := Reading.ok_inj.mp h
    exact hstop
  | step left op vs hop ih =>
    rw [l.reading_readTail_arith left hop, Reading.bind_eq_ok_iff] at h
    obtain ⟨d, ws, hd, ht⟩ := h
    exact ih d ws hd ht

theorem stops_of_read {e : Expr} (h : (l.read p ts).reading = ⟨.ok e, us⟩) : l.Stops us := by
  rw [l.reading_read, Reading.bind_eq_ok_iff] at h
  obtain ⟨d, vs, -, ht⟩ := h
  exact l.stops_of_readTail ht

end Level

/-! ## Operands -/

/-- What is asked for where no operand begins. -/
def Place.expected : Place → Expected
  | .opening => .opening
  | .inner => .operand

/-- The tokens that an operand may begin with. -/
def Token.beginsOperand (p : Place) (t : Token) : Prop := t.opens ∨ p = .inner ∧ ∃ s, t = .name s

theorem head_or_not {P : Token → Prop} (ts : List Token) :
    (∃ t us, ts = t :: us ∧ P t) ∨ ∀ t ∈ ts.head?, ¬ P t := by
  rcases ts with _ | ⟨t, us⟩
  · exact .inr (by simp)
  · by_cases ht : P t
    · exact .inl ⟨t, us, rfl, ht⟩
    · exact .inr (by simpa using ht)

namespace Expr

theorem reading_ofOperand_name (s : String) (us : List Token) :
    (ofOperand .inner (.name s :: us)).reading = ⟨.ok (.name s), us⟩ := by
  simp [ofOperand, innerOperand]

theorem reading_ofOperand_number (p : Place) (n : Number) (us : List Token) :
    (ofOperand p (.number n :: us)).reading = ⟨.ok (.number n.settle), us⟩ := by
  cases p <;> simp [ofOperand, openingOperand, innerOperand, ofSignedNumber, ofNumber]

theorem reading_ofOperand_plus (p : Place) (us : List Token) :
    (ofOperand p (.arith .add :: us)).reading = (ofNumber id .numberAfterSign us).reading := by
  cases p <;> simp [ofOperand, openingOperand, innerOperand, ofSignedNumber, ArithOp.isAdditive]

theorem reading_ofOperand_minus (p : Place) (us : List Token) :
    (ofOperand p (.arith .sub :: us)).reading =
      (ofNumber Number.negate .numberAfterSign us).reading := by
  cases p <;> simp [ofOperand, openingOperand, innerOperand, ofSignedNumber, ArithOp.isAdditive]

theorem reading_ofOperand_leftParen (p : Place) (us : List Token) :
    (ofOperand p (.leftParen :: us)).reading =
      (Level.sum.read .inner us).reading.bind fun e vs =>
        (Reply.closing .rightParen .rightParen e vs).reading := by
  cases p <;> simp [ofOperand, openingOperand, innerOperand, ofGroup, Level.read]

theorem reading_ofOperand_fail {p : Place} {ts : List Token}
    (h : ∀ t ∈ ts.head?, ¬ t.beginsOperand p) :
    (ofOperand p ts).reading = ⟨.error ⟨ts.head?, p.expected⟩, ts⟩ := by
  cases p with
  | opening =>
    rw [ofOperand, openingOperand.eq_def]
    rcases ts with _ | ⟨t, us⟩
    · rfl
    cases t with
    | arith op =>
      cases op <;> simp_all [Token.beginsOperand, Token.opens, ArithOp.isAdditive, Place.expected]
    | number | leftParen => simp_all [Token.beginsOperand, Token.opens]
    | _ => rfl
  | inner =>
    rw [ofOperand, innerOperand.eq_def]
    rcases ts with _ | ⟨t, us⟩
    · rfl
    cases t with
    | arith op =>
      cases op <;> simp_all [Token.beginsOperand, Token.opens, ArithOp.isAdditive, Place.expected]
    | number | name | leftParen => simp_all [Token.beginsOperand, Token.opens]
    | _ => rfl

/-! ## Comparisons -/

theorem reading_comparisonTail_compare (op : CompareOp) (left : Expr) (us : List Token) :
    (comparisonTail left (.compare op :: us)).reading =
      (Level.sum.read .inner us).reading.bind fun e vs => ⟨.ok (.compare op left e), vs⟩ := by
  rw [comparisonTail]
  simp [Level.read]

theorem reading_comparisonTail_stop {ts : List Token} (left : Expr)
    (h : ∀ op us, ts = .compare op :: us → False) :
    (comparisonTail left ts).reading = ⟨.ok left, ts⟩ := by
  unfold comparisonTail
  split
  · next op us => exact (h op us rfl).elim
  · simp

end Expr

end Calculator
