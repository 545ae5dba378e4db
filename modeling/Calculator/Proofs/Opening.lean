import Calculator.Proofs.Reading

/-!
# Openings

An expression is read in one of three ways. Behind the name that opens a statement a flat loop
takes all operators, any other opening has productions of its own, and everywhere else sums and
products are read by the inner productions. All three come to the same and stop at the same token.
-/

namespace Calculator

/-- The tokens that a statement may begin with. -/
def Token.begins (t : Token) : Prop := t.opens ∨ t = .quit ∨ ∃ s, t = .name s

namespace Expr

open Level

/-- A sum and what it is compared with, read alike whatever token it begins with. -/
def comparison (ts : List Token) : Reply ts :=
  (ofSum .inner ts).andThen fun e us _ => comparisonTail e us

theorem reading_comparison (ts : List Token) :
    (comparison ts).reading =
      (sum.read .inner ts).reading.bind fun e us => (comparisonTail e us).reading := by
  simp [comparison, Level.read]

/-! ## Behind a name -/

theorem reading_flatTail_arith (op : ArithOp) (left : Expr) (us : List Token) :
    (flatTail left (.arith op :: us)).reading =
      (if op.isAdditive then product.read .inner us else operand.read .inner us).reading.bind
        fun e vs => (flatTail (.arith op left e) vs).reading := by
  rw [flatTail]
  simp [Level.read]

theorem reading_flatTail_stop {ts : List Token} (left : Expr)
    (h : ∀ op us, ts = .arith op :: us → False) :
    (flatTail left ts).reading = ⟨.ok left, ts⟩ := by
  unfold flatTail
  split
  · next op us => exact (h op us rfl).elim
  · simp

theorem reading_flatTail (left : Expr) (ts : List Token) :
    (flatTail left ts).reading =
      (product.readTail left ts).reading.bind fun e us => (sum.readTail e us).reading := by
  induction left, ts using flatTail.induct with
  | case1 left op us ih =>
    rw [reading_flatTail_arith]
    by_cases hop : op.isAdditive
    · have hstop : product.Stops (.arith op :: us) := by simp [takes, hop]
      rw [if_pos hop, product.reading_readTail_stop left hstop, Reading.bind_ok,
        sum.reading_readTail_arith left hop]
      refine Reading.bind_congr fun e vs h => ?_
      -- The summand has taken in all its factors, so only summands can follow it.
      have hvs : product.Stops vs := product.stops_of_read .inner h
      rw [ih e vs (Reply.suffix_of_reading h), product.reading_readTail_stop _ hvs,
        Reading.bind_ok]
    · have hmul : product.takes op := by simp [takes, hop]
      rw [if_neg hop, product.reading_readTail_arith left hmul, Reading.bind_assoc]
      exact Reading.bind_congr fun e vs h => ih e vs (Reply.suffix_of_reading h)
  | case2 left ts hts =>
    rw [reading_flatTail_stop left hts, product.reading_readTail_stop left (stops_of_ne_arith hts),
      Reading.bind_ok, sum.reading_readTail_stop left (stops_of_ne_arith hts)]

theorem reading_nameTail (s : String) (us : List Token) :
    (nameTail (.name s) us).reading = (comparison (.name s :: us)).reading := by
  have hoperand : (operand.read .inner (.name s :: us)).reading = ⟨.ok (.name s), us⟩ :=
    reading_ofOperand_name s us
  have hsum : (sum.read .inner (.name s :: us)).reading = (flatTail (.name s) us).reading := by
    rw [sum.reading_read, lower, product.reading_read, lower, hoperand, Reading.bind_ok,
      reading_flatTail]
  rw [reading_comparison, hsum]
  simp [nameTail]

theorem reading_ofStatement_name (s : String) {us : List Token} (h : us.head? ≠ some .assign) :
    (ofStatement (.name s :: us)).reading =
      (comparison (.name s :: us)).reading.bind fun e vs => (semicolon e vs).reading := by
  rw [← reading_nameTail]
  cases us with
  | nil => simp [ofStatement]
  | cons t vs => cases t <;> simp_all [ofStatement]

/-! ## Before other tokens -/

theorem reading_ofOperand_opening {t : Token} (h : t.opens) (us : List Token) :
    (ofOperand .opening (t :: us)).reading = (ofOperand .inner (t :: us)).reading := by
  unfold Token.opens at h
  split at h
  · simp only [reading_ofOperand_number]
  · simp only [reading_ofOperand_plus]
  · simp only [reading_ofOperand_minus]
  · simp only [reading_ofOperand_leftParen]
  · cases h

theorem reading_openingComparison {t : Token} (h : t.opens) (us : List Token) :
    (openingComparison (t :: us)).reading = (comparison (t :: us)).reading := by
  have hoperand : (operand.read .opening (t :: us)).reading =
      (operand.read .inner (t :: us)).reading := reading_ofOperand_opening h us
  have hsum : (sum.read .opening (t :: us)).reading = (sum.read .inner (t :: us)).reading := by
    simp only [sum.reading_read, product.reading_read, lower, hoperand]
  rw [reading_comparison, ← hsum]
  simp [openingComparison, Level.read]

theorem reading_ofStatement_opens {t : Token} (h : t.opens) (us : List Token) :
    (ofStatement (t :: us)).reading =
      (comparison (t :: us)).reading.bind fun e vs => (semicolon e vs).reading := by
  rw [← reading_openingComparison h]
  cases t with
  | number | arith | leftParen => simp [ofStatement]
  | _ => cases h

/-! ## Other statements -/

theorem reading_ofStatement_assign (s : String) (us : List Token) :
    (ofStatement (.name s :: .assign :: us)).reading =
      (sum.read .inner us).reading.bind fun e vs => (semicolon (.assign s e) vs).reading := by
  simp [ofStatement, Level.read]

theorem reading_ofStatement_quit {us : List Token} (h : us.head? ≠ some .semicolon) :
    (ofStatement (.quit :: us)).reading = ⟨.ok .quit, us⟩ := by
  rcases us with _ | ⟨u, us⟩
  · rfl
  · cases u with
    | semicolon => simp at h
    | _ => rfl

theorem reading_ofStatement_fail {ts : List Token} (h : ∀ t ∈ ts.head?, ¬ t.begins) :
    (ofStatement ts).reading = ⟨.error ⟨ts.head?, .opening⟩, ts⟩ := by
  have hoperand : (operand.read .opening ts).reading = ⟨.error ⟨ts.head?, .opening⟩, ts⟩ := by
    refine reading_ofOperand_fail fun t ht => ?_
    rintro (hopens | ⟨hinner, -⟩)
    · exact h t ht (.inl hopens)
    · cases hinner
  have hopening : (openingComparison ts).reading = ⟨.error ⟨ts.head?, .opening⟩, ts⟩ := by
    have hsum := sum.reading_read .opening ts
    rw [lower, product.reading_read, lower, hoperand] at hsum
    rw [openingComparison, Reply.reading_entering, Reply.reading_andThen]
    exact hsum ▸ rfl
  rcases ts with _ | ⟨t, us⟩
  · simp [ofStatement, hopening]
  · have ht := h t rfl
    cases t with
    | name | quit => simp [Token.begins] at ht
    | _ => simp [ofStatement, hopening]

/-- Whatever opens a statement, it is read as a sum of the inner productions and what that is
compared with: with the same tree or the same error, and up to the same token. -/
theorem openings_read_alike :
    (∀ (s : String) (us : List Token), us.head? ≠ some .assign →
      (ofStatement (.name s :: us)).reading =
        ((comparison (.name s :: us)).andThen fun e vs _ => semicolon e vs).reading) ∧
    ∀ (t : Token) (us : List Token), t.opens →
      (openingComparison (t :: us)).reading = (comparison (t :: us)).reading := by
  refine ⟨fun s us h => ?_, fun t us h => reading_openingComparison h us⟩
  rw [reading_ofStatement_name s h, Reply.reading_andThen]

/-- `a * 2 + ;` and `(a > 2;` are refused alike, at the semicolon and at the comparison. -/
theorem openings_read_alike_at_fault :
    [Token.arith .mul, .number (.integer 2), .arith .add, .semicolon].head? ≠ some .assign ∧
      (ofStatement
          [.name "a", .arith .mul, .number (.integer 2), .arith .add, .semicolon]).reading =
        ((comparison
            [.name "a", .arith .mul, .number (.integer 2), .arith .add, .semicolon]).andThen
          fun e vs _ => semicolon e vs).reading ∧
      Token.leftParen.opens ∧
      (openingComparison
          [.leftParen, .name "a", .compare .gt, .number (.integer 2), .semicolon]).reading =
        (comparison
          [.leftParen, .name "a", .compare .gt, .number (.integer 2), .semicolon]).reading := by
  have hhead : [Token.arith .mul, .number (.integer 2), .arith .add, .semicolon].head? ≠
      some .assign := by simp
  exact ⟨hhead, openings_read_alike.1 "a" _ hhead, rfl, openings_read_alike.2 .leftParen _ rfl⟩

end Expr

end Calculator
