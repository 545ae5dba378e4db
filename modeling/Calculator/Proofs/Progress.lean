import Calculator.Expr.Parse

/-!
# Reading goes forward

A reading stops at an end of what it was given, and each production is entered between the place
where the reading began and the place where it stops. An operand takes at least one token. So the
positions that a parser passes through never decrease, with a tree as with an error.
-/

namespace Calculator

open Calculator.Expr

namespace Reply

variable {ts us : List Token}

/-! ## Places in order -/

/-- From where the reading begins, through its entries, to where it stops, nothing is given back. -/
def Forward (r : Reply ts) : Prop :=
  (ts :: (r.entries.map Entry.ahead ++ [r.rest])).Pairwise fun before after => after <:+ before

theorem forward_done (e : Expr) (ts : List Token) : (done e ts).Forward := by
  simp [Forward, done]

theorem forward_fail (expected : Expected) (ts : List Token) : (fail expected ts).Forward := by
  simp [Forward, fail]

namespace Forward

variable {r : Reply us}

theorem suffix_of_mem {r : Reply ts} (h : r.Forward) {vs : List Token}
    (hvs : vs ∈ r.entries.map Entry.ahead ++ [r.rest]) : vs <:+ ts :=
  (List.pairwise_cons.mp h).1 vs hvs

theorem after (h : r.Forward) (t : Token) : (r.after t).Forward := by
  refine List.pairwise_cons.mpr ⟨fun vs hvs => ?_, (List.pairwise_cons.mp h).2⟩
  exact (h.suffix_of_mem hvs).trans (List.suffix_cons t us)

theorem entering (h : r.Forward) (p : Production) : (r.entering p).Forward := by
  refine List.pairwise_cons.mpr ⟨fun vs hvs => ?_, h⟩
  rcases List.mem_cons.mp hvs with rfl | hvs
  · exact List.suffix_refl _
  · exact h.suffix_of_mem hvs

theorem andThen {next : Expr → (vs : List Token) → vs <:+ us → Reply vs} (h : r.Forward)
    (hnext : ∀ e vs hvs, (next e vs hvs).Forward) : (r.andThen next).Forward := by
  cases houtcome : r.outcome with
  | error err => rwa [andThen_of_error houtcome]
  | ok e =>
    have hs := hnext e r.rest r.suffix
    rw [Forward, ← List.cons_append] at h
    obtain ⟨hbefore, -, hstop⟩ := List.pairwise_append.mp h
    rw [Forward, rest_andThen_of_ok houtcome, entries_andThen_of_ok houtcome, List.map_append,
      List.append_assoc, ← List.cons_append]
    refine List.pairwise_append.mpr ⟨hbefore, (List.pairwise_cons.mp hs).2, fun vs hvs ws hws => ?_⟩
    exact (hs.suffix_of_mem hws).trans (hstop vs hvs r.rest List.mem_cons_self)

end Forward

theorem forward_closing (t : Token) (expected : Expected) (e : Expr) (ts : List Token) :
    (closing t expected e ts).Forward := by
  unfold closing
  split
  · exact forward_fail expected []
  split
  · exact (forward_done e _).after _
  · exact forward_fail expected _

end Reply

namespace Expr

theorem forward_ofNumber (sign : Number → Number) (expected : Expected) (ts : List Token) :
    (ofNumber sign expected ts).Forward := by
  unfold ofNumber
  split
  · exact (Reply.forward_done _ _).after _
  · exact Reply.forward_fail _ _

theorem forward_ofSignedNumber (ts : List Token) : (ofSignedNumber ts).Forward := by
  unfold ofSignedNumber
  split
  · exact (forward_ofNumber _ _ _).after _
  · exact (forward_ofNumber _ _ _).after _
  · exact forward_ofNumber _ _ _

mutual

theorem forward_ofSum (p : Place) (ts : List Token) : (ofSum p ts).Forward := by
  rw [ofSum]
  exact ((forward_ofProduct p ts).andThen fun e us _ => forward_sumTail e us).entering _
termination_by 7 * ts.length + 6
decreasing_by
  · omega
  · have := List.IsSuffix.length_le ‹_›; omega

-- The tokens are taken apart before the reader is opened, so that the measure sees them get fewer.
theorem forward_sumTail (left : Expr) (ts : List Token) : (sumTail left ts).Forward := by
  rcases ts with _ | ⟨t, us⟩
  · rw [sumTail.eq_def]
    exact Reply.forward_done left []
  cases t with
  | arith op =>
    rw [sumTail]
    split
    · exact ((forward_ofProduct .inner us).andThen fun e vs _ => forward_sumTail _ vs).after _
    · exact Reply.forward_done left _
  | _ =>
    rw [sumTail.eq_def]
    exact Reply.forward_done left _
termination_by 7 * ts.length + 1
decreasing_by
  · simp only [List.length_cons]; omega
  · have := List.IsSuffix.length_le ‹_›; simp only [List.length_cons]; omega

theorem forward_ofProduct (p : Place) (ts : List Token) : (ofProduct p ts).Forward := by
  rw [ofProduct]
  exact ((forward_ofOperand p ts).andThen fun e us _ => forward_productTail e us).entering _
termination_by 7 * ts.length + 5
decreasing_by
  · omega
  · have := List.IsSuffix.length_le ‹_›; omega

theorem forward_productTail (left : Expr) (ts : List Token) : (productTail left ts).Forward := by
  rcases ts with _ | ⟨t, us⟩
  · rw [productTail.eq_def]
    exact Reply.forward_done left []
  cases t with
  | arith op =>
    rw [productTail]
    split
    · exact Reply.forward_done left _
    · exact ((forward_ofOperand .inner us).andThen fun e vs _ => forward_productTail _ vs).after _
  | _ =>
    rw [productTail.eq_def]
    exact Reply.forward_done left _
termination_by 7 * ts.length + 1
decreasing_by
  · simp only [List.length_cons]; omega
  · have := List.IsSuffix.length_le ‹_›; simp only [List.length_cons]; omega

theorem forward_ofOperand (p : Place) (ts : List Token) : (ofOperand p ts).Forward := by
  cases p with
  | opening =>
    rw [ofOperand]
    exact forward_openingOperand ts
  | inner =>
    rw [ofOperand]
    exact forward_innerOperand ts
termination_by 7 * ts.length + 4

theorem forward_openingOperand (ts : List Token) : (openingOperand ts).Forward := by
  rw [openingOperand.eq_def]
  apply Reply.Forward.entering
  rcases ts with _ | ⟨t, us⟩
  · exact Reply.forward_fail _ _
  cases t with
  | number n => exact forward_ofSignedNumber _
  | arith op =>
    dsimp only
    split
    · exact forward_ofSignedNumber _
    · exact Reply.forward_fail _ _
  | leftParen => exact forward_ofGroup _
  | _ => exact Reply.forward_fail _ _
termination_by 7 * ts.length + 3
decreasing_by simp only [List.length_cons]; omega

theorem forward_innerOperand (ts : List Token) : (innerOperand ts).Forward := by
  rw [innerOperand.eq_def]
  apply Reply.Forward.entering
  rcases ts with _ | ⟨t, us⟩
  · exact Reply.forward_fail _ _
  cases t with
  | name s => exact (Reply.forward_done _ us).after _
  | number n => exact forward_ofSignedNumber _
  | arith op =>
    dsimp only
    split
    · exact forward_ofSignedNumber _
    · exact Reply.forward_fail _ _
  | leftParen => exact forward_ofGroup _
  | _ => exact Reply.forward_fail _ _
termination_by 7 * ts.length + 3
decreasing_by simp only [List.length_cons]; omega

theorem forward_ofGroup (ts : List Token) : (ofGroup ts).Forward := by
  rcases ts with _ | ⟨t, us⟩
  · rw [ofGroup.eq_def]
    exact Reply.forward_fail _ _
  cases t with
  | leftParen =>
    rw [ofGroup]
    exact ((forward_ofSum .inner us).andThen fun e vs _ => Reply.forward_closing _ _ e vs).after _
  | _ =>
    rw [ofGroup.eq_def]
    exact Reply.forward_fail _ _
termination_by 7 * ts.length + 2
decreasing_by simp only [List.length_cons]; omega

end

theorem forward_comparisonTail (left : Expr) (ts : List Token) :
    (comparisonTail left ts).Forward := by
  unfold comparisonTail
  split
  · exact ((forward_ofSum .inner _).andThen fun _ vs _ => Reply.forward_done _ vs).after _
  · exact Reply.forward_done left ts

theorem forward_flatTail (left : Expr) (ts : List Token) : (flatTail left ts).Forward := by
  induction left, ts using flatTail.induct with
  | case1 left op us ih =>
    rw [flatTail]
    refine (Reply.Forward.andThen ?_ ih).after _
    split
    · exact forward_ofProduct .inner us
    · exact forward_ofOperand .inner us
  | case2 left ts hts =>
    unfold flatTail
    split
    · next op us => exact (hts op us rfl).elim
    · exact Reply.forward_done left _

theorem forward_nameTail (left : Expr) (ts : List Token) : (nameTail left ts).Forward :=
  ((forward_flatTail left ts).andThen fun e us _ => forward_comparisonTail e us).entering _

theorem forward_openingComparison (ts : List Token) : (openingComparison ts).Forward :=
  ((forward_ofSum .opening ts).andThen fun e us _ => forward_comparisonTail e us).entering _

theorem forward_semicolon (e : Expr) (ts : List Token) : (semicolon e ts).Forward :=
  Reply.forward_closing _ _ e ts

theorem forward_ofStatement (ts : List Token) : (ofStatement ts).Forward := by
  unfold ofStatement
  apply Reply.Forward.entering
  split
  · exact (((forward_ofSum .inner _).andThen fun _ vs _ => forward_semicolon _ vs).after _).after _
  · exact ((forward_nameTail _ _).andThen fun _ vs _ => forward_semicolon _ vs).after _
  · exact ((Reply.forward_done _ _).after _).after _
  · exact (Reply.forward_done _ _).after _
  · exact (forward_openingComparison _).andThen fun _ vs _ => forward_semicolon _ vs

end Expr

/-! ## Tokens taken -/

namespace Reply

variable {ts us : List Token}

/-- A tree takes at least one token. -/
def Advances (r : Reply ts) : Prop := ∀ e, r.outcome = .ok e → r.rest.length < ts.length

theorem advances_fail (expected : Expected) (ts : List Token) : (fail expected ts).Advances := by
  rintro e ⟨⟩

theorem advances_after (t : Token) (r : Reply us) : (r.after t).Advances := fun _ _ =>
  Nat.lt_succ_of_le r.suffix.length_le

namespace Advances

variable {r : Reply ts}

theorem entering (h : r.Advances) (p : Production) : (r.entering p).Advances := h

theorem andThen {next : Expr → (vs : List Token) → vs <:+ ts → Reply vs} (h : r.Advances) :
    (r.andThen next).Advances := by
  intro e he
  cases houtcome : r.outcome with
  | error err =>
    rw [andThen_of_error houtcome] at he ⊢
    exact h e he
  | ok d =>
    rw [rest_andThen_of_ok houtcome]
    exact Nat.lt_of_le_of_lt (next d r.rest r.suffix).suffix.length_le (h d houtcome)

end Advances

end Reply

namespace Expr

theorem advances_ofSignedNumber (ts : List Token) : (ofSignedNumber ts).Advances := by
  unfold ofSignedNumber
  split
  · exact Reply.advances_after _ _
  · exact Reply.advances_after _ _
  · unfold ofNumber
    split
    · exact Reply.advances_after _ _
    · exact Reply.advances_fail _ _

theorem advances_ofGroup (ts : List Token) : (ofGroup ts).Advances := by
  rw [ofGroup.eq_def]
  split
  · exact Reply.advances_after _ _
  · exact Reply.advances_fail _ _

theorem advances_openingOperand (ts : List Token) : (openingOperand ts).Advances := by
  rw [openingOperand.eq_def]
  apply Reply.Advances.entering
  split
  · exact advances_ofSignedNumber _
  · split
    · exact advances_ofSignedNumber _
    · exact Reply.advances_fail _ _
  · exact advances_ofGroup _
  · exact Reply.advances_fail _ _

theorem advances_innerOperand (ts : List Token) : (innerOperand ts).Advances := by
  rw [innerOperand.eq_def]
  apply Reply.Advances.entering
  split
  · exact Reply.advances_after _ _
  · exact advances_ofSignedNumber _
  · split
    · exact advances_ofSignedNumber _
    · exact Reply.advances_fail _ _
  · exact advances_ofGroup _
  · exact Reply.advances_fail _ _

theorem advances_ofOperand (p : Place) (ts : List Token) : (ofOperand p ts).Advances := by
  cases p with
  | opening =>
    rw [ofOperand]
    exact advances_openingOperand ts
  | inner =>
    rw [ofOperand]
    exact advances_innerOperand ts

theorem advances_ofProduct (p : Place) (ts : List Token) : (ofProduct p ts).Advances := by
  rw [ofProduct]
  exact (advances_ofOperand p ts).andThen.entering _

theorem advances_ofSum (p : Place) (ts : List Token) : (ofSum p ts).Advances := by
  rw [ofSum]
  exact (advances_ofProduct p ts).andThen.entering _

theorem advances_openingComparison (ts : List Token) : (openingComparison ts).Advances :=
  (advances_ofSum .opening ts).andThen.entering _

theorem advances_ofStatement (ts : List Token) : (ofStatement ts).Advances := by
  unfold ofStatement
  apply Reply.Advances.entering
  split
  · exact Reply.advances_after _ _
  · exact Reply.advances_after _ _
  · exact Reply.advances_after _ _
  · exact Reply.advances_after _ _
  · exact (advances_openingComparison _).andThen

end Expr

/-! ## Readers -/

/-- What a parser can be made to read from where it stands. -/
inductive Reader where
  | statement
  | nameTail (left : Expr)
  | openingComparison
  | comparisonTail (left : Expr)
  | sum (p : Place)
  | product (p : Place)
  | operand (p : Place)
  | signedNumber
  | group

namespace Reader

def read : Reader → (ts : List Token) → Reply ts
  | statement => ofStatement
  | nameTail left => Expr.nameTail left
  | openingComparison => Expr.openingComparison
  | comparisonTail left => Expr.comparisonTail left
  | sum p => ofSum p
  | product p => ofProduct p
  | operand p => ofOperand p
  | signedNumber => ofSignedNumber
  | group => ofGroup

/-- A tail goes on behind a tree, and what goes on may be nothing. -/
def isTail : Reader → Bool
  | nameTail _ | comparisonTail _ => true
  | _ => false

theorem forward (reader : Reader) (ts : List Token) : (reader.read ts).Forward := by
  cases reader with
  | statement => exact forward_ofStatement ts
  | nameTail left => exact forward_nameTail left ts
  | openingComparison => exact forward_openingComparison ts
  | comparisonTail left => exact forward_comparisonTail left ts
  | sum p => exact forward_ofSum p ts
  | product p => exact forward_ofProduct p ts
  | operand p => exact forward_ofOperand p ts
  | signedNumber => exact forward_ofSignedNumber ts
  | group => exact forward_ofGroup ts

theorem advances {reader : Reader} (h : ¬ reader.isTail) (ts : List Token) :
    (reader.read ts).Advances := by
  cases reader with
  | statement => exact advances_ofStatement ts
  | nameTail left => exact absurd rfl h
  | openingComparison => exact advances_openingComparison ts
  | comparisonTail left => exact absurd rfl h
  | sum p => exact advances_ofSum p ts
  | product p => exact advances_ofProduct p ts
  | operand p => exact advances_ofOperand p ts
  | signedNumber => exact advances_ofSignedNumber ts
  | group => exact advances_ofGroup ts

end Reader

/-! ## Positions -/

namespace Parser

variable {p : Parser}

theorem length_ahead (p : Parser) : p.ahead.length = p.tokens.length - p.position :=
  List.length_drop

theorem ahead_enter (p : Parser) (read : (ts : List Token) → Reply ts) :
    (p.enter read).parser.ahead = (read p.ahead).rest := by
  have hsuffix := (read p.ahead).suffix.trans (List.drop_suffix p.position p.tokens)
  exact (List.suffix_iff_eq_drop.mp hsuffix).symm

/-- Where the reading begins, the entries and where it stops, as positions. -/
def passed (p : Parser) (parsed : Parsed) : List Nat :=
  p.position :: (parsed.entered.map Prod.snd ++ [parsed.parser.position])

theorem passed_sorted (h : p.position ≤ p.tokens.length) {read : (ts : List Token) → Reply ts}
    (hread : (read p.ahead).Forward) : (p.passed (p.enter read)).Pairwise (· ≤ ·) := by
  have hposition : p.tokens.length - p.ahead.length = p.position := by
    rw [length_ahead]
    omega
  have hpassed : p.passed (p.enter read) =
      (p.ahead :: ((read p.ahead).entries.map Entry.ahead ++ [(read p.ahead).rest])).map
        fun ts => p.tokens.length - ts.length := by
    simp [passed, enter, hposition, Entry.position, Function.comp_def]
  rw [hpassed]
  refine List.Pairwise.map _ (fun before after hsuffix => ?_) hread
  exact Nat.sub_le_sub_left hsuffix.length_le _

theorem le_position_enter (h : p.position ≤ p.tokens.length)
    (read : (ts : List Token) → Reply ts) : p.position ≤ (p.enter read).parser.position := by
  have hrest := (read p.ahead).suffix.length_le
  have hahead := p.length_ahead
  simp only [enter]
  omega

theorem position_enter_le (p : Parser) (read : (ts : List Token) → Reply ts) :
    (p.enter read).parser.position ≤ p.tokens.length :=
  Nat.sub_le _ _

theorem position_lt_enter (h : p.position ≤ p.tokens.length)
    {read : (ts : List Token) → Reply ts} (hread : (read p.ahead).Advances) {e : Expr}
    (he : (p.enter read).outcome = .ok e) : p.position < (p.enter read).parser.position := by
  have hrest : (read p.ahead).rest.length < p.ahead.length := hread e he
  have hahead := p.length_ahead
  simp only [enter]
  omega

/-! ## Whole statements -/

theorem outcome_parse (p : Parser) : p.parse.outcome = (ofStatement p.tokens).complete := by
  have hrest : ({ p with position := 0 }.enter ofStatement).parser.ahead =
      (ofStatement p.tokens).rest := ahead_enter _ _
  have houtcome : ({ p with position := 0 }.enter ofStatement).outcome =
      (ofStatement p.tokens).outcome := rfl
  unfold parse Reply.complete
  dsimp only
  rw [houtcome, hrest]
  split <;> simp_all

theorem entered_parse (p : Parser) :
    p.parse.entered = ({ p with position := 0 }.enter ofStatement).entered := by
  unfold parse
  dsimp only
  split <;> rfl

theorem tokens_parse (p : Parser) : p.parse.parser.tokens = p.tokens := by
  unfold parse
  dsimp only
  split <;> rfl

theorem parse_congr {p q : Parser} (h : p.tokens = q.tokens) : p.parse = q.parse := by
  obtain ⟨tokens, _⟩ := p
  obtain ⟨_, _⟩ := q
  obtain rfl : tokens = _ := h
  rfl

theorem entered_parse_head (p : Parser) : ∃ later, p.parse.entered = (.statement, 0) :: later := by
  rw [entered_parse]
  simp [enter, ofStatement, ahead, Entry.position]

theorem entered_parse_sorted (p : Parser) :
    (p.parse.entered.map Prod.snd).Pairwise (· ≤ ·) := by
  have hpassed := passed_sorted (p := { p with position := 0 }) (Nat.zero_le _)
    (forward_ofStatement _)
  rw [entered_parse]
  exact (List.pairwise_append.mp (List.pairwise_cons.mp hpassed).2).1

/-- From any position a reading stops there or further on, with a tree or an error, and it passes
its entries in order. A tree takes at least one token unless it is what a tail goes on from. So the
entries of a whole statement begin with the statement at the first token and never go back, and
parsing once more comes to the same. -/
theorem never_backtracks (tokens : List Token) :
    (∀ (reader : Reader) (position : Nat), position ≤ (withoutComments tokens).length →
      let p : Parser := ⟨withoutComments tokens, position⟩
      let parsed := p.enter reader.read
      position ≤ parsed.parser.position ∧
        parsed.parser.position ≤ (withoutComments tokens).length ∧
        (p.passed parsed).Pairwise (· ≤ ·) ∧
        (¬ reader.isTail → ∀ e, parsed.outcome = .ok e → position < parsed.parser.position)) ∧
    ∀ position : Nat,
      let parsed := (Parser.mk (withoutComments tokens) position).parse
      parsed.outcome = Calculator.parse tokens ∧
        parsed.entered = (Calculator.read tokens).entries.map (fun e =>
          (e.production, e.position (withoutComments tokens).length)) ∧
        (∃ later, parsed.entered = (.statement, 0) :: later) ∧
        (parsed.entered.map Prod.snd).Pairwise (· ≤ ·) ∧
        parsed.parser.parse = parsed := by
  refine ⟨fun reader position h => ?_, fun position => ?_⟩
  · intro p parsed
    exact ⟨le_position_enter (p := p) h _, position_enter_le p _,
      passed_sorted h (reader.forward p.ahead),
      fun hreader _ he => position_lt_enter (p := p) h (Reader.advances hreader _) he⟩
  · exact ⟨outcome_parse _, entered_parse _, entered_parse_head _, entered_parse_sorted _,
      parse_congr (tokens_parse _)⟩

end Parser

end Calculator
