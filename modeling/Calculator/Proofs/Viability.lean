import Calculator.Proofs.Lookahead
import Mathlib.Control.Monad.Basic

/-!
# Errors name the first impossible token

What stands before the token of an error is the beginning of some statement, and together with the
token it is the beginning of none. Where an error has no token, all that there is begins a statement
and is none yet.
-/

namespace Calculator

open Calculator.Expr Level

/-- The error names the token in front of `us`, and what stands before that in `ts` can be completed
to something derived. -/
def StopsViably (derives : List Token → Expr → Prop) (ts us : List Token) (err : ParseError) :
    Prop :=
  err.token? = us.head? ∧ ∃ pre more e, ts = pre ++ us ∧ derives (pre ++ more) e

namespace StopsViably

variable {derives derives' : List Token → Expr → Prop} {ts us : List Token} {err : ParseError}

theorem of_front (front : List Token) {more : List Token} {e : Expr}
    (herr : err.token? = us.head?) (h : derives (front ++ more) e) :
    StopsViably derives (front ++ us) us err :=
  ⟨herr, front, more, e, rfl, h⟩

theorem behind (front : List Token) (h : StopsViably derives ts us err)
    (hcomplete : ∀ ts e, derives ts e → ∃ more d, derives' (front ++ ts ++ more) d) :
    StopsViably derives' (front ++ ts) us err := by
  obtain ⟨herr, pre, more, e, rfl, hpre⟩ := h
  obtain ⟨more', d, hd⟩ := hcomplete _ e hpre
  exact ⟨herr, front ++ pre, more ++ more', d, by simp, by simpa using hd⟩

end StopsViably

/-! ## Sums, products and operands -/

/-- Where the level is refused, it stops viably. -/
def Level.FailsViably (l : Level) (ts : List Token) : Prop :=
  ∀ (p : Place) (err : ParseError) (us : List Token),
    (l.read p ts).reading = ⟨.error err, us⟩ → StopsViably (Derives l) ts us err

theorem failsViably_ofNumber {sign : Number → Number} {expected : Expected} (front : List Token)
    {ts us : List Token} {err : ParseError} {n : Number} {e : Expr}
    (hfront : Derives .operand (front ++ [.number n]) e)
    (h : (ofNumber sign expected ts).reading = ⟨.error err, us⟩) :
    StopsViably (Derives .operand) (front ++ ts) us err := by
  unfold ofNumber at h
  split at h
  · simp at h
  · rw [Reply.reading_fail] at h
    obtain ⟨rfl, rfl⟩ := Reading.error_inj.mp h
    exact .of_front front rfl hfront

theorem stopsViably_readTail {l : Level} {n : Nat}
    (hlower : ∀ us : List Token, us.length ≤ n → l.lower.FailsViably us) {left : Expr}
    {done ts us : List Token} {err : ParseError} (hts : ts.length ≤ n) (hl : Derives l done left)
    (h : (l.readTail left ts).reading = ⟨.error err, us⟩) :
    StopsViably (Derives l) (done ++ ts) us err := by
  induction left, ts using l.tail_induct generalizing done with
  | stop left ts hstop =>
    rw [l.reading_readTail_stop left hstop] at h
    simp at h
  | step left op vs hop ih =>
    have hvs : vs.length ≤ n := Nat.le_of_succ_le hts
    rw [l.reading_readTail_arith left hop, Reading.bind_eq_error_iff] at h
    obtain hright | ⟨d, ws, hd, ht⟩ := h
    · rw [List.append_cons]
      exact (hlower vs hvs .inner err us hright).behind (done ++ [.arith op])
        fun ts e he => ⟨[], _, by simpa using Derives.chain hop hl he⟩
    · obtain ⟨pre, rfl, hpre⟩ := derives_of_read hd
      have hws : ws.length ≤ n := by simp only [List.length_append] at hvs; omega
      simpa using ih d ws hd hws (.chain hop hl hpre) ht

theorem failsViably_operand {ts : List Token}
    (hsum : ∀ us : List Token, us.length < ts.length → sum.FailsViably us) :
    operand.FailsViably ts := by
  intro p err us h
  obtain ⟨t, vs, rfl, ht⟩ | hnone := head_or_not (P := Token.beginsOperand p) ts
  · obtain ht | ⟨rfl, s, rfl⟩ := ht
    · unfold Token.opens at ht
      rw [Level.read] at h
      split at ht
      · rw [reading_ofOperand_number] at h
        simp at h
      · rw [reading_ofOperand_plus] at h
        exact failsViably_ofNumber [.arith .add] (.plus (.integer 0)) h
      · rw [reading_ofOperand_minus] at h
        exact failsViably_ofNumber [.arith .sub] (.minus (.integer 0)) h
      · rw [reading_ofOperand_leftParen, Reading.bind_eq_error_iff] at h
        obtain hinner | ⟨d, ws, hd, hclose⟩ := h
        · exact (hsum vs (Nat.lt_succ_self _) .inner err us hinner).behind [.leftParen]
            fun ts e he => ⟨[.rightParen], e, .group he⟩
        · obtain ⟨pre, rfl, hpre⟩ := derives_of_read hd
          obtain ⟨-, rfl, rfl⟩ := Reply.reading_closing_eq_error_iff.mp hclose
          exact .of_front (.leftParen :: pre) rfl (.group hpre)
      · cases ht
    · rw [Level.read, reading_ofOperand_name] at h
      simp at h
  · rw [Level.read, reading_ofOperand_fail hnone] at h
    obtain ⟨rfl, rfl⟩ := Reading.error_inj.mp h
    exact .of_front [] rfl (.number (.integer 0))

theorem failsViably (l : Level) (ts : List Token) : l.FailsViably ts := by
  induction l, ts using Level.read_induct with
  | atOperand ts ih => exact failsViably_operand ih
  | above l ts ih =>
    intro p err us h
    rw [l.reading_read, Reading.bind_eq_error_iff] at h
    obtain hlow | ⟨d, vs, hd, ht⟩ := h
    · exact (ih ts (Nat.le_refl _) p err us hlow).behind []
        fun ts e he => ⟨[], e, by simpa using Derives.of_lower he⟩
    · obtain ⟨pre, rfl, hpre⟩ := derives_of_read hd
      have hvs : vs.length ≤ (pre ++ vs).length := by simp
      exact stopsViably_readTail (fun us hus => ih us (Nat.le_trans hus hvs)) (Nat.le_refl _)
        (.of_lower hpre) ht

/-! ## Statements -/

theorem stopsViably_comparison {ts us : List Token} {err : ParseError}
    (h : (comparison ts).reading = ⟨.error err, us⟩) : StopsViably DerivesStatement ts us err := by
  rw [reading_comparison, Reading.bind_eq_error_iff] at h
  obtain hleft | ⟨l, vs, hl, ht⟩ := h
  · exact (failsViably sum ts .inner err us hleft).behind []
      fun ts e he => ⟨[.semicolon], e, .sum he⟩
  · obtain ⟨pre, rfl, hpre⟩ := derives_of_read hl
    by_cases hcompare : ∃ op ws, vs = .compare op :: ws
    · obtain ⟨op, ws, rfl⟩ := hcompare
      rw [reading_comparisonTail_compare, Reading.bind_eq_error_iff] at ht
      obtain hright | ⟨r, xs, -, hx⟩ := ht
      · have hcomplete (ts : List Token) (e : Expr) (he : Derives sum ts e) :
            ∃ more d, DerivesStatement (pre ++ [.compare op] ++ ts ++ more) d :=
          ⟨[.semicolon], _, by simpa [List.append_assoc] using DerivesStatement.compare op hpre he⟩
        rw [List.append_cons]
        exact (failsViably sum ws .inner err us hright).behind (pre ++ [.compare op]) hcomplete
      · simp at hx
    · rw [reading_comparisonTail_stop l fun op ws hvs => hcompare ⟨op, ws, hvs⟩] at ht
      simp at ht

theorem stopsViably_comparison_semicolon {ts us : List Token} {err : ParseError}
    (h : ((comparison ts).reading.bind fun e vs => (semicolon e vs).reading) = ⟨.error err, us⟩) :
    StopsViably DerivesStatement ts us err := by
  rw [Reading.bind_eq_error_iff] at h
  obtain hcomparison | ⟨d, vs, hd, hclose⟩ := h
  · exact stopsViably_comparison hcomparison
  · rw [reading_comparison] at hd
    obtain ⟨pre, rfl, hpre⟩ := derivesStatement_of_comparison hd
    obtain ⟨-, rfl, rfl⟩ := Reply.reading_closing_eq_error_iff.mp hclose
    exact .of_front pre rfl hpre

theorem stopsViably_ofStatement {ts us : List Token} {err : ParseError}
    (h : (ofStatement ts).reading = ⟨.error err, us⟩) : StopsViably DerivesStatement ts us err := by
  obtain ⟨t, vs, rfl, ht⟩ | hnone := head_or_not (P := Token.begins) ts
  · obtain ht | rfl | ⟨s, rfl⟩ := ht
    · rw [reading_ofStatement_opens ht] at h
      exact stopsViably_comparison_semicolon h
    · by_cases hvs : vs.head? = some .semicolon
      · obtain ⟨ws, rfl⟩ := List.head?_eq_some_iff.mp hvs
        simp [ofStatement] at h
      · rw [reading_ofStatement_quit hvs] at h
        simp at h
    · by_cases hvs : vs.head? = some .assign
      · obtain ⟨ws, rfl⟩ := List.head?_eq_some_iff.mp hvs
        rw [reading_ofStatement_assign, Reading.bind_eq_error_iff] at h
        obtain hvalue | ⟨d, xs, hd, hclose⟩ := h
        · exact (failsViably sum ws .inner err us hvalue).behind [.name s, .assign]
            fun ts e he => ⟨[.semicolon], .assign s e, .assign s he⟩
        · obtain ⟨pre, rfl, hpre⟩ := derives_of_read hd
          obtain ⟨-, rfl, rfl⟩ := Reply.reading_closing_eq_error_iff.mp hclose
          exact .of_front (.name s :: .assign :: pre) rfl (.assign s hpre)
      · rw [reading_ofStatement_name s hvs] at h
        exact stopsViably_comparison_semicolon h
  · rw [reading_ofStatement_fail hnone] at h
    obtain ⟨rfl, rfl⟩ := Reading.error_inj.mp h
    exact .of_front [] rfl .quit

/-! ## Parsing -/

/-- Some list of tokens that begins with these is a statement. -/
def Viable (ts : List Token) : Prop := ∃ more e, parse (ts ++ more) = .ok e

theorem Reply.complete_eq_error_iff {ts : List Token} {r : Reply ts} {err : ParseError} :
    r.complete = .error err ↔
      (∃ us, r.reading = ⟨.error err, us⟩) ∨
        ∃ e t post, r.reading = ⟨.ok e, t :: post⟩ ∧ err = ⟨some t, .nothing⟩ := by
  obtain ⟨_ | e, _ | ⟨t, post⟩, _, _⟩ := r
  · simp [Reply.complete, Reply.reading]
  · simp [Reply.complete, Reply.reading]
  · simp [Reply.complete, Reply.reading]
  · constructor
    · intro h
      obtain rfl := Except.error.inj h
      exact .inr ⟨e, t, post, rfl, rfl⟩
    · rintro (⟨us, h⟩ | ⟨d, u, us, h, rfl⟩)
      · simp [Reply.reading] at h
      · obtain ⟨rfl, hpost⟩ := Reading.ok_inj.mp h
        obtain ⟨rfl, rfl⟩ := List.cons.inj hpost
        rfl

theorem stopsViably_read {ts : List Token} {err : ParseError} (h : parse ts = .error err) :
    ∃ outcome us, (read ts).reading = ⟨outcome, us⟩ ∧
      StopsViably DerivesStatement (withoutComments ts) us err := by
  obtain ⟨us, hread⟩ | ⟨e, t, post, hread, rfl⟩ := Reply.complete_eq_error_iff.mp h
  · exact ⟨_, us, hread, stopsViably_ofStatement hread⟩
  · obtain ⟨pre, hts, hpre⟩ := derivesStatement_of_ofStatement hread
    exact ⟨_, t :: post, hread, rfl, pre, [], e, hts, by simpa using hpre⟩

theorem not_viable_of_read {ts pre post : List Token} {t : Token}
    {outcome : Except ParseError Expr} (hts : withoutComments ts = pre ++ t :: post)
    (hread : (read ts).reading = ⟨outcome, t :: post⟩) : ¬ Viable (pre ++ [t]) := by
  rintro ⟨more, e, hmore⟩
  have hpre : withoutComments (pre ++ [t]) = pre ++ [t] := by
    refine List.filter_eq_self.mpr fun u hu => ?_
    have hmem : u ∈ withoutComments ts := by
      rw [hts, List.append_cons]
      exact List.mem_append_left post hu
    exact (List.mem_filter.mp hmem).2
  -- The reader stops in front of `t` again and so does not take all tokens.
  have hsame : (ofStatement (pre ++ t :: withoutComments more)).reading =
      ⟨outcome, t :: withoutComments more⟩ :=
    looksAhead_ofStatement _ pre t post outcome hts hread (withoutComments more)
  rw [parse_eq_ok_iff, withoutComments_append, hpre, List.append_assoc,
    List.singleton_append] at hmore
  rw [reading_of_derivesStatement hmore] at hsame
  simp at hsame

/-- Where parsing fails at a token, the tokens besides comments before it begin some statement, and
with it they begin none. Where it fails at the end, there is no statement yet, but the tokens begin
some statement. -/
theorem parse_error_first_impossible {ts : List Token} {err : ParseError}
    (h : parse ts = .error err) :
    match err.token? with
    | some t => ∃ pre post, withoutComments ts = pre ++ t :: post ∧
        Viable pre ∧ ¬ Viable (pre ++ [t])
    | none => (∀ e, parse (withoutComments ts) ≠ .ok e) ∧
        ∃ more e, more ≠ [] ∧ parse (withoutComments ts ++ more) = .ok e := by
  obtain ⟨outcome, us, hread, herr, pre, more, e, hts, hderives⟩ := stopsViably_read h
  have hmore := parse_of_derivesStatement hderives
  rw [herr]
  cases us with
  | cons t post => exact ⟨pre, post, hts, ⟨more, e, hmore⟩, not_viable_of_read hts hread⟩
  | nil =>
    obtain rfl : withoutComments ts = pre := by simpa using hts
    have hnone (d : Expr) : parse (withoutComments ts) ≠ .ok d := by
      intro hd
      rw [parse_eq_ok_iff, withoutComments_idem, ← parse_eq_ok_iff, h] at hd
      cases hd
    refine ⟨hnone, more, e, ?_, hmore⟩
    rintro rfl
    exact hnone e (by simpa using hmore)

/-- `(1 ;` fails at the semicolon, since a parenthesis is missing, and `2 +` fails at the end. -/
theorem parse_error_first_impossible_in_group :
    parse [.leftParen, .number (.integer 1), .comment "one", .semicolon] =
        .error ⟨some .semicolon, .rightParen⟩ ∧
      (∃ pre post,
        withoutComments [.leftParen, .number (.integer 1), .comment "one", .semicolon] =
            pre ++ .semicolon :: post ∧
          Viable pre ∧ ¬ Viable (pre ++ [.semicolon])) ∧
      parse [.number (.integer 2), .arith .add] = .error ⟨none, .operand⟩ ∧
      (∀ e, parse (withoutComments [.number (.integer 2), .arith .add]) ≠ .ok e) ∧
      ∃ more e, more ≠ [] ∧
        parse (withoutComments [.number (.integer 2), .arith .add] ++ more) = .ok e := by
  have hgroup : parse [.leftParen, .number (.integer 1), .comment "one", .semicolon] =
      .error ⟨some .semicolon, .rightParen⟩ := by decide +kernel
  have hsum : parse [.number (.integer 2), .arith .add] = .error ⟨none, .operand⟩ := by
    decide +kernel
  exact ⟨hgroup, parse_error_first_impossible hgroup, hsum, parse_error_first_impossible hsum⟩

end Calculator
