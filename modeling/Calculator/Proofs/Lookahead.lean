import Calculator.Proofs.Parsing

/-!
# One token ahead

Reading decides by the next token alone. So a reading that stops in front of a token comes to the
same whatever is behind that token, with a tree as with an error.
-/

namespace Calculator

open Calculator.Expr Level

/-- What is behind the token that the reader stops at makes no difference to it. -/
def LooksAhead (read : (ts : List Token) → Reply ts) (ts : List Token) : Prop :=
  ∀ pre t post outcome, ts = pre ++ t :: post → (read ts).reading = ⟨outcome, t :: post⟩ →
    ∀ post', (read (pre ++ t :: post')).reading = ⟨outcome, t :: post'⟩

/-! ## Putting readers together -/

theorem head?_append_cons (pre : List Token) (t : Token) (post post' : List Token) :
    (pre ++ t :: post').head? = (pre ++ t :: post).head? := by
  cases pre <;> rfl

namespace LooksAhead

variable {f read : (ts : List Token) → Reply ts} {ts : List Token}

theorem behind (front : List Token)
    (h : ∀ us, us.head? = ts.head? → (read (front ++ us)).reading = (f us).reading)
    (hf : LooksAhead f ts) : LooksAhead read (front ++ ts) := by
  intro pre t post outcome hts hread post'
  rw [h ts rfl] at hread
  obtain ⟨mid, rfl⟩ := Reply.suffix_of_reading hread
  obtain rfl : front ++ mid = pre := by
    rw [← List.append_assoc] at hts
    exact List.append_cancel_right hts
  rw [List.append_assoc, h _ (head?_append_cons mid t post post')]
  exact hf mid t post outcome rfl hread post'

theorem stop
    (h : ∀ t us, ts = t :: us → ∃ outcome, ∀ vs, (read (t :: vs)).reading = ⟨outcome, t :: vs⟩) :
    LooksAhead read ts := by
  rintro pre t post outcome rfl hread post'
  cases pre with
  | nil =>
    obtain ⟨outcome', hstop⟩ := h t post rfl
    rw [List.nil_append, hstop] at hread
    obtain rfl : outcome' = outcome := congrArg Reading.outcome hread
    exact hstop post'
  | cons u pre =>
    obtain ⟨outcome', hstop⟩ := h u _ rfl
    rw [List.cons_append, hstop] at hread
    have hrest := congrArg (fun r => r.rest.length) hread
    simp only [List.length_cons, List.length_append] at hrest
    omega

theorem done (e : Expr) : LooksAhead (Reply.done e) ts :=
  stop fun _ _ _ => ⟨.ok e, fun _ => Reply.reading_done e⟩

theorem andThen {next : Expr → (ts : List Token) → Reply ts} (hf : LooksAhead f ts)
    (hnext : ∀ e us, (f ts).reading = ⟨.ok e, us⟩ → LooksAhead (next e) us) :
    LooksAhead (fun ts => (f ts).andThen fun e us _ => next e us) ts := by
  intro pre t post outcome hts hread post'
  rw [Reply.reading_andThen] at hread ⊢
  rcases hr : (f ts).reading with ⟨err | e, us⟩
  · rw [hr, Reading.bind_error] at hread
    obtain ⟨rfl, rfl⟩ : .error err = outcome ∧ us = t :: post := by simpa using hread
    rw [hf pre t post _ hts hr post', Reading.bind_error]
  · rw [hr, Reading.bind_ok] at hread
    obtain ⟨before, hbefore⟩ := Reply.suffix_of_reading hr
    obtain ⟨mid, rfl⟩ := Reply.suffix_of_reading hread
    obtain rfl : before ++ mid = pre := by
      rw [hts, ← List.append_assoc] at hbefore
      exact List.append_cancel_right hbefore
    have hmid := hnext e _ hr mid t post outcome rfl hread post'
    -- The first reader stops at the token itself or at one before it.
    cases mid with
    | nil =>
      have hfirst := hf before t post _ (by simpa using hts) hr post'
      rw [List.append_nil, hfirst, Reading.bind_ok]
      exact hmid
    | cons u mid =>
      have hfirst := hf before u (mid ++ t :: post) _ (by simpa using hts) hr (mid ++ t :: post')
      rw [List.append_assoc, List.cons_append, hfirst, Reading.bind_ok]
      exact hmid

end LooksAhead

/-! ## Single tokens -/

theorem looksAhead_closing (t : Token) (expected : Expected) (e : Expr) (ts : List Token) :
    LooksAhead (Reply.closing t expected e) ts := by
  rcases ts with _ | ⟨u, us⟩
  · exact .stop fun _ _ h => nomatch h
  by_cases hu : u = t
  · subst hu
    exact .behind (f := Reply.done e) [u] (fun vs _ => Reply.reading_closing_cons u expected e)
      (.done e)
  · refine .stop fun v vs hvs => ⟨.error ⟨some u, expected⟩, fun vs => ?_⟩
    obtain ⟨rfl, -⟩ := List.cons.inj hvs
    exact Reply.reading_closing_eq_error_iff.mpr ⟨by simpa using hu, rfl, rfl⟩

theorem looksAhead_ofNumber (sign : Number → Number) (expected : Expected) (ts : List Token) :
    LooksAhead (ofNumber sign expected) ts := by
  rcases ts with _ | ⟨u, us⟩
  · exact .stop fun _ _ h => nomatch h
  cases u with
  | number n =>
    exact .behind (f := Reply.done (.number (sign n).settle)) [.number n] (fun vs _ => rfl)
      (.done _)
  | _ =>
    refine .stop fun v vs hvs => ⟨.error ⟨some v, expected⟩, fun vs => ?_⟩
    obtain ⟨rfl, -⟩ := List.cons.inj hvs
    rfl

/-! ## Sums, products and operands -/

theorem Level.Stops.of_head? {l : Level} {ts us : List Token} (h : l.Stops ts)
    (hhead : us.head? = ts.head?) : l.Stops us := by
  rintro op vs rfl
  obtain ⟨ws, hts⟩ := List.head?_eq_some_iff.mp hhead.symm
  exact h op ws hts

theorem looksAhead_readTail {l : Level} {n : Nat}
    (hlower : ∀ us : List Token, us.length ≤ n → LooksAhead (l.lower.read .inner) us) {left : Expr}
    {ts : List Token} (hts : ts.length ≤ n) : LooksAhead (l.readTail left) ts := by
  induction left, ts using l.tail_induct with
  | stop left ts hstop =>
    refine .stop fun t us h => ⟨.ok left, fun vs => l.reading_readTail_stop left ?_⟩
    exact hstop.of_head? (by rw [h]; rfl)
  | step left op us hop ih =>
    have hus : us.length ≤ n := Nat.le_of_succ_le hts
    refine .behind (f := fun us => (l.lower.read .inner us).andThen fun e vs _ =>
      l.readTail (.arith op left e) vs) [.arith op] (fun vs _ => ?_)
      (.andThen (hlower us hus) fun e vs h => ?_)
    · rw [Reply.reading_andThen]
      exact l.reading_readTail_arith left hop vs
    · have hvs := (Reply.suffix_of_reading h).length_le
      exact ih e vs h (Nat.le_trans hvs hus)

theorem looksAhead_operand {ts : List Token}
    (hsum : ∀ us : List Token, us.length < ts.length → LooksAhead (sum.read .inner) us)
    (p : Place) : LooksAhead (operand.read p) ts := by
  rcases ts with _ | ⟨t, us⟩
  · exact .stop fun _ _ h => nomatch h
  by_cases ht : t.beginsOperand p
  · obtain ht | ⟨rfl, s, rfl⟩ := ht
    · unfold Token.opens at ht
      split at ht
      · next n =>
        exact .behind (f := Reply.done (.number n.settle)) [.number n]
          (fun vs _ => reading_ofOperand_number p n vs) (.done _)
      · exact .behind [.arith .add] (fun vs _ => reading_ofOperand_plus p vs)
          (looksAhead_ofNumber _ _ us)
      · exact .behind [.arith .sub] (fun vs _ => reading_ofOperand_minus p vs)
          (looksAhead_ofNumber _ _ us)
      · refine .behind (f := fun us => (sum.read .inner us).andThen fun e vs _ =>
          Reply.closing .rightParen .rightParen e vs) [.leftParen] (fun vs _ => ?_)
          (.andThen (hsum us (Nat.lt_succ_self _)) fun e vs _ => looksAhead_closing _ _ e vs)
        rw [Reply.reading_andThen]
        exact reading_ofOperand_leftParen p vs
      · cases ht
    · exact .behind (f := Reply.done (.name s)) [.name s]
        (fun vs _ => reading_ofOperand_name s vs) (.done _)
  · refine .stop fun u vs hvs => ⟨.error ⟨some t, p.expected⟩, fun vs => ?_⟩
    obtain ⟨rfl, -⟩ := List.cons.inj hvs
    refine reading_ofOperand_fail fun u hu => ?_
    obtain rfl := Option.some.inj hu
    exact ht

theorem looksAhead_read (l : Level) (p : Place) (ts : List Token) : LooksAhead (l.read p) ts := by
  induction l, ts using Level.read_induct generalizing p with
  | atOperand ts ih => exact looksAhead_operand (fun us hus => ih us hus .inner) p
  | above l ts ih =>
    refine .behind (f := fun ts => (l.lower.read p ts).andThen fun e us _ => l.readTail e us) []
      (fun us _ => ?_) (.andThen (ih ts (Nat.le_refl _) p) fun e us h => ?_)
    · rw [Reply.reading_andThen]
      exact l.reading_read p us
    · have hus := (Reply.suffix_of_reading h).length_le
      exact looksAhead_readTail (fun vs hvs => ih vs hvs .inner) hus

/-! ## Statements -/

theorem looksAhead_comparisonTail (left : Expr) (ts : List Token) :
    LooksAhead (comparisonTail left) ts := by
  by_cases hts : ∃ op us, ts = .compare op :: us
  · obtain ⟨op, us, rfl⟩ := hts
    refine .behind (f := fun us => (sum.read .inner us).andThen fun e vs _ =>
      Reply.done (.compare op left e) vs) [.compare op] (fun vs _ => ?_)
      (.andThen (looksAhead_read sum .inner us) fun e vs _ => .done _)
    rw [Reply.reading_andThen]
    exact reading_comparisonTail_compare op left vs
  · refine .stop fun t us h => ⟨.ok left, fun vs => reading_comparisonTail_stop left ?_⟩
    rintro op ws hvs
    obtain ⟨rfl, -⟩ := List.cons.inj hvs
    exact hts ⟨op, us, h⟩

theorem looksAhead_comparison (ts : List Token) : LooksAhead comparison ts :=
  .andThen (looksAhead_read sum .inner ts) fun e us _ => looksAhead_comparisonTail e us

theorem looksAhead_nameTail (left : Expr) (ts : List Token) : LooksAhead (nameTail left) ts := by
  have htail (l : Level) (left : Expr) (ts : List Token) : LooksAhead (l.readTail left) ts :=
    looksAhead_readTail (fun us _ => looksAhead_read l.lower .inner us) (Nat.le_refl _)
  refine .behind (f := fun ts => ((product.readTail left ts).andThen fun e us _ =>
    sum.readTail e us).andThen fun e us _ => comparisonTail e us) [] (fun us _ => ?_)
    (.andThen (.andThen (htail product left ts) fun e us _ => htail sum e us)
      fun e us _ => looksAhead_comparisonTail e us)
  simp [nameTail, reading_flatTail]

theorem looksAhead_ofStatement (ts : List Token) : LooksAhead ofStatement ts := by
  rcases ts with _ | ⟨t, us⟩
  · exact .stop fun _ _ h => nomatch h
  by_cases ht : t.begins
  · obtain ht | rfl | ⟨s, rfl⟩ := ht
    · refine .behind (f := fun ts => (comparison ts).andThen fun e us _ => semicolon e us) []
        (fun vs hvs => ?_)
        (.andThen (looksAhead_comparison _) fun e us _ => looksAhead_closing _ _ e us)
      obtain ⟨ws, rfl⟩ := List.head?_eq_some_iff.mp hvs
      rw [Reply.reading_andThen]
      exact reading_ofStatement_opens ht ws
    · by_cases hus : us.head? = some .semicolon
      · obtain ⟨vs, rfl⟩ := List.head?_eq_some_iff.mp hus
        exact .behind (f := Reply.done .quit) [.quit, .semicolon] (fun _ _ => rfl) (.done _)
      · exact .behind (f := Reply.done .quit) [.quit]
          (fun vs hvs => reading_ofStatement_quit (hvs ▸ hus)) (.done _)
    · by_cases hus : us.head? = some .assign
      · obtain ⟨vs, rfl⟩ := List.head?_eq_some_iff.mp hus
        refine .behind (f := fun us => (sum.read .inner us).andThen fun e vs _ =>
          semicolon (.assign s e) vs) [.name s, .assign] (fun ws _ => ?_)
          (.andThen (looksAhead_read sum .inner vs) fun e ws _ => looksAhead_closing _ _ _ ws)
        rw [Reply.reading_andThen]
        exact reading_ofStatement_assign s ws
      · refine .behind (f := fun us => (nameTail (.name s) us).andThen fun e vs _ =>
          semicolon e vs) [.name s] (fun vs hvs => ?_)
          (.andThen (looksAhead_nameTail _ us) fun e ws _ => looksAhead_closing _ _ e ws)
        rw [Reply.reading_andThen, reading_nameTail]
        exact reading_ofStatement_name s (hvs ▸ hus)
  · refine .stop fun u vs hvs => ⟨.error ⟨some t, .opening⟩, fun vs => ?_⟩
    obtain ⟨rfl, -⟩ := List.cons.inj hvs
    refine reading_ofStatement_fail fun u hu => ?_
    obtain rfl := Option.some.inj hu
    exact ht

end Calculator
