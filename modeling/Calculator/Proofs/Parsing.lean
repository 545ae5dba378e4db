import Calculator.Proofs.Opening

/-!
# Parsing follows the grammar

Main statement: parsing yields a tree exactly if the grammar derives it.
-/

namespace Calculator

open Calculator.Expr Level

/-! ## What is read is derived -/

theorem derives_of_ofNumber {sign : Number → Number} {expected : Expected} {ts us : List Token}
    {e : Expr} (h : (ofNumber sign expected ts).reading = ⟨.ok e, us⟩) :
    ∃ n, ts = .number n :: us ∧ e = .number (sign n).settle := by
  unfold ofNumber at h
  split at h
  · next n vs =>
    rw [Reply.reading_after, Reply.reading_done] at h
    obtain ⟨rfl, rfl⟩ := Reading.ok_inj.mp h
    exact ⟨n, rfl, rfl⟩
  · simp at h

/-- What the level reads off at most `n` tokens is derived. -/
def Level.SoundUpTo (l : Level) (n : Nat) : Prop :=
  ∀ ts : List Token, ts.length ≤ n → ∀ (p : Place) (e : Expr) (us : List Token),
    (l.read p ts).reading = ⟨.ok e, us⟩ → ∃ pre, ts = pre ++ us ∧ Derives l pre e

theorem derives_of_readTail {l : Level} {n : Nat} (hlower : l.lower.SoundUpTo n) {left e : Expr}
    {done ts us : List Token} (hts : ts.length ≤ n) (hl : Derives l done left)
    (h : (l.readTail left ts).reading = ⟨.ok e, us⟩) :
    ∃ pre, ts = pre ++ us ∧ Derives l (done ++ pre) e := by
  induction left, ts using l.tail_induct generalizing done with
  | stop left ts hstop =>
    rw [l.reading_readTail_stop left hstop] at h
    obtain ⟨rfl, rfl⟩ := Reading.ok_inj.mp h
    exact ⟨[], rfl, by simpa using hl⟩
  | step left op vs hop ih =>
    rw [l.reading_readTail_arith left hop, Reading.bind_eq_ok_iff] at h
    obtain ⟨d, ws, hd, ht⟩ := h
    have hvs : vs.length ≤ n := by simp only [List.length_cons] at hts; omega
    obtain ⟨pre, rfl, hpre⟩ := hlower vs hvs .inner d ws hd
    have hws : ws.length ≤ n := by simp only [List.length_append] at hvs; omega
    obtain ⟨mid, rfl, hmid⟩ := ih d ws hd hws (.chain hop hl hpre) ht
    exact ⟨.arith op :: pre ++ mid, by simp, by simpa using hmid⟩

theorem soundUpTo_of_lower {l : Level} {n : Nat} (hlower : l.lower.SoundUpTo n) :
    l.SoundUpTo n := by
  intro ts hts p e us h
  rw [l.reading_read, Reading.bind_eq_ok_iff] at h
  obtain ⟨d, vs, hd, ht⟩ := h
  obtain ⟨pre, rfl, hpre⟩ := hlower ts hts p d vs hd
  have hvs : vs.length ≤ n := by simp only [List.length_append] at hts; omega
  obtain ⟨mid, rfl, hmid⟩ := derives_of_readTail hlower hvs (.of_lower hpre) ht
  exact ⟨pre ++ mid, by simp, hmid⟩

theorem begins_of_ofOperand {p : Place} {e : Expr} {ts us : List Token}
    (h : (ofOperand p ts).reading = ⟨.ok e, us⟩) : ∃ t vs, ts = t :: vs ∧ t.beginsOperand p := by
  obtain hbegins | hnone := head_or_not (P := Token.beginsOperand p) ts
  · exact hbegins
  · rw [reading_ofOperand_fail hnone] at h
    simp at h

theorem operand_soundUpTo {n : Nat} (hsum : ∀ m < n, sum.SoundUpTo m) : operand.SoundUpTo n := by
  intro ts hts p e us h
  obtain ⟨t, vs, rfl, ht | ⟨rfl, s, rfl⟩⟩ := begins_of_ofOperand h
  · unfold Token.opens at ht
    rw [Level.read] at h
    split at ht
    · next n =>
      rw [reading_ofOperand_number] at h
      obtain ⟨rfl, rfl⟩ := Reading.ok_inj.mp h
      exact ⟨[.number n], rfl, .number n⟩
    · rw [reading_ofOperand_plus] at h
      obtain ⟨n, rfl, rfl⟩ := derives_of_ofNumber h
      exact ⟨[.arith .add, .number n], rfl, .plus n⟩
    · rw [reading_ofOperand_minus] at h
      obtain ⟨n, rfl, rfl⟩ := derives_of_ofNumber h
      exact ⟨[.arith .sub, .number n], rfl, .minus n⟩
    · rw [reading_ofOperand_leftParen, Reading.bind_eq_ok_iff] at h
      obtain ⟨d, ws, hd, hclose⟩ := h
      obtain ⟨pre, rfl, hpre⟩ := hsum vs.length hts vs (Nat.le_refl _) .inner d ws hd
      obtain ⟨rfl, rfl⟩ := Reply.reading_closing_eq_ok_iff.mp hclose
      exact ⟨.leftParen :: pre ++ [.rightParen], by simp, .group hpre⟩
    · cases ht
  · rw [Level.read, reading_ofOperand_name] at h
    obtain ⟨rfl, rfl⟩ := Reading.ok_inj.mp h
    exact ⟨[.name s], rfl, .name s⟩

theorem soundUpTo (l : Level) (n : Nat) : l.SoundUpTo n := by
  induction n using Nat.strongRecOn generalizing l with
  | ind n ih =>
    have hoperand : operand.SoundUpTo n := operand_soundUpTo fun m hm => ih m hm sum
    have hproduct : product.SoundUpTo n := soundUpTo_of_lower hoperand
    cases l with
    | sum => exact soundUpTo_of_lower hproduct
    | product => exact hproduct
    | operand => exact hoperand

theorem derives_of_read {l : Level} {p : Place} {e : Expr} {ts us : List Token}
    (h : (l.read p ts).reading = ⟨.ok e, us⟩) : ∃ pre, ts = pre ++ us ∧ Derives l pre e :=
  soundUpTo l ts.length ts (Nat.le_refl _) p e us h

/-! ## What is derived is read -/

theorem reading_chain {l : Level} {op : ArithOp} {ts us : List Token} {left right : Expr}
    (hop : l.takes op)
    (hleft : ∀ vs, l.lower.Stops vs →
      (l.read .inner (ts ++ vs)).reading = (l.readTail left vs).reading)
    (hright : ∀ vs, l.lower.lower.Stops vs →
      (l.lower.read .inner (us ++ vs)).reading = (l.lower.readTail right vs).reading)
    {vs : List Token} (hvs : l.lower.Stops vs) :
    (l.read .inner (ts ++ .arith op :: us ++ vs)).reading =
      (l.readTail (.arith op left right) vs).reading := by
  have hlow : l.lower.lower.Stops vs := by cases l <;> simp [lower]
  rw [List.append_assoc, List.cons_append, hleft _ (stops_arith.mpr (not_takes_lower hop)),
    l.reading_readTail_arith left hop, hright vs hlow, l.lower.reading_readTail_stop right hvs,
    Reading.bind_ok]

theorem reading_of_derives {l : Level} {ts : List Token} {e : Expr} (h : Derives l ts e) :
    ∀ us, l.lower.Stops us → (l.read .inner (ts ++ us)).reading = (l.readTail e us).reading := by
  induction h with
  | name s => exact fun us _ => reading_ofOperand_name s us
  | number n => exact fun us _ => reading_ofOperand_number .inner n us
  | plus n => exact fun us _ => reading_ofOperand_plus .inner (.number n :: us)
  | minus n => exact fun us _ => reading_ofOperand_minus .inner (.number n :: us)
  | @group ts e _ ih =>
    intro us _
    have hstop (l : Level) : l.Stops (.rightParen :: us) := stops_of_ne_arith (by simp)
    have hts : .leftParen :: ts ++ [.rightParen] ++ us =
        .leftParen :: (ts ++ .rightParen :: us) := by
      simp
    rw [hts, Level.read, reading_ofOperand_leftParen, ih _ (hstop _),
      sum.reading_readTail_stop e (hstop _), Reading.bind_ok, Reply.reading_closing_cons]
    rfl
  | @ofOperand ts e _ ih =>
    intro us _
    rw [product.reading_read, lower, ih us (stops_operand us)]
    rfl
  | product hop _ _ ihl ihr =>
    exact fun us hus => reading_chain (takes_product_iff.mpr hop) ihl ihr hus
  | @ofProduct ts e _ ih =>
    intro us hus
    rw [sum.reading_read, lower, ih us (stops_operand us), product.reading_readTail_stop e hus,
      Reading.bind_ok]
  | sum hop _ _ ihl ihr => exact fun us hus => reading_chain (takes_sum_iff.mpr hop) ihl ihr hus

/-! ## Statements -/

theorem derivesStatement_of_comparison {p : Place} {e : Expr} {ts us : List Token}
    (h : ((sum.read p ts).reading.bind fun e us => (comparisonTail e us).reading) = ⟨.ok e, us⟩) :
    ∃ pre, ts = pre ++ us ∧ DerivesStatement (pre ++ [.semicolon]) e := by
  rw [Reading.bind_eq_ok_iff] at h
  obtain ⟨d, vs, hd, ht⟩ := h
  obtain ⟨pre, rfl, hpre⟩ := derives_of_read hd
  by_cases hcompare : ∃ op ws, vs = .compare op :: ws
  · obtain ⟨op, ws, rfl⟩ := hcompare
    rw [reading_comparisonTail_compare, Reading.bind_eq_ok_iff] at ht
    obtain ⟨r, xs, hr, hx⟩ := ht
    obtain ⟨mid, rfl, hmid⟩ := derives_of_read hr
    obtain ⟨rfl, rfl⟩ := Reading.ok_inj.mp hx
    exact ⟨pre ++ .compare op :: mid, by simp, .compare op hpre hmid⟩
  · rw [reading_comparisonTail_stop d fun op ws hvs => hcompare ⟨op, ws, hvs⟩] at ht
    obtain ⟨rfl, rfl⟩ := Reading.ok_inj.mp ht
    exact ⟨pre, rfl, .sum hpre⟩

theorem derivesStatement_of_ofStatement {e : Expr} {ts us : List Token}
    (h : (ofStatement ts).reading = ⟨.ok e, us⟩) :
    ∃ pre, ts = pre ++ us ∧ DerivesStatement pre e := by
  unfold ofStatement at h
  rw [Reply.reading_entering] at h
  split at h
  · next s vs =>
    rw [Reply.reading_after, Reply.reading_after, Reply.reading_andThen,
      Reading.bind_eq_ok_iff] at h
    obtain ⟨d, ws, hd, hclose⟩ := h
    obtain ⟨pre, rfl, hpre⟩ := derives_of_read (l := .sum) hd
    obtain ⟨rfl, rfl⟩ := Reply.reading_closing_eq_ok_iff.mp hclose
    exact ⟨.name s :: .assign :: pre ++ [.semicolon], by simp, .assign s hpre⟩
  · next s vs hvs =>
    rw [Reply.reading_after, Reply.reading_andThen, reading_nameTail, reading_comparison,
      Reading.bind_eq_ok_iff] at h
    obtain ⟨d, ws, hd, hclose⟩ := h
    obtain ⟨rfl, rfl⟩ := Reply.reading_closing_eq_ok_iff.mp hclose
    obtain ⟨pre, hts, hpre⟩ := derivesStatement_of_comparison hd
    exact ⟨pre ++ [.semicolon], by simp [hts], hpre⟩
  · next vs =>
    rw [Reply.reading_after, Reply.reading_after, Reply.reading_done] at h
    obtain ⟨rfl, rfl⟩ := Reading.ok_inj.mp h
    exact ⟨[.quit, .semicolon], rfl, .quitSemicolon⟩
  · next vs hvs =>
    rw [Reply.reading_after, Reply.reading_done] at h
    obtain ⟨rfl, rfl⟩ := Reading.ok_inj.mp h
    exact ⟨[.quit], rfl, .quit⟩
  · rw [Reply.reading_andThen, openingComparison, Reply.reading_entering, Reply.reading_andThen,
      Reading.bind_eq_ok_iff] at h
    obtain ⟨d, ws, hd, hclose⟩ := h
    obtain ⟨rfl, rfl⟩ := Reply.reading_closing_eq_ok_iff.mp hclose
    obtain ⟨pre, rfl, hpre⟩ := derivesStatement_of_comparison (p := .opening) hd
    exact ⟨pre ++ [.semicolon], by simp, hpre⟩

theorem read_of_derives {ts us : List Token} {e : Expr} (h : Derives .sum ts e)
    (hus : ∀ op vs, us = .arith op :: vs → False) :
    (sum.read .inner (ts ++ us)).reading = ⟨.ok e, us⟩ := by
  rw [reading_of_derives h us (stops_of_ne_arith hus),
    sum.reading_readTail_stop e (stops_of_ne_arith hus)]

theorem reading_ofStatement_of_derives {ts us : List Token} {d e : Expr} (h : Derives .sum ts d)
    (hus : .assign ∉ us) (hread : (comparison (ts ++ us)).reading = ⟨.ok e, [.semicolon]⟩) :
    (ofStatement (ts ++ us)).reading = ⟨.ok e, []⟩ := by
  have hclose : (semicolon e [.semicolon]).reading = ⟨.ok e, []⟩ :=
    Reply.reading_closing_cons .semicolon .semicolon e
  have hassign := h.assign_not_mem
  obtain ⟨t, vs, rfl, ht | ⟨s, rfl⟩⟩ := h.begins
  · rw [List.cons_append] at hread ⊢
    rw [reading_ofStatement_opens ht, hread, Reading.bind_ok, hclose]
  · have hhead : (vs ++ us).head? ≠ some .assign := by
      intro hhead
      have := List.mem_of_mem_head? hhead
      simp_all
    rw [List.cons_append] at hread ⊢
    rw [reading_ofStatement_name s hhead, hread, Reading.bind_ok, hclose]

theorem reading_of_derivesStatement {e : Expr} {ts : List Token} (h : DerivesStatement ts e) :
    (ofStatement ts).reading = ⟨.ok e, []⟩ := by
  cases h with
  | @assign ts e s value =>
    have hread : (ofSum .inner (ts ++ [.semicolon])).reading = ⟨.ok e, [.semicolon]⟩ :=
      read_of_derives value (by simp)
    simp [ofStatement, hread, semicolon]
  | sum value =>
    refine reading_ofStatement_of_derives value (by simp) ?_
    rw [reading_comparison, read_of_derives value (by simp), Reading.bind_ok,
      reading_comparisonTail_stop _ (by simp)]
  | @compare ts us l r op left right =>
    have hassign := right.assign_not_mem
    rw [List.append_assoc]
    refine reading_ofStatement_of_derives left (by simpa using hassign) ?_
    rw [reading_comparison, read_of_derives left (by simp), Reading.bind_ok, List.cons_append,
      reading_comparisonTail_compare, read_of_derives right (by simp), Reading.bind_ok]
  | quit => rfl
  | quitSemicolon => rfl

theorem Reply.complete_eq_ok_iff {ts : List Token} {r : Reply ts} {e : Expr} :
    r.complete = .ok e ↔ r.reading = ⟨.ok e, []⟩ := by
  obtain ⟨_ | _, _ | _, _, _⟩ := r <;> simp [Reply.complete, Reply.reading]

theorem reading_ofStatement_eq_ok_iff {ts : List Token} {e : Expr} :
    (ofStatement ts).reading = ⟨.ok e, []⟩ ↔ DerivesStatement ts e := by
  constructor
  · intro h
    obtain ⟨pre, rfl, hpre⟩ := derivesStatement_of_ofStatement h
    simpa using hpre
  · exact reading_of_derivesStatement

theorem parse_eq_ok_iff {ts : List Token} {e : Expr} :
    parse ts = .ok e ↔ DerivesStatement (withoutComments ts) e :=
  Reply.complete_eq_ok_iff.trans reading_ofStatement_eq_ok_iff

theorem parse_of_derivesStatement {ts : List Token} {e : Expr} (h : DerivesStatement ts e) :
    parse ts = .ok e := by
  rw [parse_eq_ok_iff, h.withoutComments_eq]
  exact h

theorem derivesStatement_unique {ts : List Token} {d e : Expr} (hd : DerivesStatement ts d)
    (he : DerivesStatement ts e) : d = e := by
  have h := (reading_of_derivesStatement hd).symm.trans (reading_of_derivesStatement he)
  exact (Reading.ok_inj.mp h).1

/-- A list of tokens parses to a tree exactly if the grammar derives the tree from its tokens
besides comments, and from no list does it derive two trees. -/
theorem parse_eq_ok_iff_derives :
    (∀ (ts : List Token) (e : Expr),
      parse ts = .ok e ↔ DerivesStatement (withoutComments ts) e) ∧
    ∀ (ts : List Token) (d : Expr), DerivesStatement ts d →
      ∀ e, DerivesStatement ts e ↔ e = d := by
  refine ⟨fun ts e => parse_eq_ok_iff, fun ts d hd e => ?_⟩
  constructor
  · intro he
    exact derivesStatement_unique he hd
  · rintro rfl
    exact hd

/-- `a - 2 * b;` subtracts a product and does not multiply a difference. -/
theorem parse_difference_of_product :
    DerivesStatement
        [.name "a", .arith .sub, .number (.integer 2), .arith .mul, .name "b", .semicolon]
        (.arith .sub (.name "a") (.arith .mul (.number (.integer 2)) (.name "b"))) ∧
      parse [.name "a", .arith .sub, .comment "twice", .number (.integer 2), .arith .mul,
          .name "b", .semicolon] =
        .ok (.arith .sub (.name "a") (.arith .mul (.number (.integer 2)) (.name "b"))) ∧
      ¬ DerivesStatement
        [.name "a", .arith .sub, .number (.integer 2), .arith .mul, .name "b", .semicolon]
        (.arith .mul (.arith .sub (.name "a") (.number (.integer 2))) (.name "b")) := by
  have hproduct : Derives .product ([.number (.integer 2)] ++ .arith .mul :: [.name "b"])
      (.arith .mul (.number (.integer 2)) (.name "b")) :=
    .product (.inl rfl) (.ofOperand (.number (.integer 2))) (.name "b")
  have hsum := DerivesStatement.sum (.sum (.inr rfl) (.ofProduct (.ofOperand (.name "a"))) hproduct)
  refine ⟨hsum, (parse_eq_ok_iff_derives.1 _ _).mpr hsum, fun h => ?_⟩
  have heq := (parse_eq_ok_iff_derives.2 _ _ hsum _).mp h
  simp at heq

end Calculator
