import Calculator.Proofs.Tiling

/-!
# Numerals

No form but a number begins with a digit or a point. So digits are cut off as far as they go, with a
fraction where a point and a digit stand behind them. A point without a digit is left where it is.
-/

namespace Calculator

open Text

/-! ## Digits and points -/

theorem not_isAlpha_of_isDigit {c : Char} (h : c.isDigit) : ¬ c.isAlpha := by
  unfold Char.isDigit at h
  unfold Char.isAlpha Char.isUpper Char.isLower
  simp only [Bool.and_eq_true, Bool.or_eq_true, decide_eq_true_eq, ge_iff_le,
    UInt32.le_iff_toNat_le, Char.reduceVal, UInt32.reduceToNat] at h ⊢
  omega

namespace TokenKind

theorem Written.head_of_number {l : List Char} (h : TokenKind.number.Written l) :
    ∀ c ∈ l.head?, c.isDigit ∨ c = '.' := by
  intro c hc
  cases h with
  | whole nonempty digits => exact .inl (digits c (List.mem_of_mem_head? hc))
  | @fraction ws ds wholeDigits nonempty digits =>
    cases ws with
    | nil =>
      cases hc
      exact .inr rfl
    | cons w ws =>
      cases hc
      exact .inl (wholeDigits c List.mem_cons_self)

theorem Written.number_of_head {kind : TokenKind} {c : Char} {cs : List Char}
    (h : kind.Written (c :: cs)) (hc : c.isDigit ∨ c = '.') : kind = .number := by
  have hletter : ¬ c.isAlpha := by
    rcases hc with hc | rfl
    · exact not_isAlpha_of_isDigit hc
    · decide
  generalize hl : c :: cs = l at h
  cases h with
  | quit h =>
    cases hl
    have hq : c.toLower = 'q' := (List.cons.inj h).1
    exact absurd (isAlpha_of_toLower (hq ▸ rfl)) hletter
  | name start parts =>
    cases hl
    exact absurd start hletter
  | whole | fraction => rfl
  | bool b => cases b <;> cases hl <;> exact absurd hc (by decide)
  | arith op | compare op => cases op <;> cases hl <;> exact absurd hc (by decide)
  | comment | assign | semicolon | leftParen | rightParen => cases hl; exact absurd hc (by decide)

theorem cuts_number {cs l : List Char} (h : numeral? cs = some l) : TokenKind.number.Cuts l cs := by
  have hlongest : TokenKind.number.Longest l cs := lexeme?_eq_some_iff.mp h
  have hearlier : ∀ k ∈ all.dropLast, k ≠ .number := by decide
  refine ⟨hlongest, all.dropLast, [], rfl, fun k hk m hm hwritten => ?_⟩
  obtain ⟨c, m, rfl⟩ := List.exists_cons_of_ne_nil hwritten.ne_nil
  obtain ⟨d, l, rfl⟩ := List.exists_cons_of_ne_nil hlongest.written.ne_nil
  -- Both are beginnings of the same text, so they begin with the same character.
  obtain ⟨rest, rfl⟩ := hlongest.isPrefix
  obtain ⟨rfl, -⟩ := List.cons_prefix_cons.mp hm
  exact hearlier k hk (hwritten.number_of_head (hlongest.written.head_of_number c rfl))

end TokenKind

/-! ## What is cut off -/

/-- All digits at the front of a text: none stands behind them. -/
structure IsDigitRun (ds rest : List Char) : Prop where
  digits : ∀ d ∈ ds, d.isDigit
  maximal : ∀ c ∈ rest.head?, ¬ c.isDigit

theorem fraction_eq_nil {cs : List Char} (h : ∀ d ds, cs = '.' :: d :: ds → ¬ d.isDigit) :
    fraction cs = [] := by
  obtain hnil | ⟨ds, hds, hne, hdigits⟩ := fraction_eq_nil_or cs
  · exact hnil
  · obtain ⟨d, ds, rfl⟩ := List.exists_cons_of_ne_nil hne
    obtain ⟨rest, rfl⟩ := hds ▸ fraction_isPrefix cs
    exact absurd (hdigits d List.mem_cons_self) (h d _ rfl)

theorem numeral?_whole {ds rest : List Char} (hne : ds ≠ []) (h : IsDigitRun ds rest)
    (hrest : ∀ c cs, rest = '.' :: c :: cs → ¬ c.isDigit) : numeral? (ds ++ rest) = some ds := by
  rw [numeral?, takeWhile_append_of_head? h.digits h.maximal,
    dropWhile_append_of_head? h.digits h.maximal, fraction_eq_nil hrest]
  simp [hne]

theorem numeral?_fraction {ws ds rest : List Char} (hws : ∀ d ∈ ws, d.isDigit) (hne : ds ≠ [])
    (h : IsDigitRun ds rest) : numeral? (ws ++ '.' :: ds ++ rest) = some (ws ++ '.' :: ds) := by
  rw [List.append_assoc, List.cons_append, numeral?, takeWhile_isDigit_point hws,
    dropWhile_isDigit_point hws, fraction_cons, takeWhile_append_of_head? h.digits h.maximal,
    if_neg hne]
  simp

/-! ## What a cursor finds -/

namespace Cursor

theorem next_of_numeral {gap l after : List Char} (hgap : ∀ c ∈ gap, isBlank c)
    (h : numeral? (l ++ after) = some l) (offset : Nat) :
    (Cursor.mk offset (gap ++ (l ++ after))).next =
      (match numeralValue? l after with
        | some n => .ok (some (.number n))
        | none => .error (.malformedNumber (offset + byteLength gap) (String.ofList l)),
        ⟨offset + byteLength (gap ++ l), after⟩) := by
  have hcuts := TokenKind.cuts_number h
  have hskip := skipBlanks_of_isGap (IsGap.of_written hgap hcuts.written after) offset
  cases hvalue : numeralValue? l after
  all_goals
    simp [next, hskip, hcuts.written.ne_nil, TokenKind.first?_eq_some_iff.mpr hcuts, advance,
      TokenKind.token?, hvalue, Nat.add_assoc]

/-- Digits are an integer as long as 64 bits can hold their value, and with a fraction they are a
float as long as nothing clings to it. Either way the cursor stands behind them. -/
theorem next_numeral {gap ds rest : List Char} (hgap : ∀ c ∈ gap, isBlank c) (hne : ds ≠ [])
    (h : IsDigitRun ds rest) (offset : Nat) :
    ((∀ c cs, rest = '.' :: c :: cs → ¬ c.isDigit) →
      (Nat.ofDigitChars 10 ds 0 ≤ 2 ^ 63 - 1 → ∃ n : Int64, n.toInt = Nat.ofDigitChars 10 ds 0 ∧
        (Cursor.mk offset (gap ++ (ds ++ rest))).next =
          (.ok (some (.number (.integer n))), ⟨offset + byteLength (gap ++ ds), rest⟩)) ∧
      (2 ^ 63 - 1 < Nat.ofDigitChars 10 ds 0 →
        (Cursor.mk offset (gap ++ (ds ++ rest))).next =
          (.error (.malformedNumber (offset + byteLength gap) (String.ofList ds)),
            ⟨offset + byteLength (gap ++ ds), rest⟩))) ∧
    ∀ ws, (∀ d ∈ ws, d.isDigit) →
      ((∀ c ∈ rest.head?, isBlank c) →
        (Cursor.mk offset (gap ++ (ws ++ '.' :: ds ++ rest))).next =
          (.ok (some (.number (.float (Decimal.ofDigits ws ds).toFloat))),
            ⟨offset + byteLength (gap ++ (ws ++ '.' :: ds)), rest⟩)) ∧
      ((∃ c ∈ rest.head?, ¬ isBlank c) →
        (Cursor.mk offset (gap ++ (ws ++ '.' :: ds ++ rest))).next =
          (.error (.malformedNumber (offset + byteLength gap) (String.ofList (ws ++ '.' :: ds))),
            ⟨offset + byteLength (gap ++ (ws ++ '.' :: ds)), rest⟩)) := by
  refine ⟨fun hrest => ?_, fun ws hws => ?_⟩
  · have hnext := next_of_numeral hgap (numeral?_whole hne h hrest) offset
    rw [numeralValue?_whole h.digits] at hnext
    refine ⟨fun hle => ?_, fun hlt => ?_⟩
    · obtain ⟨n, hn⟩ : ∃ n : Int64, n.toInt = Nat.ofDigitChars 10 ds 0 :=
        ⟨Int64.ofInt (Nat.ofDigitChars 10 ds 0), Int64.toInt_ofInt_of_le (by omega) (by omega)⟩
      rw [int64?_eq_some_iff.mpr hn] at hnext
      exact ⟨n, hn, hnext⟩
    · have hmax : Int64.maxValue.toInt = 2 ^ 63 - 1 := rfl
      rw [int64?_eq_none_iff.mpr (.inr (by omega))] at hnext
      exact hnext
  · have hnext := next_of_numeral hgap (numeral?_fraction hws hne h) offset
    rw [numeralValue?_fraction hws] at hnext
    refine ⟨fun hblank => ?_, fun ⟨c, hc, hclings⟩ => ?_⟩
    · rwa [if_pos ((Option.all_eq_true _ _).mpr hblank)] at hnext
    · rwa [if_neg fun hall => hclings ((Option.all_eq_true _ _).mp hall c hc)] at hnext

/-- Leading zeros count nothing, and `2 ^ 63` is too large. The point behind it has no digit, so it
is left where it is. -/
theorem next_numeral_of_zeros :
    (∀ c ∈ ['\t', ' '], isBlank c) ∧ IsDigitRun ['0', '0', '7'] [' ', '1'] ∧
      (Cursor.mk 4 ('\t' :: ' ' :: "007 1".toList)).next =
        (.ok (some (.number (.integer 7))), ⟨9, [' ', '1']⟩) ∧
      (Cursor.mk 4 ('\t' :: ' ' :: ".007 1".toList)).next =
        (.ok (some (.number (.float 0.007))), ⟨10, [' ', '1']⟩) ∧
      IsDigitRun "9223372036854775808".toList ['.'] ∧
      2 ^ 63 - 1 < Nat.ofDigitChars 10 "9223372036854775808".toList 0 ∧
      (Cursor.mk 4 ('\t' :: ' ' :: "9223372036854775808.".toList)).next =
        (.error (.malformedNumber 6 "9223372036854775808"), ⟨25, ['.']⟩) ∧
      (Cursor.mk 4 ('\t' :: ' ' :: "1.9223372036854775808.".toList)).next =
        (.error (.malformedNumber 6 "1.9223372036854775808"), ⟨27, ['.']⟩) := by
  have hgap : ∀ c ∈ ['\t', ' '], isBlank c := by simp; decide
  have hzeros : IsDigitRun ['0', '0', '7'] [' ', '1'] := ⟨by simp, by simp⟩
  have hlarge : IsDigitRun "9223372036854775808".toList ['.'] := ⟨by simp, by simp⟩
  have hbound : 2 ^ 63 - 1 < Nat.ofDigitChars 10 "9223372036854775808".toList 0 := by decide
  obtain ⟨hwhole, hfraction⟩ := next_numeral hgap (by simp) hzeros 4
  obtain ⟨n, hn, hseven⟩ := (hwhole (by simp)).1 (by decide)
  obtain rfl : n = 7 := Int64.toInt_inj.mp hn
  have hfloat : (Decimal.ofDigits [] ['0', '0', '7']).toFloat = 0.007 := by decide +kernel
  have hpoint := (hfraction [] (by simp)).1 (by simp; decide)
  rw [hfloat] at hpoint
  obtain ⟨htooLarge, hclings⟩ := next_numeral hgap (by simp) hlarge 4
  exact ⟨hgap, hzeros, hseven, hpoint, hlarge, hbound, (htooLarge (by simp)).2 hbound,
    (hclings ['1'] (by simp)).2 ⟨'.', rfl, by decide⟩⟩

end Cursor

end Calculator
