import Calculator.Proofs.NearestFloat
import Calculator.Proofs.NumberStatements

/-!
# Literals with a fraction

A literal with a point is read as the nearest float, and becomes an integer exactly if that float
is equal to one. Where the literal is short or is a float itself, this tells whether its fraction is
zero, and the integer is that of the digits in front of the point.
-/

namespace Calculator

open Text

/-! ## Settling -/

namespace Number

theorem settle_eq_integer_iff {x : Float} {n : Int64} :
    (Number.float x).settle = .integer n ↔ exactValue? x = some (n.toInt : ℚ) := by
  rw [← wholeValue?_eq_some_iff, settle]
  cases hwhole : wholeValue? x with
  | none => simp
  | some i =>
    simp only [Option.bind_some, Option.some.injEq, eq_comm (a := i), ← int64?_eq_some_iff]
    cases int64? i <;> simp

theorem settle_eq_float_iff {x : Float} :
    (Number.float x).settle = .float x ↔ ∀ n : Int64, exactValue? x ≠ some (n.toInt : ℚ) := by
  simp only [ne_eq, ← settle_eq_integer_iff]
  rw [settle]
  cases (wholeValue? x).bind int64? <;> simp

end Number

/-! ## The values of digits -/

theorem toNat_sub_lt_of_isDigit {c : Char} (h : c.isDigit) : c.toNat - '0'.toNat < 10 := by
  have hrange := Char.isDigit_iff_toNat.mp h
  have hzero : '0'.toNat = 48 := rfl
  have hnine : '9'.toNat = 57 := rfl
  omega

theorem ofDigitChars_lt {ds : List Char} (h : ∀ d ∈ ds, d.isDigit) :
    Nat.ofDigitChars 10 ds 0 < 10 ^ ds.length := by
  induction ds with
  | nil => simp
  | cons d ds ih =>
    rw [List.forall_mem_cons] at h
    have hd := toNat_sub_lt_of_isDigit h.1
    have hds := ih h.2
    rw [Nat.ofDigitChars_cons, Nat.ofDigitChars_eq_ofDigitChars_zero, List.length_cons, pow_succ]
    nlinarith

theorem ofDigitChars_eq_zero_iff {ds : List Char} (h : ∀ d ∈ ds, d.isDigit) :
    Nat.ofDigitChars 10 ds 0 = 0 ↔ ∀ d ∈ ds, d = '0' := by
  induction ds with
  | nil => simp
  | cons d ds ih =>
    rw [List.forall_mem_cons] at h
    have hzero : d.toNat - '0'.toNat = 0 ↔ d = '0' := by
      rw [← Char.toNat_inj, Nat.sub_eq_zero_iff_le]
      exact ⟨fun hle => hle.antisymm (Char.isDigit_iff_toNat.mp h.1).1, Eq.le⟩
    rw [Nat.ofDigitChars_cons, Nat.ofDigitChars_eq_ofDigitChars_zero, List.forall_mem_cons, ← ih h.2,
      ← hzero]
    simp

namespace Decimal

theorem exponent_ofDigits (ds fs : List Char) : (ofDigits ds fs).exponent = -(fs.length : Int) := rfl

theorem value_ofDigits (ds fs : List Char) :
    (ofDigits ds fs).value =
      Nat.ofDigitChars 10 ds 0 + Nat.ofDigitChars 10 fs 0 / 10 ^ fs.length := by
  rw [value, ofDigits, Nat.ofDigitChars_append, Nat.ofDigitChars_eq_ofDigitChars_zero, zpow_neg,
    zpow_natCast]
  push_cast
  field_simp

theorem value_ofDigits_eq_iff {ds fs : List Char} (h : ∀ d ∈ fs, d.isDigit) {i : Int} :
    (ofDigits ds fs).value = i ↔ (∀ d ∈ fs, d = '0') ∧ (Nat.ofDigitChars 10 ds 0 : Int) = i := by
  rw [value_ofDigits, ← ofDigitChars_eq_zero_iff h]
  have hlt : (Nat.ofDigitChars 10 fs 0 : ℚ) / 10 ^ fs.length < 1 := by
    rw [div_lt_one (by positivity)]
    exact_mod_cast ofDigitChars_lt h
  constructor
  · intro hvalue
    have hpos : (0 : ℚ) ≤ Nat.ofDigitChars 10 fs 0 / 10 ^ fs.length := by positivity
    have hlower : ((Nat.ofDigitChars 10 ds 0 : Int) : ℚ) ≤ i := by push_cast; linarith
    have hupper : (i : ℚ) < (Nat.ofDigitChars 10 ds 0 : Int) + 1 := by push_cast; linarith
    have hwhole : (Nat.ofDigitChars 10 ds 0 : Int) = i :=
      le_antisymm (by exact_mod_cast hlower) (Int.lt_add_one_iff.mp (by exact_mod_cast hupper))
    refine ⟨?_, hwhole⟩
    rw [← hwhole, Int.cast_natCast, add_eq_left, div_eq_zero_iff] at hvalue
    exact_mod_cast hvalue.resolve_right (by positivity)
  · rintro ⟨hzero, rfl⟩
    simp [hzero]

end Decimal

/-- Rounding moves a decimal of at most 15 digits by less than its last digit is worth. So none
that is not an integer is rounded to one. -/
theorem RoundsTo.eq_intCast_of_short {n k : Nat} {i : Int} (h : RoundsTo (n / 10 ^ k) i)
    (hn : n < 10 ^ 15) (hk : k ≤ 15) : (n / 10 ^ k : ℚ) = i := by
  obtain ⟨r, t, -, hhalf, hfine⟩ := h
  have hten : (0 : ℚ) < 10 ^ k := by positivity
  have hunit : 10 ^ k * (2 ^ t / 2 : ℚ) < 1 := by
    rcases hfine with rfl | hfine
    · have hpow : (10 ^ k : ℚ) ≤ 10 ^ 15 := pow_le_pow_right₀ (by norm_num) hk
      have hleast : (2 ^ (-1074 : Int) : ℚ) ≤ 2 ^ (-50 : Int) :=
        zpow_le_zpow_right₀ (by norm_num) (by norm_num)
      calc 10 ^ k * (2 ^ (-1074 : Int) / 2 : ℚ) ≤ 10 ^ 15 * (2 ^ (-50 : Int) / 2) := by gcongr
        _ < 1 := by norm_num
    · have hn' : (n : ℚ) < 10 ^ 15 := by exact_mod_cast hn
      rw [le_div_iff₀ hten] at hfine
      linarith
  have hnear : |((i * 10 ^ k - n : Int) : ℚ)| < 1 := by
    calc |((i * 10 ^ k - n : Int) : ℚ)| = |(10 ^ k * (i - n / 10 ^ k) : ℚ)| := by
          push_cast
          congr 1
          field_simp
      _ = 10 ^ k * |(i - n / 10 ^ k : ℚ)| := by rw [abs_mul, abs_of_pos hten]
      _ ≤ 10 ^ k * (2 ^ t / 2) := by gcongr
      _ < 1 := hunit
  have hzero : i * 10 ^ k - n = 0 := Int.abs_lt_one_iff.mp (by exact_mod_cast hnear)
  rw [div_eq_iff hten.ne']
  exact_mod_cast (sub_eq_zero.mp hzero).symm

theorem RoundsTo.eq_intCast_iff_of_short {n k : Nat} {v : ℚ} {i : Int}
    (h : RoundsTo (n / 10 ^ k) v) (hn : n < 10 ^ 15) (hk : k ≤ 15) :
    v = i ↔ (n / 10 ^ k : ℚ) = i := by
  constructor
  · rintro rfl
    exact h.eq_intCast_of_short hn hk
  · intro hi
    have hlower : (0 : ℚ) ≤ i := hi ▸ by positivity
    have hupper : (i : ℚ) < 10 ^ 15 := by
      calc (i : ℚ) = n / 10 ^ k := hi.symm
        _ ≤ n := div_le_self (by positivity) (one_le_pow₀ (by norm_num))
        _ < 10 ^ 15 := by exact_mod_cast hn
    have hlower' : 0 ≤ i := by exact_mod_cast hlower
    have hupper' : i < 10 ^ 15 := by exact_mod_cast hupper
    rw [hi] at h
    exact h.nearest.eq_of_representable (representable_intCast (by omega))

theorem value_ofDigits_eq_div (ds fs : List Char) :
    (Decimal.ofDigits ds fs).value = Nat.ofDigitChars 10 (ds ++ fs) 0 / 10 ^ fs.length := by
  rw [Decimal.value, Decimal.ofDigits, zpow_neg, zpow_natCast, div_eq_mul_inv]

/-! ## The leaf of a literal -/

/-- A text of decimal digits. -/
structure IsDigits (s : String) : Prop where
  nonempty : s ≠ ""
  digits : ∀ c ∈ s.toList, c.isDigit

/-- The integer that digits are written for. -/
def digitsValue (s : String) : Nat := Nat.ofDigitChars 10 s.toList 0

/-- The number that is written as `d.f`. -/
def literalValue (d f : String) : ℚ := digitsValue d + digitsValue f / 10 ^ f.length

/-- The literal `d.f` as a statement. -/
def fractionStatement (d f : String) : String := d ++ "." ++ f ++ " ;"

theorem IsDigits.toList_ne_nil {s : String} (h : IsDigits s) : s.toList ≠ [] :=
  mt String.toList_eq_nil_iff.mp h.nonempty

theorem reads_whole {d : String} (hd : IsDigits d) {n : Int64} (hn : n.toInt = digitsValue d) :
    Reads (d ++ ";") (.number (.integer n)) := by
  have hrun : IsDigitRun d.toList [';'] := ⟨hd.digits, by simp⟩
  have hnumeral := numeral?_whole hd.toList_ne_nil hrun (by simp)
  have hvalue : numeralValue? d.toList ([] ++ [';']) = some (.integer n) := by
    rw [numeralValue?_whole hd.digits, Option.map_eq_some_iff]
    exact ⟨n, int64?_eq_some_iff.mpr hn, rfl⟩
  exact reads_number (by simp) (by simp) hnumeral hvalue

theorem reads_fraction {d f : String} (hd : IsDigits d) (hf : IsDigits f) :
    Reads (fractionStatement d f)
      (.number (Number.float (Decimal.ofDigits d.toList f.toList).toFloat).settle) := by
  have hrun : IsDigitRun f.toList [' ', ';'] := ⟨hf.digits, by simp⟩
  have hnumeral := numeral?_fraction hd.digits hf.toList_ne_nil hrun
  have hvalue : numeralValue? (d.toList ++ '.' :: f.toList) ([' '] ++ [';']) =
      some (.float (Decimal.ofDigits d.toList f.toList).toFloat) := by
    rw [numeralValue?_fraction hd.digits, if_pos (by decide)]
  exact reads_number (by simp [fractionStatement]) (by simp; decide) hnumeral hvalue

theorem value_ofDigits_toList (d f : String) :
    (Decimal.ofDigits d.toList f.toList).value = literalValue d f := by
  rw [Decimal.value_ofDigits, String.length_toList]
  rfl

theorem literalValue_lt {d f : String} (hf : IsDigits f) : literalValue d f < digitsValue d + 1 := by
  have hlt : digitsValue f < 10 ^ f.length := by
    rw [← String.length_toList]
    exact ofDigitChars_lt hf.digits
  have hfraction : (digitsValue f : ℚ) / 10 ^ f.length < 1 := by
    rw [div_lt_one (by positivity)]
    exact_mod_cast hlt
  rw [literalValue]
  linarith

theorem literalValue_eq_iff {d f : String} (hf : IsDigits f) {i : Int} :
    literalValue d f = i ↔ (∀ c ∈ f.toList, c = '0') ∧ (digitsValue d : Int) = i := by
  rw [← value_ofDigits_toList]
  exact Decimal.value_ofDigits_eq_iff hf.digits

theorem rounded_eq_iff {d f : String} (hd : IsDigits d) (hf : IsDigits f) {v : ℚ}
    (hrounds : RoundsTo (literalValue d f) v)
    (h : (∃ y, exactValue? y = some (literalValue d f)) ∨ d.length + f.length ≤ 15) {i : Int} :
    v = i ↔ literalValue d f = i := by
  rcases h with ⟨y, hy⟩ | hshort
  · rw [hrounds.nearest.eq_of_representable (representable_of_exactValue? hy)]
  · have hlt : Nat.ofDigitChars 10 (d.toList ++ f.toList) 0 < 10 ^ 15 := by
      refine (ofDigitChars_lt ?_).trans_le (Nat.pow_le_pow_right (by decide) ?_)
      · exact fun c hc => (List.mem_append.mp hc).elim (hd.digits c) (hf.digits c)
      · rw [List.length_append, String.length_toList, String.length_toList]
        exact hshort
    rw [← value_ofDigits_toList, value_ofDigits_eq_div] at hrounds ⊢
    exact hrounds.eq_intCast_iff_of_short hlt (by rw [String.length_toList]; omega)

/-- A literal with a point is read as the float that is nearest to it, and becomes an integer
exactly if that float is equal to one. A literal that is itself a float or has at most 15 digits
becomes an integer exactly if its fraction is zero, and then the one in front of the point. -/
theorem literal_reads_nearest {d f : String} (hd : IsDigits d) (hf : IsDigits f)
    (hmax : digitsValue d ≤ 2 ^ 63 - 1) :
    ∃ (n : Int64) (x : Float) (v : ℚ),
      n.toInt = digitsValue d ∧ Reads (d ++ ";") (.number (.integer n)) ∧
      exactValue? x = some v ∧
      (∀ y w, exactValue? y = some w → |v - literalValue d f| ≤ |w - literalValue d f|) ∧
      (∀ m, Reads (fractionStatement d f) (.number (.integer m)) ↔ v = m.toInt) ∧
      (Reads (fractionStatement d f) (.number (.float x)) ↔ ∀ m : Int64, v ≠ m.toInt) ∧
      ((∃ y, exactValue? y = some (literalValue d f)) ∨ d.length + f.length ≤ 15 →
        ∀ m, Reads (fractionStatement d f) (.number (.integer m)) ↔
          (∀ c ∈ f.toList, c = '0') ∧ m = n) ∧
      ((∀ c ∈ f.toList, c = '0') → digitsValue d ≤ 2 ^ 53 →
        Reads (fractionStatement d f) (.number (.integer n))) := by
  obtain ⟨n, hn⟩ : ∃ n : Int64, n.toInt = digitsValue d :=
    ⟨Int64.ofInt (digitsValue d), Int64.toInt_ofInt_of_le (by omega) (by omega)⟩
  have hexponent : (Decimal.ofDigits d.toList f.toList).exponent < 0 := by
    have hlength := List.length_pos_iff.mpr hf.toList_ne_nil
    rw [Decimal.exponent_ofDigits]
    omega
  have hsmall : (Decimal.ofDigits d.toList f.toList).value < 2 ^ 64 := by
    have hdigits : (digitsValue d : ℚ) ≤ 2 ^ 63 - 1 := by
      have : digitsValue d + 1 ≤ 2 ^ 63 := by omega
      rw [le_sub_iff_add_le]
      exact_mod_cast this
    have := literalValue_lt (d := d) hf
    rw [value_ofDigits_toList]
    linarith
  obtain ⟨v, hv, hrounds⟩ := Decimal.toFloat_spec hexponent hsmall
  rw [value_ofDigits_toList] at hrounds
  have hreads := reads_fraction hd hf
  have hinteger (m : Int64) :
      Reads (fractionStatement d f) (.number (.integer m)) ↔ v = m.toInt := by
    rw [hreads.number_iff, Number.settle_eq_integer_iff, hv, Option.some.injEq]
  refine ⟨n, _, v, hn, reads_whole hd hn, hv,
    fun y w hw => hrounds.nearest w (representable_of_exactValue? hw), hinteger, ?_, ?_, ?_⟩
  · rw [hreads.number_iff, Number.settle_eq_float_iff]
    simp only [hv, ne_eq, Option.some.injEq]
  · intro h m
    rw [hinteger, rounded_eq_iff hd hf hrounds h, literalValue_eq_iff hf, ← hn, Int64.toInt_inj,
      eq_comm (a := n)]
  · intro hzeros hbound
    have hexact : literalValue d f = n.toInt := (literalValue_eq_iff hf).mpr ⟨hzeros, hn.symm⟩
    rw [hinteger, ← hexact]
    refine hrounds.nearest.eq_of_representable ?_
    rw [hexact, hn]
    exact representable_intCast (by omega)

/-- `3.0` and `3` are the same leaf. -/
theorem literal_reads_nearest_three :
    IsDigits "3" ∧ IsDigits "0" ∧ digitsValue "3" ≤ 2 ^ 63 - 1 ∧
      Reads (fractionStatement "3" "0") (.number (.integer 3)) ∧
      Reads ("3" ++ ";") (.number (.integer 3)) := by
  have hd : IsDigits "3" := ⟨by decide, List.all_eq_true.mp (by decide)⟩
  have hf : IsDigits "0" := ⟨by decide, List.all_eq_true.mp (by decide)⟩
  have hmax : digitsValue "3" ≤ 2 ^ 63 - 1 := by decide
  obtain ⟨n, -, -, hn, hwhole, -, -, -, -, -, hzeros⟩ := literal_reads_nearest hd hf hmax
  obtain rfl : n = 3 := Int64.toInt_inj.mp hn
  exact ⟨hd, hf, hmax, hzeros (by simp) (by decide), hwhole⟩

/-- Digits are lost beyond `2 ^ 53`, and a fraction too small for a float is lost. -/
theorem literals_rounded :
    Reads (fractionStatement "9007199254740993" "0") (.number (.integer 9007199254740992)) ∧
      Reads ("9007199254740993" ++ ";") (.number (.integer 9007199254740993)) ∧
      Reads (fractionStatement "1" "0000000000000000000001") (.number (.integer 1)) := by
  refine ⟨⟨[.number (.float 9007199254740992), .semicolon], ?_, ?_⟩,
    ⟨[.number (.integer 9007199254740993), .semicolon], ?_, ?_⟩,
    ⟨[.number (.float 1), .semicolon], ?_, ?_⟩⟩
  all_goals decide +kernel

end Calculator
