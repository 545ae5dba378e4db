import Calculator.Proofs.Rounding

/-!
# The floats of integers and decimals

An integer of 64 bits becomes the nearest float, and a decimal with a fraction is read as the
nearest float. So the order of integers is kept, and integers of 53 bits keep their values.
-/

namespace Calculator

open Float.Model (Format UnpackedFloat totalExponent)
open Float.Model.UnpackedFloat (Sign accuracyOfFraction decreaseExponent divCore roundWithAccuracy)

/-! ## Integers -/

theorem log2_shiftLeft {n : Nat} (hn : n ≠ 0) (k : Nat) : (n <<< k).log2 = n.log2 + k := by
  have hne : n <<< k ≠ 0 := by simp [Nat.shiftLeft_eq, hn]
  rw [Nat.log2_eq_iff hne, Nat.shiftLeft_eq, Nat.add_right_comm, pow_add, pow_add _ (n.log2 + 1)]
  exact ⟨Nat.mul_le_mul_right _ (Nat.log2_self_le hn),
    Nat.mul_lt_mul_of_pos_right Nat.lt_log2_self (Nat.two_pow_pos k)⟩

theorem round_spec (s : Sign) {n : Nat} (hn : n ≠ 0) (hsmall : n < 2 ^ 64) :
    Canonical (UnpackedFloat.round .binary64 s n 0) ∧
      ∃ v, value? (UnpackedFloat.round .binary64 s n 0) = some (s.apply 1 * v : ℚ) ∧
        RoundsTo n v := by
  have hlog : n.log2 < 64 := (Nat.log2_lt hn).mpr hsmall
  simp only [UnpackedFloat.round, decreaseExponent, targetExponent_eq]
  generalize hk : (0 - max ((n.log2 : Int) + 0 - 52) (-1074)).toNat = k
  have hlog' := log2_shiftLeft hn k
  have hspec := roundWithAccuracy_spec (s := s) (e := 0 - k) (Extends.exact (n <<< k))
    (.inl (by omega)) (by omega)
  have hvalue : ((n <<< k : Nat) : ℚ) * 2 ^ (0 - (k : Int)) = n := by
    rw [Nat.shiftLeft_eq, zero_sub, zpow_neg, zpow_natCast]
    push_cast
    exact mul_inv_cancel_right₀ (by positivity) _
  rwa [hvalue] at hspec

theorem nearestFloat_spec {i : Int} (hsmall : i.natAbs < 2 ^ 64) :
    ∃ v, exactValue? (nearestFloat i) = some v ∧ Nearest i v := by
  unfold nearestFloat Float.Model.ofInt UnpackedFloat.ofInt UnpackedFloat.normalize
  rcases lt_trichotomy i 0 with hi | rfl | hi
  · obtain ⟨n, rfl⟩ := Int.exists_eq_neg_ofNat hi.le
    obtain ⟨hcanonical, v, hv, hrounds⟩ := round_spec .negative (n := n) (by omega) (by omega)
    rw [compare_lt_iff_lt.mpr hi]
    refine ⟨-v, ?_, by exact_mod_cast hrounds.nearest.neg⟩
    simpa [Sign.apply] using (exactValue?_pack hcanonical).trans hv
  · exact ⟨0, rfl, fun w _ => by simp⟩
  · obtain ⟨n, rfl⟩ := Int.eq_ofNat_of_zero_le hi.le
    obtain ⟨hcanonical, v, hv, hrounds⟩ := round_spec .positive (n := n) (by omega) (by omega)
    rw [compare_gt_iff_gt.mpr hi]
    refine ⟨v, ?_, by exact_mod_cast hrounds.nearest⟩
    simpa [Sign.apply] using (exactValue?_pack hcanonical).trans hv

theorem nearestFloat_toInt (n : Int64) :
    ∃ v, exactValue? (nearestFloat n.toInt) = some v ∧ Nearest n.toInt v := by
  have lower := n.le_toInt
  have upper := n.toInt_lt
  exact nearestFloat_spec (by omega)

theorem nearestFloat_mono {m n : Int64} (h : m.toInt ≤ n.toInt) {v w : ℚ}
    (hv : exactValue? (nearestFloat m.toInt) = some v)
    (hw : exactValue? (nearestFloat n.toInt) = some w) : v ≤ w := by
  obtain ⟨v', hv', hm⟩ := nearestFloat_toInt m
  obtain ⟨w', hw', hn⟩ := nearestFloat_toInt n
  obtain rfl : v' = v := Option.some.inj (hv'.symm.trans hv)
  obtain rfl : w' = w := Option.some.inj (hw'.symm.trans hw)
  rcases h.eq_or_lt with heq | hlt
  · rw [heq] at hv
    exact (Option.some.inj (hv.symm.trans hw)).le
  · exact hm.mono hn (representable_of_exactValue? hv) (representable_of_exactValue? hw)
      (by exact_mod_cast hlt)

theorem representable_intCast {i : Int} (h : i.natAbs ≤ 2 ^ 53) : Representable (i : ℚ) := by
  rcases h.eq_or_lt with heq | hlt
  · rcases Int.natAbs_eq_iff.mp heq with rfl | rfl
    · exact ⟨1, 53, by decide, by decide, by norm_num⟩
    · exact ⟨-1, 53, by decide, by decide, by norm_num⟩
  · exact ⟨i, 0, hlt, by decide, by simp⟩

theorem exactValue?_nearestFloat {i : Int} (h : i.natAbs ≤ 2 ^ 53) :
    exactValue? (nearestFloat i) = some (i : ℚ) := by
  obtain ⟨v, hv, hnearest⟩ := nearestFloat_spec (i := i) (by omega)
  rw [hv, hnearest.eq_of_representable (representable_intCast h)]

/-! ## Decimals -/

/-- The number that a decimal is written for. -/
def Decimal.value (d : Decimal) : ℚ := d.digits * 10 ^ d.exponent

theorem le_log2_shiftLeft_div {m n k : Nat} (hm : m ≠ 0) (hn : 0 < n)
    (h : n.log2 + 53 ≤ m.log2 + k) : 52 ≤ (m <<< k / n).log2 := by
  have hle : 2 ^ 52 ≤ m <<< k / n := by
    rw [Nat.le_div_iff_mul_le hn, Nat.shiftLeft_eq]
    calc 2 ^ 52 * n ≤ 2 ^ 52 * 2 ^ (n.log2 + 1) := Nat.mul_le_mul_left _ Nat.lt_log2_self.le
      _ = 2 ^ (n.log2 + 53) := by rw [← pow_add]; congr 1; omega
      _ ≤ 2 ^ (m.log2 + k) := Nat.pow_le_pow_right (by decide) h
      _ = 2 ^ m.log2 * 2 ^ k := pow_add _ _ _
      _ ≤ m * 2 ^ k := Nat.mul_le_mul_right _ (Nat.log2_self_le hm)
  exact (Nat.le_log2 (by omega)).mpr hle

theorem log2_shiftLeft_div_lt {m n k : Nat} (hn : 0 < n) (hsmall : m < 2 ^ 64 * n) :
    (m <<< k / n).log2 < 64 + k := by
  by_cases hzero : m <<< k / n = 0
  · rw [hzero, Nat.log2_zero]
    omega
  · rw [Nat.log2_lt hzero, Nat.div_lt_iff_lt_mul hn, Nat.shiftLeft_eq, pow_add, Nat.mul_right_comm]
    exact Nat.mul_lt_mul_of_pos_right hsmall (Nat.two_pow_pos k)

theorem shiftLeft_div_add_mod (m k : Nat) {n : Nat} (hn : 0 < n) :
    ((m <<< k / n : Nat) + (m <<< k % n : Nat) / n) * 2 ^ (-(k : Int)) = (m / n : ℚ) := by
  have hn' : (n : ℚ) ≠ 0 := by exact_mod_cast hn.ne'
  have hsplit : (n * (m <<< k / n : Nat) + (m <<< k % n : Nat) : ℚ) = m * 2 ^ k := by
    rw [← Nat.cast_ofNat, ← Nat.cast_pow, ← Nat.cast_mul m, ← Nat.shiftLeft_eq]
    exact_mod_cast Nat.div_add_mod (m <<< k) n
  rw [zpow_neg, zpow_natCast, ← div_eq_mul_inv, div_eq_div_iff (by positivity) hn', ← hsplit]
  field_simp

theorem div_spec {m n : Nat} (hm : 0 < m) (hn : 0 < n) (hsmall : m < 2 ^ 64 * n) :
    let u := UnpackedFloat.div .binary64 (.finite .positive m 0 hm) (.finite .positive n 0 hn)
    Canonical u ∧ ∃ v, value? u = some v ∧ RoundsTo (m / n) v := by
  intro u
  have htarget : Format.binary64.targetExponent (totalExponent m 0 - totalExponent n 0) =
      max ((m.log2 : Int) - n.log2 - 53) (-1074) := by
    rw [targetExponent_binary64, totalExponent, totalExponent]
    omega
  obtain ⟨k, hk⟩ : ∃ k : Nat,
      min (0 - 0) (max ((m.log2 : Int) - n.log2 - 53) (-1074)) = -(k : Int) :=
    Int.exists_eq_neg_ofNat (by omega)
  have hu : u = roundWithAccuracy .binary64 .positive (m <<< k / n) (-k)
      (accuracyOfFraction (m <<< k % n) n) := by
    have hshift : (0 - 0 - -(k : Int)).toNat = k := by omega
    simp only [u, UnpackedFloat.div, divCore, htarget, hk, hshift]
    rfl
  have henough : 52 ≤ (m <<< k / n).log2 ∨ -(k : Int) ≤ -1074 := by
    by_cases hleast : -(k : Int) ≤ -1074
    · exact .inr hleast
    · exact .inl (le_log2_shiftLeft_div hm.ne' hn (by omega))
  have hlog := log2_shiftLeft_div_lt (k := k) hn hsmall
  have hspec := roundWithAccuracy_spec (s := .positive)
    (Extends.fraction (m <<< k / n) (Nat.mod_lt (m <<< k) hn)) henough (by omega)
  rw [shiftLeft_div_add_mod m k hn, ← hu] at hspec
  simpa [Sign.apply] using hspec

theorem roundsTo_zero {x : ℚ} (hx : 0 ≤ x) (hsmall : x ≤ 2 ^ (-1074 : Int) / 2) : RoundsTo x 0 :=
  ⟨0, -1074, by simp, by rwa [zero_sub, abs_neg, abs_of_nonneg hx], .inl rfl⟩

theorem div_ten_pow_le {m k : Nat} (h : 2048 + m.log2 < k) :
    (m / 10 ^ k : ℚ) ≤ 2 ^ (-1074 : Int) / 2 := by
  have hm : (m : ℚ) ≤ 2 ^ (m.log2 + 1) := by exact_mod_cast Nat.lt_log2_self.le
  calc (m / 10 ^ k : ℚ) ≤ 2 ^ (m.log2 + 1) / 2 ^ k := by gcongr; norm_num
    _ = 2 ^ ((m.log2 + 1 : Nat) - (k : Int)) := by
      rw [zpow_sub₀ two_ne_zero, zpow_natCast, zpow_natCast]
    _ ≤ 2 ^ (-1074 - 1 : Int) := zpow_le_zpow_right₀ (by norm_num) (by omega)
    _ = 2 ^ (-1074 : Int) / 2 := by rw [zpow_sub_one₀ two_ne_zero, div_eq_mul_inv]

theorem Decimal.toFloat_spec {d : Decimal} (hexponent : d.exponent < 0) (hsmall : d.value < 2 ^ 64) :
    ∃ v, exactValue? d.toFloat = some v ∧ RoundsTo d.value v := by
  obtain ⟨m, e⟩ := d
  obtain ⟨k, rfl⟩ := Int.exists_eq_neg_ofNat hexponent.le
  have hk : 0 < k := by simpa using hexponent
  have hvalue : (Decimal.mk m (-k)).value = m / 10 ^ k := by
    rw [Decimal.value, zpow_neg, zpow_natCast, div_eq_mul_inv]
  have hbits : (2 ^ Format.binary64.exponentBits : Int) = 2048 := rfl
  rw [hvalue] at hsmall ⊢
  simp only [Decimal.toFloat, Float.Model.ofScientific, UnpackedFloat.ofScientific, hbits]
  by_cases hm : m = 0
  · subst hm
    rw [dif_pos rfl, Nat.cast_zero, zero_div]
    exact ⟨0, rfl, roundsTo_zero le_rfl (by positivity)⟩
  rw [dif_neg hm, if_neg (by omega)]
  by_cases htiny : -(k : Int) < -(2048 + m.log2)
  · rw [if_pos htiny]
    exact ⟨0, rfl, roundsTo_zero (by positivity) (div_ten_pow_le (by omega))⟩
  · have hten : m < 2 ^ 64 * 10 ^ k := by
      rw [div_lt_iff₀ (by positivity)] at hsmall
      exact_mod_cast hsmall
    obtain ⟨hcanonical, v, hv, hrounds⟩ :=
      div_spec (Nat.pos_of_ne_zero hm) (Nat.pow_pos (by decide)) hten
    rw [if_neg htiny, if_neg (by omega)]
    simp only [neg_neg, Int.toNat_natCast]
    exact ⟨v, (exactValue?_pack hcanonical).trans hv, by exact_mod_cast hrounds⟩

end Calculator
