import Calculator.Proofs.FloatValues

/-!
# Rounding to the nearest float

A mantissa is shifted to its place together with two bits for what it loses, and then rounded. The
result lies within half a unit of the exact number, and that unit is as fine as floats of this size
have it. So no float is nearer.
-/

namespace Calculator

open Float.Model (Format UnpackedFloat totalExponent)
open Float.Model.UnpackedFloat (Accuracy ExtendedMantissa Sign accuracyOfFraction decreaseExponent
  divCore roundWithAccuracy shiftToExponent shiftToTargetExponent)

/-! ## The two residual bits -/

/-- The first bit tells whether `x` is at least a half above the mantissa, and the second whether
there is anything beyond that. -/
def Extends (em : ExtendedMantissa) (x : ℚ) : Prop :=
  ∃ δ : ℚ, x = em.mantissa + (if em.roundBit then 1 / 2 else 0) + δ ∧ 0 ≤ δ ∧ δ < 1 / 2 ∧
    (em.stickyBit ↔ δ ≠ 0)

namespace Extends

variable {em : ExtendedMantissa} {x : ℚ}

theorem mantissa_le (h : Extends em x) : em.mantissa ≤ x := by
  obtain ⟨δ, rfl, lower, -, -⟩ := h
  split <;> linarith

theorem lt_mantissa_add_one (h : Extends em x) : x < em.mantissa + 1 := by
  obtain ⟨δ, rfl, -, upper, -⟩ := h
  split <;> linarith

theorem exact (m : Nat) : Extends (.ofMantissaAndAccuracy m .exact) m :=
  ⟨0, by simp [ExtendedMantissa.ofMantissaAndAccuracy], le_rfl, by norm_num,
    by simp [ExtendedMantissa.ofMantissaAndAccuracy]⟩

theorem fraction (m : Nat) {num den : Nat} (h : num < den) :
    Extends (.ofMantissaAndAccuracy m (accuracyOfFraction num den)) (m + num / den) := by
  have hden : (0 : ℚ) < den := by exact_mod_cast Nat.zero_lt_of_lt h
  have hlt : (num : ℚ) < den := by exact_mod_cast h
  by_cases hzero : num = 0
  · subst hzero
    simpa [accuracyOfFraction] using exact m
  have hnum : (0 : ℚ) < num := by exact_mod_cast Nat.pos_of_ne_zero hzero
  have hle : (num / den : ℚ) < 1 := (div_lt_one hden).mpr hlt
  have hpos : (0 : ℚ) < num / den := by positivity
  rw [accuracyOfFraction, if_neg hzero]
  rcases lt_trichotomy (2 * num) den with hcompare | hcompare | hcompare
  · have hhalf : (2 * num : ℚ) < den := by exact_mod_cast hcompare
    rw [compare_lt_iff_lt.mpr hcompare]
    refine ⟨num / den, by simp [ExtendedMantissa.ofMantissaAndAccuracy], hpos.le, ?_, ?_⟩
    · rw [div_lt_div_iff₀ hden two_pos]
      linarith
    · simp [ExtendedMantissa.ofMantissaAndAccuracy, hpos.ne']
  · have hhalf : (num / den : ℚ) = 1 / 2 := by
      rw [div_eq_div_iff hden.ne' two_ne_zero, one_mul, mul_comm]
      exact_mod_cast hcompare
    rw [compare_eq_iff_eq.mpr hcompare, hhalf]
    exact ⟨0, by simp [ExtendedMantissa.ofMantissaAndAccuracy], le_rfl, by norm_num,
      by simp [ExtendedMantissa.ofMantissaAndAccuracy]⟩
  · have hhalf : (1 / 2 : ℚ) < num / den := by
      rw [div_lt_div_iff₀ two_pos hden, one_mul, mul_comm]
      exact_mod_cast hcompare
    rw [compare_gt_iff_gt.mpr hcompare]
    refine ⟨num / den - 1 / 2, ?_, by linarith, by linarith,
      iff_of_true rfl (sub_ne_zero.mpr hhalf.ne')⟩
    simp only [ExtendedMantissa.ofMantissaAndAccuracy, if_true]
    ring

theorem shiftRightOne (h : Extends em x) : Extends em.shiftRightOne (x / 2) := by
  obtain ⟨δ, rfl, lower, upper, hsticky⟩ := h
  have hsplit : (em.mantissa : ℚ) = 2 * (em.mantissa / 2 : ℕ) + (em.mantissa % 2 : ℕ) := by
    exact_mod_cast (Nat.div_add_mod em.mantissa 2).symm
  have hround : (em.shiftRightOne.roundBit = true) ↔ em.mantissa % 2 = 1 := by
    simp [ExtendedMantissa.shiftRightOne]
  refine ⟨(if em.roundBit then 1 / 4 else 0) + δ / 2, ?_, ?_, ?_, ?_⟩
  · rw [hsplit]
    rcases Nat.mod_two_eq_zero_or_one em.mantissa with hmod | hmod <;>
      cases hbit : em.roundBit <;> simp [ExtendedMantissa.shiftRightOne, hmod] <;> ring
  · split <;> linarith
  · split <;> linarith
  · cases hbit : em.roundBit with
    | false => simp [ExtendedMantissa.shiftRightOne, hbit, hsticky]
    | true =>
      have : (1 / 4 : ℚ) + δ / 2 ≠ 0 := by linarith
      simpa [ExtendedMantissa.shiftRightOne, hbit] using this

theorem shiftRight (h : Extends em x) (n : Nat) : Extends (em >>> n) (x / 2 ^ n) := by
  induction n with
  | zero => rwa [pow_zero, div_one]
  | succ n ih =>
    rw [pow_succ, ← div_div]
    exact ih.shiftRightOne

theorem abs_roundedMantissa_sub_le (h : Extends em x) : |(em.roundedMantissa : ℚ) - x| ≤ 1 / 2 := by
  obtain ⟨δ, rfl, lower, upper, hsticky⟩ := h
  obtain ⟨m, roundBit, stickyBit⟩ := em
  rw [abs_le]
  cases roundBit <;> cases stickyBit <;>
    simp only [ExtendedMantissa.roundedMantissa, ExtendedMantissa.accuracy,
      Accuracy.roundToNearestEven, Nat.cast_add, Nat.cast_one, if_true, if_false,
      Bool.false_eq_true]
  case true.false =>
    -- The tie goes to the even mantissa of the two that are equally near.
    have hexact : δ = 0 := by simpa using hsticky
    have hmod : ((m % 2 : ℕ) : ℚ) = 0 ∨ ((m % 2 : ℕ) : ℚ) = 1 := by
      exact_mod_cast Nat.mod_two_eq_zero_or_one m
    rcases hmod with hmod | hmod <;> constructor <;> linarith
  all_goals constructor <;> linarith

end Extends

/-! ## The grid -/

/-- `v` is a multiple of a power of two and within half of it from `x`. The power is the least one
that floats have, or `x` is so large that floats beyond it have no finer one. -/
def RoundsTo (x v : ℚ) : Prop :=
  ∃ (r : Nat) (t : Int), v = r * 2 ^ t ∧ |v - x| ≤ 2 ^ t / 2 ∧ (t = -1074 ∨ 2 ^ 52 * 2 ^ t ≤ x)

/-- No float is nearer to `x` than `v`. -/
def Nearest (x v : ℚ) : Prop := ∀ w, Representable w → |v - x| ≤ |w - x|

theorem Representable.neg {v : ℚ} (h : Representable v) : Representable (-v) := by
  obtain ⟨n, q, bits, least, rfl⟩ := h
  exact ⟨-n, q, by rwa [Int.natAbs_neg], least, by push_cast; ring⟩

theorem abs_sub_le_of_half_unit {u x : ℚ} {r k : Int} (hu : 0 < u) (h : |r * u - x| ≤ u / 2) :
    |r * u - x| ≤ |k * u - x| := by
  by_contra hlt
  have hnear : |((k - r : Int) : ℚ) * u| < u := by
    calc |((k - r : Int) : ℚ) * u| = |(k * u - x) - (r * u - x)| := by push_cast; ring_nf
      _ ≤ |k * u - x| + |r * u - x| := abs_sub _ _
      _ < u := by linarith
  rw [abs_mul, abs_of_pos hu, mul_lt_iff_lt_one_left hu] at hnear
  have hzero : k - r = 0 := Int.abs_lt_one_iff.mp (by exact_mod_cast hnear)
  obtain rfl : k = r := by omega
  exact hlt le_rfl

theorem exists_multiple_of_le {p t : Int} (h : t ≤ p) (n : Int) :
    ∃ k : Int, (n * 2 ^ p : ℚ) = k * 2 ^ t := by
  obtain ⟨d, rfl⟩ := Int.le.dest h
  refine ⟨n * 2 ^ d, ?_⟩
  rw [zpow_add₀ two_ne_zero, zpow_natCast]
  push_cast
  ring

theorem RoundsTo.nearest {x v : ℚ} (h : RoundsTo x v) : Nearest x v := by
  -- A float below `2 ^ 52` units is farther from `x` than that number of units, and all others are
  -- on the grid.
  obtain ⟨r, t, rfl, hhalf, hfine⟩ := h
  rintro w ⟨n, p, bits, least, rfl⟩
  have hunit : (0 : ℚ) < 2 ^ t := by positivity
  have hgrid (k : Int) : |(r : ℚ) * 2 ^ t - x| ≤ |k * 2 ^ t - x| :=
    abs_sub_le_of_half_unit hunit (r := r) (by exact_mod_cast hhalf)
  by_cases hp : t ≤ p
  · obtain ⟨k, hk⟩ := exists_multiple_of_le hp n
    rw [hk]
    exact hgrid k
  · have hx := hfine.resolve_left (by omega)
    have hn : (n : ℚ) < 2 ^ 53 := by
      have : n < 2 ^ 53 := by omega
      exact_mod_cast this
    have hsmall : (n * 2 ^ p : ℚ) ≤ 2 ^ 52 * 2 ^ t := by
      calc (n * 2 ^ p : ℚ) ≤ 2 ^ 53 * 2 ^ p := by gcongr
        _ = 2 ^ 52 * 2 ^ (p + 1) := by rw [zpow_add_one₀ two_ne_zero]; ring
        _ ≤ 2 ^ 52 * 2 ^ t := by gcongr <;> [norm_num; omega]
    have hedge := hgrid (2 ^ 52)
    push_cast at hedge
    refine hedge.trans ?_
    rw [abs_of_nonpos (by linarith), abs_of_nonpos (by linarith)]
    linarith

theorem Nearest.neg {x v : ℚ} (h : Nearest x v) : Nearest (-x) (-v) := by
  intro w hw
  calc |-v - -x| = |v - x| := by rw [neg_sub_neg, abs_sub_comm]
    _ ≤ |-w - x| := h (-w) hw.neg
    _ = |w - -x| := by rw [← abs_neg]; ring_nf

theorem Nearest.eq_of_representable {x v : ℚ} (h : Nearest x v) (hx : Representable x) : v = x := by
  have hle := h x hx
  rw [sub_self, abs_zero] at hle
  exact sub_eq_zero.mp (abs_nonpos_iff.mp hle)

theorem Nearest.mono {x y v w : ℚ} (hx : Nearest x v) (hy : Nearest y w) (hv : Representable v)
    (hw : Representable w) (hxy : x < y) : v ≤ w := by
  -- Otherwise the middle between the two results would lie above both numbers or below both.
  by_contra hlt
  have hpos : 0 < v - w := by linarith
  have hvx := sq_le_sq.mpr (hx w hw)
  have hwy := sq_le_sq.mpr (hy v hv)
  have hbelow : v + w ≤ 2 * x := le_of_mul_le_mul_right (by linarith) hpos
  have habove : 2 * y ≤ v + w := le_of_mul_le_mul_right (by linarith) hpos
  linarith

/-! ## Rounding a mantissa -/

theorem cast_apply_natCast (s : Sign) (m : Nat) : ((s.apply m : Int) : ℚ) = s.apply 1 * m := by
  cases s <;> simp [Sign.apply]

/-- A mantissa with a sign and an exponent. Zero keeps only its sign. -/
def ofMantissa (s : Sign) (m : Nat) (q : Int) : UnpackedFloat :=
  if h : m = 0 then .zero s else .finite s m q (Nat.pos_of_ne_zero h)

theorem value?_ofMantissa (s : Sign) (m : Nat) (q : Int) :
    value? (ofMantissa s m q) = some (s.apply m * 2 ^ q : ℚ) := by
  unfold ofMantissa
  split
  · next h =>
    subst h
    cases s <;> simp [value?, Sign.apply]
  · rfl

theorem canonical_ofMantissa (s : Sign) {m : Nat} {q : Int} (bits : m < 2 ^ 53) (least : -1074 ≤ q)
    (greatest : q ≤ 971) (leading : 2 ^ 52 ≤ m ∨ q = -1074) : Canonical (ofMantissa s m q) := by
  unfold ofMantissa
  split
  · exact .zero s
  · exact .finite bits least greatest leading

theorem targetExponent_binary64 (e : Int) :
    Format.binary64.targetExponent e = max (e - 53) (-1074) := rfl

theorem targetExponent_eq (m : Nat) (e : Int) :
    Format.binary64.targetExponent (totalExponent m e) = max (m.log2 + e - 52) (-1074) := by
  rw [targetExponent_binary64, totalExponent]
  omega

theorem roundWithAccuracy_eq (s : Sign) (m : Nat) (e : Int) (acc : Accuracy) :
    roundWithAccuracy .binary64 s m e acc =
      let first := shiftToTargetExponent .binary64 m e acc
      let second := shiftToTargetExponent .binary64 first.1.roundedMantissa first.2 .exact
      ofMantissa s second.1.mantissa second.2 := rfl

theorem shiftToTargetExponent_eq {m : Nat} {e : Int} {acc : Accuracy} {x : ℚ}
    (hx : Extends (.ofMantissaAndAccuracy m acc) x) (h : 52 ≤ m.log2 ∨ e ≤ -1074) :
    let t := max (m.log2 + e - 52) (-1074)
    ∃ em, shiftToTargetExponent .binary64 m e acc = (em, t) ∧ Extends em (x * 2 ^ e / 2 ^ t) := by
  intro t
  obtain ⟨k, hk⟩ := Int.le.dest (show e ≤ t by omega)
  refine ⟨ExtendedMantissa.ofMantissaAndAccuracy m acc >>> k, ?_, ?_⟩
  · have hshift : (t - e).toNat = k := by omega
    simp only [shiftToTargetExponent, shiftToExponent, targetExponent_eq]
    rw [hshift, hk]
  · have hscale : x * 2 ^ e / 2 ^ t = x / 2 ^ k := by
      rw [← hk, zpow_add₀ two_ne_zero, zpow_natCast, mul_comm x,
        mul_div_mul_left _ _ (by positivity)]
    rw [hscale]
    exact hx.shiftRight k

theorem mantissa_ofMantissaAndAccuracy (m : Nat) (acc : Accuracy) :
    (ExtendedMantissa.ofMantissaAndAccuracy m acc).mantissa = m := by
  unfold ExtendedMantissa.ofMantissaAndAccuracy
  split <;> rfl

theorem scaled_lt_of_log2_le {m : Nat} {e t : Int} {acc : Accuracy} {x : ℚ}
    (hx : Extends (.ofMantissaAndAccuracy m acc) x) (h : m.log2 + e - 52 ≤ t) :
    x * 2 ^ e < 2 ^ 53 * 2 ^ t := by
  have hm : (m + 1 : ℚ) ≤ 2 ^ (m.log2 + 1) := by exact_mod_cast Nat.lt_log2_self (n := m)
  have hlt := hx.lt_mantissa_add_one
  rw [mantissa_ofMantissaAndAccuracy] at hlt
  calc x * 2 ^ e < 2 ^ (m.log2 + 1) * 2 ^ e := by gcongr; linarith
    _ = 2 ^ ((m.log2 + 1 : Nat) + e) := by rw [zpow_add₀ two_ne_zero, zpow_natCast]
    _ ≤ 2 ^ (53 + t) := zpow_le_zpow_right₀ (by norm_num) (by omega)
    _ = 2 ^ 53 * 2 ^ t := by rw [zpow_add₀ two_ne_zero]; rfl

theorem le_scaled_of_le_log2 {m : Nat} {e t : Int} {acc : Accuracy} {x : ℚ}
    (hx : Extends (.ofMantissaAndAccuracy m acc) x) (hm : m ≠ 0) (h : t ≤ m.log2 + e - 52) :
    2 ^ 52 * 2 ^ t ≤ x * 2 ^ e := by
  have hlog : (2 ^ m.log2 : ℚ) ≤ m := by exact_mod_cast Nat.log2_self_le hm
  have hle := hx.mantissa_le
  rw [mantissa_ofMantissaAndAccuracy] at hle
  calc (2 ^ 52 * 2 ^ t : ℚ) = 2 ^ (52 + t) := by rw [zpow_add₀ two_ne_zero]; rfl
    _ ≤ 2 ^ (m.log2 + e) := zpow_le_zpow_right₀ (by norm_num) (by omega)
    _ = 2 ^ m.log2 * 2 ^ e := by rw [zpow_add₀ two_ne_zero, zpow_natCast]
    _ ≤ x * 2 ^ e := by gcongr; linarith

theorem shiftToTargetExponent_of_rounded {r : Nat} {t : Int} (hr : r ≤ 2 ^ 53) (ht : -1074 ≤ t) :
    shiftToTargetExponent .binary64 r t .exact =
      if r = 2 ^ 53 then (⟨2 ^ 52, false, false⟩, t + 1) else (⟨r, false, false⟩, t) := by
  -- The second shift moves only a mantissa that rounding has carried to `2 ^ 53`.
  simp only [shiftToTargetExponent, shiftToExponent, targetExponent_eq]
  split
  · next hcarry =>
    subst hcarry
    rw [Nat.log2_two_pow]
    have hshift : (max (((53 : Nat) : Int) + t - 52) (-1074) - t).toNat = 1 := by omega
    rw [hshift]
    rfl
  · next hcarry =>
    have hlog : r.log2 ≤ 52 := by
      by_cases hzero : r = 0
      · simp [hzero]
      · have := (Nat.log2_lt hzero).mpr (show r < 2 ^ 53 by omega)
        omega
    have hshift : (max ((r.log2 : Int) + t - 52) (-1074) - t).toNat = 0 := by omega
    rw [hshift, Nat.cast_zero, add_zero]
    rfl

theorem Extends.roundedMantissa_le {em : ExtendedMantissa} {y : ℚ} (h : Extends em y) {n : Nat}
    (hy : y < n) : em.roundedMantissa ≤ n := by
  have hround := abs_le.mp h.abs_roundedMantissa_sub_le
  have hlt : (em.roundedMantissa : ℚ) < n + 1 := by linarith
  exact Nat.lt_succ_iff.mp (by exact_mod_cast hlt)

theorem Extends.le_roundedMantissa {em : ExtendedMantissa} {y : ℚ} (h : Extends em y) {n : Nat}
    (hy : n ≤ y) : n ≤ em.roundedMantissa := by
  have hround := abs_le.mp h.abs_roundedMantissa_sub_le
  have hlt : (n : ℚ) < em.roundedMantissa + 1 := by linarith
  exact Nat.lt_succ_iff.mp (by exact_mod_cast hlt)

theorem Extends.roundsTo {em : ExtendedMantissa} {y : ℚ} (h : Extends em y) {t : Int}
    (hfine : t = -1074 ∨ 2 ^ 52 ≤ y) : RoundsTo (y * 2 ^ t) (em.roundedMantissa * 2 ^ t) := by
  have hunit : (0 : ℚ) < 2 ^ t := by positivity
  refine ⟨em.roundedMantissa, t, rfl, ?_, hfine.imp_right fun hle => by gcongr⟩
  rw [← sub_mul, abs_mul, abs_of_pos hunit, div_eq_inv_mul, ← one_div]
  gcongr
  exact h.abs_roundedMantissa_sub_le

/-- Rounding a mantissa whose exponent is small enough gives a float that rounds the number. -/
theorem roundWithAccuracy_spec {s : Sign} {m : Nat} {e : Int} {acc : Accuracy} {x : ℚ}
    (hx : Extends (.ofMantissaAndAccuracy m acc) x) (h : 52 ≤ m.log2 ∨ e ≤ -1074)
    (hsmall : m.log2 + e ≤ 1022) :
    Canonical (roundWithAccuracy .binary64 s m e acc) ∧
      ∃ v, value? (roundWithAccuracy .binary64 s m e acc) = some (s.apply 1 * v : ℚ) ∧
        RoundsTo (x * 2 ^ e) v := by
  obtain ⟨em, hfirst, hem⟩ := shiftToTargetExponent_eq hx h
  generalize ht : max (m.log2 + e - 52) (-1074) = t at hfirst hem
  have hunit : (0 : ℚ) < 2 ^ t := by positivity
  have hupper : x * 2 ^ e / 2 ^ t < (2 ^ 53 : Nat) := by
    rw [div_lt_iff₀ hunit]
    exact_mod_cast scaled_lt_of_log2_le hx (by omega)
  have hlower : t = -1074 ∨ (2 ^ 52 : Nat) ≤ x * 2 ^ e / 2 ^ t := by
    by_cases hleast : t = -1074
    · exact .inl hleast
    · have hm : m ≠ 0 := by
        rintro rfl
        simp at ht h
        omega
      rw [le_div_iff₀ hunit]
      exact .inr (by exact_mod_cast le_scaled_of_le_log2 hx hm (by omega))
  have hr := hem.roundedMantissa_le hupper
  have hleading := hlower.symm.imp_left hem.le_roundedMantissa
  have hrounds := hem.roundsTo (t := t) (hlower.imp_right fun hle => by exact_mod_cast hle)
  rw [div_mul_cancel₀ _ hunit.ne'] at hrounds
  rw [roundWithAccuracy_eq]
  simp only [hfirst]
  rw [shiftToTargetExponent_of_rounded hr (by omega)]
  generalize em.roundedMantissa = r at *
  split
  · next hcarry =>
    refine ⟨canonical_ofMantissa s (by norm_num) (by omega) (by omega) (.inl le_rfl), _, ?_, hrounds⟩
    rw [value?_ofMantissa, hcarry, cast_apply_natCast, zpow_add_one₀ two_ne_zero]
    push_cast
    ring_nf
  · next hcarry =>
    refine ⟨canonical_ofMantissa s (m := r) (q := t) (by omega) (by omega) (by omega) hleading, _, ?_,
      hrounds⟩
    rw [value?_ofMantissa, cast_apply_natCast, mul_assoc]

end Calculator
