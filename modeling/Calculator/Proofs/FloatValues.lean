import Calculator.Number
import Mathlib

/-!
# The exact values of floats

A finite float is a mantissa of 53 bits times a power of two. Floats are stored in a canonical form,
which packing and unpacking preserve and in which a larger exponent always means a larger number.
So floats are ordered as the numbers that they stand for, between the two infinities.
-/

namespace Calculator

open Float.Model (Format UnpackedFloat)
open Float.Model.UnpackedFloat (Sign packComponents unpackExponent unpackMantissa unpackSign)

/-! ## Canonical form -/

/-- The leading bit of the mantissa is set, unless the exponent is the least one. -/
inductive Canonical : UnpackedFloat → Prop where
  | notANumber : Canonical .notANumber
  | infinity (s : Sign) : Canonical (.infinity s)
  | zero (s : Sign) : Canonical (.zero s)
  | finite {s : Sign} {m : Nat} {q : Int} {pos : 0 < m} (bits : m < 2 ^ 53) (least : -1074 ≤ q)
      (greatest : q ≤ 971) (leading : 2 ^ 52 ≤ m ∨ q = -1074) : Canonical (.finite s m q pos)

theorem toNat_leadingBit_append (m : BitVec 52) : (1#1 ++ m).toNat = 2 ^ 52 + m.toNat := by
  rw [BitVec.toNat_append, ← Nat.shiftLeft_add_eq_or_of_lt m.isLt]
  rfl

theorem canonical_unpack (x : Float.Model) : Canonical x.unpack := by
  have hmantissa : (@unpackMantissa .binary64 x.toBits.toBitVec).toNat < 2 ^ 52 :=
    BitVec.isLt _
  have hexponent : (@unpackExponent .binary64 x.toBits.toBitVec).toNat < 2 ^ 11 :=
    BitVec.isLt _
  have hbias : Format.binary64.exponentBias = 1023 := rfl
  unfold Float.Model.unpack UnpackedFloat.unpack
  dsimp only
  split
  · split
    · exact .infinity _
    · exact .notANumber
  · next hlast =>
    split
    · next hfirst =>
      split
      · exact .zero _
      · rw [hfirst]
        exact .finite (by omega) (by simp [hbias]) (by simp [hbias]) (.inr (by simp [hbias]))
    · next hfirst =>
      have hlast' := mt BitVec.eq_of_toNat_eq hlast
      have hfirst' := mt BitVec.eq_of_toNat_eq hfirst
      simp only [BitVec.reduceNeg, BitVec.reduceToNat] at hlast' hfirst'
      have happend := toNat_leadingBit_append
        (@unpackMantissa .binary64 x.toBits.toBitVec)
      refine .finite ?_ ?_ ?_ (.inl ?_) <;> omega

/-! ## Packing -/

@[simp] theorem unpackSign_packComponents {spec : Format} {s : Sign}
    {e : BitVec spec.exponentBits} {m : BitVec spec.mantissaBitsWithoutImplicit} :
    unpackSign (packComponents spec s e m) = s.toBitVec := by
  refine BitVec.eq_of_getLsbD_eq fun i hi => ?_
  obtain rfl : i = 0 := by omega
  simp [unpackSign, packComponents, BitVec.getLsbD_append, BitVec.getElem_append]

@[simp] theorem ofBitVec_toBitVec (s : Sign) : Sign.ofBitVec s.toBitVec = s := by
  cases s <;> rfl

theorem unpack_packComponents_least (s : Sign) {m : Nat} (pos : 0 < m) (h : m < 2 ^ 52) :
    UnpackedFloat.unpack .binary64 (packComponents .binary64 s 0#11 (BitVec.ofNat 52 m)) =
      .finite s m (-1074) pos := by
  have hm : (BitVec.ofNat 52 m).toNat = m := Nat.mod_eq_of_lt h
  have hne : BitVec.ofNat 52 m ≠ 0#52 := fun heq => by
    rw [heq] at hm
    exact pos.ne hm
  simp only [UnpackedFloat.unpack, UnpackedFloat.unpackMantissa_packComponents,
    UnpackedFloat.unpackExponent_packComponents, unpackSign_packComponents, ofBitVec_toBitVec, hm]
  rw [if_neg (by decide), if_pos trivial, dif_neg hne]
  rfl

theorem unpack_packComponents_leading (s : Sign) {m e : Nat} (pos : 0 < m)
    (lower : 2 ^ 52 ≤ m) (upper : m < 2 ^ 53) (first : e ≠ 0) (last : e < 2047) :
    UnpackedFloat.unpack .binary64
        (packComponents .binary64 s (BitVec.ofNat 11 e) (BitVec.ofNat 52 m)) =
      .finite s m (e - 1075) pos := by
  have he : (BitVec.ofNat 11 e).toNat = e := Nat.mod_eq_of_lt (by omega)
  have hlast : BitVec.ofNat 11 e ≠ -1#11 := fun heq => by
    rw [heq] at he
    exact last.ne' he
  have hfirst : BitVec.ofNat 11 e ≠ 0#11 := fun heq => by
    rw [heq] at he
    exact first he.symm
  have hm : (1#1 ++ BitVec.ofNat 52 m).toNat = m := by
    rw [toNat_leadingBit_append, BitVec.toNat_ofNat]
    omega
  simp only [UnpackedFloat.unpack, UnpackedFloat.unpackMantissa_packComponents,
    UnpackedFloat.unpackExponent_packComponents, unpackSign_packComponents, ofBitVec_toBitVec, he,
    hm]
  rw [if_neg hlast, if_neg hfirst]
  rfl

theorem unpack_pack {u : UnpackedFloat} (h : Canonical u) : (Float.Model.pack u).unpack = u := by
  cases h with
  | notANumber => rfl
  | infinity s => cases s <;> rfl
  | zero s => cases s <;> rfl
  | @finite s m q pos bits least greatest leading =>
    have hbias : q + Format.binary64.exponentBias + Format.binary64.mantissaBitsWithoutImplicit =
        q + 1075 := add_assoc q 1023 52
    have hbits : Format.binary64.mantissaBits = 53 := rfl
    change UnpackedFloat.unpack .binary64 (UnpackedFloat.pack .binary64 (.finite s m q pos)) = _
    simp only [UnpackedFloat.pack, hbias, hbits]
    rw [if_neg (by omega)]
    by_cases hleading : 2 ^ 52 ≤ m
    · have hlog : m.log2 = 52 := (Nat.log2_eq_iff pos.ne').mpr ⟨hleading, bits⟩
      rw [if_pos (by omega)]
      refine (unpack_packComponents_leading s pos hleading bits (by omega) (by omega)).trans ?_
      congr 1
      omega
    · have hlog : m.log2 < 52 := (Nat.log2_lt pos.ne').mpr (by omega)
      rw [if_neg (by omega), leading.resolve_left hleading]
      exact unpack_packComponents_least s pos (by omega)

/-! ## Values -/

/-- The number that an unpacked float stands for, if it is finite. -/
def value? : UnpackedFloat → Option ℚ
  | .zero _ => some 0
  | .finite s m q _ => some (s.apply m * 2 ^ q)
  | _ => none

/-- The number that a float stands for, if it is finite. -/
def exactValue? (x : Float) : Option ℚ := value? x.toModel.unpack

theorem exactValue?_pack {u : UnpackedFloat} (h : Canonical u) :
    exactValue? (.ofModel (.pack u)) = value? u :=
  congrArg value? (unpack_pack h)

/-- The numbers with a mantissa of 53 bits and an exponent that is not too small. -/
def Representable (v : ℚ) : Prop :=
  ∃ n q : Int, n.natAbs < 2 ^ 53 ∧ -1074 ≤ q ∧ v = n * 2 ^ q

theorem natAbs_apply (s : Sign) (m : Nat) : (s.apply m).natAbs = m := by
  cases s <;> simp [Sign.apply]

theorem apply_mul (s : Sign) (i j : Int) : s.apply (i * j) = s.apply i * j := by
  cases s <;> simp [Sign.apply]

theorem Canonical.representable {u : UnpackedFloat} (hu : Canonical u) {v : ℚ}
    (h : value? u = some v) : Representable v := by
  cases hu with
  | notANumber | infinity => cases h
  | zero =>
    obtain rfl := Option.some.inj h
    exact ⟨0, 0, by decide, by decide, by simp⟩
  | @finite s m q _ bits least =>
    obtain rfl := Option.some.inj h
    exact ⟨s.apply m, q, by rwa [natAbs_apply], least, rfl⟩

theorem representable_of_exactValue? {x : Float} {v : ℚ} (h : exactValue? x = some v) :
    Representable v :=
  (canonical_unpack x.toModel).representable h

theorem shiftRight_shiftLeft_eq_iff {m k : Nat} : m >>> k <<< k = m ↔ 2 ^ k ∣ m := by
  rw [Nat.shiftLeft_eq, Nat.shiftRight_eq_div_pow]
  exact ⟨Dvd.intro_left _, Nat.div_mul_cancel⟩

theorem shiftRight_eq_some_iff {s : Sign} {m k : Nat} {i : Int} :
    (if m >>> k <<< k = m then some (s.apply (m >>> k : Nat)) else none) = some i ↔
      s.apply m = i * 2 ^ k := by
  by_cases hshift : m >>> k <<< k = m
  · have hsplit : s.apply m = s.apply (m >>> k : Nat) * 2 ^ k := by
      rw [← apply_mul]
      congr 1
      rw [Nat.shiftLeft_eq] at hshift
      exact_mod_cast hshift.symm
    rw [if_pos hshift, Option.some.injEq, hsplit]
    exact (mul_left_inj' (by positivity)).symm
  · rw [if_neg hshift]
    refine iff_of_false (by simp) fun heq => hshift (shiftRight_shiftLeft_eq_iff.mpr ?_)
    rw [← natAbs_apply s m, heq, Int.natAbs_mul, Int.natAbs_pow]
    exact Nat.dvd_mul_left _ _

theorem wholeValue?_eq_some_iff {x : Float} {i : Int} :
    wholeValue? x = some i ↔ exactValue? x = some (i : ℚ) := by
  unfold wholeValue? exactValue?
  cases x.toModel.unpack with
  | notANumber | infinity => simp [value?]
  | zero =>
    simp only [value?, Option.some.injEq]
    norm_cast
  | finite s m q pos =>
    simp only [value?, Option.some.injEq]
    by_cases hq : 0 ≤ q
    · obtain ⟨k, rfl⟩ := Int.eq_ofNat_of_zero_le hq
      rw [if_pos hq, Option.some.injEq, Int.toNat_natCast, Nat.shiftLeft_eq, Nat.cast_mul,
        apply_mul]
      norm_cast
    · obtain ⟨k, rfl⟩ := Int.exists_eq_neg_ofNat (Int.le_of_lt (Int.not_le.mp hq))
      have hpow : (2 : ℚ) ^ k ≠ 0 := by positivity
      rw [if_neg hq, neg_neg, Int.toNat_natCast, shiftRight_eq_some_iff, zpow_neg, zpow_natCast,
        ← div_eq_mul_inv, div_eq_iff hpow]
      norm_cast

/-! ## Order -/

/-- A rational number or one of the two infinities. -/
abbrev Extended := WithBot (WithTop ℚ)

/-- Where a float lies among the numbers. One that is not a number lies nowhere. -/
def place? : UnpackedFloat → Option Extended
  | .notANumber => none
  | .infinity .negative => some ⊥
  | .infinity .positive => some ((⊤ : WithTop ℚ) : Extended)
  | .zero _ => some ((0 : ℚ) : WithTop ℚ)
  | .finite s m q _ => some ((s.apply m * 2 ^ q : ℚ) : WithTop ℚ)

theorem place?_eq_none_iff {u : UnpackedFloat} : place? u = none ↔ u.isNaN := by
  cases u with
  | infinity s => cases s <;> simp [place?, UnpackedFloat.isNaN]
  | notANumber | zero | finite => simp [place?, UnpackedFloat.isNaN]

theorem place?_eq_coe_iff {u : UnpackedFloat} {v : ℚ} :
    place? u = some ((v : WithTop ℚ) : Extended) ↔ value? u = some v := by
  cases u with
  | notANumber => simp [place?, value?]
  | infinity s => cases s <;> simp [place?, value?]
  | zero | finite => simp only [place?, value?, Option.some.injEq, WithBot.coe_inj, WithTop.coe_inj]

theorem compare_coe (a b : ℚ) :
    compare ((a : WithTop ℚ) : Extended) ((b : WithTop ℚ) : Extended) = compare a b := by
  rcases lt_trichotomy a b with h | h | h
  · rw [compare_lt_iff_lt.mpr h, compare_lt_iff_lt]
    exact_mod_cast h
  · rw [compare_eq_iff_eq.mpr h, compare_eq_iff_eq, h]
  · rw [compare_gt_iff_gt.mpr h, compare_gt_iff_gt]
    exact_mod_cast h

theorem compare_bot_coe (a : WithTop ℚ) : compare (⊥ : Extended) a = .lt :=
  compare_lt_iff_lt.mpr (WithBot.bot_lt_coe a)

theorem compare_coe_bot (a : WithTop ℚ) : compare (a : Extended) ⊥ = .gt :=
  compare_gt_iff_gt.mpr (WithBot.bot_lt_coe a)

theorem compare_top_coe (a : ℚ) :
    compare (⊤ : Extended) ((a : WithTop ℚ) : Extended) = .gt :=
  compare_gt_iff_gt.mpr (WithBot.coe_lt_coe.mpr (WithTop.coe_lt_top a))

theorem compare_coe_top (a : ℚ) :
    compare ((a : WithTop ℚ) : Extended) (⊤ : Extended) = .lt :=
  compare_lt_iff_lt.mpr (WithBot.coe_lt_coe.mpr (WithTop.coe_lt_top a))

theorem compare_swap_neg (a b : ℚ) : (compare a b).swap = compare (-a) (-b) := by
  rcases lt_trichotomy a b with h | h | h
  · rw [compare_lt_iff_lt.mpr h, eq_comm, Ordering.swap, compare_gt_iff_gt]
    exact neg_lt_neg h
  · rw [h, compare_eq_iff_eq.mpr rfl, compare_eq_iff_eq.mpr rfl]
    rfl
  · rw [compare_gt_iff_gt.mpr h, eq_comm, Ordering.swap, compare_lt_iff_lt]
    exact neg_lt_neg h

theorem scaled_lt_scaled {m n : Nat} {q p : Int} (hm : m < 2 ^ 53) (hn : 2 ^ 52 ≤ n) (h : q < p) :
    (m * 2 ^ q : ℚ) < n * 2 ^ p := by
  -- A larger exponent outweighs any mantissa, since the larger mantissa has its leading bit.
  have hm' : (m : ℚ) < 2 ^ 53 := by exact_mod_cast hm
  have hn' : (2 ^ 52 : ℚ) ≤ n := by exact_mod_cast hn
  calc (m * 2 ^ q : ℚ) < 2 ^ 53 * 2 ^ q := by gcongr
    _ = 2 ^ 52 * 2 ^ (q + 1) := by rw [zpow_add_one₀ two_ne_zero]; ring
    _ ≤ 2 ^ 52 * 2 ^ p := by gcongr <;> [norm_num; omega]
    _ ≤ n * 2 ^ p := by gcongr

theorem compare_magnitudes {m n : Nat} {q p : Int} (hm : m < 2 ^ 53) (hn : n < 2 ^ 53)
    (hq : -1074 ≤ q) (hp : -1074 ≤ p) (hmq : 2 ^ 52 ≤ m ∨ q = -1074)
    (hnp : 2 ^ 52 ≤ n ∨ p = -1074) :
    (compare q p).then (compare m n) = compare (m * 2 ^ q : ℚ) (n * 2 ^ p) := by
  rcases lt_trichotomy q p with h | rfl | h
  · rw [compare_lt_iff_lt.mpr h, Ordering.lt_then, eq_comm, compare_lt_iff_lt]
    exact scaled_lt_scaled hm (hnp.resolve_right (by omega)) h
  · have hpow : (0 : ℚ) < 2 ^ q := by positivity
    rw [compare_eq_iff_eq.mpr rfl, Ordering.eq_then]
    rcases lt_trichotomy m n with h | rfl | h
    · rw [compare_lt_iff_lt.mpr h, eq_comm, compare_lt_iff_lt]
      gcongr
    · rw [compare_eq_iff_eq.mpr rfl, compare_eq_iff_eq.mpr rfl]
    · rw [compare_gt_iff_gt.mpr h, eq_comm, compare_gt_iff_gt]
      gcongr
  · rw [compare_gt_iff_gt.mpr h, Ordering.gt_then, eq_comm, compare_gt_iff_gt]
    exact scaled_lt_scaled hn (hmq.resolve_right (by omega)) h

theorem compare_signed {s t : Sign} {m n : Nat} {q p : Int} (hm : 0 < m) (hn : 0 < n)
    (h : (compare q p).then (compare m n) = compare (m * 2 ^ q : ℚ) (n * 2 ^ p)) :
    UnpackedFloat.compare (.finite s m q hm) (.finite t n p hn) =
      some (compare (s.apply m * 2 ^ q : ℚ) (t.apply n * 2 ^ p)) := by
  have hmq : (0 : ℚ) < m * 2 ^ q := by positivity
  have hnp : (0 : ℚ) < n * 2 ^ p := by positivity
  cases s <;> cases t <;>
    simp only [UnpackedFloat.compare, Sign.apply, Int.cast_neg, Int.cast_natCast, neg_mul]
  · rw [h, compare_swap_neg]
  · rw [eq_comm, compare_lt_iff_lt.mpr]
    linarith
  · rw [eq_comm, compare_gt_iff_gt.mpr]
    linarith
  · rw [h]

theorem compare_eq_places {u v : UnpackedFloat} (hu : Canonical u) (hv : Canonical v) :
    u.compare v = (place? u).bind fun a => (place? v).map fun b => compare a b := by
  cases hu with
  | notANumber => cases hv <;> rfl
  | infinity s =>
    cases hv with
    | notANumber => cases s <;> rfl
    | infinity t => cases s <;> cases t <;> rfl
    | zero | finite =>
      cases s with
      | negative => exact congrArg some (compare_bot_coe _).symm
      | positive => exact congrArg some (compare_top_coe _).symm
  | @zero s =>
    cases hv with
    | notANumber => rfl
    | infinity t =>
      cases t with
      | negative => exact congrArg some (compare_coe_bot _).symm
      | positive => exact congrArg some (compare_coe_top _).symm
    | zero t => rfl
    | @finite t n p hn =>
      have hpos : (0 : ℚ) < n * 2 ^ p := by positivity
      refine Eq.trans ?_ (congrArg some (compare_coe _ _).symm)
      cases t with
      | negative =>
        exact congrArg some (compare_gt_iff_gt.mpr (by simpa [Sign.apply] using hpos)).symm
      | positive =>
        exact congrArg some (compare_lt_iff_lt.mpr (by simpa [Sign.apply] using hpos)).symm
  | @finite s m q hm mbits mleast _ mleading =>
    cases hv with
    | notANumber => cases s <;> rfl
    | infinity t =>
      cases s <;> cases t
      case negative.negative => exact congrArg some (compare_coe_bot _).symm
      case positive.negative => exact congrArg some (compare_coe_bot _).symm
      case negative.positive => exact congrArg some (compare_coe_top _).symm
      case positive.positive => exact congrArg some (compare_coe_top _).symm
    | @zero t =>
      have hpos : (0 : ℚ) < m * 2 ^ q := by positivity
      refine Eq.trans ?_ (congrArg some (compare_coe _ _).symm)
      cases s with
      | negative =>
        exact congrArg some (compare_lt_iff_lt.mpr (by simpa [Sign.apply] using hpos)).symm
      | positive =>
        exact congrArg some (compare_gt_iff_gt.mpr (by simpa [Sign.apply] using hpos)).symm
    | @finite t n p hn nbits nleast _ nleading =>
      rw [compare_signed hm hn (compare_magnitudes mbits nbits mleast nleast mleading nleading)]
      exact congrArg some (compare_coe _ _).symm

end Calculator
