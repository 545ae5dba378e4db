import Calculator.Evaluation
import Calculator.Proofs.NearestFloat

/-!
# The order of numbers

Comparisons order all numbers, integers and floats alike. Two integers compare exactly, and any
other pair by the floats that they become. The two ways agree except at a float that two different
integers are rounded to: it is equal to both of them.
-/

namespace Calculator

/-! ## Operators on linear orders -/

namespace CompareOp

variable {α : Type} [LinearOrder α] {a b : α}

theorem eq_holds_compare : CompareOp.eq.holds (some (compare a b)) ↔ a = b := by
  rw [← compare_eq_iff_eq (a := a) (b := b)]
  cases compare a b <;> decide

theorem le_holds_compare : CompareOp.le.holds (some (compare a b)) ↔ a ≤ b := by
  rw [← compare_le_iff_le (a := a) (b := b)]
  cases compare a b <;> decide

end CompareOp

/-! ## Numbers as floats -/

namespace Number

def isNaN : Number → Bool
  | .integer _ => false
  | .float x => x.isNaN

/-- Where the float lies that a number is compared as. -/
def place? (a : Number) : Option Extended := Calculator.place? a.toFloat.toModel.unpack

theorem place?_eq_coe_iff {a : Number} {v : ℚ} :
    a.place? = some ((v : WithTop ℚ) : Extended) ↔ exactValue? a.toFloat = some v :=
  Calculator.place?_eq_coe_iff

theorem exists_place? {a : Number} (h : a.isNaN = false) : ∃ p, a.place? = some p := by
  cases a with
  | integer n =>
    obtain ⟨v, hv, -⟩ := nearestFloat_toInt n
    exact ⟨_, place?_eq_coe_iff.mpr hv⟩
  | float x =>
    refine Option.ne_none_iff_exists'.mp fun hnone => ?_
    exact Bool.noConfusion ((place?_eq_none_iff.mp hnone).symm.trans h)

theorem place?_mono {m n : Int64} (h : m.toInt ≤ n.toInt) {p q : Extended}
    (hp : (Number.integer m).place? = some p) (hq : (Number.integer n).place? = some q) : p ≤ q := by
  obtain ⟨v, hv, -⟩ := nearestFloat_toInt m
  obtain ⟨w, hw, -⟩ := nearestFloat_toInt n
  obtain rfl := Option.some.inj (hp.symm.trans (place?_eq_coe_iff.mpr hv))
  obtain rfl := Option.some.inj (hq.symm.trans (place?_eq_coe_iff.mpr hw))
  exact_mod_cast nearestFloat_mono h hv hw

/-- Both are integers, which are compared as such. -/
def Exact (a b : Number) : Prop := ∃ m n, a = .integer m ∧ b = .integer n

theorem Exact.symm {a b : Number} : Exact a b → Exact b a := by
  rintro ⟨m, n, rfl, rfl⟩
  exact ⟨n, m, rfl, rfl⟩

theorem compare?_of_not_exact {a b : Number} (h : ¬ Exact a b) {p q : Extended}
    (hp : a.place? = some p) (hq : b.place? = some q) : compare? a b = some (compare p q) := by
  have hfloats : compare? a b = Float.Model.compare a.toFloat.toModel b.toFloat.toModel := by
    cases a with
    | float x => cases b <;> rfl
    | integer m =>
      cases b with
      | float y => rfl
      | integer n => exact absurd ⟨m, n, rfl, rfl⟩ h
  rw [place?] at hp hq
  rw [hfloats, Float.Model.compare, compare_eq_places (canonical_unpack _) (canonical_unpack _), hp,
    hq]
  rfl

end Number

/-! ## Comparisons of literals -/

/-- The comparison of two literals comes to `true`. -/
def Holds (st : Store) (op : CompareOp) (a b : Number) : Prop :=
  ((Expr.compare op (.number a) (.number b)).evaluate st).result = .ok (.bool true)

instance (st : Store) (op : CompareOp) (a b : Number) : Decidable (Holds st op a b) :=
  inferInstanceAs (Decidable (_ = _))

section

variable {st : Store} {op : CompareOp} {a b c : Number} {p q r : Extended}

theorem holds_iff : Holds st op a b ↔ op.holds (Number.compare? a b) := by
  simp [Holds, Expr.evaluate, Evaluation.of, Evaluation.andThen, Value.compare, Except.map]

theorem holds_integers {m n : Int64} :
    Holds st op (.integer m) (.integer n) ↔ op.holds (some (compare m.toInt n.toInt)) :=
  holds_iff

theorem holds_floats (h : ¬ Number.Exact a b) (hp : a.place? = some p) (hq : b.place? = some q) :
    Holds st op a b ↔ op.holds (some (compare p q)) := by
  rw [holds_iff, Number.compare?_of_not_exact h hp hq]

theorem holds_le_iff (hp : a.place? = some p) (hq : b.place? = some q) :
    Holds st .le a b ↔
      p ≤ q ∧ ∀ m n, a = .integer m → b = .integer n → m.toInt ≤ n.toInt := by
  by_cases h : Number.Exact a b
  · obtain ⟨m, n, rfl, rfl⟩ := h
    rw [holds_integers, CompareOp.le_holds_compare]
    constructor
    · intro hle
      refine ⟨Number.place?_mono hle hp hq, ?_⟩
      rintro _ _ ⟨⟩ ⟨⟩
      exact hle
    · rintro ⟨-, hle⟩
      exact hle m n rfl rfl
  · rw [holds_floats h hp hq, CompareOp.le_holds_compare]
    exact ⟨fun hle => ⟨hle, fun m n hm hn => absurd ⟨m, n, hm, hn⟩ h⟩, And.left⟩

theorem holds_le_total (hp : a.place? = some p) (hq : b.place? = some q) :
    Holds st .le a b ∨ Holds st .le b a := by
  by_cases h : Number.Exact a b
  · obtain ⟨m, n, rfl, rfl⟩ := h
    simp only [holds_integers, CompareOp.le_holds_compare]
    exact le_total _ _
  · simp only [holds_floats h hp hq, holds_floats (mt Number.Exact.symm h) hq hp,
      CompareOp.le_holds_compare]
    exact le_total _ _

theorem holds_eq_iff_le (hp : a.place? = some p) (hq : b.place? = some q) :
    Holds st .eq a b ↔ Holds st .le a b ∧ Holds st .le b a := by
  by_cases h : Number.Exact a b
  · obtain ⟨m, n, rfl, rfl⟩ := h
    simp only [holds_integers, CompareOp.le_holds_compare, CompareOp.eq_holds_compare]
    exact le_antisymm_iff
  · simp only [holds_floats h hp hq, holds_floats (mt Number.Exact.symm h) hq hp,
      CompareOp.le_holds_compare, CompareOp.eq_holds_compare]
    exact le_antisymm_iff

/-- Two different integers that become the same float, and a float equal to that one. -/
inductive Collide : Number → Number → Number → Prop where
  | at {m n : Int64} {x : Float} (different : m ≠ n)
      (left : exactValue? (nearestFloat m.toInt) = exactValue? x)
      (right : exactValue? (nearestFloat n.toInt) = exactValue? x) :
      Collide (.integer m) (.float x) (.integer n)

theorem Collide.symm (h : Collide a b c) : Collide c b a := by
  obtain ⟨different, left, right⟩ := h
  exact .at different.symm right left

theorem collide_of_lt {m n : Int64} {x : Float} (hp : (Number.integer m).place? = some p)
    (hq : (Number.float x).place? = some q) (hr : (Number.integer n).place? = some r)
    (hpq : p ≤ q) (hqr : q ≤ r) (h : n.toInt < m.toInt) :
    Collide (.integer m) (.float x) (.integer n) := by
  have hrp := Number.place?_mono h.le hr hp
  obtain rfl : p = q := le_antisymm hpq (hqr.trans hrp)
  obtain rfl : p = r := le_antisymm (hpq.trans hqr) hrp
  obtain ⟨v, hv, -⟩ := nearestFloat_toInt m
  obtain rfl := Option.some.inj (hp.symm.trans (Number.place?_eq_coe_iff.mpr hv))
  have hx := (Number.place?_eq_coe_iff (a := .float x)).mp hq
  have hn := (Number.place?_eq_coe_iff (a := .integer n)).mp hr
  refine .at ?_ (hv.trans hx.symm) (hn.trans hx.symm)
  rintro rfl
  exact h.false

theorem holds_eq_of_exactValue? {m : Int64} {x : Float}
    (h : exactValue? (nearestFloat m.toInt) = exactValue? x) :
    Holds st .eq (.integer m) (.float x) ∧ Holds st .eq (.float x) (.integer m) := by
  obtain ⟨v, hv, -⟩ := nearestFloat_toInt m
  have hp := (Number.place?_eq_coe_iff (a := .integer m)).mpr hv
  have hq := (Number.place?_eq_coe_iff (a := .float x)).mpr (h.symm.trans hv)
  have hexact : ¬ Number.Exact (.integer m) (.float x) := by
    rintro ⟨_, _, -, ⟨⟩⟩
  rw [holds_floats hexact hp hq, holds_floats (mt Number.Exact.symm hexact) hq hp]
  simp only [CompareOp.eq_holds_compare, and_self]

theorem Collide.holds_eq (h : Collide a b c) :
    Holds st .eq a b ∧ Holds st .eq b c ∧ ¬ Holds st .eq a c := by
  obtain ⟨different, left, right⟩ := h
  refine ⟨(holds_eq_of_exactValue? left).1, (holds_eq_of_exactValue? right).2, ?_⟩
  rw [holds_integers, CompareOp.eq_holds_compare, Int64.toInt_inj]
  exact different

theorem not_collide_of_small
    (h : ∀ n, a = .integer n ∨ c = .integer n → n.toInt.natAbs ≤ 2 ^ 53) : ¬ Collide a b c := by
  rintro ⟨different, left, right⟩
  rw [exactValue?_nearestFloat (h _ (.inl rfl))] at left
  rw [exactValue?_nearestFloat (h _ (.inr rfl)), ← left, Option.some.injEq] at right
  exact different (Int64.toInt_inj.mp (by exact_mod_cast right.symm))

theorem holds_le_trans (hp : a.place? = some p) (hq : b.place? = some q) (hr : c.place? = some r)
    (hab : Holds st .le a b) (hbc : Holds st .le b c) : Holds st .le a c ∨ Collide a b c := by
  rw [holds_le_iff hp hq] at hab
  rw [holds_le_iff hq hr] at hbc
  rw [holds_le_iff hp hr]
  by_cases hac : ∀ m n, a = .integer m → c = .integer n → m.toInt ≤ n.toInt
  · exact .inl ⟨hab.1.trans hbc.1, hac⟩
  · push Not at hac
    obtain ⟨m, n, rfl, rfl, hlt⟩ := hac
    cases b with
    | integer k => exact absurd ((hab.2 m k rfl rfl).trans (hbc.2 k n rfl rfl)) (not_le.mpr hlt)
    | float x => exact .inr (collide_of_lt hp hq hr hab.1 hbc.1 hlt)

theorem holds_eq_trans (hp : a.place? = some p) (hq : b.place? = some q) (hr : c.place? = some r)
    (hab : Holds st .eq a b) (hbc : Holds st .eq b c) : Holds st .eq a c ∨ Collide a b c := by
  rw [holds_eq_iff_le hp hq] at hab
  rw [holds_eq_iff_le hq hr] at hbc
  rw [holds_eq_iff_le hp hr]
  rcases holds_le_trans hp hq hr hab.1 hbc.1 with hac | hcollide
  · rcases holds_le_trans hr hq hp hbc.2 hab.2 with hca | hcollide
    · exact .inl ⟨hac, hca⟩
    · exact .inr hcollide.symm
  · exact .inr hcollide

end

/-- Comparisons of numbers are total, and two numbers are equal exactly if each is at most the
other. Order and equality carry over from number to number except across a float that two
different integers are rounded to, and integers of 53 bits are never rounded. -/
theorem numbers_ordered (st : Store) {a b c : Number} (ha : a.isNaN = false) (hb : b.isNaN = false)
    (hc : c.isNaN = false) :
    (Holds st .le a b ∨ Holds st .le b a) ∧
    (Holds st .eq a b ↔ Holds st .le a b ∧ Holds st .le b a) ∧
    (Holds st .le a b → Holds st .le b c → Holds st .le a c ∨ Collide a b c) ∧
    (Holds st .eq a b → Holds st .eq b c → Holds st .eq a c ∨ Collide a b c) ∧
    (Collide a b c → Holds st .eq a b ∧ Holds st .eq b c ∧ ¬ Holds st .eq a c) ∧
    ((∀ n, a = .integer n ∨ c = .integer n → n.toInt.natAbs ≤ 2 ^ 53) → ¬ Collide a b c) := by
  obtain ⟨p, hp⟩ := Number.exists_place? ha
  obtain ⟨q, hq⟩ := Number.exists_place? hb
  obtain ⟨r, hr⟩ := Number.exists_place? hc
  exact ⟨holds_le_total hp hq, holds_eq_iff_le hp hq, holds_le_trans hp hq hr,
    holds_eq_trans hp hq hr, Collide.holds_eq, not_collide_of_small⟩

/-- A float between two integers keeps them in order. -/
theorem numbers_ordered_around_float :
    Number.isNaN (.float 1.5) = false ∧ Holds .empty .le (.integer 1) (.float 1.5) ∧
      Holds .empty .le (.float 1.5) (.integer 2) ∧ Holds .empty .le (.integer 1) (.integer 2) := by
  have hfloat : Number.isNaN (.float 1.5) = false := by decide +kernel
  have hleft : Holds .empty .le (.integer 1) (.float 1.5) := by decide +kernel
  have hright : Holds .empty .le (.float 1.5) (.integer 2) := by decide +kernel
  obtain ⟨-, -, htrans, -, -, hsmall⟩ :=
    numbers_ordered .empty (a := .integer 1) (c := .integer 2) rfl hfloat rfl
  refine ⟨hfloat, hleft, hright, (htrans hleft hright).resolve_right (hsmall ?_)⟩
  rintro n (⟨⟨⟩⟩ | ⟨⟨⟩⟩) <;> decide

/-- The integer above `2 ^ 53` is rounded to it, so it equals that float but not that integer. -/
theorem comparison_not_transitive :
    Holds .empty .le (.integer 9007199254740993) (.float 9007199254740992) ∧
      Holds .empty .le (.float 9007199254740992) (.integer 9007199254740992) ∧
      ¬ Holds .empty .le (.integer 9007199254740993) (.integer 9007199254740992) ∧
      Holds .empty .eq (.integer 9007199254740993) (.float 9007199254740992) ∧
      Holds .empty .eq (.float 9007199254740992) (.integer 9007199254740992) ∧
      ¬ Holds .empty .eq (.integer 9007199254740993) (.integer 9007199254740992) := by
  decide +kernel

end Calculator
