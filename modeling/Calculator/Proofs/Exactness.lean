import Calculator.Proofs.Arithmetic
import Mathlib.Algebra.Order.Field.Rat
import Mathlib.Data.Rat.Cast.Order
import Mathlib.Tactic.FieldSimp

/-!
# Integer answers are exact

An arithmetic tree comes to an integer exactly if all its leaves are integers and the exact value
of every subtree, a rational number, is an integer of 64 bits. What an integer cannot hold becomes
a float, and no operation leads from a float back to an integer.
-/

namespace Calculator

/-! ## One operation -/

namespace ArithOp

/-- The exact result on rational numbers. Only a divisor that is zero leaves none. -/
def rational? : ArithOp → ℚ → ℚ → Option ℚ
  | .add, p, q => some (p + q)
  | .sub, p, q => some (p - q)
  | .mul, p, q => some (p * q)
  | .div, p, q => if q = 0 then none else some (p / q)

/-- The operation on words, which wraps around. -/
def word : ArithOp → Int64 → Int64 → Int64
  | .add, m, n => m + n
  | .sub, m, n => m - n
  | .mul, m, n => m * n
  | .div, m, n => m / n

theorem tdiv_eq_iff_rational {i j k : Int} (hj : j ≠ 0) :
    i.tmod j = 0 ∧ i.tdiv j = k ↔ (i : ℚ) / j = k := by
  have hq : (j : ℚ) ≠ 0 := Int.cast_ne_zero.mpr hj
  rw [div_eq_iff hq]
  constructor
  · rintro ⟨hmod, rfl⟩
    have h := Int.tdiv_mul_cancel_of_tmod_eq_zero hmod
    exact_mod_cast h.symm
  · intro h
    have h' : i = k * j := by exact_mod_cast h
    rw [h']
    exact ⟨Int.mul_tmod_left k j, Int.mul_tdiv_cancel k hj⟩

theorem exactly?_eq_some_iff {op : ArithOp} {i j k : Int} :
    op.exactly? i j = some k ↔ op.rational? i j = some (k : ℚ) := by
  cases op with
  | add | sub | mul =>
    simp only [exactly?, rational?, Option.some.injEq]
    norm_cast
  | div =>
    by_cases hj : j = 0
    · simp [exactly?, rational?, hj]
    · have hq : (j : ℚ) ≠ 0 := Int.cast_ne_zero.mpr hj
      simp only [exactly?, rational?, if_neg hq, Option.some.injEq, ← tdiv_eq_iff_rational hj]
      simp [hj]

theorem int64?_eq_some_iff {op : ArithOp} {m k n : Int64} :
    op.int64? m k = some n ↔ op.rational? m.toInt k.toInt = some (n.toInt : ℚ) := by
  rw [← exactly?_eq_some_iff, int64?, Option.bind_eq_some_iff]
  constructor
  · rintro ⟨i, hi, hn⟩
    rw [hi, Calculator.int64?_eq_some_iff.mp hn]
  · intro h
    exact ⟨n.toInt, h, int64?_toInt n⟩

theorem word_eq_of_exactly {op : ArithOp} {m k n : Int64}
    (h : op.exactly? m.toInt k.toInt = some n.toInt) : op.word m k = n := by
  have hbmod : n.toInt.bmod (2 ^ 64) = n.toInt := n.toInt_bmod
  rw [← Int64.toInt_inj]
  cases op with
  | add => rw [word, Int64.toInt_add, Option.some.inj h, hbmod]
  | sub => rw [word, Int64.toInt_sub, Option.some.inj h, hbmod]
  | mul => rw [word, Int64.toInt_mul, Option.some.inj h, hbmod]
  | div =>
    simp only [exactly?, Option.ite_none_right_eq_some, Option.some.injEq] at h
    rw [word, Int64.toInt_div, h.2, hbmod]

end ArithOp

namespace Number

theorem apply_eq_integer_iff {op : ArithOp} {m k n : Int64} :
    apply op (.integer m) (.integer k) = .integer n ↔
      op.rational? m.toInt k.toInt = some (n.toInt : ℚ) := by
  rw [← ArithOp.int64?_eq_some_iff]
  cases h : op.int64? m k <;> simp [apply, h]

theorem negate_eq_integer_iff {m n : Int64} :
    negate (.integer m) = .integer n ↔ n.toInt = -m.toInt := by
  rw [← int64?_eq_some_iff]
  cases h : int64? (-m.toInt) <;> simp [negate, h]

end Number

namespace Value

theorem arith_eq_integer_iff {op : ArithOp} {a b : Value} {n : Int64} :
    arith op a b = .ok (.number (.integer n)) ↔
      ∃ m k, a = .number (.integer m) ∧ b = .number (.integer k) ∧
        op.rational? m.toInt k.toInt = some (n.toInt : ℚ) := by
  simp only [← Number.apply_eq_integer_iff]
  constructor
  · intro h
    cases a with
    | number x =>
      cases b with
      | number y =>
        have hxy : Number.apply op x y = .integer n := by simpa [arith] using h
        cases x with
        | integer m =>
          cases y with
          | integer k => exact ⟨m, k, rfl, rfl, hxy⟩
          | float => cases hxy
        | float => cases hxy
      | undefined => cases h
      | bool | quit => cases h
    | undefined => cases b <;> cases h
    | bool | quit => cases b <;> cases h
  · rintro ⟨m, k, rfl, rfl, h⟩
    simp [arith, h]

theorem negate_eq_integer_iff {v : Value} {n : Int64} :
    v.negate = .ok (.number (.integer n)) ↔
      ∃ m, v = .number (.integer m) ∧ n.toInt = -m.toInt := by
  simp only [← Number.negate_eq_integer_iff]
  constructor
  · intro h
    cases v with
    | number x =>
      have hx : x.negate = .integer n := by simpa [negate] using h
      cases x with
      | integer m => exact ⟨m, rfl, hx⟩
      | float => cases hx
    | undefined | bool | quit => cases h
  · rintro ⟨m, rfl, h⟩
    simp [negate, h]

end Value

/-! ## Trees -/

namespace Expr

/-- The names, literals and commands in a tree. -/
def leaves : Expr → List Expr
  | .assign _ e => e.leaves
  | .negate e => e.leaves
  | .arith _ l r => l.leaves ++ r.leaves
  | .compare _ l r => l.leaves ++ r.leaves
  | e => [e]

/-- A tree and all the trees in it. -/
def subtrees : Expr → List Expr
  | .assign s e => .assign s e :: e.subtrees
  | .negate e => .negate e :: e.subtrees
  | .arith op l r => .arith op l r :: (l.subtrees ++ r.subtrees)
  | .compare op l r => .compare op l r :: (l.subtrees ++ r.subtrees)
  | e => [e]

theorem mem_subtrees_self (e : Expr) : e ∈ e.subtrees := by
  cases e <;> simp [subtrees]

inductive IntegerLeaf (st : Store) : Expr → Prop where
  | literal (n : Int64) : IntegerLeaf st (.number (.integer n))
  | bound {s : String} {n : Int64} (h : st.get? s = some (.number (.integer n))) :
      IntegerLeaf st (.name s)

/-- The exact value of a tree over integers, if no divisor in it is zero. -/
def rationalValue? (st : Store) : Expr → Option ℚ
  | .number (.integer n) => some n.toInt
  | .name s =>
    match st.get? s with
    | some (.number (.integer n)) => some n.toInt
    | _ => none
  | .negate e => (e.rationalValue? st).map (-·)
  | .arith op l r =>
    (l.rationalValue? st).bind fun p => (r.rationalValue? st).bind fun q => op.rational? p q
  | _ => none

/-- The exact value is an integer that 64 bits hold. -/
def ExactInteger (st : Store) (e : Expr) : Prop :=
  ∃ i : Int, e.rationalValue? st = some (i : ℚ) ∧ -2 ^ 63 ≤ i ∧ i ≤ 2 ^ 63 - 1

theorem exactInteger_of_toInt {st : Store} {e : Expr} {n : Int64}
    (h : e.rationalValue? st = some (n.toInt : ℚ)) : e.ExactInteger st :=
  ⟨n.toInt, h, n.le_toInt, by have := n.toInt_lt; omega⟩

theorem ExactInteger.exists_int64 {st : Store} {e : Expr} (h : e.ExactInteger st) :
    ∃ n : Int64, e.rationalValue? st = some (n.toInt : ℚ) := by
  obtain ⟨i, hi, lower, upper⟩ := h
  refine ⟨Int64.ofInt i, ?_⟩
  rw [hi, Int64.toInt_ofInt_of_le lower (by omega)]

theorem name_eq_integer_iff {st : Store} {s : String} {n : Int64} :
    ((Expr.name s).evaluate st).result = .ok (.number (.integer n)) ↔
      st.get? s = some (.number (.integer n)) := by
  have hresult : ((Expr.name s).evaluate st).result = .ok (st.get s) := rfl
  rw [hresult, Except.ok.injEq, Store.get]
  cases st.get? s <;> simp

theorem negate_eq_integer_iff {e : Expr} {st : Store} {n : Int64} :
    ((Expr.negate e).evaluate st).result = .ok (.number (.integer n)) ↔
      ∃ m, (e.evaluate st).result = .ok (.number (.integer m)) ∧ n.toInt = -m.toInt := by
  rw [result_negate]
  cases (e.evaluate st).result with
  | error err => simp [Except.bind]
  | ok v => simp [Except.bind, Value.negate_eq_integer_iff]

theorem arith_eq_integer_iff {op : ArithOp} {l r : Expr} (hl : l.targets = []) {st : Store}
    {n : Int64} :
    ((Expr.arith op l r).evaluate st).result = .ok (.number (.integer n)) ↔
      ∃ m k, (l.evaluate st).result = .ok (.number (.integer m)) ∧
        (r.evaluate st).result = .ok (.number (.integer k)) ∧
        op.rational? m.toInt k.toInt = some (n.toInt : ℚ) := by
  rw [result_arith hl]
  cases (l.evaluate st).result with
  | error err => simp [Except.bind]
  | ok a =>
    cases (r.evaluate st).result with
    | error err => simp [Except.bind]
    | ok b => simp [Except.bind, Value.arith_eq_integer_iff]

theorem Arithmetic.exact_of_integer {e : Expr} (h : e.Arithmetic) {st : Store} {n : Int64}
    (hn : (e.evaluate st).result = .ok (.number (.integer n))) :
    (∀ t ∈ e.leaves, t.IntegerLeaf st) ∧ (∀ t ∈ e.subtrees, t.ExactInteger st) ∧
      e.rationalValue? st = some (n.toInt : ℚ) := by
  induction h generalizing n with
  | number x =>
    have hx : x = .integer n := by simpa [evaluate, Evaluation.of] using hn
    subst hx
    have hexact : (Expr.number (.integer n)).rationalValue? st = some (n.toInt : ℚ) := rfl
    exact ⟨by simpa [leaves] using .literal n,
      by simpa [subtrees] using exactInteger_of_toInt hexact, hexact⟩
  | name s =>
    have hs : st.get? s = some (.number (.integer n)) := name_eq_integer_iff.mp hn
    have hexact : (Expr.name s).rationalValue? st = some (n.toInt : ℚ) := by
      simp [rationalValue?, hs]
    exact ⟨by simpa [leaves] using .bound hs,
      by simpa [subtrees] using exactInteger_of_toInt hexact, hexact⟩
  | @negate e _ ih =>
    obtain ⟨m, he, hm⟩ := negate_eq_integer_iff.mp hn
    obtain ⟨hleaves, hsubtrees, hexact⟩ := ih he
    have hself : (Expr.negate e).rationalValue? st = some (n.toInt : ℚ) := by
      rw [rationalValue?, hexact, hm]
      simp
    refine ⟨hleaves, ?_, hself⟩
    simpa [subtrees] using ⟨exactInteger_of_toInt hself, hsubtrees⟩
  | @arith l r op hl _ ihl ihr =>
    obtain ⟨m, k, hm, hk, hop⟩ := (arith_eq_integer_iff hl.targets).mp hn
    obtain ⟨lleaves, lsubtrees, lexact⟩ := ihl hm
    obtain ⟨rleaves, rsubtrees, rexact⟩ := ihr hk
    have hself : (Expr.arith op l r).rationalValue? st = some (n.toInt : ℚ) := by
      rw [rationalValue?, lexact, rexact]
      exact hop
    refine ⟨?_, ?_, hself⟩
    · intro t ht
      exact (List.mem_append.mp ht).elim (lleaves t) (rleaves t)
    · intro t ht
      rcases List.mem_cons.mp ht with rfl | ht
      · exact exactInteger_of_toInt hself
      · exact (List.mem_append.mp ht).elim (lsubtrees t) (rsubtrees t)

theorem Arithmetic.integer_of_exact {e : Expr} (h : e.Arithmetic) {st : Store}
    (hleaves : ∀ t ∈ e.leaves, t.IntegerLeaf st) (hsubtrees : ∀ t ∈ e.subtrees, t.ExactInteger st) :
    ∃ n, (e.evaluate st).result = .ok (.number (.integer n)) := by
  induction h with
  | number x =>
    cases hleaves (.number x) (by simp [leaves])
    exact ⟨_, rfl⟩
  | name s =>
    cases hleaves (.name s) (by simp [leaves]) with
    | bound hs => exact ⟨_, name_eq_integer_iff.mpr hs⟩
  | @negate e he ih =>
    obtain ⟨m, hm⟩ := ih hleaves fun t ht => hsubtrees t (List.mem_cons_of_mem _ ht)
    obtain ⟨n, hn⟩ := (hsubtrees _ (mem_subtrees_self _)).exists_int64
    obtain ⟨-, -, hexact⟩ := he.exact_of_integer hm
    refine ⟨n, negate_eq_integer_iff.mpr ⟨m, hm, ?_⟩⟩
    rw [rationalValue?, hexact, Option.map_some, Option.some.injEq] at hn
    exact_mod_cast hn.symm
  | @arith l r op hl hr ihl ihr =>
    obtain ⟨m, hm⟩ := ihl (fun t ht => hleaves t (List.mem_append_left _ ht))
      fun t ht => hsubtrees t (List.mem_cons_of_mem _ (List.mem_append_left _ ht))
    obtain ⟨k, hk⟩ := ihr (fun t ht => hleaves t (List.mem_append_right _ ht))
      fun t ht => hsubtrees t (List.mem_cons_of_mem _ (List.mem_append_right _ ht))
    obtain ⟨n, hn⟩ := (hsubtrees _ (mem_subtrees_self _)).exists_int64
    obtain ⟨-, -, lexact⟩ := hl.exact_of_integer hm
    obtain ⟨-, -, rexact⟩ := hr.exact_of_integer hk
    refine ⟨n, (arith_eq_integer_iff hl.targets).mpr ⟨m, k, hm, hk, ?_⟩⟩
    rw [rationalValue?, lexact, rexact] at hn
    exact hn

/-- An arithmetic tree comes to an integer exactly if its leaves are integers and the exact value
of every subtree is one of 64 bits; it then comes to its exact value. An operation that gives an
integer gives the exact one, as the operation on words does without wrapping around. -/
theorem integer_iff_exact :
    (∀ (e : Expr) (st : Store) (n : Int64), e.Arithmetic →
      ((e.evaluate st).result = .ok (.number (.integer n)) ↔
        (∀ t ∈ e.leaves, t.IntegerLeaf st) ∧ (∀ t ∈ e.subtrees, t.ExactInteger st) ∧
          e.rationalValue? st = some (n.toInt : ℚ))) ∧
    (∀ (op : ArithOp) (m k n : Int64),
      Number.apply op (.integer m) (.integer k) = .integer n →
        op.rational? m.toInt k.toInt = some (n.toInt : ℚ) ∧ op.word m k = n) ∧
    ∀ m n : Int64, Number.negate (.integer m) = .integer n → n.toInt = -m.toInt ∧ -m = n := by
  refine ⟨fun e st n h => ⟨h.exact_of_integer, ?_⟩, fun op m k n h => ?_, fun m n h => ?_⟩
  · rintro ⟨hleaves, hsubtrees, hexact⟩
    obtain ⟨m, hm⟩ := h.integer_of_exact hleaves hsubtrees
    obtain ⟨-, -, hexact'⟩ := h.exact_of_integer hm
    have hmn : m.toInt = n.toInt := by
      rw [hexact, Option.some.injEq] at hexact'
      exact_mod_cast hexact'.symm
    rw [hm, Int64.toInt_inj.mp hmn]
  · have hrational := Number.apply_eq_integer_iff.mp h
    exact ⟨hrational, ArithOp.word_eq_of_exactly (ArithOp.exactly?_eq_some_iff.mpr hrational)⟩
  · have hneg := Number.negate_eq_integer_iff.mp h
    refine ⟨hneg, ?_⟩
    rw [← Int64.toInt_inj, Int64.toInt_neg, ← hneg]
    exact n.toInt_bmod

/-- `-x / 2` with `x` bound to `-6`. -/
theorem integer_iff_exact_at_half :
    Arithmetic (.arith .div (.negate (.name "x")) (.number (.integer 2))) ∧
      ((Expr.arith .div (.negate (.name "x")) (.number (.integer 2))).evaluate
        (Store.empty.insert "x" (.number (.integer (-6))))).result = .ok (.number (.integer 3)) ∧
      (Expr.arith .div (.negate (.name "x")) (.number (.integer 2))).rationalValue?
        (Store.empty.insert "x" (.number (.integer (-6)))) = some 3 ∧
      Number.negate (.integer (-6)) = .integer 6 ∧ -(-6 : Int64) = 6 ∧
      Number.apply .div (.integer 6) (.integer 2) = .integer 3 ∧ ArithOp.div.word 6 2 = 3 := by
  have htree : Arithmetic (.arith .div (.negate (.name "x")) (.number (.integer 2))) :=
    .arith .div (.negate (.name "x")) (.number (.integer 2))
  have hresult : ((Expr.arith .div (.negate (.name "x")) (.number (.integer 2))).evaluate
      (Store.empty.insert "x" (.number (.integer (-6))))).result = .ok (.number (.integer 3)) := by
    decide +kernel
  have hnegate : Number.negate (.integer (-6)) = .integer 6 := by decide +kernel
  have hdiv : Number.apply .div (.integer 6) (.integer 2) = .integer 3 := by decide +kernel
  have hexact := ((integer_iff_exact.1 _ _ 3 htree).mp hresult).2.2
  exact ⟨htree, hresult, hexact, hnegate, (integer_iff_exact.2.2 _ _ hnegate).2, hdiv,
    (integer_iff_exact.2.1 _ _ _ _ hdiv).2⟩

end Expr

end Calculator
