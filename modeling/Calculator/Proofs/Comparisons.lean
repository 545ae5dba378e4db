import Calculator.Proofs.FloatValues
import Calculator.Proofs.Targets

/-!
# Comparisons of trees

Two operands either have an order, which may leave them unordered, or both are undefined, or no
comparison takes them. So the six comparisons of two trees come to truth values together or fail
together, and they agree with each other and with those of the two trees in turn.
-/

namespace Calculator

/-! ## Operators -/

namespace CompareOp

/-- The operator that says the same of the operands in turn. -/
def swap : CompareOp → CompareOp
  | .eq => .eq
  | .ne => .ne
  | .ge => .le
  | .le => .ge
  | .lt => .gt
  | .gt => .lt

theorem holds_swap (op : CompareOp) (o : Option Ordering) :
    op.swap.holds (o.map Ordering.swap) = op.holds o := by
  rcases o with _ | o
  · cases op <;> rfl
  · cases op <;> cases o <;> rfl

/-- What ties the six comparisons of two operands to each other, and to the comparisons of the
operands in turn, which are `swapped`. Of operands that are both undefined only `eq` holds. -/
structure Coherent (undefined : Prop) (holds swapped : CompareOp → Bool) : Prop where
  ne : holds .ne = !holds .eq
  swap : ∀ op : CompareOp, holds op = swapped op.swap
  exclusive : (holds .lt).toNat + (holds .eq).toNat + (holds .gt).toNat ≤ 1
  le : ¬ undefined → holds .le = (holds .lt || holds .eq)
  only_eq : undefined → ∀ op, holds op = decide (op = .eq)

theorem coherent_holds {undefined : Prop} (h : ¬ undefined) (o : Option Ordering) :
    Coherent undefined (holds · o) (holds · (o.map Ordering.swap)) where
  ne := rfl
  swap op := (holds_swap op o).symm
  exclusive := by
    rcases o with _ | o
    · decide
    · cases o <;> decide
  le _ := rfl
  only_eq hundefined := absurd hundefined h

theorem coherent_undefined {undefined : Prop} (h : undefined) :
    Coherent undefined (fun op => decide (op = .eq)) (fun op => decide (op = .eq)) where
  ne := rfl
  swap op := by cases op <;> rfl
  exclusive := by decide
  le hdefined := absurd h hdefined
  only_eq _ _ := rfl

end CompareOp

/-! ## Values -/

theorem compare_floats_swap (x y : Float) :
    Float.Model.compare y.toModel x.toModel =
      (Float.Model.compare x.toModel y.toModel).map Ordering.swap := by
  simp only [Float.Model.compare, compare_eq_places (canonical_unpack _) (canonical_unpack _)]
  cases place? x.toModel.unpack with
  | none => cases place? y.toModel.unpack <;> rfl
  | some p =>
    cases place? y.toModel.unpack with
    | none => rfl
    | some q => exact congrArg some Std.OrientedCmp.eq_swap

namespace Number

theorem compare?_swap (a b : Number) : compare? b a = (compare? a b).map Ordering.swap := by
  cases a with
  | float x => cases b <;> exact compare_floats_swap _ _
  | integer m =>
    cases b with
    | float y => exact compare_floats_swap _ _
    | integer n => exact congrArg some Std.OrientedCmp.eq_swap

end Number

namespace Value

/-- Operands that no comparison takes. -/
inductive Mismatched : Value → Value → Prop where
  | quit_left (r : Value) : Mismatched .quit r
  | quit_right (l : Value) : Mismatched l .quit
  | bool_number (b : Bool) (n : Number) : Mismatched (.bool b) (.number n)
  | number_bool (n : Number) (b : Bool) : Mismatched (.number n) (.bool b)

variable {l r : Value}

theorem Mismatched.symm (h : Mismatched l r) : Mismatched r l := by
  cases h with
  | quit_left => exact .quit_right r
  | quit_right => exact .quit_left l
  | bool_number b n => exact .number_bool n b
  | number_bool n b => exact .bool_number b n

theorem Mismatched.compare (h : Mismatched l r) (op : CompareOp) :
    compare op l r = .error (.compare op l r) := by
  cases h with
  | quit_left => cases r <;> rfl
  | quit_right => cases l <;> rfl
  | bool_number | number_bool => rfl

theorem compare_cases (l r : Value) :
    Mismatched l r ∨ (l = .undefined ∧ r = .undefined) ∨
      ¬ (l = .undefined ∧ r = .undefined) ∧
        ∃ o : Option Ordering, (∀ op, compare op l r = .ok (op.holds o)) ∧
          ∀ op, compare op r l = .ok (op.holds (o.map Ordering.swap)) := by
  cases l with
  | quit => exact .inl (.quit_left r)
  | number m =>
    cases r with
    | quit => exact .inl (.quit_right _)
    | bool b => exact .inl (.number_bool m b)
    | undefined => exact .inr (.inr ⟨by simp, none, fun _ => rfl, fun _ => rfl⟩)
    | number n =>
      refine .inr (.inr ⟨by simp, Number.compare? m n, fun _ => rfl, fun op => ?_⟩)
      rw [compare, Number.compare?_swap]
  | bool a =>
    cases r with
    | quit => exact .inl (.quit_right _)
    | number n => exact .inl (.bool_number a n)
    | undefined => exact .inr (.inr ⟨by simp, none, fun _ => rfl, fun _ => rfl⟩)
    | bool b =>
      have hswap : Ord.compare b a = (Ord.compare a b).swap := Std.OrientedCmp.eq_swap
      refine .inr (.inr ⟨by simp, some (Ord.compare a b), fun _ => rfl, fun op => ?_⟩)
      rw [compare, hswap, Option.map_some]
  | undefined =>
    cases r with
    | quit => exact .inl (.quit_right _)
    | undefined => exact .inr (.inl ⟨rfl, rfl⟩)
    | number n => exact .inr (.inr ⟨by simp, none, fun _ => rfl, fun _ => rfl⟩)
    | bool b => exact .inr (.inr ⟨by simp, none, fun _ => rfl, fun _ => rfl⟩)

theorem exists_coherent (h : ¬ Mismatched l r) :
    ∃ holds swapped : CompareOp → Bool,
      (∀ op, compare op l r = .ok (holds op)) ∧ (∀ op, compare op r l = .ok (swapped op)) ∧
      CompareOp.Coherent (l = .undefined ∧ r = .undefined) holds swapped := by
  obtain hmismatched | ⟨rfl, rfl⟩ | ⟨hdefined, o, hlr, hrl⟩ := compare_cases l r
  · exact absurd hmismatched h
  · exact ⟨_, _, fun _ => rfl, fun _ => rfl, CompareOp.coherent_undefined ⟨rfl, rfl⟩⟩
  · exact ⟨_, _, hlr, hrl, CompareOp.coherent_holds hdefined o⟩

end Value

/-! ## Trees -/

namespace Expr

/-- Every comparison of the two trees comes to a truth value, and these are they. -/
def ComparesAs (st : Store) (a b : Expr) (holds : CompareOp → Bool) : Prop :=
  ∀ op, ((Expr.compare op a b).evaluate st).result = .ok (.bool (holds op))

/-- Every comparison of the two trees fails. -/
def Incomparable (st : Store) (a b : Expr) : Prop :=
  ∀ op, ∃ err, ((Expr.compare op a b).evaluate st).result = .error err

variable {st : Store} {a b : Expr} {v w : Value}

theorem incomparable_of_error (ha : a.targets = []) {err : EvalError}
    (h : (a.evaluate st).result = .error err ∨ (b.evaluate st).result = .error err) :
    Incomparable st a b := by
  intro op
  rw [result_compare ha]
  cases hv : (a.evaluate st).result with
  | error err' => exact ⟨err', rfl⟩
  | ok v =>
    obtain h | h := h
    · rw [hv] at h
      cases h
    · rw [h]
      exact ⟨err, rfl⟩

theorem comparesAs_of_values (ha : a.targets = []) (hv : (a.evaluate st).result = .ok v)
    (hw : (b.evaluate st).result = .ok w) {holds : CompareOp → Bool}
    (h : ∀ op, Value.compare op v w = .ok (holds op)) : ComparesAs st a b holds :=
  fun op => result_compare_of_ok ha hv hw (h op)

theorem incomparable_of_mismatched (ha : a.targets = []) (hv : (a.evaluate st).result = .ok v)
    (hw : (b.evaluate st).result = .ok w) (h : v.Mismatched w) : Incomparable st a b := by
  intro op
  rw [result_compare_of_values ha hv hw, h.compare]
  exact ⟨_, rfl⟩

theorem ComparesAs.not_error {holds : CompareOp → Bool} (h : ComparesAs st a b holds)
    (op : CompareOp) : ¬ ∃ err, ((Expr.compare op a b).evaluate st).result = .error err := by
  rintro ⟨err, herr⟩
  rw [h op] at herr
  cases herr

/-- Trees that assign nothing are compared by all six operators or by none, whichever of the two is
on the left. Where both have values, none compares them exactly if they are mismatched. Where they
are compared, the six comparisons are coherent. -/
theorem comparisons_coherent (st : Store) {a b : Expr} (ha : a.targets = []) (hb : b.targets = []) :
    ((∃ holds swapped, ComparesAs st a b holds ∧ ComparesAs st b a swapped ∧
        CompareOp.Coherent ((a.evaluate st).result = .ok .undefined ∧
          (b.evaluate st).result = .ok .undefined) holds swapped) ∨
      Incomparable st a b ∧ Incomparable st b a) ∧
    ∀ v w, (a.evaluate st).result = .ok v → (b.evaluate st).result = .ok w →
      ∀ op, (∃ err, ((Expr.compare op a b).evaluate st).result = .error err) ↔ v.Mismatched w := by
  cases hv : (a.evaluate st).result with
  | error err =>
    refine ⟨.inr ⟨incomparable_of_error ha (.inl hv), incomparable_of_error hb (.inr hv)⟩, ?_⟩
    rintro v w ⟨⟩
  | ok v =>
    cases hw : (b.evaluate st).result with
    | error err =>
      refine ⟨.inr ⟨incomparable_of_error ha (.inr hw), incomparable_of_error hb (.inl hw)⟩, ?_⟩
      rintro v w _ ⟨⟩
    | ok w =>
      by_cases h : v.Mismatched w
      · have hfail := incomparable_of_mismatched ha hv hw h
        refine ⟨.inr ⟨hfail, incomparable_of_mismatched hb hw hv h.symm⟩, ?_⟩
        rintro _ _ ⟨⟩ ⟨⟩ op
        exact iff_of_true (hfail op) h
      · obtain ⟨holds, swapped, hvw, hwv, hcoherent⟩ := Value.exists_coherent h
        have hholds := comparesAs_of_values ha hv hw hvw
        refine ⟨.inl ⟨holds, swapped, hholds, comparesAs_of_values hb hw hv hwv, ?_⟩, ?_⟩
        · simpa only [Except.ok.injEq] using hcoherent
        · rintro _ _ ⟨⟩ ⟨⟩ op
          exact iff_of_false (hholds.not_error op) h

/-- Two names that hold nothing are equal and not even `≤`. No comparison takes a truth value and
the float that is not a number. -/
theorem comparisons_coherent_at_undefined :
    (Expr.name "x").targets = [] ∧ (Expr.negate (.name "y")).targets = [] ∧
      (∃ holds, ComparesAs .empty (.name "x") (.name "y") holds ∧
        ∀ op, holds op = decide (op = .eq)) ∧
      ∀ op, ∃ err,
        ((Expr.compare op (.bool true) (.negate (.name "y"))).evaluate .empty).result =
          .error err := by
  have hx : (Expr.name "x").targets = [] := rfl
  have hy : (Expr.negate (.name "y")).targets = [] := rfl
  refine ⟨hx, hy, ?_, fun op => ?_⟩
  · obtain ⟨⟨holds, _, hholds, -, hcoherent⟩ | ⟨hfail, -⟩, -⟩ :=
      comparisons_coherent .empty hx (b := .name "y") rfl
    · exact ⟨holds, hholds, hcoherent.only_eq ⟨rfl, rfl⟩⟩
    · obtain ⟨err, herr⟩ := hfail .eq
      cases herr
  · exact ((comparisons_coherent .empty rfl hy).2 (.bool true) .notANumber rfl rfl op).mpr
      (.bool_number _ _)

end Expr

end Calculator
