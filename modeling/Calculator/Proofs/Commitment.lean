import Calculator.Proofs.Arithmetic
import Calculator.Proofs.Interpreting
import Calculator.Proofs.Parsing
import Mathlib.Control.Monad.Basic

/-!
# A statement commits all or nothing

Evaluation alone is not atomic: an assignment inside a larger tree would stay written when the rest
of the tree fails. But the grammar derives assignments at the root only, and there the write is the
last thing that happens.
-/

namespace Calculator

/-! ## Where assignments stand -/

theorem DerivesStatement.assigns {ts : List Token} {e : Expr} (h : DerivesStatement ts e) :
    (∃ s value, e = .assign s value ∧ value.targets = []) ∨
      (∀ s value, e ≠ .assign s value) ∧ e.targets = [] := by
  cases h with
  | @assign ts value s derives => exact .inl ⟨s, value, rfl, derives.arithmetic.targets⟩
  | sum derives =>
    refine .inr ⟨?_, derives.arithmetic.targets⟩
    rintro s value rfl
    cases derives.arithmetic
  | compare op left right =>
    refine .inr ⟨by simp, ?_⟩
    simp [Expr.targets, left.arithmetic.targets, right.arithmetic.targets]
  | quit | quitSemicolon => exact .inr ⟨by simp, rfl⟩

/-! ## What the store is afterwards -/

theorem Expr.store_assign_of_error {e : Expr} (h : e.targets = []) {st : Store} {err : EvalError}
    {s : String} (he : ((Expr.assign s e).evaluate st).result = .error err) :
    ((Expr.assign s e).evaluate st).store = st := by
  cases hvalue : (e.evaluate st).result with
  | error err' => rw [evaluate, Evaluation.andThen_of_error hvalue, store_of_targets h]
  | ok v =>
    rw [evaluate_assign h hvalue] at he
    cases he

theorem Expr.store_assign_of_ok {e : Expr} (h : e.targets = []) {st : Store} {v : Value}
    {s : String} (he : ((Expr.assign s e).evaluate st).result = .ok v) :
    ((Expr.assign s e).evaluate st).store = st.insert s v := by
  cases hvalue : (e.evaluate st).result with
  | error err =>
    rw [evaluate, Evaluation.andThen_of_error hvalue, hvalue] at he
    cases he
  | ok w =>
    rw [evaluate_assign h hvalue] at he ⊢
    cases he
    rfl

theorem store_of_error {source : String} {st : Store} {err : Error}
    (h : (interpret source st).result = .error err) : (interpret source st).store = st := by
  obtain ⟨-, -, -, hstore⟩ | ⟨-, -, -, -, -, hstore⟩ |
    ⟨tokens, tree, -, hparse, hresult, hstore⟩ := interpret_cases source st
  · exact hstore
  · exact hstore
  · rw [hstore]
    obtain ⟨s, value, rfl, htargets⟩ | ⟨-, htargets⟩ := (parse_eq_ok_iff.mp hparse).assigns
    · cases he : ((Expr.assign s value).evaluate st).result with
      | error err' => exact Expr.store_assign_of_error htargets he
      | ok v =>
        rw [hresult, he] at h
        cases h
    · exact Expr.store_of_targets htargets st

theorem store_of_ok {source : String} {st : Store} {v : Value}
    (h : (interpret source st).result = .ok v) :
    ∃ tokens tree, scan source = .ok tokens ∧ parse tokens = .ok tree ∧
      ((∃ s value, tree = .assign s value ∧ (interpret source st).store = st.insert s v) ∨
        (∀ s value, tree ≠ .assign s value) ∧ (interpret source st).store = st) := by
  obtain ⟨err, -, hresult, -⟩ | ⟨-, err, -, -, hresult, -⟩ |
    ⟨tokens, tree, hscan, hparse, hresult, hstore⟩ := interpret_cases source st
  · rw [hresult] at h
    cases h
  · rw [hresult] at h
    cases h
  · refine ⟨tokens, tree, hscan, hparse, ?_⟩
    rw [hstore]
    obtain ⟨s, value, rfl, htargets⟩ | ⟨hroot, htargets⟩ := (parse_eq_ok_iff.mp hparse).assigns
    · cases he : ((Expr.assign s value).evaluate st).result with
      | error err =>
        rw [hresult, he] at h
        cases h
      | ok w =>
        rw [hresult, he] at h
        cases h
        exact .inl ⟨s, value, rfl, Expr.store_assign_of_ok htargets he⟩
    · exact .inr ⟨hroot, Expr.store_of_targets htargets st⟩

/-- Whatever a store holds, a statement that fails leaves it as it is. One that succeeds binds the
one name that it assigns to the value that it comes to, and no other; one that assigns nothing
leaves the store as it is. -/
theorem interpret_commits (source : String) (st : Store) :
    (∀ err, (interpret source st).result = .error err → (interpret source st).store = st) ∧
    ∀ v, (interpret source st).result = .ok v →
      ∃ tokens tree, scan source = .ok tokens ∧ parse tokens = .ok tree ∧
        ((∃ s value, tree = .assign s value ∧ (interpret source st).store = st.insert s v ∧
            (interpret source st).store.get? s = some v ∧
            ∀ t, t ≠ s → (interpret source st).store.get? t = st.get? t) ∨
          (∀ s value, tree ≠ .assign s value) ∧ (interpret source st).store = st) := by
  refine ⟨fun err h => store_of_error h, fun v h => ?_⟩
  obtain ⟨tokens, tree, hscan, hparse, hstore⟩ := store_of_ok h
  refine ⟨tokens, tree, hscan, hparse, ?_⟩
  obtain ⟨s, value, rfl, hstore⟩ | hstore := hstore
  · refine .inl ⟨s, value, rfl, hstore, ?_, fun t ht => ?_⟩
    · rw [hstore, Store.get?_insert, if_pos rfl]
    · rw [hstore, Store.get?_insert, if_neg ht]
  · exact .inr hstore

/-- With `x` bound to a truth value, `y := x + 1;` fails and `y := 1 + 1;` commits. -/
theorem interpret_commits_beside_bool :
    (interpret "y := x + 1;" (Store.empty.insert "x" (.bool true))).result =
        .error (.eval (.arith .add (.bool true) (.number (.integer 1)))) ∧
      (interpret "y := x + 1;" (Store.empty.insert "x" (.bool true))).store =
        Store.empty.insert "x" (.bool true) ∧
      (interpret "y := 1 + 1;" (Store.empty.insert "x" (.bool true))).result =
        .ok (.number (.integer 2)) ∧
      ∃ tokens tree, scan "y := 1 + 1;" = .ok tokens ∧ parse tokens = .ok tree ∧
        ((∃ s value, tree = .assign s value ∧
            (interpret "y := 1 + 1;" (Store.empty.insert "x" (.bool true))).store =
              (Store.empty.insert "x" (.bool true)).insert s (.number (.integer 2)) ∧
            (interpret "y := 1 + 1;" (Store.empty.insert "x" (.bool true))).store.get? s =
              some (.number (.integer 2)) ∧
            ∀ t, t ≠ s →
              (interpret "y := 1 + 1;" (Store.empty.insert "x" (.bool true))).store.get? t =
                (Store.empty.insert "x" (.bool true)).get? t) ∨
          (∀ s value, tree ≠ .assign s value) ∧
            (interpret "y := 1 + 1;" (Store.empty.insert "x" (.bool true))).store =
              Store.empty.insert "x" (.bool true)) := by
  have hfails : (interpret "y := x + 1;" (Store.empty.insert "x" (.bool true))).result =
      .error (.eval (.arith .add (.bool true) (.number (.integer 1)))) := by decide +kernel
  have hcommits : (interpret "y := 1 + 1;" (Store.empty.insert "x" (.bool true))).result =
      .ok (.number (.integer 2)) := by decide +kernel
  exact ⟨hfails, (interpret_commits _ _).1 _ hfails, hcommits, (interpret_commits _ _).2 _ hcommits⟩

end Calculator
