import Calculator.Proofs.Interpreting
import Calculator.Proofs.Parsing
import Calculator.Proofs.Undefined
import Mathlib.Data.List.Forall2

/-!
# Type soundness of sessions

Variables only ever hold operands, and over operands no statement fails in evaluation. The parser
keeps truth values and `quit` out of every place where a value is used: a comparison or `quit` is
a whole statement, and an assignment has an arithmetic right side.
-/

namespace Calculator

/-! ## One statement -/

/-- What holds of interpreting a statement in a sound session. -/
structure Run.Sound (source : String) (run : Run) : Prop where
  evaluates : ∀ err, run.result ≠ .error (.eval err)
  operands : run.store.Operands
  of_bool : ∀ b, run.result = .ok (.bool b) →
    ∃ tokens op l r, scan source = .ok tokens ∧ parse tokens = .ok (.compare op l r)
  quit_iff : run.result = .ok .quit ↔
    ∃ tokens, scan source = .ok tokens ∧
      (withoutComments tokens = [.quit] ∨ withoutComments tokens = [.quit, .semicolon])

theorem parse_eq_quit_iff {tokens : List Token} :
    parse tokens = .ok .quit ↔
      withoutComments tokens = [.quit] ∨ withoutComments tokens = [.quit, .semicolon] := by
  rw [parse_eq_ok_iff]
  constructor
  · intro h
    generalize withoutComments tokens = ts at h
    cases h with
    | sum value => cases value.arithmetic
    | quit => exact .inl rfl
    | quitSemicolon => exact .inr rfl
  · rintro (h | h) <;> rw [h]
    · exact .quit
    · exact .quitSemicolon

theorem Value.IsOperand.ne_bool {v : Value} (h : v.IsOperand) (b : Bool) : v ≠ .bool b := by
  cases h <;> simp

theorem Value.IsOperand.ne_quit {v : Value} (h : v.IsOperand) : v ≠ .quit := by
  cases h <;> simp

theorem DerivesStatement.evaluate {ts : List Token} {e : Expr} (h : DerivesStatement ts e)
    {st : Store} (hst : st.Operands) :
    ∃ v, (e.evaluate st).result = .ok v ∧ (e.evaluate st).store.Operands ∧
      (∀ b, v = .bool b → ∃ op l r, e = .compare op l r) ∧ (v = .quit ↔ e = .quit) := by
  cases h with
  | @assign ts e s value =>
    obtain ⟨v, he, hv⟩ := value.arithmetic.result (hst.at _)
    rw [Expr.evaluate_assign value.arithmetic.targets he]
    exact ⟨v, rfl, hst.insert s hv, fun b hb => absurd hb (hv.ne_bool b), by simp [hv.ne_quit]⟩
  | sum value =>
    obtain ⟨v, he, hv⟩ := value.arithmetic.result (hst.at _)
    rw [Expr.store_of_targets value.arithmetic.targets]
    refine ⟨v, he, hst, fun b hb => absurd hb (hv.ne_bool b), ?_⟩
    constructor
    · intro hquit
      exact absurd hquit hv.ne_quit
    · rintro rfl
      cases value.arithmetic
  | @compare ts us l r op left right =>
    obtain ⟨holds, hc⟩ := left.arithmetic.result_compare right.arithmetic (hst.at _) (hst.at _) op
    have htargets : (Expr.compare op l r).targets = [] := by
      simp [Expr.targets, left.arithmetic.targets, right.arithmetic.targets]
    rw [Expr.store_of_targets htargets]
    exact ⟨.bool holds, hc, hst, fun b _ => ⟨op, l, r, rfl⟩, by simp⟩
  | quit | quitSemicolon => exact ⟨.quit, rfl, hst, by simp, by simp⟩

theorem sound_interpret (source : String) {st : Store} (hst : st.Operands) :
    (interpret source st).Sound source := by
  obtain ⟨err, hscan, hresult, hstore⟩ | ⟨tokens, err, hscan, hparse, hresult, hstore⟩ |
    ⟨tokens, tree, hscan, hparse, hresult, hstore⟩ := interpret_cases source st
  · refine ⟨by simp [hresult], by rwa [hstore], by simp [hresult], ?_⟩
    simp [hresult, hscan]
  · refine ⟨by simp [hresult], by rwa [hstore], by simp [hresult], ?_⟩
    simp [hresult, hscan, ← parse_eq_quit_iff, hparse]
  · obtain ⟨v, he, hoperands, hbool, hquit⟩ := (parse_eq_ok_iff.mp hparse).evaluate hst
    have hv : (interpret source st).result = .ok v := by rw [hresult, he]; rfl
    refine ⟨by simp [hv], by rwa [hstore], fun b hb => ?_, ?_⟩
    · rw [hv, Except.ok.injEq] at hb
      obtain ⟨op, l, r, rfl⟩ := hbool b hb
      exact ⟨tokens, op, l, r, hscan, hparse⟩
    · simp [hv, hscan, ← parse_eq_quit_iff, hparse, hquit]

/-! ## Sessions -/

theorem sound_interpretAll (sources : List String) {st : Store} (hst : st.Operands) :
    List.Forall₂ (fun source run => run.Sound source) sources (interpretAll sources st) := by
  induction sources generalizing st with
  | nil => exact .nil
  | cons source sources ih =>
    have hrun := sound_interpret source hst
    exact .cons hrun (ih hrun.operands)

/-- A session that begins with no variables is sound in each of its statements. -/
theorem sessions_sound (sources : List String) :
    List.Forall₂ (fun source run => run.Sound source) sources (interpretAll sources .empty) :=
  sound_interpretAll sources Store.operands_empty

end Calculator
