import Calculator.Evaluation

/-! # What evaluation reads and writes -/

namespace Calculator

namespace Evaluation

@[simp] theorem of_ok_andThen (v : Value) (st : Store) (next : Value → Store → Evaluation) :
    (of (.ok v) st).andThen next = next v st := rfl

theorem result_andThen (e : Evaluation) (next : Value → Store → Evaluation) :
    (e.andThen next).result = e.result.bind fun v => (next v e.store).result := by
  cases h : e.result with
  | error err => rw [andThen_of_error h, h]; rfl
  | ok v => rw [result_andThen_of_ok h]; rfl

end Evaluation

namespace Expr

/-- The names whose values a tree asks for. -/
def reads : Expr → List String
  | .name s => [s]
  | .assign _ e => e.reads
  | .negate e => e.reads
  | .arith _ l r => l.reads ++ r.reads
  | .compare _ l r => l.reads ++ r.reads
  | _ => []

/-- The names that a tree assigns, in the order of the writes. -/
def targets : Expr → List String
  | .assign s e => e.targets ++ [s]
  | .negate e => e.targets
  | .arith _ l r => l.targets ++ r.targets
  | .compare _ l r => l.targets ++ r.targets
  | _ => []

theorem evaluate_of_targets {e : Expr} (h : e.targets = []) (st : Store) :
    ∃ result, e.evaluate st = .of result st := by
  induction e with
  | number | bool | name | quit => exact ⟨_, rfl⟩
  | assign s e => simp [targets] at h
  | negate e ih =>
    obtain ⟨result, he⟩ := ih h
    rw [evaluate, he]
    cases result with
    | error err => exact ⟨_, rfl⟩
    | ok v => exact ⟨_, rfl⟩
  | arith op l r ihl ihr | compare op l r ihl ihr =>
    obtain ⟨hl, hr⟩ := List.append_eq_nil_iff.mp h
    obtain ⟨left, hl⟩ := ihl hl
    obtain ⟨right, hr⟩ := ihr hr
    rw [evaluate, hl]
    cases left with
    | error err => exact ⟨_, rfl⟩
    | ok a =>
      rw [Evaluation.of_ok_andThen, hr]
      cases right with
      | error err => exact ⟨_, rfl⟩
      | ok b => exact ⟨_, rfl⟩

theorem store_of_targets {e : Expr} (h : e.targets = []) (st : Store) :
    (e.evaluate st).store = st := by
  obtain ⟨result, he⟩ := evaluate_of_targets h st
  rw [he]
  rfl

theorem evaluate_assign {e : Expr} (h : e.targets = []) {st : Store} {v : Value}
    (he : (e.evaluate st).result = .ok v) (s : String) :
    (Expr.assign s e).evaluate st = ⟨.ok v, st.insert s v, [(s, v)]⟩ := by
  obtain ⟨result, hr⟩ := evaluate_of_targets h st
  rw [hr] at he
  rw [evaluate, hr, show result = .ok v from he]
  rfl

theorem result_negate (e : Expr) (st : Store) :
    ((Expr.negate e).evaluate st).result = (e.evaluate st).result.bind Value.negate := by
  rw [evaluate, Evaluation.result_andThen]
  rfl

theorem result_arith {l : Expr} (hl : l.targets = []) (op : ArithOp) (r : Expr) (st : Store) :
    ((Expr.arith op l r).evaluate st).result =
      (l.evaluate st).result.bind fun a =>
        (r.evaluate st).result.bind fun b => Value.arith op a b := by
  simp only [evaluate, Evaluation.result_andThen, store_of_targets hl]
  rfl

theorem result_compare {l : Expr} (hl : l.targets = []) (op : CompareOp) (r : Expr) (st : Store) :
    ((Expr.compare op l r).evaluate st).result =
      (l.evaluate st).result.bind fun a =>
        (r.evaluate st).result.bind fun b => (Value.compare op a b).map .bool := by
  simp only [evaluate, Evaluation.result_andThen, store_of_targets hl]
  rfl

theorem result_compare_of_values {l r : Expr} (hl : l.targets = []) {st : Store} {a b : Value}
    (ha : (l.evaluate st).result = .ok a) (hb : (r.evaluate st).result = .ok b) (op : CompareOp) :
    ((Expr.compare op l r).evaluate st).result = (Value.compare op a b).map .bool := by
  rw [result_compare hl, ha, hb]
  rfl

theorem result_compare_of_ok {l r : Expr} (hl : l.targets = []) {st : Store} {a b : Value}
    (ha : (l.evaluate st).result = .ok a) (hb : (r.evaluate st).result = .ok b) {op : CompareOp}
    {holds : Bool} (hc : Value.compare op a b = .ok holds) :
    ((Expr.compare op l r).evaluate st).result = .ok (.bool holds) := by
  rw [result_compare_of_values hl ha hb, hc]
  rfl

end Expr

end Calculator
