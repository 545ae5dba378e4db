import Calculator.Proofs.Independence

/-!
# The footprint of an evaluation

A tree sees a store only through the names that it reads, where a name that is missing and one that
is bound to `undefined` are the same. It changes a store only at the names that it assigns, and it
never unbinds one. Both hold of trees that fail in the middle, with the writes made until then.
-/

namespace Calculator

/-! ## Writes at one name -/

namespace Store

theorem get?_replay_of_ne {ws : List (String × Value)} {s : String} (h : ∀ w ∈ ws, w.1 ≠ s)
    (st : Store) : (st.replay ws).get? s = st.get? s := by
  rw [get?_replay, lookup_writes_eq_none_iff.mpr h]
  rfl

theorem exists_get?_replay {ws : List (String × Value)} {w : String × Value} (h : w ∈ ws) :
    ∃ v, ∀ st : Store, (st.replay ws).get? w.1 = some v := by
  cases hlast : ws.reverse.lookup w.1 with
  | none => exact absurd rfl (lookup_writes_eq_none_iff.mp hlast w h)
  | some v =>
    refine ⟨v, fun st => ?_⟩
    rw [get?_replay, hlast]
    rfl

theorem isSome_get?_replay {st : Store} {s : String} (h : (st.get? s).isSome)
    (ws : List (String × Value)) : ((st.replay ws).get? s).isSome := by
  rw [get?_replay, Option.isSome_or, h, Bool.or_true]

end Store

/-! ## Which assignments are carried out -/

namespace Evaluation

/-- All these names are written in turn, or an error comes before some of them. -/
def Assigns (names : List String) (e : Evaluation) : Prop :=
  match e.result with
  | .ok _ => e.writes.map Prod.fst = names
  | .error _ => e.writes.map Prod.fst <+: names

theorem assigns_of_ok {names : List String} {e : Evaluation} {v : Value} (h : e.result = .ok v) :
    e.Assigns names ↔ e.writes.map Prod.fst = names := by
  rw [Assigns, h]

theorem assigns_of_error {names : List String} {e : Evaluation} {err : EvalError}
    (h : e.result = .error err) : e.Assigns names ↔ e.writes.map Prod.fst <+: names := by
  rw [Assigns, h]

theorem assigns_of (result : Except EvalError Value) (st : Store) : (of result st).Assigns [] := by
  cases result with
  | error err => exact List.prefix_refl []
  | ok v => rfl

theorem Assigns.andThen {ss ts : List String} {e : Evaluation}
    {next : Value → Store → Evaluation} (h : e.Assigns ss)
    (hnext : ∀ v, (next v e.store).Assigns ts) : (e.andThen next).Assigns (ss ++ ts) := by
  cases he : e.result with
  | error err =>
    rw [andThen_of_error he, assigns_of_error he]
    exact ((assigns_of_error he).mp h).trans (List.prefix_append ss ts)
  | ok v =>
    have hwrites : (e.andThen next).writes.map Prod.fst =
        ss ++ (next v e.store).writes.map Prod.fst := by
      rw [writes_andThen_of_ok he, List.map_append, (assigns_of_ok he).mp h]
    have hresult : (e.andThen next).result = (next v e.store).result := result_andThen_of_ok he
    cases hn : (next v e.store).result with
    | error err =>
      rw [assigns_of_error (hresult.trans hn), hwrites, List.prefix_append_right_inj]
      exact (assigns_of_error hn).mp (hnext v)
    | ok w =>
      rw [assigns_of_ok (hresult.trans hn), hwrites, (assigns_of_ok hn).mp (hnext v)]

end Evaluation

namespace Expr

theorem assigns_evaluate (e : Expr) (st : Store) : (e.evaluate st).Assigns e.targets := by
  induction e generalizing st with
  | number | bool | name | quit => exact Evaluation.assigns_of _ _
  | assign s e ih => exact (ih st).andThen fun v => rfl
  | negate e ih =>
    rw [targets, ← List.append_nil e.targets]
    exact (ih st).andThen fun v => Evaluation.assigns_of _ _
  | arith op l r ihl ihr | compare op l r ihl ihr =>
    rw [targets, ← List.append_nil r.targets]
    exact (ihl st).andThen fun a => (ihr _).andThen fun b => Evaluation.assigns_of _ _

/-! ## What an evaluation depends on and what it changes -/

/-- Stores that agree on what a tree reads give it one result and one list of writes, and they
agree behind it on what it reads and on what it has written. Whatever the store, the assignments of
a tree are carried out in their order up to an error, and they alone change the store: every name
that the tree does not assign is as before, and none becomes unbound. -/
theorem evaluate_within_footprint (e : Expr) :
    (∀ st st' : Store, Store.Agree e.reads st st' →
      (e.evaluate st).result = (e.evaluate st').result ∧
      (e.evaluate st).writes = (e.evaluate st').writes ∧
      Store.Agree e.reads (e.evaluate st).store (e.evaluate st').store ∧
      ∀ w ∈ (e.evaluate st).writes, ∃ v, (e.evaluate st).store.get? w.1 = some v ∧
        (e.evaluate st').store.get? w.1 = some v) ∧
    ∀ st : Store,
      (e.evaluate st).Assigns e.targets ∧
      (e.evaluate st).store = st.replay (e.evaluate st).writes ∧
      (∀ s, s ∉ e.targets → (e.evaluate st).store.get? s = st.get? s) ∧
      ∀ s, (st.get? s).isSome → ((e.evaluate st).store.get? s).isSome := by
  refine ⟨fun st st' h => ?_, fun st =>
    ⟨e.assigns_evaluate st, e.replays_evaluate st, fun s hs => ?_, fun s hs => ?_⟩⟩
  · have halike := alike_evaluate h
    refine ⟨halike.result, halike.writes, agree_store_evaluate halike h, fun w hw => ?_⟩
    obtain ⟨v, hv⟩ := Store.exists_get?_replay hw
    refine ⟨v, ?_, ?_⟩
    · rw [e.replays_evaluate st, hv]
    · rw [e.replays_evaluate st', ← halike.writes, hv]
  · rw [e.replays_evaluate st]
    refine Store.get?_replay_of_ne (fun w hw heq => ?_) st
    exact hs (heq ▸ mem_targets_of_mem_writes hw)
  · rw [e.replays_evaluate st]
    exact Store.isSome_get?_replay hs _

/-- `(x := y) * (x + true)` fails behind its assignment, with `y` missing as with `y` bound to
`undefined`, and leaves `z` alone. -/
theorem evaluate_within_footprint_before_failure :
    Store.Agree (arith .mul (assign "x" (name "y")) (arith .add (name "x") (bool true))).reads
        .empty ((Store.empty.insert "y" .undefined).insert "z" (.bool false)) ∧
      ((arith .mul (assign "x" (name "y")) (arith .add (name "x") (bool true))).evaluate
        .empty).result = .error (.arith .add .undefined (.bool true)) ∧
      ((arith .mul (assign "x" (name "y")) (arith .add (name "x") (bool true))).evaluate
        ((Store.empty.insert "y" .undefined).insert "z" (.bool false))).result =
          .error (.arith .add .undefined (.bool true)) ∧
      ((arith .mul (assign "x" (name "y")) (arith .add (name "x") (bool true))).evaluate
        ((Store.empty.insert "y" .undefined).insert "z" (.bool false))).writes =
          [("x", .undefined)] ∧
      ((arith .mul (assign "x" (name "y")) (arith .add (name "x") (bool true))).evaluate
        ((Store.empty.insert "y" .undefined).insert "z" (.bool false))).store.get? "z" =
          some (.bool false) := by
  have hagree :
      Store.Agree (arith .mul (assign "x" (name "y")) (arith .add (name "x") (bool true))).reads
        .empty ((Store.empty.insert "y" .undefined).insert "z" (.bool false)) := by
    simp only [Store.Agree]
    decide
  have hresult : ((arith .mul (assign "x" (name "y")) (arith .add (name "x") (bool true))).evaluate
      .empty).result = .error (.arith .add .undefined (.bool true)) := rfl
  have hwrites : ((arith .mul (assign "x" (name "y")) (arith .add (name "x") (bool true))).evaluate
      .empty).writes = [("x", .undefined)] := rfl
  obtain ⟨hsame, hsame', -⟩ := (evaluate_within_footprint _).1 _ _ hagree
  refine ⟨hagree, hresult, hsame.symm.trans hresult, hsame'.symm.trans hwrites, ?_⟩
  exact ((evaluate_within_footprint _).2 _).2.2.1 "z" (by decide)

end Expr

end Calculator
