import Calculator.Proofs.Interpreting
import Calculator.Proofs.Replay
import Mathlib.Control.Monad.Basic

/-!
# Independent statements commute

Evaluation depends on a store only through the names that a tree reads. So two statements, neither
of which assigns a name that occurs in the other, may change places, also where one of them fails.
-/

namespace Calculator

/-! ## What a tree reads -/

namespace Store

/-- Two stores give these names the same values. -/
def Agree (names : List String) (st st' : Store) : Prop := ∀ s ∈ names, st.get s = st'.get s

theorem Agree.left {ss ts : List String} {st st' : Store} (h : Agree (ss ++ ts) st st') :
    Agree ss st st' :=
  fun s hs => h s (List.mem_append_left ts hs)

theorem Agree.right {ss ts : List String} {st st' : Store} (h : Agree (ss ++ ts) st st') :
    Agree ts st st' :=
  fun s hs => h s (List.mem_append_right ss hs)

theorem Agree.replay {names : List String} {st st' : Store} (h : Agree names st st')
    (ws : List (String × Value)) : Agree names (st.replay ws) (st'.replay ws) :=
  fun s hs => get_replay_congr (h s hs) ws

end Store

namespace Evaluation

/-- Two evaluations with the same result and the same writes, perhaps in different stores. -/
structure Alike (e f : Evaluation) : Prop where
  result : e.result = f.result
  writes : e.writes = f.writes

theorem Alike.andThen {e f : Evaluation} {next : Value → Store → Evaluation} (h : e.Alike f)
    (hnext : ∀ v, (next v e.store).Alike (next v f.store)) :
    (e.andThen next).Alike (f.andThen next) := by
  cases he : e.result with
  | error err =>
    rw [andThen_of_error he, andThen_of_error (h.result.symm.trans he)]
    exact h
  | ok v =>
    have hf := h.result.symm.trans he
    constructor
    · rw [result_andThen_of_ok he, result_andThen_of_ok hf, (hnext v).result]
    · rw [writes_andThen_of_ok he, writes_andThen_of_ok hf, h.writes, (hnext v).writes]

end Evaluation

namespace Expr

theorem agree_store_evaluate {e : Expr} {names : List String} {st st' : Store}
    (halike : (e.evaluate st).Alike (e.evaluate st')) (h : Store.Agree names st st') :
    Store.Agree names (e.evaluate st).store (e.evaluate st').store := by
  rw [e.replays_evaluate st, e.replays_evaluate st', halike.writes]
  exact h.replay _

theorem alike_evaluate {e : Expr} {st st' : Store} (h : Store.Agree e.reads st st') :
    (e.evaluate st).Alike (e.evaluate st') := by
  induction e generalizing st st' with
  | number | bool | quit => exact ⟨rfl, rfl⟩
  | name s => exact ⟨congrArg Except.ok (h s List.mem_cons_self), rfl⟩
  | assign s e ih | negate e ih => exact (ih h).andThen fun v => ⟨rfl, rfl⟩
  | arith op l r ihl ihr | compare op l r ihl ihr =>
    have hl := ihl h.left
    have hr := ihr (agree_store_evaluate hl h.right)
    exact hl.andThen fun a => hr.andThen fun b => ⟨rfl, rfl⟩

/-! ## Trees that do not touch each other -/

/-- What the one tree assigns, the other neither reads nor assigns. -/
def LeavesAlone (m n : Expr) : Prop := ∀ s ∈ m.targets, s ∉ n.reads ∧ s ∉ n.targets

instance (m n : Expr) : Decidable (m.LeavesAlone n) :=
  inferInstanceAs (Decidable (∀ s ∈ m.targets, s ∉ n.reads ∧ s ∉ n.targets))

variable {m n : Expr}

theorem LeavesAlone.agree (h : m.LeavesAlone n) (st : Store) :
    Store.Agree n.reads (m.evaluate st).store st := by
  intro s hs
  rw [m.replays_evaluate st]
  refine Store.get_replay_of_ne fun w hw => ?_
  rintro rfl
  exact (h w.1 (mem_targets_of_mem_writes hw)).1 hs

theorem LeavesAlone.alike (h : m.LeavesAlone n) (st : Store) :
    (n.evaluate (m.evaluate st).store).Alike (n.evaluate st) :=
  alike_evaluate (h.agree st)

theorem LeavesAlone.store_comm (hmn : m.LeavesAlone n) (hnm : n.LeavesAlone m) (st : Store) :
    (n.evaluate (m.evaluate st).store).store = (m.evaluate (n.evaluate st).store).store := by
  have hdisjoint : ∀ w ∈ (m.evaluate st).writes, ∀ v ∈ (n.evaluate st).writes, w.1 ≠ v.1 := by
    intro w hw v hv heq
    exact (hmn w.1 (mem_targets_of_mem_writes hw)).2 (heq ▸ mem_targets_of_mem_writes hv)
  calc (n.evaluate (m.evaluate st).store).store
      = (st.replay (m.evaluate st).writes).replay (n.evaluate st).writes := by
        rw [n.replays_evaluate, (hmn.alike st).writes, ← m.replays_evaluate st]
    _ = (st.replay (n.evaluate st).writes).replay (m.evaluate st).writes :=
        Store.replay_comm hdisjoint st
    _ = (m.evaluate (n.evaluate st).store).store := by
        rw [m.replays_evaluate, (hnm.alike st).writes, ← n.replays_evaluate st]

end Expr

/-! ## Statements -/

/-- Two statements that leave each other alone come to the same in either order, each with its own
value or error, and leave the same store. -/
theorem interpret_comm {s t : String} {us vs : List Token} {m n : Expr} (hs : scan s = .ok us)
    (hm : parse us = .ok m) (ht : scan t = .ok vs) (hn : parse vs = .ok n)
    (hmn : m.LeavesAlone n) (hnm : n.LeavesAlone m) (st : Store) :
    (interpret s (interpret t st).store).result = (interpret s st).result ∧
      (interpret t (interpret s st).store).result = (interpret t st).result ∧
      (interpret t (interpret s st).store).store = (interpret s (interpret t st).store).store := by
  have hresult (st : Store) := (interpret_of_parse hs st hm).1
  have hstore (st : Store) := (interpret_of_parse hs st hm).2
  have hresult' (st : Store) := (interpret_of_parse ht st hn).1
  have hstore' (st : Store) := (interpret_of_parse ht st hn).2
  refine ⟨?_, ?_, ?_⟩
  · rw [hresult, hresult, hstore', (hnm.alike st).result]
  · rw [hresult', hresult', hstore, (hmn.alike st).result]
  · rw [hstore', hstore, hstore, hstore', hmn.store_comm hnm]

/-- With `x` bound to a truth value `y := x + 1;` fails, and `z := 2 * w;` may stand before it as
well as behind it. -/
theorem interpret_comm_beside_failure :
    scan "y := x + 1;" =
        .ok [.name "y", .assign, .name "x", .arith .add, .number (.integer 1), .semicolon] ∧
      scan "z := 2 * w;" =
        .ok [.name "z", .assign, .number (.integer 2), .arith .mul, .name "w", .semicolon] ∧
      (interpret "y := x + 1;"
          (interpret "z := 2 * w;" (Store.empty.insert "x" (.bool true))).store).result =
        (interpret "y := x + 1;" (Store.empty.insert "x" (.bool true))).result ∧
      (interpret "z := 2 * w;"
          (interpret "y := x + 1;" (Store.empty.insert "x" (.bool true))).store).result =
        (interpret "z := 2 * w;" (Store.empty.insert "x" (.bool true))).result ∧
      (interpret "z := 2 * w;"
          (interpret "y := x + 1;" (Store.empty.insert "x" (.bool true))).store).store =
        (interpret "y := x + 1;"
          (interpret "z := 2 * w;" (Store.empty.insert "x" (.bool true))).store).store := by
  have hs : scan "y := x + 1;" =
      .ok [.name "y", .assign, .name "x", .arith .add, .number (.integer 1), .semicolon] := by
    decide +kernel
  have hm : parse [.name "y", .assign, .name "x", .arith .add, .number (.integer 1), .semicolon] =
      .ok (.assign "y" (.arith .add (.name "x") (.number (.integer 1)))) := by decide +kernel
  have ht : scan "z := 2 * w;" =
      .ok [.name "z", .assign, .number (.integer 2), .arith .mul, .name "w", .semicolon] := by
    decide +kernel
  have hn : parse [.name "z", .assign, .number (.integer 2), .arith .mul, .name "w", .semicolon] =
      .ok (.assign "z" (.arith .mul (.number (.integer 2)) (.name "w"))) := by decide +kernel
  exact ⟨hs, ht, interpret_comm hs hm ht hn (by decide) (by decide) _⟩

end Calculator
