import Calculator.Proofs.Commitment
import Calculator.Proofs.Replay
import Mathlib.Data.List.Forall2
import Mathlib.Logic.Function.Basic

/-!
# The event log is faithful

The events of a statement tell how far it got and what it wrote. A write is told of exactly if the
statement assigns and succeeds, so whoever replays the log of a session knows every variable and
the text of its value.
-/

namespace Calculator

/-! ## The events of one statement -/

/-- What the events of one statement tell, in their order. -/
structure StatementLog where
  tokens? : Option Nat
  /-- The productions entered, each with the number of tokens in front of it. -/
  entries : List (Production × Nat)
  tree? : Option Expr
  write? : Option (String × Value)
  value? : Option Value

namespace StatementLog

def events (log : StatementLog) : List Event :=
  log.tokens?.toList.map .scanned ++ log.entries.map (fun e => .entered e.1 e.2) ++
    log.tree?.toList.map .parsed ++ log.write?.toList.map (fun w => .stored w.1 w.2) ++
    log.value?.toList.map .evaluated

/-- The events of a run are those of the log, and each is there exactly if its stage succeeded; a
write is there exactly if an assignment did. -/
structure Tells (log : StatementLog) (source : String) (run : Run) : Prop where
  events : run.events = log.events
  scanned : ∀ n, log.tokens? = some n ↔ ∃ tokens, scan source = .ok tokens ∧ tokens.length = n
  unscanned : ∀ err, scan source = .error err → log.entries = []
  entered : ∀ tokens, scan source = .ok tokens → log.entries =
    (read tokens).entries.map fun e => (e.production, e.position (withoutComments tokens).length)
  parsed : ∀ e, log.tree? = some e ↔ ∃ tokens, scan source = .ok tokens ∧ parse tokens = .ok e
  stored : ∀ s v, log.write? = some (s, v) ↔
    (∃ tokens value, scan source = .ok tokens ∧ parse tokens = .ok (.assign s value)) ∧
      run.result = .ok v
  evaluated : ∀ v, log.value? = some v ↔ run.result = .ok v

end StatementLog

theorem DerivesStatement.exists_write {ts : List Token} {e : Expr} (h : DerivesStatement ts e)
    (st : Store) :
    ∃ write? : Option (String × Value), (e.evaluate st).writes = write?.toList ∧
      ∀ s v, write? = some (s, v) ↔
        (∃ value, e = .assign s value) ∧ (e.evaluate st).result = .ok v := by
  obtain ⟨s, value, rfl, htargets⟩ | ⟨hroot, htargets⟩ := h.assigns
  · obtain ⟨result, he⟩ := Expr.evaluate_of_targets htargets st
    cases result with
    | error err =>
      have hresult : (value.evaluate st).result = .error err := by rw [he]; rfl
      refine ⟨none, ?_, fun t v => ?_⟩
      · rw [Expr.evaluate, Evaluation.andThen_of_error hresult, he]
        rfl
      · simp [Expr.evaluate, Evaluation.andThen_of_error hresult, hresult]
    | ok w =>
      have hresult : (value.evaluate st).result = .ok w := by rw [he]; rfl
      rw [Expr.evaluate_assign htargets hresult]
      exact ⟨some (s, w), rfl, fun t v => by simp⟩
  · obtain ⟨result, he⟩ := Expr.evaluate_of_targets htargets st
    refine ⟨none, by rw [he]; rfl, fun s v => ?_⟩
    simp only [reduceCtorEq, false_iff, not_and]
    rintro ⟨value, rfl⟩
    exact absurd rfl (hroot s value)

theorem exists_statementLog (source : String) (st : Store) :
    ∃ log : StatementLog, log.Tells source (interpret source st) := by
  cases hscan : scan source with
  | error err =>
    refine ⟨⟨none, [], none, none, none⟩, ?_⟩
    constructor <;> simp [interpret, hscan, StatementLog.events]
  | ok tokens =>
    let entries := (read tokens).entries.map fun e =>
      (e.production, e.position (withoutComments tokens).length)
    cases hparse : parse tokens with
    | error err =>
      have hcomplete : (read tokens).complete = .error err := hparse
      refine ⟨⟨some tokens.length, entries, none, none, none⟩, ?_⟩
      constructor <;>
        simp [interpret, hscan, hparse, hcomplete, StatementLog.events, entries, Event.ofEntry]
    | ok tree =>
      have hcomplete : (read tokens).complete = .ok tree := hparse
      obtain ⟨write?, hwrites, hwrite⟩ := (parse_eq_ok_iff.mp hparse).exists_write st
      cases hresult : (tree.evaluate st).result with
      | error err =>
        refine ⟨⟨some tokens.length, entries, some tree, write?, none⟩, ?_⟩
        constructor <;>
          simp [interpret, hscan, hparse, hcomplete, hresult, hwrites, hwrite,
            StatementLog.events, entries, Event.ofEntry]
      | ok v =>
        refine ⟨⟨some tokens.length, entries, some tree, write?, some v⟩, ?_⟩
        constructor <;>
          simp [interpret, hscan, hparse, hcomplete, hresult, hwrites, hwrite,
            StatementLog.events, entries, Event.ofEntry]

/-! ## Replaying a log -/

namespace Event

/-- The variable and the text of its value, where the fields of an event show a write. -/
def stored? (e : Event) : Option (String × String) :=
  match e.fields with
  | [("variable", s), ("value", t)] => some (s, t)
  | _ => none

/-- The texts of the variables behind these events, where a write hides the earlier ones. -/
def replay (events : List Event) (texts : String → Option String) : String → Option String :=
  (events.filterMap stored?).foldl (fun texts w => Function.update texts w.1 (some w.2)) texts

theorem replay_append (es fs : List Event) (texts : String → Option String) :
    replay (es ++ fs) texts = replay fs (replay es texts) := by
  simp only [replay, List.filterMap_append, List.foldl_append]

end Event

namespace Store

/-- The texts of the values that a store holds. -/
def texts (st : Store) : String → Option String := fun s => (st.get? s).map Value.text

theorem texts_insert (st : Store) (s : String) (v : Value) :
    (st.insert s v).texts = Function.update st.texts s (some v.text) := by
  funext t
  simp only [texts, get?_insert, Function.update_apply]
  split <;> rfl

end Store

namespace StatementLog

theorem filterMap_stored? (log : StatementLog) :
    log.events.filterMap Event.stored? = log.write?.toList.map fun w => (w.1, w.2.text) := by
  simp [events, List.filterMap_map, Function.comp_def, Event.stored?, Event.fields]

theorem Tells.store {log : StatementLog} {source : String} {st : Store}
    (h : log.Tells source (interpret source st)) :
    (interpret source st).store = st.replay log.write?.toList := by
  cases hresult : (interpret source st).result with
  | error err =>
    have hnone : log.write? = none := by
      refine Option.eq_none_iff_forall_ne_some.mpr fun w hw => ?_
      have hok := ((h.stored w.1 w.2).mp hw).2
      rw [hresult] at hok
      cases hok
    rw [store_of_error hresult, hnone]
    rfl
  | ok v =>
    obtain ⟨tokens, tree, hscan, hparse, ⟨s, value, rfl, hstore⟩ | ⟨hroot, hstore⟩⟩ :=
      store_of_ok hresult
    · rw [hstore, (h.stored s v).mpr ⟨⟨tokens, value, hscan, hparse⟩, hresult⟩]
      rfl
    · have hnone : log.write? = none := by
        refine Option.eq_none_iff_forall_ne_some.mpr fun w hw => ?_
        obtain ⟨⟨us, value, hus, hassign⟩, -⟩ := (h.stored w.1 w.2).mp hw
        obtain rfl := Except.ok.inj (hscan.symm.trans hus)
        exact hroot w.1 value (Except.ok.inj (hparse.symm.trans hassign))
      rw [hstore, hnone]
      rfl

end StatementLog

/-! ## Sessions -/

theorem replay_interpret (source : String) (st : Store) :
    Event.replay (interpret source st).events st.texts = (interpret source st).store.texts := by
  obtain ⟨log, h⟩ := exists_statementLog source st
  rw [h.store, h.events, Event.replay, log.filterMap_stored?]
  cases log.write? with
  | none => rfl
  | some w => exact (st.texts_insert w.1 w.2).symm

/-- The store that the last of the runs leaves, or `st` where there is none. -/
def finalStore (runs : List Run) (st : Store) : Store := (runs.getLast?.map Run.store).getD st

theorem finalStore_cons (run : Run) (runs : List Run) (st : Store) :
    finalStore (run :: runs) st = finalStore runs run.store := by
  cases runs with
  | nil => rfl
  | cons next runs => simp [finalStore, List.getLast?_cons]

theorem replay_interpretAll (sources : List String) (st : Store) :
    Event.replay ((interpretAll sources st).flatMap Run.events) st.texts =
      (finalStore (interpretAll sources st) st).texts := by
  induction sources generalizing st with
  | nil => rfl
  | cons source sources ih =>
    simp only [interpretAll, List.flatMap_cons, finalStore_cons, Event.replay_append,
      replay_interpret, ih]

theorem exists_statementLogs (sources : List String) (st : Store) :
    List.Forall₂ (fun source run => ∃ log : StatementLog, log.Tells source run) sources
      (interpretAll sources st) := by
  induction sources generalizing st with
  | nil => exact .nil
  | cons source sources ih => exact .cons (exists_statementLog source st) (ih _)

/-- Each statement of a session has its events in order and tells of a write exactly if it is an
assignment that has a value. So replaying the events of the whole session over no variables gives
the variables that the session leaves, each with the text of its value. -/
theorem session_events_faithful (sources : List String) :
    List.Forall₂ (fun source run => ∃ log : StatementLog, log.Tells source run) sources
      (interpretAll sources .empty) ∧
    ∀ s, Event.replay ((interpretAll sources .empty).flatMap Run.events) (fun _ => none) s =
      ((finalStore (interpretAll sources .empty) .empty).get? s).map Value.text :=
  ⟨exists_statementLogs sources .empty, fun s => congrFun (replay_interpretAll sources .empty) s⟩

end Calculator
