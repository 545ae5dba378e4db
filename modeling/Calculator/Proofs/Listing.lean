import Calculator.Proofs.ByteOrder
import Calculator.Proofs.EventLog

/-!
# Listing a store

A listing has one line for each name that was ever written, with the value written last, in the
order of the names' bytes. It sorts what it gets, so neither the order of the bindings nor the way
in which a store came about shows in it.
-/

namespace Calculator

namespace Store

/-! ## Bindings in any order -/

/-- The bindings of a store in any order, each once. -/
structure Enumerates (bs : List (String × Value)) (st : Store) : Prop where
  nodup : bs.Nodup
  mem_iff : ∀ s v, (s, v) ∈ bs ↔ st.get? s = some v

theorem eq_of_mem_of_sorted {bs : List (String × Value)} (hbs : bs.Pairwise fun a b => a.1 < b.1)
    {a b : String × Value} (ha : a ∈ bs) (hb : b ∈ bs) (h : a.1 = b.1) : a = b := by
  induction hbs with
  | nil => cases ha
  | @cons c cs hc _ ih =>
    rcases List.mem_cons.mp ha with rfl | hacs <;> rcases List.mem_cons.mp hb with rfl | hbcs
    · rfl
    · exact absurd (h ▸ hc b hbcs) (String.lt_irrefl _)
    · exact absurd (h ▸ hc a hacs) (String.lt_irrefl _)
    · exact ih hacs hbcs

theorem mem_bindings_of_get? {st : Store} {s : String} {v : Value} (h : st.get? s = some v) :
    (s, v) ∈ st.bindings := by
  obtain ⟨front, back, hsplit, -⟩ := List.lookup_eq_some_iff.mp h
  simp [hsplit]

theorem get?_of_mem_bindings {st : Store} {s : String} {v : Value} (h : (s, v) ∈ st.bindings) :
    st.get? s = some v := by
  cases hget : st.get? s with
  | none =>
    have hne := List.lookup_eq_none_iff.mp hget (s, v) h
    exact absurd rfl (bne_iff_ne.mp hne)
  | some w =>
    have heq := eq_of_mem_of_sorted st.sorted h (mem_bindings_of_get? hget) rfl
    cases heq
    rfl

theorem enumerates_bindings (st : Store) : Enumerates st.bindings st where
  nodup := by
    refine st.sorted.imp ?_
    rintro a b hlt rfl
    exact String.lt_irrefl _ hlt
  mem_iff _ _ := ⟨get?_of_mem_bindings, mem_bindings_of_get?⟩

theorem Enumerates.perm {bs : List (String × Value)} {st : Store} (h : Enumerates bs st) :
    bs.Perm st.bindings := by
  refine (List.perm_ext_iff_of_nodup h.nodup st.enumerates_bindings.nodup).mpr fun b => ?_
  rw [h.mem_iff, st.enumerates_bindings.mem_iff]

theorem byName_iff {a b : String × Value} : byName a b ↔ a.1 ≤ b.1 := decide_eq_true_iff

theorem byName_trans (a b c : String × Value) (hab : byName a b) (hbc : byName b c) :
    byName a c :=
  byName_iff.mpr (String.le_trans (byName_iff.mp hab) (byName_iff.mp hbc))

theorem byName_total (a b : String × Value) : byName a b || byName b a := by
  rw [Bool.or_eq_true, byName_iff, byName_iff]
  exact String.le_total a.1 b.1

theorem mergeSort_of_perm {bs : List (String × Value)} {st : Store} (h : bs.Perm st.bindings) :
    bs.mergeSort byName = st.bindings := by
  -- No two bindings have one name, so there is one sorted order of them.
  have hperm := (List.mergeSort_perm bs byName).trans h
  have hsorted := List.pairwise_mergeSort byName_trans byName_total bs
  refine hperm.eq_of_pairwise ?_ hsorted (st.sorted.imp fun hlt => ?_)
  · intro a b ha hb hab hba
    have heq := String.le_antisymm (byName_iff.mp hab) (byName_iff.mp hba)
    exact eq_of_mem_of_sorted st.sorted (hperm.mem_iff.mp ha) hb heq
  · exact byName_iff.mpr (String.not_lt.mp (String.lt_asymm hlt))

theorem listing_of_enumerates {bs : List (String × Value)} {st : Store} (h : Enumerates bs st) :
    listing bs = String.join (st.bindings.map line) := by
  rw [listing, mergeSort_of_perm h.perm]

theorem dump_eq (st : Store) : st.dump = String.join (st.bindings.map line) :=
  listing_of_enumerates st.enumerates_bindings

/-! ## Writes -/

/-- Of all these writes to `s` the last is of `v`. -/
def WrittenLast (ws : List (String × Value)) (s : String) (v : Value) : Prop :=
  ∃ before after, ws = before ++ (s, v) :: after ∧ ∀ w ∈ after, w.1 ≠ s

theorem writtenLast_iff {ws : List (String × Value)} {s : String} {v : Value} :
    WrittenLast ws s v ↔ (empty.replay ws).get? s = some v := by
  rw [get?_replay, get?_empty, Option.or_none, List.lookup_eq_some_iff]
  constructor
  · rintro ⟨before, after, rfl, hafter⟩
    refine ⟨after.reverse, before.reverse, by simp, fun w hw => ?_⟩
    exact bne_iff_ne.mpr (hafter w (List.mem_reverse.mp hw)).symm
  · rintro ⟨after, before, hws, hafter⟩
    refine ⟨before.reverse, after.reverse, ?_, fun w hw => ?_⟩
    · rw [← List.reverse_reverse ws, hws]
      simp
    · exact (bne_iff_ne.mp (hafter w (List.mem_reverse.mp hw))).symm

theorem exists_writtenLast_iff {ws : List (String × Value)} {s : String} :
    (∃ v, WrittenLast ws s v) ↔ ∃ v, (s, v) ∈ ws := by
  constructor
  · rintro ⟨v, before, after, rfl, -⟩
    exact ⟨v, by simp⟩
  · rintro ⟨v, hv⟩
    simp only [writtenLast_iff, get?_replay, get?_empty, Option.or_none]
    refine Option.ne_none_iff_exists'.mp fun hnone => ?_
    exact lookup_writes_eq_none_iff.mp hnone (s, v) hv rfl

end Store

/-! ## Histories -/

def Event.write? : Event → Option (String × Value)
  | .stored s v => some (s, v)
  | _ => none

theorem StatementLog.filterMap_write? (log : StatementLog) :
    log.events.filterMap Event.write? = log.write?.toList := by
  simp [events, List.filterMap_map, Function.comp_def, Event.write?]

/-- What a store goes through: a value is set, or a statement or a tree is evaluated. -/
inductive Change where
  | set (s : String) (v : Value)
  | statement (source : String)
  | tree (e : Expr)

namespace Change

def store (st : Store) : Change → Store
  | .set s v => st.insert s v
  | .statement source => (interpret source st).store
  | .tree e => (e.evaluate st).store

/-- The writes of a change, in order. A statement tells of them in its events. -/
def writes (st : Store) : Change → List (String × Value)
  | .set s v => [(s, v)]
  | .statement source => (interpret source st).events.filterMap Event.write?
  | .tree e => (e.evaluate st).writes

theorem store_eq_replay (st : Store) (c : Change) : c.store st = st.replay (c.writes st) := by
  cases c with
  | set s v => rfl
  | statement source =>
    obtain ⟨log, hlog⟩ := exists_statementLog source st
    rw [store, writes, hlog.store, hlog.events, log.filterMap_write?]
  | tree e => exact e.replays_evaluate st

end Change

/-- A store that had no variables at first, and all the writes to it since. -/
structure History where
  store : Store
  writes : List (String × Value)
  replays : store = Store.empty.replay writes

namespace History

def start : History := ⟨.empty, [], rfl⟩

def change (h : History) (c : Change) : History where
  store := c.store h.store
  writes := h.writes ++ c.writes h.store
  replays := by rw [Store.replay_append, ← h.replays, c.store_eq_replay]

def of (changes : List Change) : History := changes.foldl change start

theorem mem_bindings_iff (h : History) (s : String) (v : Value) :
    (s, v) ∈ h.store.bindings ↔ Store.WrittenLast h.writes s v := by
  rw [h.store.enumerates_bindings.mem_iff, Store.writtenLast_iff, h.replays]

theorem store_eq_of_writtenLast {h h' : History}
    (hlast : ∀ s v, Store.WrittenLast h.writes s v ↔ Store.WrittenLast h'.writes s v) :
    h.store = h'.store := by
  refine Store.ext_get? fun s => Option.ext fun v => ?_
  rw [h.replays, h'.replays, ← Store.writtenLast_iff, ← Store.writtenLast_iff]
  exact hlast s v

/-- Whatever a store went through, its dump has one line for each name that was written, and none
else, with the value written last, and the names are in the order of their bytes. It comes out the
same from the bindings in any order, and from any history that wrote the same values last. -/
theorem dump_canonical (changes : List Change) :
    let h := of changes
    ∃ bs : List (String × Value),
      h.store.dump = String.join (bs.map fun b => b.1 ++ " = " ++ b.2.text ++ "\n") ∧
      (bs.Pairwise fun a b => Text.bytes a.1 < Text.bytes b.1) ∧
      (∀ s v, (s, v) ∈ bs ↔ Store.WrittenLast h.writes s v) ∧
      (∀ s, (∃ v, (s, v) ∈ bs) ↔ ∃ v, (s, v) ∈ h.writes) ∧
      (∀ es, Store.Enumerates es h.store → Store.listing es = h.store.dump) ∧
      ∀ changes', (∀ s v, Store.WrittenLast (of changes').writes s v ↔
          Store.WrittenLast h.writes s v) →
        (of changes').store.dump = h.store.dump := by
  intro h
  refine ⟨h.store.bindings, h.store.dump_eq, h.store.sorted.imp Text.bytes_lt, h.mem_bindings_iff,
    fun s => ?_, fun es hes => ?_, fun changes' hlast => ?_⟩
  · simp only [h.mem_bindings_iff, Store.exists_writtenLast_iff]
  · rw [Store.listing_of_enumerates hes, Store.dump_eq]
  · rw [store_eq_of_writtenLast hlast]

end History

end Calculator
