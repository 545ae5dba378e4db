import Calculator.Proofs.Targets

/-!
# Writes in turn

Two stores that give the same value for each name are equal, whatever was written in which order.
Evaluation changes a store by its writes alone: replaying them over the store before it gives the
store behind it.
-/

namespace Calculator

namespace Store

/-! ## Stores with the same values -/

theorem lookup_eq_none_of_lt {s : String} {bs : List (String × Value)} (h : ∀ b ∈ bs, s < b.1) :
    bs.lookup s = none := by
  refine List.lookup_eq_none_iff.mpr fun b hb => bne_iff_ne.mpr ?_
  rintro rfl
  exact String.lt_irrefl _ (h b hb)

theorem le_of_lookup {s t : String} {v w : Value} {bs cs : List (String × Value)}
    (hb : ((s, v) :: bs).Pairwise fun a b => a.1 < b.1)
    (h : ∀ u, ((s, v) :: bs).lookup u = ((t, w) :: cs).lookup u) : s ≤ t := by
  refine String.not_lt.mp fun hlt => ?_
  have hnone : ((s, v) :: bs).lookup t = none := by
    refine lookup_eq_none_of_lt fun b hmem => ?_
    obtain rfl | hmem := List.mem_cons.mp hmem
    · exact hlt
    · exact String.lt_trans hlt ((List.pairwise_cons.mp hb).1 b hmem)
  rw [h, List.lookup_cons_self] at hnone
  cases hnone

theorem eq_of_lookup {bs cs : List (String × Value)} (hb : bs.Pairwise fun a b => a.1 < b.1)
    (hc : cs.Pairwise fun a b => a.1 < b.1) (h : ∀ s, bs.lookup s = cs.lookup s) : bs = cs := by
  induction bs generalizing cs with
  | nil =>
    cases cs with
    | nil => rfl
    | cons c cs =>
      have hc := h c.1
      rw [List.lookup_cons_self] at hc
      cases hc
  | cons b bs ih =>
    cases cs with
    | nil =>
      have hb := h b.1
      rw [List.lookup_cons_self] at hb
      cases hb
    | cons c cs =>
      obtain ⟨s, v⟩ := b
      obtain ⟨t, w⟩ := c
      obtain rfl : s = t :=
        String.le_antisymm (le_of_lookup hb h) (le_of_lookup hc fun u => (h u).symm)
      have hv : v = w := by simpa [lookup_cons] using h s
      have htail : bs = cs := by
        refine ih hb.tail hc.tail fun u => ?_
        by_cases hu : u = s
        · rw [hu, lookup_eq_none_of_lt (List.pairwise_cons.mp hb).1,
            lookup_eq_none_of_lt (List.pairwise_cons.mp hc).1]
        · simpa [lookup_cons, hu] using h u
      rw [hv, htail]

theorem ext_get? {st st' : Store} (h : ∀ s, st.get? s = st'.get? s) : st = st' := by
  obtain ⟨bs, hb⟩ := st
  obtain ⟨cs, hc⟩ := st'
  obtain rfl := eq_of_lookup hb hc h
  rfl

/-! ## Replaying writes -/

/-- The store after writes in turn. -/
def replay (st : Store) (writes : List (String × Value)) : Store :=
  writes.foldl (fun st w => st.insert w.1 w.2) st

@[simp] theorem replay_nil (st : Store) : st.replay [] = st := rfl

@[simp] theorem replay_cons (st : Store) (w : String × Value) (ws : List (String × Value)) :
    st.replay (w :: ws) = (st.insert w.1 w.2).replay ws := rfl

theorem replay_append (st : Store) (ws vs : List (String × Value)) :
    st.replay (ws ++ vs) = (st.replay ws).replay vs :=
  List.foldl_append

theorem get?_replay (st : Store) (ws : List (String × Value)) (s : String) :
    (st.replay ws).get? s = (ws.reverse.lookup s).or (st.get? s) := by
  induction ws generalizing st with
  | nil => simp
  | cons w ws ih =>
    rw [replay_cons, ih, get?_insert, List.reverse_cons, List.lookup_append, Option.or_assoc,
      lookup_cons]
    by_cases hs : s = w.1 <;> simp [hs]

theorem lookup_writes_eq_none_iff {ws : List (String × Value)} {s : String} :
    ws.reverse.lookup s = none ↔ ∀ w ∈ ws, w.1 ≠ s := by
  simp only [List.lookup_eq_none_iff, List.mem_reverse, bne_iff_ne, ne_comm]

theorem get_replay_of_ne {st : Store} {ws : List (String × Value)} {s : String}
    (h : ∀ w ∈ ws, w.1 ≠ s) : (st.replay ws).get s = st.get s := by
  rw [get, get?_replay, lookup_writes_eq_none_iff.mpr h]
  rfl

theorem get_replay_congr {st st' : Store} {s : String} (h : st.get s = st'.get s)
    (ws : List (String × Value)) : (st.replay ws).get s = (st'.replay ws).get s := by
  rw [get, get, get?_replay, get?_replay]
  cases ws.reverse.lookup s with
  | none => exact h
  | some v => rfl

theorem replay_comm {ws vs : List (String × Value)} (h : ∀ w ∈ ws, ∀ v ∈ vs, w.1 ≠ v.1)
    (st : Store) : (st.replay ws).replay vs = (st.replay vs).replay ws := by
  refine ext_get? fun s => ?_
  simp only [get?_replay]
  cases hws : ws.reverse.lookup s with
  | none => rfl
  | some x =>
    have hvs : vs.reverse.lookup s = none := by
      rw [lookup_writes_eq_none_iff]
      rintro v hv rfl
      rw [lookup_writes_eq_none_iff.mpr fun w hw => h w hw v hv] at hws
      cases hws
    rw [hvs]
    rfl

end Store

/-! ## What evaluation writes -/

namespace Evaluation

/-- The store changed by the writes alone. -/
def Replays (st : Store) (e : Evaluation) : Prop := e.store = st.replay e.writes

theorem Replays.andThen {st : Store} {e : Evaluation} {next : Value → Store → Evaluation}
    (h : e.Replays st) (hnext : ∀ v, (next v e.store).Replays e.store) :
    (e.andThen next).Replays st := by
  cases he : e.result with
  | error err => rwa [andThen_of_error he]
  | ok v =>
    rw [Replays, store_andThen_of_ok he, writes_andThen_of_ok he, Store.replay_append, ← h]
    exact hnext v

theorem mem_writes_andThen {e : Evaluation} {next : Value → Store → Evaluation}
    {w : String × Value} (h : w ∈ (e.andThen next).writes) :
    w ∈ e.writes ∨ ∃ v, w ∈ (next v e.store).writes := by
  cases he : e.result with
  | error err =>
    rw [andThen_of_error he] at h
    exact .inl h
  | ok v =>
    rw [writes_andThen_of_ok he] at h
    exact (List.mem_append.mp h).imp_right fun h => ⟨v, h⟩

end Evaluation

namespace Expr

theorem replays_evaluate (e : Expr) (st : Store) : (e.evaluate st).Replays st := by
  induction e generalizing st with
  | number | bool | name | quit => rfl
  | assign s e ih => exact (ih st).andThen fun v => rfl
  | negate e ih => exact (ih st).andThen fun v => rfl
  | arith op l r ihl ihr | compare op l r ihl ihr =>
    exact (ihl st).andThen fun a => (ihr _).andThen fun b => rfl

theorem mem_targets_of_mem_writes {e : Expr} {st : Store} {w : String × Value}
    (h : w ∈ (e.evaluate st).writes) : w.1 ∈ e.targets := by
  induction e generalizing st with
  | number | bool | name | quit => cases h
  | assign s e ih =>
    rw [targets, List.mem_append]
    obtain h | ⟨v, h⟩ := Evaluation.mem_writes_andThen h
    · exact .inl (ih h)
    · obtain rfl := List.mem_singleton.mp h
      exact .inr List.mem_cons_self
  | negate e ih =>
    obtain h | ⟨v, h⟩ := Evaluation.mem_writes_andThen h
    · exact ih h
    · cases h
  | arith op l r ihl ihr | compare op l r ihl ihr =>
    rw [targets, List.mem_append]
    obtain h | ⟨a, h⟩ := Evaluation.mem_writes_andThen h
    · exact .inl (ihl h)
    · obtain h | ⟨b, h⟩ := Evaluation.mem_writes_andThen h
      · exact .inr (ihr h)
      · cases h

end Expr

end Calculator
