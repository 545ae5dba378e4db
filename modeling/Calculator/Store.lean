import Calculator.Value

/-!
# Stores

The variables of a session. A store keeps its names in order, so that two stores with the same
values are equal. A listing sorts its bindings itself and takes them in any order. The order of
strings is that of their code points, which is also that of their bytes in UTF-8.
-/

namespace Calculator

structure Store where
  bindings : List (String × Value)
  sorted : bindings.Pairwise fun a b => a.1 < b.1
deriving DecidableEq

namespace Store

def empty : Store := ⟨[], List.Pairwise.nil⟩

/-- The bindings with `s` bound to `v`, in order. -/
def insertBinding (s : String) (v : Value) : List (String × Value) → List (String × Value)
  | [] => [(s, v)]
  | (t, w) :: rest =>
    if s < t then (s, v) :: (t, w) :: rest
    else if s = t then (s, v) :: rest
    else (t, w) :: insertBinding s v rest

theorem mem_insertBinding {s : String} {v : Value} {bs : List (String × Value)}
    {b : String × Value} (h : b ∈ insertBinding s v bs) : b = (s, v) ∨ b ∈ bs := by
  induction bs with
  | nil => simpa [insertBinding] using h
  | cons head rest ih =>
    obtain ⟨t, w⟩ := head
    simp only [insertBinding] at h
    split at h
    · simpa using h
    · split at h
      · rcases List.mem_cons.mp h with h | h
        · exact .inl h
        · exact .inr (List.mem_cons_of_mem _ h)
      · rcases List.mem_cons.mp h with rfl | h
        · exact .inr List.mem_cons_self
        · exact (ih h).imp_right (List.mem_cons_of_mem _)

theorem sorted_insertBinding (s : String) (v : Value) {bs : List (String × Value)}
    (h : bs.Pairwise fun a b => a.1 < b.1) :
    (insertBinding s v bs).Pairwise fun a b => a.1 < b.1 := by
  induction bs with
  | nil => simp [insertBinding]
  | cons head rest ih =>
    obtain ⟨t, w⟩ := head
    obtain ⟨hhead, hrest⟩ := List.pairwise_cons.mp h
    simp only [insertBinding]
    split
    · next hlt =>
      refine List.pairwise_cons.mpr ⟨?_, h⟩
      rintro b hb
      rcases List.mem_cons.mp hb with rfl | hb
      · exact hlt
      · exact String.lt_trans hlt (hhead b hb)
    · split
      · next heq =>
        subst heq
        exact List.pairwise_cons.mpr ⟨hhead, hrest⟩
      · next hnlt hne =>
        refine List.pairwise_cons.mpr ⟨?_, ih hrest⟩
        intro b hb
        rcases mem_insertBinding hb with rfl | hb
        · refine Decidable.byContradiction fun h' => hne ?_
          exact String.le_antisymm (String.not_lt.mp h') (String.not_lt.mp hnlt)
        · exact hhead b hb

def insert (st : Store) (s : String) (v : Value) : Store :=
  ⟨insertBinding s v st.bindings, sorted_insertBinding s v st.sorted⟩

def get? (st : Store) (s : String) : Option Value := st.bindings.lookup s

/-- The value of a variable. One that was never assigned is undefined. -/
def get (st : Store) (s : String) : Value := (st.get? s).getD .undefined

def size (st : Store) : Nat := st.bindings.length

def isEmpty (st : Store) : Bool := st.bindings.isEmpty

/-- The line of one variable. -/
def line (b : String × Value) : String := b.1 ++ " = " ++ b.2.text ++ "\n"

def byName (a b : String × Value) : Bool := a.1 ≤ b.1

/-- One line for each binding, sorted by name. -/
def listing (bs : List (String × Value)) : String := String.join ((bs.mergeSort byName).map line)

def dump (st : Store) : String := listing st.bindings

/-! ## What a store holds after an operation -/

@[simp] theorem get?_empty (s : String) : empty.get? s = none := rfl

theorem lookup_cons (s t : String) (v : Value) (bs : List (String × Value)) :
    ((s, v) :: bs).lookup t = if t = s then some v else bs.lookup t := by
  by_cases h : t = s
  · simp [h]
  · rw [List.lookup_cons, beq_eq_false_iff_ne.mpr h, if_neg h]

theorem lookup_insertBinding (s t : String) (v : Value) (bs : List (String × Value)) :
    (insertBinding s v bs).lookup t = if t = s then some v else bs.lookup t := by
  induction bs with
  | nil => simp [insertBinding, lookup_cons]
  | cons head rest ih =>
    obtain ⟨u, w⟩ := head
    simp only [insertBinding]
    split
    · simp only [lookup_cons]
    · split
      · next heq => subst heq; simp only [lookup_cons]; grind
      · next hne => simp only [lookup_cons, ih]; grind

@[grind =] theorem get?_insert (st : Store) (s t : String) (v : Value) :
    (st.insert s v).get? t = if t = s then some v else st.get? t :=
  lookup_insertBinding s t v st.bindings

@[grind =] theorem get_insert (st : Store) (s t : String) (v : Value) :
    (st.insert s v).get t = if t = s then v else st.get t := by
  simp only [get, get?_insert]
  split <;> rfl

end Store

end Calculator
