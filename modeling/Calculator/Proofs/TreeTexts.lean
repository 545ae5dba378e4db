import Calculator.Expr
import Calculator.Proofs.Numerals

/-!
# Texts of trees

The text of a tree has one reading. A leaf is one word, and everything else is in parentheses, with
its operator as the first word. So it is seen in a text where the tree at its front ends, whatever
follows, and `(- x)` is no beginning of `(- x y)`.

Floats are left out. A name must look like one, and `true` and `false` are no names.
-/

namespace Calculator

/-! ## Words -/

/-- The characters that stand behind words. -/
def endsWord (c : Char) : Bool := c = ' ' || c = ')'

/-- No word goes on into this text. -/
def EndsWord (rest : List Char) : Prop := ∀ c ∈ rest.head?, endsWord c

theorem endsWord_nil : EndsWord [] := by simp [EndsWord]

theorem endsWord_paren (rest : List Char) : EndsWord (')' :: rest) := by simp [EndsWord, endsWord]

theorem word_append_inj {w v rest rest' : List Char} (hw : ∀ c ∈ w, endsWord c = false)
    (hv : ∀ c ∈ v, endsWord c = false) (hrest : EndsWord rest) (hrest' : EndsWord rest')
    (h : w ++ rest = v ++ rest') : w = v ∧ rest = rest' := by
  have hword {u r : List Char} (hu : ∀ c ∈ u, endsWord c = false) (hr : EndsWord r) :
      (u ++ r).takeWhile (fun c => !endsWord c) = u :=
    takeWhile_append_of_head? (by simpa using hu) (by simpa [EndsWord] using hr)
  obtain rfl : w = v := by rw [← hword hw hrest, h, hword hv hrest']
  exact ⟨rfl, List.append_cancel_left h⟩

/-! ## Integers -/

theorem isDigit_or_minus_of_mem_intText {i : Int} {c : Char} (h : c ∈ (intText i).toList) :
    c.isDigit ∨ c = '-' := by
  have hdigits : ∀ n, ∀ d ∈ (natText n).toList, d.isDigit := by
    intro n d hd
    rw [toList_natText] at hd
    exact Nat.isDigit_of_mem_toDigits (by decide) (by decide) hd
  unfold intText at h
  split at h
  · rw [String.toList_append, List.mem_append] at h
    rcases h with h | h
    · exact .inr (by simpa using h)
    · exact .inl (hdigits _ c h)
  · exact .inl (hdigits _ c h)

theorem natText_injective {m n : Nat} (h : natText m = natText n) : m = n := by
  have hdigits := congrArg (fun s => Nat.ofDigitChars 10 s.toList 0) h
  simpa [Nat.ofDigitChars_toDigits] using hdigits

theorem natText_ne_minus (m n : Nat) : natText m ≠ "-" ++ natText n := by
  intro h
  have hminus : '-' ∈ (natText m).toList := by simp [h]
  rw [toList_natText] at hminus
  have hdigit := Nat.isDigit_of_mem_toDigits (by decide) (by decide) hminus
  exact absurd hdigit (by decide)

theorem intText_injective {i j : Int} (h : intText i = intText j) : i = j := by
  unfold intText at h
  split at h <;> split at h
  · have := natText_injective ((String.append_right_inj _).mp h)
    omega
  · exact absurd h.symm (natText_ne_minus _ _)
  · exact absurd h (natText_ne_minus _ _)
  · have := natText_injective h
    omega

/-! ## Leaves -/

/-- The names that a text tells from the other leaves. -/
def IsVariable (s : String) : Prop :=
  TokenKind.name.Written s.toList ∧ ∀ b, s ≠ boolText b

instance (s : String) : Decidable (IsVariable s) :=
  inferInstanceAs (Decidable (TokenKind.name.Written s.toList ∧ ∀ b, s ≠ boolText b))

namespace Expr

/-- The leaves that have a text of their own. -/
inductive Leaf : Expr → Prop where
  | integer (n : Int64) : Leaf (.number (.integer n))
  | bool (b : Bool) : Leaf (.bool b)
  | name {s : String} (isVariable : IsVariable s) : Leaf (.name s)

variable {e f : Expr}

theorem Leaf.mem_text (h : e.Leaf) {c : Char} (hc : c ∈ e.text.toList) :
    isNamePart c ∨ c = '-' := by
  cases h with
  | integer n => exact (isDigit_or_minus_of_mem_intText hc).imp_left TokenKind.isNamePart_of_isDigit
  | bool b =>
    have hparts : ∀ b, (boolText b).toList.all isNamePart := by decide
    exact .inl (List.all_eq_true.mp (hparts b) c hc)
  | name hs => exact .inl (hs.1.isNamePart_of_mem hc)

theorem Leaf.endsWord_eq_false (h : e.Leaf) : ∀ c ∈ e.text.toList, endsWord c = false := by
  intro c hc
  rw [Bool.eq_false_iff]
  intro hends
  rw [endsWord, Bool.or_eq_true, decide_eq_true_eq, decide_eq_true_eq] at hends
  rcases hends with rfl | rfl <;> exact absurd (h.mem_text hc) (by decide)

theorem Leaf.exists_isAlpha_or (h : e.Leaf) :
    (∃ n, e = .number (.integer n)) ∨ ∃ c ∈ e.text.toList, c.isAlpha := by
  cases h with
  | integer n => exact .inl ⟨n, rfl⟩
  | bool b =>
    have hletters : ∀ b, (boolText b).toList.any Char.isAlpha := by decide
    exact .inr (List.any_eq_true.mp (hletters b))
  | name hs => exact .inr hs.1.exists_isAlpha

theorem Leaf.eq_integer_of_text_eq (h : e.Leaf) {n : Int64}
    (ht : e.text = (Expr.number (.integer n)).text) : e = .number (.integer n) := by
  obtain ⟨m, rfl⟩ | ⟨c, hc, hletter⟩ := h.exists_isAlpha_or
  · rw [Int64.toInt_inj.mp (intText_injective ht)]
  · rw [ht] at hc
    rcases isDigit_or_minus_of_mem_intText hc with hc | rfl
    · exact absurd hletter (not_isAlpha_of_isDigit hc)
    · exact absurd hletter (by decide)

theorem Leaf.eq_of_text_eq (he : e.Leaf) (hf : f.Leaf) (h : e.text = f.text) : e = f := by
  cases hf with
  | integer n => exact he.eq_integer_of_text_eq h
  | bool b =>
    cases he with
    | integer m => exact ((Leaf.bool b).eq_integer_of_text_eq h.symm).symm
    | bool a =>
      have hinjective : ∀ a b, boolText a = boolText b → a = b := by decide
      rw [hinjective a b h]
    | name hs => exact absurd h (hs.2 b)
  | name ht =>
    cases he with
    | integer m => exact ((Leaf.name ht).eq_integer_of_text_eq h.symm).symm
    | bool a => exact absurd h.symm (ht.2 a)
    | name hs => exact congrArg Expr.name h

/-! ## Operators and what stands behind them -/

/-- The first word in the parentheses of a tree. -/
def operator? : Expr → Option String
  | .assign _ _ => some ":="
  | .negate _ => some "-"
  | .arith op _ _ => some op.text
  | .compare op _ _ => some op.text
  | .quit => some "quit"
  | _ => none

/-- The trees behind the operator. An assignment has its name among them. -/
def items : Expr → List Expr
  | .assign s e => [.name s, e]
  | .negate e => [e]
  | .arith _ l r => [l, r]
  | .compare _ l r => [l, r]
  | _ => []

/-- The tree with this operator and these items. -/
def ofItems? : String → List Expr → Option Expr
  | ":=", [.name s, e] => some (.assign s e)
  | "-", [e] => some (.negate e)
  | "+", [l, r] => some (.arith .add l r)
  | "-", [l, r] => some (.arith .sub l r)
  | "*", [l, r] => some (.arith .mul l r)
  | "/", [l, r] => some (.arith .div l r)
  | "=", [l, r] => some (.compare .eq l r)
  | "<>", [l, r] => some (.compare .ne l r)
  | ">=", [l, r] => some (.compare .ge l r)
  | "<=", [l, r] => some (.compare .le l r)
  | "<", [l, r] => some (.compare .lt l r)
  | ">", [l, r] => some (.compare .gt l r)
  | "quit", [] => some .quit
  | _, _ => none

theorem ofItems?_items {w : String} (h : e.operator? = some w) : ofItems? w e.items = some e := by
  cases e with
  | number | bool | name => cases h
  | assign | negate | quit => cases h; rfl
  | arith op l r | compare op l r => cases h; cases op <;> rfl

theorem eq_of_items {w : String} (he : e.operator? = some w) (hf : f.operator? = some w)
    (h : e.items = f.items) : e = f := by
  have hitems := ofItems?_items he
  rw [h, ofItems?_items hf] at hitems
  exact (Option.some.inj hitems).symm

theorem endsWord_eq_false_of_operator {w : String} (h : e.operator? = some w) :
    ∀ c ∈ w.toList, endsWord c = false := by
  have hword {w : String} (hw : w.toList.all fun c => !endsWord c) :
      ∀ c ∈ w.toList, endsWord c = false := by simpa using hw
  cases e with
  | number | bool | name => cases h
  | assign | negate | quit => cases h; exact hword (by decide)
  | arith op l r | compare op l r => cases h; exact hword (by cases op <;> decide)

/-- The items of a tree as they stand in its text. -/
def itemsText (es : List Expr) : List Char := es.flatMap fun e => ' ' :: e.text.toList

theorem toList_text_of_operator {w : String} (h : e.operator? = some w) :
    e.text.toList = '(' :: (w.toList ++ (itemsText e.items ++ [')'])) := by
  cases e with
  | number | bool | name => cases h
  | assign | negate | quit | arith | compare => cases h; simp [text, items, itemsText]

theorem endsWord_items (es : List Expr) (rest : List Char) :
    EndsWord (itemsText es ++ ')' :: rest) := by
  cases es with
  | nil => exact endsWord_paren rest
  | cons e es => simp [EndsWord, itemsText, endsWord]

/-! ## Reading a text -/

/-- The trees that can be told from their texts: without floats, and with variables for names. -/
def Legible : Expr → Prop
  | .number (.integer _) => True
  | .number (.float _) => False
  | .bool _ => True
  | .name s => IsVariable s
  | .assign s e => IsVariable s ∧ e.Legible
  | .negate e => e.Legible
  | .arith _ l r => l.Legible ∧ r.Legible
  | .compare _ l r => l.Legible ∧ r.Legible
  | .quit => True

instance decidableLegible : DecidablePred Legible
  | .number (.integer _) | .bool _ | .quit => isTrue trivial
  | .number (.float _) => isFalse id
  | .name s => inferInstanceAs (Decidable (IsVariable s))
  | .assign s e =>
    have := decidableLegible e
    inferInstanceAs (Decidable (IsVariable s ∧ e.Legible))
  | .negate e => decidableLegible e
  | .arith _ l r | .compare _ l r =>
    have := decidableLegible l
    have := decidableLegible r
    inferInstanceAs (Decidable (l.Legible ∧ r.Legible))

/-- Where the text of this tree stands at the front, no other tree does. -/
def ReadsOnce (e : Expr) : Prop :=
  ∀ (f : Expr) (rest rest' : List Char), f.Legible → EndsWord rest → EndsWord rest' →
    e.text.toList ++ rest = f.text.toList ++ rest' → e = f ∧ rest = rest'

theorem Legible.leaf_or_operator (h : e.Legible) : e.Leaf ∨ ∃ w, e.operator? = some w := by
  cases e with
  | number n =>
    cases n with
    | integer n => exact .inl (.integer n)
    | float x => exact h.elim
  | bool b => exact .inl (.bool b)
  | name s => exact .inl (.name h)
  | assign | negate | arith | compare | quit => exact .inr ⟨_, rfl⟩

theorem Legible.items (h : e.Legible) : ∀ i ∈ e.items, i.Legible := by
  cases e with
  | number | bool | name | quit => simp [Expr.items]
  | assign | negate | arith | compare => simpa [Expr.items, Legible] using h

theorem Leaf.text_ne_of_operator (he : e.Leaf) {w : String} (hf : f.operator? = some w)
    {rest rest' : List Char} (hrest : EndsWord rest) :
    e.text.toList ++ rest ≠ f.text.toList ++ rest' := by
  rw [toList_text_of_operator hf]
  intro h
  cases htext : e.text.toList with
  | nil =>
    rw [htext, List.nil_append] at h
    exact absurd (hrest '(' (by simp [h])) (by decide)
  | cons c cs =>
    rw [htext] at h
    obtain rfl : c = '(' := (List.cons.inj h).1
    exact absurd (he.mem_text (htext ▸ List.mem_cons_self)) (by decide)

theorem Leaf.readsOnce (he : e.Leaf) : e.ReadsOnce := by
  intro f rest rest' hf hrest hrest' h
  obtain hf | ⟨w, hw⟩ := hf.leaf_or_operator
  · obtain ⟨htext, hrests⟩ :=
      word_append_inj he.endsWord_eq_false hf.endsWord_eq_false hrest hrest' h
    exact ⟨he.eq_of_text_eq hf (String.toList_injective htext), hrests⟩
  · exact absurd h (he.text_ne_of_operator hw hrest)

theorem itemsText_inj {es fs : List Expr} (hes : ∀ e ∈ es, e.ReadsOnce)
    (hfs : ∀ f ∈ fs, f.Legible) {rest rest' : List Char}
    (h : itemsText es ++ ')' :: rest = itemsText fs ++ ')' :: rest') : es = fs ∧ rest = rest' := by
  induction es generalizing fs with
  | nil =>
    cases fs with
    | nil => exact ⟨rfl, by simpa [itemsText] using h⟩
    | cons f fs => simp [itemsText] at h
  | cons e es ih =>
    cases fs with
    | nil => simp [itemsText] at h
    | cons f fs =>
      rw [List.forall_mem_cons] at hes hfs
      have hcons : e.text.toList ++ (itemsText es ++ ')' :: rest) =
          f.text.toList ++ (itemsText fs ++ ')' :: rest') := by simpa [itemsText] using h
      obtain ⟨rfl, hitems⟩ :=
        hes.1 f _ _ hfs.1 (endsWord_items es rest) (endsWord_items fs rest') hcons
      obtain ⟨rfl, hrests⟩ := ih hes.2 hfs.2 hitems
      exact ⟨rfl, hrests⟩

theorem readsOnce_of_operator {w : String} (hw : e.operator? = some w)
    (hitems : ∀ i ∈ e.items, i.ReadsOnce) : e.ReadsOnce := by
  intro f rest rest' hf hrest hrest' h
  obtain hleaf | ⟨v, hv⟩ := hf.leaf_or_operator
  · exact absurd h.symm (hleaf.text_ne_of_operator hw hrest')
  · rw [toList_text_of_operator hw, toList_text_of_operator hv] at h
    have hwords : w.toList ++ (itemsText e.items ++ ')' :: rest) =
        v.toList ++ (itemsText f.items ++ ')' :: rest') := by simpa using h
    obtain ⟨hwv, hbehind⟩ := word_append_inj (endsWord_eq_false_of_operator hw)
      (endsWord_eq_false_of_operator hv) (endsWord_items _ _) (endsWord_items _ _) hwords
    obtain rfl := String.toList_injective hwv
    obtain ⟨hsame, hrests⟩ := itemsText_inj hitems hf.items hbehind
    exact ⟨eq_of_items hw hv hsame, hrests⟩

theorem Legible.readsOnce (h : e.Legible) : e.ReadsOnce := by
  induction e with
  | number n =>
    cases n with
    | integer n => exact (Leaf.integer n).readsOnce
    | float x => exact h.elim
  | bool b => exact (Leaf.bool b).readsOnce
  | name s => exact (Leaf.name h).readsOnce
  | assign s e ih =>
    refine readsOnce_of_operator rfl ?_
    simpa [Expr.items] using ⟨(Leaf.name h.1).readsOnce, ih h.2⟩
  | negate e ih =>
    refine readsOnce_of_operator rfl ?_
    simpa [Expr.items] using ih h
  | arith op l r ihl ihr | compare op l r ihl ihr =>
    refine readsOnce_of_operator rfl ?_
    simpa [Expr.items] using ⟨ihl h.1, ihr h.2⟩
  | quit => exact readsOnce_of_operator rfl (by simp [Expr.items])

/-- Trees with the same text are the same. -/
theorem eq_of_legible_text_eq {m n : Expr} (hm : m.Legible) (hn : n.Legible)
    (h : m.text = n.text) : m = n :=
  (hm.readsOnce n [] [] hn endsWord_nil endsWord_nil (by rw [h])).1

/-- A minus sign with a space behind it is an operator, and one with a digit behind it is a sign. -/
theorem eq_of_legible_text_eq_of_minus :
    Legible (.arith .sub (.number (.integer (-1))) (.negate (.name "true1"))) ∧
      Legible (.arith .sub (.number (Number.integer 1).negate) (.negate (.name "true1"))) ∧
      text (.arith .sub (.number (Number.integer 1).negate) (.negate (.name "true1"))) =
        "(- -1 (- true1))" ∧
      Expr.arith .sub (.number (.integer (-1))) (.negate (.name "true1")) =
        .arith .sub (.number (Number.integer 1).negate) (.negate (.name "true1")) := by
  have hm : Legible (.arith .sub (.number (.integer (-1))) (.negate (.name "true1"))) := by
    decide +kernel
  have hn :
      Legible (.arith .sub (.number (Number.integer 1).negate) (.negate (.name "true1"))) := by
    decide +kernel
  have htext : text (.arith .sub (.number (Number.integer 1).negate) (.negate (.name "true1"))) =
      "(- -1 (- true1))" := by decide +kernel
  have htext' : text (.arith .sub (.number (.integer (-1))) (.negate (.name "true1"))) =
      "(- -1 (- true1))" := by decide +kernel
  exact ⟨hm, hn, htext, eq_of_legible_text_eq hm hn (htext'.trans htext.symm)⟩

end Expr

end Calculator
