import Calculator.Proofs.Arithmetic

/-!
# Undefined operands

A variable that holds nothing spoils all arithmetic over it. The result is the float that is not a
number, and this spoils in turn whatever is computed from it. It has no place in the order of
numbers, so no comparison with it holds but that the two differ. Without such a variable arithmetic
comes to a number.
-/

namespace Calculator

open Float.Model (UnpackedFloat)

/-! ## The float that is not a number -/

def notANumber : Float := .ofModel (.pack .notANumber)

theorem unpack_notANumber : notANumber.toModel.unpack = .notANumber := rfl

namespace ArithOp

theorem float_notANumber_left (op : ArithOp) (x : Float) : op.float notANumber x = notANumber := by
  cases op <;> rfl

theorem float_notANumber_right (op : ArithOp) (x : Float) : op.float x notANumber = notANumber := by
  have hpack (f : UnpackedFloat → UnpackedFloat → UnpackedFloat)
      (hf : ∀ u, f u .notANumber = .notANumber) :
      Float.ofModel (.pack (f x.toModel.unpack notANumber.toModel.unpack)) = notANumber := by
    rw [unpack_notANumber, hf]
    rfl
  cases op with
  | add => exact hpack (.add .binary64) fun u => by cases u <;> rfl
  | sub => exact hpack (.sub .binary64) fun u => by cases u <;> rfl
  | mul => exact hpack (.mul .binary64) fun u => by cases u <;> rfl
  | div => exact hpack (.div .binary64) fun u => by cases u <;> rfl

end ArithOp

theorem compare_model_notANumber_left (x : Float) :
    Float.Model.compare notANumber.toModel x.toModel = none := rfl

theorem compare_model_notANumber_right (x : Float) :
    Float.Model.compare x.toModel notANumber.toModel = none := by
  have hnone (u : UnpackedFloat) : u.compare notANumber.toModel.unpack = none := by
    cases u <;> rfl
  exact hnone _

/-! ## Poison -/

namespace Value

theorem notANumber_eq : notANumber = .number (.float Calculator.notANumber) := rfl

/-- The values that arithmetic makes `notANumber` of. -/
inductive IsPoison : Value → Prop where
  | undefined : IsPoison .undefined
  | notANumber : IsPoison notANumber

variable {l r : Value}

theorem IsPoison.isOperand (h : l.IsPoison) : l.IsOperand := by
  cases h with
  | undefined => exact .undefined
  | notANumber => exact .number _

theorem negate_of_isPoison (h : l.IsPoison) : l.negate = .ok notANumber := by
  cases h <;> rfl

theorem arith_of_isPoison_left (op : ArithOp) (hl : l.IsPoison) (hr : r.IsOperand) :
    arith op l r = .ok notANumber := by
  cases hl with
  | undefined => cases hr <;> rfl
  | notANumber =>
    cases hr with
    | number n => rw [notANumber_eq, arith_float_left op _ rfl, op.float_notANumber_left]
    | undefined => rfl

theorem arith_of_isPoison_right (op : ArithOp) (hl : l.IsOperand) (hr : r.IsPoison) :
    arith op l r = .ok notANumber := by
  cases hr with
  | undefined => cases hl <;> rfl
  | notANumber =>
    cases hl with
    | number n => rw [notANumber_eq, arith_float_right op _ rfl, op.float_notANumber_right]
    | undefined => rfl

theorem compare_notANumber_left (op : CompareOp) (hr : r.IsOperand) :
    compare op notANumber r = .ok (op = .ne) := by
  rw [← CompareOp.holds_none op]
  cases hr with
  | number n => rw [notANumber_eq, compare_float_left op _ rfl, compare_model_notANumber_left]
  | undefined => rfl

theorem compare_notANumber_right (op : CompareOp) (hl : l.IsOperand) :
    compare op l notANumber = .ok (op = .ne) := by
  rw [← CompareOp.holds_none op]
  cases hl with
  | number n => rw [notANumber_eq, compare_float_right op _ rfl, compare_model_notANumber_right]
  | undefined => rfl

end Value

/-! ## Trees -/

namespace Expr

/-- What an arithmetic tree comes to, by what the names in it hold. -/
inductive ComesTo (st : Store) (e : Expr) : Value → Prop where
  | number (n : Number) (defined : ∀ s ∈ e.reads, st.get s ≠ .undefined) : ComesTo st e (.number n)
  | undefined {s : String} (name : e = .name s) (unassigned : st.get s = .undefined) :
      ComesTo st e .undefined
  | notANumber {s : String} (compound : ∀ t, e ≠ .name t) (mem : s ∈ e.reads)
      (unassigned : st.get s = .undefined) : ComesTo st e .notANumber

variable {st : Store} {e l r : Expr} {a b v : Value}

theorem ComesTo.isOperand (h : e.ComesTo st v) : v.IsOperand := by
  cases h with
  | number n => exact .number n
  | undefined => exact .undefined
  | notANumber => exact .number _

theorem ComesTo.number_or_isPoison (h : e.ComesTo st v) :
    (∃ n, v = .number n ∧ ∀ s ∈ e.reads, st.get s ≠ .undefined) ∨
      v.IsPoison ∧ ∃ s ∈ e.reads, st.get s = .undefined := by
  cases h with
  | number n defined => exact .inl ⟨n, rfl, defined⟩
  | undefined name unassigned =>
    subst name
    exact .inr ⟨.undefined, _, List.mem_cons_self, unassigned⟩
  | notANumber _ mem unassigned => exact .inr ⟨.notANumber, _, mem, unassigned⟩

theorem comesTo_name (s : String) (h : (st.get s).IsOperand) :
    (Expr.name s).ComesTo st (st.get s) := by
  generalize hv : st.get s = v at h
  cases h with
  | number n => exact .number n (by simp [reads, hv])
  | undefined => exact .undefined rfl hv

theorem ComesTo.negate (h : e.ComesTo st v) :
    ∃ w, v.negate = .ok w ∧ (Expr.negate e).ComesTo st w := by
  obtain ⟨n, rfl, defined⟩ | ⟨hpoison, s, mem, unassigned⟩ := h.number_or_isPoison
  · exact ⟨.number n.negate, rfl, .number _ defined⟩
  · exact ⟨_, Value.negate_of_isPoison hpoison, .notANumber (by simp) mem unassigned⟩

theorem ComesTo.arith (op : ArithOp) (hl : l.ComesTo st a) (hr : r.ComesTo st b) :
    ∃ w, Value.arith op a b = .ok w ∧ (Expr.arith op l r).ComesTo st w := by
  obtain ⟨m, rfl, ldefined⟩ | ⟨hpoison, s, mem, unassigned⟩ := hl.number_or_isPoison
  · obtain ⟨n, rfl, rdefined⟩ | ⟨hpoison, s, mem, unassigned⟩ := hr.number_or_isPoison
    · refine ⟨.number (Number.apply op m n), rfl, .number _ ?_⟩
      intro s hs
      exact (List.mem_append.mp hs).elim (ldefined s) (rdefined s)
    · exact ⟨_, Value.arith_of_isPoison_right op hl.isOperand hpoison,
        .notANumber (by simp) (List.mem_append_right _ mem) unassigned⟩
  · exact ⟨_, Value.arith_of_isPoison_left op hpoison hr.isOperand,
      .notANumber (by simp) (List.mem_append_left _ mem) unassigned⟩

theorem Arithmetic.comesTo (h : e.Arithmetic) (hst : st.OperandsAt e.reads) :
    ∃ v, (e.evaluate st).result = .ok v ∧ e.ComesTo st v := by
  induction h with
  | number n => exact ⟨.number n, rfl, .number n (by simp [reads])⟩
  | name s => exact ⟨st.get s, rfl, comesTo_name s (hst s List.mem_cons_self)⟩
  | negate _ ih =>
    obtain ⟨v, he, hv⟩ := ih hst
    obtain ⟨w, hw, hcomes⟩ := hv.negate
    exact ⟨w, by rw [result_negate, he]; exact hw, hcomes⟩
  | arith op hl _ ihl ihr =>
    obtain ⟨a, hae, ha⟩ := ihl fun s hs => hst s (List.mem_append_left _ hs)
    obtain ⟨b, hbe, hb⟩ := ihr fun s hs => hst s (List.mem_append_right _ hs)
    obtain ⟨w, hw, hcomes⟩ := ha.arith op hb
    exact ⟨w, by rw [result_arith hl.targets, hae, hbe]; exact hw, hcomes⟩

theorem Arithmetic.result (h : e.Arithmetic) (hst : st.OperandsAt e.reads) :
    ∃ v, (e.evaluate st).result = .ok v ∧ v.IsOperand := by
  obtain ⟨v, he, hv⟩ := h.comesTo hst
  exact ⟨v, he, hv.isOperand⟩

theorem Arithmetic.result_compare (hl : l.Arithmetic) (hr : r.Arithmetic)
    (hlst : st.OperandsAt l.reads) (hrst : st.OperandsAt r.reads) (op : CompareOp) :
    ∃ holds, ((Expr.compare op l r).evaluate st).result = .ok (.bool holds) := by
  obtain ⟨a, hae, ha⟩ := hl.result hlst
  obtain ⟨b, hbe, hb⟩ := hr.result hrst
  obtain ⟨holds, hc⟩ := Value.compare_of_isOperand op ha hb
  exact ⟨holds, result_compare_of_ok hl.targets hae hbe hc⟩

/-- Over operands an arithmetic tree has a value. If it reads an undefined name and is more than
that name, the value is not a number, and its comparisons with arithmetic trees are all false but
that the two differ. If it reads no undefined name, the value is a number. -/
theorem Arithmetic.undefined_poisons (he : e.Arithmetic) (hst : st.OperandsAt e.reads) :
    (∃ v, (e.evaluate st).result = .ok v) ∧
    ((∀ s, e ≠ .name s) → (∃ s ∈ e.reads, st.get s = .undefined) →
      (e.evaluate st).result = .ok .notANumber ∧
      ∀ (f : Expr) (op : CompareOp), f.Arithmetic → st.OperandsAt f.reads →
        ((Expr.compare op e f).evaluate st).result = .ok (.bool (op = .ne)) ∧
        ((Expr.compare op f e).evaluate st).result = .ok (.bool (op = .ne))) ∧
    ((∀ s ∈ e.reads, st.get s ≠ .undefined) → ∃ n, (e.evaluate st).result = .ok (.number n)) := by
  obtain ⟨v, hv, hcomes⟩ := he.comesTo hst
  refine ⟨⟨v, hv⟩, ?_, ?_⟩
  · intro hcompound hundefined
    have hresult : (e.evaluate st).result = .ok .notANumber := by
      cases hcomes with
      | number n defined =>
        obtain ⟨s, hs, hget⟩ := hundefined
        exact absurd hget (defined s hs)
      | undefined name => exact absurd name (hcompound _)
      | notANumber => exact hv
    refine ⟨hresult, fun f op hf hfst => ?_⟩
    obtain ⟨w, hw, hoperand⟩ := hf.result hfst
    exact ⟨result_compare_of_ok he.targets hresult hw (Value.compare_notANumber_left op hoperand),
      result_compare_of_ok hf.targets hw hresult (Value.compare_notANumber_right op hoperand)⟩
  · intro hdefined
    obtain ⟨n, rfl, -⟩ | ⟨-, s, hs, hget⟩ := hcomes.number_or_isPoison
    · exact ⟨n, hv⟩
    · exact absurd hget (hdefined s hs)

/-- `-x / 0` with nothing in `x` differs from `y`, in which there is nothing either. -/
theorem Arithmetic.undefined_poisons_quotient :
    Arithmetic (.arith .div (.negate (.name "x")) (.number (.integer 0))) ∧
      Store.empty.OperandsAt ["x"] ∧ Store.empty.get "x" = .undefined ∧
      ((Expr.arith .div (.negate (.name "x")) (.number (.integer 0))).evaluate .empty).result =
        .ok .notANumber ∧
      ((Expr.compare .ne (.arith .div (.negate (.name "x")) (.number (.integer 0)))
        (.name "y")).evaluate .empty).result = .ok (.bool true) ∧
      ((Expr.compare .eq (.name "y")
        (.arith .div (.negate (.name "x")) (.number (.integer 0)))).evaluate .empty).result =
          .ok (.bool false) := by
  have htree : Arithmetic (.arith .div (.negate (.name "x")) (.number (.integer 0))) :=
    .arith .div (.negate (.name "x")) (.number (.integer 0))
  have hst := Store.operands_empty.at
  obtain ⟨-, hpoison, -⟩ := htree.undefined_poisons (hst _)
  obtain ⟨hresult, hcompare⟩ := hpoison (by simp) ⟨"x", by decide, rfl⟩
  exact ⟨htree, hst _, rfl, hresult, (hcompare (.name "y") .ne (.name "y") (hst _)).1,
    (hcompare (.name "y") .eq (.name "y") (hst _)).2⟩

end Expr

end Calculator
