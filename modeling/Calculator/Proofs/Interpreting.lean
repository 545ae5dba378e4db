import Calculator.Interpreter

/-! # The stages of a statement -/

namespace Calculator

/-- The three ways that interpreting a statement can go. -/
theorem interpret_cases (source : String) (st : Store) :
    (∃ err, scan source = .error err ∧ (interpret source st).result = .error (.scan err) ∧
      (interpret source st).store = st) ∨
    (∃ tokens err, scan source = .ok tokens ∧ parse tokens = .error err ∧
      (interpret source st).result = .error (.parse err) ∧ (interpret source st).store = st) ∨
    ∃ tokens tree, scan source = .ok tokens ∧ parse tokens = .ok tree ∧
      (interpret source st).result = (tree.evaluate st).result.mapError .eval ∧
      (interpret source st).store = (tree.evaluate st).store := by
  unfold interpret
  cases hscan : scan source with
  | error err => exact .inl ⟨err, rfl, rfl, rfl⟩
  | ok tokens =>
    refine .inr ?_
    cases hparse : (read tokens).complete with
    | error err => exact .inl ⟨tokens, err, rfl, hparse, by simp [hparse]⟩
    | ok tree =>
      refine .inr ⟨tokens, tree, rfl, hparse, ?_⟩
      cases hresult : (tree.evaluate st).result with
      | error err =>
        simp only [hparse, hresult, and_true]
        rfl
      | ok v =>
        simp only [hparse, hresult, and_true]
        rfl

section Scanned

variable {source : String} {tokens : List Token} (hscan : scan source = .ok tokens) (st : Store)

include hscan

theorem interpret_of_parse_error {err : ParseError} (hparse : parse tokens = .error err) :
    (interpret source st).result = .error (.parse err) ∧ (interpret source st).store = st := by
  obtain ⟨err', h, -⟩ | ⟨us, err', h, hp, hresult, hstore⟩ | ⟨us, e, h, hp, -⟩ :=
    interpret_cases source st
  all_goals
    rw [hscan] at h
    cases h
  · rw [hparse] at hp
    cases hp
    exact ⟨hresult, hstore⟩
  · rw [hparse] at hp
    cases hp

theorem interpret_of_parse {tree : Expr} (hparse : parse tokens = .ok tree) :
    (interpret source st).result = (tree.evaluate st).result.mapError .eval ∧
      (interpret source st).store = (tree.evaluate st).store := by
  obtain ⟨err, h, -⟩ | ⟨us, err, h, hp, -⟩ | ⟨us, e, h, hp, hresult, hstore⟩ :=
    interpret_cases source st
  all_goals
    rw [hscan] at h
    cases h
  · rw [hparse] at hp
    cases hp
  · rw [hparse] at hp
    cases hp
    exact ⟨hresult, hstore⟩

end Scanned

theorem interpret_congr {s t : String} {us vs : List Token} (hs : scan s = .ok us)
    (ht : scan t = .ok vs) (h : parse us = parse vs) (st : Store) :
    (interpret s st).result = (interpret t st).result ∧
      (interpret s st).store = (interpret t st).store := by
  cases hparse : parse vs with
  | error err =>
    obtain ⟨hs, hstore⟩ := interpret_of_parse_error hs st (h.trans hparse)
    obtain ⟨ht, htstore⟩ := interpret_of_parse_error ht st hparse
    exact ⟨hs.trans ht.symm, hstore.trans htstore.symm⟩
  | ok tree =>
    obtain ⟨hs, hstore⟩ := interpret_of_parse hs st (h.trans hparse)
    obtain ⟨ht, htstore⟩ := interpret_of_parse ht st hparse
    exact ⟨hs.trans ht.symm, hstore.trans htstore.symm⟩

end Calculator
