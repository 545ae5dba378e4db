import Calculator.Proofs.Numerals
import Calculator.Proofs.Parsing

/-!
# Statements that are one number

Digits with or without a fraction are cut off as a whole, and with a semicolon behind them they are
a statement whose tree is one leaf.
-/

namespace Calculator

open Text

/-! ## Reading -/

/-- The source is scanned and parsed to this tree. -/
def Reads (source : String) (e : Expr) : Prop :=
  ∃ ts, scan source = .ok ts ∧ parse ts = .ok e

theorem Reads.unique {source : String} {d e : Expr} (hd : Reads source d) (he : Reads source e) :
    d = e := by
  obtain ⟨ts, hts, hd⟩ := hd
  obtain ⟨us, hus, he⟩ := he
  obtain rfl := Except.ok.inj (hts.symm.trans hus)
  exact Except.ok.inj (hd.symm.trans he)

theorem Reads.number_iff {source : String} {a b : Number} (h : Reads source (.number a)) :
    Reads source (.number b) ↔ a = b := by
  constructor
  · intro h'
    cases h.unique h'
    rfl
  · rintro rfl
    exact h

/-! ## Numbers in a source -/

theorem reads_number {source : String} {l gap : List Char} {n : Number}
    (hsource : source.toList = l ++ (gap ++ [';'])) (hgap : ∀ c ∈ gap, isBlank c)
    (hnumeral : numeral? (l ++ (gap ++ [';'])) = some l)
    (hvalue : numeralValue? l (gap ++ [';']) = some n) : Reads source (.number n.settle) := by
  have hcuts := TokenKind.cuts_number hnumeral
  have hblank : IsGap [] (l ++ (gap ++ [';'])) := .of_written (by simp) hcuts.written _
  have hcarries := (numeralValue?_eq_some_iff hcuts.written).mp hvalue
  have hspace : IsGap gap [';'] := ⟨hgap, by simp; decide⟩
  have hsemicolon := TokenKind.first?_eq_some_iff.mp (TokenKind.first?_semicolon [])
  have htail : Tiles [] (gap ++ [';']) [.semicolon] :=
    .cons (l := [';']) (t := .semicolon) hspace hsemicolon trivial .nil
  rw [← List.append_nil (gap ++ [';'])] at hblank hcuts hcarries
  have htiles : Tiles [] ([] ++ (l ++ (gap ++ [';']))) [.number n, .semicolon] :=
    .cons (t := .number n) hblank hcuts hcarries htail
  exact ⟨_, scan_eq_ok_iff.mpr ⟨_, [], by simp [hsource], htiles, ⟨by simp, by simp⟩⟩,
    parse_eq_ok_iff.mpr (.sum (.ofProduct (.ofOperand (.number n))))⟩

end Calculator
