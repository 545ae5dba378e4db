import Calculator.Proofs.LineJoining
import Calculator.Proofs.Numerals

/-!
# Scanning undoes printing

Tokens printed one to a line are scanned back to the same tokens. What cannot come back is left out:
the sign of a negative integer is a token of its own, a name that begins with a reserved word is cut
behind it, a float of whole value is printed like an integer, and a comment ends with its line and
comes back trimmed.
-/

namespace Calculator

open Text

/-! ## Tokens whose text can be read back -/

/-- No reserved word stands at the front of the text. -/
def Unreserved (cs : List Char) : Prop :=
  ∀ kind ∈ [TokenKind.quit, .bool], ∀ l, l <+: cs → ¬ kind.Written l

instance (cs : List Char) : Decidable (Unreserved cs) :=
  decidable_of_iff (∀ kind ∈ [TokenKind.quit, .bool], kind.lexeme? cs = none) <| by
    simp only [Unreserved, TokenKind.lexeme?_eq_none_iff]

namespace Token

/-- Whether the text of a token says which token it is. Of names, comments and numbers only some
do. -/
def Legible : Token → Prop
  | .name s => TokenKind.name.Written s.toList ∧ Unreserved s.toList
  | .comment s => ('\n' ∉ s.toList ∧ '\r' ∉ s.toList) ∧ trim s.toList = s.toList
  | .number (.integer n) => 0 ≤ n.toInt
  | .number (.float _) => False
  | _ => True

instance : DecidablePred Legible
  | .name s => inferInstanceAs (Decidable (TokenKind.name.Written s.toList ∧ Unreserved s.toList))
  | .comment s =>
    inferInstanceAs
      (Decidable (('\n' ∉ s.toList ∧ '\r' ∉ s.toList) ∧ trim s.toList = s.toList))
  | .number (.integer n) => inferInstanceAs (Decidable (0 ≤ n.toInt))
  | .number (.float _) => inferInstanceAs (Decidable False)
  | .quit | .bool _ | .assign | .semicolon | .arith _ | .compare _ | .leftParen | .rightParen =>
    inferInstanceAs (Decidable True)

end Token

/-! ## One token -/

theorem TokenKind.cuts_name {cs : List Char} (h : TokenKind.name.Written cs)
    (hreserved : Unreserved cs) : TokenKind.name.Cuts cs cs :=
  ⟨h.longest_self, [.quit, .bool], _, rfl, hreserved⟩

theorem isDigitRun_toDigits (n : Nat) : IsDigitRun (Nat.toDigits 10 n) [] :=
  ⟨fun _ hd => Nat.isDigit_of_mem_toDigits (by decide) (by decide) hd, by simp⟩

theorem cuts_toDigits (n : Nat) :
    TokenKind.number.Cuts (Nat.toDigits 10 n) (Nat.toDigits 10 n) := by
  have h := numeral?_whole Nat.toDigits_ne_nil (isDigitRun_toDigits n) (by simp)
  rw [List.append_nil] at h
  exact TokenKind.cuts_number h

theorem trim_cons_of_isBlank {c : Char} (h : isBlank c) (cs : List Char) :
    trim (c :: cs) = trim cs := by
  have hdrop : dropBlanks (c :: cs) = dropBlanks cs := List.dropWhile_cons_of_pos h
  rw [trim, trim, hdrop]

namespace Token

theorem toList_text_comment (s : String) :
    (Token.comment s).text.toList = '/' :: '/' :: ' ' :: s.toList := by
  simp [text]

theorem toList_text_integer {n : Int64} (h : 0 ≤ n.toInt) :
    (Token.number (.integer n)).text.toList = Nat.toDigits 10 n.toInt.natAbs := by
  have hsign : ¬ n.toInt < 0 := by omega
  simp [text, Number.text, Number.write, intText, hsign]

namespace Legible

theorem cuts_text {t : Token} (h : t.Legible) : t.kind.Cuts t.text.toList t.text.toList := by
  cases t with
  | name s => exact TokenKind.cuts_name h.1 h.2
  | comment s =>
    rw [toList_text_comment]
    refine TokenKind.cuts_comment (by simp) fun c hc => ?_
    rcases List.mem_cons.mp hc with rfl | hc
    · decide
    · exact endsLine_eq_false_of_not_mem h.1 c hc
  | number n =>
    cases n with
    | integer n =>
      rw [toList_text_integer h]
      exact cuts_toDigits _
    | float x => exact h.elim
  | bool b => cases b <;> exact TokenKind.first?_eq_some_iff.mp (by decide)
  | arith op | compare op => cases op <;> exact TokenKind.first?_eq_some_iff.mp (by decide)
  | quit | assign | semicolon | leftParen | rightParen =>
    exact TokenKind.first?_eq_some_iff.mp (by decide)

theorem carries_text {t : Token} (h : t.Legible) : t.Carries t.text.toList [] := by
  cases t with
  | bool b => cases b <;> simp [Carries, text, boolText]
  | name s => exact String.ofList_toList.symm
  | comment s =>
    have htrim : trim (' ' :: s.toList) = s.toList :=
      (trim_cons_of_isBlank (by decide) _).trans h.2
    simp [Carries, toList_text_comment, htrim]
  | number n =>
    cases n with
    | integer n =>
      rw [toList_text_integer h]
      refine ⟨point_not_mem (isDigitRun_toDigits _).digits, ?_⟩
      rw [Nat.ofDigitChars_toDigits (by decide) (by decide)]
      exact (Int.natAbs_of_nonneg h).symm
    | float x => exact h.elim
  | _ => trivial

theorem scan_text {t : Token} (h : t.Legible) : scan t.text = .ok [t] := by
  have hcuts := h.cuts_text
  have hgap : IsGap [] (t.text.toList ++ ([] ++ [])) := .of_written (by simp) hcuts.written _
  have htiles : Tiles [] ([] ++ (t.text.toList ++ [])) [t] :=
    .cons hgap (by simpa using hcuts) h.carries_text .nil
  exact scan_eq_ok_iff.mpr ⟨_, [], by simp, htiles, ⟨by simp, by simp⟩⟩

end Legible

end Token

/-! ## Lines of tokens -/

/-- Tokens come back from a text that has each of them on a line of its own. -/
theorem scan_lines_of_texts {ts : List Token} (h : ∀ t ∈ ts, t.Legible) :
    scan ("\n".intercalate (ts.map Token.text)) = .ok ts := by
  induction ts with
  | nil => exact scan_empty
  | cons t ts ih =>
    rw [List.forall_mem_cons] at h
    have hfirst := h.1.scan_text
    have htail := ih h.2
    cases ts with
    | nil => simpa using hfirst
    | cons u us =>
      simp only [List.map_cons] at htail ⊢
      rw [String.intercalate_cons_cons, scan_join_of_ok hfirst, htail]
      rfl

/-- Names that only look reserved, the largest integer, and a comment that holds no text. -/
theorem scan_lines_of_texts_near_words :
    (∀ t ∈ [Token.name "truth", .arith .div, .comment "", .quit, .name "tRUE_4", .compare .le,
        .number (.integer 9223372036854775807), .comment "/ 2; \"", .bool true], t.Legible) ∧
      scan "truth\n/\n// \nquit\ntRUE_4\n<=\n9223372036854775807\n// / 2; \"\ntrue" =
        .ok [.name "truth", .arith .div, .comment "", .quit, .name "tRUE_4", .compare .le,
          .number (.integer 9223372036854775807), .comment "/ 2; \"", .bool true] := by
  have hlegible : ∀ t ∈ [Token.name "truth", .arith .div, .comment "", .quit, .name "tRUE_4",
      .compare .le, .number (.integer 9223372036854775807), .comment "/ 2; \"", .bool true],
      t.Legible := by decide +kernel
  exact ⟨hlegible, scan_lines_of_texts hlegible⟩

end Calculator
