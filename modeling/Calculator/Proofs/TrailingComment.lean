import Calculator.Proofs.Interpreting
import Calculator.Proofs.Tiling
import Mathlib.Control.Monad.Basic

/-!
# Comments behind a statement

A semicolon is part of no longer form than a comment. So what stands behind the last semicolon of a
source does not change how the source is cut up to there, and a comment put there is one token more,
which takes no part in the statement.

A comment has text. Two slashes with nothing behind them are two divisions.
-/

namespace Calculator

open Text

/-! ## In front of a semicolon -/

namespace TokenKind

theorem Written.comment_of_semicolon {cs ds : List Char}
    (h : TokenKind.comment.Written (cs ++ ';' :: ds)) :
    TokenKind.comment.Written (cs ++ [';']) := by
  generalize hl : cs ++ ';' :: ds = l at h
  cases h with
  | @comment es nonempty line =>
    obtain _ | ⟨a, _ | ⟨b, cs⟩⟩ := cs
    · cases hl
    · cases hl
    · cases hl
      have hbegins : cs ++ [';'] <+: cs ++ ';' :: ds := by simp
      exact .comment (by simp) fun c hc => line c (hbegins.subset hc)

theorem Cuts.isPrefix_front {kind k : TokenKind} {l m cs after ds : List Char}
    (h : kind.Cuts l (cs ++ ';' :: after)) (hl : l.length ≤ cs.length) (hm : k.Written m)
    (hpre : m <+: cs ++ ';' :: ds) : m <+: cs := by
  obtain hfront | ⟨r, rfl⟩ := prefix_or_of_append_cons hpre
  · exact hfront
  exfalso
  have hlength := List.length_pos_iff.mpr h.written.ne_nil
  obtain rfl | rfl := hm.kind_of_semicolon_mem (by simp)
  · have hcomment := hm.comment_of_semicolon
    have hbegins : cs ++ [';'] <+: cs ++ ';' :: after := by simp
    obtain rfl := h.eq_comment hcomment hbegins
    have hlongest := h.longest _ hbegins hcomment
    simp only [List.length_append, List.length_cons] at hlongest
    omega
  · have hlengths := congrArg List.length hm.eq_semicolon
    simp only [List.length_append, List.length_cons, List.length_nil] at hlengths
    omega

theorem Cuts.behind_semicolon {kind : TokenKind} {l cs after : List Char}
    (h : kind.Cuts l (l ++ cs ++ ';' :: after)) (ds : List Char) :
    kind.Cuts l (l ++ cs ++ ';' :: ds) := by
  refine h.of_isPrefix (by simp) fun k m hwritten hm => ?_
  have hfront := h.isPrefix_front (by simp) hwritten hm
  exact hfront.trans (List.prefix_append _ _)

end TokenKind

theorem Tiles.exists_front_semicolon {rest front : List Char} {ts : List Token}
    (h : Tiles rest front ts) (hlast : ts.getLast? = some .semicolon) :
    ∃ cs, front = cs ++ [';'] := by
  induction h with
  | nil => cases hlast
  | @cons gap l front t ts _ cuts _ tail ih =>
    cases ts with
    | nil =>
      cases tail
      cases hlast
      obtain rfl := cuts.written.eq_semicolon
      exact ⟨gap, by simp⟩
    | cons u us =>
      obtain ⟨cs, rfl⟩ := ih hlast
      exact ⟨gap ++ (l ++ cs), by simp⟩

theorem Tiles.behind_semicolon {rest front : List Char} {ts : List Token} (h : Tiles rest front ts)
    (hlast : ts.getLast? = some .semicolon) (ds : List Char) : Tiles ds front ts := by
  induction h with
  | nil => exact .nil
  | @cons gap l front t ts isGap cuts carries tail ih =>
    have hgap : IsGap gap (l ++ (front ++ ds)) := by
      obtain ⟨c, l, rfl⟩ := List.exists_cons_of_ne_nil cuts.written.ne_nil
      exact isGap.of_head? rfl
    cases ts with
    | nil =>
      cases tail
      cases hlast
      obtain rfl := cuts.written.eq_semicolon
      exact .cons hgap (TokenKind.first?_eq_some_iff.mp (TokenKind.first?_semicolon _)) trivial .nil
    | cons u us =>
      obtain ⟨cs, rfl⟩ := tail.exists_front_semicolon hlast
      refine .cons hgap ?_ (carries.of_head? ?_) (ih hlast)
      · have hcuts : t.kind.Cuts l (l ++ cs ++ ';' :: rest) := by simpa using cuts
        simpa using hcuts.behind_semicolon ds
      · simp [List.head?_append]

/-! ## Statements with a comment behind them -/

theorem scan_trailing_comment {s c : String} {ts : List Token} (hs : scan s = .ok ts)
    (hlast : ts.getLast? = some .semicolon) (hc : c ≠ "")
    (hline : ∀ d ∈ c.toList, endsLine d = false) :
    scan (s ++ "//" ++ c) = .ok (ts ++ [.comment (String.ofList (trim c.toList))]) := by
  obtain ⟨front, gap, htext, htiles, hgap⟩ := scan_eq_ok_iff.mp hs
  have hcs : c.toList ≠ [] := by simpa using hc
  have hall : (s ++ "//" ++ c).toList = front ++ (gap ++ '/' :: '/' :: c.toList) := by
    rw [String.toList_append, String.toList_append, htext]
    simp
  have hbefore : IsGap gap ('/' :: '/' :: c.toList) := ⟨hgap.blank, by rintro _ ⟨⟩; decide⟩
  have hcomment : Tiles [] (gap ++ ('/' :: '/' :: c.toList ++ []))
      [.comment (String.ofList (trim c.toList))] :=
    .cons (by simpa using hbefore)
      (by simpa [Token.kind] using TokenKind.cuts_comment hcs hline) rfl .nil
  have hend := Cursor.scan_of_tiles_end hcomment ⟨by simp, by simp⟩ (byteLength front)
  rw [List.append_nil, List.append_nil] at hend
  rw [scan, Cursor.start, hall, Cursor.scan_of_tiles (htiles.behind_semicolon hlast _),
    Nat.zero_add, hend]
  rfl

theorem parse_concat_comment (ts : List Token) (c : String) :
    parse (ts ++ [.comment c]) = parse ts := by
  have htokens : withoutComments (ts ++ [.comment c]) = withoutComments ts := by
    rw [withoutComments_append]
    exact List.append_nil _
  rw [parse, parse, read, read, htokens]

/-- A comment behind the semicolon of a statement changes neither what the statement comes to nor
the store that it leaves. -/
theorem interpret_trailing_comment {s c : String} {ts : List Token} (hs : scan s = .ok ts)
    (hlast : ts.getLast? = some .semicolon) (hc : c ≠ "")
    (hline : '\n' ∉ c.toList ∧ '\r' ∉ c.toList) (st : Store) :
    (interpret (s ++ "//" ++ c) st).result = (interpret s st).result ∧
      (interpret (s ++ "//" ++ c) st).store = (interpret s st).store := by
  have hends := endsLine_eq_false_of_not_mem hline
  exact interpret_congr (scan_trailing_comment hs hlast hc hends) hs (parse_concat_comment _ _) st

/-- The third slash and the semicolon belong to the comment. -/
theorem interpret_trailing_comment_of_slash :
    scan "x := 1/2;" =
        .ok [.name "x", .assign, .number (.integer 1), .arith .div, .number (.integer 2),
          .semicolon] ∧
      (interpret ("x := 1/2;" ++ "//" ++ "/ 2; quit") .empty).result =
        (interpret "x := 1/2;" .empty).result ∧
      (interpret ("x := 1/2;" ++ "//" ++ "/ 2; quit") .empty).store =
        (interpret "x := 1/2;" .empty).store := by
  have hs : scan "x := 1/2;" =
      .ok [.name "x", .assign, .number (.integer 1), .arith .div, .number (.integer 2),
        .semicolon] := by decide +kernel
  exact ⟨hs, interpret_trailing_comment hs rfl (by decide) (by decide) .empty⟩

/-- Two slashes with no text behind them are divisions, and a complete statement has no place for
them. -/
theorem trailing_slashes_refused :
    scan "1;" = .ok [.number (.integer 1), .semicolon] ∧ "1;".toList.getLast? = some ';' ∧
      (interpret "1;" .empty).result = .ok (.number (.integer 1)) ∧
      scan ("1;" ++ "//" ++ "") =
        .ok [.number (.integer 1), .semicolon, .arith .div, .arith .div] ∧
      (interpret ("1;" ++ "//" ++ "") .empty).result =
        .error (.parse ⟨some (.arith .div), .nothing⟩) := by
  decide +kernel

end Calculator
