import Calculator.Proofs.Places
import Calculator.Session.Buffer
import Mathlib.Control.Monad.Basic
import Mathlib.Data.List.Induction

/-!
# Where statements end

The buffer looks for a semicolon in front of the first two slashes of a line, the scanner cuts the
whole collected text into tokens. Both find the same end: a statement is handed on with the first
line that has a semicolon among its tokens.

Only a line that ends in two bare slashes is read in two ways, as a comment or as two divisions, and
there no semicolon can follow. A carriage return inside a line ends a comment for the scanner alone.
-/

namespace Calculator

open Text

/-! ## In front of a comment -/

theorem uncommented_slashes (cs : List Char) : uncommented ('/' :: '/' :: cs) = [] := rfl

theorem uncommented_cons {c : Char} {cs : List Char} (h : c = '/' → cs.head? ≠ some '/') :
    uncommented (c :: cs) = c :: uncommented cs := by
  rw [uncommented]
  rintro ds rfl rfl
  exact h rfl rfl

theorem mem_of_mem_uncommented {c : Char} {cs : List Char} (h : c ∈ uncommented cs) : c ∈ cs := by
  fun_induction uncommented cs with
  | case1 | case2 => cases h
  | case3 d ds _ ih =>
    rcases List.mem_cons.mp h with rfl | h
    · exact List.mem_cons_self
    · exact List.mem_cons_of_mem d (ih h)

theorem uncommented_append {cs : List Char} (h : '/' ∉ cs) (ds : List Char) :
    uncommented (cs ++ ds) = cs ++ uncommented ds := by
  induction cs with
  | nil => rfl
  | cons c cs ih =>
    rw [List.mem_cons, not_or] at h
    rw [List.cons_append, uncommented_cons fun hc => absurd hc.symm h.1, ih h.2, List.cons_append]

theorem mem_uncommented_of_append {c : Char} {cs ds : List Char} (h : c ∈ uncommented (cs ++ ds)) :
    c ∈ uncommented cs ∨ c ∈ uncommented ds := by
  fun_induction uncommented cs with
  | case1 => exact .inr h
  | case2 => cases h
  | case3 d cs hd ih =>
    by_cases hslashes : d = '/' ∧ (cs ++ ds).head? = some '/'
    · obtain ⟨rfl, hhead⟩ := hslashes
      obtain ⟨es, hes⟩ := List.head?_eq_some_iff.mp hhead
      rw [List.cons_append, hes, uncommented_slashes] at h
      cases h
    · rw [List.cons_append, uncommented_cons fun hd hhead => hslashes ⟨hd, hhead⟩] at h
      rcases List.mem_cons.mp h with rfl | h
      · exact .inl List.mem_cons_self
      · exact (ih h).imp_left (List.mem_cons_of_mem d)

/-! ## Semicolons in one line -/

theorem IsGap.not_mem {gap rest : List Char} (h : IsGap gap rest) {c : Char} (hc : ¬ isBlank c) :
    c ∉ gap :=
  fun hgap => hc (h.blank c hgap)

theorem TokenKind.Written.semicolon_of_uncommented {kind : TokenKind} {l : List Char}
    (h : kind.Written l) (hl : ';' ∈ uncommented l) : kind = .semicolon := by
  obtain rfl | hkind := h.kind_of_semicolon_mem (mem_of_mem_uncommented hl)
  · cases h with
    | comment => cases hl
  · exact hkind

theorem Tiles.semicolon_mem {rest front : List Char} {ts : List Token} (h : Tiles rest front ts)
    (hrest : ';' ∉ rest) (hmem : ';' ∈ uncommented (front ++ rest)) : .semicolon ∈ ts := by
  induction h with
  | nil => exact absurd (mem_of_mem_uncommented hmem) hrest
  | @cons gap l front t ts isGap cuts carries _ ih =>
    rw [List.append_assoc, List.append_assoc] at hmem
    obtain hgap | hmem := mem_uncommented_of_append hmem
    · exact absurd (mem_of_mem_uncommented hgap) (isGap.not_mem (by decide))
    · obtain hl | hmem := mem_uncommented_of_append hmem
      · have hkind := cuts.written.semicolon_of_uncommented hl
        cases t <;> first | exact List.mem_cons_self | cases hkind
      · exact List.mem_cons_of_mem t (ih hmem)

theorem TokenKind.Cuts.comment_to_end {l after : List Char}
    (h : TokenKind.comment.Cuts l (l ++ after)) (hline : ∀ c ∈ l ++ after, endsLine c = false) :
    after = [] := by
  cases h.written with
  | @comment cs nonempty line =>
    have hwritten : comment.Written ('/' :: '/' :: (cs ++ after)) := by
      refine .comment (by simp [nonempty]) fun c hc => ?_
      simpa [endsLine] using hline c (List.mem_cons_of_mem _ (List.mem_cons_of_mem _ hc))
    have hlength := h.longest _ (List.prefix_refl _) hwritten
    simp only [List.length_cons, List.length_append] at hlength
    exact List.length_eq_zero_iff.mp (by omega)

theorem TokenKind.Cuts.mem_uncommented {kind : TokenKind} {l after : List Char}
    (h : kind.Cuts l (l ++ after)) (hline : ∀ c ∈ l ++ after, endsLine c = false)
    (hmem : ';' ∈ uncommented after) : ';' ∈ uncommented (l ++ after) := by
  -- On one line no form hides a semicolon that stands behind it, neither in a comment that the form
  -- is nor in one that it begins.
  by_cases hslash : '/' ∈ l
  · obtain rfl | rfl := h.written.kind_of_slash_mem hslash
    · rw [h.comment_to_end hline] at hmem
      cases hmem
    · obtain rfl : l = ['/'] := by
        cases h.written
        rfl
      by_cases hhead : after.head? = some '/'
      · obtain ⟨cs, rfl⟩ := List.head?_eq_some_iff.mp hhead
        cases cs with
        | nil => exact absurd hmem (by decide)
        | cons c cs =>
          have hc : c ≠ '\r' ∧ c ≠ '\n' := by simpa [endsLine] using hline c (by simp)
          have hcomment : comment.Written ['/', '/', c] := .comment (by simp) (by simpa using hc)
          cases h.eq_comment hcomment (List.prefix_append _ cs)
      · rw [List.singleton_append, uncommented_cons fun _ => hhead]
        exact List.mem_cons_of_mem '/' hmem
  · rw [uncommented_append hslash]
    exact List.mem_append_right l hmem

theorem Tiles.mem_uncommented {rest front : List Char} {ts : List Token} (h : Tiles rest front ts)
    (hline : ∀ c ∈ front ++ rest, endsLine c = false) (hmem : .semicolon ∈ ts) :
    ';' ∈ uncommented (front ++ rest) := by
  induction h with
  | nil => cases hmem
  | @cons gap l front t ts isGap cuts carries _ ih =>
    have hslash : '/' ∉ gap := isGap.not_mem (by decide)
    rw [List.append_assoc, List.append_assoc] at hline ⊢
    rw [uncommented_append hslash]
    refine List.mem_append_right gap ?_
    rcases List.mem_cons.mp hmem with rfl | hmem
    · obtain rfl := cuts.written.eq_semicolon
      exact List.mem_cons_self
    · refine cuts.mem_uncommented (fun c hc => hline c (List.mem_append_right gap hc)) (ih ?_ hmem)
      exact fun c hc => hline c (List.mem_append_right gap (List.mem_append_right l hc))

theorem semicolon_mem_of_endsStatement {line : String} {ts : List Token} (h : scan line = .ok ts)
    (hends : endsStatement line = true) : .semicolon ∈ ts := by
  obtain ⟨front, gap, htext, htiles, hgap⟩ := scan_eq_ok_iff.mp h
  rw [endsStatement, htext, List.contains_iff_mem] at hends
  exact htiles.semicolon_mem (hgap.not_mem (by decide)) hends

theorem endsStatement_of_semicolon_mem {line : String} {ts : List Token} (h : scan line = .ok ts)
    (hline : ∀ c ∈ line.toList, endsLine c = false) (hmem : .semicolon ∈ ts) :
    endsStatement line = true := by
  obtain ⟨front, gap, htext, htiles, hgap⟩ := scan_eq_ok_iff.mp h
  rw [htext] at hline
  rw [endsStatement, htext, List.contains_iff_mem]
  exact htiles.mem_uncommented hline hmem

/-! ## The buffer -/

namespace StatementBuffer

theorem push_cases (b : StatementBuffer) (line : String) :
    (endsStatement line = true ∧ b.push line = (.statement (b.extended line), empty)) ∨
      (endsStatement line = false ∧ saysQuit line = true ∧ b.push line = (.quit, empty)) ∨
      endsStatement line = false ∧ saysQuit line = false ∧
        b.push line = (.pending, ⟨b.extended line⟩) := by
  unfold push
  cases endsStatement line
  · cases saysQuit line <;> simp
  · simp

/-- What the lines leave behind when they are pushed one after the other. -/
def ofLines (lines : List String) : StatementBuffer :=
  lines.foldl (fun b line => (b.push line).2) empty

theorem ofLines_concat (lines : List String) (line : String) :
    ofLines (lines ++ [line]) = ((ofLines lines).push line).2 :=
  List.foldl_concat ..

/-- A collected text is tokenised line by line: the last line brings the tokens from its beginning
on, and what was collected before brings the others. -/
theorem exists_placedTokens_extended {b : StatementBuffer} {line : String} {ts : List Token}
    (h : scan (b.extended line) = .ok ts) :
    ∃ earlier ps qs, b.extended line = earlier ++ line ∧
      placedTokens (b.extended line) = ps ++ qs ∧
      scan b.source = .ok (ps.map PlacedToken.token) ∧
      scan line = .ok (qs.map PlacedToken.token) ∧ ∀ q ∈ qs, earlier.utf8ByteSize ≤ q.offset := by
  unfold extended at h ⊢
  split at h
  · next hempty =>
    rw [if_pos hempty]
    refine ⟨"", [], placedTokens line, by simp, rfl, ?_, ?_, fun q _ => Nat.zero_le _⟩
    · rw [String.isEmpty_iff.mp hempty, scan_empty]
      rfl
    · rw [h, map_token_placedTokens h]
  · next hempty =>
    rw [if_neg hempty]
    obtain ⟨us, vs, hs, ht, rfl⟩ := exists_scan_of_join h
    obtain ⟨ps, qs, hplaced, rfl, -, rfl, hqs⟩ := exists_placedTokens_join hs ht
    refine ⟨b.source ++ "\n", ps, qs, rfl, hplaced, hs, ht, fun q hq => ?_⟩
    rw [String.utf8ByteSize_append]
    exact hqs q hq

/-- The scanner finds no semicolon in what was collected. -/
def Unended (b : StatementBuffer) : Prop := ∀ ts, scan b.source = .ok ts → .semicolon ∉ ts

theorem unended_empty : empty.Unended := by
  intro ts h
  rw [empty, scan_empty] at h
  cases h
  exact List.not_mem_nil

theorem Unended.push {b : StatementBuffer} (h : b.Unended) {line : String}
    (hline : ∀ c ∈ line.toList, endsLine c = false) : (b.push line).2.Unended := by
  obtain ⟨-, hpush⟩ | ⟨-, -, hpush⟩ | ⟨hends, -, hpush⟩ := b.push_cases line
  · rw [hpush]
    exact unended_empty
  · rw [hpush]
    exact unended_empty
  · rw [hpush]
    intro ts hts hmem
    obtain ⟨-, ps, qs, -, hplaced, hps, hqs, -⟩ := exists_placedTokens_extended hts
    rw [← map_token_placedTokens hts, hplaced, List.map_append, List.mem_append] at hmem
    rcases hmem with hmem | hmem
    · exact h _ hps hmem
    · rw [endsStatement_of_semicolon_mem hqs hline hmem] at hends
      cases hends

theorem unended_ofLines {lines : List String}
    (h : ∀ line ∈ lines, ∀ c ∈ line.toList, endsLine c = false) : (ofLines lines).Unended := by
  induction lines using List.reverseRecOn with
  | nil => exact unended_empty
  | append_singleton lines line ih =>
    rw [ofLines_concat]
    exact (ih fun l hl => h l (List.mem_append_left _ hl)).push (h line (by simp))

end StatementBuffer

/-! ## The law -/

/-- Lines pushed into a new buffer, and then one more. Where this last one ends a statement and the
statement has tokens, one of them is a semicolon from the last line. If no line holds a line end,
no semicolon comes from an earlier line, and a text that stays pending has no semicolon at all. -/
theorem statement_ends_with_semicolon (lines : List String) (line : String) :
    (∀ source ts, ((StatementBuffer.ofLines lines).push line).1 = .statement source →
      scan source = .ok ts →
      ∃ earlier, source = earlier ++ line ∧ (placedTokens source).map PlacedToken.token = ts ∧
        (∃ p ∈ placedTokens source, p.token = .semicolon ∧ earlier.utf8ByteSize ≤ p.offset) ∧
        ((∀ l ∈ lines ++ [line], '\n' ∉ l.toList ∧ '\r' ∉ l.toList) →
          ∀ p ∈ placedTokens source, p.token = .semicolon → earlier.utf8ByteSize ≤ p.offset)) ∧
    ((∀ l ∈ lines ++ [line], '\n' ∉ l.toList ∧ '\r' ∉ l.toList) →
      ((StatementBuffer.ofLines lines).push line).1 = .pending →
      ∀ ts, scan ((StatementBuffer.ofLines lines).push line).2.source = .ok ts →
        .semicolon ∉ ts) := by
  have hunended (ls : List String) (hls : ∀ l ∈ ls, '\n' ∉ l.toList ∧ '\r' ∉ l.toList) :
      (StatementBuffer.ofLines ls).Unended :=
    StatementBuffer.unended_ofLines fun l hl => endsLine_eq_false_of_not_mem (hls l hl)
  constructor
  · intro source ts hpush hscan
    obtain ⟨hends, h⟩ | ⟨-, -, h⟩ | ⟨-, -, h⟩ := (StatementBuffer.ofLines lines).push_cases line
    · rw [h] at hpush
      cases hpush
      obtain ⟨earlier, ps, qs, hsource, hplaced, hps, hqs, hle⟩ :=
        StatementBuffer.exists_placedTokens_extended hscan
      refine ⟨earlier, hsource, map_token_placedTokens hscan, ?_, fun hlines p hp htoken => ?_⟩
      · obtain ⟨q, hq, htoken⟩ := List.mem_map.mp (semicolon_mem_of_endsStatement hqs hends)
        exact ⟨q, hplaced ▸ List.mem_append_right ps hq, htoken, hle q hq⟩
      · rcases List.mem_append.mp (hplaced ▸ hp) with hp | hp
        · have hpending := hunended lines fun l hl => hlines l (List.mem_append_left _ hl)
          exact absurd (htoken ▸ List.mem_map_of_mem hp) (hpending _ hps)
        · exact hle p hp
    · rw [h] at hpush
      cases hpush
    · rw [h] at hpush
      cases hpush
  · intro hlines _ ts hscan
    rw [← StatementBuffer.ofLines_concat] at hscan
    exact hunended _ hlines ts hscan

/-- The semicolon of `// one;` ends nothing, and the statement ends with the one of the line behind
it. -/
theorem statement_ends_with_semicolon_behind_comment :
    ((StatementBuffer.ofLines ["a := 1 // one;"]).push "+ 2; // two;").1 =
        .statement "a := 1 // one;\n+ 2; // two;" ∧
      (∃ earlier, "a := 1 // one;\n+ 2; // two;" = earlier ++ "+ 2; // two;" ∧
        (placedTokens "a := 1 // one;\n+ 2; // two;").map PlacedToken.token =
          [.name "a", .assign, .number (.integer 1), .comment "one;", .arith .add,
            .number (.integer 2), .semicolon, .comment "two;"] ∧
        (∃ p ∈ placedTokens "a := 1 // one;\n+ 2; // two;",
          p.token = .semicolon ∧ earlier.utf8ByteSize ≤ p.offset) ∧
        ∀ p ∈ placedTokens "a := 1 // one;\n+ 2; // two;",
          p.token = .semicolon → earlier.utf8ByteSize ≤ p.offset) ∧
      ((StatementBuffer.ofLines []).push "a := 1 // one;").1 = .pending ∧
      Token.semicolon ∉ [.name "a", .assign, .number (.integer 1), .comment "one;"] := by
  have hpush : ((StatementBuffer.ofLines ["a := 1 // one;"]).push "+ 2; // two;").1 =
      .statement "a := 1 // one;\n+ 2; // two;" := by decide +kernel
  have hscan : scan "a := 1 // one;\n+ 2; // two;" =
      .ok [.name "a", .assign, .number (.integer 1), .comment "one;", .arith .add,
        .number (.integer 2), .semicolon, .comment "two;"] := by decide +kernel
  have hpending : ((StatementBuffer.ofLines []).push "a := 1 // one;").1 = .pending := by
    decide +kernel
  have hscan' : scan ((StatementBuffer.ofLines []).push "a := 1 // one;").2.source =
      .ok [.name "a", .assign, .number (.integer 1), .comment "one;"] := by decide +kernel
  obtain ⟨earlier, hsource, htokens, hlast, hnone⟩ :=
    (statement_ends_with_semicolon _ _).1 _ _ hpush hscan
  exact ⟨hpush, ⟨earlier, hsource, htokens, hlast, hnone (by decide)⟩, hpending,
    (statement_ends_with_semicolon _ _).2 (by decide) hpending _ hscan'⟩

end Calculator
