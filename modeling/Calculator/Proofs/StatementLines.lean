import Calculator.Proofs.StatementEnds
import Mathlib.Data.List.DropRight

/-!
# The lines of a statement

The buffer holds the lines since the last statement or `quit`, one below the other, and hands on
exactly these. Only empty lines in front are left out. Nothing that was collected has a say in what
the next line is.
-/

namespace Calculator

/-! ## Answers -/

/-- What a line is for the buffer. -/
inductive LineKind where
  | statement
  | quit
  | pending
deriving DecidableEq, Repr

def Pushed.kind : Pushed → LineKind
  | .statement _ => .statement
  | .quit => .quit
  | .pending => .pending

namespace StatementBuffer

theorem kind_push (b b' : StatementBuffer) (line : String) :
    (b.push line).1.kind = (b'.push line).1.kind := by
  unfold push
  split
  · rfl
  · split <;> rfl

/-- The lines pushed one after the other, each with the answer to it. -/
def answers (b : StatementBuffer) : List String → List (String × Pushed)
  | [] => []
  | line :: lines => (line, (b.push line).1) :: (b.push line).2.answers lines

/-- The lines behind the last one that ended a statement or said `quit`. -/
def segment (lines : List String) : List String :=
  ((empty.answers lines).rtakeWhile fun a => a.2 = .pending).map Prod.fst

/-- Lines one below the other, without the empty ones in front. -/
def joined (lines : List String) : String := "\n".intercalate (lines.dropWhile String.isEmpty)

theorem answers_append (b : StatementBuffer) (lines more : List String) :
    b.answers (lines ++ more) =
      b.answers lines ++ (lines.foldl (fun b line => (b.push line).2) b).answers more := by
  induction lines generalizing b with
  | nil => rfl
  | cons line lines ih => simp only [List.cons_append, answers, ih, List.foldl_cons]

theorem answers_concat (lines : List String) (line : String) :
    empty.answers (lines ++ [line]) =
      empty.answers lines ++ [(line, ((ofLines lines).push line).1)] :=
  answers_append empty lines [line]

/-! ## Segments -/

theorem segment_concat_of_pending {lines : List String} {line : String}
    (h : ((ofLines lines).push line).1 = .pending) :
    segment (lines ++ [line]) = segment lines ++ [line] := by
  rw [segment, answers_concat, List.rtakeWhile_concat_pos _ _ _ (by simpa using h), List.map_append]
  rfl

theorem segment_concat_of_not_pending {lines : List String} {line : String}
    (h : ((ofLines lines).push line).1 ≠ .pending) : segment (lines ++ [line]) = [] := by
  rw [segment, answers_concat, List.rtakeWhile_concat_neg _ _ _ (by simpa using h)]
  rfl

theorem exists_before_segment (lines : List String) :
    ∃ before, lines = before ++ segment lines ∧
      empty.answers lines =
        empty.answers before ++ (segment lines).map (fun line => (line, .pending)) ∧
      ∀ a ∈ (empty.answers before).getLast?, a.2 ≠ .pending := by
  induction lines using List.reverseRecOn with
  | nil => exact ⟨[], rfl, rfl, by simp [answers]⟩
  | append_singleton lines line ih =>
    by_cases h : ((ofLines lines).push line).1 = .pending
    · obtain ⟨before, hlines, hanswers, hlast⟩ := ih
      refine ⟨before, ?_, ?_, hlast⟩
      · rw [segment_concat_of_pending h, ← List.append_assoc, ← hlines]
      · rw [segment_concat_of_pending h, answers_concat, h, hanswers, List.map_append,
          List.append_assoc]
        rfl
    · refine ⟨lines ++ [line], ?_, ?_, ?_⟩
      · rw [segment_concat_of_not_pending h, List.append_nil]
      · rw [segment_concat_of_not_pending h, List.map_nil, List.append_nil]
      · simpa [answers_concat] using h

/-! ## What is collected -/

theorem joined_concat (lines : List String) (line : String) :
    joined (lines ++ [line]) =
      if joined lines = "" then line else joined lines ++ "\n" ++ line := by
  unfold joined
  rw [List.dropWhile_append]
  cases h : lines.dropWhile String.isEmpty with
  | nil =>
    by_cases hline : line.isEmpty
    · simp [String.isEmpty_iff.mp hline]
    · simp [List.dropWhile_cons_of_neg hline]
  | cons first rest =>
    have hfirst : first ≠ "" := by
      have hhead := List.head_dropWhile_not String.isEmpty (l := lines) (by simp [h])
      simpa [h] using hhead
    have hne : "\n".intercalate (first :: rest) ≠ "" := by
      cases rest <;> simp [hfirst]
    rw [if_neg (by simp), if_neg hne, String.intercalate_append_of_ne_nil (by simp) (by simp),
      String.intercalate_singleton]

theorem extended_of_joined {b : StatementBuffer} {lines : List String} (h : b.source = joined lines)
    (line : String) : b.extended line = joined (lines ++ [line]) := by
  simp only [extended, h, String.isEmpty_iff, joined_concat]

theorem source_ofLines (lines : List String) : (ofLines lines).source = joined (segment lines) := by
  induction lines using List.reverseRecOn with
  | nil => rfl
  | append_singleton lines line ih =>
    rw [ofLines_concat]
    obtain ⟨-, h⟩ | ⟨-, -, h⟩ | ⟨-, -, h⟩ := (ofLines lines).push_cases line
    · rw [segment_concat_of_not_pending (by simp [h]), h]
      rfl
    · rw [segment_concat_of_not_pending (by simp [h]), h]
      rfl
    · rw [segment_concat_of_pending (by rw [h]), h]
      exact extended_of_joined ih line

/-- Lines pushed into a new buffer, and then one more. If this one stays pending, the buffer holds
the lines of its segment, one below the other and without the empty ones in front. If it ends a
statement, these lines are the statement, and the buffer is empty again. If it says `quit`, they are
dropped. What the line is does not depend on what was collected. -/
theorem segments_kept (lines : List String) (line : String) :
    (((ofLines lines).push line).1 = .pending →
      segment (lines ++ [line]) = segment lines ++ [line] ∧
        ((ofLines lines).push line).2.source = joined (segment lines ++ [line])) ∧
    (∀ source, ((ofLines lines).push line).1 = .statement source →
      source = joined (segment lines ++ [line]) ∧ segment (lines ++ [line]) = [] ∧
        ((ofLines lines).push line).2.source = "") ∧
    (((ofLines lines).push line).1 = .quit →
      segment (lines ++ [line]) = [] ∧ ((ofLines lines).push line).2.source = "") ∧
    (∃ before, lines = before ++ segment lines ∧
      empty.answers lines =
        empty.answers before ++ (segment lines).map (fun line => (line, .pending)) ∧
      ∀ a ∈ (empty.answers before).getLast?, a.2 ≠ .pending) ∧
    ∀ b : StatementBuffer, (b.push line).1.kind = ((ofLines lines).push line).1.kind := by
  have hextended := extended_of_joined (source_ofLines lines) line
  refine ⟨fun hpush => ⟨segment_concat_of_pending hpush, ?_⟩, fun source hpush => ?_,
    fun hpush => ⟨segment_concat_of_not_pending (by simp [hpush]), ?_⟩,
    exists_before_segment lines, fun b => b.kind_push _ line⟩
  · rw [← ofLines_concat, source_ofLines, segment_concat_of_pending hpush]
  · obtain ⟨-, h⟩ | ⟨-, -, h⟩ | ⟨-, -, h⟩ := (ofLines lines).push_cases line
    · rw [h] at hpush ⊢
      cases hpush
      exact ⟨hextended, segment_concat_of_not_pending (by simp [h]), rfl⟩
    · rw [h] at hpush
      cases hpush
    · rw [h] at hpush
      cases hpush
  · rw [← ofLines_concat, source_ofLines, segment_concat_of_not_pending (by simp [hpush])]
    rfl

/-- The empty line in front of the statement is dropped, and the one within it stays. -/
theorem segments_kept_between_empty_lines :
    ((ofLines ["x;", "", " ", "", "1 +"]).push "2; //").1 = .statement " \n\n1 +\n2; //" ∧
      segment ["x;", "", " ", "", "1 +"] = ["", " ", "", "1 +"] ∧
      " \n\n1 +\n2; //" = joined (segment ["x;", "", " ", "", "1 +"] ++ ["2; //"]) ∧
      ((ofLines ["x;", "", " ", "", "1 +"]).push "2; //").2.source = "" := by
  have hpush : ((ofLines ["x;", "", " ", "", "1 +"]).push "2; //").1 =
      .statement " \n\n1 +\n2; //" := by decide +kernel
  obtain ⟨hsource, -, hempty⟩ := (segments_kept _ _).2.1 _ hpush
  exact ⟨hpush, by decide +kernel, hsource, hempty⟩

end StatementBuffer

end Calculator
