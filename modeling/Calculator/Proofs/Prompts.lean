import Calculator.Proofs.Composition

/-!
# Prompts

A session that prompts does what it does without: it reads the same lines, answers them alike and
ends in the same way. All that it writes besides is a prompt in front of its first line and one
behind each line that did not end it, and this is empty within a statement.
-/

namespace Calculator

/-- What asks for a line behind this one. Where more than blanks was collected, it is empty. -/
def Step.prompt (step : Step) : String :=
  if step.ended then ""
  else if step.session.buffer.source.toList.all Text.isBlank then "> "
  else ""

namespace Session

/-- What the lines come to that a session reads, each from the session that the line before it left.
Behind a line that ends the session, and from one that is no text on, nothing is read. -/
def steps (s : Session) : List (List UInt8) → List Step
  | [] => []
  | line :: lines =>
    match decodeLine line with
    | none => []
    | some text =>
      if (s.step text).ended then [s.step text]
      else s.step text :: steps (s.step text).session lines

section

variable {s : Session} {line : List UInt8} {lines : List (List UInt8)}

theorem steps_of_none (h : decodeLine line = none) : s.steps (line :: lines) = [] := by
  rw [steps, h]

theorem steps_of_ended {text : String} (h : decodeLine line = some text)
    (hended : (s.step text).ended = true) : s.steps (line :: lines) = [s.step text] := by
  simp only [steps, h, if_pos hended]

theorem steps_of_not_ended {text : String} (h : decodeLine line = some text)
    (hended : ¬ (s.step text).ended = true) :
    s.steps (line :: lines) = s.step text :: (s.step text).session.steps lines := by
  simp only [steps, h, if_neg hended]

end

/-! ## Runs over lines -/

theorem written_runLines (interactive : Bool) (s : Session) (lines : List (List UInt8)) :
    (runLines interactive s lines).written =
      (s.steps lines).flatMap fun step =>
        step.output :: if step.ended then [] else step.session.prompts interactive := by
  induction lines generalizing s with
  | nil => rfl
  | cons line lines ih =>
    cases hline : decodeLine line with
    | none =>
      rw [runLines_of_none hline, steps_of_none hline]
      rfl
    | some text =>
      by_cases hended : (s.step text).ended = true
      · rw [runLines_of_ended hline hended, steps_of_ended hline hended, List.flatMap_singleton,
          if_pos hended]
      · rw [runLines_of_not_ended hline hended, steps_of_not_ended hline hended,
          SessionRun.written_behind, ih, List.flatMap_cons, if_neg hended]

theorem written_runLines_false (s : Session) (lines : List (List UInt8)) :
    (runLines false s lines).written = (s.steps lines).map Step.output := by
  simp [written_runLines, prompts, List.map_eq_flatMap]

theorem join_prompts_true (step : Step) :
    String.join (if step.ended then [] else step.session.prompts true) = step.prompt := by
  rw [Step.prompt]
  split
  · rfl
  · simp [prompts, prompt, StatementBuffer.isBlank]

theorem output_runLines_true (s : Session) (lines : List (List UInt8)) :
    (runLines true s lines).output =
      String.join ((s.steps lines).map fun step => step.output ++ step.prompt) := by
  apply String.toList_injective
  simp only [SessionRun.output, written_runLines, ← join_prompts_true]
  simp [String.toList_join, List.flatMap_assoc, List.flatMap_map]

theorem runLines_true_false (s : Session) (lines : List (List UInt8)) :
    (runLines true s lines).closing = (runLines false s lines).closing ∧
      (runLines true s lines).store = (runLines false s lines).store := by
  induction lines generalizing s with
  | nil => exact ⟨rfl, rfl⟩
  | cons line lines ih =>
    cases hline : decodeLine line with
    | none =>
      rw [runLines_of_none hline, runLines_of_none hline]
      exact ⟨rfl, rfl⟩
    | some text =>
      by_cases hended : (s.step text).ended = true
      · rw [runLines_of_ended hline hended, runLines_of_ended hline hended]
        exact ⟨rfl, rfl⟩
      · rw [runLines_of_not_ended hline hended, runLines_of_not_ended hline hended]
        exact ih (s.step text).session

/-! ## Runs over inputs -/

/-- With prompts a session closes in the same way, with the same failure and the same variables. If
the texts are what it writes for its lines without prompts, with prompts it writes one prompt, and
then each of these texts with the prompt behind its line. -/
theorem prompts_only_add (input : List UInt8) (st : Store) :
    (run true input st).closing = (run false input st).closing ∧
      (run true input st).failure? = (run false input st).failure? ∧
      (run true input st).store = (run false input st).store ∧
      (run false input st).written = ((start st).steps (linesOf input)).map Step.output ∧
      (run true input st).output =
        "> " ++ String.join
          (((start st).steps (linesOf input)).map fun step => step.output ++ step.prompt) := by
  obtain ⟨hclosing, hstore⟩ := runLines_true_false (start st) (linesOf input)
  refine ⟨hclosing, ?_, hstore, written_runLines_false _ _, ?_⟩
  · exact congrArg (fun closing => SessionRun.failure? ⟨[], [], closing, st⟩) hclosing
  · rw [← output_runLines_true, run, SessionRun.output_behind]
    rfl

example : (run true "1 +\n \n2;\n \n".toUTF8.toList .empty).output = "> 3\n> > " := by
  decide +kernel

end Session

end Calculator
