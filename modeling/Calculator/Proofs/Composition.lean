import Calculator.Session

/-!
# Sessions compose

Lines are read one by one, and a session carries nothing from one line to the next but its store and
its unfinished statement. So an input may be cut behind any line: where no statement is unfinished
there, a new session goes on from the store, and where the session has ended, nothing more is read.
-/

namespace Calculator

/-! ## Lines -/

/-- Every line of the input has its end, the last one too. -/
def EndsLine (bytes : List UInt8) : Prop := ∀ b ∈ bytes.getLast?, b = lineFeed

instance (bytes : List UInt8) : Decidable (EndsLine bytes) :=
  inferInstanceAs (Decidable (∀ b ∈ bytes.getLast?, b = lineFeed))

theorem EndsLine.mem {bytes : List UInt8} (h : EndsLine bytes) (hne : bytes ≠ []) :
    lineFeed ∈ bytes := by
  have hlast := List.getLast?_eq_some_getLast hne
  rw [← h _ hlast]
  exact List.getLast_mem hne

theorem EndsLine.of_append {line rest : List UInt8} (h : EndsLine (line ++ lineFeed :: rest)) :
    EndsLine rest := by
  intro b hb
  refine h b ?_
  simp [List.getLast?_cons, Option.mem_def.mp hb]

theorem forall_ne_lineFeed {line : List UInt8} (h : lineFeed ∉ line) :
    ∀ b ∈ line, decide (b ≠ lineFeed) = true := by
  intro b hb
  rw [decide_eq_true_eq]
  rintro rfl
  exact h hb

theorem linesOf_line {line : List UInt8} (h : lineFeed ∉ line) (rest : List UInt8) :
    linesOf (line ++ lineFeed :: rest) = dropReturn line :: linesOf rest := by
  have hline := forall_ne_lineFeed h
  have htake : (line ++ lineFeed :: rest).takeWhile (· ≠ lineFeed) = line := by
    rw [List.takeWhile_append_of_pos hline, List.takeWhile_cons_of_neg (by simp), List.append_nil]
  have hdrop : (line ++ lineFeed :: rest).dropWhile (· ≠ lineFeed) = lineFeed :: rest := by
    rw [List.dropWhile_append_of_pos hline, List.dropWhile_cons_of_neg (by simp)]
  obtain ⟨b, bs, hcons⟩ : ∃ b bs, line ++ lineFeed :: rest = b :: bs :=
    List.exists_cons_of_ne_nil (by simp)
  rw [hcons] at htake hdrop ⊢
  rw [linesOf]
  split <;> simp_all

theorem linesOf_append {a : List UInt8} (ha : EndsLine a) (b : List UInt8) :
    linesOf (a ++ b) = linesOf a ++ linesOf b := by
  -- The text behind the first line is shorter, and it has all its ends too.
  induction hn : a.length using Nat.strongRecOn generalizing a with
  | ind n ih =>
    by_cases hne : a = []
    · rw [hne, List.nil_append, linesOf, List.nil_append]
    · obtain ⟨line, rest, rfl, hline⟩ := List.eq_append_cons_of_mem (ha.mem hne)
      have hlt : rest.length < n := by
        simp only [List.length_append, List.length_cons] at hn
        omega
      rw [List.append_assoc, List.cons_append, linesOf_line hline, linesOf_line hline,
        ih rest.length hlt ha.of_append rfl, List.cons_append]

/-! ## What comes before a run -/

namespace SessionRun

variable (texts more : List String) (events later : List Event) (r : SessionRun)

@[simp] theorem closing_behind : (r.behind texts events).closing = r.closing := rfl

@[simp] theorem store_behind : (r.behind texts events).store = r.store := rfl

@[simp] theorem written_behind : (r.behind texts events).written = texts ++ r.written := rfl

@[simp] theorem events_behind : (r.behind texts events).events = events ++ r.events := rfl

theorem behind_behind :
    (r.behind more later).behind texts events = r.behind (texts ++ more) (events ++ later) := by
  simp only [behind, List.append_assoc]

theorem output_behind : (r.behind texts events).output = String.join texts ++ r.output := by
  apply String.toList_injective
  simp [output, String.toList_join]

end SessionRun

namespace Session

/-! ## Runs over lines -/

section Lines

variable {interactive : Bool} {s : Session} {line : List UInt8} {lines : List (List UInt8)}

theorem runLines_of_none (h : decodeLine line = none) :
    runLines interactive s (line :: lines) = ⟨[], [], .failed .notUtf8, s.store⟩ := by
  simp only [runLines, turn, h]

theorem runLines_of_ended {text : String} (h : decodeLine line = some text)
    (hended : (s.step text).ended = true) :
    runLines interactive s (line :: lines) =
      ⟨[(s.step text).output], (s.step text).events, .quit, (s.step text).session.store⟩ := by
  simp only [runLines, turn, h, if_pos hended]

theorem runLines_of_not_ended {text : String} (h : decodeLine line = some text)
    (hended : ¬ (s.step text).ended = true) :
    runLines interactive s (line :: lines) =
      (runLines interactive (s.step text).session lines).behind
        ((s.step text).output :: (s.step text).session.prompts interactive)
        (s.step text).events := by
  simp only [runLines, turn, h, if_neg hended]

end Lines

theorem runLines_append (interactive : Bool) (s : Session) (lines more : List (List UInt8)) :
    runLines interactive s (lines ++ more) =
      match (runLines interactive s lines).closing with
      | .exhausted b =>
        (runLines interactive ⟨(runLines interactive s lines).store, b⟩ more).behind
          (runLines interactive s lines).written (runLines interactive s lines).events
      | _ => runLines interactive s lines := by
  induction lines generalizing s with
  | nil => rfl
  | cons line lines ih =>
    rw [List.cons_append]
    cases hline : decodeLine line with
    | none => rw [runLines_of_none hline, runLines_of_none hline]
    | some text =>
      by_cases hended : (s.step text).ended = true
      · rw [runLines_of_ended hline hended, runLines_of_ended hline hended]
      · rw [runLines_of_not_ended hline hended, runLines_of_not_ended hline hended, ih]
        cases hclosing : (runLines interactive (s.step text).session lines).closing with
        | exhausted b => simp only [SessionRun.closing_behind, hclosing,
            SessionRun.behind_behind, SessionRun.store_behind, SessionRun.written_behind,
            SessionRun.events_behind]
        | quit | failed e => simp only [SessionRun.closing_behind, hclosing]

/-! ## Runs over inputs -/

theorem run_false (input : List UInt8) (st : Store) :
    run false input st = runLines false (start st) (linesOf input) := rfl

/-- Cutting an input behind a line. Where nothing is unfinished at the cut, the rest is a session of
its own, on the store left by the first. Where the first has ended by then, the rest is not read. -/
theorem run_append {a : List UInt8} (ha : EndsLine a) (b : List UInt8) (st : Store) :
    ((run false a st).closing = .exhausted .empty →
      (run false (a ++ b) st).output =
          (run false a st).output ++ (run false b (run false a st).store).output ∧
        (run false (a ++ b) st).store = (run false b (run false a st).store).store ∧
        (run false (a ++ b) st).failure? = (run false b (run false a st).store).failure?) ∧
    ((run false a st).closing = .quit ∨ (∃ e, (run false a st).closing = .failed e) →
      run false (a ++ b) st = run false a st) := by
  have happend := runLines_append false (start st) (linesOf a) (linesOf b)
  rw [← linesOf_append ha, ← run_false, ← run_false] at happend
  constructor
  · intro h
    have hwhole : run false (a ++ b) st =
        (run false b (run false a st).store).behind (run false a st).written
          (run false a st).events := by
      rw [happend, h]
      rfl
    rw [hwhole]
    exact ⟨SessionRun.output_behind _ _ _, rfl, rfl⟩
  · rintro (h | ⟨e, h⟩)
    · rw [happend, h]
    · rw [happend, h]

/-- Behind `x +` and `3;` on two lines the last line goes on with the `x` of the first. Behind
`quit` it is not read. -/
theorem run_append_behind_sum :
    EndsLine "x := 1;\r\nx +\n3;\n".toUTF8.toList ∧
      (run false "x := 1;\r\nx +\n3;\n".toUTF8.toList .empty).closing = .exhausted .empty ∧
      (run false ("x := 1;\r\nx +\n3;\n".toUTF8.toList ++ "x;".toUTF8.toList) .empty).output =
        (run false "x := 1;\r\nx +\n3;\n".toUTF8.toList .empty).output ++
          (run false "x;".toUTF8.toList
            (run false "x := 1;\r\nx +\n3;\n".toUTF8.toList .empty).store).output ∧
      EndsLine "1 +\nQuit//\n".toUTF8.toList ∧
      (run false "1 +\nQuit//\n".toUTF8.toList .empty).closing = .quit ∧
      run false ("1 +\nQuit//\n".toUTF8.toList ++ "x;".toUTF8.toList) .empty =
        run false "1 +\nQuit//\n".toUTF8.toList .empty := by
  have hsum : EndsLine "x := 1;\r\nx +\n3;\n".toUTF8.toList := by decide +kernel
  have hexhausted : (run false "x := 1;\r\nx +\n3;\n".toUTF8.toList .empty).closing =
      .exhausted .empty := by decide +kernel
  have hlast : EndsLine "1 +\nQuit//\n".toUTF8.toList := by decide +kernel
  have hquit : (run false "1 +\nQuit//\n".toUTF8.toList .empty).closing = .quit := by
    decide +kernel
  exact ⟨hsum, hexhausted, ((run_append hsum _ _).1 hexhausted).1, hlast, hquit,
    (run_append hlast _ _).2 (.inl hquit)⟩

end Session

end Calculator
