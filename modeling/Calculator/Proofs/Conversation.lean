import Calculator.Proofs.Composition
import Mathlib.Data.List.TakeWhile

/-!
# Conversations

A session whose lines are still being written takes one line off the front of what is to come, and
has its turn before it reads on. It comes to the same as a session over the whole input.
-/

namespace Calculator

/-! ## Cutting a line off -/

/-- The bytes up to the first line feed and with it, as they are read off a stream, and those
behind. -/
def cutLine : List UInt8 → List UInt8 × List UInt8
  | [] => ([], [])
  | b :: bs => if b = lineFeed then ([b], bs) else (b :: (cutLine bs).1, (cutLine bs).2)

theorem cutLine_cases (bytes : List UInt8) :
    (∃ line rest, lineFeed ∉ line ∧ bytes = line ++ lineFeed :: rest ∧
        cutLine bytes = (line ++ [lineFeed], rest)) ∨
      lineFeed ∉ bytes ∧ cutLine bytes = (bytes, []) := by
  induction bytes with
  | nil => exact .inr ⟨List.not_mem_nil, rfl⟩
  | cons b bs ih =>
    rw [cutLine]
    by_cases hb : b = lineFeed
    · rw [if_pos hb]
      exact .inl ⟨[], bs, List.not_mem_nil, by rw [hb, List.nil_append],
        by rw [hb, List.nil_append]⟩
    · rw [if_neg hb]
      have hcons {l : List UInt8} (hl : lineFeed ∉ l) : lineFeed ∉ b :: l :=
        fun hmem => (List.mem_cons.mp hmem).elim (fun heq => hb heq.symm) hl
      obtain ⟨line, rest, hline, hbs, hcut⟩ | ⟨hbs, hcut⟩ := ih
      · exact .inl ⟨b :: line, rest, hcons hline, by rw [hbs, List.cons_append],
          by rw [hcut, List.cons_append]⟩
      · exact .inr ⟨hcons hbs, by rw [hcut]⟩

theorem linesOf_of_not_mem {line : List UInt8} (h : lineFeed ∉ line) (hne : line ≠ []) :
    linesOf line = [line] := by
  have hline := forall_ne_lineFeed h
  have htake := List.takeWhile_eq_self_iff.mpr hline
  have hdrop := List.dropWhile_eq_nil_iff.mpr hline
  obtain ⟨b, bs, rfl⟩ := List.exists_cons_of_ne_nil hne
  rw [linesOf]
  split
  · rw [htake]
  · next hcons =>
    rw [hdrop] at hcons
    cases hcons

theorem linesOf_cutLine (bytes : List UInt8) :
    bytes = [] ∨ ∃ line, linesOf (cutLine bytes).1 = [line] ∧
      linesOf bytes = line :: linesOf (cutLine bytes).2 ∧
      (cutLine bytes).2.length < bytes.length := by
  obtain ⟨line, rest, hline, rfl, hcut⟩ | ⟨hbytes, hcut⟩ := cutLine_cases bytes
  · refine .inr ⟨dropReturn line, ?_, ?_, ?_⟩
    · rw [hcut, linesOf_line hline, linesOf]
    · rw [hcut, linesOf_line hline]
    · simp only [hcut, List.length_append, List.length_cons]
      omega
  · by_cases hne : bytes = []
    · exact .inl hne
    · refine .inr ⟨bytes, ?_, ?_, ?_⟩
      · rw [hcut, linesOf_of_not_mem hbytes hne]
      · rw [hcut, linesOf_of_not_mem hbytes hne, linesOf]
      · rw [hcut]
        exact List.length_pos_iff.mpr hne

/-! ## Turns -/

namespace Session

/-- What a session comes to that takes a turn for each line as it is cut off. -/
inductive Converses (interactive : Bool) : Session → List UInt8 → SessionRun → Prop where
  | exhausted {s : Session} {bytes : List UInt8} (hline : linesOf (cutLine bytes).1 = []) :
      Converses interactive s bytes s.exhausted
  | closes {s : Session} {bytes line : List UInt8} {more : List (List UInt8)} {last : SessionRun}
      (hline : linesOf (cutLine bytes).1 = line :: more)
      (hturn : s.turn interactive line = .closes last) : Converses interactive s bytes last
  | goesOn {s session : Session} {bytes line : List UInt8} {more : List (List UInt8)}
      {written : List String} {events : List Event} {r : SessionRun}
      (hline : linesOf (cutLine bytes).1 = line :: more)
      (hturn : s.turn interactive line = .goesOn written events session)
      (later : Converses interactive session (cutLine bytes).2 r) :
      Converses interactive s bytes (r.behind written events)

variable {interactive : Bool} {s : Session} {bytes : List UInt8} {r : SessionRun}

theorem linesOf_of_cut {line : List UInt8} {more : List (List UInt8)}
    (h : linesOf (cutLine bytes).1 = line :: more) :
    linesOf bytes = line :: linesOf (cutLine bytes).2 := by
  obtain rfl | ⟨first, hfirst, hlines, -⟩ := linesOf_cutLine bytes
  · rw [cutLine, linesOf] at h
    cases h
  · obtain ⟨rfl, -⟩ := List.cons.inj (hfirst.symm.trans h)
    exact hlines

theorem Converses.runLines_eq (h : Converses interactive s bytes r) :
    runLines interactive s (linesOf bytes) = r := by
  induction h with
  | @exhausted s bytes hline =>
    obtain rfl | ⟨line, hfirst, -, -⟩ := linesOf_cutLine bytes
    · rw [linesOf, runLines]
    · rw [hfirst] at hline
      cases hline
  | closes hline hturn => rw [linesOf_of_cut hline, runLines, hturn]
  | goesOn hline hturn _ ih =>
    rw [linesOf_of_cut hline, runLines, hturn, ← ih]

theorem converses_runLines (interactive : Bool) (s : Session) (bytes : List UInt8) :
    Converses interactive s bytes (runLines interactive s (linesOf bytes)) := by
  -- What is left behind a line is shorter.
  induction hn : bytes.length using Nat.strongRecOn generalizing s bytes with
  | ind n ih =>
    obtain rfl | ⟨line, hfirst, hlines, hlt⟩ := linesOf_cutLine bytes
    · rw [linesOf, runLines]
      exact .exhausted (by rw [cutLine, linesOf])
    · rw [hlines, runLines]
      cases hturn : s.turn interactive line with
      | closes last => exact .closes hfirst hturn
      | goesOn written events session =>
        exact .goesOn hfirst hturn (ih _ (hn ▸ hlt) session _ rfl)

theorem converses_iff :
    Converses interactive s bytes r ↔ r = runLines interactive s (linesOf bytes) := by
  constructor
  · intro h
    exact h.runLines_eq.symm
  · rintro rfl
    exact converses_runLines interactive s bytes

/-- A conversation prompts, takes its turns and comes to the same as a session over its input. -/
theorem run_eq_of_converses {st : Store} (h : Converses interactive (start st) bytes r) :
    run interactive bytes st = r.behind ((start st).prompts interactive) [] := by
  rw [run, converses_iff.mp h]

end Session

end Calculator
