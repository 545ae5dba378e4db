import Calculator.Proofs.Places

/-!
# Stepping a cursor

A step takes a cursor over a beginning of what is left, so it always stands between two characters.
The end and an unknown token are found again with each further step. Every other step passes at
least one byte, a refused numeral included. So nothing changes any more after as many steps as the
source has bytes.
-/

namespace Calculator

open Text

/-- What every further step finds again. -/
def Found.IsFinal : Found → Prop
  | .ok none => True
  | .error (.unknownToken _ _) => True
  | _ => False

namespace Cursor

/-- The cursor behind `n` steps. -/
def after (c : Cursor) : Nat → Cursor
  | 0 => c
  | n + 1 => (c.after n).next.2

theorem after_add (c : Cursor) (m n : Nat) : c.after (m + n) = (c.after m).after n := by
  induction n with
  | zero => rfl
  | succ n ih => rw [← Nat.add_assoc, after, after, ih]

theorem steps_add (c : Cursor) (m n : Nat) :
    steps (m + n) c = steps m c ++ steps n (c.after m) := by
  induction m generalizing c with
  | zero => rw [Nat.zero_add, after, steps, List.nil_append]
  | succ m ih =>
    have hafter : c.after (m + 1) = c.next.2.after m := by
      rw [Nat.add_comm, after_add, after, after]
    rw [Nat.add_right_comm, steps, steps, ih, hafter, List.cons_append]

/-! ## One step -/

theorem skipBlanks_skipBlanks (c : Cursor) : c.skipBlanks.skipBlanks = c.skipBlanks := by
  obtain ⟨gap, rest, hrest, hgap⟩ := exists_isGap c.rest
  have hskip := skipBlanks_of_isGap hgap c.offset
  rw [← hrest] at hskip
  have hempty : IsGap [] rest := ⟨by simp, hgap.maximal⟩
  rw [hskip]
  exact skipBlanks_of_isGap hempty _

theorem next_skipBlanks (c : Cursor) : c.skipBlanks.next = c.next := by
  simp only [next, skipBlanks_skipBlanks]

/-- All that a step can come to, behind the blanks. -/
inductive Step (c : Cursor) : Found × Cursor → Prop where
  | atEnd (empty : c.skipBlanks.rest = []) : Step c (.ok none, c.skipBlanks)
  | unknown : Step c
      (.error (.unknownToken c.skipBlanks.offset (String.ofList c.skipBlanks.rest)), c.skipBlanks)
  | token {l : List Char} (t : Token) (isPrefix : l <+: c.skipBlanks.rest) (nonempty : l ≠ []) :
      Step c (.ok (some t), c.skipBlanks.advance l)
  | refused {l : List Char} (isPrefix : l <+: c.skipBlanks.rest) (nonempty : l ≠ []) : Step c
      (.error (.malformedNumber c.skipBlanks.offset (String.ofList l)), c.skipBlanks.advance l)

theorem step_next (c : Cursor) : c.Step c.next := by
  simp only [next]
  split
  · next hrest => exact .atEnd (List.isEmpty_iff.mp hrest)
  · split
    · exact .unknown
    · next kind l hfirst =>
      obtain ⟨hl, hne⟩ := TokenKind.isPrefix_of_first? hfirst
      split
      · next t _ => exact .token t hl hne
      · exact .refused hl hne

theorem next_next {c : Cursor} (h : c.next.1.IsFinal) : c.next.2.next = c.next := by
  have hstep := c.step_next
  generalize hnext : c.next = r at h hstep ⊢
  cases hstep with
  | atEnd | unknown => rw [next_skipBlanks, hnext]
  | token | refused => cases h

theorem offset_lt_next {c : Cursor} (h : ¬ c.next.1.IsFinal) : c.offset < c.next.2.offset := by
  have hstep := c.step_next
  have hskip := c.offset_le_skipBlanks
  generalize c.next = r at h hstep ⊢
  cases hstep with
  | atEnd | unknown => exact absurd trivial h
  | token _ _ hne | refused _ hne =>
    have hl := byteLength_pos hne
    dsimp only [advance]
    omega

/-! ## Places in the source -/

/-- `d` stands in the same text as `c` or behind it. -/
def Reaches (c d : Cursor) : Prop :=
  ∃ passed, c.rest = passed ++ d.rest ∧ d.offset = c.offset + byteLength passed

namespace Reaches

variable {c d e : Cursor}

theorem refl (c : Cursor) : c.Reaches c := ⟨[], rfl, rfl⟩

theorem trans (h : c.Reaches d) (h' : d.Reaches e) : c.Reaches e := by
  obtain ⟨front, hrest, hoffset⟩ := h
  obtain ⟨middle, hrest', hoffset'⟩ := h'
  refine ⟨front ++ middle, ?_, ?_⟩
  · rw [hrest, hrest', List.append_assoc]
  · rw [hoffset', hoffset, byteLength_append, Nat.add_assoc]

theorem advance {l : List Char} (h : l <+: c.rest) : c.Reaches (c.advance l) := by
  obtain ⟨after, hafter⟩ := h
  refine ⟨l, ?_, rfl⟩
  rw [Cursor.advance, ← hafter, List.drop_left]

theorem skipBlanks (c : Cursor) : c.Reaches c.skipBlanks :=
  advance (List.takeWhile_prefix _)

theorem next (c : Cursor) : c.Reaches c.next.2 := by
  have hstep := c.step_next
  refine (Reaches.skipBlanks c).trans ?_
  generalize c.next = r at hstep ⊢
  cases hstep with
  | atEnd | unknown => exact refl _
  | token _ hl _ | refused hl _ => exact advance hl

theorem after (c : Cursor) (n : Nat) : c.Reaches (c.after n) := by
  induction n with
  | zero => exact refl c
  | succ n ih => exact ih.trans (next _)

theorem offset_le (h : c.Reaches d) : c.offset ≤ d.offset := by
  obtain ⟨passed, -, hoffset⟩ := h
  omega

theorem offset_le_end (h : c.Reaches d) : d.offset ≤ c.offset + byteLength c.rest := by
  obtain ⟨passed, hrest, hoffset⟩ := h
  rw [hrest, byteLength_append]
  omega

theorem split {source : String} (h : (start source).Reaches d) :
    ∃ passed, source = passed ++ String.ofList d.rest ∧ d.offset = passed.utf8ByteSize := by
  obtain ⟨passed, hrest, hoffset⟩ := h
  refine ⟨String.ofList passed, ?_, ?_⟩
  · rw [← String.ofList_append, ← hrest, start, String.ofList_toList]
  · rw [hoffset, utf8ByteSize_ofList, start, Nat.zero_add]

theorem isValid {source : String} (h : (start source).Reaches d) :
    (String.Pos.Raw.mk d.offset).IsValid source := by
  obtain ⟨passed, hsource, hoffset⟩ := h.split
  exact String.Pos.Raw.isValid_iff_exists_append.mpr ⟨passed, _, hsource, by rw [hoffset]; rfl⟩

end Reaches

/-! ## Runs -/

theorem next_after {c : Cursor} (h : c.next.1.IsFinal) (n : Nat) : (c.after n).next = c.next := by
  induction n with
  | zero => rfl
  | succ n ih => rw [after, ih, next_next h]

theorem steps_of_isFinal {c : Cursor} (h : c.next.1.IsFinal) (n : Nat) :
    steps n c = List.replicate n c.next.1 := by
  induction n generalizing c with
  | zero => rfl
  | succ n ih =>
    have hstay := next_next h
    rw [← hstay] at h
    rw [steps, ih h, hstay, List.replicate_succ]

theorem isFinal_or_offset_lt (c : Cursor) (n : Nat) :
    (c.after n).next.1.IsFinal ∨ c.offset + n < (c.after (n + 1)).offset := by
  induction n with
  | zero => exact or_iff_not_imp_left.mpr offset_lt_next
  | succ n ih =>
    by_cases hfinal : (c.after (n + 1)).next.1.IsFinal
    · exact .inl hfinal
    right
    have hlt := offset_lt_next hfinal
    obtain hbefore | hbefore := ih
    · have hstay := next_next hbefore
      rw [after, hstay] at hfinal
      exact absurd hbefore hfinal
    · rw [after]
      omega

theorem isFinal_after {c : Cursor} {n : Nat} (h : byteLength c.rest ≤ n) :
    (c.after n).next.1.IsFinal := by
  have hend := (Reaches.after c (n + 1)).offset_le_end
  obtain hfinal | hlt := c.isFinal_or_offset_lt n
  · exact hfinal
  · omega

/-- Wherever a run has come to, its cursor stands between two characters of the source, also behind
the blanks there. No step goes back, a step that finds a token or refuses a numeral passes at least
one byte, and what any other step finds is found for good. So as many steps as the source has bytes
come to the last word: the end, or one unknown token with all the rest of the source. -/
theorem stepping_settles (source : String) :
    (∀ n, let c := (start source).after n
      (String.Pos.Raw.mk c.offset).IsValid source ∧
        (String.Pos.Raw.mk c.skipBlanks.offset).IsValid source ∧
        c.offset ≤ source.utf8ByteSize ∧
        (∃ passed, source = passed ++ String.ofList c.rest ∧ c.offset = passed.utf8ByteSize) ∧
        c.offset ≤ c.next.2.offset ∧
        (¬ c.next.1.IsFinal → c.offset < c.next.2.offset) ∧
        (c.next.1.IsFinal → ∀ m, ((start source).after (n + m)).next.1 = c.next.1)) ∧
    ∃ last : Found × Cursor,
      (∀ n, source.utf8ByteSize ≤ n → ((start source).after n).next = last) ∧
      (∀ n, steps (source.utf8ByteSize + n) (start source) =
        steps source.utf8ByteSize (start source) ++ List.replicate n last.1) ∧
      (last = (.ok none, ⟨source.utf8ByteSize, []⟩) ∨
        ∃ passed remainder, source = passed ++ remainder ∧
          last = (.error (.unknownToken passed.utf8ByteSize remainder),
            ⟨passed.utf8ByteSize, remainder.toList⟩)) := by
  have hsize : byteLength (start source).rest = source.utf8ByteSize :=
    (utf8ByteSize_eq_byteLength source).symm
  have hsettled := isFinal_after (Nat.le_of_eq hsize)
  refine ⟨fun n => ?_, ((start source).after source.utf8ByteSize).next, fun n hn => ?_,
    fun n => ?_, ?_⟩
  · have hreach := Reaches.after (start source) n
    have hend := hreach.offset_le_end
    refine ⟨hreach.isValid, (hreach.trans (.skipBlanks _)).isValid, ?_, hreach.split,
      (Reaches.next _).offset_le, offset_lt_next, fun hfinal m => ?_⟩
    · rwa [hsize, start, Nat.zero_add] at hend
    · rw [after_add, next_after hfinal]
  · obtain ⟨m, rfl⟩ := Nat.exists_eq_add_of_le hn
    rw [after_add, next_after hsettled]
  · rw [steps_add, steps_of_isFinal hsettled]
  · have hreach := Reaches.after (start source) source.utf8ByteSize
    generalize (start source).after source.utf8ByteSize = c at hsettled hreach ⊢
    obtain ⟨passed, hsource, hoffset⟩ := (hreach.trans (.skipBlanks c)).split
    have hstep := c.step_next
    generalize c.next = r at hsettled hstep ⊢
    cases hstep with
    | atEnd hrest =>
      left
      rw [hrest, String.ofList_nil, String.append_empty] at hsource
      rw [hsource, ← hoffset, ← hrest]
    | unknown =>
      right
      refine ⟨passed, _, hsource, ?_⟩
      rw [← hoffset, String.toList_ofList]
    | token | refused => cases hsettled

-- The blank in front takes three bytes.
example : steps 3 (start "\u3000x €") =
    [.ok (some (.name "x")), .error (.unknownToken 5 "€"), .error (.unknownToken 5 "€")] := by
  decide +kernel

/-! ## Errors -/

def shift (bytes : Nat) (c : Cursor) : Cursor := ⟨bytes + c.offset, c.rest⟩

theorem next_shift (bytes : Nat) (c : Cursor) :
    (c.shift bytes).next = (c.next.1.mapError (.shift bytes), c.next.2.shift bytes) := by
  simp only [next, skipBlanks, advance, shift, Nat.add_assoc]
  split
  · rfl
  · split
    · rfl
    · split <;> rfl

theorem after_shift (bytes : Nat) (c : Cursor) (n : Nat) :
    (c.shift bytes).after n = (c.after n).shift bytes := by
  induction n with
  | zero => rfl
  | succ n ih => rw [after, ih, next_shift, after]

theorem offset_le_of_error {c : Cursor} {err : ScanError} (h : c.next.1 = .error err) :
    c.offset ≤ err.offset := by
  have hstep := c.step_next
  generalize c.next = r at h hstep
  cases hstep with
  | atEnd | token => cases h
  | unknown | refused =>
    cases h
    exact c.offset_le_skipBlanks

theorem exists_of_refused {c : Cursor} {offset : Nat} {numeral : String}
    (h : c.next.1 = .error (.malformedNumber offset numeral)) :
    ∃ rest, c.skipBlanks = ⟨offset, numeral.toList ++ rest⟩ ∧ numeral.toList ≠ [] ∧
      c.next.2 = ⟨offset + numeral.utf8ByteSize, rest⟩ := by
  have hstep := c.step_next
  generalize c.next = r at h hstep ⊢
  cases hstep with
  | atEnd | unknown | token => cases h
  | refused hl hne =>
    cases h
    obtain ⟨rest, hrest⟩ := hl
    refine ⟨rest, ?_, ?_, ?_⟩
    · rw [String.toList_ofList, hrest]
    · rwa [String.toList_ofList]
    · rw [advance, ← hrest, List.drop_left, utf8ByteSize_ofList]

/-- A run stays at an error exactly if it is an unknown token. Behind a refused numeral it goes on
as a run from the start of what follows the numeral, and never finds the same error again. -/
theorem stays_iff_unknownToken {source : String} {n : Nat} {err : ScanError}
    (h : ((start source).after n).next.1 = .error err) :
    ((∀ m, ((start source).after (n + m)).next.1 = .error err) ↔
      ∃ offset remainder, err = .unknownToken offset remainder) ∧
    ∀ offset numeral, err = .malformedNumber offset numeral →
      ∃ passed rest, source = passed ++ numeral ++ rest ∧ offset = passed.utf8ByteSize ∧
        ∀ m, ((start source).after (n + 1 + m)).next.1 =
            ((start rest).after m).next.1.mapError (.shift (offset + numeral.utf8ByteSize)) ∧
          ((start source).after (n + 1 + m)).next.1 ≠ .error err := by
  cases err with
  | unknownToken offset remainder =>
    refine ⟨⟨fun _ => ⟨offset, remainder, rfl⟩, fun _ m => ?_⟩, fun _ _ hrefused => ?_⟩
    · have hfinal : ((start source).after n).next.1.IsFinal := by
        rw [h]
        exact trivial
      rw [after_add, next_after hfinal, h]
    · cases hrefused
  | malformedNumber offset numeral =>
    obtain ⟨rest, hskip, hne, hnext⟩ := exists_of_refused h
    have hreach := (Reaches.after (start source) n).trans (.skipBlanks _)
    obtain ⟨passed, hsource, hoffset⟩ := hreach.split
    rw [hskip] at hsource hoffset
    have hbehind : (start source).after (n + 1) =
        (start (String.ofList rest)).shift (offset + numeral.utf8ByteSize) := by
      rw [after, hnext, shift, start, String.toList_ofList, Nat.add_zero]
    have hpos := byteLength_pos hne
    rw [← utf8ByteSize_eq_byteLength] at hpos
    have hnever (m : Nat) :
        ((start source).after (n + 1 + m)).next.1 ≠ .error (.malformedNumber offset numeral) := by
      intro hagain
      have hle := offset_le_of_error hagain
      have hreach' := (Reaches.after ((start source).after (n + 1)) m).offset_le
      rw [← after_add] at hreach'
      rw [after, hnext] at hreach'
      dsimp only [ScanError.offset] at hle hreach'
      omega
    refine ⟨⟨fun hstays => absurd (hstays 1) (hnever 0), ?_⟩, ?_⟩
    · rintro ⟨_, _, hunknown⟩
      cases hunknown
    · rintro _ _ ⟨⟩
      refine ⟨passed, String.ofList rest, ?_, hoffset, fun m => ⟨?_, hnever m⟩⟩
      · rw [hsource, String.ofList_append, String.ofList_toList, String.append_assoc]
      · rw [after_add, hbehind, after_shift, next_shift]

/-- A letter clings to `2.5`, and the run goes on at the letter. -/
theorem stays_iff_unknownToken_behind_fraction :
    ((start "1 2.5x").after 1).next.1 = .error (.malformedNumber 2 "2.5") ∧
      ¬ (∀ m, ((start "1 2.5x").after (1 + m)).next.1 = .error (.malformedNumber 2 "2.5")) ∧
      ∃ passed rest, "1 2.5x" = passed ++ "2.5" ++ rest ∧ 2 = passed.utf8ByteSize ∧
        ∀ m, ((start "1 2.5x").after (1 + 1 + m)).next.1 =
            ((start rest).after m).next.1.mapError (.shift (2 + "2.5".utf8ByteSize)) ∧
          ((start "1 2.5x").after (1 + 1 + m)).next.1 ≠ .error (.malformedNumber 2 "2.5") := by
  have h : ((start "1 2.5x").after 1).next.1 = .error (.malformedNumber 2 "2.5") := by
    decide +kernel
  obtain ⟨hstays, hbehind⟩ := stays_iff_unknownToken h
  refine ⟨h, fun hall => ?_, hbehind 2 "2.5" rfl⟩
  obtain ⟨_, _, hunknown⟩ := hstays.mp hall
  cases hunknown

/-- A fraction in front of a semicolon is refused, and the semicolon is found all the same. -/
theorem steps_behind_refused_numeral :
    (start "1.5;").steps 2 = [.error (.malformedNumber 0 "1.5"), .ok (some .semicolon)] := by
  decide +kernel

end Cursor

end Calculator
