import Calculator.Proofs.Tiling

/-!
# Joined lines scan like the lines

No written form holds a line feed, and a line feed is blank. So the text behind a line break changes
nothing of what is found before it, and two sources joined by a line break scan to the tokens of the
first and then those of the second.
-/

namespace Calculator

open Text

/-! ## A line break ends every written form -/

theorem TokenKind.Written.newline_not_mem {kind : TokenKind} {l : List Char}
    (h : kind.Written l) : '\n' ∉ l := by
  have htexts : ∀ kind ∈ all, '\n' ∉ kind.text.toList := by decide
  intro hl
  rcases h.mem_cases hl with hpart | hpoint | rfl | htext
  · cases hpart
  · cases hpoint
  · cases h with
    | @comment cs _ line =>
      have hcs : '\n' ∈ cs := by simpa using hl
      exact (line '\n' hcs).2 rfl
  · exact htexts kind (mem_all kind) htext

theorem isPrefix_of_append_newline {l cs ds : List Char} (hl : '\n' ∉ l)
    (h : l <+: cs ++ '\n' :: ds) : l <+: cs := by
  obtain h' | ⟨r, rfl⟩ := prefix_or_of_append_cons h
  · exact h'
  · simp at hl

theorem TokenKind.Cuts.append_newline {kind : TokenKind} {l cs : List Char}
    (h : kind.Cuts l cs) (ds : List Char) : kind.Cuts l (cs ++ '\n' :: ds) :=
  h.of_isPrefix (h.isPrefix.trans (List.prefix_append _ _)) fun _ _ hwritten hm =>
    isPrefix_of_append_newline hwritten.newline_not_mem hm

theorem Token.Carries.append_newline {t : Token} {l after : List Char} (h : t.Carries l after)
    (ds : List Char) : t.Carries l (after ++ '\n' :: ds) := by
  cases after with
  | nil =>
    -- Where the text ended the break now stands, and it is blank.
    cases t with
    | number n =>
      cases n with
      | integer n => exact h
      | float x => exact ⟨h.1, by rintro _ ⟨⟩; decide⟩
    | _ => exact h
  | cons c cs => exact h.of_head? rfl

theorem Refused.append {l after : List Char} (h : Refused l after) (ds : List Char) :
    Refused l (after ++ ds) := by
  obtain h | ⟨hpoint, c, hc, hblank⟩ := h
  · exact .inl h
  · obtain ⟨cs, rfl⟩ := List.head?_eq_some_iff.mp hc
    exact .inr ⟨hpoint, c, rfl, hblank⟩

theorem Tiles.append_newline {rest front : List Char} {ts : List Token} (h : Tiles rest front ts)
    (ds : List Char) : Tiles (rest ++ '\n' :: ds) front ts := by
  induction h with
  | nil => exact .nil
  | @cons gap l front t ts isGap cuts carries _ ih =>
    have hne : l ++ (front ++ rest) ≠ [] := by simp [cuts.written.ne_nil]
    refine .cons ?_ ?_ ?_ ih
    · refine isGap.of_head? ?_
      rw [← List.append_assoc front, ← List.append_assoc l, List.head?_append_of_ne_nil _ hne]
    · simpa using cuts.append_newline ds
    · simpa using carries.append_newline ds

namespace ScanError

/-- The same error where a line break and more text follow. -/
def followedBy (s : String) : ScanError → ScanError
  | .unknownToken n rest => .unknownToken n (rest ++ "\n" ++ s)
  | .malformedNumber n l => .malformedNumber n l

/-- The same error with more bytes before it. -/
def shift (bytes : Nat) : ScanError → ScanError
  | .unknownToken n rest => .unknownToken (bytes + n) rest
  | .malformedNumber n l => .malformedNumber (bytes + n) l

end ScanError

theorem Stuck.append_newline {offset : Nat} {rest : List Char} {err : ScanError}
    (h : Stuck offset rest err) (s : String) :
    Stuck offset (rest ++ '\n' :: s.toList) (err.followedBy s) := by
  cases h with
  | unknown nonempty none =>
    have htext : String.ofList rest ++ "\n" ++ s = String.ofList (rest ++ '\n' :: s.toList) := by
      apply String.toList_injective
      simp
    rw [ScanError.followedBy, htext]
    refine .unknown (by simp) fun kind l hl hwritten => ?_
    exact none kind l (isPrefix_of_append_newline hwritten.newline_not_mem hl) hwritten
  | @malformed l after split cuts refused =>
    subst split
    refine .malformed (List.append_assoc _ _ _) (cuts.append_newline _) (refused.append _)

/-! ## Moving a cursor -/

theorem Stuck.shift {offset : Nat} {rest : List Char} {err : ScanError} (h : Stuck offset rest err)
    (bytes : Nat) : Stuck (bytes + offset) rest (err.shift bytes) := by
  cases h with
  | unknown nonempty none => exact .unknown nonempty none
  | malformed split cuts refused => exact .malformed split cuts refused

namespace Cursor

theorem scan_shift (bytes offset : Nat) (cs : List Char) :
    (Cursor.mk (bytes + offset) cs).scan =
      (Cursor.mk offset cs).scan.mapError (ScanError.shift bytes) := by
  obtain ⟨front, gap, rest, ts, rfl, htiles, hgap, hend⟩ := exists_tiles offset cs
  obtain rfl | ⟨err, hstuck⟩ := hend
  · rw [List.append_nil] at htiles ⊢
    rw [scan_of_tiles_end htiles hgap, scan_of_tiles_end htiles hgap]
    rfl
  · have hshift := hstuck.shift bytes
    rw [← Nat.add_assoc] at hshift
    rw [scan_of_tiles_stuck htiles hgap hstuck, scan_of_tiles_stuck htiles hgap hshift]
    rfl

theorem scan_congr {c d : Cursor} (h : c.next = d.next) : c.scan = d.scan := by
  rcases hc : c.next with ⟨err | _ | t, e⟩
  all_goals have hd := h.symm.trans hc
  · rw [scan_of_error (congrArg Prod.fst hc), scan_of_error (congrArg Prod.fst hd)]
  · rw [scan_of_none hc, scan_of_none hd]
  · rw [scan_of_some hc, scan_of_some hd]

theorem skipBlanks_blanks {gap : List Char} (h : ∀ c ∈ gap, isBlank c) (offset : Nat)
    (cs : List Char) :
    (Cursor.mk offset (gap ++ cs)).skipBlanks =
      (Cursor.mk (offset + byteLength gap) cs).skipBlanks := by
  obtain ⟨gap', rest, rfl, hgap⟩ := exists_isGap cs
  have hboth : IsGap (gap ++ gap') rest := by
    refine ⟨fun c hc => ?_, hgap.maximal⟩
    exact (List.mem_append.mp hc).elim (h c) (hgap.blank c)
  have hskip := skipBlanks_of_isGap hboth offset
  rwa [List.append_assoc, byteLength_append, ← Nat.add_assoc,
    ← skipBlanks_of_isGap hgap (offset + byteLength gap)] at hskip

theorem scan_blanks {gap : List Char} (h : ∀ c ∈ gap, isBlank c) (offset : Nat)
    (cs : List Char) :
    (Cursor.mk offset (gap ++ cs)).scan = (Cursor.mk (offset + byteLength gap) cs).scan := by
  apply scan_congr
  simp only [next, skipBlanks_blanks h]

end Cursor

/-! ## The law -/

theorem toList_join (s t : String) :
    (s ++ "\n" ++ t).toList = s.toList ++ '\n' :: t.toList := by
  simp

theorem utf8ByteSize_eq_byteLength (s : String) : s.utf8ByteSize = byteLength s.toList := by
  rw [← utf8ByteSize_ofList, String.ofList_toList]

theorem exists_tiles_join {s : String} {us : List Token} (h : scan s = .ok us) (t : String) :
    ∃ front gap, (s ++ "\n" ++ t).toList = front ++ (gap ++ t.toList) ∧
      Tiles (gap ++ t.toList) front us ∧ (∀ c ∈ gap, isBlank c) ∧
      byteLength front + byteLength gap = s.utf8ByteSize + 1 := by
  obtain ⟨front, gap, hs, htiles, hgap⟩ := scan_eq_ok_iff.mp h
  refine ⟨front, gap ++ ['\n'], ?_, ?_, fun c hc => ?_, ?_⟩
  · rw [toList_join, hs]
    simp
  · simpa using htiles.append_newline t.toList
  · rcases List.mem_append.mp hc with hc | hc
    · exact hgap.blank c hc
    · rw [List.mem_singleton.mp hc]
      decide
  · rw [utf8ByteSize_eq_byteLength, hs]
    simp only [byteLength_append, byteLength_cons, byteLength_nil]
    have hsize : '\n'.utf8Size = 1 := by decide
    omega

theorem scan_join_of_ok {s : String} {us : List Token} (h : scan s = .ok us) (t : String) :
    scan (s ++ "\n" ++ t) =
      ((scan t).mapError (ScanError.shift (s.utf8ByteSize + 1))).map (us ++ ·) := by
  obtain ⟨front, gap, htext, htiles, hblank, hsize⟩ := exists_tiles_join h t
  have hshift := Cursor.scan_shift (s.utf8ByteSize + 1) 0 t.toList
  rw [Nat.add_zero] at hshift
  rw [scan, Cursor.start, htext, Cursor.scan_of_tiles htiles, Nat.zero_add,
    Cursor.scan_blanks hblank, hsize, hshift]
  rfl

theorem scan_join_of_error {s : String} {err : ScanError} (h : scan s = .error err) (t : String) :
    scan (s ++ "\n" ++ t) = .error (err.followedBy t) := by
  obtain ⟨front, gap, rest, ts, hs, htiles, hgap, hstuck⟩ := scan_eq_error_iff.mp h
  have hne : rest ≠ [] := by
    cases hstuck with
    | unknown nonempty _ => exact nonempty
    | malformed split cuts _ => simp [split, cuts.written.ne_nil]
  refine scan_eq_error_iff.mpr ⟨front, gap, rest ++ '\n' :: t.toList, ts, ?_, ?_,
    hgap.of_head? (List.head?_append_of_ne_nil _ hne), hstuck.append_newline t⟩
  · rw [toList_join, hs]
    simp
  · simpa using htiles.append_newline t.toList

theorem exists_scan_of_join {s t : String} {ts : List Token} (h : scan (s ++ "\n" ++ t) = .ok ts) :
    ∃ us vs, scan s = .ok us ∧ scan t = .ok vs ∧ ts = us ++ vs := by
  cases hs : scan s with
  | error err =>
    rw [scan_join_of_error hs] at h
    cases h
  | ok us =>
    rw [scan_join_of_ok hs] at h
    cases ht : scan t with
    | error err =>
      rw [ht] at h
      cases h
    | ok vs =>
      rw [ht] at h
      cases h
      exact ⟨us, vs, rfl, rfl, rfl⟩

/-- Scanning two sources joined by a line break: the tokens of both in turn, the error of the second
behind the bytes of the first, or the error of the first, whose unknown rest then takes in all that
follows. -/
theorem scan_join (s t : String) :
    scan (s ++ "\n" ++ t) =
      match scan s, scan t with
      | .ok us, .ok vs => .ok (us ++ vs)
      | .ok _, .error err => .error (err.shift (s.utf8ByteSize + 1))
      | .error (.malformedNumber n l), _ => .error (.malformedNumber n l)
      | .error (.unknownToken n rest), _ => .error (.unknownToken n (rest ++ "\n" ++ t)) := by
  cases hs : scan s with
  | ok us =>
    rw [scan_join_of_ok hs]
    cases scan t <;> rfl
  | error err =>
    rw [scan_join_of_error hs]
    cases err <;> rfl

-- The comment ends with its line, and so the second line fails at its own place.
example : scan ("1 // @" ++ "\n" ++ "2 @") = .error (.unknownToken 9 "@") := by decide +kernel

end Calculator
