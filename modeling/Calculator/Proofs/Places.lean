import Calculator.Proofs.LineJoining

/-!
# The places of tokens

A token has its place where its written form begins. Places are offsets into the whole source, so
they tell which line of a joined source a token comes from.
-/

namespace Calculator

open Text

structure PlacedToken where
  offset : Nat
  token : Token
deriving DecidableEq

namespace Cursor

/-- The tokens from the cursor on, up to the end or the first error, each with its place. -/
def placed (c : Cursor) : List PlacedToken :=
  match _h : c.next with
  | (.ok (some t), d) => ⟨c.skipBlanks.offset, t⟩ :: d.placed
  | _ => []
termination_by c.rest.length
decreasing_by exact length_rest_next _h

theorem placed_of_some {c d : Cursor} {t : Token} (h : c.next = (.ok (some t), d)) :
    c.placed = ⟨c.skipBlanks.offset, t⟩ :: d.placed := by
  rw [placed]
  split <;> simp_all

theorem placed_of_no_token {c : Cursor} (h : ∀ t, c.next.1 ≠ .ok (some t)) : c.placed = [] := by
  rw [placed]
  split <;> simp_all

theorem map_token_placed {c : Cursor} {ts : List Token} (h : c.scan = .ok ts) :
    c.placed.map PlacedToken.token = ts := by
  fun_induction placed c generalizing ts with
  | case1 c t d hnext ih =>
    rw [scan_of_some hnext] at h
    cases hd : d.scan with
    | error err =>
      rw [hd] at h
      cases h
    | ok us =>
      rw [hd] at h
      cases h
      rw [List.map_cons, ih hd]
  | case2 c hnext =>
    rw [scan] at h
    split at h <;> simp_all

theorem placed_congr {c d : Cursor} (h : c.skipBlanks = d.skipBlanks) : c.placed = d.placed := by
  have hnext : c.next = d.next := by simp only [next, h]
  rcases hd : d.next with ⟨err | _ | t, e⟩
  case ok.some => rw [placed_of_some (hnext.trans hd), placed_of_some hd, h]
  all_goals
    rw [placed_of_no_token (by simp [hnext, hd]), placed_of_no_token (by simp [hd])]

/-! ## Places in order -/

theorem byteLength_pos {cs : List Char} (h : cs ≠ []) : 0 < byteLength cs := by
  obtain ⟨c, cs, rfl⟩ := List.exists_cons_of_ne_nil h
  exact Nat.add_pos_left c.utf8Size_pos _

theorem offset_le_skipBlanks (c : Cursor) : c.offset ≤ c.skipBlanks.offset := Nat.le_add_right _ _

theorem offset_skipBlanks_le_next (c : Cursor) : c.skipBlanks.offset ≤ c.next.2.offset := by
  simp only [next]
  split
  · exact Nat.le_refl _
  · split
    · exact Nat.le_refl _
    · split <;> exact Nat.le_add_right _ _

theorem offset_le_of_mem_placed {c : Cursor} {p : PlacedToken} (h : p ∈ c.placed) :
    c.offset ≤ p.offset := by
  fun_induction placed c with
  | case1 c t d hnext ih =>
    have hd := c.offset_skipBlanks_le_next
    rw [hnext] at hd
    rcases List.mem_cons.mp h with rfl | h
    · exact c.offset_le_skipBlanks
    · exact (c.offset_le_skipBlanks.trans hd).trans (ih h)
  | case2 => cases h

theorem exists_placed_of_tiles {rest front : List Char} {ts : List Token}
    (h : Tiles rest front ts) (offset : Nat) :
    ∃ ps, (Cursor.mk offset (front ++ rest)).placed =
        ps ++ (Cursor.mk (offset + byteLength front) rest).placed ∧
      ps.map PlacedToken.token = ts ∧ ∀ p ∈ ps, p.offset < offset + byteLength front := by
  induction h generalizing offset with
  | nil => exact ⟨[], by simp, rfl, by simp⟩
  | @cons gap l front t ts isGap cuts carries _ ih =>
    have hnext := next_of_cuts isGap cuts carries offset
    have hskip := skipBlanks_of_isGap isGap offset
    have htext : gap ++ (l ++ front) ++ rest = gap ++ (l ++ (front ++ rest)) := by simp
    have hoffset : offset + byteLength (gap ++ (l ++ front)) =
        offset + byteLength (gap ++ l) + byteLength front := by
      simp only [byteLength_append]
      omega
    obtain ⟨ps, hps, htokens, hbound⟩ := ih (offset + byteLength (gap ++ l))
    refine ⟨⟨offset + byteLength gap, t⟩ :: ps, ?_, by rw [List.map_cons, htokens], ?_⟩
    · rw [htext, placed_of_some hnext, hskip, hps, hoffset, List.cons_append]
    · rw [hoffset]
      intro p hp
      rcases List.mem_cons.mp hp with rfl | hp
      · have hl := byteLength_pos cuts.written.ne_nil
        simp only [byteLength_append]
        omega
      · exact hbound p hp

end Cursor

/-- The tokens of a source, each with its place. -/
def placedTokens (source : String) : List PlacedToken := (Cursor.start source).placed

theorem map_token_placedTokens {source : String} {ts : List Token} (h : scan source = .ok ts) :
    (placedTokens source).map PlacedToken.token = ts :=
  Cursor.map_token_placed h

theorem exists_placedTokens_join {s t : String} {us vs : List Token} (hs : scan s = .ok us)
    (ht : scan t = .ok vs) :
    ∃ ps qs, placedTokens (s ++ "\n" ++ t) = ps ++ qs ∧
      ps.map PlacedToken.token = us ∧ (∀ p ∈ ps, p.offset < s.utf8ByteSize + 1) ∧
      qs.map PlacedToken.token = vs ∧ ∀ q ∈ qs, s.utf8ByteSize + 1 ≤ q.offset := by
  obtain ⟨front, gap, htext, htiles, hblank, hsize⟩ := exists_tiles_join hs t
  obtain ⟨ps, hps, htokens, hbound⟩ := Cursor.exists_placed_of_tiles htiles 0
  have hskip := Cursor.skipBlanks_blanks hblank (0 + byteLength front) t.toList
  rw [Cursor.placed_congr hskip, Nat.zero_add, hsize] at hps
  refine ⟨ps, (Cursor.mk (s.utf8ByteSize + 1) t.toList).placed, ?_, htokens, fun p hp => ?_, ?_,
    fun q hq => Cursor.offset_le_of_mem_placed hq⟩
  · rw [placedTokens, Cursor.start, htext, hps]
  · have hp := hbound p hp
    omega
  · have hshift := Cursor.scan_shift (s.utf8ByteSize + 1) 0 t.toList
    rw [Nat.add_zero, ← Cursor.start, ← scan, ht] at hshift
    exact Cursor.map_token_placed hshift

end Calculator
