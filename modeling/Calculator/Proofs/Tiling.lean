import Calculator.Proofs.WrittenForms
import Calculator.Token.Scan
import Mathlib.Algebra.Group.Nat.Defs

/-!
# Scanning tiles the source

A source is cut into runs of blanks and written forms in turn. Each form is the longest one of the
first kind that has any, and nothing of the source is lost or read twice. Where the tiling cannot
go on, scanning fails with the place and the text found there.
-/

namespace Calculator

open Text

/-! ## From a written form to its token -/

/-- What a token carries, by its written form and what stands behind it. -/
def Token.Carries (l after : List Char) : Token → Prop
  | .bool b => b = true ↔ l = "true".toList
  | .name s => s = String.ofList l
  | .comment s => s = String.ofList (trim (l.drop 2))
  | .number (.integer n) => '.' ∉ l ∧ n.toInt = Nat.ofDigitChars 10 l 0
  | .number (.float x) =>
    (∃ ws ds, l = ws ++ '.' :: ds ∧ x = (Decimal.ofDigits ws ds).toFloat) ∧
      ∀ c ∈ after.head?, isBlank c
  | _ => True

theorem Token.Carries.of_head? {t : Token} {l after after' : List Char} (h : t.Carries l after)
    (hhead : after'.head? = after.head?) : t.Carries l after' := by
  cases t with
  | number n =>
    cases n with
    | integer n => exact h
    | float x => exact ⟨h.1, hhead ▸ h.2⟩
  | _ => exact h

/-- The numerals that are no numbers: too large for 64 bits, or with something clinging to the
fraction. -/
def Refused (l after : List Char) : Prop :=
  '.' ∉ l ∧ 2 ^ 63 - 1 < Nat.ofDigitChars 10 l 0 ∨ '.' ∈ l ∧ ∃ c ∈ after.head?, ¬ isBlank c

theorem point_not_mem {ds : List Char} (h : ∀ d ∈ ds, d.isDigit) : '.' ∉ ds :=
  fun hpoint => absurd (h '.' hpoint) (by decide)

theorem numeralValue?_whole {ds : List Char} (h : ∀ d ∈ ds, d.isDigit) (after : List Char) :
    numeralValue? ds after = (int64? (Nat.ofDigitChars 10 ds 0)).map .integer := by
  simp only [numeralValue?, List.takeWhile_eq_self_iff.mpr h, List.dropWhile_eq_nil_iff.mpr h]

theorem numeralValue?_fraction {ws : List Char} (h : ∀ d ∈ ws, d.isDigit) (ds after : List Char) :
    numeralValue? (ws ++ '.' :: ds) after =
      if after.head?.all isBlank then some (.float (Decimal.ofDigits ws ds).toFloat) else none := by
  simp only [numeralValue?, takeWhile_isDigit_point h, dropWhile_isDigit_point h]

theorem numeralValue?_eq_some_iff {l after : List Char} {n : Number}
    (h : TokenKind.number.Written l) :
    numeralValue? l after = some n ↔ (Token.number n).Carries l after := by
  cases h with
  | whole nonempty digits =>
    have hpoint := point_not_mem digits
    rw [numeralValue?_whole digits, Option.map_eq_some_iff]
    simp only [int64?_eq_some_iff]
    cases n with
    | integer n => simp [Token.Carries, hpoint]
    | float x =>
      simp only [Token.Carries, reduceCtorEq, and_false, exists_false, false_iff, not_and]
      rintro ⟨ws, ds, rfl, -⟩
      simp at hpoint
  | @fraction ws ds wholeDigits nonempty digits =>
    rw [numeralValue?_fraction wholeDigits]
    cases n with
    | integer n => simp [Token.Carries]
    | float x =>
      simp only [Token.Carries, Option.all_eq_true, Option.ite_none_right_eq_some,
        Option.some.injEq, Number.float.injEq]
      constructor
      · rintro ⟨hafter, rfl⟩
        exact ⟨⟨ws, ds, rfl, rfl⟩, hafter⟩
      · rintro ⟨⟨vs, es, heq, rfl⟩, hafter⟩
        have hws := point_not_mem wholeDigits
        have hds := point_not_mem digits
        obtain ⟨rfl, -, rfl⟩ := (List.append_cons_inj_of_notMem hws hds).mp heq
        exact ⟨hafter, rfl⟩

theorem numeralValue?_eq_none_iff {l after : List Char} (h : TokenKind.number.Written l) :
    numeralValue? l after = none ↔ Refused l after := by
  cases h with
  | whole nonempty digits =>
    have hpoint := point_not_mem digits
    have hmax : Int64.maxValue.toInt = 2 ^ 63 - 1 := rfl
    have hmin : Int64.minValue.toInt = -2 ^ 63 := rfl
    rw [numeralValue?_whole digits, Option.map_eq_none_iff, int64?_eq_none_iff, hmax, hmin]
    simp only [Refused, hpoint, not_false_eq_true, true_and, false_and, or_false]
    omega
  | @fraction ws ds wholeDigits nonempty digits =>
    rw [numeralValue?_fraction wholeDigits]
    rcases after with _ | ⟨c, cs⟩
    · simp [Refused]
    · cases hc : isBlank c <;> simp [Refused, hc]

theorem TokenKind.token?_eq_some_iff {kind : TokenKind} {l after : List Char} {t : Token}
    (h : kind.Written l) : kind.token? l after = some t ↔ t.kind = kind ∧ t.Carries l after := by
  cases kind with
  | number =>
    rw [token?, Option.map_eq_some_iff]
    simp only [numeralValue?_eq_some_iff h]
    cases t <;> simp [Token.kind]
  | bool =>
    cases t with
    | bool b => cases b <;> simp [token?, Token.kind, Token.Carries]
    | _ => simp [token?, Token.kind]
  | name | comment | arith | compare =>
    cases t <;> simp [token?, Token.kind]
    all_goals simp [Token.Carries, eq_comm]
  | _ => cases t <;> simp [token?, Token.kind, Token.Carries]

theorem TokenKind.token?_eq_none_iff {kind : TokenKind} {l after : List Char}
    (h : kind.Written l) : kind.token? l after = none ↔ kind = .number ∧ Refused l after := by
  cases kind with
  | number => simp [token?, numeralValue?_eq_none_iff h]
  | _ => simp [token?]

/-! ## Tilings -/

/-- All blanks at the front of a text: none stands behind them. -/
structure IsGap (gap rest : List Char) : Prop where
  blank : ∀ c ∈ gap, isBlank c
  maximal : ∀ c ∈ rest.head?, ¬ isBlank c

theorem not_isBlank_of_isNamePart {c : Char} (h : isNamePart c) : ¬ isBlank c := by
  unfold isNamePart Char.isAlphanum Char.isAlpha Char.isUpper Char.isLower Char.isDigit at h
  simp only [Bool.or_eq_true, Bool.and_eq_true, decide_eq_true_eq, ge_iff_le,
    UInt32.le_iff_toNat_le, Char.reduceVal, UInt32.reduceToNat] at h
  rcases h with hrange | rfl
  · simp only [isBlank, blankRanges, List.any_cons, List.any_nil, Bool.or_eq_true, Bool.and_eq_true,
      decide_eq_true_eq, Bool.false_eq_true, or_false, ← Char.toNat_val]
    omega
  · decide

theorem TokenKind.Written.not_isBlank_head {kind : TokenKind} {l : List Char}
    (h : kind.Written l) : ∀ c ∈ l.head?, ¬ isBlank c := by
  have htexts : ∀ kind ∈ all, kind.text.toList.all fun c => !isBlank c := by decide
  intro c hc
  rcases h.mem_cases (List.mem_of_mem_head? hc) with hpart | rfl | rfl | htext
  · exact not_isBlank_of_isNamePart hpart
  · decide
  · cases h
    cases hc
    decide
  · simpa using List.all_eq_true.mp (htexts kind (mem_all kind)) c htext

theorem IsGap.of_written {kind : TokenKind} {gap l : List Char} (hgap : ∀ c ∈ gap, isBlank c)
    (h : kind.Written l) (after : List Char) : IsGap gap (l ++ after) := by
  refine ⟨hgap, fun c hc => ?_⟩
  rw [List.head?_append_of_ne_nil _ h.ne_nil] at hc
  exact h.not_isBlank_head c hc

theorem IsGap.of_head? {gap rest rest' : List Char} (h : IsGap gap rest)
    (hhead : rest'.head? = rest.head?) : IsGap gap rest' :=
  ⟨h.blank, hhead ▸ h.maximal⟩

/-- With `rest` behind it, a text is made of gaps and written forms in turn, and `ts` are the tokens
of these. -/
inductive Tiles (rest : List Char) : List Char → List Token → Prop where
  | nil : Tiles rest [] []
  | cons {gap l front : List Char} {t : Token} {ts : List Token}
      (isGap : IsGap gap (l ++ (front ++ rest))) (cuts : t.kind.Cuts l (l ++ (front ++ rest)))
      (carries : t.Carries l (front ++ rest)) (tail : Tiles rest front ts) :
      Tiles rest (gap ++ (l ++ front)) (t :: ts)

/-- Why no token can be cut off a text that begins at this offset. -/
inductive Stuck (offset : Nat) (rest : List Char) : ScanError → Prop where
  | unknown (nonempty : rest ≠ [])
      (none : ∀ (kind : TokenKind) (l : List Char), l <+: rest → ¬ kind.Written l) :
      Stuck offset rest (.unknownToken offset (String.ofList rest))
  | malformed {l after : List Char} (split : rest = l ++ after)
      (cuts : TokenKind.number.Cuts l rest) (refused : Refused l after) :
      Stuck offset rest (.malformedNumber offset (String.ofList l))

theorem exists_isGap (cs : List Char) : ∃ gap rest, cs = gap ++ rest ∧ IsGap gap rest := by
  refine ⟨cs.takeWhile isBlank, cs.dropWhile isBlank, ?_, fun c => List.mem_takeWhile_imp, ?_⟩
  · rw [List.takeWhile_append_dropWhile]
  · intro c hc
    have h := List.head?_dropWhile_not isBlank cs
    rw [Option.mem_def.mp hc] at h
    simpa using h

/-- Every text is tiled up to its end or up to a place where the tiling is stuck. -/
theorem exists_tiles (offset : Nat) (cs : List Char) :
    ∃ front gap rest ts, cs = front ++ (gap ++ rest) ∧ Tiles (gap ++ rest) front ts ∧
      IsGap gap rest ∧
      (rest = [] ∨ ∃ err, Stuck (offset + byteLength (front ++ gap)) rest err) := by
  -- A written form is never empty, so the text behind it is shorter.
  induction hn : cs.length using Nat.strongRecOn generalizing cs offset with
  | ind n ih =>
    obtain ⟨gap, rest, rfl, hgap⟩ := exists_isGap cs
    by_cases hrest : rest = []
    · exact ⟨[], gap, rest, [], rfl, .nil, hgap, .inl hrest⟩
    cases hfirst : TokenKind.first? rest with
    | none =>
      have hnone := TokenKind.first?_eq_none_iff.mp hfirst
      exact ⟨[], gap, rest, [], rfl, .nil, hgap, .inr ⟨_, .unknown hrest hnone⟩⟩
    | some found =>
      obtain ⟨kind, l⟩ := found
      have hcuts := TokenKind.first?_eq_some_iff.mp hfirst
      obtain ⟨after, rfl⟩ := hcuts.isPrefix
      cases htoken : kind.token? l after with
      | none =>
        obtain ⟨rfl, hrefused⟩ := (TokenKind.token?_eq_none_iff hcuts.written).mp htoken
        exact ⟨[], gap, l ++ after, [], rfl, .nil, hgap, .inr ⟨_, .malformed rfl hcuts hrefused⟩⟩
      | some t =>
        obtain ⟨rfl, hcarries⟩ := (TokenKind.token?_eq_some_iff hcuts.written).mp htoken
        have hl := List.length_pos_iff.mpr hcuts.written.ne_nil
        have hlt : after.length < n := by
          simp only [List.length_append] at hn
          omega
        obtain ⟨front, gap', rest', ts, rfl, htiles, hgap', hend⟩ :=
          ih after.length hlt (offset + byteLength (gap ++ l)) after rfl
        refine ⟨gap ++ (l ++ front), gap', rest', t :: ts, by simp, .cons hgap hcuts hcarries htiles,
          hgap', ?_⟩
        simpa [Nat.add_assoc] using hend

/-! ## Cursors over tilings -/

namespace Cursor

theorem skipBlanks_of_isGap {gap rest : List Char} (h : IsGap gap rest) (offset : Nat) :
    (Cursor.mk offset (gap ++ rest)).skipBlanks = ⟨offset + byteLength gap, rest⟩ := by
  simp only [skipBlanks, takeWhile_append_of_head? h.blank h.maximal, advance, List.drop_left]

theorem next_of_end {gap : List Char} (h : IsGap gap []) (offset : Nat) :
    (Cursor.mk offset gap).next = (.ok none, ⟨offset + byteLength gap, []⟩) := by
  have hskip := skipBlanks_of_isGap h offset
  rw [List.append_nil] at hskip
  simp [next, hskip]

theorem next_of_cuts {gap l after : List Char} {t : Token} (hgap : IsGap gap (l ++ after))
    (hcuts : t.kind.Cuts l (l ++ after)) (hcarries : t.Carries l after) (offset : Nat) :
    (Cursor.mk offset (gap ++ (l ++ after))).next =
      (.ok (some t), ⟨offset + byteLength (gap ++ l), after⟩) := by
  have htoken := (TokenKind.token?_eq_some_iff hcuts.written).mpr ⟨rfl, hcarries⟩
  simp [next, skipBlanks_of_isGap hgap, hcuts.written.ne_nil,
    TokenKind.first?_eq_some_iff.mpr hcuts, advance, htoken, Nat.add_assoc]

theorem next_of_stuck {gap rest : List Char} {err : ScanError} (hgap : IsGap gap rest)
    {offset : Nat} (h : Stuck (offset + byteLength gap) rest err) :
    (Cursor.mk offset (gap ++ rest)).next.1 = .error err := by
  cases h with
  | unknown nonempty none =>
    simp [next, skipBlanks_of_isGap hgap, nonempty, TokenKind.first?_eq_none_iff.mpr none]
  | @malformed l after split cuts refused =>
    subst split
    have htoken := (TokenKind.token?_eq_none_iff cuts.written).mpr ⟨rfl, refused⟩
    simp [next, skipBlanks_of_isGap hgap, cuts.written.ne_nil,
      TokenKind.first?_eq_some_iff.mpr cuts, advance, htoken]

theorem scan_of_error {c : Cursor} {err : ScanError} (h : c.next.1 = .error err) :
    c.scan = .error err := by
  rw [scan]
  split <;> simp_all

theorem scan_of_none {c d : Cursor} (h : c.next = (.ok none, d)) : c.scan = .ok [] := by
  rw [scan]
  split <;> simp_all

theorem scan_of_some {c d : Cursor} {t : Token} (h : c.next = (.ok (some t), d)) :
    c.scan = d.scan.map (t :: ·) := by
  rw [scan]
  split <;> simp_all

theorem scan_of_tiles {rest front : List Char} {ts : List Token} (h : Tiles rest front ts)
    (offset : Nat) :
    (Cursor.mk offset (front ++ rest)).scan =
      (Cursor.mk (offset + byteLength front) rest).scan.map (ts ++ ·) := by
  induction h generalizing offset with
  | nil =>
    rw [List.nil_append, byteLength_nil, Nat.add_zero]
    cases (Cursor.mk offset rest).scan <;> rfl
  | @cons gap l front t ts isGap cuts carries tail ih =>
    have hnext := next_of_cuts isGap cuts carries offset
    have htext : gap ++ (l ++ front) ++ rest = gap ++ (l ++ (front ++ rest)) := by simp
    have hoffset : offset + byteLength (gap ++ l) + byteLength front =
        offset + byteLength (gap ++ (l ++ front)) := by
      simp only [byteLength_append]
      omega
    rw [htext, scan_of_some hnext, ih, hoffset]
    cases (Cursor.mk (offset + byteLength (gap ++ (l ++ front))) rest).scan <;> rfl

theorem scan_of_tiles_end {front gap : List Char} {ts : List Token} (h : Tiles gap front ts)
    (hgap : IsGap gap []) (offset : Nat) : (Cursor.mk offset (front ++ gap)).scan = .ok ts := by
  rw [scan_of_tiles h, scan_of_none (next_of_end hgap _)]
  simp [Except.map]

theorem scan_of_tiles_stuck {front gap rest : List Char} {ts : List Token} {err : ScanError}
    (h : Tiles (gap ++ rest) front ts) (hgap : IsGap gap rest) {offset : Nat}
    (hstuck : Stuck (offset + byteLength (front ++ gap)) rest err) :
    (Cursor.mk offset (front ++ (gap ++ rest))).scan = .error err := by
  rw [byteLength_append, ← Nat.add_assoc] at hstuck
  rw [scan_of_tiles h, scan_of_error (next_of_stuck hgap hstuck)]
  rfl

end Cursor

theorem scan_eq_ok_iff {source : String} {ts : List Token} :
    scan source = .ok ts ↔
      ∃ front gap, source.toList = front ++ gap ∧ Tiles gap front ts ∧ IsGap gap [] := by
  constructor
  · intro h
    obtain ⟨front, gap, rest, us, hsource, htiles, hgap, hend⟩ := exists_tiles 0 source.toList
    rw [scan, Cursor.start, hsource] at h
    obtain rfl | ⟨err, hstuck⟩ := hend
    · rw [List.append_nil] at h hsource htiles
      rw [Cursor.scan_of_tiles_end htiles hgap, Except.ok.injEq] at h
      subst h
      exact ⟨front, gap, hsource, htiles, hgap⟩
    · rw [Cursor.scan_of_tiles_stuck htiles hgap hstuck] at h
      cases h
  · rintro ⟨front, gap, hsource, htiles, hgap⟩
    rw [scan, Cursor.start, hsource]
    exact Cursor.scan_of_tiles_end htiles hgap 0

theorem scan_empty : scan "" = .ok [] :=
  scan_eq_ok_iff.mpr ⟨[], [], rfl, .nil, ⟨by simp, by simp⟩⟩

theorem scan_eq_error_iff {source : String} {err : ScanError} :
    scan source = .error err ↔
      ∃ front gap rest ts, source.toList = front ++ (gap ++ rest) ∧ Tiles (gap ++ rest) front ts ∧
        IsGap gap rest ∧ Stuck (byteLength (front ++ gap)) rest err := by
  constructor
  · intro h
    obtain ⟨front, gap, rest, ts, hsource, htiles, hgap, hend⟩ := exists_tiles 0 source.toList
    rw [scan, Cursor.start, hsource] at h
    obtain rfl | ⟨err', hstuck⟩ := hend
    · rw [List.append_nil] at h htiles
      rw [Cursor.scan_of_tiles_end htiles hgap] at h
      cases h
    · rw [Cursor.scan_of_tiles_stuck htiles hgap hstuck, Except.error.injEq] at h
      subst h
      rw [Nat.zero_add] at hstuck
      exact ⟨front, gap, rest, ts, hsource, htiles, hgap, hstuck⟩
  · rintro ⟨front, gap, rest, ts, hsource, htiles, hgap, hstuck⟩
    rw [scan, Cursor.start, hsource]
    rw [← Nat.zero_add (byteLength _)] at hstuck
    exact Cursor.scan_of_tiles_stuck htiles hgap hstuck

/-- Scanning succeeds with exactly the tokens of a tiling of the whole source up to a last gap, and
fails exactly where a tiling is stuck, at the number of bytes in front of that place. -/
theorem scan_iff_tiles (source : String) :
    (∀ ts, scan source = .ok ts ↔
      ∃ front gap, source.toList = front ++ gap ∧ Tiles gap front ts ∧ IsGap gap []) ∧
    ∀ err, scan source = .error err ↔
      ∃ front gap rest ts, source.toList = front ++ (gap ++ rest) ∧ Tiles (gap ++ rest) front ts ∧
        IsGap gap rest ∧ Stuck (String.ofList (front ++ gap)).utf8ByteSize rest err := by
  refine ⟨fun ts => scan_eq_ok_iff, fun err => ?_⟩
  simp only [utf8ByteSize_ofList]
  exact scan_eq_error_iff

-- An earlier kind wins also where a later one has the longer written form.
example : scan "Quitter<=-1" =
    .ok [.quit, .name "ter", .compare .le, .arith .sub, .number (.integer 1)] := by
  decide +kernel

end Calculator
