import Calculator.Token.Written
import Mathlib.Data.List.Forall2
import Mathlib.Data.List.TakeWhile

/-!
# Written forms as languages

Each kind has a language of written forms, said without any scanning. `lexeme?` cuts off the longest
beginning of a text that is in the language of its kind, and `first?` picks the first kind whose
language has a beginning of the text at all.
-/

namespace Calculator

namespace TokenKind

/-- The texts that are written forms of a kind. -/
inductive Written : TokenKind → List Char → Prop where
  | quit {l : List Char} (h : l.map Char.toLower = "quit".toList) : Written .quit l
  | bool (b : Bool) : Written .bool (boolText b).toList
  | name {c : Char} {cs : List Char} (start : isNameStart c) (parts : ∀ d ∈ cs, isNamePart d) :
      Written .name (c :: cs)
  | comment {cs : List Char} (nonempty : cs ≠ []) (line : ∀ c ∈ cs, c ≠ '\r' ∧ c ≠ '\n') :
      Written .comment ('/' :: '/' :: cs)
  | assign : Written .assign ":=".toList
  | semicolon : Written .semicolon ";".toList
  | arith (op : ArithOp) : Written (.arith op) op.text.toList
  | compare (op : CompareOp) : Written (.compare op) op.text.toList
  | leftParen : Written .leftParen "(".toList
  | rightParen : Written .rightParen ")".toList
  | whole {ds : List Char} (nonempty : ds ≠ []) (digits : ∀ d ∈ ds, d.isDigit) : Written .number ds
  | fraction {ws ds : List Char} (wholeDigits : ∀ d ∈ ws, d.isDigit) (nonempty : ds ≠ [])
      (digits : ∀ d ∈ ds, d.isDigit) : Written .number (ws ++ '.' :: ds)

theorem Written.ne_nil {kind : TokenKind} {l : List Char} (h : kind.Written l) : l ≠ [] := by
  cases h with
  | quit h =>
    rintro rfl
    simp at h
  | bool b => cases b <;> decide
  | arith op => cases op <;> decide
  | compare op => cases op <;> decide
  | whole nonempty _ => exact nonempty
  | name | comment => exact List.cons_ne_nil _ _
  | fraction => simp
  | assign | semicolon | leftParen | rightParen => decide

/-- The longest beginning of a text that is written as the kind. -/
structure Longest (kind : TokenKind) (l cs : List Char) : Prop where
  isPrefix : l <+: cs
  written : kind.Written l
  longest : ∀ m, m <+: cs → kind.Written m → m.length ≤ l.length

/-- No earlier kind has a written form at the front of the text, and this one has `l` as its
longest. -/
structure Cuts (kind : TokenKind) (l cs : List Char) : Prop extends Longest kind l cs where
  first : ∃ earlier later, all = earlier ++ kind :: later ∧
    ∀ k ∈ earlier, ∀ m, m <+: cs → ¬ k.Written m

end TokenKind

/-! ## Fixed texts -/

theorem startsWith?_eq_some_iff {same : Char → Char → Bool} {es cs l : List Char} :
    startsWith? same es cs = some l ↔ l <+: cs ∧ List.Forall₂ (fun e c => same e c) es l := by
  induction es generalizing cs l with
  | nil =>
    simp only [startsWith?, Option.some.injEq, List.forall₂_nil_left_iff]
    constructor
    · rintro rfl
      exact ⟨List.nil_prefix, rfl⟩
    · rintro ⟨-, rfl⟩
      rfl
  | cons e es ih =>
    cases cs with
    | nil =>
      simp only [startsWith?, reduceCtorEq, List.prefix_nil, false_iff, not_and]
      rintro rfl
      simp
    | cons c cs =>
      simp only [startsWith?, Option.ite_none_right_eq_some, Option.map_eq_some_iff, ih,
        List.forall₂_cons_left_iff]
      constructor
      · rintro ⟨hc, m, ⟨hm, hes⟩, rfl⟩
        exact ⟨(List.prefix_cons_inj c).mpr hm, c, m, hc, hes, rfl⟩
      · rintro ⟨hl, d, m, hd, hes, rfl⟩
        obtain ⟨rfl, hm⟩ := List.cons_prefix_cons.mp hl
        exact ⟨hd, m, ⟨hm, hes⟩, rfl⟩

theorem literal?_eq_some_iff {s : String} {cs l : List Char} :
    literal? s cs = some l ↔ l <+: cs ∧ l = s.toList := by
  rw [literal?, startsWith?_eq_some_iff, eq_comm (a := l)]
  simp only [decide_eq_true_eq, List.forall₂_eq_eq_eq]

/-! ## Runs of characters -/

theorem prefix_takeWhile {p : Char → Bool} {m cs : List Char} (h : m <+: cs) (hm : ∀ c ∈ m, p c) :
    m <+: cs.takeWhile p := by
  obtain ⟨r, rfl⟩ := h
  rw [List.takeWhile_append_of_pos hm]
  exact List.prefix_append m _

theorem takeWhile_append_of_head? {p : Char → Bool} {cs ds : List Char} (hcs : ∀ c ∈ cs, p c)
    (hds : ∀ d ∈ ds.head?, ¬ p d) : (cs ++ ds).takeWhile p = cs := by
  rw [List.takeWhile_append_of_pos hcs]
  cases ds with
  | nil => exact List.append_nil cs
  | cons d ds => rw [List.takeWhile_cons_of_neg (hds d rfl), List.append_nil]

theorem dropWhile_append_of_head? {p : Char → Bool} {cs ds : List Char} (hcs : ∀ c ∈ cs, p c)
    (hds : ∀ d ∈ ds.head?, ¬ p d) : (cs ++ ds).dropWhile p = ds := by
  rw [List.dropWhile_append_of_pos hcs]
  cases ds with
  | nil => rfl
  | cons d ds => exact List.dropWhile_cons_of_neg (hds d rfl)

theorem endsLine_eq_false_of_not_mem {cs : List Char} (h : '\n' ∉ cs ∧ '\r' ∉ cs) :
    ∀ c ∈ cs, endsLine c = false := by
  intro c hc
  have hnewline : c ≠ '\n' := fun heq => h.1 (heq ▸ hc)
  have hreturn : c ≠ '\r' := fun heq => h.2 (heq ▸ hc)
  simp [endsLine, hnewline, hreturn]

theorem prefix_or_of_append_cons {m cs ds : List Char} {c : Char} (h : m <+: cs ++ c :: ds) :
    m <+: cs ∨ ∃ r, m = cs ++ c :: r := by
  obtain h' | ⟨r, rfl⟩ := List.prefix_or_prefix_of_prefix h (List.prefix_append cs (c :: ds))
  · exact .inl h'
  · rw [List.prefix_append_right_inj] at h
    rcases List.prefix_cons_iff.mp h with rfl | ⟨r, rfl, -⟩
    · exact .inl ((List.append_nil cs).symm ▸ List.prefix_refl cs)
    · exact .inr ⟨r, rfl⟩

theorem fraction_cons (cs : List Char) :
    fraction ('.' :: cs) =
      if cs.takeWhile Char.isDigit = [] then [] else '.' :: cs.takeWhile Char.isDigit := by
  simp only [fraction, List.isEmpty_iff]

theorem fraction_eq_nil_or (cs : List Char) :
    fraction cs = [] ∨
      ∃ ds, fraction cs = '.' :: ds ∧ ds ≠ [] ∧ ∀ d ∈ ds, d.isDigit := by
  unfold fraction
  split
  · next cs =>
    dsimp only
    split
    · exact .inl rfl
    · next h => exact .inr ⟨_, rfl, by simpa using h, fun d => List.mem_takeWhile_imp⟩
  · exact .inl rfl

theorem takeWhile_isDigit_point {ws : List Char} (h : ∀ d ∈ ws, d.isDigit) (cs : List Char) :
    (ws ++ '.' :: cs).takeWhile Char.isDigit = ws :=
  takeWhile_append_of_head? h (by rintro _ ⟨⟩; decide)

theorem dropWhile_isDigit_point {ws : List Char} (h : ∀ d ∈ ws, d.isDigit) (cs : List Char) :
    (ws ++ '.' :: cs).dropWhile Char.isDigit = '.' :: cs :=
  dropWhile_append_of_head? h (by rintro _ ⟨⟩; decide)

namespace TokenKind

/-! ## What is cut off is the longest written form -/

theorem quit_eq_some_iff {cs l : List Char} :
    quit.lexeme? cs = some l ↔ l <+: cs ∧ l.map Char.toLower = "quit".toList := by
  rw [lexeme?, startsWith?_eq_some_iff]
  simp only [decide_eq_true_eq]
  rw [← List.forall₂_map_right_iff (R := Eq), List.forall₂_eq_eq_eq, eq_comm]

theorem bool_eq_some_iff {cs l : List Char} :
    bool.lexeme? cs = some l ↔ l <+: cs ∧ ∃ b, l = (boolText b).toList := by
  simp only [lexeme?, Option.or_eq_some_iff, literal?_eq_some_iff]
  constructor
  · rintro (⟨hl, rfl⟩ | ⟨-, hl, rfl⟩)
    · exact ⟨hl, true, rfl⟩
    · exact ⟨hl, false, rfl⟩
  · rintro ⟨hl, b, rfl⟩
    cases b with
    | true => exact .inl ⟨hl, rfl⟩
    | false =>
      obtain ⟨ds, rfl⟩ := hl
      exact .inr ⟨rfl, List.prefix_append _ _, rfl⟩

theorem written_of_name? {cs l : List Char} (h : name? cs = some l) : name.Written l := by
  cases cs with
  | nil => cases h
  | cons c cs =>
    simp only [name?, Option.ite_none_right_eq_some, Option.some.injEq] at h
    obtain ⟨hc, rfl⟩ := h
    exact .name hc fun d => List.mem_takeWhile_imp

theorem written_of_comment? {cs l : List Char} (h : comment? cs = some l) : comment.Written l := by
  unfold comment? at h
  split at h
  · simp only [Option.ite_none_left_eq_some, Option.some.injEq, List.isEmpty_iff] at h
    obtain ⟨hne, rfl⟩ := h
    refine .comment hne fun c hc => ?_
    simpa [endsLine] using List.mem_takeWhile_imp hc
  · cases h

theorem written_of_numeral? {cs l : List Char} (h : numeral? cs = some l) : number.Written l := by
  simp only [numeral?, Option.ite_none_left_eq_some, Option.some.injEq, List.isEmpty_iff] at h
  obtain ⟨hne, rfl⟩ := h
  obtain hnil | ⟨ds, hds, hdsne, hdigits⟩ := fraction_eq_nil_or (cs.dropWhile Char.isDigit)
  · rw [hnil, List.append_nil] at hne ⊢
    exact .whole hne fun d => List.mem_takeWhile_imp
  · rw [hds]
    exact .fraction (fun d => List.mem_takeWhile_imp) hdsne hdigits

theorem written_of_lexeme? {kind : TokenKind} {cs l : List Char} (h : kind.lexeme? cs = some l) :
    kind.Written l := by
  cases kind with
  | quit => exact .quit (quit_eq_some_iff.mp h).2
  | bool =>
    obtain ⟨-, b, rfl⟩ := bool_eq_some_iff.mp h
    exact .bool b
  | name => exact written_of_name? h
  | comment => exact written_of_comment? h
  | number => exact written_of_numeral? h
  | assign => exact (literal?_eq_some_iff.mp h).2 ▸ .assign
  | semicolon => exact (literal?_eq_some_iff.mp h).2 ▸ .semicolon
  | arith op => exact (literal?_eq_some_iff.mp h).2 ▸ .arith op
  | compare op => exact (literal?_eq_some_iff.mp h).2 ▸ .compare op
  | leftParen => exact (literal?_eq_some_iff.mp h).2 ▸ .leftParen
  | rightParen => exact (literal?_eq_some_iff.mp h).2 ▸ .rightParen

theorem Written.exists_lexeme? {kind : TokenKind} {m cs : List Char} (h : kind.Written m)
    (hm : m <+: cs) : ∃ l, kind.lexeme? cs = some l ∧ m.length ≤ l.length := by
  cases h with
  | quit h => exact ⟨m, quit_eq_some_iff.mpr ⟨hm, h⟩, Nat.le_refl _⟩
  | bool b => exact ⟨_, bool_eq_some_iff.mpr ⟨hm, b, rfl⟩, Nat.le_refl _⟩
  | @name c ds start parts =>
    obtain ⟨r, rfl⟩ := hm
    refine ⟨c :: (ds ++ r).takeWhile isNamePart, by simp [lexeme?, name?, start], ?_⟩
    exact Nat.succ_le_succ (prefix_takeWhile (List.prefix_append ds r) parts).length_le
  | @comment ds nonempty line =>
    obtain ⟨r, rfl⟩ := hm
    have hds : ∀ c ∈ ds, (!endsLine c) = true := by simpa [endsLine] using line
    have hpre := prefix_takeWhile (List.prefix_append ds r) hds
    refine ⟨'/' :: '/' :: (ds ++ r).takeWhile (fun c => !endsLine c), ?_, ?_⟩
    · simp [lexeme?, comment?, hpre.ne_nil nonempty]
    · exact Nat.succ_le_succ (Nat.succ_le_succ hpre.length_le)
  | whole nonempty digits =>
    have hpre := prefix_takeWhile hm digits
    refine ⟨cs.takeWhile Char.isDigit ++ Calculator.fraction (cs.dropWhile Char.isDigit), ?_, ?_⟩
    · simp [lexeme?, numeral?, hpre.ne_nil nonempty]
    · rw [List.length_append]
      exact Nat.le_add_right_of_le hpre.length_le
  | @fraction ws ds wholeDigits nonempty digits =>
    obtain ⟨r, rfl⟩ := hm
    have hpre := prefix_takeWhile (List.prefix_append ds r) digits
    refine ⟨ws ++ '.' :: (ds ++ r).takeWhile Char.isDigit, ?_, ?_⟩
    · rw [List.append_assoc, List.cons_append, lexeme?, numeral?,
        takeWhile_isDigit_point wholeDigits, dropWhile_isDigit_point wholeDigits, fraction_cons,
        if_neg (hpre.ne_nil nonempty)]
      simp
    · have hlength := hpre.length_le
      simp only [List.length_append, List.length_cons] at hlength ⊢
      omega
  | assign | semicolon | arith | compare | leftParen | rightParen =>
    exact ⟨_, literal?_eq_some_iff.mpr ⟨hm, rfl⟩, Nat.le_refl _⟩

theorem lexeme?_eq_some_iff {kind : TokenKind} {cs l : List Char} :
    kind.lexeme? cs = some l ↔ kind.Longest l cs := by
  constructor
  · intro h
    refine ⟨(isPrefix_of_lexeme? h).1, written_of_lexeme? h, fun m hm hwritten => ?_⟩
    obtain ⟨l', hl', hle⟩ := hwritten.exists_lexeme? hm
    rw [h, Option.some.injEq] at hl'
    exact hl' ▸ hle
  · intro h
    obtain ⟨l', hl', hle⟩ := h.written.exists_lexeme? h.isPrefix
    have hpre := (isPrefix_of_lexeme? hl').1
    have hge := h.longest l' hpre (written_of_lexeme? hl')
    have heq : l = l' :=
      (List.prefix_of_prefix_length_le h.isPrefix hpre hle).eq_of_length (by omega)
    rw [heq, hl']

theorem lexeme?_eq_none_iff {kind : TokenKind} {cs : List Char} :
    kind.lexeme? cs = none ↔ ∀ l, l <+: cs → ¬ kind.Written l := by
  constructor
  · intro h l hl hwritten
    obtain ⟨l', hl', -⟩ := hwritten.exists_lexeme? hl
    rw [h] at hl'
    cases hl'
  · intro h
    cases hl : kind.lexeme? cs with
    | none => rfl
    | some l => exact absurd (written_of_lexeme? hl) (h l (isPrefix_of_lexeme? hl).1)

theorem Written.longest_self {kind : TokenKind} {l : List Char} (h : kind.Written l) :
    kind.Longest l l :=
  ⟨List.prefix_refl l, h, fun _ hm _ => hm.length_le⟩

theorem written_iff_lexeme? {kind : TokenKind} {l : List Char} :
    kind.Written l ↔ kind.lexeme? l = some l :=
  ⟨fun h => lexeme?_eq_some_iff.mpr h.longest_self, written_of_lexeme?⟩

instance (kind : TokenKind) (l : List Char) : Decidable (kind.Written l) :=
  decidable_of_iff _ written_iff_lexeme?.symm

/-! ## What forms are made of -/

theorem isAlpha_of_toLower {c : Char} (h : c.toLower.isAlpha) : c.isAlpha := by
  unfold Char.toLower at h
  split at h
  · next hupper => exact (Bool.or_eq_true _ _).mpr (.inl (decide_eq_true hupper))
  · exact h

theorem isNamePart_of_isAlpha {c : Char} (h : c.isAlpha) : isNamePart c := by
  simp [isNamePart, Char.isAlphanum, h]

theorem isNamePart_of_isDigit {c : Char} (h : c.isDigit) : isNamePart c := by
  simp [isNamePart, Char.isAlphanum, h]

theorem Written.isNamePart_of_mem {l : List Char} (h : TokenKind.name.Written l) {c : Char}
    (hc : c ∈ l) : isNamePart c := by
  cases h with
  | name start parts =>
    rcases List.mem_cons.mp hc with rfl | hc
    · exact isNamePart_of_isAlpha start
    · exact parts c hc

theorem Written.exists_isAlpha {l : List Char} (h : TokenKind.name.Written l) :
    ∃ c ∈ l, c.isAlpha := by
  cases h with
  | name start _ => exact ⟨_, List.mem_cons_self, start⟩

theorem Written.mem_cases {kind : TokenKind} {l : List Char} {c : Char} (h : kind.Written l)
    (hc : c ∈ l) : isNamePart c ∨ c = '.' ∨ kind = .comment ∨ c ∈ kind.text.toList := by
  cases h with
  | quit h =>
    have hquit : c.toLower ∈ "quit".toList := h ▸ List.mem_map_of_mem hc
    have hletters : "quit".toList.all Char.isAlpha := by decide
    have hletter := List.all_eq_true.mp hletters _ hquit
    exact .inl (isNamePart_of_isAlpha (isAlpha_of_toLower hletter))
  | bool b =>
    have hletters : ∀ b, (boolText b).toList.all Char.isAlpha := by decide
    exact .inl (isNamePart_of_isAlpha (List.all_eq_true.mp (hletters b) c hc))
  | name start parts => exact .inl ((Written.name start parts).isNamePart_of_mem hc)
  | comment => exact .inr (.inr (.inl rfl))
  | whole _ digits => exact .inl (isNamePart_of_isDigit (digits c hc))
  | fraction wholeDigits _ digits =>
    rcases List.mem_append.mp hc with hc | hc
    · exact .inl (isNamePart_of_isDigit (wholeDigits c hc))
    · rcases List.mem_cons.mp hc with rfl | hc
      · exact .inr (.inl rfl)
      · exact .inl (isNamePart_of_isDigit (digits c hc))
  | assign | semicolon | arith | compare | leftParen | rightParen => exact .inr (.inr (.inr hc))

theorem Written.eq_semicolon {l : List Char} (h : TokenKind.semicolon.Written l) : l = [';'] := by
  cases h
  rfl

theorem Written.kind_of_semicolon_mem {kind : TokenKind} {l : List Char} (h : kind.Written l)
    (hl : ';' ∈ l) : kind = .comment ∨ kind = .semicolon := by
  have htexts : ∀ kind ∈ all, ';' ∈ kind.text.toList → kind = .semicolon := by decide
  rcases h.mem_cases hl with hpart | hpoint | hkind | htext
  · cases hpart
  · cases hpoint
  · exact .inl hkind
  · exact .inr (htexts kind (mem_all kind) htext)

theorem Written.kind_of_slash_mem {kind : TokenKind} {l : List Char} (h : kind.Written l)
    (hl : '/' ∈ l) : kind = .comment ∨ kind = .arith .div := by
  have htexts : ∀ kind ∈ all, '/' ∈ kind.text.toList → kind = .arith .div := by decide
  rcases h.mem_cases hl with hpart | hpoint | hkind | htext
  · cases hpart
  · cases hpoint
  · exact .inl hkind
  · exact .inr (htexts kind (mem_all kind) htext)

/-! ## The first kind -/

theorem first?_eq_some_iff {kind : TokenKind} {cs l : List Char} :
    first? cs = some (kind, l) ↔ kind.Cuts l cs := by
  simp only [first?, List.findSome?_eq_some_iff, Option.map_eq_some_iff, Option.map_eq_none_iff,
    lexeme?_eq_none_iff, lexeme?_eq_some_iff, Prod.mk.injEq]
  constructor
  · rintro ⟨earlier, k, later, hall, ⟨l, hl, rfl, rfl⟩, hfirst⟩
    exact ⟨hl, earlier, later, hall, hfirst⟩
  · rintro ⟨hl, earlier, later, hall, hfirst⟩
    exact ⟨earlier, kind, later, hall, ⟨l, hl, rfl, rfl⟩, hfirst⟩

theorem first?_slashes {c : Char} (hc : endsLine c = false) (cs : List Char) :
    first? ('/' :: '/' :: c :: cs) =
      some (.comment, '/' :: '/' :: c :: cs.takeWhile fun d => !endsLine d) := by
  simp [first?, all, lexeme?, startsWith?, literal?, name?, isNameStart, comment?, hc]

theorem cuts_comment {cs : List Char} (hne : cs ≠ []) (hline : ∀ c ∈ cs, endsLine c = false) :
    comment.Cuts ('/' :: '/' :: cs) ('/' :: '/' :: cs) := by
  obtain ⟨c, cs, rfl⟩ := List.exists_cons_of_ne_nil hne
  rw [List.forall_mem_cons] at hline
  have htake : cs.takeWhile (fun d => !endsLine d) = cs :=
    List.takeWhile_eq_self_iff.mpr fun d hd => by rw [hline.2 d hd, Bool.not_false]
  have hfirst := first?_slashes hline.1 cs
  rw [htake] at hfirst
  exact first?_eq_some_iff.mp hfirst

theorem first?_eq_none_iff {cs : List Char} :
    first? cs = none ↔ ∀ (kind : TokenKind) (l : List Char), l <+: cs → ¬ kind.Written l := by
  simp only [first?, List.findSome?_eq_none_iff, Option.map_eq_none_iff, lexeme?_eq_none_iff]
  constructor
  · exact fun h kind => h kind (mem_all kind)
  · exact fun h kind _ => h kind

/-- The same form is cut off another text, if that begins with it and has no other beginnings that
are written forms. -/
theorem Cuts.of_isPrefix {kind : TokenKind} {l cs ds : List Char} (h : kind.Cuts l cs)
    (hl : l <+: ds) (hds : ∀ (k : TokenKind) m, k.Written m → m <+: ds → m <+: cs) :
    kind.Cuts l ds := by
  obtain ⟨earlier, later, hall, hfirst⟩ := h.first
  exact ⟨⟨hl, h.written, fun m hm hwritten => h.longest m (hds kind m hwritten hm) hwritten⟩,
    earlier, later, hall, fun k hk m hm hwritten => hfirst k hk m (hds k m hwritten hm) hwritten⟩

theorem first?_semicolon (cs : List Char) : first? (';' :: cs) = some (.semicolon, [';']) := by
  simp [first?, all, lexeme?, startsWith?, literal?, name?, isNameStart, comment?]

theorem Cuts.eq_comment {kind : TokenKind} {l m cs : List Char} (h : kind.Cuts l cs)
    (hm : comment.Written m) (hpre : m <+: cs) : kind = .comment := by
  cases hm with
  | @comment ds nonempty line =>
    obtain ⟨d, ds, rfl⟩ := List.exists_cons_of_ne_nil nonempty
    obtain ⟨rest, rfl⟩ := hpre
    have hd : endsLine d = false := by simpa [endsLine] using line d List.mem_cons_self
    have hfirst := first?_eq_some_iff.mpr h
    simp only [List.cons_append] at hfirst
    rw [first?_slashes hd] at hfirst
    cases hfirst
    rfl

end TokenKind

end Calculator
