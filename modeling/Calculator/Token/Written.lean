import Calculator.Token

/-!
# Written forms

How the tokens of each kind are written. `TokenKind.lexeme?` cuts the longest such form off the
front of a text, and the order of `TokenKind.all` decides between kinds: words that begin with
`quit`, `true` or `false` are never names, and a comment is not two division signs.
-/

namespace Calculator

/-- The beginning of `cs` that equals `expected` up to `same`, if `cs` is long enough. -/
def startsWith? (same : Char → Char → Bool) : List Char → List Char → Option (List Char)
  | [], _ => some []
  | _ :: _, [] => none
  | e :: es, c :: cs => if same e c then (startsWith? same es cs).map (c :: ·) else none

/-- The fixed text `s` at the front of `cs`. -/
def literal? (s : String) (cs : List Char) : Option (List Char) :=
  startsWith? (fun e c => e = c) s.toList cs

def isNameStart (c : Char) : Bool := c.isAlpha

def isNamePart (c : Char) : Bool := c.isAlphanum || c = '_'

/-- A letter, and the letters, digits and underscores behind it. -/
def name? : List Char → Option (List Char)
  | [] => none
  | c :: cs => if isNameStart c then some (c :: cs.takeWhile isNamePart) else none

def endsLine (c : Char) : Bool := c = '\r' || c = '\n'

/-- Two slashes and the rest of the line, which is not empty. -/
def comment? : List Char → Option (List Char)
  | '/' :: '/' :: cs =>
    let text := cs.takeWhile fun c => !endsLine c
    if text.isEmpty then none else some ('/' :: '/' :: text)
  | _ => none

/-- A point and the digits behind it, or nothing where a point has none. -/
def fraction : List Char → List Char
  | '.' :: cs =>
    let digits := cs.takeWhile Char.isDigit
    if digits.isEmpty then [] else '.' :: digits
  | _ => []

/-- Digits, then perhaps a fraction; one of the two may be missing. -/
def numeral? (cs : List Char) : Option (List Char) :=
  let l := cs.takeWhile Char.isDigit ++ fraction (cs.dropWhile Char.isDigit)
  if l.isEmpty then none else some l

namespace TokenKind

/-- All kinds. An earlier one wins over a later one. -/
def all : List TokenKind :=
  [.quit, .bool, .name, .comment, .assign, .semicolon, .arith .add, .arith .sub, .arith .mul,
    .arith .div, .compare .eq, .compare .ne, .compare .ge, .compare .le, .compare .lt, .compare .gt,
    .leftParen, .rightParen, .number]

theorem mem_all (kind : TokenKind) : kind ∈ all := by
  rcases kind with _ | _ | _ | _ | _ | _ | op | op | _ | _ | _
  case arith => cases op <;> decide
  case compare => cases op <;> decide
  all_goals decide

/-- The longest written form of the kind at the front of a text. -/
def lexeme? : TokenKind → List Char → Option (List Char)
  | .quit, cs => startsWith? (fun e c => e = c.toLower) "quit".toList cs
  | .bool, cs => (literal? "true" cs).or (literal? "false" cs)
  | .name, cs => name? cs
  | .comment, cs => comment? cs
  | .number, cs => numeral? cs
  | .assign, cs => literal? ":=" cs
  | .semicolon, cs => literal? ";" cs
  | .arith op, cs => literal? op.text cs
  | .compare op, cs => literal? op.text cs
  | .leftParen, cs => literal? "(" cs
  | .rightParen, cs => literal? ")" cs

/-- The first kind with a written form at the front of a text, and that form. -/
def first? (cs : List Char) : Option (TokenKind × List Char) :=
  all.findSome? fun kind => (kind.lexeme? cs).map fun l => (kind, l)

end TokenKind

/-! ## What is cut off is a beginning, and it is not empty -/

theorem isPrefix_of_startsWith? {same : Char → Char → Bool} {es cs l : List Char}
    (h : startsWith? same es cs = some l) : l <+: cs ∧ l.length = es.length := by
  induction es generalizing cs l with
  | nil => simp_all [startsWith?]
  | cons e es ih =>
    cases cs with
    | nil => simp [startsWith?] at h
    | cons c cs =>
      simp only [startsWith?] at h
      split at h
      · obtain ⟨m, hm, rfl⟩ := Option.map_eq_some_iff.mp h
        have := ih hm
        simp_all
      · simp at h

theorem isPrefix_of_literal? {s : String} {cs l : List Char} (h : literal? s cs = some l) :
    l <+: cs ∧ l.length = s.toList.length :=
  isPrefix_of_startsWith? h

theorem isPrefix_of_name? {cs l : List Char} (h : name? cs = some l) : l <+: cs ∧ l ≠ [] := by
  cases cs with
  | nil => simp [name?] at h
  | cons c cs =>
    simp only [name?, Option.ite_none_right_eq_some, Option.some.injEq] at h
    obtain ⟨-, rfl⟩ := h
    simp [List.takeWhile_prefix]

theorem isPrefix_of_comment? {cs l : List Char} (h : comment? cs = some l) : l <+: cs ∧ l ≠ [] := by
  unfold comment? at h
  split at h
  · simp only [Option.ite_none_left_eq_some, Option.some.injEq] at h
    obtain ⟨-, rfl⟩ := h
    simp [List.takeWhile_prefix]
  · simp at h

theorem fraction_isPrefix (cs : List Char) : fraction cs <+: cs := by
  unfold fraction
  split
  · dsimp only
    split <;> simp [List.takeWhile_prefix]
  · exact List.nil_prefix

theorem isPrefix_of_numeral? {cs l : List Char} (h : numeral? cs = some l) : l <+: cs ∧ l ≠ [] := by
  simp only [numeral?, Option.ite_none_left_eq_some, Option.some.injEq, List.isEmpty_iff] at h
  obtain ⟨hne, rfl⟩ := h
  refine ⟨?_, hne⟩
  conv => rhs; rw [← List.takeWhile_append_dropWhile (p := Char.isDigit) (l := cs)]
  exact (List.prefix_append_right_inj _).mpr (fraction_isPrefix _)

namespace TokenKind

theorem isPrefix_of_lexeme? {kind : TokenKind} {cs l : List Char} (h : kind.lexeme? cs = some l) :
    l <+: cs ∧ l ≠ [] := by
  have ofLiteral {s : String} (hs : s.toList ≠ []) (h : literal? s cs = some l) :
      l <+: cs ∧ l ≠ [] := by
    have := isPrefix_of_literal? h
    refine ⟨this.1, fun hl => hs (List.length_eq_zero_iff.mp ?_)⟩
    rw [← this.2, hl]
    rfl
  cases kind with
  | quit =>
    have := isPrefix_of_startsWith? h
    refine ⟨this.1, fun hl => ?_⟩
    simp_all
  | bool =>
    rcases Option.or_eq_some_iff.mp h with h | ⟨-, h⟩ <;> exact ofLiteral (by decide) h
  | name => exact isPrefix_of_name? h
  | comment => exact isPrefix_of_comment? h
  | number => exact isPrefix_of_numeral? h
  | arith op => exact ofLiteral (by cases op <;> decide) h
  | compare op => exact ofLiteral (by cases op <;> decide) h
  | assign | semicolon | leftParen | rightParen => exact ofLiteral (by decide) h

theorem isPrefix_of_first? {cs l : List Char} {kind : TokenKind} (h : first? cs = some (kind, l)) :
    l <+: cs ∧ l ≠ [] := by
  obtain ⟨k, -, hk⟩ := List.exists_of_findSome?_eq_some h
  obtain ⟨m, hm, heq⟩ := Option.map_eq_some_iff.mp hk
  cases heq
  exact isPrefix_of_lexeme? hm

end TokenKind

end Calculator
