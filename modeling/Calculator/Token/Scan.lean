import Calculator.Text.Blank
import Calculator.Token.Written

/-!
# Scanning

A cursor moves over a source. Each step skips blanks and cuts off one written form, so that every
token leaves less to scan. Offsets count bytes of UTF-8.
-/

namespace Calculator

/-- Why a source has no further token. -/
inductive ScanError where
  /-- No written form begins here; `remainder` is the whole rest of the source. -/
  | unknownToken (offset : Nat) (remainder : String)
  /-- The numeral is too large, or something clings to its fraction. -/
  | malformedNumber (offset : Nat) (numeral : String)
deriving DecidableEq

namespace ScanError

def offset : ScanError → Nat
  | .unknownToken n _ => n
  | .malformedNumber n _ => n

def message : ScanError → String
  | .unknownToken n s => "<" ++ s ++ "> invalid token at offset " ++ natText n
  | .malformedNumber n s => "invalid number format: " ++ s ++ " at offset " ++ natText n

end ScanError

/-! ## From a written form to a token -/

/-- The number that a numeral stands for when `rest` follows it. Integers end at `2 ^ 63 - 1`, and
a fraction ends at a blank or with the source. -/
def numeralValue? (numeral rest : List Char) : Option Number :=
  let whole := numeral.takeWhile Char.isDigit
  match numeral.dropWhile Char.isDigit with
  | [] => (int64? (Nat.ofDigitChars 10 whole 0)).map .integer
  | _ :: fraction =>
    if rest.head?.all Text.isBlank then some (.float (Decimal.ofDigits whole fraction).toFloat)
    else none

/-- The token of this kind with this written form. Only a number looks at what follows, and only
a number may be refused. -/
def TokenKind.token? (lexeme rest : List Char) : TokenKind → Option Token
  | .quit => some .quit
  | .bool => some (.bool (lexeme = "true".toList))
  | .name => some (.name (String.ofList lexeme))
  | .comment => some (.comment (String.ofList (Text.trim (lexeme.drop 2))))
  | .assign => some .assign
  | .semicolon => some .semicolon
  | .arith op => some (.arith op)
  | .compare op => some (.compare op)
  | .leftParen => some .leftParen
  | .rightParen => some .rightParen
  | .number => (numeralValue? lexeme rest).map .number

/-! ## The cursor -/

/-- A place in a source: the bytes before it and the characters behind it. -/
structure Cursor where
  offset : Nat
  rest : List Char
deriving DecidableEq, Repr

/-- What one step of a cursor finds: a token, the end of the source, or an error. -/
abbrev Found := Except ScanError (Option Token)

namespace Cursor

def start (source : String) : Cursor := ⟨0, source.toList⟩

/-- Moves over `passed`, which has to be the beginning of the rest. -/
def advance (c : Cursor) (passed : List Char) : Cursor where
  offset := c.offset + Text.byteLength passed
  rest := c.rest.drop passed.length

def skipBlanks (c : Cursor) : Cursor := c.advance (c.rest.takeWhile Text.isBlank)

/-- Takes the next token. A refused number is passed over; an unknown token is not. -/
def next (c : Cursor) : Found × Cursor :=
  let c := c.skipBlanks
  if c.rest.isEmpty then
    (.ok none, c)
  else
    match TokenKind.first? c.rest with
    | none => (.error (.unknownToken c.offset (String.ofList c.rest)), c)
    | some (kind, lexeme) =>
      let after := c.advance lexeme
      match kind.token? lexeme after.rest with
      | some t => (.ok (some t), after)
      | none => (.error (.malformedNumber c.offset (String.ofList lexeme)), after)

/-- What the first `n` steps find, also behind an error. -/
def steps : Nat → Cursor → List Found
  | 0, _ => []
  | n + 1, c => c.next.1 :: steps n c.next.2

@[simp] theorem rest_skipBlanks (c : Cursor) : c.skipBlanks.rest = Text.dropBlanks c.rest := by
  simp only [skipBlanks, advance, Text.dropBlanks]
  conv => lhs; arg 2; rw [← List.takeWhile_append_dropWhile (p := Text.isBlank) (l := c.rest)]
  exact List.drop_left

theorem length_rest_next {c d : Cursor} {t : Token} (h : c.next = (.ok (some t), d)) :
    d.rest.length < c.rest.length := by
  have hb := Text.length_dropBlanks_le c.rest
  simp only [next, rest_skipBlanks] at h
  split at h
  · simp at h
  · split at h
    · simp at h
    · next kind lexeme hf =>
      obtain ⟨hp, hn⟩ := TokenKind.isPrefix_of_first? hf
      have hl := hp.length_le
      have h0 := List.length_pos_iff.mpr hn
      split at h
      · obtain rfl := (Prod.mk.inj h).2
        simp only [advance, rest_skipBlanks, List.length_drop]
        omega
      · simp at h

/-- All tokens from the cursor on, or the first error. -/
def scan (c : Cursor) : Except ScanError (List Token) :=
  match _h : c.next with
  | (.error e, _) => .error e
  | (.ok none, _) => .ok []
  | (.ok (some t), d) => d.scan.map (t :: ·)
termination_by c.rest.length
decreasing_by exact length_rest_next _h

end Cursor

/-- The tokens of a source, comments included. -/
def scan (source : String) : Except ScanError (List Token) := (Cursor.start source).scan

end Calculator
