import Calculator.Text.Extender
import Calculator.Text.Ignorable
import Calculator.Text.Printable

/-!
# Quoted text

A text between double quotes in which every character can be seen: quotes and backslashes are
escaped, and what has no visible form of its own is written by its code point.
-/

namespace Calculator.Text

/-- The letter that follows the backslash of a short escape. -/
def shortEscape? : Char → Option Char
  | '"' => some '"'
  | '\\' => some '\\'
  | '\t' => some 't'
  | '\r' => some 'r'
  | '\n' => some 'n'
  | '\x00' => some '0'
  | _ => none

/-- Whether a character can be seen for itself: it has a form, and that form neither may be left out
nor belongs to another character. -/
def showsItself (c : Char) : Bool := isPrintable c && !isIgnorable c && !isExtender c

def escape (c : Char) : List Char :=
  match shortEscape? c with
  | some e => ['\\', e]
  | none =>
    if showsItself c then [c]
    else ['\\', 'u', '\x7b'] ++ Nat.toDigits 16 c.toNat ++ ['\x7d']

def quote (s : String) : String :=
  String.ofList ('"' :: s.toList.flatMap escape ++ ['"'])

example : quote "say \"hi\"\t" = "\"say \\\"hi\\\"\\t\"" := by decide +kernel

end Calculator.Text
