/-!
# Lines of bytes

A line ends with a line feed, and a carriage return in front of the line feed belongs to the end.
The last line may do without; then a carriage return is part of it.
-/

namespace Calculator

def lineFeed : UInt8 := 10

def carriageReturn : UInt8 := 13

/-- A line without a carriage return at its end. -/
def dropReturn (line : List UInt8) : List UInt8 :=
  if line.getLast? = some carriageReturn then line.dropLast else line

/-- The lines of an input, each without its end. -/
def linesOf (bytes : List UInt8) : List (List UInt8) :=
  match bytes with
  | [] => []
  | b :: bs =>
    let line := (b :: bs).takeWhile (· ≠ lineFeed)
    match _h : (b :: bs).dropWhile (· ≠ lineFeed) with
    | [] => [line]
    | _ :: rest => dropReturn line :: linesOf rest
termination_by bytes.length
decreasing_by
  have := (List.dropWhile_sublist (l := b :: bs) (· ≠ lineFeed)).length_le
  rw [_h] at this
  simp only [List.length_cons] at this ⊢
  omega

/-- The text of a line, if its bytes are UTF-8. -/
def decodeLine (line : List UInt8) : Option String := String.fromUTF8? line.toByteArray

end Calculator
