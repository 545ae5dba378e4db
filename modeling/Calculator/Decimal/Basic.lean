/-!
# Decimal numbers

Digits times a power of ten, and the float nearest to it. Digit texts are lists of characters in
base ten; `Nat.ofDigitChars` reads what `Nat.toDigits` writes.
-/

namespace Calculator

/-- The number `digits * 10 ^ exponent`. -/
structure Decimal where
  digits : Nat
  exponent : Int
deriving DecidableEq, Repr

namespace Decimal

/-- The nearest float, half to even. It is infinite beyond the largest float. -/
def toFloat (d : Decimal) : Float :=
  .ofModel (.ofScientific d.digits d.exponent)

/-- The number written as `whole.fraction`. -/
def ofDigits (whole fraction : List Char) : Decimal where
  digits := Nat.ofDigitChars 10 (whole ++ fraction) 0
  exponent := -(fraction.length : Int)

/-- The same number with no zero at the end of its digits. -/
def reduce (d : Decimal) : Decimal :=
  if h : 0 < d.digits ∧ d.digits % 10 = 0 then
    reduce ⟨d.digits / 10, d.exponent + 1⟩
  else
    d
termination_by d.digits
decreasing_by exact Nat.div_lt_self h.1 (by decide)

end Decimal

def natText (n : Nat) : String := String.ofList (Nat.toDigits 10 n)

@[simp] theorem toList_natText (n : Nat) : (natText n).toList = Nat.toDigits 10 n := by
  simp [natText]

def intText (i : Int) : String :=
  if i < 0 then "-" ++ natText i.natAbs else natText i.natAbs

end Calculator
