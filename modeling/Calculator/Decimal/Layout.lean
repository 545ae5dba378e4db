import Calculator.Decimal.Shortest

/-!
# How floats are written

Every float is written with its shortest digits. The two layouts differ in when they use an
exponent and in whether a whole value shows that it is a float.
-/

namespace Calculator

/-- The decisions of one way of writing floats. -/
structure Layout where
  /-- Whether a number whose first digit counts `10 ^ e` is written without an exponent. -/
  positional : Int → Bool
  /-- What follows a whole number that is written without an exponent. -/
  wholeMark : String

namespace Layout

/-- Never an exponent, and whole numbers look like integers. -/
def plain : Layout := ⟨fun _ => true, ""⟩

/-- Exponents below 10^-4 and from 10^16 on, and a point in every other number. -/
def marked : Layout := ⟨fun e => -4 ≤ e && e < 16, ".0"⟩

/-- Writes a decimal that is not zero. -/
def decimal (l : Layout) (d : Decimal) : String :=
  let digits := Nat.toDigits 10 d.digits
  -- how many digits stand before the point
  let whole : Int := digits.length + d.exponent
  let zeros (n : Int) : List Char := List.replicate n.toNat '0'
  if l.positional (whole - 1) then
    if 0 ≤ d.exponent then
      String.ofList (digits ++ zeros d.exponent) ++ l.wholeMark
    else if 0 < whole then
      String.ofList (digits.take whole.toNat ++ '.' :: digits.drop whole.toNat)
    else
      String.ofList ('0' :: '.' :: zeros (-whole) ++ digits)
  else
    let fraction := digits.drop 1
    String.ofList (digits.take 1 ++ if fraction.isEmpty then [] else '.' :: fraction)
      ++ "e" ++ intText (whole - 1)

/-- The sign in front of what follows. -/
def signText : Float.Model.UnpackedFloat.Sign → String
  | .positive => ""
  | .negative => "-"

/-- Writes a float. Zeros keep their sign; what is not a number has none. -/
def float (l : Layout) (x : Float) : String :=
  match x.toModel.unpack with
  | .notANumber => "NaN"
  | .infinity s => signText s ++ "inf"
  | .zero s => signText s ++ "0" ++ l.wholeMark
  | .finite s m q _ => signText s ++ l.decimal (Decimal.shortest m q)

end Layout

example : Layout.plain.float 1e21 = "1000000000000000000000" := by decide +kernel

example : Layout.marked.float 1e16 = "1e16" := by decide +kernel

example : Layout.marked.float 9.9999e-5 = "9.9999e-5" := by decide +kernel

example : Layout.marked.float (-0.0) = "-0.0" := by decide +kernel

/-- Both `1333333333333333.2` and `1333333333333333.3` are as near as can be. -/
example : Layout.plain.float 1333333333333333.25 = "1333333333333333.3" := by decide +kernel

end Calculator
