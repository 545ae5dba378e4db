import Calculator.Decimal.Basic

/-!
# The fewest digits that read back

A positive float stands for every real number that rounds to it, and these fill an interval. Its
shortest decimal is the number with the fewest digits in that interval; of two such the nearer one,
and of two equally near the larger. All comparisons are between natural numbers.
-/

namespace Calculator

/-- The reals that round to one positive float, all over one denominator. -/
structure RoundingInterval where
  low : Nat
  value : Nat
  high : Nat
  denominator : Nat
  /-- Whether the two ends round to the float, too. -/
  closed : Bool
deriving DecidableEq, Repr

namespace RoundingInterval

/-- The interval of the float `m * 2 ^ q`. A gap is half as wide below a power of two. -/
def ofBinary (m : Nat) (q : Int) : RoundingInterval :=
  let below := if m = 1 <<< 52 ∧ -1074 < q then 1 else 2
  let shift := (q - 2).toNat
  { low := (4 * m - below) <<< shift
    value := (4 * m) <<< shift
    high := (4 * m + 2) <<< shift
    denominator := 1 <<< (2 - q).toNat
    closed := m % 2 = 0 }

/-- Whether `d * 10 ^ u` lies in the interval. -/
def contains (i : RoundingInterval) (d : Nat) (u : Int) : Bool :=
  let point := d * Nat.pow 10 u.toNat * i.denominator
  let low := i.low * Nat.pow 10 (-u).toNat
  let high := i.high * Nat.pow 10 (-u).toNat
  if i.closed then low ≤ point && point ≤ high else low < point && point < high

/-- The multiple of `10 ^ u` just below the value, counted in that unit. -/
def below (i : RoundingInterval) (u : Int) : Nat :=
  i.value * Nat.pow 10 (-u).toNat / (i.denominator * Nat.pow 10 u.toNat)

/-- Whether the value is nearer to `d * 10 ^ u` than to the next multiple of `10 ^ u`. -/
def nearerBelow (i : RoundingInterval) (d : Nat) (u : Int) : Bool :=
  2 * (i.value * Nat.pow 10 (-u).toNat) < (2 * d + 1) * (Nat.pow 10 u.toNat * i.denominator)

/-- The multiple of `10 ^ u` that stands for the value, if one lies in the interval. -/
def multiple? (i : RoundingInterval) (u : Int) : Option Nat :=
  let d := i.below u
  match i.contains d u, i.contains (d + 1) u with
  | true, true => some (if i.nearerBelow d u then d else d + 1)
  | true, false => some d
  | false, true => some (d + 1)
  | false, false => none

/-- The power of ten of the value's first digit. -/
def leadingExponent (i : RoundingInterval) : Int :=
  if i.denominator ≤ i.value then
    ((Nat.toDigits 10 (i.value / i.denominator)).length : Int) - 1
  else
    -((Nat.toDigits 10 (i.denominator / i.value)).length : Int)

/-- The first hit on ever finer grids. Seventeen digits always suffice. -/
def shortest (i : RoundingInterval) : Decimal :=
  let first := i.leadingExponent
  let hit := (List.range 17).findSome? fun (n : Nat) =>
    let u := first - n
    (i.multiple? u).map fun d => Decimal.mk d u
  (hit.getD ⟨i.below (first - 16), first - 16⟩).reduce

end RoundingInterval

/-- The shortest decimal that reads back as the float `m * 2 ^ q`. -/
def Decimal.shortest (m : Nat) (q : Int) : Decimal :=
  (RoundingInterval.ofBinary m q).shortest

end Calculator
