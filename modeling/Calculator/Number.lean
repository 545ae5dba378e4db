import Calculator.Decimal.Layout

/-!
# Numbers

A number is a 64-bit integer or a float. What an integer cannot hold becomes a float; no operation
wraps around.
-/

namespace Calculator

/-- The 64-bit integer of this value, if there is one. -/
def int64? (i : Int) : Option Int64 :=
  if Int64.minValue.toInt ≤ i ∧ i ≤ Int64.maxValue.toInt then some (Int64.ofInt i) else none

theorem int64?_eq_some_iff {i : Int} {n : Int64} : int64? i = some n ↔ n.toInt = i := by
  have lower := n.minValue_le_toInt
  have upper := n.toInt_le
  simp only [int64?, Option.ite_none_right_eq_some, Option.some.injEq]
  constructor
  · rintro ⟨⟨h, h'⟩, rfl⟩
    exact Int64.toInt_ofInt_of_le h (Int.lt_of_le_of_lt h' (by decide))
  · rintro rfl
    exact ⟨⟨lower, upper⟩, Int64.ofInt_toInt n⟩

@[simp] theorem int64?_toInt (n : Int64) : int64? n.toInt = some n :=
  int64?_eq_some_iff.mpr rfl

theorem int64?_eq_none_iff {i : Int} :
    int64? i = none ↔ i < Int64.minValue.toInt ∨ Int64.maxValue.toInt < i := by
  simp only [int64?, ite_eq_right_iff, reduceCtorEq, imp_false]
  omega

/-- The float nearest to an integer, half to even. -/
def nearestFloat (i : Int) : Float := .ofModel (.ofInt i)

/-- The integer that a float is equal to, if there is one. Both zeros are equal to `0`. -/
def wholeValue? (x : Float) : Option Int :=
  match x.toModel.unpack with
  | .zero _ => some 0
  | .finite s m q _ =>
    if 0 ≤ q then
      some (s.apply (m <<< q.toNat))
    else if m >>> (-q).toNat <<< (-q).toNat = m then
      some (s.apply (m >>> (-q).toNat))
    else
      none
  | _ => none

inductive Number where
  | integer (n : Int64)
  | float (x : Float)
deriving DecidableEq

namespace Number

def toFloat : Number → Float
  | .integer n => nearestFloat n.toInt
  | .float x => x

/-- The smallest integer has no negative, so its negation is a float. -/
def negate : Number → Number
  | .integer n =>
    match int64? (-n.toInt) with
    | some m => .integer m
    | none => .float (-nearestFloat n.toInt)
  | .float x => .float (-x)

/-- Reads a whole-valued float as an integer where one can hold it. -/
def settle : Number → Number
  | .integer n => .integer n
  | .float x =>
    match (wholeValue? x).bind int64? with
    | some n => .integer n
    | none => .float x

/-- How a number is written, by the layout of its floats. -/
def write (l : Layout) : Number → String
  | .integer n => intText n.toInt
  | .float x => l.float x

def text (n : Number) : String := n.write .plain

end Number

end Calculator
