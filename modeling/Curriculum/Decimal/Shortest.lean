import Curriculum.Decimal.Double

/-! # Shortest decimals

The decimal written for a double has the fewest digits that still read back as that double, and
among those of equal length the one nearest to it. A decimal reads back as the double when it lies
between the midpoints to the two neighbours; the midpoints themselves belong to a double with an
even mantissa. -/

namespace Curriculum

/-- The number `digits * 10 ^ power`. -/
structure Decimal where
  digits : Nat
  power : Int
  deriving DecidableEq, Repr

namespace Decimal

def size (d : Decimal) : Nat := (Nat.toDigits 10 d.digits).length

/-- The power of ten of the leading digit. -/
def leading (d : Decimal) : Int := d.power + Int.ofNat d.size - 1

/-- The same number without zeros at the end of its digits. -/
def dropZeros (digits : Nat) (power : Int) : Decimal :=
  if digits = 0 then ⟨0, power⟩
  else if digits % 10 = 0 then dropZeros (digits / 10) (power + 1)
  else ⟨digits, power⟩
termination_by digits
decreasing_by omega

end Decimal

namespace Magnitude

def leadingPower (m : Magnitude) : Int :=
  let (n, d) := m.toRatio
  if d ≤ n then Int.ofNat (Nat.toDigits 10 (n / d)).length - 1
  else -Int.ofNat (Nat.toDigits 10 ((d - 1) / n)).length

/-- A magnitude in quarters of its last place beside a decimal of the given power, both over a
common denominator: the factor of the quarters and that of the decimal digits. -/
private def commonScale (m : Magnitude) (power : Int) : Nat × Nat :=
  let e := m.exponent - 2
  (Nat.pow 2 e.toNat * Nat.pow 10 (-power).toNat, Nat.pow 2 (-e).toNat * Nat.pow 10 power.toNat)

/-- The decimal lies where every number rounds to the magnitude. -/
def readsBack (m : Magnitude) (d : Decimal) : Bool :=
  let (quarter, unit) := m.commonScale d.power
  let below := if m.mantissa = leastNormal && leastExponent < m.exponent then 1 else 2
  let low := (4 * m.mantissa - below) * quarter
  let high := (4 * m.mantissa + 2) * quarter
  let value := d.digits * unit
  if m.mantissa % 2 = 0 then low ≤ value && value ≤ high else low < value && value < high

/-- The decimal with `count` digits that reads back as the magnitude, if there is one: of the two
neighbours on the grid of that many digits the nearer, and of two equally near the even one. -/
def shortestOf (m : Magnitude) (count : Nat) : Option Decimal :=
  let power := m.leadingPower - Int.ofNat count + 1
  let (quarter, unit) := m.commonScale power
  let value := 4 * m.mantissa * quarter
  let low : Decimal := ⟨value / unit, power⟩
  let high : Decimal := ⟨value / unit + 1, power⟩
  match m.readsBack low, m.readsBack high with
  | true, true =>
    let nearest := roundDiv value unit
    some ⟨nearest, power⟩
  | true, false => some low
  | false, true => some high
  | false, false => none

/-- Seventeen digits always suffice. -/
def greatestSize : Nat := 17

def shortest (m : Magnitude) : Decimal :=
  if m.mantissa = 0 then ⟨0, 0⟩
  else
    match (List.range greatestSize).findSome? fun n => m.shortestOf (n + 1) with
    | some d => Decimal.dropZeros d.digits d.power
    | none => ⟨0, 0⟩

end Magnitude

end Curriculum
