import Curriculum.Decimal.Number

/-! # Decimals of a given size

A magnitude can be rounded to so many places behind the point, or to so many digits wherever the
point is. A tie goes to the even digit. -/

namespace Curriculum

namespace Magnitude

/-- The nearest whole number of units of `10 ^ power`. -/
def unitsOf (m : Magnitude) (power : Int) : Nat :=
  let (n, d) := m.toRatio
  roundDiv (n * Nat.pow 10 (-power).toNat) (d * Nat.pow 10 power.toNat)

def toPlaces (m : Magnitude) (places : Nat) : Decimal :=
  ⟨m.unitsOf (-Int.ofNat places), -Int.ofNat places⟩

/-- The decimal with so many digits, at least one. Zero has no others. -/
def toDigits (m : Magnitude) (count : Nat) : Decimal :=
  if m.mantissa = 0 then ⟨0, 1 - Int.ofNat count⟩
  else
    let power := m.leadingPower - Int.ofNat count + 1
    let units := m.unitsOf power
    if units = Nat.pow 10 count then ⟨Nat.pow 10 (count - 1), power + 1⟩ else ⟨units, power⟩

end Magnitude

namespace Decimal

/-- Digits with a point before the last `places` of them, if there are any. -/
def pointed (places : Nat) (digits : Text) : Text :=
  if places = 0 then digits
  else digits.take (digits.length - places) ++ '.' :: digits.drop (digits.length - places)

/-- All digits down to the last one, with a point where it belongs. -/
def positional (d : Decimal) : Text :=
  let places := (-d.power).toNat
  let digits := Number.digits (d.digits * Nat.pow 10 d.power.toNat)
  pointed places (List.replicate (places + 1 - digits.length) '0' ++ digits)

/-- One digit before the point, and an exponent of two digits at least. Of zero `count` digits are
written. -/
def scientific (count : Nat) (d : Decimal) : Text :=
  let digits := Number.digits d.digits
  let digits := digits ++ List.replicate (count - digits.length) '0'
  let exponent := if d.digits = 0 then 0 else d.leading
  let power := Number.digits exponent.natAbs
  pointed (digits.length - 1) digits ++
    ['e', if exponent < 0 then '-' else '+'] ++ List.replicate (2 - power.length) '0' ++ power

end Decimal

end Curriculum
