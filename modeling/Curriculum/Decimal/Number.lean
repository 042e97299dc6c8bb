import Curriculum.Text.Basic
import Curriculum.Decimal.Shortest

/-! # Numbers

A number without fraction and exponent that fits a word of 64 bits, signed or unsigned, is an
integer. Every other number is a double. -/

namespace Curriculum

inductive Number where
  | int (value : Int)
  | double (value : Double)
  deriving DecidableEq, Repr

/-- A number as it is spelled: digits before and after the point, and the power of ten. `power` is
`none` when no exponent is written, and `fraction` is `none` when there is no point. -/
structure Numeral where
  negative : Bool
  whole : Text
  fraction : Option Text
  power : Option Int

structure DoubleFormat where
  /-- Positional notation is used from this power of ten of the leading digit, -/
  least : Int
  /-- up to this one. -/
  greatest : Int

namespace Number

/-- Positional notation from 0.00001 to sixteen digits before the point. -/
def format : DoubleFormat := ⟨-5, 15⟩

def digits (n : Nat) : Text := Nat.toDigits 10 n

/-- The digits with a point before the last `places` of them. There is a digit on both sides. -/
def positional (d : Decimal) : Text :=
  let ds := digits d.digits
  if 0 ≤ d.power then ds ++ List.replicate d.power.toNat '0' ++ ['.', '0']
  else
    let places := (-d.power).toNat
    if places < ds.length then
      ds.take (ds.length - places) ++ ['.'] ++ ds.drop (ds.length - places)
    else ['0', '.'] ++ List.replicate (places - ds.length) '0' ++ ds

/-- One digit before the point, no point after a single digit, and a signed exponent. -/
def scientific (d : Decimal) : Text :=
  let mantissa := match digits d.digits with
    | [] => []
    | [c] => [c]
    | c :: cs => c :: '.' :: cs
  let e := d.leading
  mantissa ++ ['e', if e < 0 then '-' else '+'] ++ digits e.natAbs

def displayDouble (x : Double) : Text :=
  let d := x.magnitude.shortest
  let body :=
    if format.least ≤ d.leading && d.leading ≤ format.greatest then positional d else scientific d
  if x.negative then '-' :: body else body

def display : Number → Text
  | .int (.ofNat n) => digits n
  | .int (.negSucc n) => '-' :: digits (n + 1)
  | .double x => displayDouble x

/-- The digits that still fit a word of 64 bits are taken into the significand. What is left over
is returned. -/
def absorb (significand : Nat) : Text → Nat × Text
  | [] => (significand, [])
  | c :: rest =>
    let next := significand * 10 + (c.toNat - '0'.toNat)
    if next < 0x10000000000000000 then absorb next rest else (significand, c :: rest)

/-- The double that a numeral denotes. Digits that no longer fit the significand count as zeros. -/
def doubleOf (n : Numeral) : Option Double := do
  let fraction := n.fraction.getD []
  let (whole, beyond) := absorb 0 n.whole
  let (significand, dropped) := absorb whole fraction
  let power :=
    Int.ofNat beyond.length - Int.ofNat (fraction.length - dropped.length) + n.power.getD 0
  some ⟨n.negative, ← Magnitude.ofDecimal significand power⟩

/-- The number that a numeral denotes, or `none` when it is too large for a double. -/
def ofNumeral (n : Numeral) : Option Number :=
  match n.fraction, n.power, Text.natural? n.whole with
  | none, none, some value =>
    if n.negative then
      if 0 < value && value ≤ 0x8000000000000000 then some (.int (-value)) else (doubleOf n).map .double
    else if value < 0x10000000000000000 then some (.int value)
    else (doubleOf n).map .double
  | _, _, _ => (doubleOf n).map .double

end Number

end Curriculum
