/-! # Doubles

A finite number of the IEEE format with 64 bits is a sign and `mantissa * 2 ^ exponent`. All
arithmetic here is exact arithmetic on natural numbers followed by one rounding to nearest, where a
tie goes to the even mantissa. -/

namespace Curriculum

structure Magnitude where
  mantissa : Nat
  exponent : Int
  deriving DecidableEq, Repr

/-- A finite double. The two zeros differ by their sign. -/
structure Double where
  negative : Bool
  magnitude : Magnitude
  deriving DecidableEq, Repr

namespace Magnitude

/-- Bits of a mantissa. -/
def precision : Nat := 53

def leastExponent : Int := -1074

def greatestExponent : Int := 971

/-- The smallest mantissa of a double that is not subnormal. -/
def leastNormal : Nat := Nat.pow 2 (precision - 1)

def zero : Magnitude := ⟨0, leastExponent⟩

/-- The quotient rounded to the nearest natural number, a tie to the even one. -/
def roundDiv (num den : Nat) : Nat :=
  let quotient := num / den
  let twice := 2 * (num % den)
  if twice < den then quotient
  else if den < twice then quotient + 1
  else if quotient % 2 = 0 then quotient else quotient + 1

/-- `x * 2 ^ e` as a fraction. -/
def scaleFraction (num den : Nat) (e : Int) : Nat × Nat :=
  (num * Nat.pow 2 e.toNat, den * Nat.pow 2 (-e).toNat)

/-- The magnitude nearest to `num / den`, or `none` when that is beyond the largest double. -/
def ofRatio (num den : Nat) : Option Magnitude :=
  if num = 0 then some zero
  else
    let guess : Int := Int.ofNat num.log2 - Int.ofNat den.log2
    let (n, d) := scaleFraction num den (-guess)
    let top := if n < d then guess - 1 else guess
    let exponent := max (top - Int.ofNat (precision - 1)) leastExponent
    let (n, d) := scaleFraction num den (-exponent)
    let mantissa := roundDiv n d
    let rounded : Magnitude :=
      if mantissa = Nat.pow 2 precision then ⟨leastNormal, exponent + 1⟩ else ⟨mantissa, exponent⟩
    if rounded.exponent ≤ greatestExponent then some rounded else none

def toRatio (m : Magnitude) : Nat × Nat := scaleFraction m.mantissa 1 m.exponent

def mul (a b : Magnitude) : Option Magnitude :=
  let (n, d) := a.toRatio
  let (n', d') := b.toRatio
  ofRatio (n * n') (d * d')

/-- The rounded quotient, for a divisor that is not zero. -/
def div (a b : Magnitude) : Option Magnitude :=
  let (n, d) := a.toRatio
  let (n', d') := b.toRatio
  ofRatio (n * d') (d * n')

/-- The largest power of ten that is a double. -/
def greatestPower : Nat := 308

def powerOfTen (n : Nat) : Option Magnitude := ofRatio (Nat.pow 10 n) 1

/-- Division by `10 ^ n`, in steps of at most `greatestPower` powers. -/
def divPower (m : Magnitude) (n : Nat) : Option Magnitude :=
  if m.mantissa = 0 then some m
  else if n ≤ greatestPower then do m.div (← powerOfTen n)
  else do
    let scaled ← m.div (← powerOfTen greatestPower)
    scaled.divPower (n - greatestPower)
termination_by n
decreasing_by simp only [greatestPower] at *; omega

/-- The magnitude read from decimal digits and a power of ten. The digits are rounded first and then
scaled by the power, itself a double, so a number of many digits may come out one step away from
the nearest double. `none` stands for a number too large. -/
def ofDecimal (digits : Nat) (power : Int) : Option Magnitude := do
  let m ← ofRatio digits 1
  if power < 0 then m.divPower (-power).toNat
  else if m.mantissa = 0 then some m
  else if power.toNat ≤ greatestPower then m.mul (← powerOfTen power.toNat)
  else none

end Magnitude

end Curriculum
