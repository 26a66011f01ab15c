import SpanLifecycle.Value

/-!
# The nearest number of double precision

A decimal is kept as it was written, but what it counts for is the number of double precision that
is nearest to it: at most 53 binary digits and a power of two.  Of two that are equally near the
even one is taken, and a decimal beyond the greatest of them counts for none.  A value is bounded
when every decimal in it counts for one.
-/

namespace SpanLifecycle

/-- The size of a number of double precision: `units` times two to the power `exponent`. -/
structure BinarySize where
  units : Nat
  exponent : Int
  deriving Repr, DecidableEq, Inhabited

namespace BinarySize

/-- The whole number that a size is, if it is one. -/
def whole? (b : BinarySize) : Option Nat :=
  if 0 ≤ b.exponent then some (b.units * Nat.pow 2 b.exponent.toNat)
  else
    let unit := Nat.pow 2 (-b.exponent).toNat
    if b.units % unit = 0 then some (b.units / unit) else none

/-- The whole number nearest to a quotient, the even one of two that are equally near. -/
def roundDiv (num den : Nat) : Nat :=
  let down := num / den
  let twice := 2 * (num % den)
  if twice < den ∨ (twice = den ∧ down % 2 = 0) then down else down + 1

/-- A quotient over a power of two, as a quotient. -/
def scaled (num den : Nat) (exponent : Int) : Nat × Nat :=
  if 0 ≤ exponent then (num, den * Nat.pow 2 exponent.toNat)
  else (num * Nat.pow 2 (-exponent).toNat, den)

/-- The power of two that leaves a quotient 53 binary digits before the point, or fewer if it is
very small. -/
def exponentOf (num den : Nat) : Int :=
  let low := (num.log2 : Int) - den.log2 - 53
  let (n, d) := scaled num den low
  max (if n / d < Nat.pow 2 53 then low else low + 1) (-1074)

/-- The size nearest to a positive quotient; none beyond the greatest. -/
def nearest? (num den : Nat) : Option BinarySize :=
  let exponent := exponentOf num den
  let (n, d) := scaled num den exponent
  let units := roundDiv n d
  if 971 < exponent ∨ (exponent = 971 ∧ units = Nat.pow 2 53) then none
  else some { units, exponent }

end BinarySize

/-- The size of double precision that a decimal counts for.  The number of its digits settles the
cases far outside the range. -/
def Decimal.size? (d : Decimal) : Option BinarySize :=
  let point := ((toString d.digits).length : Int) + d.exponent
  if d.digits = 0 ∨ point < -400 then some { units := 0, exponent := 0 }
  else if 400 < point then none
  else if 0 ≤ d.exponent then BinarySize.nearest? (d.digits * Nat.pow 10 d.exponent.toNat) 1
  else BinarySize.nearest? d.digits (Nat.pow 10 (-d.exponent).toNat)

namespace Value

mutual

/-- Whether every decimal in a value counts for a number of double precision. -/
def isBounded : Value → Bool
  | decimal d => d.size?.isSome
  | notANumber => false
  | list items => areBounded items
  | object fields => fieldsAreBounded fields
  | null | bool _ | int _ | text _ => true

/-- Whether all items of a list are bounded. -/
def areBounded : List Value → Bool
  | [] => true
  | v :: rest => v.isBounded && areBounded rest

/-- Whether all fields of an object are bounded. -/
def fieldsAreBounded : List (String × Value) → Bool
  | [] => true
  | (_, v) :: rest => v.isBounded && fieldsAreBounded rest

end

end Value

end SpanLifecycle
