/-!
# Hexadecimal text

Numbers as lower-case hexadecimal digits of a fixed width, and back.
-/

namespace SpanLifecycle.Hex

/-- The digit for a value below sixteen. -/
def digit (n : Nat) : Char :=
  if n < 10 then Char.ofNat (48 + n) else Char.ofNat (87 + n)

/-- The value of a lower-case digit. -/
def value? (c : Char) : Option Nat :=
  if '0' ≤ c ∧ c ≤ '9' then some (c.toNat - 48)
  else if 'a' ≤ c ∧ c ≤ 'f' then some (c.toNat - 87)
  else none

/-- The lowest `width` digits of a number, most significant first. -/
def digits : (width : Nat) → Nat → List Char
  | 0, _ => []
  | width + 1, n => digits width (n / 16) ++ [digit (n % 16)]

/-- A number as text of a fixed width. -/
def render (width n : Nat) : String := String.ofList (digits width n)

/-- Reads digits from the most significant on; anything else is refused. -/
def read? (cs : List Char) : Option Nat :=
  cs.foldl (fun acc c => acc.bind fun n => (value? c).map (16 * n + ·)) (some 0)

end SpanLifecycle.Hex
