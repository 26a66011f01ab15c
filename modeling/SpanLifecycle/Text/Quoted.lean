import SpanLifecycle.Text.Hex
import SpanLifecycle.Text.Unprinted

/-!
# Quoted text

A text between quotes, with everything that does not print written as an escape.
-/

namespace SpanLifecycle.Quoted

/-- The single quote. -/
def single : Char := '\x27'

/-- The double quote. -/
def double : Char := '\x22'

/-- One character inside quotes of the given kind. -/
def escape (delimiter c : Char) : List Char :=
  if c == delimiter || c == '\\' then ['\\', c]
  else if c == '\n' then ['\\', 'n']
  else if c == '\r' then ['\\', 'r']
  else if c == '\t' then ['\\', 't']
  else if Unprinted.isPrinted c then [c]
  else if c.toNat < 0x100 then '\\' :: 'x' :: Hex.digits 2 c.toNat
  else if c.toNat < 0x10000 then '\\' :: 'u' :: Hex.digits 4 c.toNat
  else '\\' :: 'U' :: Hex.digits 8 c.toNat

/-- Double quotes are taken for a text that holds a single quote and no double one, single
quotes for every other. -/
def delimiter (s : List Char) : Char :=
  if s.contains single && !s.contains double then double else single

/-- A text between quotes. -/
def quote (s : String) : String :=
  let d := delimiter s.toList
  String.ofList (d :: s.toList.flatMap (escape d) ++ [d])

end SpanLifecycle.Quoted
