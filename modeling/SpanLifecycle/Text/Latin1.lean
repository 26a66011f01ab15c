import SpanLifecycle.Fault
import SpanLifecycle.Text.Hex

/-!
# One byte per character

A text of characters below 256 as bytes.  Any other text has no such encoding; the failure names
its first run of characters that do not fit.
-/

namespace SpanLifecycle

namespace Latin1

/-- Whether a character fits into a byte. -/
def fits (c : Char) : Bool := c.toNat < 256

/-- A character by its number, in the shortest of the three escapes. -/
def escape (c : Char) : String :=
  if c.toNat < 256 then "\\x" ++ Hex.render 2 c.toNat
  else if c.toNat < 65536 then "\\u" ++ Hex.render 4 c.toNat
  else "\\U" ++ Hex.render 8 c.toNat

/-- The failure to encode a run of characters that begins at a position. -/
def refusal (position : Nat) (run : List Char) : Fault :=
  let what := match run with
    | [c] => "character '" ++ escape c ++ "' in position " ++ toString position
    | _ => "characters in position " ++ toString position ++ "-" ++
      toString (position + run.length - 1)
  { kind := .unicodeEncode
    message := some ("'latin-1' codec can't encode " ++ what ++ ": ordinal not in range(256)") }

/-- The bytes of a text. -/
def encode (s : String) : Except Fault (List UInt8) :=
  let start := s.toList.takeWhile fits
  let run := (s.toList.drop start.length).takeWhile fun c => !fits c
  if run.isEmpty then .ok (s.toList.map fun c => c.toNat.toUInt8)
  else .error (refusal start.length run)

end Latin1

end SpanLifecycle
