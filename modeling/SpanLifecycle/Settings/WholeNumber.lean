import SpanLifecycle.Decimal.Nearest

/-!
# Whole numbers in a configuration

A whole number may be given as a number, as a truth value, as a decimal without a fraction, or as
text.  A text that is digits behind at most a minus sign is read as it stands.  Any other is cleaned
first: blanks around it and the zeros in front are dropped, then a fraction of zeros, then single
underscores; what is left has to be digits behind at most a minus sign.  Too many digits are told
apart from other faults only in a text that is read as it stands.

The zeros in front are dropped together with every underscore among them, and what they hid may
start with a minus sign of its own, so that `0_-2` is minus two.
-/

namespace SpanLifecycle

/-- Why a value is no whole number. -/
inductive NotWhole where
  /-- A text that does not spell one. -/
  | unreadable
  /-- A number with more digits than are taken. -/
  | tooLarge
  /-- A number with a fraction. -/
  | fractional
  /-- A number beyond all bounds, or none. -/
  | infinite
  /-- A value of another kind. -/
  | wrongKind
  deriving Repr, DecidableEq, Inhabited

namespace WholeNumber

/-- The characters that count as blank around a number. -/
def isBlank (c : Char) : Bool :=
  let n := c.toNat
  (0x09 ≤ n && n ≤ 0x0d) || n == 0x20 || n == 0x85 || n == 0xa0 || n == 0x1680 ||
    (0x2000 ≤ n && n ≤ 0x200a) || n == 0x2028 || n == 0x2029 || n == 0x202f || n == 0x205f ||
    n == 0x3000

/-- A decimal digit. -/
def isNumeral (c : Char) : Bool := '0' ≤ c && c ≤ '9'

/-- The digits that a number in text may have. -/
def sizeLimit : Nat := 4300

/-! ## Cleaning -/

/-- Removes blanks at both ends. -/
def trim (cs : List Char) : List Char :=
  ((cs.dropWhile isBlank).reverse.dropWhile isBlank).reverse

/-- Goes past zeros and underscores, the last of which was `last`; it is kept when it stands before
the point or at the end. -/
def pastZeros? (last : Char) : List Char → Option (List Char)
  | [] => some [last]
  | c :: rest =>
    if c = '0' ∨ c = '_' then pastZeros? c rest
    else if isNumeral c ∨ c = '-' then some (c :: rest)
    else if c = '.' then some (last :: c :: rest)
    else none

/-- Drops the zeros in front of a number without a sign. -/
def dropZeros? : List Char → Option (List Char)
  | [] => none
  | '0' :: rest => pastZeros? '0' rest
  | c :: rest => if isNumeral c then some (c :: rest) else none

/-- Drops the zeros in front; a minus sign stays, and a plus sign does not. -/
def dropSignedZeros? : List Char → Option (List Char)
  | '+' :: '-' :: _ => none
  | '+' :: rest => dropZeros? rest
  | '-' :: rest => (dropZeros? rest).map ('-' :: ·)
  | cs => dropZeros? cs

/-- Drops a point that is followed by one or more zeros and nothing else. -/
def dropFraction (cs : List Char) : List Char :=
  match cs.span (· != '.') with
  | (whole, _ :: zero :: zeros) => if (zero :: zeros).all (· == '0') then whole else cs
  | _ => cs

/-- Whether two underscores stand side by side. -/
def hasDoubleUnderscore : List Char → Bool
  | '_' :: '_' :: _ => true
  | _ :: rest => hasDoubleUnderscore rest
  | [] => false

/-- Drops single underscores, none of which may stand at an end. -/
def dropUnderscores (cs : List Char) : List Char :=
  if cs.head? = some '_' || cs.getLast? = some '_' || hasDoubleUnderscore cs then cs
  else cs.filter (· != '_')

/-! ## Reading -/

/-- The number that decimal digits spell. -/
def ofDigits (digits : List Char) : Nat := digits.foldl (fun n c => 10 * n + (c.toNat - 48)) 0

/-- Reads digits behind an optional minus sign; only zero itself starts with a zero.  Too many
digits are refused before what follows them is looked at. -/
def readPlain (cs : List Char) : Except NotWhole Int :=
  let negative := cs.head? = some '-'
  let unsigned := if negative then cs.drop 1 else cs
  let digits := unsigned.takeWhile isNumeral
  if digits = [] ∨ (digits.head? = some '0' ∧ digits ≠ ['0']) then .error .unreadable
  else if sizeLimit < digits.length then .error .tooLarge
  else if digits.length < unsigned.length then .error .unreadable
  else .ok (if negative then -(ofDigits digits : Int) else (ofDigits digits : Int))

/-- Reads a text that has to be cleaned. -/
def readCleaned (cs : List Char) : Except NotWhole Int :=
  match dropSignedZeros? (trim cs) with
  | none => .error .unreadable
  | some cs => (readPlain (dropUnderscores (dropFraction cs))).mapError fun _ => .unreadable

/-- Reads a whole number from text. -/
def ofText (s : String) : Except NotWhole Int :=
  match readPlain s.toList with
  | .error .unreadable => readCleaned s.toList
  | read => read

/-- Whether a number fits into a machine word of 64 bits; both ends of the range are left out. -/
def fitsWord (n : Int) : Bool := -9223372036854775808 < n && n < 9223372036854775808

/-- The whole number that a decimal counts for. -/
def ofDecimal (d : Decimal) : Except NotWhole Int :=
  match d.size? with
  | none => .error .infinite
  | some size =>
    match size.whole? with
    | none => .error .fractional
    | some n =>
      let n : Int := if d.negative then -(n : Int) else n
      if fitsWord n then .ok n else .error .tooLarge

/-- Reads a whole number from a value. -/
def ofValue : Value → Except NotWhole Int
  | .int n => .ok n
  | .bool b => .ok (if b then 1 else 0)
  | .decimal d => ofDecimal d
  | .notANumber => .error .infinite
  | .text s => ofText s
  | .null | .list _ | .object _ => .error .wrongKind

end WholeNumber

end SpanLifecycle
