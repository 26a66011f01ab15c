import SpanLifecycle.Decimal.Nearest
import SpanLifecycle.Text.Quoted

/-!
# Values as text

How a structured value is written in a line of text.  Inside a list or an object a text is quoted;
a text on its own is shown as it is.  A decimal shows the digits it has, with a point among them
where the number is of moderate size, and a power of ten beside them where it is not; one beyond
all bounds shows a word.
-/

namespace SpanLifecycle

namespace Decimal

/-- The digits without the zeros they end in. -/
def significant (d : Decimal) : List Char :=
  ((toString d.digits).toList.reverse.dropWhile (· == '0')).reverse

/-- Where the decimal point stands, counted from before the first digit. -/
def point (d : Decimal) : Int :=
  if d.digits = 0 then 1 else ((toString d.digits).length : Int) + d.exponent

/-- The power of ten of a number of extreme size: a sign and at least two digits. -/
def powerText (n : Int) : String :=
  let size := toString n.natAbs
  (if n < 0 then "-" else "+") ++ (if size.length < 2 then "0" ++ size else size)

/-- A decimal with its point among its digits. -/
def positional (digits : List Char) (point : Int) : List Char :=
  let places := point.toNat
  if point ≤ 0 then '0' :: '.' :: List.replicate (-point).toNat '0' ++ digits
  else if digits.length ≤ places then
    digits ++ List.replicate (places - digits.length) '0' ++ ['.', '0']
  else digits.take places ++ '.' :: digits.drop places

/-- A decimal as one digit, the others behind a point, and a power of ten. -/
def scientific (digits : List Char) (point : Int) : List Char :=
  match digits with
  | [] => []
  | first :: [] => first :: 'e' :: (powerText (point - 1)).toList
  | first :: rest => first :: '.' :: rest ++ 'e' :: (powerText (point - 1)).toList

/-- A decimal as text.  Its point stands among its digits from four zeros after it to sixteen
digits before it. -/
def literal (d : Decimal) : String :=
  let body :=
    if d.size?.isNone then ['i', 'n', 'f']
    else if -4 < d.point ∧ d.point ≤ 16 then positional d.significant d.point
    else scientific d.significant d.point
  String.ofList (if d.negative then '-' :: body else body)

end Decimal

namespace Value

mutual

/-- A value as it is written inside another one. -/
def literal : Value → String
  | null => "None"
  | bool b => if b then "True" else "False"
  | int n => toString n
  | decimal d => d.literal
  | notANumber => "nan"
  | text s => Quoted.quote s
  | list items => "[" ++ ", ".intercalate (literals items) ++ "]"
  | object fields => "\x7b" ++ ", ".intercalate (fieldLiterals fields) ++ "\x7d"

/-- The items of a list as they are written. -/
def literals : List Value → List String
  | [] => []
  | v :: rest => v.literal :: literals rest

/-- The fields of an object as they are written. -/
def fieldLiterals : List (String × Value) → List String
  | [] => []
  | (key, v) :: rest => (Quoted.quote key ++ ": " ++ v.literal) :: fieldLiterals rest

end

/-- A value as it is shown on its own. -/
def shown : Value → String
  | text s => s
  | v => v.literal

end Value

end SpanLifecycle
