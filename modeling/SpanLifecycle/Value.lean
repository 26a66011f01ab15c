/-!
# Structured values

The values that foreign code may put into a request's attributes, into log fields and into
response bodies: null, truth values, whole numbers of any size, decimals, text, lists and
objects.  A decimal keeps the digits it was written with; nothing here computes with it.  A decimal
may also be no number at all.
-/

namespace SpanLifecycle

/-- A decimal number as written: a sign, its digits and a power of ten. -/
structure Decimal where
  negative : Bool
  digits : Nat
  exponent : Int
  deriving Repr, DecidableEq, Inhabited

/-- The number that the digits stand for is zero exactly when the digits are. -/
def Decimal.isZero (d : Decimal) : Bool := d.digits == 0

/-- A structured value; an object keeps its fields in the order they were given. -/
inductive Value where
  | null
  | bool (b : Bool)
  | int (n : Int)
  | decimal (d : Decimal)
  /-- The decimal that is no number. -/
  | notANumber
  | text (s : String)
  | list (items : List Value)
  | object (fields : List (String × Value))
  deriving Repr, BEq, Inhabited

namespace Value

/-- A flag is read by this rule: null, false, zero and everything empty are unset, all else is
set. -/
def truthy : Value → Bool
  | null => false
  | bool b => b
  | int n => n != 0
  | decimal d => !d.isZero
  | notANumber => true
  | text s => s != ""
  | list items => !items.isEmpty
  | object fields => !fields.isEmpty

/-- The name of a value's kind, as it appears in the message of a failed field access. -/
def kindName : Value → String
  | null => "NoneType"
  | bool _ => "bool"
  | int _ => "int"
  | decimal _ | notANumber => "float"
  | text _ => "str"
  | list _ => "list"
  | object _ => "dict"

/-- Text, or null where there is none. -/
def ofText? : Option String → Value
  | none => null
  | some s => text s

end Value

end SpanLifecycle
