import SpanLifecycle.Text.Quoted

/-!
# Raised exceptions

What a chain, a backend or a lookup may raise.  A class is *ordinary* when the handlers of a
request see it; the others (cancellation, shutdown, abort) only pass through and are never kept
as a request's pending exception.
-/

namespace SpanLifecycle

/-- A class of exception.  Any program may bring its own along. -/
structure FaultClass where
  /-- The bare name, as logs and span statuses show it. -/
  name : String
  /-- The place that it is defined in, if it does not come with the language. -/
  home : Option String := none
  /-- Ordinary exceptions are the failures of a request; the rest ask the process to stop. -/
  isOrdinary : Bool := true
  /-- Whether its exceptions show their message in quotes. -/
  quotesMessage : Bool := false
  deriving Repr, DecidableEq, Inhabited

namespace FaultClass

/-- The name with the place it is defined in, as an exported exception event shows it. -/
def qualifiedName (c : FaultClass) : String :=
  match c.home with
  | none => c.name
  | some home => home ++ "." ++ c.name

/-! ### Classes that are raised here, or that every program knows -/

def exception : FaultClass := { name := "Exception" }

def runtimeError : FaultClass := { name := "RuntimeError" }

def valueError : FaultClass := { name := "ValueError" }

def typeError : FaultClass := { name := "TypeError" }

/-- A missing key, which is shown in quotes. -/
def keyError : FaultClass := { name := "KeyError", quotesMessage := true }

def zeroDivision : FaultClass := { name := "ZeroDivisionError" }

def attributeError : FaultClass := { name := "AttributeError" }

def unicodeEncode : FaultClass := { name := "UnicodeEncodeError" }

def overflow : FaultClass := { name := "OverflowError" }

def memory : FaultClass := { name := "MemoryError" }

def assertion : FaultClass := { name := "AssertionError" }

def badComposition : FaultClass := { name := "FastAPIError", home := some "fastapi.exceptions" }

def unreadableSettings : FaultClass :=
  { name := "SettingsError", home := some "pydantic_settings.exceptions" }

def cancelled : FaultClass :=
  { name := "CancelledError", home := some "asyncio.exceptions", isOrdinary := false }

def keyboardInterrupt : FaultClass := { name := "KeyboardInterrupt", isOrdinary := false }

def systemExit : FaultClass := { name := "SystemExit", isOrdinary := false }

/-- The classes that can be read from their names. -/
def named : List FaultClass :=
  [exception, runtimeError, valueError, typeError, keyError, zeroDivision, attributeError,
    unicodeEncode, overflow, memory, assertion, badComposition, unreadableSettings, cancelled,
    keyboardInterrupt, systemExit]

/-- Reads a class from its bare name. -/
def ofName? (s : String) : Option FaultClass := named.find? fun c => c.name == s

end FaultClass

/-- One raised exception: its class and the message it was raised with, if any. -/
structure Fault where
  kind : FaultClass
  message : Option String := none
  deriving Repr, DecidableEq, Inhabited

/-! ## The shown text -/

namespace Fault

/-- Whether the handlers of a request see it. -/
def isOrdinary (e : Fault) : Bool := e.kind.isOrdinary

/-- The text of an exception: its message, which some classes show in quotes, or nothing. -/
def text (e : Fault) : String :=
  match e.message with
  | none => ""
  | some m => if e.kind.quotesMessage then Quoted.quote m else m

/-- The failed access to a field that a value of the given kind does not have. -/
def noField (kindName field : String) : Fault :=
  { kind := .attributeError
    message := some (Quoted.quote kindName ++ " object has no attribute " ++ Quoted.quote field) }

/-- The use of a value of the given kind as an exception. -/
def notAnException (kindName : String) : Fault :=
  { kind := .typeError
    message := some ("Exception expected for value, " ++ kindName ++ " found") }

/-- A call in which a field goes by the name of an argument that is given already. -/
def repeatedArgument (callee argument : String) : Fault :=
  { kind := .typeError
    message := some (callee ++ "() got multiple values for argument " ++ Quoted.quote argument) }

/-- The joining of a text with a value of the given kind, which is none. -/
def notText (kindName : String) : Fault :=
  { kind := .typeError
    message := some ("can only concatenate str (not \x22" ++ kindName ++ "\x22) to str") }

/-- The reading of a whole number that has more digits than are taken. -/
def tooManyDigits (n : Nat) : Fault :=
  { kind := .valueError
    message := some ("Exceeds the limit (4300 digits) for integer string conversion: value has " ++
      toString n ++ " digits; use sys.set_int_max_str_digits() to increase the limit") }

/-- The writing of a response that holds a decimal beyond all bounds, or none. -/
def notBounded : Fault :=
  { kind := .valueError, message := some "Out of range float values are not JSON compliant" }

end Fault

end SpanLifecycle
