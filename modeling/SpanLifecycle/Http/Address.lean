/-!
# The path of an address

The path that a request's address shows: it starts with a slash unless it is empty, a question
mark, a number sign and a backslash are written as their codes, and tabs and line breaks are
dropped.
-/

namespace SpanLifecycle

/-- How one character of a path shows in an address. -/
def addressChar (c : Char) : List Char :=
  match c with
  | '?' => ['%', '3', 'F']
  | '#' => ['%', '2', '3']
  | '\\' => ['%', '5', 'C']
  | '\t' | '\r' | '\n' => []
  | c => [c]

/-- A path with a slash in front, if it has none and is not empty. -/
def withSlash : List Char → List Char
  | [] => []
  | '/' :: rest => '/' :: rest
  | cs => '/' :: cs

/-- How a path shows in an address. -/
def addressPath (path : String) : String :=
  String.ofList ((withSlash path.toList).flatMap addressChar)

end SpanLifecycle
