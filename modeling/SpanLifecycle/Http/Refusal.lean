import SpanLifecycle.Decimal.Nearest
import SpanLifecycle.Http.Scope

/-!
# Refusals

An endpoint or a router may refuse a request with a status and a detail.  A refusal is a response
and no failure.  A documented application words it as an object, a plain one as bare text.
-/

namespace SpanLifecycle

/-- The reason that stands for each status code. -/
def reasons : List (Int × String) :=
  [(100, "Continue"), (101, "Switching Protocols"), (102, "Processing"), (103, "Early Hints"),
    (200, "OK"), (201, "Created"), (202, "Accepted"), (203, "Non-Authoritative Information"),
    (204, "No Content"), (205, "Reset Content"), (206, "Partial Content"), (207, "Multi-Status"),
    (208, "Already Reported"), (226, "IM Used"), (300, "Multiple Choices"),
    (301, "Moved Permanently"), (302, "Found"), (303, "See Other"), (304, "Not Modified"),
    (305, "Use Proxy"), (307, "Temporary Redirect"), (308, "Permanent Redirect"),
    (400, "Bad Request"), (401, "Unauthorized"), (402, "Payment Required"), (403, "Forbidden"),
    (404, "Not Found"), (405, "Method Not Allowed"), (406, "Not Acceptable"),
    (407, "Proxy Authentication Required"), (408, "Request Timeout"), (409, "Conflict"),
    (410, "Gone"), (411, "Length Required"), (412, "Precondition Failed"),
    (413, "Request Entity Too Large"), (414, "Request-URI Too Long"),
    (415, "Unsupported Media Type"), (416, "Requested Range Not Satisfiable"),
    (417, "Expectation Failed"), (418, "I'm a Teapot"), (421, "Misdirected Request"),
    (422, "Unprocessable Entity"), (423, "Locked"), (424, "Failed Dependency"), (425, "Too Early"),
    (426, "Upgrade Required"), (428, "Precondition Required"), (429, "Too Many Requests"),
    (431, "Request Header Fields Too Large"), (451, "Unavailable For Legal Reasons"),
    (500, "Internal Server Error"), (501, "Not Implemented"), (502, "Bad Gateway"),
    (503, "Service Unavailable"), (504, "Gateway Timeout"), (505, "HTTP Version Not Supported"),
    (506, "Variant Also Negotiates"), (507, "Insufficient Storage"), (508, "Loop Detected"),
    (510, "Not Extended"), (511, "Network Authentication Required")]

/-- The reason for a status code that has one. -/
def reason? (code : Int) : Option String := reasons.lookup code

/-- A refused request: the status of the answer, and why. -/
structure Refusal where
  code : Int
  detail : Value
  deriving Repr, Inhabited

namespace Refusal

/-- The refusal with a status and a detail; without a detail the reason for the status is given, and
nothing for a status that has no reason. -/
def ofCode (code : Int) (detail : Value) : Refusal :=
  match detail with
  | .null => { code, detail := .text ((reason? code).getD "") }
  | detail => { code, detail }

/-- Whether a documented application gives a body with a status. -/
def hasObject (code : Int) : Bool := !(code < 200 || code = 204 || code = 205 || code = 304)

/-- Whether a plain application gives a body with a status. -/
def hasText (code : Int) : Bool := !(code = 204 || code = 304)

/-- The body of the answer; a detail that is no text cannot be given as bare text, and one that is
not bounded cannot be given at all. -/
def body (r : Refusal) : Framework → Except Fault Body
  | .documented =>
    if hasObject r.code then
      if r.detail.isBounded then .ok (.value (.object [("detail", r.detail)]))
      else .error .notBounded
    else .ok (.text "")
  | .plain =>
    if hasText r.code then
      match r.detail with
      | .text s => .ok (.text s)
      | v => .error (Fault.noField v.kindName "encode")
    else .ok (.text "")

/-- Answers with the refusal, in the words of the innermost application. -/
def respond (r : Refusal) : HttpApp := fun scope world =>
  match r.body scope.wording with
  | .ok b => { world, scope, sent := Message.response r.code b }
  | .error e => { world, scope, raised := some e }

/-- No route serves the path. -/
def notFound : Refusal := { code := 404, detail := .text "Not Found" }

/-- A route serves the path for other methods only. -/
def methodNotAllowed : Refusal := { code := 405, detail := .text "Method Not Allowed" }

end Refusal

end SpanLifecycle
