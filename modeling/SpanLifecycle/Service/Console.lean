import SpanLifecycle.Service.Launch

/-!
# A service on a console

Requests as lines of text, a method and a path each, and what comes of them as one line: the status
of the response, the class of an exception that left the service, or both.
-/

namespace SpanLifecycle

namespace Console

/-- Reads a method and a path; a line without a blank is a path to get. -/
def readRequest (line : String) : HttpRequest :=
  match line.trimAscii.toString.splitOn " " with
  | [path] => { path }
  | method :: path => { method, path := " ".intercalate path }
  | [] => { path := "/" }

/-- What came of a request. -/
def describe (r : HttpReply) : String :=
  let statuses := (Message.statuses r.sent).map toString
  let failures := (r.raised.map fun e => e.kind.name).toList
  " ".intercalate (statuses ++ failures)

/-- Where a launched service listens. -/
def address {ε : Type} (l : Launch ε) : String := l.apiHost ++ ":" ++ toString l.apiPort

/-- The variables that a service is configured by. -/
def variableNames : List String :=
  Settings.fieldNames.map fun field => (VariableRules.defaultStem ++ field).map Char.toUpper

/-- Serves one line. -/
def serveLine (t : ServiceSession (List EndpointStep)) (line : String) :
    String × ServiceSession (List EndpointStep) :=
  let (reply, t) := t.serve HttpApp.ofSteps (readRequest line)
  (describe reply, t)

end Console

end SpanLifecycle
