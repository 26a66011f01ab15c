import SpanLifecycle.Mapping

/-!
# The attributes a span is exported with

A backend keeps at most 128 attributes of a span, newest last.  Setting a present key makes it the
newest; a new key on a full span drops the oldest one.  The empty key is ignored.
-/

namespace SpanLifecycle

/-- Attributes in the order of their last setting. -/
abbrev SpanAttributes := Mapping String String

namespace SpanAttributes

/-- How many attributes a span keeps. -/
def limit : Nat := 128

/-- Drops the oldest entry of a full map. -/
def makeRoom (m : SpanAttributes) : SpanAttributes :=
  if m.length < limit then m else m.drop 1

/-- Sets an attribute as the newest one. -/
def record (m : SpanAttributes) (key value : String) : SpanAttributes :=
  if key = "" then m
  else (if Mapping.has m key then Mapping.erase m key else makeRoom m) ++ [(key, value)]

end SpanAttributes

end SpanLifecycle
