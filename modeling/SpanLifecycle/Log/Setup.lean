import SpanLifecycle.Log.Record
import SpanLifecycle.Text.Uppercase

/-!
# Log setup

The configuration that decides whether a record is written and for which service.  The level is
fixed by the first configuration that installs the output; the service may change, but a logger
keeps the one it was first used with.
-/

namespace SpanLifecycle

/-- The state of the log configuration. -/
structure LogSetup where
  /-- The output is installed, which happens once. -/
  installed : Bool := false
  /-- Records below this rank are dropped. -/
  threshold : Nat := 30
  /-- The service of loggers not used yet; none before a configuration has succeeded. -/
  service : Option String := none
  /-- The service of each named logger that has been used. -/
  used : Mapping String String := []
  deriving Repr, Inhabited

/-- What a level name stands for. -/
inductive LevelName where
  | rank (n : Nat)
  /-- A setting of the log library that is no level, and what its use as one fails with. -/
  | notALevel (e : Fault)
  deriving Repr, DecidableEq

namespace LevelName

/-- The layout of a plain record, which is a text and names no level. -/
def plainLayout : Fault :=
  { kind := .valueError
    message := some ("Unknown level: " ++ Quoted.quote "%(levelname)s:%(name)s:%(message)s") }

/-- The table of layouts, which is no text at all. -/
def layoutTable : Fault :=
  { kind := .typeError
    message := some ("Level not an integer or a valid string: \x7b'%': (<class " ++
      "'logging.PercentStyle'>, '%(levelname)s:%(name)s:%(message)s'), '\x7b': (<class " ++
      "'logging.StrFormatStyle'>, '\x7blevelname\x7d:\x7bname\x7d:\x7bmessage\x7d'), '$': " ++
      "(<class 'logging.StringTemplateStyle'>, " ++
      "'$\x7blevelname\x7d:$\x7bname\x7d:$\x7bmessage\x7d')\x7d") }

/-- The names that mean something, in capitals; any other name means the level of information. -/
def table : List (String × LevelName) :=
  [("DEBUG", .rank 10), ("INFO", .rank 20), ("WARNING", .rank 30), ("WARN", .rank 30),
    ("ERROR", .rank 40), ("CRITICAL", .rank 50), ("FATAL", .rank 50), ("NOTSET", .rank 0),
    ("BASIC_FORMAT", .notALevel plainLayout), ("_STYLES", .notALevel layoutTable)]

/-- Reads a level name, in capitals or not. -/
def ofText (s : String) : LevelName := (table.lookup (Uppercase.ofText s)).getD (.rank 20)

end LevelName

namespace LogSetup

/-- Configures the output for a service.  A setting that is no level fails after the output was
installed, and leaves the service as it was. -/
def configure (l : LogSetup) (service level : String) : Except Fault Unit × LogSetup :=
  if l.installed then (.ok (), { l with service := some service })
  else
    match LevelName.ofText level with
    | .rank n => (.ok (), { l with installed := true, threshold := n, service := some service })
    | .notALevel e => (.error e, { l with installed := true })

/-- The service a named logger writes for: the one it was first used with, else the present. -/
def serviceOf? (l : LogSetup) (logger : String) : Option String :=
  match l.used.get? logger with
  | some s => some s
  | none => l.service

/-- A logger keeps the service it is first used with. -/
def use (l : LogSetup) (logger : String) : LogSetup :=
  match l.service with
  | some s => { l with used := l.used.setDefault logger s }
  | none => l

/-- Whether records of a severity are written. -/
def admits (l : LogSetup) (s : Severity) : Bool := l.threshold ≤ s.rank

end LogSetup

end SpanLifecycle
