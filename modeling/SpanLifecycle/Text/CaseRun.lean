/-!
# Runs of letters

Letters whose partners in the other case lie at one distance stand in runs: in some every character
is such a letter, in others every second one.  A table of runs sends each of its letters to the
partner, and leaves every other character as it is.
-/

namespace SpanLifecycle

/-- A run of letters whose partners all lie at one distance. -/
structure CaseRun where
  first : Nat
  last : Nat
  /-- One if every character belongs to the run, two if every second one does. -/
  step : Nat
  distance : Int
  deriving Repr, DecidableEq, Inhabited

namespace CaseRun

/-- Whether a run holds a character. -/
def holds (r : CaseRun) (c : Char) : Bool :=
  r.first ≤ c.toNat && c.toNat ≤ r.last && (c.toNat - r.first) % r.step == 0

/-- The partner of a character in a table of runs, else the character itself. -/
def partner (runs : List CaseRun) (c : Char) : Char :=
  match runs.find? fun r => r.holds c with
  | some r => Char.ofNat (c.toNat + r.distance).toNat
  | none => c

end CaseRun

end SpanLifecycle
