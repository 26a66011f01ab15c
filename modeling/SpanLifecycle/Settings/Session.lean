import SpanLifecycle.Settings.Read

/-!
# A settings session

A process reads its settings again and again while its environment changes.  The shared settings
are read once and kept until they are cleared; a failure to read them keeps nothing.
-/

namespace SpanLifecycle

/-- What is asked of the settings. -/
inductive SettingsCall where
  /-- Fresh settings from keywords and environment. -/
  | fresh (keywords : Keywords)
  /-- The shared settings. -/
  | shared
  /-- Forget the shared settings. -/
  | clear
  deriving Repr, Inhabited

/-- One step of a session: variables are set or unset, then the call is made. -/
structure SettingsStep where
  changes : List (String × Option String) := []
  call : SettingsCall
  deriving Repr, Inhabited

/-- What a step gives back: nothing, settings with the first earlier step that gave the very same
ones, or what is wrong. -/
inductive SettingsReply where
  | nothing
  | settings (s : Settings) (sameAs : Option Nat)
  | failed (e : SettingsFailure)
  deriving Repr, Inhabited

/-- The state between steps. -/
structure SettingsSession where
  environment : Environment := []
  /-- The shared settings, with the number of the step that read them. -/
  shared : Option (Settings × Nat) := none
  /-- How many steps have been made. -/
  count : Nat := 0
  deriving Repr, Inhabited

namespace SettingsSession

/-- Sets or unsets one variable. -/
def setVariable (env : Environment) (change : String × Option String) :
    Environment :=
  match change.2 with
  | some v => env.set change.1 v
  | none => env.erase change.1

/-- Makes one step. -/
def step (t : SettingsSession) (s : SettingsStep) : SettingsReply × SettingsSession :=
  let environment : Environment := s.changes.foldl setVariable t.environment
  let t : SettingsSession := { t with environment, count := t.count + 1 }
  match s.call with
  | .fresh keywords =>
    match Settings.read environment keywords with
    | .ok x => (.settings x none, t)
    | .error e => (.failed e, t)
  | .shared =>
    match t.shared with
    | some (x, first) => (.settings x (some first), t)
    | none =>
      match Settings.read environment [] with
      | .ok x => (.settings x none, { t with shared := some (x, t.count - 1) })
      | .error e => (.failed e, t)
  | .clear => (.nothing, { t with shared := none })

/-- Makes all steps in order. -/
def run (t : SettingsSession) : List SettingsStep → List SettingsReply
  | [] => []
  | s :: rest =>
    let (reply, t) := t.step s
    reply :: run t rest

end SettingsSession

end SpanLifecycle
