import SpanLifecycle.Service.Console

/-!
# The program

Launches the complete service from the variables of the environment and serves the requests that
arrive on standard input, one per line.  Settings that do not make sense are reported, and nothing
is launched.
-/

namespace SpanLifecycle

namespace Console

/-- The variables that are set. -/
def readEnvironment : IO Environment :=
  variableNames.foldlM (fun env name => do
    match ← IO.getEnv name with
    | some value => return Mapping.set env name value
    | none => return env) []

/-- Serves lines until the input ends. -/
partial def serveLines (input output : IO.FS.Stream) (t : ServiceSession (List EndpointStep)) :
    IO Unit := do
  let line ← input.getLine
  if line.isEmpty then return
  let (answer, t) := serveLine t line
  output.putStrLn answer
  serveLines input output t

end Console

end SpanLifecycle

/-- Runs the service. -/
def main : IO UInt32 := do
  let environment ← SpanLifecycle.Console.readEnvironment
  match SpanLifecycle.Launch.ofEnvironment environment with
  | .error e =>
    IO.eprintln (e.report.1 ++ ": " ++ e.report.2)
    return 1
  | .ok launch =>
    let output ← IO.getStdout
    output.putStrLn (SpanLifecycle.Console.address launch)
    SpanLifecycle.Console.serveLines (← IO.getStdin) output launch.session.startUp
    return 0
