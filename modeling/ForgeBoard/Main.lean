import ForgeBoard.Dashboard.Report
import ForgeBoard.Tracer
import Std.Time.DateTime.Timestamp

/-!
# The command line

`trace ARGUMENTS` traces a filter. Any other command line shows the dashboard of the configuration
file that it names (`--config FILE`), or that the environment names. There is no network in this
build: every request goes without a response.
-/

namespace ForgeBoard.Command

open Http

/-- The present instant in seconds since the beginning of 1970. -/
def currentTime : IO Int := do
  return (← Std.Time.Timestamp.now).toSecondsSinceUnixEpoch.val

/-- The present instant on both clocks. -/
def currentClock : IO Clock := do
  return ⟨← IO.monoMsNow, ← currentTime⟩

/-- Delivers a request where there is no network. -/
def deliver (_ : Http.Request) : IO Reply :=
  return .nothing

/-- Sleeps for milliseconds, seven weeks at most. -/
def pause (milliseconds : Nat) : IO Unit :=
  IO.sleep (min milliseconds (UInt32.size - 1)).toUInt32

/-- The environment variables of a configuration with their values. -/
def environmentOf (c : Config) : IO (List (String × String)) := do
  let names := Config.refuseLegacyVariable :: c.forges.filterMap (·.tokenVariable)
  names.filterMapM fun name => do
    return (← IO.getEnv name).map (name, ·)

/-- The text of the configuration file, or why there is none. -/
def readConfig (args : List String) : IO (Except ConfigError String) := do
  match (Config.pathOfArguments? args).or (← IO.getEnv Config.pathVariable) with
  | none => return .error .missingPath
  | some path =>
    try
      return .ok (← IO.FS.readFile path)
    catch _ => return .error .unreadable

/-- Prints the sections in order, with the caches going from one to the next. -/
def showSections (d : Dashboard) (sections : List SectionConfig) : IO Unit := do
  let mut caches := Caches.empty
  for s in sections do
    let (text, after) ← (d.report (← currentClock) s).run deliver pause caches
    IO.print text
    caches := after

/-- Shows the dashboard. -/
def showDashboard (args : List String) : IO UInt32 := do
  let loaded ← match (← readConfig args).bind Config.ofToml with
    | .error e => pure (Except.error e)
    | .ok c =>
      let environment ← environmentOf c
      pure ((Dashboard.ofConfig (environment.lookup ·) c).map (·, c.sections))
  match loaded with
  | .ok (d, sections) =>
    showSections d sections
    return 0
  | .error e =>
    IO.eprintln (ClientError.config e).message
    return 1

/-- Traces a filter. -/
def traceFilter (args : List String) : IO UInt32 := do
  let answer := (Tracer.Request.ofArguments args).answer (← currentTime)
  IO.print answer.stdout
  IO.eprint answer.stderr
  return answer.exit

end ForgeBoard.Command

def main (args : List String) : IO UInt32 :=
  match args with
  | "trace" :: rest => ForgeBoard.Command.traceFilter rest
  | _ => ForgeBoard.Command.showDashboard args
