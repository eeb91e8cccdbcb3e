import CardHost.Simulation.Terminal

/-!
# The Program

The command line over a hall without readers. Reading the configuration file
and the environment and showing what a command has to say happens here; all
the rest is decided by `Simulation.perform`.

## Main definitions

* `Program.run`: Run a command line.
* `main`: The program.
-/

namespace CardHost

namespace Program

/-- The variables of the environment, from their listing with a null behind
    each. -/
def variablesOf (listing : String) : List (String × String) :=
  (listing.splitOn "\x00").filterMap fun entry =>
    match entry.splitOn "=" with
    | name :: rest@(_ :: _) => some (name, String.intercalate "=" rest)
    | _ => none

/-- The text of a file, `none` if there is no such file. -/
def readFile? (path : String) : IO (Option String) := do
  match ← (IO.FS.readFile path).toBaseIO with
  | .ok text => return some text
  | .error _ => return none

/-- The configuration file that arguments name. -/
def configFile (arguments : List String) : Option String :=
  (Cli.Invocation.parse arguments).map (·.config)

/-- Run a command line, and answer with the number for whoever started it. -/
def run (arguments : List String) : IO UInt32 := do
  let environment := variablesOf ((← readFile? "/proc/self/environ").getD "")
  let path := (configFile arguments).getD ""
  let text ← readFile? path
  let styled := Cli.Style.isWanted environment (← (← IO.getStdout).isTty)
  let file := fun name => if name == path then text else none
  let report := Simulation.perform styled arguments file environment {} []
  for line in report.lines do IO.println line
  if let some cause := report.error then IO.eprintln ("Error: " ++ cause)
  return UInt32.ofNat report.exitCode

end Program

end CardHost

/-- The program. -/
def main (arguments : List String) : IO UInt32 := CardHost.Program.run arguments
