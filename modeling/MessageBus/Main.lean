import MessageBus.Program
/-!
The command. It takes its world from the system: the environment, the environment file of the working
directory, and the configuration that the command line names. What it prints and announces goes to the
standard streams. It decides nothing: a run is what `Program` makes of the world that is taken here.
-/
namespace MessageBus.Command

/-- The environment variables that the program reads. -/
def readVariables : List String :=
  [Settings.listenVariable, Log.levelVariable, Environment.File.switchVariable]

/-- The variables as the system has them. -/
def takeEnvironment : IO Environment :=
  readVariables.foldlM (fun (e : Environment) name => do
    match ← IO.getEnv name with
    | some value => return e.set name value
    | none => return e) ⟨[]⟩

/-- The content of a file, if it can be read. -/
def takeFile (path : String) : IO (Option (List UInt8)) := do
  try
    return some (← IO.FS.readBinFile path).toList
  catch _ => return none

/-- The tree with a file of the system in it. -/
def withFile (files : Files) (path : String) (content : List UInt8) : Files :=
  let p := Path.ofText path
  let (_, files) := files.makeDirectories (p.parts.length + 1) p.parent
  (files.write path content).toOption.getD files

/-- The tree with the configuration that a command line names. -/
def takeConfiguration (arguments : List String) : IO Files := do
  match CommandLine.parse arguments with
  | .error _ => return .empty
  | .ok options =>
    match ← takeFile options.path with
    | none => return .empty
    | some content => return withFile .empty options.path content

/-- The text of the environment file, if there is one. -/
def takeEnvironmentFile : IO (Option String) := do
  match ← takeFile ".env" with
  | none => return none
  | some content => return (Files.decode content).toOption.map String.ofList

def takeWorld (arguments : List String) : IO World := do
  let environment ← takeEnvironment
  let environmentFile ← takeEnvironmentFile
  let files ← takeConfiguration arguments
  return { World.empty with
    files := files, environment := environment, environmentFile := environmentFile }

/-- Two digits of a number. -/
def twoDigits (n : Nat) : String := String.ofList [Nat.digitChar (n / 10 % 10), Nat.digitChar (n % 10)]

/-- The system's running clock, as a time of day. -/
def takeClock : IO String := do
  let seconds := (← IO.monoMsNow) / 1000
  return String.intercalate ":"
    [twoDigits (seconds / 3600 % 24), twoDigits (seconds / 60 % 60), twoDigits (seconds % 60)]

/-- Prints what was written to the standard streams. -/
def printWrites (w : World) : IO Unit :=
  w.writes.forM fun (descriptor, text) => do
    if descriptor = CommandLine.outputDescriptor then (← IO.getStdout).putStr text
    else if descriptor = CommandLine.lastStandardStream then (← IO.getStderr).putStr text

/-- Runs the program, and gives the status that it ends with. -/
def run (arguments : List String) : IO UInt32 := do
  let world ← takeWorld arguments
  let command := "busd" :: arguments
  let effect := Program.run (← takeClock) ⟨arguments, command, command, none, .signals []⟩ world
  (← IO.getStdout).putStr effect.output
  printWrites effect.world
  (← IO.getStderr).putStr effect.complaint
  match effect.result with
  | .ok status => return status.toUInt32
  | .error failure => do
    (← IO.getStderr).putStrLn failure.message
    return Daemon.Status.failure.code.toUInt32

end MessageBus.Command

def main (arguments : List String) : IO UInt32 := MessageBus.Command.run arguments
