import MessageBus.CommandLine.Token
import MessageBus.Value
/-!
The options of the daemon: where its configuration is and where its address is announced. The command
line names exactly one configuration, and at most one descriptor for the announcement. Flags take
effect in order, so the first one that decides the outcome wins over all that follow.
-/
namespace MessageBus.CommandLine

def systemPath : String := "/etc/busd/system.yaml"
def sessionPath : String := "/etc/busd/session.yaml"

/-- The largest descriptor that an address may be announced on. -/
def maxDescriptor : Nat := Nat.pow 2 31 - 1

/-- The standard output. -/
def outputDescriptor : Nat := 1

/-- The last of the standard streams, which are never closed. -/
def lastStandardStream : Nat := 2

def usage : String :=
  "busd [--version] [--session] [--system] [--config-file=FILE] [--print-address[=descriptor]]"

def banner : String :=
  "busd message bus daemon 0.1.0\n" ++
  "This is free software; see the source for copying conditions.\n" ++
  "There is NO warranty; not even for MERCHANTABILITY or FITNESS FOR A PARTICULAR PURPOSE."

/-- The flag that named the configuration. -/
inductive Source
  | system
  | session
  | configFile
  deriving DecidableEq

def Source.name : Source → String
  | .system => Flag.system.name
  | .session => Flag.session.name
  | .configFile => Flag.configFile.name

/-- The options of a run. The address is announced if there is a descriptor for it. -/
structure Options where
  path : String
  source : Source
  target : Option Nat
  deriving DecidableEq

/-- Why a command line gives no options. -/
inductive Fault
  | helpRequested
  | versionRequested
  | ignoredValue (flag : Flag) (value : String)
  | valueMissing (flag : Flag)
  | unrecognized (texts : List String)
  | sourceConflict (earlier : Source) (path : String) (later : Source)
  | targetConflict (earlier later : String)
  | noConfiguration
  | invalidDescriptor (text : String)
  | unreadableDescriptor (fault : Number.Fault)
  deriving DecidableEq

namespace Fault

def message : Fault → String
  | helpRequested | versionRequested => ""
  | ignoredValue flag value =>
    "argument " ++ flag.title ++ ": ignored explicit argument " ++ Text.quoted value
  | valueMissing flag => "argument " ++ flag.title ++ ": expected one argument"
  | unrecognized texts => "unrecognized arguments: " ++ String.intercalate " " texts
  | sourceConflict earlier path later =>
    "--" ++ later.name ++ " specified but configuration file " ++ path ++
      " already requested by --" ++ earlier.name
  | targetConflict earlier _ =>
    "--print-address specified but printing address to " ++ earlier ++ " already requested"
  | noConfiguration => "No configuration file specified."
  | invalidDescriptor text => "Invalid file descriptor: \"" ++ text ++ "\""
  | unreadableDescriptor fault => fault.message

/-- The code of a usage fault; a number that cannot be read is none. -/
def code? : Fault → Option String
  | helpRequested => some "help_requested"
  | versionRequested => some "version_requested"
  | ignoredValue .. | valueMissing _ | unrecognized _ => some "invalid_argument"
  | sourceConflict .. => some "conflicting_config_source"
  | targetConflict .. => some "conflicting_announce_target"
  | noConfiguration => some "no_configuration"
  | invalidDescriptor _ => some "invalid_descriptor"
  | unreadableDescriptor _ => none

/-- What the fault is about. -/
def details : Fault → List (String × Value)
  | sourceConflict earlier _ later =>
    [("flags", .tuple [.text earlier.name, .text later.name])]
  | targetConflict earlier later => [("targets", .tuple [.text earlier, .text later])]
  | invalidDescriptor text => [("value", .text text)]
  | _ => []

/-- The usage is shown together with the message. -/
def showsUsage : Fault → Bool
  | helpRequested | ignoredValue .. | valueMissing _ | unrecognized _ | noConfiguration => true
  | _ => false

end Fault

/-- What the flags so far have said. -/
structure Request where
  config : Option (Source × String)
  announced : Bool
  descriptor : Option String
  unused : List String
  deriving DecidableEq

def Request.empty : Request := ⟨none, false, none, []⟩

/-- The value that a text gives to a flag: empty text and two dashes give none. -/
def given (text : String) : Option String :=
  if text = "" || text = "--" then none else some text

/-- Names the configuration, unless it is named already. -/
def Request.configure (r : Request) (source : Source) (path : Option String) :
    Except Fault Request :=
  match r.config with
  | some (earlier, path) => .error (.sourceConflict earlier path source)
  | none => .ok { r with config := path.map fun path => (source, path) }

/-- Asks for the announcement, on a descriptor if a value is given and none was before. -/
def Request.announce (r : Request) (value : Option String) : Except Fault Request :=
  let r := { r with announced := true }
  match value, r.descriptor with
  | none, _ => .ok r
  | some later, some earlier => .error (.targetConflict earlier later)
  | some value, none => .ok { r with descriptor := some value }

/-- A flag that takes no value, without one. -/
def Request.switch (r : Request) : Flag → Except Fault Request
  | .help => .error .helpRequested
  | .version => .error .versionRequested
  | .system => r.configure .system (some systemPath)
  | .session => r.configure .session (some sessionPath)
  | .configFile => .error (.valueMissing .configFile)
  | .printAddress => r.announce none

/-- A flag with a value behind an equals sign. -/
def Request.assign (r : Request) (value : String) : Flag → Except Fault Request
  | .configFile => r.configure .configFile (given value)
  | .printAddress => r.announce (given value)
  | flag => .error (.ignoredValue flag value)

/-- What stands behind the first help letter: help is asked for if it is more of them. -/
def letters (rest : String) : Fault :=
  let others := rest.toList.dropWhile isHelpLetter
  if rest ≠ "" && others.isEmpty then .helpRequested
  else .ignoredValue .help (String.ofList others)

/-- Carries out tokens in order. -/
def Request.read (r : Request) : List Token → Except Fault Request
  | [] => .ok r
  | .flag .configFile none :: .argument text :: rest => do
    (← r.configure .configFile (given text)).read rest
  | .flag .printAddress none :: .argument text :: rest => do
    (← r.announce (given text)).read rest
  | .flag flag none :: rest => do (← r.switch flag).read rest
  | .flag flag (some value) :: rest => do (← r.assign value flag).read rest
  | .letter none :: _ => .error .helpRequested
  | .letter (some text) :: _ => .error (letters text)
  | .argument text :: rest | .unknown text :: rest =>
    ({ r with unused := r.unused ++ [text] } : Request).read rest
  | .leftOver texts :: rest => ({ r with unused := r.unused ++ texts } : Request).read rest

/-- The descriptor that a text writes, in digits of ASCII. -/
def readDescriptor (text : String) : Except Fault Nat :=
  if text ≠ "" && text.toList.all Text.isAsciiDigit then
    match Number.readInteger 10 text with
    | .error fault => .error (.unreadableDescriptor fault)
    | .ok n => if n ≤ maxDescriptor then .ok n.toNat else .error (.invalidDescriptor text)
  else .error (.invalidDescriptor text)

/-- The options that the flags ask for. -/
def Request.resolve (r : Request) : Except Fault Options :=
  if !r.unused.isEmpty then .error (.unrecognized r.unused)
  else
    match r.config with
    | none => .error .noConfiguration
    | some (source, path) =>
      if !r.announced then .ok ⟨path, source, none⟩
      else
        match r.descriptor with
        | none => .ok ⟨path, source, some outputDescriptor⟩
        | some text => (readDescriptor text).map fun n => ⟨path, source, some n⟩

/-- The options that a command line asks for. -/
def parse (arguments : List String) : Except Fault Options := do
  (← Request.empty.read (tokens arguments)).resolve

end MessageBus.CommandLine
