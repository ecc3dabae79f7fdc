import MessageBus.Report.Target
import MessageBus.Text.Cut
import MessageBus.Text.Percent
/-!
Listen addresses: a transport, a colon, and options with commas between them. The values of options
are percent-escaped. A unix address names a socket path or a directory for one; a tcp address may name
a host and a port.
-/
namespace MessageBus

inductive Transport
  | unix
  | tcp
  deriving DecidableEq

def Transport.name : Transport → String
  | .unix => "unix"
  | .tcp => "tcp"

def Transport.ofName? (name : List Char) : Option Transport :=
  if name = "unix".toList then some .unix
  else if name = "tcp".toList then some .tcp
  else none

structure Address where
  transport : Transport
  options : List (String × String)
  deriving DecidableEq

namespace Address

/-- The largest port. -/
def maxPort : Nat := 65535

/-- Why a text is no listen address. -/
inductive Fault
  | noTransport
  | unknownTransport (name : String)
  | malformedEntry (entry : String)
  | notOnePath
  | invalidPort (port : String)
  | unreadablePort (fault : Number.Fault)
  deriving DecidableEq

/-- The value of the first option with a key. -/
def get? (a : Address) (key : String) : Option String :=
  a.options.lookup key

/-- The value of an option that is given and not empty. -/
def given? (a : Address) (key : String) : Option String :=
  (a.get? key).filter (· ≠ "")

/-- The characters beside the unreserved ones that values are written with. -/
def safe : List Char := ['/', '*']

/-- One option as it is written. -/
def renderOption (key value : String) : List Char :=
  key.toList ++ '=' :: Text.Percent.escape safe value.toList

/-- An address as it is written, for any transport. -/
def render (transport : String) (options : List (String × String)) : String :=
  String.ofList (transport.toList ++
    ':' :: Text.join ',' (options.map fun o => renderOption o.1 o.2))

def format (a : Address) : String :=
  render a.transport.name a.options

/-- The name that the transport goes by where options are handed over by their keys. -/
def transportKey : String := "transport"

/-- Why options are not written: one goes by the name of the transport, or a value has no text. -/
inductive WriteFault
  | transportTwice
  | value (fault : Number.Fault)
  deriving DecidableEq

def WriteFault.message : WriteFault → String
  | .transportTwice => "format_address() got multiple values for argument '" ++ transportKey ++ "'"
  | .value fault => fault.message

/-- An address as it is written, with values of any kind in plain form. -/
def renderValues (transport : String) (options : List (String × Value)) :
    Except WriteFault String := do
  if options.any (·.1 == transportKey) then throw .transportTwice
  let options ← options.mapM fun (key, v) => return (key, ← v.plain?.mapError WriteFault.value)
  return render transport options

/-- The option that an entry between commas writes. -/
def readOption (entry : List Char) : Except Fault (String × String) :=
  match Text.cut '=' entry with
  | some (c :: key, value) =>
    .ok (String.ofList (c :: key), String.ofList (Text.Percent.unescape value))
  | _ => .error (.malformedEntry (String.ofList entry))

/-- The options that stand after the colon. Empty entries count for nothing. -/
def readOptions (cs : List Char) : Except Fault (List (String × String)) :=
  ((Text.split ',' cs).filter (· ≠ [])).mapM readOption

/-- The number of a port, in the digits of any script. -/
def readPort (port : String) : Except Fault Nat :=
  if port ≠ "" && port.toList.all Text.isDigit then
    match Number.readInteger 10 port with
    | .error fault => .error (.unreadablePort fault)
    | .ok n => if n ≤ maxPort then .ok n.toNat else .error (.invalidPort port)
  else .error (.invalidPort port)

/-- What a transport asks of the options. -/
def check (a : Address) : Except Fault Unit :=
  match a.transport with
  | .unix =>
    if (a.given? "path").isSome != (a.given? "tmpdir").isSome then .ok () else .error .notOnePath
  | .tcp => (readPort ((a.get? "port").getD "0")).map fun _ => ()

/-- The address that a text writes. -/
def parse (text : String) : Except Fault Address :=
  match Text.cut ':' text.toList with
  | none | some ([], _) => .error .noTransport
  | some (name, rest) =>
    match Transport.ofName? name with
    | none => .error (.unknownTransport (String.ofList name))
    | some transport => do
      let address : Address := ⟨transport, ← readOptions rest⟩
      address.check
      return address

/-- How a fault of an address text is reported. A port that is made of digits but is no number that
can be read is not reported: it is a failure of the reader. -/
def Fault.wording (text : String) : Fault → Except Number.Fault Report.Wording
  | .noTransport =>
    .ok (.filled "Address does not contain a transport: \"%s\"" [.text text])
  | .unknownTransport name =>
    .ok (.filled "Unknown address transport \"%s\" in \"%s\"" [.text name, .text text])
  | .malformedEntry entry =>
    .ok (.filled "Malformed address entry \"%s\" in \"%s\"" [.text entry, .text text])
  | .notOnePath =>
    .ok (.filled "unix address needs exactly one of path= or tmpdir=: \"%s\"" [.text text])
  | .invalidPort port =>
    .ok (.filled "Invalid port \"%s\" in \"%s\"" [.text port, .text text])
  | .unreadablePort fault => .error fault

/-- Why parsing into a target fails: a port cannot be read, or the target takes no report. -/
inductive Failure
  | port (fault : Number.Fault)
  | report (fault : Report.Fault)
  deriving DecidableEq

/-- The address that a text writes, if it writes one, with the target its fault was reported to. -/
def parseInto (target : Report.Target) (text : String) :
    Except Failure (Option Address × Report.Target) :=
  match parse text with
  | .ok a => .ok (some a, target)
  | .error fault =>
    match fault.wording text with
    | .error fault => .error (.port fault)
    | .ok wording =>
      match target.file .badAddress wording with
      | .error fault => .error (.report fault)
      | .ok target => .ok (none, target)

/-- Where a server for an address listens: at a path, at a new name in a directory, or at a port. -/
inductive Place
  | path (path : String)
  | directory (directory : String)
  | port (host : String) (port : Nat)
  deriving DecidableEq

/-- The directory for sockets of an address that names neither path nor directory. -/
def fallbackDirectory : String := "/tmp"

/-- The host of an address that names none. -/
def fallbackHost : String := "127.0.0.1"

/-- Where a server for the address listens. An empty option counts as absent. -/
def place (a : Address) : Except Number.Fault Place :=
  match a.transport with
  | .unix =>
    match a.given? "path" with
    | some path => .ok (.path path)
    | none => .ok (.directory ((a.given? "tmpdir").getD fallbackDirectory))
  | .tcp => do
    let port ← Number.readInteger 10 ((a.given? "port").getD "0")
    return .port ((a.given? "host").getD fallbackHost) port.toNat

end Address
end MessageBus
