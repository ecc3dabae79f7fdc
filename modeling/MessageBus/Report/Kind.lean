/-!
Kinds of failure. Any name is a kind; the bus itself uses the sixteen below, each with a description.
-/
namespace MessageBus.Report

structure Kind where
  name : String
  deriving DecidableEq

namespace Kind

def failed : Kind := ⟨"busd.Error.Failed"⟩
def noMemory : Kind := ⟨"busd.Error.NoMemory"⟩
def ioError : Kind := ⟨"busd.Error.IOError"⟩
def badAddress : Kind := ⟨"busd.Error.BadAddress"⟩
def notSupported : Kind := ⟨"busd.Error.NotSupported"⟩
def limitsExceeded : Kind := ⟨"busd.Error.LimitsExceeded"⟩
def accessDenied : Kind := ⟨"busd.Error.AccessDenied"⟩
def authFailed : Kind := ⟨"busd.Error.AuthFailed"⟩
def noServer : Kind := ⟨"busd.Error.NoServer"⟩
def timeout : Kind := ⟨"busd.Error.Timeout"⟩
def noNetwork : Kind := ⟨"busd.Error.NoNetwork"⟩
def addressInUse : Kind := ⟨"busd.Error.AddressInUse"⟩
def disconnected : Kind := ⟨"busd.Error.Disconnected"⟩
def invalidArgs : Kind := ⟨"busd.Error.InvalidArgs"⟩
def noReply : Kind := ⟨"busd.Error.NoReply"⟩
def fileNotFound : Kind := ⟨"busd.Error.FileNotFound"⟩

/-- The kinds that have a description. -/
def descriptions : List (Kind × String) := [
  (failed, "Unknown error"),
  (noMemory, "Not enough memory available"),
  (ioError, "Error reading or writing data"),
  (badAddress, "Could not parse address"),
  (notSupported, "Feature not supported"),
  (limitsExceeded, "Resource limits exceeded"),
  (accessDenied, "Permission denied"),
  (authFailed, "Could not authenticate to server"),
  (noServer, "No server available at address"),
  (timeout, "Connection timed out"),
  (noNetwork, "Network unavailable"),
  (addressInUse, "Address already in use"),
  (disconnected, "Disconnected."),
  (invalidArgs, "Invalid arguments."),
  (noReply, "Did not get a reply message."),
  (fileNotFound, "File doesn't exist.")]

/-- The description of a kind: its name if it has none. -/
def description (k : Kind) : String :=
  (descriptions.lookup k).getD k.name

/-- The kind that an error number of the system stands for. -/
def ofErrorNumber (number : Option Int) : Kind :=
  match number with
  | some 12 => noMemory
  | some 5 | some 9 | some 28 | some 32 => ioError
  | some 1 | some 13 | some 30 => accessDenied
  | some 2 | some 20 => fileNotFound
  | some 98 => addressInUse
  | some 99 => badAddress
  | some 111 => noServer
  | some 110 => timeout
  | some 100 | some 101 => noNetwork
  | some 104 => disconnected
  | some 22 => invalidArgs
  | some 38 | some 95 | some 97 => notSupported
  | some 23 | some 24 => limitsExceeded
  | _ => failed

end Kind
end MessageBus.Report
