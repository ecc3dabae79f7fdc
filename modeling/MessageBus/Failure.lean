import MessageBus.Address
import MessageBus.Environment.File
import MessageBus.Loop
import MessageBus.Settings.Document
/-!
What can break off an operation of the bus, beside what is reported to a caller's target.
-/
namespace MessageBus

inductive Failure
  | environment (fault : Environment.File.Fault)
  | encoding (fault : Text.Utf8.Fault)
  | document (fault : Yaml.Fault)
  | number (fault : Number.Fault)
  | nullCharacter
  | report (fault : Report.Fault)
  | system (error : SystemError)
  | loop (fault : Loop.Fault)
  | overReleased
  | noListener
  /-- What is wrong with a host. -/
  | host (words : String)
  | noStream
  | closedStream
  | alreadyRunning
  | interrupted

namespace Failure

def message : Failure → String
  | .environment fault => fault.message
  | .encoding fault => fault.message
  | .document fault => fault.message?.getD ""
  | .number fault => fault.message
  | .nullCharacter => "embedded null byte"
  | .report fault => fault.message
  | .system error => error.message
  | .loop fault => fault.message
  | .overReleased => "bus context released more often than referenced"
  | .noListener => "list index out of range"
  | .host words => words
  | .noStream => "'NoneType' object has no attribute 'flush'"
  | .closedStream => "I/O operation on closed file."
  | .alreadyRunning => "daemon already running in this process"
  | .interrupted => ""

/-- The failure of parsing an address into a target. -/
def ofAddress : Address.Failure → Failure
  | .port fault => .number fault
  | .report fault => .report fault

end Failure
end MessageBus
