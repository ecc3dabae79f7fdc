/-!
The log of the bus: records with a level, the name of the part that wrote them, and a message. A level
is one of the named ones or a number alone.
-/
namespace MessageBus.Log

inductive Level
  | trace
  | debug
  | info
  | success
  | warning
  | error
  | critical
  | numbered (number : Int)
  deriving DecidableEq

namespace Level

def name : Level → String
  | .trace => "TRACE"
  | .debug => "DEBUG"
  | .info => "INFO"
  | .success => "SUCCESS"
  | .warning => "WARNING"
  | .error => "ERROR"
  | .critical => "CRITICAL"
  | .numbered n => "Level " ++ toString n

/-- The number that levels are compared by. -/
def severity : Level → Int
  | .trace => 5
  | .debug => 10
  | .info => 20
  | .success => 25
  | .warning => 30
  | .error => 40
  | .critical => 50
  | .numbered n => n

/-- The levels that have a name. -/
def named : List Level := [.trace, .debug, .info, .success, .warning, .error, .critical]

def ofName? (name : String) : Option Level := named.find? (·.name == name)

end Level

/-- The library whose records the program watches for. -/
def watchedLibrary : String := "asyncio"

structure Record where
  level : Level
  part : String
  message : String
  deriving DecidableEq

end MessageBus.Log
