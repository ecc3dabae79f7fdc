import MessageBus.Address
import MessageBus.Environment
import MessageBus.Files
import MessageBus.Log
/-!
What the bus meets outside itself: files, the environment, the platform that it runs on, the outcomes of
attempts to listen, write, close and restart; and what it leaves there: files, log records, addresses that
were tried, written lines, closed descriptors.
-/
namespace MessageBus

/-- What sockets are: the system's own, with what its resolver makes of hosts beyond ASCII; or stand-ins, for
which a plain file at the path is enough and any host will do. -/
inductive Sockets
  | native (foreign : String → Option String)
  | standIn

/-- How flushing a standard stream fails: there is no stream, it was closed, or the system has an error. -/
inductive FlushFault
  | missing
  | closed
  | system (error : SystemError)

/-- What the platform settles on its own. -/
structure Platform where
  sockets : Sockets
  /-- The number of the process. -/
  process : Nat
  /-- The port that the system picks for the n-th listener that leaves it the choice. -/
  freePort : Nat → Nat
  /-- The n-th unique identifier. -/
  unique : Nat → BitVec 128
  /-- What the YAML reader says of a text at a path that is no document. -/
  flaw : String → List Char → String
  /-- The bytes of a file's content that can be written before the system has an error. -/
  shortage : Option (Nat × SystemError)
  outputFlush : Option FlushFault
  errorFlush : Option FlushFault

namespace Platform

/-- A platform on which nothing fails. -/
def plain : Platform where
  sockets := .native fun _ => none
  process := 1
  freePort n := 49151 + n
  unique n := BitVec.ofNat 128 (n * Nat.pow 16 22)
  flaw _ _ := "the text is no document"
  shortage := none
  outputFlush := none
  errorFlush := none

/-- As much of a content as can be written, with the error that cuts it short. -/
def fit (p : Platform) (content : List UInt8) : List UInt8 × Option SystemError :=
  match p.shortage with
  | none => (content, none)
  | some (room, e) => if room < content.length then (content.take room, some e) else (content, none)

end Platform

/-- How writing to a descriptor ends: all bytes are written, so many are, or none. -/
inductive WriteOutcome
  | all
  | count (written : Int)
  | fails (error : SystemError)

/-- The world around the bus. Attempts to listen succeed where the list of their errors has none or is
at its end. -/
structure World where
  platform : Platform
  files : Files
  environment : Environment
  environmentFile : Option String
  listening : List (Option SystemError)
  portsGiven : Nat
  namesGiven : Nat
  writing : WriteOutcome
  closing : Option SystemError
  replacing : Option SystemError
  collecting : Bool
  log : List Log.Record
  attempts : List Address
  /-- All that was handed over for writing, whatever became of it. -/
  submitted : List (Nat × String)
  writes : List (Nat × String)
  closed : List Nat
  commands : List (List String)

namespace World

/-- A world in which every attempt succeeds. -/
def empty : World where
  platform := .plain
  files := .empty
  environment := ⟨[]⟩
  environmentFile := none
  listening := []
  portsGiven := 0
  namesGiven := 0
  writing := .all
  closing := none
  replacing := none
  collecting := false
  log := []
  attempts := []
  submitted := []
  writes := []
  closed := []
  commands := []

def record (w : World) (r : Log.Record) : World := { w with log := w.log ++ [r] }

/-- An attempt to listen at an address begins. -/
def attempt (w : World) (a : Address) : World := { w with attempts := w.attempts ++ [a] }

/-- The outcome of the next attempt to listen. -/
def nextListening (w : World) : Option SystemError × World :=
  match w.listening with
  | [] => (none, w)
  | outcome :: rest => (outcome, { w with listening := rest })

/-- The port that a listener gets: one that the system picks if it asks for port 0. -/
def port (w : World) (asked : Nat) : Nat × World :=
  if asked = 0 then (w.platform.freePort (w.portsGiven + 1), { w with portsGiven := w.portsGiven + 1 })
  else (asked, w)

/-- A name of ten hexadecimal digits, the first ones of a new unique identifier. -/
def freshName (w : World) : String × World :=
  (String.ofList ((Text.hex 32 (w.platform.unique (w.namesGiven + 1)).toNat).take 10),
    { w with namesGiven := w.namesGiven + 1 })

/-- Writes a text to a descriptor, and tells how many bytes were written. -/
def write (w : World) (descriptor : Nat) (text : String) : Except SystemError Int × World :=
  let asked := { w with submitted := w.submitted ++ [(descriptor, text)] }
  let done := { asked with writes := w.writes ++ [(descriptor, text)] }
  match w.writing with
  | .all => (.ok text.utf8ByteSize, done)
  | .count n => (.ok n, done)
  | .fails e => (.error e, asked)

/-- Closes a descriptor. It is closed even if the system complains. -/
def close (w : World) (descriptor : Nat) : Option SystemError × World :=
  (w.closing, { w with closed := w.closed ++ [descriptor] })

/-- Flushes the standard streams, the output first. -/
def flush (w : World) : Option FlushFault := w.platform.outputFlush <|> w.platform.errorFlush

/-- Replaces the program by another command. -/
def replace (w : World) (command : List String) : Option SystemError × World :=
  (w.replacing, { w with commands := w.commands ++ [command] })

end World
end MessageBus
