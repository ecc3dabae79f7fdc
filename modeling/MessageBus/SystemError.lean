import MessageBus.Text.Quoted
/-!
Errors of the operating system: an error number with its description, or a text alone. Where a path is
concerned, the message ends with it.
-/
namespace MessageBus

structure SystemError where
  number : Option Int
  reason : String
  subject : Option String
  deriving DecidableEq

namespace SystemError

/-- An error with a number and a description. -/
def numbered (number : Int) (reason : String) : SystemError := ⟨some number, reason, none⟩

/-- An error that is a text alone. -/
def ofText (text : String) : SystemError := ⟨none, text, none⟩

def message (e : SystemError) : String :=
  match e.number with
  | none => e.reason
  | some n =>
    "[Errno " ++ toString n ++ "] " ++ e.reason ++ (e.subject.elim "" fun s => ": " ++ s)

/-- The description, or the whole message of an error without one. -/
def summary (e : SystemError) : String :=
  if e.number.isSome && e.reason ≠ "" then e.reason else e.message

/-- The error concerns a path. -/
def concerning (e : SystemError) (subject : String) : SystemError := { e with subject := some subject }

def notFound : SystemError := numbered 2 "No such file or directory"
def alreadyExists : SystemError := numbered 17 "File exists"
def notDirectory : SystemError := numbered 20 "Not a directory"
def isDirectory : SystemError := numbered 21 "Is a directory"
def nameTooLong : SystemError := numbered 36 "File name too long"
def connectionReset : SystemError := numbered 104 "Connection reset by peer"
def timedOut : SystemError := numbered 110 "Connection timed out"
def inputOutput : SystemError := numbered 5 "Input/output error"
def noDevice : SystemError := numbered 6 "No such device or address"

/-- A socket is bound at the address already. -/
def addressInUse (path : String) : SystemError :=
  numbered 98 ("Address " ++ Text.quoted path ++ " is already in use")

/-- The path of a socket does not fit into an address of the system. -/
def socketPathTooLong : SystemError := ofText "AF_UNIX path too long"

/-- The file that was looked for is missing. -/
def isNotFound (e : SystemError) : Bool := e.number == some 2

/-- The class of errors that a number belongs to. -/
def className (e : SystemError) : String :=
  match e.number with
  | some 1 | some 13 => "PermissionError"
  | some 2 => "FileNotFoundError"
  | some 3 => "ProcessLookupError"
  | some 4 => "InterruptedError"
  | some 10 => "ChildProcessError"
  | some 11 | some 114 | some 115 => "BlockingIOError"
  | some 17 => "FileExistsError"
  | some 20 => "NotADirectoryError"
  | some 21 => "IsADirectoryError"
  | some 32 | some 108 => "BrokenPipeError"
  | some 103 => "ConnectionAbortedError"
  | some 104 => "ConnectionResetError"
  | some 110 => "TimeoutError"
  | some 111 => "ConnectionRefusedError"
  | _ => "OSError"

/-- The literal form of an error. -/
def literal (e : SystemError) : String :=
  match e.number with
  | none => e.className ++ "(" ++ Text.quoted e.reason ++ ")"
  | some n => e.className ++ "(" ++ toString n ++ ", " ++ Text.quoted e.reason ++ ")"

end SystemError
end MessageBus
