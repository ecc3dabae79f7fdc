import MessageBus.CommandLine.Options
import MessageBus.Failure
import MessageBus.World
/-!
The announcement of an address: one line, written at once to a descriptor, which is closed afterwards
unless it is a standard stream. It is written for any system that answers its requests, of which the world
is one.
-/
namespace MessageBus.Announcement

/-- The line that announces an address. -/
def line (address : String) : String := address ++ "\n"

/-- A system that answers requests as its state has it. -/
structure System (σ : Type) where
  write : Nat → String → σ → Except SystemError Int × σ
  close : Nat → σ → Option SystemError × σ

namespace System
variable {σ : Type}

def ofWorld : System World where
  write descriptor text w := w.write descriptor text
  close descriptor w := w.close descriptor

/-- Has the descriptor closed unless it is a standard stream. The answer makes no difference. -/
def dismiss (S : System σ) (descriptor : Nat) (s : σ) : σ :=
  if CommandLine.lastStandardStream < descriptor then (S.close descriptor s).2 else s

end System

/-- The end of an announcement: its answer or what broke it off, the caller's target, and the system. -/
structure Exit (σ : Type) where
  answer : Except Failure Bool
  target : Report.Target
  system : σ

/-- Reports a failure and answers no. A target that does not take the report is left as it is, and the
announcement breaks off. -/
def decline {σ : Type} (kind : Report.Kind) (template : String) (arguments : List Value)
    (target : Report.Target) (s : σ) : Exit σ :=
  match target.file kind (.filled template arguments) with
  | .ok after => ⟨.ok false, after, s⟩
  | .error fault => ⟨.error (.report fault), target, s⟩

/-- The announcement in the order of its steps. The descriptor is dismissed behind the report of a write
that failed, which may break off, but ahead of the report of a short one. -/
def perform {σ : Type} (S : System σ) (address : String) (descriptor : Nat) (target : Report.Target)
    (s : σ) : Exit σ :=
  match S.write descriptor (line address) s with
  | (.error e, s) =>
    let exit := decline (.ofErrorNumber e.number) "%s" [.text e.summary] target s
    { exit with system := S.dismiss descriptor exit.system }
  | (.ok count, s) =>
    let s := S.dismiss descriptor s
    if count = (line address).utf8ByteSize then ⟨.ok true, target, s⟩
    else
      decline .ioError "Short write: %d of %d bytes"
        [.int count, .int (line address).utf8ByteSize] target s

/-- Announces an address on a descriptor of the world. Tells whether the whole line was written. -/
def announce (address : String) (descriptor : Nat) (target : Report.Target) (w : World) :
    Except Failure (Bool × Report.Target) × World :=
  let exit := perform .ofWorld address descriptor target w
  (exit.answer.map (·, exit.target), exit.system)

end MessageBus.Announcement
