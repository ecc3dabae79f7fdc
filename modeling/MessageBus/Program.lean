import MessageBus.Daemon
import MessageBus.Log.Sink
/-!
The program: it reads its command line, sets the log up and runs a daemon. A command line that asks for
something else, or that is wrong, is answered on the standard streams.
-/
namespace MessageBus.Program

/-- How the program is called. The commands are those that started it, with and without what stands in
front of the program's name. -/
structure Call where
  arguments : List String
  whole : List String
  visible : List String
  seat : Daemon.Seat
  arrival : Daemon.Arrival

/-- What the program does: how it ends, what it prints, and what it leaves. -/
structure Effect where
  result : Except Failure Nat
  output : String
  complaint : String
  state : Option Daemon.State
  world : World

/-- What is printed for a command line that is not carried out. -/
def refuse (fault : CommandLine.Fault) (w : World) : Effect :=
  match fault with
  | .versionRequested =>
    ⟨.ok Daemon.Status.success.code, CommandLine.banner ++ "\n", "", none, w⟩
  | .unreadableDescriptor fault => ⟨.error (.number fault), "", "", none, w⟩
  | fault =>
    let message := if fault.message = "" then "" else fault.message ++ "\n"
    let usage := if fault.showsUsage then CommandLine.usage ++ "\n" else ""
    ⟨.ok Daemon.Status.failure.code, "", message ++ usage, none, w⟩

/-- Runs the program. Times in the log are written as given. -/
def run (clock : String) (call : Call) (w : World) : Effect :=
  match CommandLine.parse call.arguments with
  | .error fault => refuse fault w
  | .ok options =>
    let least := Log.threshold w.environment
    let outcome := Daemon.runIn call.seat ⟨call.arguments, options, call.whole, call.visible⟩
      call.arrival { w with collecting := true }
    ⟨outcome.result.map Daemon.Status.code, "", Log.written clock least outcome.world.log,
      outcome.state, outcome.world⟩

end MessageBus.Program
