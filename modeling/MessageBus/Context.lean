import MessageBus.Listener
import MessageBus.Traffic
/-!
A running bus: its settings, its listeners, the connections on its loop, and its pid file. It is shared
by references; the last release shuts it down and closes its loop. Main statements: a shut down that was
done is not done again, and a release without a reference changes nothing.
-/
namespace MessageBus

structure Context where
  settings : Settings
  listeners : List Listener
  pidFile : Option String
  references : Nat
  shutDown : Bool
  loop : Loop Traffic.Job Traffic.Callback Traffic.Outcome
  connections : List Connection
  wishes : List Wish

namespace Context

/-- The part of the program that logs what a context does. -/
def part : String := "busd.bus.context"

/-- A context with no listener yet. -/
def new (settings : Settings) : Context :=
  ⟨settings, [], none, 1, false, .empty, [], []⟩

/-- The address of the first listener. -/
def address (c : Context) : Except Failure String :=
  match c.listeners with
  | l :: _ => .ok l.address
  | [] => .error .noListener

def connectionCount (c : Context) : Nat := c.connections.countP (·.active)

/-- One more reference. -/
def retain (c : Context) : Context := { c with references := c.references + 1 }

/-- The traffic that the loop works on. -/
def traffic (c : Context) (w : World) : Traffic := ⟨w.log, c.connections, c.wishes⟩

/-- The context and the world after the loop ran. -/
def afterLoop (c : Context) (w : World)
    (l : Loop Traffic.Job Traffic.Callback Traffic.Outcome) (t : Traffic) : Context × World :=
  ({ c with loop := l, connections := t.connections, wishes := t.wishes }, { w with log := t.log })

/-- Runs the loop until it is stopped, at most so many rounds. -/
def run (limit : Nat) (c : Context) (w : World) : Except Failure Loop.RunEnd × Context × World :=
  let (r, l, t) := c.loop.run Traffic.behaviour limit (c.traffic w)
  (r.mapError .loop, c.afterLoop w l t)

/-- Runs the loop until some work is over. What escapes from the work is the failure. -/
def complete (work : Loop.Work Traffic.Job Traffic.Outcome) (c : Context) (w : World) :
    Except Failure Unit × Context × World :=
  let (r, l, t) := c.loop.complete Traffic.behaviour work (c.traffic w)
  let r :=
    match r with
    | .ok (.ok ()) => .ok ()
    | .ok (.error e) => .error (.system e)
    | .error fault => .error (.loop fault)
  (r, c.afterLoop w l t)

/-- Closes the loop. -/
def closeLoop (c : Context) (w : World) : Except Failure Unit × Context × World :=
  let w := if c.loop.closed then w else w.record ⟨.debug, "busd.bus.loop", "Closing event loop"⟩
  let (r, l, t) := c.loop.closeWithin Traffic.behaviour Traffic.closingRounds (c.traffic w)
  (r.mapError .loop, c.afterLoop w l t)

/-- Removes a file that may be gone already. A null character is in no path. -/
def unlink (path : String) (files : Files) : Except Failure Files :=
  if Path.hasNull path then .error .nullCharacter
  else
    match files.remove path with
    | .ok files => .ok files
    | .error e => if e.isNotFound then .ok files else .error (.system e)

/-- Removes the sockets of listeners in order, up to the first that cannot be removed. -/
def removeSockets : List Listener → Files → Except Failure Unit × Files
  | [], files => (.ok (), files)
  | l :: rest, files =>
    match l.socket with
    | none => removeSockets rest files
    | some path =>
      match unlink path files with
      | .ok files => removeSockets rest files
      | .error (.system e) => (.error (.system (e.concerning (Text.quoted path))), files)
      | .error f => (.error f, files)

/-- Removes the pid file that is recorded. -/
def removePidFile (c : Context) (w : World) : Except Failure Unit × Context × World :=
  match c.pidFile with
  | none => (.ok (), c, w)
  | some path =>
    match unlink path w.files with
    | .ok files => (.ok (), { c with pidFile := none }, { w with files := files })
    | .error (.system e) =>
      (.error (.system (e.concerning ("PosixPath(" ++ Text.quoted path ++ ")"))), c, w)
    | .error f => (.error f, c, w)

/-- Removes what the context left in the file tree. -/
def removeFiles (c : Context) (w : World) : Except Failure Unit × Context × World :=
  match removeSockets c.listeners w.files with
  | (.error f, files) => (.error f, c, { w with files := files })
  | (.ok (), files) => removePidFile { c with listeners := [] } { w with files := files }

/-- Stops listening, drops the connections and removes the pid file. Only the first call does. -/
def shutdown (c : Context) (w : World) : Except Failure Unit × Context × World :=
  if c.shutDown then (.ok (), c, w)
  else
    let w := w.record ⟨.info, part, "Shutting down message bus"⟩
    match complete (.job .closeAll) { c with shutDown := true } w with
    | (.error f, c, w) => (.error f, c, w)
    | (.ok (), c, w) => c.removeFiles w

/-- Gives a reference back. The last one shuts the context down and closes its loop. -/
def release (c : Context) (w : World) : Except Failure Unit × Context × World :=
  match c.references with
  | 0 => (.error .overReleased, c, w)
  | n + 1 =>
    let c := { c with references := n }
    if n = 0 then
      match c.shutdown w with
      | (.error f, c, w) => (.error f, c, w)
      | (.ok (), c, w) => c.closeLoop w
    else (.ok (), c, w)

/-- Serves a connection that does not stay open. -/
def accept (connection : Connection) (c : Context) (w : World) :
    Except Failure Unit × Context × World :=
  let i := c.connections.length
  complete (.job (.serve i)) { c with connections := c.connections ++ [connection] } w

/-- Lets the loop go round. -/
def pause (c : Context) (w : World) : Except Failure Unit × Context × World :=
  complete (.turns 1 (.ok ())) c w

/-- A connection comes in. A task of its own is to serve it. -/
def takeIn (connection : Connection) (c : Context) (w : World) :
    Except Failure Unit × Context × World :=
  let i := c.connections.length
  let c := { c with connections := c.connections ++ [connection] }
  match c.loop.spawn (.job (.serve i)) with
  | .error fault => (.error (.loop fault), c, w)
  | .ok (_, l) => (.ok (), { c with loop := l }, w)

/-- Serves a connection in a task of its own, and lets the loop go round. -/
def acceptOpen (connection : Connection) (c : Context) (w : World) :
    Except Failure Unit × Context × World :=
  match c.takeIn connection w with
  | (.ok (), c, w) => pause c w
  | failed => failed

/-- Lets the loop go round a number of times, up to the first that fails. -/
def pauses : Nat → Context → World → Except Failure Unit × Context × World
  | 0, c, w => (.ok (), c, w)
  | n + 1, c, w =>
    match pause c w with
    | (.ok (), c, w) => pauses n c w
    | failed => failed

/-- Something comes from the peer of a connection: whoever waits for it goes on in a later round. -/
def meet (i : Nat) (change : Connection → Connection) (c : Context) : Context :=
  { c with connections := c.connections.modify i change, loop := c.loop.openGate i }

/-- A chunk comes over a connection. -/
def receive (i : Nat) (chunk : String) (c : Context) : Context :=
  c.meet i fun x => { x with chunks := x.chunks ++ [chunk] }

/-- The stream of a connection comes to an end. -/
def lose (i : Nat) (ending : StreamEnd) (c : Context) : Context :=
  c.meet i fun x => { x with ending := ending }

/-- The peer of a connection hangs up. -/
def hangUp (i : Nat) (c : Context) (w : World) : Except Failure Unit × Context × World :=
  pauses 3 (c.meet i fun x => { x with hungUp := true }) w

theorem shutdown_of_shutDown {c : Context} (h : c.shutDown = true) (w : World) :
    c.shutdown w = (.ok (), c, w) := by
  simp [shutdown, h]

theorem release_of_no_references {c : Context} (h : c.references = 0) (w : World) :
    c.release w = (.error .overReleased, c, w) := by
  simp [release, h]

end Context
end MessageBus
