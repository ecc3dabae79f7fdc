import MessageBus.Log
import MessageBus.Loop.Round
import MessageBus.SystemError
/-!
The connections of a bus as its loop sees them. A connection is read until nothing comes, or until it
is lost; then it is taken off the active ones, closed, and waited for once. A transport may let go of a
connection that was closed at once, or in a later round. Main statement: what one connection does leaves the
others as they are.
-/
namespace MessageBus

/-- How a stream goes on behind its chunks. -/
inductive StreamEnd
  | endOfStream
  | reset
  | aborted
  | timedOut
  | staysOpen
  deriving DecidableEq

/-- What waiting for a closed connection ends with: nothing, the loss of the connection, or an error of
another kind. -/
inductive Farewell
  | quiet
  | reset
  | failed (error : SystemError)
  deriving DecidableEq

def Farewell.inputOutput : Farewell := .failed .inputOutput

/-- What is done with a connection: its handler comes to it, asks for a chunk, takes it off the active ones
and begins to wait for its end; the handler or the bus closes it. -/
inductive Connection.Act
  | joined
  | asked
  | left
  | closed
  | waited
  deriving DecidableEq

/-- A connection. What comes is cut to the bytes that a read takes, so a chunk is one read. -/
structure Connection where
  chunks : List String
  ending : StreamEnd
  farewell : Farewell
  /-- The transport lets go of the connection in a later round than the one in which it is closed. -/
  deferred : Bool
  hungUp : Bool
  /-- The transport has let go of the connection. -/
  gone : Bool
  active : Bool
  acts : List Connection.Act

namespace Connection

/-- A connection that was not served yet. -/
def new (deferred : Bool) (chunks : List String) (ending : StreamEnd) (farewell : Farewell) : Connection :=
  ⟨chunks, ending, farewell, deferred, false, false, false, []⟩

def reads (c : Connection) : Nat := c.acts.count .asked

def closes (c : Connection) : Nat := c.acts.count .closed

def waits (c : Connection) : Nat := c.acts.count .waited

/-- Something is done with the connection. -/
def note (c : Connection) (a : Act) : Connection := { c with acts := c.acts ++ [a] }

/-- How reading ends. -/
inductive ReadEnd
  | nothingMore
  | lost (message : String)
  | failed (error : SystemError)
  | cancelled

/-- What the read behind all chunks ends with; none if it waits. -/
def lastRead (c : Connection) : Option ReadEnd :=
  match c.ending with
  | .endOfStream => some .nothingMore
  | .reset => some (.lost SystemError.connectionReset.message)
  | .aborted => some (.lost "aborted")
  | .timedOut => some (.failed .timedOut)
  | .staysOpen => if c.hungUp then some .nothingMore else none

/-- What a read that was begun comes to, and the reads behind it: an empty chunk, the end, or a wait. Each
full chunk brings another read. -/
def readOn (c : Connection) : Option ReadEnd × Connection :=
  let full := c.chunks.takeWhile (· ≠ "")
  let c := { c with acts := c.acts ++ full.map fun _ => Act.asked }
  match c.chunks.drop full.length with
  | _ :: rest => (some .nothingMore, { c with chunks := rest })
  | [] => (c.lastRead, { c with chunks := [] })

/-- The handler comes to the connection. -/
def join (c : Connection) : Connection := { c with active := true }.note .joined

/-- A read begins. -/
def ask (c : Connection) : Connection := c.note .asked

/-- The connection is taken off the active ones. -/
def leave (c : Connection) : Connection := { c with active := false }.note .left

/-- The transport lets go of the connection: nothing more comes, and there is nothing to wait for. -/
def letGo (c : Connection) : Connection := { c with hungUp := true, gone := true }

/-- The connection is closed. The transport lets go of it at once, unless it defers that. -/
def close (c : Connection) : Connection :=
  if c.deferred then c.note .closed else (c.note .closed).letGo

/-- The handler begins to wait for the end of a connection that was closed. -/
def await (c : Connection) : Connection := c.note .waited

/-- The connection is at its end: whoever waits for that goes on. -/
def isGone (c : Connection) : Bool :=
  c.gone ||
    match c.ending with
    | .reset | .aborted | .timedOut => true
    | .endOfStream | .staysOpen => false

end Connection

/-- What was asked of the daemon through signals. -/
inductive Wish
  | quit
  | restart
  deriving DecidableEq

/-- The connections, in the order in which they came, with the log and the wishes that came by signal. -/
structure Traffic where
  log : List Log.Record
  connections : List Connection
  wishes : List Wish

namespace Traffic

/-- A job of the bus on its loop: to hang all connections up, to come to a connection, to hear from it, or to
wait for its end once reading has ended somehow. -/
inductive Job
  | closeAll
  | serve (connection : Nat)
  | hear (connection : Nat)
  | part (connection : Nat) (how : Connection.ReadEnd)

/-- A callback of the bus on its loop: a wish comes, or the transport lets go of a connection. -/
inductive Callback
  | wish (wish : Wish)
  | letGo (connection : Nat)

abbrev Outcome := Except SystemError Unit

abbrev Request := Loop.Request Callback

def record (t : Traffic) (message : String) : Traffic :=
  { t with log := t.log ++ [⟨.debug, "busd.bus.context", message⟩] }

/-- The number of active connections. -/
def active (t : Traffic) : Nat := t.connections.countP (·.active)

def change (t : Traffic) (i : Nat) (f : Connection → Connection) : Traffic :=
  { t with connections := t.connections.modify i f }

/-- What the loop is asked as a connection is closed: who waits at it is told at once, or in a later round. -/
def closing (i : Nat) (c : Connection) : Request := if c.deferred then .call (.letGo i) else .openGate i

/-- The end of the service of a connection, behind the wait for its end. -/
def settle (t : Traffic) (how : Connection.ReadEnd) : Farewell → Loop.Turn Job Outcome × Traffic
  | .failed e => (.ends (.error e), t)
  | .quiet | .reset =>
    let t := t.record ("Connection closed (" ++ toString t.active ++ " active)")
    match how with
    | .nothingMore | .lost _ => (.ends (.ok ()), t)
    | .failed e => (.ends (.error e), t)
    | .cancelled => (.cancelled, t)

/-- Waits for the end of a connection that was closed, if it has not come yet. -/
def part (t : Traffic) (i : Nat) (c : Connection) (how : Connection.ReadEnd) :
    Loop.Turn Job Outcome × Traffic :=
  if c.isGone then t.settle how c.farewell else (.waits i (.part i how), t)

/-- Ends the service of a connection: it is taken off the active ones, closed, and waited for. -/
def conclude (t : Traffic) (i : Nat) (c : Connection) (how : Connection.ReadEnd) :
    Loop.Turn Job Outcome × List Request × Traffic :=
  let t :=
    match how with
    | .lost message => t.record ("Connection lost: " ++ message)
    | _ => t
  let c := c.leave
  let c := c.close
  let c := c.await
  let (turn, t) := (t.change i fun _ => c).part i c how
  (turn, [closing i c], t)

/-- Goes on with a read that was begun, as far as it goes. -/
def hear (t : Traffic) (i : Nat) (c : Connection) : Loop.Turn Job Outcome × List Request × Traffic :=
  match c.readOn with
  | (some how, c) => t.conclude i c how
  | (none, c) => (.waits i (.hear i), [], t.change i fun _ => c)

/-- Begins the service of a connection. -/
def serve (t : Traffic) (i : Nat) (c : Connection) : Loop.Turn Job Outcome × List Request × Traffic :=
  let t := t.change i Connection.join
  let t := t.record ("Connection accepted (" ++ toString t.active ++ " active)")
  t.hear i c.join.ask

/-- Closes all active connections. -/
def closeAll (t : Traffic) : List Request × Traffic :=
  let requests := (List.range t.connections.length).filterMap fun i =>
    (t.connections[i]?.filter (·.active)).map (closing i)
  (requests, { t with connections := t.connections.map fun c => if c.active then c.close else c })

def advance (j : Job) (cancelled : Bool) (t : Traffic) :
    Loop.Turn Job Outcome × List Request × Traffic :=
  match j with
  | .closeAll =>
    if cancelled then (.cancelled, [], t)
    else
      let (requests, t) := t.closeAll
      (.ends (.ok ()), requests, t)
  | .serve i =>
    match t.connections[i]? with
    | some c => if cancelled then (.cancelled, [], t) else t.serve i c
    | none => (.cancelled, [], t)
  | .hear i =>
    match t.connections[i]? with
    | some c => if cancelled then t.conclude i c .cancelled else t.hear i c
    | none => (.cancelled, [], t)
  | .part i how =>
    match t.connections[i]? with
    | some c =>
      if cancelled then (.cancelled, [], t)
      else
        let (turn, t) := t.part i c how
        (turn, [], t)
    | none => (.cancelled, [], t)

def call (c : Callback) (t : Traffic) : List Request × Traffic :=
  match c with
  | .wish wish => ([.stop], { t with wishes := t.wishes ++ [wish] })
  | .letGo i => ([.openGate i], t.change i Connection.letGo)

/-- How the bus behaves on its loop. -/
def behaviour : Loop.Behaviour Traffic Job Callback Outcome := ⟨advance, call, .ok ()⟩

/-- The rounds that closing takes with tasks on the loop: one in which they are told of their cancellation,
two in which the connections that they close come to their ends, and two to collect the tasks and to halt. -/
def closingRounds : Nat := 5

theorem change_of_ne (t : Traffic) {i j : Nat} (h : i ≠ j) (f : Connection → Connection) :
    (t.change i f).connections[j]? = t.connections[j]? := by
  simp [change, h]

end Traffic
end MessageBus
