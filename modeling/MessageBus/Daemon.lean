import MessageBus.Announcement
import MessageBus.CommandLine.Restart
import MessageBus.Context.Start
/-!
A daemon: it starts a bus, announces its address, runs until a signal ends it, and takes the bus down.
A signal to quit wins over one to restart. Only one daemon runs at a time.
-/
namespace MessageBus.Daemon

/-- The status with which the program ends. -/
inductive Status
  | success
  | failure
  deriving DecidableEq

def Status.code : Status → Nat
  | .success => 0
  | .failure => 1

inductive Phase
  | starting
  | running
  | stopping
  | stopped
  | failed
  deriving DecidableEq

def Phase.name : Phase → String
  | .starting => "starting"
  | .running => "running"
  | .stopping => "stopping"
  | .stopped => "stopped"
  | .failed => "failed"

/-- What is known of a daemon: how far it is, and what came by signal. -/
structure State where
  phase : Phase
  wishes : List Wish
  context : Option Context

namespace State

def initial : State := ⟨.starting, [], none⟩

def quitRequested (s : State) : Bool := s.wishes.contains .quit

def restartRequested (s : State) : Bool := s.wishes.contains .restart

/-- A restart was asked for and a quit was not. -/
def wantsRestart (s : State) : Bool := s.restartRequested && !s.quitRequested

end State

/-- The place for the one daemon that may run. -/
abbrev Seat := Option State

/-- Takes the seat. -/
def begin (seat : Seat) : Except Failure State :=
  match seat with
  | some _ => .error .alreadyRunning
  | none => .ok .initial

/-- What is asked of a daemon: its options, and the commands that it was started with. -/
structure Invocation where
  arguments : List String
  options : CommandLine.Options
  whole : List String
  visible : List String

/-- What comes once the daemon hears signals: signals, round by round of its loop, or an interruption
before anything else. -/
inductive Arrival
  | rounds (signals : List (List Signal))
  | interruption

/-- Signals that are raised in the first round. The pipe is read before that, so the next one reads
them. -/
def Arrival.signals (signals : List Signal) : Arrival := .rounds [[], signals]

def part : String := "busd.daemon"

/-- The wish that a signal brings. -/
def wishOf : Signal → Wish
  | .terminate | .interrupt => .quit
  | .hangUp => .restart

/-- The loop is to tell the daemon of all signals. -/
def installHandlers (c : Context) : Except Failure Context :=
  [Signal.terminate, .interrupt, .hangUp].foldlM (fun c s =>
    match c.loop.onSignal s (.wish (wishOf s)) with
    | .ok l => .ok { c with loop := l }
    | .error fault => .error (.loop fault)) c

/-- The loop is going to meet these signals. -/
def expect (signals : List (List Signal)) (c : Context) : Context :=
  { c with loop := { c.loop with coming := signals } }

/-- The rounds after which a run is given up. -/
def patience : Nat := 51

/-- Where a daemon with a context is, and where its world is. -/
structure Stage where
  phase : Phase
  context : Context
  world : World

/-- Logs a record of the daemon. -/
def Stage.record (s : Stage) (level : Log.Level) (message : String) : Stage :=
  { s with world := s.world.record ⟨level, part, message⟩ }

/-- Announces the address, if that is asked for. Tells whether the daemon can go on. -/
def announce (descriptor : Option Nat) (s : Stage) : Except Failure Bool × Stage :=
  match descriptor with
  | none => (.ok true, s)
  | some descriptor =>
    match s.context.address with
    | .error f => (.error f, s)
    | .ok address =>
      match Announcement.announce address descriptor .clear s.world with
      | (.error f, w) => (.error f, { s with world := w })
      | (.ok (true, _), w) => (.ok true, { s with world := w })
      | (.ok (false, target), w) =>
        let message := (target.report?.map (·.text)).getD ""
        (.ok false, { s with phase := .failed, world := w }.record .error
          ("Failed to print message bus address: " ++ message))

/-- Logs what the run ended for. -/
def logWish (s : Stage) : Stage :=
  if s.context.wishes.contains .quit then s.record .info "Quit requested"
  else if s.context.wishes.contains .restart then s.record .info "Restart requested"
  else s

/-- Runs the loop until a signal ends it, and tells whether it was ended so. -/
def runLoop (s : Stage) : Except Failure Loop.RunEnd × Stage :=
  match s.context.settings.busType with
  | .error fault => (.error (.number fault), { s with phase := .running })
  | .ok kind =>
    let s := { s with phase := .running }.record .info
      ("Message bus (" ++ kind ++ ") running (pid " ++ toString s.world.platform.process ++ ")")
    match s.context.run patience s.world with
    | (.error f, c, w) => (.error f, { s with context := c, world := w })
    | (.ok ending, c, w) => (.ok ending, logWish { phase := .stopping, context := c, world := w })

/-- What the daemon does with its context. -/
def operate (descriptor : Option Nat) (arrival : Arrival) (s : Stage) : Except Failure Status × Stage :=
  match installHandlers s.context with
  | .error f => (.error f, s)
  | .ok c =>
    match arrival with
    | .interruption => (.error .interrupted, { s with context := c })
    | .rounds signals =>
      match announce descriptor { s with context := expect signals c } with
      | (.error f, s) => (.error f, s)
      | (.ok false, s) => (.ok .failure, s)
      | (.ok true, s) =>
        match runLoop s with
        | (.error f, s) => (.error f, s)
        | (.ok _, s) => (.ok .success, s)

/-- Takes the context down. -/
def tearDown (s : Stage) : Except Failure Unit × Stage :=
  match s.context.shutdown s.world with
  | (.error f, c, w) => (.error f, { s with context := c, world := w })
  | (.ok (), c, w) =>
    match c.release w with
    | (r, c, w) => (r, { s with context := c, world := w })

/-- The end of a daemon that had a context: it is taken down whatever came before. -/
def conclude (r : Except Failure Status) (s : Stage) : Except Failure Status × Stage :=
  match tearDown s with
  | (.error f, s) => (.error f, s)
  | (.ok (), s) =>
    match r with
    | .ok .success => (r, { s with phase := .stopped }.record .info "Message bus stopped")
    | r => (r, s)

/-- How the life of a daemon ends: with a status unless it broke off. Beside it stand the context that
was made on the way, the state if the daemon came so far that it heard signals, and the seat. -/
structure Outcome where
  result : Except Failure Status
  context : Option Context
  state : Option State
  seat : Seat
  world : World

/-- The life of a daemon with a context. -/
def live (i : Invocation) (arrival : Arrival) (c : Context) (w : World) : Outcome :=
  let (r, s) := operate i.options.target arrival ⟨.starting, c, w⟩
  let (r, s) := conclude r s
  let state : State := ⟨s.phase, s.context.wishes, none⟩
  ⟨r, some s.context, some state, some state, s.world⟩

/-- The life of a daemon that took its seat. -/
def run (state : State) (i : Invocation) (arrival : Arrival) (w : World) : Outcome :=
  match Context.attempt i.options.path .clear w with
  | (.error f, made, w) => ⟨.error f, made, none, some state, w⟩
  | (.ok (none, target), made, w) =>
    let message := (target.report?.map (·.text)).getD ""
    ⟨.ok .failure, made, none, some { state with phase := .failed },
      w.record ⟨.error, part, "Failed to start message bus: " ++ message⟩⟩
  | (.ok (some c, _), _, w) => live i arrival c w

/-- The daemon gives its seat up. -/
def Outcome.vacate (o : Outcome) : Outcome := { o with seat := none }

/-- The daemon is to be replaced. -/
def Outcome.wantsRestart (o : Outcome) : Bool :=
  match o.result with
  | .ok .success => o.state.any State.wantsRestart
  | _ => false

/-- Replaces the daemon by a new one, once what was printed is out. An error of the system is logged. -/
def restart (i : Invocation) (w : World) : Except Failure Status × World :=
  let command := CommandLine.restartCommand i.arguments i.options.target i.whole i.visible
  let w := w.record ⟨.info, part, "Restarting message bus: " ++ String.intercalate " " command⟩
  match w.flush with
  | some .missing => (.error .noStream, w)
  | some .closed => (.error .closedStream, w)
  | some (.system e) => refused e w
  | none =>
    match w.replace command with
    | (none, w) => (.ok .success, w)
    | (some e, w) => refused e w
where
  /-- The daemon was not replaced. -/
  refused (e : SystemError) (w : World) : Except Failure Status × World :=
    (.ok .failure, w.record ⟨.error, part, "Failed to restart message bus: " ++ e.message⟩)

/-- The daemon after the attempt to replace it. -/
def Outcome.replaced (i : Invocation) (o : Outcome) : Outcome :=
  let (result, w) := restart i o.world
  { o with result := result, world := w }

/-- What a daemon leaves as its seat is free again. It is replaced after that, if at all. -/
def leave (state : State) (i : Invocation) (arrival : Arrival) (w : World) : Outcome :=
  (run state i arrival w).vacate

/-- The life of a daemon, if its seat is free. The seat is free again before the daemon is replaced. -/
def runIn (seat : Seat) (i : Invocation) (arrival : Arrival) (w : World) : Outcome :=
  match begin seat with
  | .error f => ⟨.error f, none, none, seat, w⟩
  | .ok state =>
    let o := leave state i arrival w
    if o.wantsRestart then o.replaced i else o

end MessageBus.Daemon
