/-!
A cooperative loop: a queue of entries that are run in rounds, tasks that wait at gates or give way to
others, and signals that arrive through a pipe, round by round. A request to stop is taken once in the
life of a loop.
-/
namespace MessageBus

/-- The signals that a loop can be told of. -/
inductive Signal
  | terminate
  | interrupt
  | hangUp
  deriving DecidableEq

namespace Loop

/-- What is queued to be run in a later round. -/
inductive Entry (C : Type)
  | halt
  | readPipe
  | resume (task : Nat)
  | call (callback : C)
  | collect (group : Nat)

/-- What a task does: it gives way a number of times and ends, or it does a job. -/
inductive Work (J V : Type)
  | turns (left : Nat) (outcome : V)
  | job (job : J)

inductive Phase (V : Type)
  | queued
  | waiting (gate : Nat)
  | ended (outcome : V)
  | cancelled

structure Task (J V : Type) where
  work : Work J V
  phase : Phase V
  started : Bool
  cancelling : Bool
  group : Option Nat

/-- A new task. -/
def Task.new (work : Work J V) : Task J V := ⟨work, .queued, false, false, none⟩

/-- The task is not over. -/
def Task.isOpen (t : Task J V) : Bool :=
  match t.phase with
  | .queued | .waiting _ => true
  | .ended _ | .cancelled => false

/-- Whose end halts the loop. -/
inductive Awaited
  | nothing
  | task (task : Nat)
  | group (group : Nat)
  deriving DecidableEq

inductive Fault
  | closed
  | stoppedEarly
  | unfinished
  deriving DecidableEq

def Fault.message : Fault → String
  | .closed => "Event loop is closed"
  | .stoppedEarly => "Event loop stopped before Future completed."
  | .unfinished => "Event loop ran out of rounds."

/-- What jobs and callbacks may ask of the loop that runs them. -/
inductive Request (C : Type)
  | stop
  | deliver (signal : Signal)
  | openGate (gate : Nat)
  | call (callback : C)

end Loop

/-- A loop. The tasks are in the order in which they came; a group is a number of tasks that are awaited
together, and only the newest one counts. -/
structure Loop (J C V : Type) where
  ready : List (Loop.Entry C)
  stopping : Bool
  stopRequested : Bool
  closed : Bool
  woken : Bool
  delivered : List Signal
  handlers : List (Signal × C)
  tasks : List (Loop.Task J V)
  awaited : Loop.Awaited
  groups : Nat
  outstanding : Nat
  /-- The signals that are still to come, round by round. -/
  coming : List (List Signal)

namespace Loop

variable {J C V : Type}

def empty : Loop J C V := ⟨[], false, false, false, false, [], [], [], .nothing, 0, 0, []⟩

def push (l : Loop J C V) (e : Entry C) : Loop J C V := { l with ready := l.ready ++ [e] }

/-- Asks the loop to stop. The first request is the only one that counts. -/
def requestStop (l : Loop J C V) : Loop J C V :=
  if l.stopRequested then l
  else if l.closed then { l with stopRequested := true }
  else { l.push .halt with stopRequested := true, woken := true }

/-- Queues a callback. -/
def queue (l : Loop J C V) (c : C) : Except Fault (Loop J C V) :=
  if l.closed then .error .closed else .ok (l.push (.call c))

def deliver (l : Loop J C V) (s : Signal) : Loop J C V :=
  { l with delivered := l.delivered ++ [s] }

/-- Nothing is there that a round could run. -/
def isIdle (l : Loop J C V) : Bool := l.ready.isEmpty && !l.woken && l.delivered.isEmpty

/-- The signals of the next round arrive. A loop with nothing to run sleeps until some come. -/
def receive (l : Loop J C V) : Loop J C V :=
  match if l.isIdle then l.coming.dropWhile (·.isEmpty) else l.coming with
  | [] => { l with coming := [] }
  | signals :: later => { l with delivered := l.delivered ++ signals, coming := later }

def withoutHandler (l : Loop J C V) (s : Signal) : Loop J C V :=
  { l with handlers := l.handlers.filter (·.1 != s) }

/-- Sets the callback for a signal. -/
def onSignal (l : Loop J C V) (s : Signal) (c : C) : Except Fault (Loop J C V) :=
  if l.closed then .error .closed
  else .ok { l with handlers := (s, c) :: (l.withoutHandler s).handlers }

/-- Takes the callback for a signal away, and tells whether there was one. -/
def offSignal (l : Loop J C V) (s : Signal) : Bool × Loop J C V :=
  ((l.handlers.lookup s).isSome, l.withoutHandler s)

/-- A new task, with its number. -/
def add (l : Loop J C V) (w : Work J V) : Nat × Loop J C V :=
  (l.tasks.length, { l.push (.resume l.tasks.length) with tasks := l.tasks ++ [.new w] })

def spawn (l : Loop J C V) (w : Work J V) : Except Fault (Nat × Loop J C V) :=
  if l.closed then .error .closed else .ok (l.add w)

/-- The numbers of the tasks with a property. -/
def numbers (l : Loop J C V) (p : Task J V → Bool) : List Nat :=
  (List.range l.tasks.length).filter fun i => l.tasks[i]?.any p

def setTask (l : Loop J C V) (i : Nat) (t : Task J V) : Loop J C V :=
  { l with tasks := l.tasks.set i t }

/-- The outcome of a task that has ended. -/
def outcome? (l : Loop J C V) (i : Nat) : Option V :=
  l.tasks[i]?.bind fun t =>
    match t.phase with
    | .ended outcome => some outcome
    | _ => none

/-- Queues the task if it waits at a gate. -/
def wake (l : Loop J C V) (i : Nat) : Loop J C V :=
  match l.tasks[i]? with
  | some t =>
    match t.phase with
    | .waiting _ => (l.setTask i { t with phase := .queued }).push (.resume i)
    | _ => l
  | none => l

/-- Opens a gate. -/
def openGate (l : Loop J C V) (gate : Nat) : Loop J C V :=
  (l.numbers fun t => match t.phase with | .waiting g => g == gate | _ => false).foldl wake l

/-- Cancels a task that is not over: it will be told at its next turn. -/
def cancel (l : Loop J C V) (i : Nat) : Loop J C V :=
  match l.tasks[i]? with
  | some t => if t.isOpen then (l.setTask i { t with cancelling := true }).wake i else l
  | none => l

/-- Queues a halt if the end of the task is awaited, and tells its group. -/
def announceEnd (l : Loop J C V) (i : Nat) (t : Task J V) : Loop J C V :=
  let l := if l.awaited = .task i then l.push .halt else l
  match t.group with
  | some g => l.push (.collect g)
  | none => l

/-- Ends a task. -/
def finish (l : Loop J C V) (i : Nat) (t : Task J V) (p : Phase V) : Loop J C V :=
  (l.setTask i { t with phase := p, started := true, cancelling := false }).announceEnd i t

/-- One member of a group has ended. -/
def collect (l : Loop J C V) (g : Nat) : Loop J C V :=
  if g = l.groups then
    let l := { l with outstanding := l.outstanding - 1 }
    if l.outstanding = 0 ∧ l.awaited = .group g then l.push .halt else l
  else l

/-- Reads the pipe: the callbacks for the signals that arrived are queued. -/
def readPipe (l : Loop J C V) : Loop J C V :=
  { l with
    woken := false
    delivered := []
    ready := l.ready ++ (l.delivered.filterMap (l.handlers.lookup ·)).map .call }

def serveRequest (l : Loop J C V) : Request C → Loop J C V
  | .stop => l.requestStop
  | .deliver s => l.deliver s
  | .openGate g => l.openGate g
  | .call c => l.push (.call c)

/-- Forms a group of the tasks that are not over. -/
def groupOpen (l : Loop J C V) : Loop J C V :=
  let members := l.numbers Task.isOpen
  { l with
    groups := l.groups + 1
    outstanding := members.length
    tasks := l.tasks.map fun t => if t.isOpen then { t with group := some (l.groups + 1) } else t }

/-- The loop as it is once it is closed. -/
def shut (l : Loop J C V) : Loop J C V := { l with closed := true, ready := [], handlers := [] }

end Loop
end MessageBus
