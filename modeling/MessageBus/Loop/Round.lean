import MessageBus.Loop
/-!
How a loop runs. A round begins with the signals that arrive; then it runs the entries that were ready
at its start, in their order; what they queue is for the next round. A loop runs until it is stopped,
and at most a given number of rounds; or it runs until a task or a group of tasks is over. Main
statement: a closed loop does not run.
-/
namespace MessageBus.Loop

/-- What a job does with its turn. -/
inductive Turn (J V : Type)
  | waits (gate : Nat) (job : J)
  | ends (outcome : V)
  | cancelled

/-- How jobs go on and what callbacks do, on a state of their own. A job is told when it is cancelled. -/
structure Behaviour (σ J C V : Type) where
  advance : J → Bool → σ → Turn J V × List (Request C) × σ
  call : C → σ → List (Request C) × σ
  /-- The outcome of work with nothing to tell. -/
  nothing : V

variable {σ J C V : Type} (b : Behaviour σ J C V)

/-- Gives a task its turn. A task that is cancelled before its first turn does nothing. -/
def resume (l : Loop J C V) (s : σ) (i : Nat) : Loop J C V × σ :=
  match l.tasks[i]? with
  | none => (l, s)
  | some t =>
    if t.isOpen then
      if t.cancelling && !t.started then (l.finish i t .cancelled, s)
      else
        match t.work with
        | .turns left outcome =>
          if t.cancelling then (l.finish i t .cancelled, s)
          else
            match left with
            | 0 => (l.finish i t (.ended outcome), s)
            | n + 1 =>
              ((l.setTask i { t with work := .turns n outcome, started := true }).push (.resume i), s)
        | .job j =>
          let (turn, requests, s) := b.advance j t.cancelling s
          let l := requests.foldl serveRequest l
          match turn with
          | .waits gate j =>
            (l.setTask i { t with
              work := .job j, phase := .waiting gate, started := true, cancelling := false }, s)
          | .ends outcome => (l.finish i t (.ended outcome), s)
          | .cancelled => (l.finish i t .cancelled, s)
    else (l, s)

/-- Runs an entry. -/
def perform : Loop J C V × σ → Entry C → Loop J C V × σ
  | (l, s), .halt => ({ l with stopping := true }, s)
  | (l, s), .readPipe => (l.readPipe, s)
  | (l, s), .resume i => resume b l s i
  | (l, s), .collect g => (l.collect g, s)
  | (l, s), .call c =>
    let (requests, s) := b.call c s
    (requests.foldl serveRequest l, s)

/-- What a round runs: the ready entries, and the pipe behind them if something is in it. -/
def agenda (l : Loop J C V) : List (Entry C) :=
  l.ready ++ (if l.woken || !l.delivered.isEmpty then [.readPipe] else [])

def round (l : Loop J C V) (s : σ) : Loop J C V × σ :=
  let l := l.receive
  l.agenda.foldl (perform b) ({ l with ready := [] }, s)

/-- Runs rounds until the loop is stopping, at most so many. -/
def rounds : Nat → Loop J C V → σ → Loop J C V × σ
  | 0, l, s => (l, s)
  | n + 1, l, s =>
    let (l, s) := round b l s
    if l.stopping then (l, s) else rounds n l s

/-- Runs rounds; tells whether the loop was stopped, and lets it be started again. -/
def spin (limit : Nat) (l : Loop J C V) (s : σ) : Bool × Loop J C V × σ :=
  let (l, s) := rounds b limit l s
  (l.stopping, { l with stopping := false }, s)

/-- How a run ends. -/
inductive RunEnd
  | stopped
  | ranOut
  deriving DecidableEq

/-- Runs the loop until it is stopped, at most so many rounds. -/
def run (limit : Nat) (l : Loop J C V) (s : σ) : Except Fault RunEnd × Loop J C V × σ :=
  if l.closed then (.error .closed, l, s)
  else
    let (stopped, l, s) := spin b limit l s
    (.ok (if stopped then .stopped else .ranOut), l, s)

/-- Runs the loop until something is over, and no longer. -/
def await (what : Awaited) (limit : Nat) (l : Loop J C V) (s : σ) : Bool × Loop J C V × σ :=
  let (stopped, l, s) := spin b limit { l with awaited := what } s
  (stopped, { l with awaited := .nothing }, s)

/-- The rounds that work takes if nothing stops the loop. -/
def Work.rounds : Work J V → Nat
  | .turns left _ => left + 2
  | .job _ => 2

/-- Why something is not over after the loop ran for it. -/
def notOver (stopped : Bool) : Fault := if stopped then .stoppedEarly else .unfinished

/-- Runs the loop until a new task is over, and gives its outcome. A task that is left over stays in the
loop. -/
def complete (w : Work J V) (l : Loop J C V) (s : σ) : Except Fault V × Loop J C V × σ :=
  if l.closed then (.error .closed, l, s)
  else
    let (i, l) := l.add w
    let (stopped, l, s) := await b (.task i) w.rounds l s
    match l.outcome? i with
    | some outcome => (.ok outcome, l, s)
    | none => (.error (notOver stopped), l, s)

/-- The rounds that cancelled tasks take: one for the tasks, one to collect them, one to halt. -/
def cancelRounds : Nat := 3

/-- Cancels all tasks that are not over and runs the loop until they are, at most so many rounds. -/
def cancelAll (limit : Nat) (l : Loop J C V) (s : σ) : Except Fault Unit × Loop J C V × σ :=
  let members := l.numbers Task.isOpen
  if members.isEmpty then (.ok (), l, s)
  else
    let l := members.foldl cancel l.groupOpen
    let (stopped, l, s) := await b (.group l.groups) limit l s
    (if stopped && l.outstanding == 0 then .ok () else .error (notOver stopped), l, s)

/-- Closes the loop, once its tasks are over; they have so many rounds for it. A loop that is closed stays
as it is. -/
def closeWithin (limit : Nat) (l : Loop J C V) (s : σ) : Except Fault Unit × Loop J C V × σ :=
  if l.closed then (.ok (), l, s)
  else
    match cancelAll b limit l s with
    | (.error fault, l, s) => (.error fault, l, s)
    | (.ok (), l, s) =>
      match complete b (.turns 0 b.nothing) l s with
      | (.error fault, l, s) => (.error fault, l, s)
      | (.ok _, l, s) => (.ok (), l.shut, s)

/-- Closes the loop, with the rounds that tasks need which are over once they are cancelled. -/
def close (l : Loop J C V) (s : σ) : Except Fault Unit × Loop J C V × σ :=
  closeWithin b cancelRounds l s

theorem run_of_closed {l : Loop J C V} (h : l.closed = true) (limit : Nat) (s : σ) :
    run b limit l s = (.error .closed, l, s) := by
  simp [run, h]

theorem complete_of_closed {l : Loop J C V} (h : l.closed = true) (w : Work J V) (s : σ) :
    complete b w l s = (.error .closed, l, s) := by
  simp [complete, h]

theorem closeWithin_of_closed {l : Loop J C V} (h : l.closed = true) (limit : Nat) (s : σ) :
    closeWithin b limit l s = (.ok (), l, s) := by
  simp [closeWithin, h]

end MessageBus.Loop
