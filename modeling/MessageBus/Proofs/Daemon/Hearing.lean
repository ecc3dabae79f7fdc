import MessageBus.Daemon
import MessageBus.Proofs.Loop.Entries
/-!
How the loop of a daemon hears signals. Each signal brings one wish, in the order in which the signals
come, and the first one brings the loop to a halt. No work on the loop is lost over that.
-/
namespace MessageBus.Daemon

/-- The loop of a bus. -/
abbrev BusLoop := Loop Traffic.Job Traffic.Callback Traffic.Outcome

/-- What a round runs where there are neither tasks nor connections. -/
def IsLight : Loop.Entry Traffic.Callback → Prop
  | .halt | .readPipe | .call (.wish _) => True
  | .resume _ | .collect _ | .call (.letGo _) => False

/-- The wishes that entries bring. -/
def wishesIn (entries : List (Loop.Entry Traffic.Callback)) : List Wish :=
  entries.filterMap fun
    | .call (.wish wish) => some wish
    | _ => none

/-- The wishes of signals that were not read yet. -/
def unread (l : BusLoop) : List Wish := (l.delivered ++ l.coming.flatten).map wishOf

/-- The wishes that the daemon did not hear yet. -/
def pending (l : BusLoop) : List Wish := wishesIn l.ready ++ unread l

/-- Each signal is told to the daemon. -/
def Heeds (l : BusLoop) : Prop := ∀ s, l.handlers.lookup s = some (.wish (wishOf s))

/-- A loop between two runs: it is open, its tasks are over, and nothing but signals is left to do. -/
structure Calm (l : BusLoop) : Prop where
  opened : l.closed = false
  heeds : Heeds l
  finished : ∀ t ∈ l.tasks, t.isOpen = false
  light : ∀ e ∈ l.ready, IsLight e

variable {l l' : BusLoop} {t t' : Traffic} {e : Loop.Entry Traffic.Callback} {heard more : List Wish}
  {entries : List (Loop.Entry Traffic.Callback)} {signals : List Signal} {wish : Wish}
  {tasks : List (Loop.Task Traffic.Job Traffic.Outcome)}

@[simp] theorem wishesIn_nil : wishesIn [] = [] := rfl

@[simp] theorem wishesIn_append (es fs : List (Loop.Entry Traffic.Callback)) :
    wishesIn (es ++ fs) = wishesIn es ++ wishesIn fs := List.filterMap_append

theorem wishesIn_cons (e : Loop.Entry Traffic.Callback)
    (es : List (Loop.Entry Traffic.Callback)) :
    wishesIn (e :: es) = wishesIn [e] ++ wishesIn es := wishesIn_append [e] es

/-- The callbacks that a loop which heeds all signals queues for some of them. -/
theorem calls_of_heeds (hh : Heeds l) (signals : List Signal) :
    (signals.filterMap (l.handlers.lookup ·)).map Loop.Entry.call =
      signals.map fun s => .call (.wish (wishOf s)) := by
  induction signals with
  | nil => rfl
  | cons s signals ih => simp [hh s, ih]

theorem wishesIn_calls (signals : List Signal) :
    wishesIn (signals.map fun s => .call (.wish (wishOf s))) = signals.map wishOf := by
  induction signals with
  | nil => rfl
  | cons s signals ih =>
    rw [List.map_cons, wishesIn_cons, ih]
    rfl

/-- Entries were run in a round: some wishes were heard, and what was queued is behind what was there. -/
structure Moves (l : BusLoop) (t : Traffic) (heard : List Wish) (l' : BusLoop) (t' : Traffic) :
    Prop where
  traffic : t' = { t with wishes := t.wishes ++ heard }
  closed : l'.closed = l.closed
  handlers : l'.handlers = l.handlers
  tasks : l'.tasks = l.tasks
  awaited : l'.awaited = l.awaited
  queued : ∃ more, l'.ready = l.ready ++ more ∧ ∀ e ∈ more, IsLight e
  pending : pending l' = pending l
  stopping : l.stopping = true → l'.stopping = true

theorem Moves.refl (l : BusLoop) (t : Traffic) : Moves l t [] l t where
  traffic := by simp
  closed := rfl
  handlers := rfl
  tasks := rfl
  awaited := rfl
  queued := ⟨[], by simp, by simp⟩
  pending := rfl
  stopping := id

theorem Moves.trans {l₁ : BusLoop} {t₁ : Traffic} (h : Moves l t heard l₁ t₁)
    (h' : Moves l₁ t₁ more l' t') : Moves l t (heard ++ more) l' t' := by
  obtain ⟨es, hes, hlight⟩ := h.queued
  obtain ⟨fs, hfs, hlight'⟩ := h'.queued
  constructor
  · rw [h'.traffic, h.traffic]
    simp
  · rw [h'.closed, h.closed]
  · rw [h'.handlers, h.handlers]
  · rw [h'.tasks, h.tasks]
  · rw [h'.awaited, h.awaited]
  · refine ⟨es ++ fs, by rw [hfs, hes, List.append_assoc], fun e he => ?_⟩
    obtain he | he := List.mem_append.1 he
    · exact hlight e he
    · exact hlight' e he
  · rw [h'.pending, h.pending]
  · exact fun hstopping => h'.stopping (h.stopping hstopping)

theorem Moves.heeds (h : Moves l t heard l' t') (hh : Heeds l) : Heeds l' := by
  intro s
  rw [h.handlers]
  exact hh s

theorem moves_halt (l : BusLoop) (t : Traffic) : Moves l t [] { l with stopping := true } t :=
  { Moves.refl l t with pending := rfl, stopping := fun _ => rfl }

theorem moves_readPipe (hh : Heeds l) (t : Traffic) : Moves l t [] l.readPipe t := by
  refine { Moves.refl l t with queued := ⟨_, rfl, ?_⟩, pending := ?_ }
  · intro e he
    rw [calls_of_heeds hh] at he
    obtain ⟨s, -, rfl⟩ := List.mem_map.1 he
    trivial
  · simp [pending, unread, Loop.readPipe, calls_of_heeds hh, wishesIn_calls]

theorem moves_requestStop (l : BusLoop) (t : Traffic) (wish : Wish) :
    Moves l t [wish] l.requestStop { t with wishes := t.wishes ++ [wish] } := by
  unfold Loop.requestStop
  split
  · exact { Moves.refl l t with traffic := rfl }
  · split
    · exact { Moves.refl l t with traffic := rfl, pending := rfl }
    · refine { Moves.refl l t with traffic := rfl, queued := ⟨[.halt], rfl, ?_⟩, pending := ?_ }
      · simp [IsLight]
      · simp [pending, unread, Loop.push, wishesIn]

/-- One entry is run. -/
theorem perform_moves (hh : Heeds l) (he : IsLight e)
    (h : Loop.perform Traffic.behaviour (l, t) e = (l', t')) : Moves l t (wishesIn [e]) l' t' := by
  cases e with
  | halt =>
    cases h
    exact moves_halt l t
  | readPipe =>
    cases h
    exact moves_readPipe hh t
  | call c =>
    cases c with
    | wish wish =>
      cases h
      exact moves_requestStop l t wish
    | letGo i => exact he.elim
  | resume i => exact he.elim
  | collect g => exact he.elim

theorem perform_all_moves (hh : Heeds l) (he : ∀ e ∈ entries, IsLight e)
    (h : entries.foldl (Loop.perform Traffic.behaviour) (l, t) = (l', t')) :
    Moves l t (wishesIn entries) l' t' := by
  induction entries generalizing l t with
  | nil =>
    cases h
    exact .refl _ _
  | cons e entries ih =>
    rcases hfirst : Loop.perform Traffic.behaviour (l, t) e with ⟨l₁, t₁⟩
    rw [List.foldl_cons, hfirst] at h
    have hmoves := perform_moves hh (he e (.head _)) hfirst
    rw [wishesIn_cons]
    exact hmoves.trans (ih (hmoves.heeds hh) (fun e h => he e (.tail _ h)) h)

/-! ### Rounds and runs -/

/-- What happened on the loop until it is calm again: wishes were heard in the order in which they
came. -/
structure Passes (l : BusLoop) (t : Traffic) (l' : BusLoop) (t' : Traffic) : Prop where
  calm : Calm l'
  heard : ∃ heard, t' = { t with wishes := t.wishes ++ heard } ∧ pending l = heard ++ pending l'

theorem Passes.refl (hc : Calm l) (t : Traffic) : Passes l t l t := ⟨hc, [], by simp, rfl⟩

theorem Passes.trans {l₁ : BusLoop} {t₁ : Traffic} (h : Passes l t l₁ t₁) (h' : Passes l₁ t₁ l' t') :
    Passes l t l' t' := by
  obtain ⟨heard, rfl, hpending⟩ := h.heard
  obtain ⟨more, rfl, hpending'⟩ := h'.heard
  exact ⟨h'.calm, heard ++ more, by simp, by rw [hpending, hpending', List.append_assoc]⟩

/-- The loop as a round begins to run what was ready. -/
def begun (l : BusLoop) : BusLoop := { l.receive with ready := [] }

/-- Signals arrive as a round begins: none is lost, and the rest of the loop is as it was. -/
theorem begun_eq (l : BusLoop) : ∃ delivered coming,
    begun l = { l with ready := [], delivered := delivered, coming := coming } ∧
    delivered ++ coming.flatten = l.delivered ++ l.coming.flatten := by
  obtain ⟨delivered, coming, hreceive, hsignals⟩ := Loop.receive_eq l
  exact ⟨delivered, coming, by rw [begun, hreceive], hsignals⟩

theorem begun_heeds (hh : Heeds l) : Heeds (begun l) := by
  obtain ⟨delivered, coming, hbegun, -⟩ := begun_eq l
  rw [hbegun]
  exact hh

theorem pending_begun (l : BusLoop) : pending (begun l) = unread l := by
  obtain ⟨delivered, coming, hbegun, hunread⟩ := begun_eq l
  rw [hbegun]
  simp only [pending, unread, hunread, wishesIn_nil, List.nil_append]

/-- A round runs the entries that are ready, and the pipe behind them. -/
theorem round_eq (l : BusLoop) (t : Traffic) : ∃ pipe, (∀ e ∈ pipe, IsLight e) ∧ wishesIn pipe = [] ∧
    Loop.round Traffic.behaviour l t =
      (l.ready ++ pipe).foldl (Loop.perform Traffic.behaviour) (begun l, t) := by
  obtain ⟨pipe, hpipe, hagenda⟩ := Loop.agenda_eq l.receive
  obtain ⟨delivered, coming, hreceive, -⟩ := Loop.receive_eq l
  have hready : l.receive.ready = l.ready := by rw [hreceive]
  have hround : Loop.round Traffic.behaviour l t =
      l.receive.agenda.foldl (Loop.perform Traffic.behaviour) (begun l, t) := rfl
  refine ⟨pipe, ?_, ?_, by rw [hround, hagenda, hready]⟩
  · obtain rfl | rfl := hpipe <;> simp [IsLight]
  · obtain rfl | rfl := hpipe <;> rfl

theorem light_all (hc : Calm l) {pipe : List (Loop.Entry Traffic.Callback)}
    (hpipe : ∀ e ∈ pipe, IsLight e) : ∀ e ∈ l.ready ++ pipe, IsLight e := by
  intro e he
  obtain he | he := List.mem_append.1 he
  · exact hc.light e he
  · exact hpipe e he

/-- What was ready is run, and then the loop is calm again. -/
theorem round_calm (hc : Calm l) (h : Loop.round Traffic.behaviour l t = (l', t')) :
    Passes l t l' t' ∧ l'.tasks = l.tasks := by
  obtain ⟨delivered, coming, hbegun, -⟩ := begun_eq l
  obtain ⟨pipe, hpipe, hnone, hround⟩ := round_eq l t
  have hlight := light_all hc hpipe
  rw [hround] at h
  have hmoves := perform_all_moves (begun_heeds hc.heeds) hlight h
  rw [wishesIn_append, hnone, List.append_nil] at hmoves
  have htasks : l'.tasks = l.tasks := by rw [hmoves.tasks, hbegun]
  obtain ⟨more, hqueued, hmore⟩ := hmoves.queued
  refine ⟨⟨⟨?_, hmoves.heeds (begun_heeds hc.heeds), ?_, ?_⟩, _, hmoves.traffic, ?_⟩, htasks⟩
  · rw [hmoves.closed, hbegun]
    exact hc.opened
  · rw [htasks]
    exact hc.finished
  · rw [hqueued, hbegun]
    exact hmore
  · rw [hmoves.pending, pending_begun]
    rfl

theorem rounds_calm {limit : Nat} (hc : Calm l)
    (h : Loop.rounds Traffic.behaviour limit l t = (l', t')) :
    Passes l t l' t' ∧ l'.tasks = l.tasks := by
  induction limit generalizing l t with
  | zero =>
    cases h
    exact ⟨.refl hc _, rfl⟩
  | succ limit ih =>
    rcases hround : Loop.round Traffic.behaviour l t with ⟨l₁, t₁⟩
    obtain ⟨hpasses, htasks⟩ := round_calm hc hround
    simp only [Loop.rounds, hround] at h
    split at h
    · cases h
      exact ⟨hpasses, htasks⟩
    · obtain ⟨hrest, hsame⟩ := ih hpasses.calm h
      exact ⟨hpasses.trans hrest, hsame.trans htasks⟩

/-- Whether a loop is to stop, and what it waits for, does not matter for being calm. -/
theorem Calm.turned (hc : Calm l) (stopping : Bool) (awaited : Loop.Awaited) :
    Calm { l with stopping := stopping, awaited := awaited } :=
  ⟨hc.opened, hc.heeds, hc.finished, hc.light⟩

theorem run_calm {limit : Nat} (hc : Calm l) {r : Except Loop.Fault Loop.RunEnd}
    (h : l.run Traffic.behaviour limit t = (r, l', t')) : Passes l t l' t' ∧ ∃ ending, r = .ok ending := by
  rcases hrounds : Loop.rounds Traffic.behaviour limit l t with ⟨l₁, t₁⟩
  obtain ⟨⟨hcalm, hheard⟩, -⟩ := rounds_calm hc hrounds
  have hspin : Loop.spin Traffic.behaviour limit l t = (l₁.stopping, { l₁ with stopping := false }, t₁) := by
    rw [Loop.spin, hrounds]
  rw [Loop.run, hc.opened, hspin] at h
  cases h
  exact ⟨⟨hcalm.turned false l₁.awaited, hheard⟩, _, rfl⟩

/-! ### Work -/

/-- Work of the bus that is over at its first turn. -/
inductive AtOnce : Loop.Work Traffic.Job Traffic.Outcome → Prop
  | closeAll : AtOnce (.job .closeAll)
  | nothing : AtOnce (.turns 0 (.ok ()))

/-- A task that did its work. -/
def done (work : Loop.Work Traffic.Job Traffic.Outcome) : Loop.Task Traffic.Job Traffic.Outcome :=
  { Loop.Task.new work with phase := .ended (.ok ()), started := true }

/-- The turn of work that is awaited: it is over, and halts the loop. -/
theorem perform_resume {work : Loop.Work Traffic.Job Traffic.Outcome} (hw : AtOnce work)
    (hnone : t.connections = []) (htasks : l.tasks = tasks ++ [.new work])
    (hawaited : l.awaited = .task tasks.length) :
    Loop.perform Traffic.behaviour (l, t) (.resume tasks.length) =
      ({ l with tasks := tasks ++ [done work], ready := l.ready ++ [.halt] }, t) := by
  obtain ⟨log, connections, wishes⟩ := t
  obtain rfl : connections = [] := hnone
  cases hw <;>
    simp [Loop.perform, Loop.resume, Loop.Task.new, Loop.Task.isOpen, Loop.finish, Loop.setTask,
      Loop.announceEnd, hawaited, htasks, done, Loop.push, Traffic.behaviour, Traffic.advance,
      Traffic.closeAll]

/-- The loop with work to do that is awaited. -/
def employed (work : Loop.Work Traffic.Job Traffic.Outcome) (l : BusLoop) : BusLoop :=
  { l with
    ready := l.ready ++ [.resume l.tasks.length]
    tasks := l.tasks ++ [.new work]
    awaited := .task l.tasks.length }

/-- The first round of work. Whatever else is ready, the work is over after it. -/
theorem round_employed {work : Loop.Work Traffic.Job Traffic.Outcome} (hw : AtOnce work) (hc : Calm l)
    (hnone : t.connections = [])
    (h : Loop.round Traffic.behaviour (employed work l) t = (l', t')) :
    Passes l t l' t' ∧ l'.tasks = l.tasks ++ [done work] := by
  obtain ⟨delivered, coming, hbegun, -⟩ := begun_eq (employed work l)
  obtain ⟨pipe, hpipe, hnothing, hround⟩ := round_eq (employed work l) t
  have hheeds : Heeds (begun (employed work l)) := begun_heeds hc.heeds
  rw [hround, employed, List.append_assoc, List.foldl_append, ← employed, List.singleton_append,
    List.foldl_cons] at h
  -- what was ready before the work leaves it as it is
  rcases hready : l.ready.foldl (Loop.perform Traffic.behaviour) (begun (employed work l), t) with
    ⟨l₁, t₁⟩
  have hbefore := perform_all_moves hheeds hc.light hready
  have hconnections : t₁.connections = [] := by rw [hbefore.traffic, hnone]
  have htasks : l₁.tasks = l.tasks ++ [.new work] := by rw [hbefore.tasks, hbegun, employed]
  have hawaited : l₁.awaited = .task l.tasks.length := by rw [hbefore.awaited, hbegun, employed]
  rw [hready, perform_resume hw hconnections htasks hawaited] at h
  have hafter := perform_all_moves (l := { l₁ with
    tasks := l.tasks ++ [done work], ready := l₁.ready ++ [.halt] }) (hbefore.heeds hheeds) hpipe h
  obtain ⟨more, hqueued, hmore⟩ := hbefore.queued
  obtain ⟨last, hlast, hlight⟩ := hafter.queued
  rw [hnothing] at hafter
  refine ⟨⟨⟨?_, ?_, ?_, ?_⟩, wishesIn l.ready, ?_, ?_⟩, hafter.tasks⟩
  · rw [hafter.closed]
    dsimp only
    rw [hbefore.closed, hbegun, employed, hc.opened]
  · exact hafter.heeds (hbefore.heeds hheeds)
  · intro task htask
    rw [hafter.tasks] at htask
    obtain htask | htask := List.mem_append.1 htask
    · exact hc.finished task htask
    · obtain rfl := List.mem_singleton.1 htask
      rfl
  · intro e he
    rw [hlast, hqueued, hbegun] at he
    simp only [List.nil_append, List.append_assoc, List.mem_append, List.mem_singleton] at he
    obtain he | rfl | he := he
    · exact hmore e he
    · trivial
    · exact hlight e he
  · rw [hafter.traffic, hbefore.traffic]
    simp
  · have hrest : pending l' = unread l := by
      have hhalt : pending { l₁ with tasks := l.tasks ++ [done work], ready := l₁.ready ++ [.halt] } =
          pending l₁ := by simp [pending, unread, wishesIn]
      rw [hafter.pending, hhalt, hbefore.pending, pending_begun]
      rfl
    rw [hrest, pending]

theorem rounds_employed {work : Loop.Work Traffic.Job Traffic.Outcome} (hw : AtOnce work)
    (hc : Calm l) (hnone : t.connections = []) (limit : Nat)
    (h : Loop.rounds Traffic.behaviour (limit + 1) (employed work l) t = (l', t')) :
    Passes l t l' t' ∧ l'.tasks = l.tasks ++ [done work] := by
  rcases hround : Loop.round Traffic.behaviour (employed work l) t with ⟨l₁, t₁⟩
  obtain ⟨hpasses, htasks⟩ := round_employed hw hc hnone hround
  simp only [Loop.rounds, hround] at h
  split at h
  · cases h
    exact ⟨hpasses, htasks⟩
  · obtain ⟨hrest, hsame⟩ := rounds_calm hpasses.calm h
    exact ⟨hpasses.trans hrest, hsame.trans htasks⟩

/-- Work that is over at its first turn is completed on a calm loop, even if a halt is pending. -/
theorem complete_calm {work : Loop.Work Traffic.Job Traffic.Outcome} (hw : AtOnce work) (hc : Calm l)
    (hnone : t.connections = []) :
    ∃ l' t', l.complete Traffic.behaviour work t = (.ok (.ok ()), l', t') ∧ Passes l t l' t' := by
  rcases hrounds : Loop.rounds Traffic.behaviour 2 (employed work l) t with ⟨l₁, t₁⟩
  obtain ⟨⟨hcalm, hheard⟩, htasks⟩ := rounds_employed hw hc hnone 1 hrounds
  have hlimit : work.rounds = 2 := by cases hw <;> rfl
  have hawait : Loop.await Traffic.behaviour (.task l.tasks.length) work.rounds (l.add work).2 t =
      (l₁.stopping, { l₁ with stopping := false, awaited := .nothing }, t₁) := by
    have hspin : Loop.spin Traffic.behaviour 2 (employed work l) t =
        (l₁.stopping, { l₁ with stopping := false }, t₁) := by rw [Loop.spin, hrounds]
    rw [hlimit, Loop.await]
    exact congrArg (fun x : Bool × BusLoop × Traffic =>
      (x.1, { x.2.1 with awaited := Loop.Awaited.nothing }, x.2.2)) hspin
  have hover : Loop.outcome? { l₁ with stopping := false, awaited := .nothing } l.tasks.length =
      some (.ok ()) := by
    simp [Loop.outcome?, htasks, done]
  refine ⟨{ l₁ with stopping := false, awaited := .nothing }, t₁, ?_, hcalm.turned _ _, hheard⟩
  rw [Loop.complete, if_neg (by simp [hc.opened])]
  simp only [show (l.add work).1 = l.tasks.length from rfl, hawait, hover]

theorem numbers_isOpen (hc : Calm l) : l.numbers Loop.Task.isOpen = [] := by
  unfold Loop.numbers
  rw [List.filter_eq_nil_iff]
  intro i _
  cases htask : l.tasks[i]? with
  | none => simp
  | some task => simpa using hc.finished task (List.mem_of_getElem? htask)

/-- A calm loop is closed. What was not heard by then is lost. -/
theorem close_calm (hc : Calm l) (hnone : t.connections = []) (limit : Nat) :
    ∃ l' heard, l.closeWithin Traffic.behaviour limit t =
        (.ok (), l', { t with wishes := t.wishes ++ heard }) ∧
      l'.closed = true ∧ heard <+: pending l := by
  obtain ⟨l₁, t₁, hcomplete, -, heard, rfl, hpending⟩ := complete_calm .nothing hc hnone
  refine ⟨l₁.shut, heard, ?_, rfl, _, hpending.symm⟩
  have hcancel : l.cancelAll Traffic.behaviour limit t = (.ok (), l, t) := by
    simp [Loop.cancelAll, numbers_isOpen hc]
  rw [Loop.closeWithin, if_neg (by simp [hc.opened]), hcancel]
  simp only [show Traffic.behaviour.nothing = .ok () from rfl, hcomplete]

/-! ### The halt -/

/-- A sleeping loop is woken by the first signals that come, and reads them. -/
theorem round_reads (hc : Calm l) (hidle : l.isIdle = true) (hcoming : l.coming.flatten ≠ [])
    (h : Loop.round Traffic.behaviour l t = (l', t')) :
    l'.stopRequested = l.stopRequested ∧ ∃ c rest, l'.ready = .call c :: rest := by
  obtain ⟨⟨hready, hwoken⟩, hdelivered⟩ : (l.ready = [] ∧ l.woken = false) ∧ l.delivered = [] := by
    simpa [Loop.isIdle] using hidle
  cases hdrop : l.coming.dropWhile (·.isEmpty) with
  | nil =>
    have hnone := Loop.flatten_dropWhile_isEmpty l.coming
    rw [hdrop] at hnone
    exact absurd hnone.symm hcoming
  | cons signals later =>
    have hsome := List.head?_dropWhile_not (·.isEmpty) l.coming
    rw [hdrop] at hsome
    cases signals with
    | nil => simp at hsome
    | cons s signals =>
      have hreceive : l.receive = { l with delivered := s :: signals, coming := later } := by
        simp [Loop.receive, hidle, hdrop, hdelivered]
      rw [Loop.round, hreceive] at h
      simp only [Loop.agenda, hready, hwoken, List.isEmpty_cons, Bool.not_false, Bool.or_true, if_true,
        List.nil_append, List.foldl_cons, List.foldl_nil, Loop.perform] at h
      cases h
      refine ⟨rfl, .wish (wishOf s), (signals.filterMap (l.handlers.lookup ·)).map .call, ?_⟩
      simp [Loop.readPipe, hc.heeds s]

/-- The first callback of a round asks for a halt. -/
theorem round_asks (hc : Calm l) (hrequested : l.stopRequested = false) {c : Traffic.Callback}
    {rest : List (Loop.Entry Traffic.Callback)} (hready : l.ready = .call c :: rest)
    (h : Loop.round Traffic.behaviour l t = (l', t')) : .halt ∈ l'.ready := by
  obtain ⟨delivered, coming, hbegun, -⟩ := begun_eq l
  obtain ⟨pipe, hpipe, -, hround⟩ := round_eq l t
  have hlight := light_all hc hpipe
  rw [hready] at hlight
  rw [hround, hready, List.cons_append, List.foldl_cons] at h
  rcases hfirst : Loop.perform Traffic.behaviour (begun l, t) (.call c) with ⟨l₁, t₁⟩
  rw [hfirst] at h
  have hmoves := perform_moves (begun_heeds hc.heeds) (hlight _ (.head _)) hfirst
  have hasked : l₁.ready = [.halt] := by
    cases c with
    | wish wish =>
      obtain ⟨rfl, -⟩ := Prod.ext_iff.1 hfirst
      rw [hbegun]
      simp [Loop.perform, Traffic.behaviour, Traffic.call, Loop.serveRequest, Loop.requestStop,
        hrequested, hc.opened, Loop.push]
    | letGo i => exact (hlight _ (.head _)).elim
  obtain ⟨more, hqueued, -⟩ := (perform_all_moves (hmoves.heeds (begun_heeds hc.heeds))
    (fun e he => hlight e (.tail _ he)) h).queued
  rw [hqueued, hasked]
  exact .head _

/-- A halt that is ready stops the loop at the end of the round. -/
theorem round_halts (hc : Calm l) (hhalt : .halt ∈ l.ready)
    (h : Loop.round Traffic.behaviour l t = (l', t')) : l'.stopping = true := by
  obtain ⟨pipe, hpipe, -, hround⟩ := round_eq l t
  have hlight := light_all hc hpipe
  obtain ⟨before, rest, hready⟩ := List.append_of_mem hhalt
  rw [hready, List.append_assoc, List.cons_append] at hlight
  rw [hround, hready, List.append_assoc, List.cons_append, List.foldl_append, List.foldl_cons] at h
  rcases hbefore : before.foldl (Loop.perform Traffic.behaviour) (begun l, t) with ⟨l₁, t₁⟩
  have hmoves := perform_all_moves (begun_heeds hc.heeds)
    (fun e he => hlight e (List.mem_append_left _ he)) hbefore
  rw [hbefore] at h
  have hrest := perform_all_moves (l := { l₁ with stopping := true })
    (hmoves.heeds (begun_heeds hc.heeds))
    (fun e he => hlight e (List.mem_append_right _ (.tail _ he))) h
  exact hrest.stopping rfl

/-- A sleeping loop that was not asked to stop yet ends with the signals that come. The rounds are one to
read them, one to run their callbacks, and one to halt. -/
theorem run_stops (hc : Calm l) (hidle : l.isIdle = true) (hrequested : l.stopRequested = false)
    (hcoming : l.coming.flatten ≠ []) (limit : Nat) :
    ∃ l' t', l.run Traffic.behaviour (limit + 3) t = (.ok .stopped, l', t') := by
  have hstops : (Loop.rounds Traffic.behaviour (limit + 3) l t).1.stopping = true := by
    rcases hread : Loop.round Traffic.behaviour l t with ⟨l₁, t₁⟩
    obtain ⟨⟨hc₁, -⟩, -⟩ := round_calm hc hread
    obtain ⟨hsame, c, rest, hready⟩ := round_reads hc hidle hcoming hread
    rcases hask : Loop.round Traffic.behaviour l₁ t₁ with ⟨l₂, t₂⟩
    obtain ⟨⟨hc₂, -⟩, -⟩ := round_calm hc₁ hask
    have hhalt := round_asks hc₁ (hsame.trans hrequested) hready hask
    rcases hend : Loop.round Traffic.behaviour l₂ t₂ with ⟨l₃, t₃⟩
    have hstopping := round_halts hc₂ hhalt hend
    simp only [Loop.rounds, hread, hask, hend, hstopping, if_true]
    split
    · assumption
    · split
      · assumption
      · exact hstopping
  rw [Loop.run, if_neg (by simp [hc.opened])]
  simp only [Loop.spin, hstops, if_true]
  exact ⟨_, _, rfl⟩

end MessageBus.Daemon
