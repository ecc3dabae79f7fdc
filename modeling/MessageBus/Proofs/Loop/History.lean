import MessageBus.Loop.Tagged
import MessageBus.Proofs.Loop.Driving
/-!
The history of a loop: what is done with it from outside, one thing after the other. Main statements: a
stop ends at most one thing, and a loop that was asked to stop does so in the first round of its next run
unless its one stop was taken before.
-/
namespace MessageBus.Loop

/-- What is done with a loop. Runs and closing are given the rounds that they may take. -/
inductive Operation (J C V : Type)
  | requestStop
  | queue (callback : C)
  | spawn (work : Work J V)
  | onSignal (signal : Signal) (callback : C)
  | offSignal (signal : Signal)
  | deliver (signal : Signal)
  | expect (coming : List (List Signal))
  | openGate (gate : Nat)
  | run (limit : Nat)
  | complete (turns : Nat) (outcome : V)
  | close (limit : Nat)

/-- What an operation answers if it does not fail. -/
inductive Reply (V : Type)
  | done
  | ran (ending : RunEnd)
  | completed (outcome : V)

abbrev Answer (V : Type) := Except Fault (Reply V)

/-- The answer tells of an end by a stop. -/
def endsByStop {V : Type} : Answer V → Bool
  | .ok (.ran .stopped) | .error .stoppedEarly => true
  | _ => false

variable {σ J C V : Type}

/-- An operation that takes no rounds, on a loop that is closed or not. -/
def given (l : Loop J C V) (s : σ) : Except Fault (Loop J C V) → Answer V × Loop J C V × σ
  | .ok l' => (.ok .done, l', s)
  | .error fault => (.error fault, l, s)

def carryOut (b : Behaviour σ J C V) (op : Operation J C V) (l : Loop J C V) (s : σ) :
    Answer V × Loop J C V × σ :=
  match op with
  | .requestStop => (.ok .done, l.requestStop, s)
  | .queue c => given l s (l.queue c)
  | .spawn w => given l s ((l.spawn w).map (·.2))
  | .onSignal signal c => given l s (l.onSignal signal c)
  | .offSignal signal => (.ok .done, (l.offSignal signal).2, s)
  | .deliver signal => (.ok .done, l.deliver signal, s)
  | .expect coming => (.ok .done, { l with coming := coming }, s)
  | .openGate gate => (.ok .done, l.openGate gate, s)
  | .run limit =>
    let (ending, l, s) := run b limit l s
    (ending.map .ran, l, s)
  | .complete turns outcome =>
    let (outcome, l, s) := complete b (.turns turns outcome) l s
    (outcome.map .completed, l, s)
  | .close limit =>
    let (result, l, s) := closeWithin b limit l s
    (result.map fun _ => .done, l, s)

/-- Carries out operations in order. -/
def carryOutAll (b : Behaviour σ J C V) : List (Operation J C V) → Loop J C V → σ →
    List (Answer V) × Loop J C V × σ
  | [], l, s => ([], l, s)
  | op :: ops, l, s =>
    let (answer, l, s) := carryOut b op l s
    let (answers, l, s) := carryOutAll b ops l s
    (answer :: answers, l, s)

/-- The operation takes the one stop of the loop: it is ended by it, or it is work that ends in the very
round in which the stop is asked for. -/
def takes (b : Behaviour σ J C V) (op : Operation J C V) (l : Loop J C V) (s : σ) : Bool :=
  endsByStop (carryOut b op l s).1 ||
    match op with
    | .complete turns outcome => !l.closed && swallows b (.turns turns outcome) l s
    | _ => false

/-- How many of the operations take a stop. -/
def taken (b : Behaviour σ J C V) : List (Operation J C V) → Loop J C V → σ → Nat
  | [], _, _ => 0
  | op :: ops, l, s => (takes b op l s).toNat + taken b ops (carryOut b op l s).2.1 (carryOut b op l s).2.2

/-- The account of a loop between two operations, whether it is closed or not. -/
structure Kept (n : Nat) (l : Loop J C V) : Prop where
  asked : n ≤ l.stopRequested.toNat
  resting : l.closed = false → Resting n l

variable {b : Behaviour σ J C V} {l : Loop J C V} {s' : σ} {answers : List (Answer V)} {n : Nat}

theorem Resting.kept (h : Resting n l) : Kept n l := ⟨h.taken_le, fun _ => h⟩

theorem Resting.serveRequest (h : Resting n l) (r : Request C) : Resting n (l.serveRequest r) where
  toSound := h.toSound.serveRequest r
  idle := (ran_serveRequest l r).awaited.trans h.idle
  still := (ran_serveRequest l r).stopping.trans (by simp [h.still])

/-- A loop that is closed stays so, and takes nothing. -/
theorem carryOut_closed (hclosed : l.closed = true) (op : Operation J C V) (s : σ) :
    takes b op l s = false ∧ (carryOut b op l s).2.1.closed = true ∧
      l.stopRequested.toNat ≤ (carryOut b op l s).2.1.stopRequested.toNat := by
  cases op with
  | requestStop =>
    have hran := ran_requestStop l
    exact ⟨rfl, hran.closed.trans hclosed, hran.requested_le⟩
  | queue c => simp [takes, carryOut, queue, hclosed, given, endsByStop]
  | spawn w => simp [takes, carryOut, spawn, hclosed, given, endsByStop, Except.map]
  | onSignal signal c => simp [takes, carryOut, onSignal, hclosed, given, endsByStop]
  | offSignal signal => exact ⟨rfl, hclosed, Nat.le_refl _⟩
  | deliver signal => exact ⟨rfl, hclosed, Nat.le_refl _⟩
  | expect coming => exact ⟨rfl, hclosed, Nat.le_refl _⟩
  | openGate gate =>
    have hran := ran_openGate l gate
    exact ⟨rfl, hran.closed.trans hclosed, hran.requested_le⟩
  | run limit => simp [takes, carryOut, run_of_closed, hclosed, endsByStop, Except.map]
  | complete turns outcome => simp [takes, carryOut, complete_of_closed, hclosed, endsByStop, Except.map]
  | close limit => simp [takes, carryOut, closeWithin_of_closed, hclosed, endsByStop, Except.map]

theorem Resting.carryOut (h : Resting n l) (op : Operation J C V) (s : σ)
    (hreturns : (Loop.carryOut b op l s).1 ≠ .error .unfinished) :
    Kept (n + (takes b op l s).toNat) (Loop.carryOut b op l s).2.1 := by
  cases op with
  | requestStop => exact (h.serveRequest .stop).kept
  | queue c =>
    have hresting : Resting n (l.push (.call c)) := { h with toSound := h.toSound.push rfl (by simp) }
    simpa [takes, Loop.carryOut, queue, h.opened, given, endsByStop] using hresting.kept
  | spawn w =>
    have hresting := h.add w
    simpa [takes, Loop.carryOut, spawn, h.opened, given, endsByStop, Except.map] using hresting.kept
  | onSignal signal c =>
    have hresting : Resting n { l with handlers := (signal, c) :: (l.withoutHandler signal).handlers } :=
      { h with }
    simpa [takes, Loop.carryOut, onSignal, h.opened, given, endsByStop] using hresting.kept
  | offSignal signal => exact (show Resting n (l.withoutHandler signal) from { h with }).kept
  | deliver signal => exact (h.serveRequest (.deliver signal)).kept
  | expect coming => exact (show Resting n { l with coming := coming } from { h with }).kept
  | openGate gate => exact (h.serveRequest (.openGate gate)).kept
  | run limit =>
    obtain ⟨ending, hanswer, hresting⟩ := h.run (b := b) limit s
    have htakes : takes b (.run limit) l s = decide (ending = .stopped) := by
      simp only [takes, Loop.carryOut, hanswer, Except.map, Bool.or_false]
      cases ending <;> rfl
    rw [htakes]
    cases ending <;> exact hresting.kept
  | complete turns outcome =>
    obtain ⟨hanswer, hresting⟩ | ⟨hanswer, -, hresting⟩ := h.complete (b := b) turns outcome s
    · have htakes : takes b (.complete turns outcome) l s = swallows b (.turns turns outcome) l s := by
        simp [takes, Loop.carryOut, hanswer, Except.map, endsByStop, h.opened]
      rw [htakes]
      exact hresting.kept
    · have htakes : takes b (.complete turns outcome) l s = true := by
        simp [takes, Loop.carryOut, hanswer, Except.map, endsByStop]
      rw [htakes]
      exact hresting.kept
  | close limit =>
    obtain hanswer | ⟨hanswer, l₁, m, hm, hresting, heq⟩ | ⟨hanswer, hresting⟩ :=
      h.closeWithin (b := b) limit s
    · simp [Loop.carryOut, hanswer, Except.map] at hreturns
    · have htakes : takes b (.close limit) l s = false := by
        simp [takes, Loop.carryOut, hanswer, Except.map, endsByStop]
      rw [htakes]
      refine ⟨?_, fun hopen => ?_⟩
      · simp only [Loop.carryOut, heq]
        exact Nat.le_trans hm hresting.taken_le
      · simp [Loop.carryOut, heq, shut] at hopen
    · have htakes : takes b (.close limit) l s = true := by
        simp [takes, Loop.carryOut, hanswer, Except.map, endsByStop]
      rw [htakes]
      exact hresting.kept

theorem Kept.carryOut (h : Kept n l) (op : Operation J C V) (s : σ)
    (hreturns : (Loop.carryOut b op l s).1 ≠ .error .unfinished) :
    Kept (n + (takes b op l s).toNat) (Loop.carryOut b op l s).2.1 := by
  cases hclosed : l.closed with
  | false => exact (h.resting hclosed).carryOut op s hreturns
  | true =>
    obtain ⟨htakes, hstays, hasked⟩ := carryOut_closed (b := b) hclosed op s
    rw [htakes]
    exact ⟨Nat.le_trans h.asked hasked, fun hopen => absurd (hstays.symm.trans hopen) (by simp)⟩

theorem carryOutAll_cons (op : Operation J C V) (ops : List (Operation J C V)) (l : Loop J C V) (s : σ) :
    carryOutAll b (op :: ops) l s =
      ((carryOut b op l s).1 :: (carryOutAll b ops (carryOut b op l s).2.1 (carryOut b op l s).2.2).1,
        (carryOutAll b ops (carryOut b op l s).2.1 (carryOut b op l s).2.2).2) := rfl

/-- Each end by a stop takes one, and the account holds after all operations. -/
theorem Kept.carryOutAll (h : Kept n l) (ops : List (Operation J C V)) (s : σ)
    (hreturns : .error .unfinished ∉ (Loop.carryOutAll b ops l s).1) :
    Kept (n + taken b ops l s) (Loop.carryOutAll b ops l s).2.1 ∧
      (Loop.carryOutAll b ops l s).1.countP endsByStop ≤ taken b ops l s := by
  induction ops generalizing n l s with
  | nil => exact ⟨h, Nat.le_refl _⟩
  | cons op ops ih =>
    rw [carryOutAll_cons] at hreturns ⊢
    simp only [List.mem_cons, not_or] at hreturns
    obtain ⟨hfirst, hrest⟩ := hreturns
    have hkept := h.carryOut (b := b) op s (Ne.symm hfirst)
    obtain ⟨hend, hcount⟩ := ih hkept _ hrest
    rw [taken, ← Nat.add_assoc]
    refine ⟨hend, ?_⟩
    have htakes : (endsByStop (Loop.carryOut b op l s).1).toNat ≤ (takes b op l s).toNat := by
      cases hends : endsByStop (Loop.carryOut b op l s).1 with
      | false => exact Nat.zero_le _
      | true => simp [takes, hends]
    rw [List.countP_cons]
    cases hends : endsByStop (Loop.carryOut b op l s).1 <;> simp [hends] at htakes ⊢ <;> omega

/-- A loop that was new, after operations that all returned. -/
theorem kept_of_new {ops : List (Operation J C V)} {s : σ}
    (hrun : carryOutAll b ops .empty s = (answers, l, s')) (hreturns : .error .unfinished ∉ answers) :
    Kept (taken b ops .empty s) l ∧ answers.countP endsByStop ≤ taken b ops .empty s := by
  have hall := resting_empty.kept.carryOutAll (b := b) ops s (by rw [hrun]; exact hreturns)
  rw [hrun, Nat.zero_add] at hall
  exact hall

/-- Whatever is done with a loop that is new, and returns, a stop ends at most one thing, and nothing if no
stop was asked for. Once it ended something, work that is awaited on the open loop has its own outcome. -/
theorem countP_endsByStop_le (ops : List (Operation J C V)) (s : σ)
    (hrun : carryOutAll b ops .empty s = (answers, l, s')) (hreturns : .error .unfinished ∉ answers) :
    answers.countP endsByStop ≤ 1 ∧
    (l.stopRequested = false → answers.countP endsByStop = 0) ∧
    (answers.countP endsByStop = 1 → l.closed = false →
      ∀ turns outcome, (complete b (.turns turns outcome) l s').1 = .ok outcome) := by
  obtain ⟨hkept, hcount⟩ := kept_of_new hrun hreturns
  have hasked := hkept.asked
  have hrequested := Bool.toNat_le l.stopRequested
  refine ⟨by omega, fun hnever => ?_, fun hone hopen turns outcome => ?_⟩
  · rw [hnever, Bool.toNat_false] at hasked
    omega
  · obtain ⟨hanswer, -⟩ | ⟨-, -, hresting⟩ := (hkept.resting hopen).complete (b := b) turns outcome s'
    · exact hanswer
    · -- a second stop would have been taken
      have htaken := hresting.taken_le
      have hbound := Bool.toNat_le (complete b (.turns turns outcome) l s').2.1.stopRequested
      omega

/-- The stop comes before work is over that gives way once; a later request ends nothing. -/
def earlyStop :
    List (Answer (Option Nat)) × Loop Tagged.Waiting Tagged.Callback (Option Nat) × List String :=
  carryOutAll (Tagged.behaviour Nat) [.requestStop, .complete 1 (some 7), .requestStop, .run 51] .empty []

theorem earlyStop_answers :
    earlyStop.1 = [.ok .done, .error .stoppedEarly, .ok .done, .ok (.ran .ranOut)] := rfl

theorem countP_endsByStop_earlyStop :
    .error .unfinished ∉ earlyStop.1 ∧ earlyStop.1.countP endsByStop = 1 ∧
      earlyStop.2.1.closed = false ∧
      ∀ turns outcome,
        (complete (Tagged.behaviour Nat) (.turns turns outcome) earlyStop.2.1 earlyStop.2.2).1 =
          .ok outcome := by
  have hreturns : .error .unfinished ∉ earlyStop.1 := by simp [earlyStop_answers]
  have hone : earlyStop.1.countP endsByStop = 1 := by rw [earlyStop_answers]; rfl
  have hopen : earlyStop.2.1.closed = false := rfl
  exact ⟨hreturns, hone, hopen, (countP_endsByStop_le _ _ rfl hreturns).2.2 hone hopen⟩

/-- A loop that was asked to stop is stopped in the first round of its next run, unless its one stop was
taken before; in that case no run is stopped. -/
theorem run_stops_iff_not_taken (ops : List (Operation J C V)) (s : σ)
    (hrun : carryOutAll b ops .empty s = (answers, l, s')) (hreturns : .error .unfinished ∉ answers)
    (hopen : l.closed = false) (hasked : l.stopRequested = true) (limit : Nat) :
    if taken b ops .empty s = 0 then
      run b (limit + 1) l s' = run b 1 l s' ∧ (run b 1 l s').1 = .ok .stopped
    else (run b limit l s').1 = .ok .ranOut := by
  have hresting := (kept_of_new hrun hreturns).1.resting hopen
  have hsum := hresting.halts_add_taken
  rw [hasked, Bool.toNat_true] at hsum
  split
  · rename_i hnone
    have hpos : 0 < halts l.ready := by omega
    have hrounds := rounds_of_halt (b := b) hresting.still hpos
    have hstopping := stopping_round_of_halt (b := b) hresting.still hpos s'
    rw [run_eq hopen, run_eq hopen, hrounds limit, hrounds 0, hstopping]
    exact ⟨rfl, rfl⟩
  · rename_i hsome
    obtain ⟨ending, hending, hrest⟩ := hresting.run (b := b) limit s'
    cases ending with
    | ranOut => exact hending
    | stopped =>
      have htaken := hrest.taken_le
      have hbound := Bool.toNat_le (run b limit l s').2.1.stopRequested
      simp only [if_true] at htaken
      omega

/-- The stop is pending while work is awaited that is over at once: the work takes no stop of its own, and
the run after it is stopped. -/
theorem run_stops_iff_not_taken_handed_on :
    ∃ answers l s, carryOutAll (Tagged.behaviour Nat)
        [.requestStop, .complete 0 (some 7)] .empty [] = (answers, l, s) ∧
      .error .unfinished ∉ answers ∧ l.closed = false ∧ l.stopRequested = true ∧
      (run (Tagged.behaviour Nat) 1 l s).1 = .ok .stopped := by
  have hreturns : .error .unfinished ∉
      ([.ok .done, .ok (.completed (some 7))] : List (Answer (Option Nat))) := by simp
  have hstops := run_stops_iff_not_taken (b := Tagged.behaviour Nat)
    [.requestStop, .complete 0 (some 7)] [] rfl hreturns rfl rfl 0
  exact ⟨_, _, _, rfl, hreturns, rfl, rfl, hstops.2⟩

/-- A loop that was stopped once is asked again, and its next run goes on. -/
theorem run_goes_on_when_asked_again :
    (carryOutAll (Tagged.behaviour Nat) [.requestStop, .run 51, .requestStop, .run 51] .empty []).1 =
      [.ok .done, .ok (.ran .stopped), .ok .done, .ok (.ran .ranOut)] := rfl

end MessageBus.Loop
