import MessageBus.Context
import MessageBus.Proofs.Result
import MessageBus.Proofs.Traffic.Parting
/-!
How the loop of a context is driven. That changes nothing of the context but its loop, its connections and
the wishes, and nothing of the world but the log, which gets details only. Main statement: the loop stays
at rest between two operations, its tasks serve the connections, and once it is closed they are over.
-/
namespace MessageBus.Context

/-- Nothing was touched but the loop of a context and what is on it, and nothing logged but details. -/
structure Touched (c : Context) (w : World) (c' : Context) (w' : World) : Prop where
  context : ∃ l connections wishes,
    c' = { c with loop := l, connections := connections, wishes := wishes }
  world : ∃ more, w' = { w with log := w.log ++ more } ∧ ∀ r ∈ more, r.level = .debug

/-- The loop of a context was driven. It is as open as before, and no task was cancelled. -/
structure Driven (c : Context) (w : World) (c' : Context) (w' : World) : Prop
    extends Touched c w c' w' where
  closed : c'.loop.closed = c.loop.closed
  spared : Loop.Spared c.loop.tasks → Loop.Spared c'.loop.tasks

/-- The loop of a context between two operations. -/
structure Orderly (c : Context) : Prop where
  manned : Traffic.Manned c.loop.tasks c.connections
  resting : c.loop.closed = false → ∃ n, c.loop.Resting n
  finished : c.loop.closed = true → c.loop.Finished

variable {c c' c₁ : Context} {w w' w₁ : World} {i limit : Nat}
  {work : Loop.Work Traffic.Job Traffic.Outcome}

/-! ### What is left alone -/

theorem Touched.refl (c : Context) (w : World) : Touched c w c w :=
  ⟨⟨_, _, _, rfl⟩, ⟨[], by simp, by simp⟩⟩

theorem Touched.trans (h : Touched c w c₁ w₁) (h' : Touched c₁ w₁ c' w') : Touched c w c' w' where
  context := by
    obtain ⟨l, connections, wishes, rfl⟩ := h.context
    obtain ⟨l', connections', wishes', rfl⟩ := h'.context
    exact ⟨l', connections', wishes', rfl⟩
  world := by
    obtain ⟨more, rfl, hdebug⟩ := h.world
    obtain ⟨more', rfl, hdebug'⟩ := h'.world
    refine ⟨more ++ more', by simp, fun r hr => ?_⟩
    obtain hr | hr := List.mem_append.1 hr
    · exact hdebug r hr
    · exact hdebug' r hr

theorem Driven.refl (c : Context) (w : World) : Driven c w c w := ⟨.refl c w, rfl, id⟩

theorem Driven.trans (h : Driven c w c₁ w₁) (h' : Driven c₁ w₁ c' w') : Driven c w c' w' :=
  ⟨h.toTouched.trans h'.toTouched, h'.closed.trans h.closed, fun hc => h'.spared (h.spared hc)⟩

theorem touched_afterLoop {t : Traffic} (hfollows : (c.traffic w).Follows t) (l : Traffic.BusLoop) :
    Touched c w (c.afterLoop w l t).1 (c.afterLoop w l t).2 := by
  obtain ⟨more, hlog, hdebug⟩ := hfollows.log
  refine ⟨⟨_, _, _, rfl⟩, ⟨more, ?_, hdebug⟩⟩
  simp only [afterLoop, hlog]
  rfl

/-- The context has another loop, or more connections. -/
theorem driven_of_loop (w : World) {l : Traffic.BusLoop} (connections : List Connection)
    (hclosed : l.closed = c.loop.closed)
    (hspared : Loop.Spared c.loop.tasks → Loop.Spared l.tasks) :
    Driven c w { c with loop := l, connections := connections } w :=
  ⟨⟨⟨_, _, _, rfl⟩, ⟨[], by simp, by simp⟩⟩, hclosed, hspared⟩

theorem run_driven (limit : Nat) (c : Context) (w : World) :
    Driven c w (c.run limit w).2.1 (c.run limit w).2.2 :=
  ⟨touched_afterLoop (Traffic.behaviour_keeps.run limit c.loop (c.traffic w)) _,
    Loop.run_closed limit c.loop (c.traffic w),
    fun h => Loop.preserves_spared.run limit c.loop (c.traffic w) h⟩

theorem complete_driven (work : Loop.Work Traffic.Job Traffic.Outcome) (c : Context) (w : World) :
    Driven c w (c.complete work w).2.1 (c.complete work w).2.2 :=
  ⟨touched_afterLoop (Traffic.behaviour_keeps.complete work c.loop (c.traffic w)) _,
    Loop.complete_closed work c.loop (c.traffic w),
    fun h => Loop.preserves_spared.complete work c.loop (c.traffic w) h (h.add work)⟩

theorem takeIn_of_closed (h : c.loop.closed = true) (x : Connection) (w : World) :
    c.takeIn x w = (.error (.loop .closed), { c with connections := c.connections ++ [x] }, w) := by
  simp [takeIn, Loop.spawn, h]

theorem takeIn_of_open (h : c.loop.closed = false) (x : Connection) (w : World) :
    c.takeIn x w = (.ok (), { c with
      connections := c.connections ++ [x]
      loop := (c.loop.add (.job (.serve c.connections.length))).2 }, w) := by
  simp [takeIn, Loop.spawn, h]

theorem takeIn_driven (x : Connection) (c : Context) (w : World) :
    Driven c w (c.takeIn x w).2.1 (c.takeIn x w).2.2 := by
  cases hclosed : c.loop.closed with
  | true =>
    rw [takeIn_of_closed hclosed]
    exact driven_of_loop w _ rfl id
  | false =>
    rw [takeIn_of_open hclosed]
    exact driven_of_loop w _ rfl fun h => h.add _

theorem pauses_driven (n : Nat) (c : Context) (w : World) :
    Driven c w (c.pauses n w).2.1 (c.pauses n w).2.2 := by
  induction n generalizing c w with
  | zero => exact .refl c w
  | succ n ih =>
    have hpause := complete_driven (.turns 1 (.ok ())) c w
    rw [pauses, pause]
    generalize c.complete (.turns 1 (.ok ())) w = paused at hpause ⊢
    obtain ⟨result, c₁, w₁⟩ := paused
    cases result with
    | error failure => exact hpause
    | ok done => exact hpause.trans (ih c₁ w₁)

theorem pause_driven (c : Context) (w : World) : Driven c w (c.pause w).2.1 (c.pause w).2.2 :=
  complete_driven (.turns 1 (.ok ())) c w

theorem accept_driven (x : Connection) (c : Context) (w : World) :
    Driven c w (c.accept x w).2.1 (c.accept x w).2.2 := by
  have hconnected : Driven c w { c with connections := c.connections ++ [x] } w :=
    driven_of_loop w (c.connections ++ [x]) rfl id
  rw [accept]
  exact hconnected.trans (complete_driven _ _ w)

theorem acceptOpen_driven (x : Connection) (c : Context) (w : World) :
    Driven c w (c.acceptOpen x w).2.1 (c.acceptOpen x w).2.2 := by
  have hcomes := takeIn_driven x c w
  unfold acceptOpen
  generalize c.takeIn x w = taken at hcomes ⊢
  obtain ⟨result, c₁, w₁⟩ := taken
  cases result with
  | error failure => exact hcomes
  | ok done => exact hcomes.trans (pause_driven c₁ w₁)

theorem meet_driven (i : Nat) (change : Connection → Connection) (c : Context) (w : World) :
    Driven c w (c.meet i change) w :=
  driven_of_loop w _ (Loop.ran_openGate c.loop i).closed fun h => h.serveRequest (.openGate i)

theorem hangUp_driven (i : Nat) (c : Context) (w : World) :
    Driven c w (c.hangUp i w).2.1 (c.hangUp i w).2.2 :=
  (meet_driven i _ c w).trans (pauses_driven 3 _ w)

/-! ### What is kept in order -/

theorem Orderly.of_loop (h : Orderly c) (hloop : c'.loop = c.loop)
    (hconnections : c'.connections = c.connections) : Orderly c' where
  manned := by
    rw [hloop, hconnections]
    exact h.manned
  resting := hloop ▸ h.resting
  finished := hloop ▸ h.finished

/-- Nothing was done on the loop but requests were served. -/
theorem Orderly.request (h : Orderly c) (r : Traffic.Request) :
    Orderly { c with loop := c.loop.serveRequest r } where
  manned := h.manned.undisturbed (Loop.undisturbed_serveRequest c.loop r)
  resting := by
    intro hopen
    obtain ⟨n, hresting⟩ := h.resting ((Loop.ran_serveRequest c.loop r).closed.symm.trans hopen)
    exact ⟨n, hresting.serveRequest r⟩
  finished := fun hclosed => (h.finished ((Loop.ran_serveRequest c.loop r).closed.symm.trans hclosed)).undisturbed
    (Loop.undisturbed_serveRequest c.loop r)

theorem Orderly.run (h : Orderly c) (limit : Nat) (w : World) : Orderly (c.run limit w).2.1 where
  manned := Traffic.preserves_manned.run limit c.loop (c.traffic w) h.manned
  resting := by
    intro hopen
    obtain ⟨n, hresting⟩ := h.resting ((run_driven limit c w).closed.symm.trans hopen)
    obtain ⟨ending, -, hrest⟩ := hresting.run (b := Traffic.behaviour) limit (c.traffic w)
    exact ⟨_, hrest⟩
  finished := by
    intro hclosed
    have hwas := (run_driven limit c w).closed.symm.trans hclosed
    rw [Context.run, Loop.run_of_closed Traffic.behaviour hwas]
    exact h.finished hwas

/-- Work is done that leaves an open loop at rest. -/
theorem Orderly.complete (h : Orderly c) (w : World)
    (hnew : Traffic.Manned (c.loop.tasks ++ [.new work]) c.connections)
    (hrest : c.loop.closed = false →
      ∃ n, (Loop.complete Traffic.behaviour work c.loop (c.traffic w)).2.1.Resting n) :
    Orderly (c.complete work w).2.1 where
  manned := Traffic.preserves_manned.complete work c.loop (c.traffic w) h.manned hnew
  resting := fun hopen => hrest ((complete_driven work c w).closed.symm.trans hopen)
  finished := by
    intro hclosed
    have hwas := (complete_driven work c w).closed.symm.trans hclosed
    rw [Context.complete, Loop.complete_of_closed Traffic.behaviour hwas]
    exact h.finished hwas

theorem Orderly.pause (h : Orderly c) (w : World) : Orderly (c.pause w).2.1 := by
  refine h.complete w (h.manned.employ rfl) fun hopen => ?_
  obtain ⟨n, hresting⟩ := h.resting hopen
  obtain ⟨-, hrest⟩ | ⟨-, -, hrest⟩ :=
    hresting.complete (b := Traffic.behaviour) 1 (.ok ()) (c.traffic w)
  · exact ⟨_, hrest⟩
  · exact ⟨_, hrest⟩

theorem Orderly.pauses (h : Orderly c) (n : Nat) (w : World) : Orderly (c.pauses n w).2.1 := by
  induction n generalizing c w with
  | zero => exact h
  | succ n ih =>
    have hpause := h.pause w
    rw [Context.pauses]
    generalize c.pause w = paused at hpause ⊢
    obtain ⟨result, c₁, w₁⟩ := paused
    cases result with
    | error failure => exact hpause
    | ok done => exact ih hpause w₁

/-- Hanging up is over at its first turn, so it always succeeds on an open loop. -/
theorem resting_closeAll {n : Nat} (h : c.loop.Resting n) (w : World) :
    (Loop.complete Traffic.behaviour (.job .closeAll) c.loop (c.traffic w)).1 = .ok (.ok ()) ∧
      ∃ n, (Loop.complete Traffic.behaviour (.job .closeAll) c.loop (c.traffic w)).2.1.Resting n := by
  obtain ⟨v, rfl, hresult, hrest⟩ := h.completeJob (P := (· = .ok ())) Traffic.behaviour_keeps
    (c.traffic w) fun s _ => ⟨_, rfl, Traffic.closeAll_ends s⟩
  exact ⟨hresult, hrest⟩

theorem Orderly.closeAll (h : Orderly c) (w : World) : Orderly (c.complete (.job .closeAll) w).2.1 := by
  refine h.complete w (h.manned.employ rfl) fun hopen => ?_
  obtain ⟨n, hresting⟩ := h.resting hopen
  exact (resting_closeAll hresting w).2

theorem Orderly.takeIn (h : Orderly c) (deferred : Bool) (chunks : List String) (ending : StreamEnd)
    (farewell : Farewell) (w : World) : Orderly (c.takeIn (.new deferred chunks ending farewell) w).2.1 := by
  cases hclosed : c.loop.closed with
  | true =>
    rw [takeIn_of_closed hclosed]
    exact ⟨h.manned.connect rfl rfl, h.resting, h.finished⟩
  | false =>
    rw [takeIn_of_open hclosed]
    refine ⟨h.manned.takeIn deferred chunks ending farewell, fun _ => ?_, fun hnow => ?_⟩
    · obtain ⟨n, hresting⟩ := h.resting hclosed
      exact ⟨n, hresting.add _⟩
    · exact absurd (hclosed.symm.trans hnow) (by simp)

theorem Orderly.acceptOpen (h : Orderly c) (deferred : Bool) (chunks : List String) (ending : StreamEnd)
    (farewell : Farewell) (w : World) :
    Orderly (c.acceptOpen (.new deferred chunks ending farewell) w).2.1 := by
  have hcomes := h.takeIn deferred chunks ending farewell w
  unfold Context.acceptOpen
  generalize c.takeIn (.new deferred chunks ending farewell) w = taken at hcomes ⊢
  obtain ⟨result, c₁, w₁⟩ := taken
  cases result with
  | error failure => exact hcomes
  | ok done => exact hcomes.pause w₁

/-- A connection that does not stay open, and is let go of at once, is served at one turn. -/
theorem Orderly.accept (h : Orderly c) (chunks : List String) {ending : StreamEnd}
    (hends : ending ≠ .staysOpen) (farewell : Farewell) (w : World) :
    Orderly (c.accept (.new false chunks ending farewell) w).2.1 := by
  have hconnected : Orderly { c with connections := c.connections ++ [.new false chunks ending farewell] } :=
    ⟨h.manned.connect rfl rfl, h.resting, h.finished⟩
  rw [Context.accept]
  refine hconnected.complete w (h.manned.takeIn false chunks ending farewell) fun hopen => ?_
  obtain ⟨n, hresting⟩ := h.resting hopen
  obtain ⟨-, -, -, hrest⟩ := hresting.completeJob (P := fun _ => True) Traffic.behaviour_keeps
    (Context.traffic { c with connections := c.connections ++ [.new false chunks ending farewell] } w)
    fun s hfollows => by
      obtain ⟨x, hx, hlater⟩ := hfollows.connection c.connections.length (.new false chunks ending farewell)
        (by simp [traffic])
      obtain ⟨v, hv⟩ := Traffic.serve_ends hx (by rw [hlater.ending]; exact hends) hlater.deferred
      exact ⟨v, trivial, hv⟩
  exact hrest

/-- What comes from a peer leaves the tasks at their connections. -/
theorem Orderly.meet (h : Orderly c) (i : Nat) {change : Connection → Connection}
    (hstage : ∀ x, Traffic.stage (change x) = Traffic.stage x) : Orderly (c.meet i change) := by
  have hopened := h.request (.openGate i)
  refine ⟨hopened.manned.staged ?_, hopened.resting, hopened.finished⟩
  refine List.ext_getElem? fun j => ?_
  simp only [Context.meet, List.getElem?_map, List.getElem?_modify]
  cases c.connections[j]? with
  | none => rfl
  | some x =>
    simp only [Option.map_some]
    split <;> simp [hstage]

/-- The world as the loop of a context is closed. -/
def closing (c : Context) (w : World) : World :=
  if c.loop.closed then w else w.record ⟨.debug, "busd.bus.loop", "Closing event loop"⟩

theorem closeLoop_eq (c : Context) (w : World) :
    c.closeLoop w =
      ((c.loop.closeWithin Traffic.behaviour Traffic.closingRounds (c.traffic (c.closing w))).1.mapError .loop,
        c.afterLoop (c.closing w)
          (c.loop.closeWithin Traffic.behaviour Traffic.closingRounds (c.traffic (c.closing w))).2.1
          (c.loop.closeWithin Traffic.behaviour Traffic.closingRounds (c.traffic (c.closing w))).2.2) := rfl

/-- No task is cancelled behind closing, and if it succeeds, all tasks are over and the loop is closed. -/
theorem Orderly.closeLoop (h : Orderly c) (hspared : Loop.Spared c.loop.tasks) (w : World) :
    Orderly (c.closeLoop w).2.1 ∧ Loop.Spared (c.closeLoop w).2.1.loop.tasks ∧
      ((c.closeLoop w).1 = .ok () →
        (c.closeLoop w).2.1.loop.closed = true ∧ (c.closeLoop w).2.1.loop.Finished) := by
  have hmanned := Traffic.Manned.closeWithin (s := c.traffic (c.closing w)) h.manned Traffic.closingRounds
  rw [closeLoop_eq]
  cases hclosed : c.loop.closed with
  | true =>
    have hover := h.finished hclosed
    rw [Loop.closeWithin_of_closed _ hclosed] at hmanned ⊢
    exact ⟨⟨hmanned, h.resting, h.finished⟩, hspared, fun _ => ⟨hclosed, hover⟩⟩
  | false =>
    obtain ⟨n, hresting⟩ := h.resting hclosed
    have hends := Traffic.closeWithin_ends (s := c.traffic (c.closing w)) hresting h.manned
    have hcases := hresting.closeWithin (b := Traffic.behaviour) Traffic.closingRounds (c.traffic (c.closing w))
    obtain ⟨hkept, hover⟩ := hresting.closeWithin_kept (b := Traffic.behaviour) 4 (c.traffic (c.closing w))
    refine ⟨⟨hmanned, fun hopen => ?_, fun hshut => ?_⟩, hkept, fun hok => ?_⟩
    · obtain hstuck | ⟨hok, -⟩ | ⟨-, hrest⟩ := hcases
      · exact absurd hstuck hends
      · exact absurd ((hover hok).1.symm.trans hopen) (by simp)
      · exact ⟨_, hrest⟩
    · obtain hstuck | ⟨hok, -⟩ | ⟨-, hrest⟩ := hcases
      · exact absurd hstuck hends
      · exact (hover hok).2
      · exact absurd (hrest.opened.symm.trans hshut) (by simp)
    · obtain hstuck | ⟨hok, -⟩ | ⟨hearly, -⟩ := hcases
      · exact absurd hstuck hends
      · exact hover hok
      · simp [hearly, mapError_error] at hok

theorem closing_touched (c : Context) (w : World) : Touched c w c (c.closing w) := by
  unfold closing
  split
  · exact .refl c w
  · exact ⟨⟨_, _, _, rfl⟩, ⟨_, rfl, by simp⟩⟩

theorem closeLoop_touched (c : Context) (w : World) :
    Touched c w (c.closeLoop w).2.1 (c.closeLoop w).2.2 := by
  rw [closeLoop_eq]
  exact (closing_touched c w).trans (touched_afterLoop (Traffic.behaviour_keeps.closeWithin _ _ _) _)

end MessageBus.Context
