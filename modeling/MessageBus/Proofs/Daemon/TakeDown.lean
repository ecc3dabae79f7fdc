import MessageBus.Proofs.Context.Making
import MessageBus.Proofs.Context.Removing
import MessageBus.Proofs.Daemon.Hearing
/-!
Taking a daemon's bus down. The last work on the loop is completed whatever signals come meanwhile, the
files that stand are removed, and the loop is closed. It fails over an abstract socket only.
-/
namespace MessageBus.Context
variable {w : World} {c : Context}

open Daemon (Calm AtOnce pending)

/-- Work on a calm loop leaves the context and the world as they are, up to the wishes that are heard. -/
theorem complete_ok {work : Loop.Work Traffic.Job Traffic.Outcome} (hw : AtOnce work)
    (hc : Calm c.loop) (hnone : c.connections = []) (w : World) :
    ∃ l heard, c.complete work w = (.ok (), { c with loop := l, wishes := c.wishes ++ heard }, w) ∧
      Calm l ∧ pending c.loop = heard ++ pending l := by
  obtain ⟨l, t, hcomplete, hcalm, heard, rfl, hpending⟩ :=
    Daemon.complete_calm (t := c.traffic w) hw hc hnone
  refine ⟨l, heard, ?_, hcalm, hpending⟩
  simp only [complete, hcomplete]
  rfl

theorem closeLoop_ok (hc : Calm c.loop) (hnone : c.connections = []) (w : World) :
    ∃ l heard, c.closeLoop w = (.ok (), { c with loop := l, wishes := c.wishes ++ heard },
        w.record ⟨.debug, "busd.bus.loop", "Closing event loop"⟩) ∧
      l.closed = true ∧ heard <+: pending c.loop := by
  obtain ⟨l, heard, hclose, hclosed, hprefix⟩ := Daemon.close_calm
    (t := c.traffic (w.record ⟨.debug, "busd.bus.loop", "Closing event loop"⟩)) hc hnone
    Traffic.closingRounds
  refine ⟨l, heard, ?_, hclosed, hprefix⟩
  simp only [closeLoop, hc.opened, Bool.false_eq_true, if_false, hclose]
  rfl

/-- A context that is shut down loses its files, or that breaks off over an abstract socket. What was heard
over that was due to be heard. -/
theorem shutdown_cases (hc : Calm c.loop) (hnone : c.connections = []) (hopen : c.shutDown = false)
    (hs : Standing w.files c.paths) (hpid : ∀ name, c.pidFile = some name → Path.isAbstract name = false) :
    (Grounded c.paths ∧ ∃ c' w' heard, c.shutdown w = (.ok (), c', w') ∧ c'.references = c.references ∧
      c'.shutDown = true ∧ c'.connections = [] ∧ Calm c'.loop ∧ c'.wishes = c.wishes ++ heard ∧
      pending c.loop = heard ++ pending c'.loop ∧ w.Proceeds 0 w' ∧
      TakenAway c.paths w.files w'.files) ∨
    (¬ Grounded c.paths ∧ ∃ c' w', c.shutdown w = (.error .nullCharacter, c', w') ∧ w.Proceeds 0 w') := by
  obtain ⟨l, heard, hcomplete, hcalm, hpending⟩ := complete_ok (c := { c with shutDown := true })
    .closeAll hc hnone (w.record ⟨.info, part, "Shutting down message bus"⟩)
  obtain ⟨sockets, hall, hr⟩ := removable_of_standing hs
  have hshutdown : c.shutdown w =
      removeFiles { c with shutDown := true, loop := l, wishes := c.wishes ++ heard }
        (w.record ⟨.info, part, "Shutting down message bus"⟩) := by
    simp only [shutdown, hopen, Bool.false_eq_true, if_false, hcomplete]
  have hrecorded := World.proceeds_record w (r := ⟨.info, part, "Shutting down message bus"⟩) rfl
  obtain ⟨hgrounded, g, hremove, htaken⟩ | ⟨before, name, after, hsplit, habstract, g, hremove, -⟩ :=
    removeFiles_cases (c := { c with shutDown := true, loop := l, wishes := c.wishes ++ heard })
      (w := w.record ⟨.info, part, "Shutting down message bus"⟩) hall hr hpid
  · exact .inl ⟨hgrounded, _, _, heard, hshutdown.trans hremove, rfl, rfl, hnone, hcalm, rfl, hpending,
      hrecorded.trans (World.proceeds_files _ g), htaken⟩
  · exact .inr ⟨not_grounded_of_split (show c.paths = _ from hsplit) habstract, _, _,
      hshutdown.trans hremove, hrecorded.trans (World.proceeds_files _ g)⟩

/-- The last reference to a context that is shut down is given back. -/
theorem release_ok (hc : Calm c.loop) (hnone : c.connections = []) (hshut : c.shutDown = true)
    (hreferences : c.references = 1) (w : World) :
    ∃ c' w' heard, c.release w = (.ok (), c', w') ∧ c'.loop.closed = true ∧
      c'.wishes = c.wishes ++ heard ∧ heard <+: pending c.loop ∧ w'.files = w.files ∧
      w.Proceeds 0 w' := by
  obtain ⟨l, heard, hclose, hclosed, hprefix⟩ :=
    closeLoop_ok (c := { c with references := 0 }) hc hnone w
  have hshutdown : ({ c with references := 0 } : Context).shutdown w =
      (.ok (), { c with references := 0 }, w) := by
    apply shutdown_of_shutDown
    exact hshut
  have hrelease : c.release w = (.ok (), { c with
      references := 0, loop := l, wishes := c.wishes ++ heard },
      w.record ⟨.debug, "busd.bus.loop", "Closing event loop"⟩) := by
    rw [release, hreferences]
    simp only [if_true, hshutdown, hclose]
  exact ⟨_, _, heard, hrelease, hclosed, rfl, hprefix, rfl, World.proceeds_record w rfl⟩

end MessageBus.Context

namespace MessageBus.Daemon
variable {names : List String} {s : Stage}

/-- A daemon whose bus is as it was started, up to what was heard on its loop. -/
structure Sound (names : List String) (s : Stage) : Prop where
  references : s.context.references = 1
  unshut : s.context.shutDown = false
  connections : s.context.connections = []
  calm : Calm s.context.loop
  pidFile : ∀ name, s.context.pidFile = some name → Path.isAbstract name = false
  paths : s.context.paths = names
  standing : Context.Standing s.world.files names

/-- The bus was taken down. What was heard over that was due to be heard. -/
structure TakenDown (names : List String) (s s' : Stage) : Prop where
  phase : s'.phase = s.phase
  closed : s'.context.loop.closed = true
  taken : Context.TakenAway names s.world.files s'.world.files
  proceeds : s.world.Proceeds 0 s'.world
  heard : ∃ heard, s'.context.wishes = s.context.wishes ++ heard ∧ heard <+: pending s.context.loop

/-- A sound bus is taken down, unless it has an abstract socket. -/
theorem tearDown_cases (hs : Sound names s) :
    (Context.Grounded names ∧ ∃ s', tearDown s = (.ok (), s') ∧ TakenDown names s s') ∨
    (¬ Context.Grounded names ∧
      ∃ s', tearDown s = (.error .nullCharacter, s') ∧ s.world.Proceeds 0 s'.world) := by
  obtain ⟨hreferences, hunshut, hconnections, hcalm, hpid, rfl, hstanding⟩ := hs
  obtain ⟨hgrounded, c, w, heard, hshutdown, hsame, hshut, hnone, hstill, hwishes, hpending, hproceeds,
      htaken⟩ | ⟨habstract, c, w, hshutdown, hproceeds⟩ :=
    Context.shutdown_cases hcalm hconnections hunshut hstanding hpid
  · obtain ⟨c', w', more, hrelease, hclosed, hlast, ⟨rest, hrest⟩, hfiles, hreleased⟩ :=
      Context.release_ok hstill hnone hshut (hsame.trans hreferences) w
    refine .inl ⟨hgrounded, { s with context := c', world := w' }, ?_, rfl, hclosed, ?_,
      hproceeds.trans hreleased, heard ++ more, ?_, rest, ?_⟩
    · simp only [tearDown, hshutdown, hrelease]
    · dsimp only
      rw [hfiles]
      exact htaken
    · rw [hlast, hwishes, List.append_assoc]
    · rw [hpending, ← hrest, List.append_assoc]
  · refine .inr ⟨habstract, { s with context := c, world := w }, ?_, hproceeds⟩
    simp only [tearDown, hshutdown]

end MessageBus.Daemon
