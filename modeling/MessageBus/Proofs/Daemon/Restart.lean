import MessageBus.Proofs.Context.Abandoned
import MessageBus.Proofs.Daemon.Outcome
/-!
What signals come to. The run of a daemon ends once some come, and the daemon is replaced if one of them
asks for that and none asks to quit, in whatever rounds they come. By then nothing is left of its bus. Over an
abstract socket the daemon breaks off instead, as such a socket cannot be removed.
-/
namespace MessageBus.Daemon
variable {names : List String} {s s' : Stage} {c : Context} {w : World} {i : Invocation}
  {signals : List (List Signal)}

/-- A daemon is about to run its loop: its bus was started, it hears signals, and the address was
announced if that is asked for. -/
def Ready (i : Invocation) (signals : List (List Signal)) (w : World) (c : Context) (s : Stage) : Prop :=
  ∃ w₁ c₁, Context.start i.options.path .clear w = (.ok (some c, .clear), w₁) ∧
    installHandlers c = .ok c₁ ∧
    announce i.options.target ⟨.starting, expect signals c₁, w₁⟩ = (.ok true, s)

/-- The signals ask for a restart. -/
def AskRestart (signals : List Signal) : Prop :=
  .hangUp ∈ signals ∧ .terminate ∉ signals ∧ .interrupt ∉ signals

instance (signals : List Signal) : Decidable (AskRestart signals) :=
  inferInstanceAs (Decidable (_ ∧ _ ∧ _))

theorem wantsRestart_iff (phase : Phase) (signals : List Signal) :
    State.wantsRestart ⟨phase, signals.map wishOf, none⟩ = true ↔ AskRestart signals := by
  have hrestart : Wish.restart ∈ signals.map wishOf ↔ .hangUp ∈ signals := by
    constructor
    · intro hmem
      obtain ⟨s, hs, hwish⟩ := List.mem_map.1 hmem
      cases s <;> cases hwish
      exact hs
    · exact fun hs => List.mem_map_of_mem hs
  have hquit : Wish.quit ∈ signals.map wishOf ↔ .terminate ∈ signals ∨ .interrupt ∈ signals := by
    constructor
    · intro hmem
      obtain ⟨s, hs, hwish⟩ := List.mem_map.1 hmem
      cases s <;> cases hwish
      · exact .inl hs
      · exact .inr hs
    · rintro (hs | hs) <;> exact List.mem_map_of_mem hs
  simp only [State.wantsRestart, State.restartRequested, State.quitRequested, Bool.and_eq_true,
    Bool.not_eq_true', List.contains_iff_mem, hrestart, AskRestart]
  rw [← Bool.not_eq_true, List.contains_iff_mem, hquit, not_or]

theorem pending_listening (signals : List (List Signal)) (c : Context) :
    pending (listening signals c).loop = signals.flatten.map wishOf := by
  simp [pending, unread, listening, heeding, Loop.empty]

/-- A daemon that is ready runs its loop until the signals that come end it. -/
theorem runLoop_stops {kind : String} (hs : Sound names s) (htype : s.context.settings.busType = .ok kind)
    (hidle : s.context.loop.isIdle = true) (hrequested : s.context.loop.stopRequested = false)
    (hcoming : s.context.loop.coming.flatten ≠ []) : ∃ s', runLoop s = (.ok .stopped, s') := by
  obtain ⟨l, t, hrun⟩ := run_stops hs.calm hidle hrequested hcoming 48
    (t := s.context.traffic (s.world.record ⟨.info, part,
      "Message bus (" ++ kind ++ ") running (pid " ++ toString s.world.platform.process ++ ")"⟩))
  have hlimit : patience = 48 + 3 := rfl
  have hran : (s.context.run patience (s.world.record ⟨.info, part,
      "Message bus (" ++ kind ++ ") running (pid " ++ toString s.world.platform.process ++ ")"⟩)).1 =
        .ok .stopped := by
    rw [Context.run, hlimit, hrun]
    rfl
  rcases hends : s.context.run patience (s.world.record ⟨.info, part,
      "Message bus (" ++ kind ++ ") running (pid " ++ toString s.world.platform.process ++ ")"⟩) with ⟨r, c, w⟩
  rw [hends] at hran
  subst hran
  simp only [runLoop, htype, Stage.record, hends]
  exact ⟨_, rfl⟩

/-- The end of a daemon whose run succeeded: its bus is taken down, or it breaks off over an abstract
socket. -/
theorem live_of_operate (hs : Sound names s')
    (hoperate : operate i.options.target (.rounds signals) ⟨.starting, c, w⟩ = (.ok .success, s')) :
    (Context.Grounded names ∧ ∃ s₁, TakenDown names s' s₁ ∧ live i (.rounds signals) c w =
      ⟨.ok .success, some s₁.context, some ⟨.stopped, s₁.context.wishes, none⟩,
        some ⟨.stopped, s₁.context.wishes, none⟩,
        s₁.world.record ⟨.info, part, "Message bus stopped"⟩⟩) ∨
    (¬ Context.Grounded names ∧ (live i (.rounds signals) c w).result = .error .nullCharacter ∧
      s'.world.Proceeds 0 (live i (.rounds signals) c w).world) := by
  obtain ⟨hgrounded, s₁, htear, htaken⟩ | ⟨habstract, s₁, htear, hproceeds⟩ := tearDown_cases hs
  · refine .inl ⟨hgrounded, s₁, htaken, ?_⟩
    simp only [live, hoperate, conclude, htear]
    rfl
  · refine .inr ⟨habstract, ?_⟩
    simp only [live, hoperate, conclude, htear, true_and]
    exact hproceeds

/-- Nothing is left of a daemon's bus, its seat is free, and no command was tried yet. -/
structure Cleared (names : List String) (w : World) (o : Outcome) : Prop where
  seat : o.seat = none
  closed : ∃ c, o.context = some c ∧ c.loop.closed = true
  gone : ∀ name ∈ names, o.world.files.look (.ofText name) = .error .notFound
  commands : o.world.commands = w.commands
  platform : o.world.platform = w.platform

theorem ready_of_start {w₁ : World}
    (hstart : Context.start i.options.path .clear w = (.ok (some c, .clear), w₁))
    (hannounce : (announce i.options.target ⟨.starting, listening signals c, w₁⟩).1 = .ok true) :
    Ready i signals w c (announce i.options.target ⟨.starting, listening signals c, w₁⟩).2 := by
  obtain ⟨made, hattempt⟩ := Context.attempt_of_start hstart
  obtain ⟨w₀, hbuilt, -⟩ := Context.attempt_some hattempt
  exact ⟨w₁, _, hstart, installHandlers_built hbuilt, Prod.ext hannounce rfl⟩

/-- What is known of a daemon that is about to run its loop. -/
theorem ready_sound (hready : Ready i signals w c s) : ∃ w₁,
    run .initial i (.rounds signals) w = live i (.rounds signals) c w₁ ∧ w.Proceeds 0 w₁ ∧
    Sound c.paths ⟨.starting, listening signals c, w₁⟩ ∧
    installHandlers c = .ok { c with loop := heeding } ∧
    announce i.options.target ⟨.starting, listening signals c, w₁⟩ = (.ok true, s) ∧
    s.context = listening signals c ∧ Sound c.paths s ∧ c.wishes = [] ∧
    ∃ kind, c.settings.busType = .ok kind := by
  obtain ⟨w₁, c₁, hstart, hinstall, hannounce⟩ := hready
  obtain ⟨made, hattempt⟩ := Context.attempt_of_start hstart
  obtain ⟨w₀, hbuilt, hlogged, hstanding, -, hproceeds⟩ := Context.attempt_some hattempt
  have hsound : Sound c.paths ⟨.starting, listening signals c, w₁⟩ :=
    sound_listening hbuilt hstanding .starting
  have hinstalled := installHandlers_built hbuilt
  obtain rfl := Except.ok.inj (hinstall.symm.trans hinstalled)
  obtain ⟨hcontext, hfiles, -, -⟩ := announce_ok hannounce
  refine ⟨w₁, by rw [run, hattempt], hproceeds, hsound, hinstalled, hannounce, hcontext,
    hsound.of_same hcontext hfiles, ?_, ?_⟩
  · obtain ⟨settings, listeners, pidFile, rfl⟩ := Context.built_fresh hbuilt
    rfl
  · exact (Context.announceReady_ok hlogged).1

/-- Once all signals were heard, taking the bus down brings no wish more. -/
theorem wishes_of_heard {s₁ : Stage} {heard : List Wish} (hnone : s.context.wishes = [])
    (hwishes : s'.context.wishes = s.context.wishes ++ heard)
    (hpending : pending s.context.loop = heard ++ pending s'.context.loop)
    (hheard : s'.context.wishes = pending s.context.loop) (htaken : TakenDown names s' s₁) :
    s₁.context.wishes = pending s.context.loop := by
  have hdone : pending s'.context.loop = [] := by
    rw [hwishes, hnone, List.nil_append] at hheard
    rw [hheard] at hpending
    exact List.self_eq_append_right.1 hpending
  obtain ⟨more, hmore, hprefix⟩ := htaken.heard
  rw [hdone, List.prefix_nil] at hprefix
  rw [hmore, hprefix, List.append_nil, hheard]

/-- The run of a daemon ends with the signals that come. -/
theorem runLoop_ready (hready : Ready i signals w c s) (hsome : signals.flatten ≠ []) :
    ∃ s', runLoop s = (.ok .stopped, s') := by
  obtain ⟨_, -, -, -, -, -, hcontext, hsound, -, kind, htype⟩ := ready_sound hready
  have hkind : s.context.settings.busType = .ok kind := by rw [hcontext, ← htype]; rfl
  exact runLoop_stops hsound hkind (by rw [hcontext]; rfl) (by rw [hcontext]; rfl)
    (by rw [hcontext]; exact hsome)

/-- What a daemon does that is ready and hears all signals that come, up to taking its bus down. -/
theorem operate_ready (hready : Ready i signals w c s) (hrun : runLoop s = (.ok .stopped, s')) :
    ∃ w₁, run .initial i (.rounds signals) w = live i (.rounds signals) c w₁ ∧
      operate i.options.target (.rounds signals) ⟨.starting, c, w₁⟩ = (.ok .success, s') ∧
      Sound c.paths s' ∧ w.Proceeds 0 s'.world := by
  obtain ⟨w₁, hlife, hproceeds, hstarted, hinstall, hannounce, -⟩ := ready_sound hready
  have hoperate : operate i.options.target (.rounds signals) ⟨.starting, c, w₁⟩ = (.ok .success, s') := by
    simp only [operate, hinstall]
    rw [show expect signals { c with loop := heeding } = listening signals c from rfl, hannounce]
    simp only [hrun]
  obtain ⟨hsound, -, -, hoperated⟩ := operate_ok hinstall hstarted hoperate
  exact ⟨w₁, hlife, hoperate, hsound, hproceeds.quiet hoperated⟩

/-- Once a daemon heard all signals, its bus is cleared away, and it is to be replaced if they ask for
that. Over an abstract socket it breaks off. -/
theorem leave_ready (hready : Ready i signals w c s) (hrun : runLoop s = (.ok .stopped, s'))
    (hheard : s'.context.wishes = signals.flatten.map wishOf) :
    (Context.Grounded c.paths ∧ Cleared c.paths w (leave .initial i (.rounds signals) w) ∧
      ((leave .initial i (.rounds signals) w).wantsRestart = true ↔ AskRestart signals.flatten)) ∨
    (¬ Context.Grounded c.paths ∧ (leave .initial i (.rounds signals) w).result = .error .nullCharacter ∧
      (leave .initial i (.rounds signals) w).world.commands = w.commands) := by
  obtain ⟨_, -, -, -, -, -, hcontext, hsound, hfresh, -⟩ := ready_sound hready
  obtain ⟨w₁, hlife, hoperate, hsound', hproceeds⟩ := operate_ready hready hrun
  obtain ⟨hgrounded, s₁, htaken, hlive⟩ | ⟨habstract, hresult, hended⟩ := live_of_operate hsound' hoperate
  · obtain ⟨-, -, -, heard, hwishes, hpending⟩ := runLoop_ok hsound hrun
    have hsignals : pending s.context.loop = signals.flatten.map wishOf := by
      rw [hcontext, pending_listening]
    have hall : s₁.context.wishes = signals.flatten.map wishOf := by
      rw [← hsignals]
      exact wishes_of_heard (by rw [hcontext]; exact hfresh) hwishes hpending
        (hheard.trans hsignals.symm) htaken
    have hleave : leave .initial i (.rounds signals) w =
        ⟨.ok .success, some s₁.context, some ⟨.stopped, s₁.context.wishes, none⟩, none,
          s₁.world.record ⟨.info, part, "Message bus stopped"⟩⟩ := by
      rw [leave, hlife, hlive]
      rfl
    have hleft := hproceeds.trans htaken.proceeds
    refine .inl ⟨hgrounded, ?_, ?_⟩
    · rw [hleave]
      exact ⟨rfl, ⟨_, rfl, htaken.closed⟩, htaken.taken.gone, hleft.commands, hleft.platform⟩
    · rw [hleave, ← wantsRestart_iff .stopped, ← hall]
      rfl
  · refine .inr ⟨habstract, ?_, ?_⟩
    · rw [leave, hlife]
      exact hresult
    · rw [leave, hlife]
      exact hended.commands.trans hproceeds.commands

/-- The daemon tries to be replaced if the signals ask for that, once its bus was cleared away. -/
structure Heard (i : Invocation) (signals : List (List Signal)) (names : List String) (w : World) : Prop where
  cleared : Cleared names w (leave .initial i (.rounds signals) w)
  replaced : runIn none i (.rounds signals) w =
    if AskRestart signals.flatten then (leave .initial i (.rounds signals) w).replaced i
    else leave .initial i (.rounds signals) w
  commands : (runIn none i (.rounds signals) w).world.commands = w.commands ++
    if AskRestart signals.flatten then tried i w else []

/-- A run ends with the signals that come. If all of them were heard by then, the daemon is replaced once
or not at all, by what they ask for, and only after its bus was cleared away. Over an abstract socket it
breaks off, and is not replaced whatever they ask for. -/
theorem runIn_signals (hready : Ready i signals w c s) (hsome : signals.flatten ≠ []) :
    ∃ s', runLoop s = (.ok .stopped, s') ∧
      (s'.context.wishes = signals.flatten.map wishOf →
        (Context.Grounded c.paths → Heard i signals c.paths w) ∧
        (¬ Context.Grounded c.paths → (runIn none i (.rounds signals) w).result = .error .nullCharacter ∧
          (runIn none i (.rounds signals) w).world.commands = w.commands)) := by
  obtain ⟨s', hrun⟩ := runLoop_ready hready hsome
  refine ⟨s', hrun, fun hheard => ?_⟩
  obtain ⟨hgrounded, hcleared, hwants⟩ | ⟨habstract, hresult, hcommands⟩ := leave_ready hready hrun hheard
  · refine ⟨fun _ => ?_, fun habstract => absurd hgrounded habstract⟩
    have hends : runIn none i (.rounds signals) w =
        if AskRestart signals.flatten then (leave .initial i (.rounds signals) w).replaced i
        else leave .initial i (.rounds signals) w := by
      simp only [runIn, begin, hwants]
    refine ⟨hcleared, hends, ?_⟩
    rw [hends, ← hcleared.commands]
    split
    · have hflush : tried i (leave .initial i (.rounds signals) w).world = tried i w := by
        rw [tried, tried, World.flush_of_platform hcleared.platform]
      exact hflush ▸ restart_commands i _
    · rw [List.append_nil]
  · refine ⟨fun hgrounded => absurd hgrounded habstract, fun _ => ?_⟩
    have hstays : (leave .initial i (.rounds signals) w).wantsRestart = false := by
      rw [Outcome.wantsRestart, hresult]
    have hends : runIn none i (.rounds signals) w = leave .initial i (.rounds signals) w := by
      simp only [runIn, begin, hstays, Bool.false_eq_true, if_false]
    rw [hends]
    exact ⟨hresult, hcommands⟩

/-- The context that is started in the world with one address, and the daemon as it is about to run its loop. -/
def addressedContext? : Option Context :=
  (Context.start "bus.yaml" .clear addressed).1.toOption.bind (·.1)

def addressedStage (signals : List (List Signal)) (c : Context) : Except Failure Bool × Stage :=
  announce announcing.options.target
    ⟨.starting, listening signals c, (Context.start "bus.yaml" .clear addressed).2⟩

/-- A daemon that is asked to restart twice, in two rounds, is replaced once. -/
theorem runIn_signals_twice : ∃ c s s',
    Ready announcing [[.hangUp], [.hangUp]] addressed c s ∧
    [[Signal.hangUp], [.hangUp]].flatten ≠ [] ∧ runLoop s = (.ok .stopped, s') ∧
    s'.context.wishes = [.restart, .restart] ∧ Context.Grounded c.paths ∧
    Cleared c.paths addressed (leave .initial announcing (.rounds [[.hangUp], [.hangUp]]) addressed) ∧
    (runIn none announcing (.rounds [[.hangUp], [.hangUp]]) addressed).world.commands =
      [["python", "-m", "busd", "--config-file=bus.yaml", "--print-address"]] := by
  have hsome : addressedContext?.isSome = true := by decide +kernel
  have hannounced : addressedContext?.map (fun c =>
      (addressedStage [[.hangUp], [.hangUp]] c).1.toOption) = some (some true) := by decide +kernel
  have hheard : addressedContext?.map (fun c =>
      (runLoop (addressedStage [[.hangUp], [.hangUp]] c).2).2.context.wishes) =
        some [.restart, .restart] := by decide +kernel
  have hpaths : addressedContext?.map (·.paths) = some ["bus.sock"] := by decide +kernel
  obtain ⟨c, hc⟩ := Option.isSome_iff_exists.1 hsome
  rw [hc] at hannounced hheard hpaths
  have hready : Ready announcing [[.hangUp], [.hangUp]] addressed c
      (addressedStage [[.hangUp], [.hangUp]] c).2 :=
    ready_of_start (Context.started_of_some hc) (ok_of_toOption (Option.some.inj hannounced))
  have hflatten : [[Signal.hangUp], [.hangUp]].flatten ≠ [] := by decide
  have hgrounded : Context.Grounded c.paths := by
    have hpath := Option.some.inj hpaths
    dsimp only at hpath
    rw [hpath]
    simp [Context.Grounded, Path.isAbstract]
  obtain ⟨s', hrun, hends⟩ := runIn_signals hready hflatten
  have hwishes : s'.context.wishes = [.restart, .restart] := by
    have hwishes := Option.some.inj hheard
    dsimp only at hwishes
    rwa [hrun] at hwishes
  obtain ⟨hcleared, -, hcommands⟩ := (hends hwishes).1 hgrounded
  exact ⟨c, _, s', hready, hflatten, hrun, hwishes, hgrounded, hcleared, hcommands.trans (by decide +kernel)⟩

/-- A world with one abstract listen address. -/
def ungrounded : World :=
  { World.empty with
    files := Files.empty.put ["work", "bus.yaml"] (.file [])
    environment := ⟨[(Settings.listenVariable, "unix:path=%00abc")]⟩ }

/-- The daemon as it is about to run its loop there, where a hang-up comes. -/
def ungroundedStage (c : Context) : Except Failure Bool × Stage :=
  announce announcing.options.target
    ⟨.starting, listening [[.hangUp]] c, (Context.start "bus.yaml" .clear ungrounded).2⟩

/-- Over an abstract socket the address is announced and a hang-up is heard, but the daemon breaks off, and no
command is tried. -/
theorem runIn_ungrounded_breaks : ∃ c,
    (Context.start "bus.yaml" .clear ungrounded).1 = .ok (some c, .clear) ∧
    (ungroundedStage c).1 = .ok true ∧ (runLoop (ungroundedStage c).2).2.context.wishes = [.restart] ∧
    (runIn none announcing (.rounds [[.hangUp]]) ungrounded).result = .error .nullCharacter ∧
    (runIn none announcing (.rounds [[.hangUp]]) ungrounded).world.commands = [] := by
  have hcomputed : ((Context.start "bus.yaml" .clear ungrounded).1.toOption.bind (·.1)).map (fun c =>
      ((ungroundedStage c).1.toOption, (runLoop (ungroundedStage c).2).2.context.wishes)) =
        some (some true, [.restart]) := by
    decide +kernel
  have hcommands : (runIn none announcing (.rounds [[.hangUp]]) ungrounded).world.commands = [] := by
    decide +kernel
  have hbroken : Context.isNullCharacter (runIn none announcing (.rounds [[.hangUp]]) ungrounded).result =
      true := by decide +kernel
  obtain ⟨c, hc, hends⟩ := Option.map_eq_some_iff.1 hcomputed
  obtain ⟨hannounced, hwishes⟩ := Prod.ext_iff.1 hends
  exact ⟨c, (Prod.ext_iff.1 (Context.started_of_some hc)).1, ok_of_toOption hannounced, hwishes,
    Context.isNullCharacter_iff.1 hbroken, hcommands⟩

end MessageBus.Daemon
