import MessageBus.Proofs.Announcement
import MessageBus.Proofs.Context.Furnishing
import MessageBus.Proofs.Daemon.TakeDown
/-!
How the life of a daemon ends that does not break off. Main statement: its status tells whether it started,
announced itself and was not kept from being replaced; a failure is logged once, or twice if it could not be
told what stands at the path of a listen address, and nothing is left of its bus but a pid file that was cut
short.
-/
namespace MessageBus.Daemon
variable {names : List String} {s s' : Stage} {c c' : Context} {w w' : World} {i : Invocation}
  {arrival : Arrival} {descriptor : Option Nat} {status : Status} {signals : List (List Signal)}
  {state : State} {target : Report.Target} {made : Option Context}

/-- The announcement, if one is asked for, is written as a whole. -/
def Announced (descriptor : Option Nat) (c : Context) (w : World) : Prop :=
  ∀ d, descriptor = some d → ∃ address, c.address = .ok address ∧ Announcement.Written address d w

/-- The errors that are logged for a status. -/
def Status.errors : Status → Nat
  | .success => 0
  | .failure => 1

/-! ### Starting -/

/-- The loop of a daemon that is about to run. -/
def heeding : BusLoop :=
  { (Loop.empty : BusLoop) with
    handlers := [(.hangUp, .wish .restart), (.interrupt, .wish .quit), (.terminate, .wish .quit)] }

theorem installHandlers_built {path : String} (hbuilt : Context.Built path w c w') :
    installHandlers c = .ok { c with loop := heeding } := by
  obtain ⟨settings, listeners, pidFile, rfl⟩ := Context.built_fresh hbuilt
  rfl

theorem calm_heeding (signals : List (List Signal)) : Calm { heeding with coming := signals } where
  opened := rfl
  heeds s := by cases s <;> rfl
  finished := by simp [heeding, Loop.empty]
  light := by simp [heeding, Loop.empty]

/-- A daemon that hears signals. -/
def listening (signals : List (List Signal)) (c : Context) : Context :=
  { c with loop := { heeding with coming := signals } }

theorem sound_listening {path : String} {w₁ : World} (hbuilt : Context.Built path w c w₁)
    (hstanding : Context.Standing w'.files c.paths) (phase : Phase) :
    Sound c.paths ⟨phase, listening signals c, w'⟩ := by
  have hpid : ∀ name, c.pidFile = some name → Path.isAbstract name = false :=
    fun _ => Context.built_pidFile hbuilt
  obtain ⟨settings, listeners, pidFile, rfl⟩ := Context.built_fresh hbuilt
  exact ⟨rfl, rfl, rfl, calm_heeding signals, hpid, rfl, hstanding⟩

/-- An announcement that does not break off leaves the bus as it is. It is an error that is logged if it
was not written as a whole. -/
theorem announce_ok {went : Bool} (h : announce descriptor s = (.ok went, s')) :
    s'.context = s.context ∧ s'.world.files = s.world.files ∧
      (went = true ↔ Announced descriptor s.context s.world) ∧
      s.world.Proceeds (if went then 0 else 1) s'.world := by
  unfold announce at h
  split at h
  · cases h
    exact ⟨rfl, rfl, by simp [Announced], .refl _⟩
  · rename_i d
    split at h
    · cases h
    · rename_i address haddress
      have hmeans : Announced (some d) s.context s.world ↔ Announcement.Written address d s.world := by
        simp [Announced, haddress]
      split at h
      · cases h
      · rename_i after w' hannounced
        obtain ⟨hfiles, hproceeds, hwent⟩ := Announcement.announce_written hannounced
        cases h
        exact ⟨rfl, hfiles, hwent.trans hmeans.symm, hproceeds⟩
      · rename_i after w' hannounced
        obtain ⟨hfiles, hproceeds, hwent⟩ := Announcement.announce_written hannounced
        cases h
        exact ⟨rfl, hfiles, hwent.trans hmeans.symm, hproceeds.trans (World.proceeds_error w' rfl)⟩

/-! ### Running -/

theorem Sound.of_same (hs : Sound names s) (hcontext : s'.context = s.context)
    (hfiles : s'.world.files = s.world.files) : Sound names s' := by
  obtain ⟨hreferences, hunshut, hconnections, hcalm, hpid, hpaths, hstanding⟩ := hs
  rw [← hcontext] at hreferences hunshut hconnections hcalm hpid hpaths
  rw [← hfiles] at hstanding
  exact ⟨hreferences, hunshut, hconnections, hcalm, hpid, hpaths, hstanding⟩

theorem logWish_same (s : Stage) : (logWish s).context = s.context ∧ (logWish s).phase = s.phase ∧
    (logWish s).world.files = s.world.files ∧ s.world.Proceeds 0 (logWish s).world := by
  unfold logWish
  split
  · exact ⟨rfl, rfl, rfl, World.proceeds_record _ rfl⟩
  · split
    · exact ⟨rfl, rfl, rfl, World.proceeds_record _ rfl⟩
    · exact ⟨rfl, rfl, rfl, .refl _⟩

/-- What the loop of a sound bus does with the context and the world. -/
theorem run_sound {limit : Nat} {r : Except Failure Loop.RunEnd} (hc : Calm c.loop)
    (h : c.run limit w = (r, c', w')) :
    w' = w ∧ ∃ l heard, c' = { c with loop := l, wishes := c.wishes ++ heard } ∧
      Calm l ∧ pending c.loop = heard ++ pending l := by
  unfold Context.run at h
  rcases hrun : c.loop.run Traffic.behaviour limit (c.traffic w) with ⟨r', l, t⟩
  obtain ⟨⟨hcalm, heard, rfl, hpending⟩, ending, rfl⟩ := run_calm hc hrun
  simp only [hrun] at h
  cases h
  exact ⟨rfl, l, heard, rfl, hcalm, hpending⟩

/-- A run keeps the bus sound. What was heard over it was due to be heard. -/
theorem runLoop_ok {ending : Loop.RunEnd} (hs : Sound names s) (h : runLoop s = (.ok ending, s')) :
    Sound names s' ∧ s'.world.files = s.world.files ∧ s.world.Proceeds 0 s'.world ∧
      ∃ heard, s'.context.wishes = s.context.wishes ++ heard ∧
        pending s.context.loop = heard ++ pending s'.context.loop := by
  unfold runLoop at h
  split at h
  · cases h
  · rename_i kind hkind
    dsimp only at h
    split at h
    · cases h
    · rename_i ending' c' w' hrun
      obtain ⟨hworld, l, heard, rfl, hcalm, hpending⟩ := run_sound hs.calm hrun
      obtain ⟨hcontext, -, hfiles, hproceeds⟩ := logWish_same ⟨.stopping,
        { s.context with loop := l, wishes := s.context.wishes ++ heard }, w'⟩
      have hrecorded : s.world.Proceeds 0 w' := by
        rw [hworld]
        exact World.proceeds_record _ rfl
      have hran : Sound names ⟨.stopping,
          { s.context with loop := l, wishes := s.context.wishes ++ heard }, w'⟩ := by
        refine ⟨hs.references, hs.unshut, hs.connections, hcalm, hs.pidFile, hs.paths, ?_⟩
        rw [hworld]
        exact hs.standing
      cases h
      refine ⟨hran.of_same hcontext hfiles, ?_, hrecorded.trans hproceeds, heard, ?_, ?_⟩
      · rw [hfiles, hworld]
        rfl
      · rw [hcontext]
      · rw [hcontext]
        exact hpending

/-- What a daemon does with its bus keeps the bus sound. It succeeds if the announcement does, and logs
an error otherwise. -/
theorem operate_ok (hinstall : installHandlers c = .ok { c with loop := heeding }) {phase : Phase}
    (hs : Sound names ⟨phase, listening signals c, w⟩)
    (h : operate descriptor (.rounds signals) ⟨phase, c, w⟩ = (.ok status, s')) :
    Sound names s' ∧ s'.world.files = w.files ∧ (status = .success ↔ Announced descriptor c w) ∧
      w.Proceeds status.errors s'.world := by
  simp only [operate, hinstall] at h
  split at h
  · cases h
  · rename_i s₁ hannounce
    obtain ⟨hcontext, hfiles, hwent, hproceeds⟩ := announce_ok hannounce
    cases h
    refine ⟨hs.of_same hcontext hfiles, hfiles, ⟨fun hsuccess => ?_, fun hannounced => ?_⟩, hproceeds⟩
    · cases hsuccess
    · exact absurd (hwent.2 hannounced) Bool.false_ne_true
  · rename_i s₁ hannounce
    obtain ⟨hcontext, hfiles, hwent, hproceeds⟩ := announce_ok hannounce
    split at h
    · cases h
    · rename_i ending s₂ hrun
      obtain ⟨hsound, hsame, hran, -⟩ := runLoop_ok (hs.of_same hcontext hfiles) hrun
      cases h
      exact ⟨hsound, hsame.trans hfiles, ⟨fun _ => hwent.1 rfl, fun _ => rfl⟩, hproceeds.quiet hran⟩

/-! ### Ending -/

/-- A daemon ends with the status that it came to, or breaks off. -/
theorem conclude_status {r : Except Failure Status} (h : conclude r s = (.ok status, s')) :
    r = .ok status := by
  unfold conclude at h
  split at h
  · cases h
  · split at h <;> cases h <;> rfl

/-- The end of a daemon whose bus is sound: the bus is taken down. -/
theorem conclude_ok (hs : Sound names s) {r : Except Failure Status}
    (h : conclude r s = (.ok status, s')) :
    s'.context.loop.closed = true ∧ Context.TakenAway names s.world.files s'.world.files ∧
      s.world.Proceeds 0 s'.world := by
  unfold conclude at h
  obtain ⟨-, s₁, htear, htaken⟩ | ⟨-, s₁, htear, -⟩ := tearDown_cases hs
  · rw [htear] at h
    dsimp only at h
    split at h
    · cases h
      exact ⟨htaken.closed, htaken.taken, htaken.proceeds.quiet (World.proceeds_record _ rfl)⟩
    · cases h
      exact ⟨htaken.closed, htaken.taken, htaken.proceeds⟩
  · rw [htear] at h
    cases h

/-- The life of a daemon that has a context and does not break off. -/
theorem live_ok {path : String} {w₁ : World} (hbuilt : Context.Built path w₁ c w')
    (hstanding : Context.Standing w.files c.paths)
    (h : (live i arrival c w).result = .ok status) :
    (status = .success ↔ Announced i.options.target c w) ∧
      (∀ c', (live i arrival c w).context = some c' → c'.loop.closed = true) ∧
      Context.TakenAway c.paths w.files (live i arrival c w).world.files ∧
      w.Proceeds status.errors (live i arrival c w).world := by
  have hinstall := installHandlers_built hbuilt
  rcases hoperate : operate i.options.target arrival ⟨.starting, c, w⟩ with ⟨r, s₁⟩
  rcases hconclude : conclude r s₁ with ⟨r₂, s₂⟩
  simp only [live, hoperate, hconclude] at h ⊢
  subst h
  obtain rfl := conclude_status hconclude
  cases arrival with
  | interruption =>
    simp only [operate, hinstall] at hoperate
    cases hoperate
  | rounds signals =>
    obtain ⟨hsound, hfiles, hannounced, hproceeds⟩ :=
      operate_ok hinstall (sound_listening hbuilt hstanding .starting) hoperate
    obtain ⟨hclosed, htaken, htakes⟩ := conclude_ok hsound hconclude
    refine ⟨hannounced, fun c' hc' => ?_, hfiles ▸ htaken, hproceeds.quiet htakes⟩
    cases hc'
    exact hclosed

/-- The daemon starts, and announces itself as it was asked to. -/
def Launches (i : Invocation) (w : World) : Prop :=
  ∃ c w₁, Context.start i.options.path .clear w = (.ok (some c, .clear), w₁) ∧ Announced i.options.target c w₁

/-- Nothing is left of a daemon: its seat is free, its loop is closed, and its files are gone. -/
structure NothingLeft (i : Invocation) (w : World) (o : Outcome) : Prop where
  seat : o.seat = none
  closed : ∀ c, o.context = some c → c.loop.closed = true
  gone : ∀ names, Context.Makes i.options.path w names →
    ∀ name ∈ names, o.world.files.look (.ofText name) = .error .notFound
  /-- There is nothing new in the tree but directories, and a pid file that was cut short. -/
  new : ∀ p node, o.world.files.find? p = some node → node = .directory ∨ w.files.find? p = some node ∨
    ∃ name, Context.CutShort w.platform name o.world.files p

/-- What was logged: an error for a failure, and one more if it could not be told what stands at the path of a
listen address; and then it fails. -/
def Logged (i : Invocation) (w : World) (status : Status) (records : List Log.Record) : Prop :=
  (¬ Context.Complains i.options.path w → records.countP (·.level == .error) = status.errors) ∧
  (Context.Complains i.options.path w →
    status = .failure ∧ records.countP (·.level == .error) = 2)

/-- The life of a daemon up to the point where its seat is free. -/
structure Left (i : Invocation) (w : World) (status : Status) (o : Outcome) : Prop where
  success : status = .success ↔ Launches i w
  nothing : NothingLeft i w o
  platform : o.world.platform = w.platform
  logged : ∃ records, o.world.log = w.log ++ records ∧ Logged i w status records
  commands : o.world.commands = w.commands
  replacing : o.world.replacing = w.replacing

/-- A daemon that starts without a context fails. -/
theorem run_failed (hattempt : Context.attempt i.options.path .clear w = (.ok (none, target), made, w')) :
    (run state i arrival w).result = .ok .failure ∧ Left i w .failure (leave state i arrival w) := by
  obtain ⟨hgone, hnew, hclosed, hcomplaining⟩ := Context.attempt_none Report.open_clear hattempt
  rw [leave, run, hattempt]
  have hfailed := World.proceeds_error w' (r := ⟨.error, part,
    "Failed to start message bus: " ++ (target.report?.map (·.text)).getD ""⟩) rfl
  have hnone : Status.failure = Status.success ↔ Launches i w := by
    refine ⟨fun hsuccess => ?_, ?_⟩
    · cases hsuccess
    · rintro ⟨c, w₁, hstarted, -⟩
      rw [Context.start, hattempt] at hstarted
      cases hstarted
  obtain ⟨n, hall, hlogged⟩ : ∃ n, w.Proceeds n (w'.record ⟨.error, part,
        "Failed to start message bus: " ++ (target.report?.map (·.text)).getD ""⟩) ∧
      ∀ records : List Log.Record, records.countP (·.level == .error) = n → Logged i w .failure records := by
    obtain ⟨hcomplains, hproceeds⟩ | ⟨hcalm, hproceeds⟩ := hcomplaining
    · exact ⟨_, hproceeds.trans hfailed, fun records hcount =>
        ⟨fun hcalm => absurd hcomplains hcalm, fun _ => ⟨rfl, hcount⟩⟩⟩
    · exact ⟨_, hproceeds.trans hfailed, fun records hcount =>
        ⟨fun _ => hcount, fun hcomplains => absurd hcomplains hcalm⟩⟩
  obtain ⟨records, hlog, hcount⟩ := hall.log
  exact ⟨rfl, hnone, ⟨rfl, hclosed, hgone, hnew⟩, hall.platform, ⟨records, hlog, hlogged records hcount⟩,
    hall.commands, hall.replacing⟩

/-- A daemon that starts with a context succeeds if it announces itself as it was asked to. -/
theorem run_lived (hattempt : Context.attempt i.options.path .clear w = (.ok (some c, target), made, w'))
    (h : (run state i arrival w).result = .ok status) : Left i w status (leave state i arrival w) := by
  have hrun : run state i arrival w = live i arrival c w' := by rw [run, hattempt]
  rw [leave]
  rw [hrun] at h ⊢
  obtain ⟨w₁, hbuilt, -, hstanding, hcalm, hproceeds⟩ := Context.attempt_some hattempt
  obtain rfl := Context.attempt_target_of_some hattempt
  obtain ⟨hannounced, hclosed, htaken, hlived⟩ := live_ok hbuilt hstanding h
  have hstarted : Context.start i.options.path .clear w = (.ok (some c, .clear), w') := by
    rw [Context.start, hattempt]
  have hall : w.Proceeds status.errors (live i arrival c w').world := by
    have htrans := hproceeds.trans hlived
    rwa [Nat.zero_add] at htrans
  obtain ⟨records, hlog, hcount⟩ := hall.log
  refine ⟨⟨fun hsuccess => ⟨c, w', hstarted, hannounced.1 hsuccess⟩, ?_⟩,
    ⟨rfl, hclosed, fun names hmakes => ?_, fun p node hp => ?_⟩, hall.platform,
    ⟨records, hlog, fun _ => hcount, fun hcomplains => absurd hcomplains hcalm⟩, hall.commands,
    hall.replacing⟩
  · rintro ⟨c', w₂, hstarted', hannounced'⟩
    rw [hstarted] at hstarted'
    cases hstarted'
    exact hannounced.2 hannounced'
  · obtain rfl := hmakes.unique (.built hbuilt)
    exact htaken.gone
  · obtain ⟨hfree, hwas⟩ := htaken.find? hp
    obtain hsame | ⟨-, hnew, -⟩ := (Context.furnished_of_start hstarted).others p hfree
    · exact .inr (.inl (hsame.symm.trans hwas))
    · exact .inl (Option.some.inj (hwas.symm.trans hnew))

/-- The life of a daemon up to the point where its seat is free again. -/
theorem run_left (h : (run state i arrival w).result = .ok status) :
    Left i w status (leave state i arrival w) := by
  rcases hattempt : Context.attempt i.options.path .clear w with ⟨failure | ⟨none | c, target⟩, made, w'⟩
  · rw [run, hattempt] at h
    cases h
  · obtain ⟨hresult, hfailed⟩ := @run_failed w w' i arrival state target made hattempt
    rw [hresult] at h
    cases h
    exact hfailed
  · exact run_lived hattempt h

/-! ### Being replaced -/

/-- The commands that are tried in place of the program: one, unless what was printed is kept from coming
out. -/
def tried (i : Invocation) (w : World) : List (List String) :=
  if w.flush.isNone then [CommandLine.restartCommand i.arguments i.options.target i.whole i.visible] else []

/-- The line that is logged before the daemon is replaced. -/
def restarting (i : Invocation) : Log.Record :=
  ⟨.info, part, "Restarting message bus: " ++ String.intercalate " "
    (CommandLine.restartCommand i.arguments i.options.target i.whole i.visible)⟩

/-- The world once the command was tried in place of the program. -/
def retried (i : Invocation) (w : World) : World :=
  { w.record (restarting i) with
    commands := w.commands ++ [CommandLine.restartCommand i.arguments i.options.target i.whole i.visible] }

/-- How being replaced ends: what was printed does not come out, which is logged if the system says so; or the
command is tried, and it is logged if that fails. -/
theorem restart_cases (i : Invocation) (w : World) :
    (∃ fault failure, w.flush = some fault ∧ restart i w = (.error failure, w.record (restarting i))) ∨
    (∃ fault e, w.flush = some fault ∧ restart i w = restart.refused e (w.record (restarting i))) ∨
    (w.flush = none ∧ w.replacing = none ∧ restart i w = (.ok .success, retried i w)) ∨
    ∃ e, w.flush = none ∧ w.replacing = some e ∧ restart i w = restart.refused e (retried i w) := by
  have hflush := World.flush_record w (restarting i)
  have hreplace : ∀ command, (w.record (restarting i)).replace command =
      (w.replacing, { w.record (restarting i) with commands := w.commands ++ [command] }) := fun _ => rfl
  unfold restarting at hflush hreplace
  unfold restart
  dsimp only
  rw [hflush, hreplace]
  cases hfault : w.flush with
  | some fault =>
    cases fault with
    | missing | closed => exact .inl ⟨_, _, rfl, rfl⟩
    | system e => exact .inr (.inl ⟨_, e, rfl, rfl⟩)
  | none =>
    cases hreplacing : w.replacing with
    | none => exact .inr (.inr (.inl ⟨rfl, rfl, rfl⟩))
    | some e => exact .inr (.inr (.inr ⟨e, rfl, rfl, rfl⟩))

theorem restart_files (i : Invocation) (w : World) : (restart i w).2.files = w.files := by
  obtain ⟨_, _, -, h⟩ | ⟨_, _, -, h⟩ | ⟨-, -, h⟩ | ⟨_, -, -, h⟩ := restart_cases i w <;> rw [h] <;> rfl

theorem restart_commands (i : Invocation) (w : World) :
    (restart i w).2.commands = w.commands ++ tried i w := by
  unfold tried
  obtain ⟨_, _, hflush, h⟩ | ⟨_, _, hflush, h⟩ | ⟨hflush, -, h⟩ | ⟨_, hflush, -, h⟩ := restart_cases i w <;>
    rw [h, hflush]
  · exact (List.append_nil _).symm
  · exact (List.append_nil _).symm
  · rfl
  · rfl

/-- A daemon that is to be replaced succeeds if what was printed comes out and the command takes its place.
An error is logged otherwise. -/
theorem restart_ok (h : (restart i w).1 = .ok status) :
    (status = .success ↔ w.flush = none ∧ w.replacing = none) ∧
      ∃ records, (restart i w).2.log = w.log ++ records ∧
        records.countP (·.level == .error) = status.errors := by
  obtain ⟨_, _, -, heq⟩ | ⟨_, e, hflush, heq⟩ | ⟨hflush, hreplacing, heq⟩ | ⟨e, hflush, hreplacing, heq⟩ :=
    restart_cases i w <;> rw [heq] at h ⊢
  · cases h
  · cases h
    exact ⟨by simp [hflush], [_, _], List.append_assoc _ _ _, rfl⟩
  · cases h
    exact ⟨by simp [hflush, hreplacing], [_], rfl, rfl⟩
  · cases h
    exact ⟨by simp [hreplacing], [_, _], List.append_assoc _ _ _, rfl⟩

/-- Being replaced leaves nothing of a daemon behind. -/
theorem NothingLeft.replaced {o : Outcome} (h : NothingLeft i w o) :
    NothingLeft i w (o.replaced i) := by
  have hfiles : (o.replaced i).world.files = o.world.files := restart_files i o.world
  refine ⟨h.seat, h.closed, fun names hmakes name hname => ?_, fun p node hp => ?_⟩
  · rw [hfiles]
    exact h.gone names hmakes name hname
  · rw [hfiles] at hp ⊢
    exact h.new p node hp

theorem success_of_wantsRestart (h : (leave state i arrival w).wantsRestart = true) :
    (run state i arrival w).result = .ok .success := by
  unfold Outcome.wantsRestart at h
  split at h
  · assumption
  · cases h

/-- What is true once the life of a daemon is over that did not break off. -/
structure Settled (i : Invocation) (arrival : Arrival) (w : World) (status : Status) (o : Outcome) :
    Prop where
  /-- It succeeds if it started, announced itself as it was asked to, and was not kept from being
  replaced. -/
  success : status = .success ↔ Launches i w ∧
    ((leave .initial i arrival w).wantsRestart = true → w.flush = none ∧ w.replacing = none)
  /-- A command was tried if the daemon was to be replaced. -/
  commands : o.world.commands = w.commands ++
    if (leave .initial i arrival w).wantsRestart then tried i w else []
  logged : ∃ records, o.world.log = w.log ++ records ∧ Logged i w status records
  nothing : NothingLeft i w o

/-- A daemon that announces its address on the standard output. -/
def announcing : Invocation :=
  ⟨["--config-file=bus.yaml", "--print-address"], ⟨"bus.yaml", .configFile, some 1⟩,
    ["python", "-m", "busd", "--config-file=bus.yaml", "--print-address"],
    ["busd", "--config-file=bus.yaml", "--print-address"]⟩

/-- A world with one listen address. -/
def addressed : World :=
  { World.empty with
    files := Files.empty.put ["work", "bus.yaml"] (.file [])
    environment := ⟨[(Settings.listenVariable, "unix:path=bus.sock")]⟩ }

/-- That world, in which the program cannot be replaced. -/
def unreplaceable : World := { addressed with replacing := some (.numbered 8 "Exec format error") }

/-- A world with a listen address below a file, where all records are collected. -/
def sunken : World :=
  { addressed with
    environment := ⟨[(Settings.listenVariable, "unix:path=bus.yaml/s")]⟩
    collecting := true }

end MessageBus.Daemon
