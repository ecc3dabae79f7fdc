import MessageBus.Proofs.Context.Listening
/-!
The course of a start. Its steps are taken in order, and the first one that does not succeed decides
how it ends: it is an obstacle, which is reported, or a failure, which breaks the start off.
-/
namespace MessageBus.Context

/-- A step that did not succeed and is reported. -/
inductive Obstacle
  | opening (e : SystemError)
  /-- What the reader says of the text is in the report. -/
  | parsing (flaw : String)
  | configuration (fault : Settings.Fault)
  | address (text : String) (fault : Address.Fault)
  | listening (text : String) (e : SystemError)
  | pidFile (path : String) (e : SystemError)

/-- The report of an obstacle. -/
def Obstacle.report (path : String) : Obstacle → Report
  | .opening e =>
    ⟨.ofErrorNumber e.number, "Failed to open \"" ++ path ++ "\": " ++ e.summary, true⟩
  | .parsing flaw => ⟨.failed, "Failed to parse \"" ++ path ++ "\": " ++ flaw, true⟩
  | .configuration fault =>
    ⟨.failed, "Invalid configuration \"" ++ path ++ "\": " ++ fault.message, true⟩
  | .address text fault => ⟨.badAddress, fault.sentence text, true⟩
  | .listening text e =>
    ⟨.ofErrorNumber e.number, "Failed to listen on \"" ++ text ++ "\": " ++ e.summary, true⟩
  | .pidFile file e =>
    ⟨.ofErrorNumber e.number, "Failed to write pid file \"" ++ file ++ "\": " ++ e.summary, true⟩

/-- How a step ends that does not succeed. -/
abbrev StepEnd := Except Failure Obstacle

/-- What a step leaves behind at its end. -/
def StepEnd.setback (path : String) (target : Report.Target) : StepEnd → Setback
  | .error failure => .failed failure
  | .ok obstacle => .reported (target.taking (obstacle.report path))

def readEnd (flaw : List Char → String) : Settings.ReadFault → StepEnd
  | .nullCharacter => .error .nullCharacter
  | .system e => .ok (.opening e)
  | .encoding fault => .error (.encoding fault)
  | .malformed text => .ok (.parsing (flaw text))
  | .document fault => .error (.document fault)
  | .settings fault => .ok (.configuration fault)

def addressEnd (text : String) (fault : Address.Fault) : StepEnd :=
  match fault.unreadable? with
  | some f => .error (.number f)
  | none => .ok (.address text fault)

/-- Errors of the system are reported, and nothing else is. -/
def systemEnd (obstacle : SystemError → Obstacle) : Failure → StepEnd
  | .system e => .ok (obstacle e)
  | failure => .error failure

/-- The settings at a path are read. -/
def Loaded (path : String) (w : World) (settings : Settings) (w' : World) : Prop :=
  ∃ w₁ entries, loadEnvironment w = (none, w₁) ∧ Settings.readEntries w₁.files path = .ok entries ∧
    Settings.make entries (w₁.environment.get Settings.listenVariable) = .ok settings ∧
    w' = w₁.record settings.record

/-- A context with some listeners, and with nothing else yet. -/
def listeningOn (settings : Settings) (ls : List Listener) : Context :=
  { new settings with listeners := ls }

/-- Where a start stops: how the step ends, the addresses that were tried and the listeners that were
bound up to then, and the context and the world at that point. -/
inductive Stops (path : String) (w : World) :
    StepEnd → List Address → List Listener → Option Context → World → Prop
  | environment {fault : Environment.File.Fault} {w₁ : World}
      (henvironment : loadEnvironment w = (some fault, w₁)) :
      Stops path w (.error (.environment fault)) [] [] none w₁
  | reading {fault : Settings.ReadFault} {w₁ : World} (henvironment : loadEnvironment w = (none, w₁))
      (hread : Settings.readEntries w₁.files path = .error fault) :
      Stops path w (readEnd (w₁.platform.flaw path) fault) [] [] none
        { w₁ with log := w₁.log ++ fault.records (w₁.platform.flaw path) path }
  | settings {entries : List (Value × Value)} {fault : Settings.Fault} {w₁ : World}
      (henvironment : loadEnvironment w = (none, w₁))
      (hread : Settings.readEntries w₁.files path = .ok entries)
      (hmake : Settings.make entries (w₁.environment.get Settings.listenVariable) = .error fault) :
      Stops path w (.ok (.configuration fault)) [] [] none w₁
  | address {settings : Settings} {before rest : List String} {text : String} {w₁ w₂ : World}
      {addresses : List Address} {ls : List Listener} {fault : Address.Fault}
      (hload : Loaded path w settings w₁) (hlisten : settings.listen = before ++ text :: rest)
      (hbound : Bound before w₁ addresses ls w₂) (hparse : Address.parse text = .error fault) :
      Stops path w (addressEnd text fault) addresses ls (some (listeningOn settings ls)) w₂
  | listening {settings : Settings} {before rest : List String} {text : String} {w₁ w₂ w₃ : World}
      {addresses : List Address} {ls : List Listener} {a : Address} {failure : Failure}
      (hload : Loaded path w settings w₁) (hlisten : settings.listen = before ++ text :: rest)
      (hbound : Bound before w₁ addresses ls w₂) (hparse : Address.parse text = .ok a)
      (hbind : Listener.bind a w₂ = (.error failure, w₃)) :
      Stops path w (systemEnd (.listening text) failure) (addresses ++ [a]) ls
        (some (listeningOn settings ls)) w₃
  | pidFile {settings : Settings} {name : String} {w₁ w₂ : World} {addresses : List Address}
      {ls : List Listener} {failure : Failure} {files : Files} (hload : Loaded path w settings w₁)
      (hbound : Bound settings.listen w₁ addresses ls w₂) (hname : settings.pidFile? = some name)
      (hmake : makePidFile w₂.platform (Path.normal name) w₂.files = (.error failure, files)) :
      Stops path w (systemEnd (.pidFile (Path.normal name)) failure) addresses ls
        (some (listeningOn settings ls)) { w₂ with files := files }

variable {path text : String} {target : Report.Target} {w w' w₁ : World} {c : Context}
  {settings : Settings} {ls : List Listener} {addresses : List Address} {e : SystemError}
  {kind : Report.Kind} {out : StepEnd} {made : Option Context}

@[simp] theorem new_settings (settings : Settings) : (new settings).settings = settings := rfl

@[simp] theorem listeningOn_settings (settings : Settings) (ls : List Listener) :
    (listeningOn settings ls).settings = settings := rfl

theorem report_because (lead : String) (ht : target.Open) (hlead : '%' ∉ lead.toList)
    (subject reason : String) :
    report kind (lead ++ " \"%s\": %s") [subject, reason] target =
      .reported (target.taking ⟨kind, lead ++ " \"" ++ subject ++ "\": " ++ reason, true⟩) := by
  simp [report, Report.file_because lead ht hlead subject reason]

theorem reportSystem_eq (lead : String) (ht : target.Open) (hlead : '%' ∉ lead.toList)
    (subject : String) (e : SystemError) :
    reportSystem (lead ++ " \"%s\": %s") subject e target =
      .reported (target.taking
        ⟨.ofErrorNumber e.number, lead ++ " \"" ++ subject ++ "\": " ++ e.summary, true⟩) :=
  report_because lead ht hlead subject e.summary

theorem reportRead_eq (ht : target.Open) (flaw : List Char → String) (fault : Settings.ReadFault) :
    reportRead flaw path target fault = (readEnd flaw fault).setback path target := by
  cases fault with
  | nullCharacter | encoding | document => rfl
  | system e => exact reportSystem_eq "Failed to open" ht (by decide) path e
  | malformed text => exact report_because "Failed to parse" ht (by decide) path (flaw text)
  | settings fault => exact report_because "Invalid configuration" ht (by decide) path fault.message

theorem readSettings_of_loaded (h : Loaded path w settings w₁) :
    readSettings path target w = (.ok settings, w₁) := by
  obtain ⟨w₀, entries, henvironment, hread, hmake, rfl⟩ := h
  simp [readSettings, henvironment, hread, hmake]

theorem listen_of_parse_error (ht : target.Open) {fault : Address.Fault}
    (hparse : Address.parse text = .error fault) :
    listen text target w = (.error ((addressEnd text fault).setback path target), w) := by
  rw [listen, Address.parseInto_fault ht hparse, addressEnd]
  cases hport : fault.unreadable? <;> rfl

theorem listen_of_bind_error (ht : target.Open) {a : Address} {failure : Failure}
    (hparse : Address.parse text = .ok a) (hbind : Listener.bind a w = (.error failure, w₁)) :
    listen text target w =
      (.error ((systemEnd (.listening text) failure).setback path target), w₁) := by
  rw [listen]
  simp only [Address.parseInto, hparse, hbind]
  cases failure with
  | system e =>
    have hreport := reportSystem_eq "Failed to listen on" ht (by decide) text e
    exact congrArg (fun setback => (Except.error setback, w₁)) hreport
  | _ => rfl

/-- Setting up stops at the first text that cannot be bound. -/
theorem setUp_of_listen_error {before rest : List String} {w₂ : World} {setback : Setback}
    (hlisten : settings.listen = before ++ text :: rest) (hbound : Bound before w addresses ls w₁)
    (hstuck : listen text target w₁ = (.error setback, w₂)) :
    setUp target (new settings) w = (some setback, listeningOn settings ls, w₂) := by
  have hall : listenAll target settings.listen (new settings) w =
      (some setback, listeningOn settings ls, w₂) := by
    rw [hlisten, listenAll_bound hbound, listenAll, hstuck]
    rfl
  simp only [setUp]
  rw [new_settings, hall]

theorem setUp_of_bound (hbound : Bound settings.listen w addresses ls w₁) :
    setUp target (new settings) w = writePidFile target (listeningOn settings ls) w₁ := by
  have hall : listenAll target settings.listen (new settings) w =
      (none, listeningOn settings ls, w₁) := by
    have hbefore := @listenAll_bound target _ _ _ _ _ hbound [] (new settings)
    rwa [List.append_nil, listenAll] at hbefore
  simp only [setUp]
  rw [new_settings, hall]

theorem writePidFile_of_none (hname : settings.pidFile? = none) :
    writePidFile target (listeningOn settings ls) w = (none, listeningOn settings ls, w) := by
  rw [writePidFile, listeningOn_settings, hname]

theorem writePidFile_of_ok {name : String} {files : Files} (hname : settings.pidFile? = some name)
    (hmake : makePidFile w.platform (Path.normal name) w.files = (.ok (), files)) :
    writePidFile target (listeningOn settings ls) w =
      (none, { listeningOn settings ls with pidFile := some (Path.normal name) },
        { w with files := files }.record ⟨.debug, part, "Wrote pid file " ++ Path.normal name⟩) := by
  rw [writePidFile, listeningOn_settings, hname]
  simp only [hmake]
  rfl

theorem writePidFile_of_error (ht : target.Open) {name : String} {failure : Failure} {files : Files}
    (hname : settings.pidFile? = some name)
    (hmake : makePidFile w.platform (Path.normal name) w.files = (.error failure, files)) :
    writePidFile target (listeningOn settings ls) w =
      (some ((systemEnd (.pidFile (Path.normal name)) failure).setback path target),
        listeningOn settings ls, { w with files := files }) := by
  unfold writePidFile
  rw [listeningOn_settings, hname]
  simp only [hmake]
  cases failure with
  | system e =>
    have hreport := reportSystem_eq "Failed to write pid file" ht (by decide) (Path.normal name) e
    exact congrArg (fun setback => (some setback, listeningOn settings ls, { w with files := files }))
      hreport
  | _ => rfl

/-- The end of a start that stopped: a context that was made is taken down if the step is reported. -/
def takenDown (path : String) (target : Report.Target) (w : World) :
    StepEnd → Option Context → Except Failure (Option Context × Report.Target) × Option Context × World
  | .error failure, made => (.error failure, made, w)
  | .ok obstacle, none => (.ok (none, target.taking (obstacle.report path)), none, w)
  | .ok obstacle, some c =>
    match c.release w with
    | (.ok (), c, w) => (.ok (none, target.taking (obstacle.report path)), some c, w)
    | (.error failure, c, w) => (.error failure, some c, w)

/-- A start is set back, before there is a context or while one is set up. -/
inductive SetBack (path : String) (target : Report.Target) (w : World) (setback : Setback) :
    Option Context → World → Prop
  | reading {w₁ : World} (h : readSettings path target w = (.error setback, w₁)) :
      SetBack path target w setback none w₁
  | settingUp {settings : Settings} {c : Context} {w₁ w₂ : World}
      (hread : readSettings path target w = (.ok settings, w₁))
      (h : setUp target (new settings) w₁ = (some setback, c, w₂)) : SetBack path target w setback (some c) w₂

/-- A start is set back by the step where it stops. -/
theorem setBack_of_stops (ht : target.Open) (h : Stops path w out addresses ls made w₁) :
    SetBack path target w (out.setback path target) made w₁ := by
  cases h with
  | environment henvironment => exact .reading (by simp [readSettings, henvironment]; rfl)
  | reading henvironment hread =>
    apply SetBack.reading
    simp [readSettings, henvironment, hread, reportRead_eq ht]
  | settings henvironment hread hmake =>
    apply SetBack.reading
    simp [readSettings, henvironment, hread, hmake, reportRead_eq ht, readEnd]
  | address hload hlisten hbound hparse =>
    exact .settingUp (readSettings_of_loaded hload)
      (setUp_of_listen_error hlisten hbound (listen_of_parse_error ht hparse))
  | listening hload hlisten hbound hparse hbind =>
    exact .settingUp (readSettings_of_loaded hload)
      (setUp_of_listen_error hlisten hbound (listen_of_bind_error ht hparse hbind))
  | pidFile hload hbound hname hmake =>
    exact .settingUp (readSettings_of_loaded hload)
      ((setUp_of_bound hbound).trans (writePidFile_of_error ht hname hmake))

theorem SetBack.unique {setback setback' : Setback} {made' : Option Context} {w₂ : World}
    (h : SetBack path target w setback made w₁) (h' : SetBack path target w setback' made' w₂) :
    setback = setback' := by
  cases h with
  | reading h =>
    cases h' with
    | reading h' =>
      cases h.symm.trans h'
      rfl
    | settingUp hread => cases h.symm.trans hread
  | settingUp hread h =>
    cases h' with
    | reading h' => cases hread.symm.trans h'
    | settingUp hread' h' =>
      cases hread.symm.trans hread'
      cases h.symm.trans h'
      rfl

theorem attempt_of_setBack (h : SetBack path target w (out.setback path target) made w₁) :
    attempt path target w = takenDown path target w₁ out made := by
  cases h with
  | reading h =>
    rw [attempt, h]
    cases out <;> rfl
  | @settingUp _ c _ _ hread h =>
    rw [attempt, hread]
    simp only [h]
    cases out with
    | error failure => rfl
    | ok obstacle =>
      rcases hrelease : c.release w₁ with ⟨r, c', w'⟩
      cases r <;> simp [StepEnd.setback, takenDown, hrelease]

/-- A start ends as the step ends where it stops. -/
theorem attempt_of_stops (ht : target.Open) (h : Stops path w out addresses ls made w₁) :
    attempt path target w = takenDown path target w₁ out made :=
  attempt_of_setBack (setBack_of_stops ht h)

/-- All steps of a start succeed, up to a context with its listeners and its pid file. -/
def Built (path : String) (w : World) (c : Context) (w' : World) : Prop :=
  ∃ settings w₁ addresses ls w₂, Loaded path w settings w₁ ∧
    Bound settings.listen w₁ addresses ls w₂ ∧
    ∀ target, writePidFile target (listeningOn settings ls) w₂ = (none, c, w')

theorem attempt_of_built (h : Built path w c w₁) :
    attempt path target w =
      match c.announceReady w₁ with
      | .ok w' => (.ok (some c, target), some c, w')
      | .error failure => (.error failure, some c, w₁) := by
  obtain ⟨settings, w₀, addresses, ls, w₂, hload, hbound, hpid⟩ := h
  rw [attempt, readSettings_of_loaded hload]
  cases hready : c.announceReady w₁ <;> simp [setUp_of_bound hbound, hpid, hready]

theorem attempt_of_start {r : Except Failure (Option Context × Report.Target)}
    (h : start path target w = (r, w')) : ∃ made, attempt path target w = (r, made, w') := by
  rcases hattempt : attempt path target w with ⟨r₁, made, w₁⟩
  rw [start, hattempt] at h
  cases h
  exact ⟨made, rfl⟩

/-- A context that is ready has a bus type, and is told of in one line. -/
theorem announceReady_ok (h : c.announceReady w = .ok w') :
    (∃ kind, c.settings.busType = .ok kind) ∧ ∃ r : Log.Record, r.level = .info ∧ w' = w.record r := by
  unfold announceReady at h
  split at h
  · cases h
  · rename_i kind hkind
    obtain ⟨address, -, rfl⟩ := map_ok.1 h
    exact ⟨⟨kind, hkind⟩, _, rfl, rfl⟩

/-- Nothing sets a start back that is built. -/
theorem Built.not_setBack (h : Built path w c w₁) {setback : Setback} {w₂ : World} :
    ¬ SetBack path target w setback made w₂ := by
  obtain ⟨settings, w₀, addresses, ls, w₃, hload, hbound, hpid⟩ := h
  intro hback
  cases hback with
  | reading hread => cases hread.symm.trans (readSettings_of_loaded hload)
  | settingUp hread hset =>
    cases hread.symm.trans (readSettings_of_loaded hload)
    cases hset.symm.trans ((setUp_of_bound hbound).trans (hpid target))

theorem loaded_or_stops (path : String) (w : World) :
    (∃ settings w₁, Loaded path w settings w₁) ∨ ∃ out w₁, Stops path w out [] [] none w₁ := by
  rcases henvironment : loadEnvironment w with ⟨fault?, w₁⟩
  cases fault? with
  | some fault => exact .inr ⟨_, _, .environment henvironment⟩
  | none =>
    cases hread : Settings.readEntries w₁.files path with
    | error fault => exact .inr ⟨_, _, .reading henvironment hread⟩
    | ok entries =>
      cases hmake : Settings.make entries (w₁.environment.get Settings.listenVariable) with
      | error fault => exact .inr ⟨_, _, .settings henvironment hread hmake⟩
      | ok settings => exact .inl ⟨settings, _, w₁, entries, henvironment, hread, hmake, rfl⟩

theorem built_or_stops (path : String) (w : World) :
    (∃ c w', Built path w c w') ∨
    ∃ out addresses ls made w₁, Stops path w out addresses ls made w₁ := by
  obtain ⟨settings, w₁, hload⟩ | ⟨out, w₁, hstops⟩ := loaded_or_stops path w
  · obtain ⟨addresses, ls, w₂, hbound⟩ |
      ⟨before, text, rest, addresses, ls, w₂, hlisten, hbound, hstuck⟩ :=
        bound_or_stuck settings.listen w₁
    · cases hname : settings.pidFile? with
      | none =>
        exact .inl ⟨_, _, settings, w₁, addresses, ls, w₂, hload, hbound,
          fun _ => writePidFile_of_none hname⟩
      | some name =>
        rcases hmake : makePidFile w₂.platform (Path.normal name) w₂.files with ⟨r, files⟩
        cases r with
        | error failure => exact .inr ⟨_, _, _, _, _, .pidFile hload hbound hname hmake⟩
        | ok done =>
          exact .inl ⟨_, _, settings, w₁, addresses, ls, w₂, hload, hbound,
            fun _ => writePidFile_of_ok hname hmake⟩
    · obtain ⟨fault, hparse⟩ | ⟨a, failure, w₃, hparse, hbind⟩ := hstuck
      · exact .inr ⟨_, _, _, _, _, .address hload hlisten hbound hparse⟩
      · exact .inr ⟨_, _, _, _, _, .listening hload hlisten hbound hparse hbind⟩
  · exact .inr ⟨out, [], [], none, w₁, hstops⟩

end MessageBus.Context
