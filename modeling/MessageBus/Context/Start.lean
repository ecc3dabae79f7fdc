import MessageBus.Context
/-!
How a context comes to be: the settings are read, every listen address is bound, and the pid file is
written. The first step that fails is reported to the caller's target, and what was set up before it is
taken down. Main statement: if there is a context, the target is as it was given.
-/
namespace MessageBus.Context

/-- Why a step did not succeed: it was reported, and the target is as given; or it broke off. -/
inductive Setback
  | reported (target : Report.Target)
  | failed (failure : Failure)

/-- Reports a failing step. -/
def report (kind : Report.Kind) (template : String) (arguments : List String)
    (target : Report.Target) : Setback :=
  match target.file kind (.filled template (arguments.map Value.text)) with
  | .ok target => .reported target
  | .error fault => .failed (.report fault)

/-- Reports an error of the system about a path or an address. -/
def reportSystem (template subject : String) (e : SystemError) (target : Report.Target) : Setback :=
  report (.ofErrorNumber e.number) template [subject, e.summary] target

/-- How a fault of reading the settings is reported, where the reader says something of a text that is no
document. -/
def reportRead (flaw : List Char → String) (path : String) (target : Report.Target) :
    Settings.ReadFault → Setback
  | .nullCharacter => .failed .nullCharacter
  | .system e => reportSystem "Failed to open \"%s\": %s" path e target
  | .encoding fault => .failed (.encoding fault)
  | .malformed text => report .failed "Failed to parse \"%s\": %s" [path, flaw text] target
  | .document fault => .failed (.document fault)
  | .settings fault =>
    report .failed "Invalid configuration \"%s\": %s" [path, fault.message] target

/-- Takes the environment file in, if there is one and it is not turned off. -/
def loadEnvironment (w : World) : Option Environment.File.Fault × World :=
  match w.environmentFile with
  | none => (none, w)
  | some text =>
    if Environment.File.isOff w.environment then (none, w)
    else
      let (unreadable, fault, e) := Environment.File.load w.environment text
      let records := unreadable.map fun line =>
        (⟨.warning, "dotenv.main",
          "python-dotenv could not parse statement starting at line " ++ toString line⟩ : Log.Record)
      (fault, { w with
        environment := e
        log := if w.collecting then w.log ++ records else w.log })

/-- The settings in the file at a path. -/
def readSettings (path : String) (target : Report.Target) (w : World) :
    Except Setback Settings × World :=
  match loadEnvironment w with
  | (some fault, w) => (.error (.failed (.environment fault)), w)
  | (none, w) =>
    let flaw := w.platform.flaw path
    match Settings.readEntries w.files path with
    | .error fault =>
      (.error (reportRead flaw path target fault), { w with log := w.log ++ fault.records flaw path })
    | .ok entries =>
      match Settings.make entries (w.environment.get Settings.listenVariable) with
      | .error fault => (.error (reportRead flaw path target (.settings fault)), w)
      | .ok settings => (.ok settings, w.record settings.record)

/-- Binds the listen address that a text writes. -/
def listen (text : String) (target : Report.Target) (w : World) : Except Setback Listener × World :=
  match Address.parseInto target text with
  | .error f => (.error (.failed (.ofAddress f)), w)
  | .ok (none, target) => (.error (.reported target), w)
  | .ok (some a, _) =>
    match Listener.bind a w with
    | (.ok l, w) => (.ok l, w.record ⟨.info, part, "Listening on " ++ l.address⟩)
    | (.error (.system e), w) =>
      (.error (reportSystem "Failed to listen on \"%s\": %s" text e target), w)
    | (.error f, w) => (.error (.failed f), w)

/-- Binds addresses in order, up to the first that fails. -/
def listenAll (target : Report.Target) :
    List String → Context → World → Option Setback × Context × World
  | [], c, w => (none, c, w)
  | text :: rest, c, w =>
    match listen text target w with
    | (.error setback, w) => (some setback, c, w)
    | (.ok l, w) => listenAll target rest { c with listeners := c.listeners ++ [l] } w

/-- What the pid file holds: the number of the process and a line end. -/
def pidContent (process : Nat) : List UInt8 := Text.Utf8.encode (toString process ++ "\n").toList

/-- Writes the pid file with the directories above it. A shortage may cut its content short. -/
def makePidFile (platform : Platform) (path : String) (files : Files) : Except Failure Unit × Files :=
  if Path.hasNull path then (.error .nullCharacter, files)
  else
    let p := Path.ofText path
    match files.makeDirectories (p.parts.length + 1) p.parent with
    | (some e, files) => (.error (.system e), files)
    | (none, files) =>
      let (written, shortage) := platform.fit (pidContent platform.process)
      match files.write path written with
      | .error e => (.error (.system e), files)
      | .ok files => (shortage.elim (.ok ()) fun e => .error (.system e), files)

/-- Writes the pid file, if one is configured. -/
def writePidFile (target : Report.Target) (c : Context) (w : World) :
    Option Setback × Context × World :=
  match c.settings.pidFile? with
  | none => (none, c, w)
  | some text =>
    let path := Path.normal text
    match makePidFile w.platform path w.files with
    | (.ok (), files) =>
      (none, { c with pidFile := some path },
        { w with files := files }.record ⟨.debug, part, "Wrote pid file " ++ path⟩)
    | (.error (.system e), files) =>
      (some (reportSystem "Failed to write pid file \"%s\": %s" path e target), c,
        { w with files := files })
    | (.error f, files) => (some (.failed f), c, { w with files := files })

/-- Binds the listen addresses and writes the pid file. -/
def setUp (target : Report.Target) (c : Context) (w : World) : Option Setback × Context × World :=
  match listenAll target c.settings.listen c w with
  | (none, c, w) => writePidFile target c w
  | failed => failed

/-- Logs that the context is ready. -/
def announceReady (c : Context) (w : World) : Except Failure World :=
  match c.settings.busType with
  | .error fault => .error (.number fault)
  | .ok kind =>
    c.address.map fun address =>
      w.record ⟨.info, part, "Message bus (" ++ kind ++ ") ready on " ++ address⟩

/-- Starts a context with the settings at a path. There is none if a step failed that was reported.
Beside the outcome stands the context that was made on the way, as it was left. -/
def attempt (path : String) (target : Report.Target) (w : World) :
    Except Failure (Option Context × Report.Target) × Option Context × World :=
  match readSettings path target w with
  | (.error (.failed f), w) => (.error f, none, w)
  | (.error (.reported target), w) => (.ok (none, target), none, w)
  | (.ok settings, w) =>
    match setUp target (.new settings) w with
    | (some (.failed f), c, w) => (.error f, some c, w)
    | (some (.reported target), c, w) =>
      match c.release w with
      | (.ok (), c, w) => (.ok (none, target), some c, w)
      | (.error f, c, w) => (.error f, some c, w)
    | (none, c, w) =>
      match c.announceReady w with
      | .ok w => (.ok (some c, target), some c, w)
      | .error f => (.error f, some c, w)

/-- Starts a context. What was made of one that failed is left to itself. -/
def start (path : String) (target : Report.Target) (w : World) :
    Except Failure (Option Context × Report.Target) × World :=
  let (r, _, w) := attempt path target w
  (r, w)

theorem attempt_target_of_some {path : String} {target after : Report.Target} {w w' : World}
    {c : Context} {made : Option Context}
    (h : attempt path target w = (.ok (some c, after), made, w')) : after = target := by
  unfold attempt at h
  split at h
  · simp at h
  · simp at h
  · split at h
    · simp at h
    · split at h <;> simp at h
    · split at h <;> simp_all

theorem start_target_of_some {path : String} {target after : Report.Target} {w w' : World}
    {c : Context} (h : start path target w = (.ok (some c, after), w')) : after = target := by
  obtain ⟨hresult, -⟩ := Prod.ext_iff.1 h
  exact attempt_target_of_some (Prod.ext hresult rfl)

end MessageBus.Context
