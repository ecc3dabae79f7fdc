import MessageBus.Proofs.Context.Breaking
import MessageBus.Proofs.Context.Standing
/-!
A start that breaks off. Its context is left to itself: the loop stays open, and the sockets and the pid
file stay in the tree, but for what the failing step or taking the context down removed. Only a start that
makes no context leaves nothing.
-/
namespace MessageBus.Context
variable {path : String} {target : Report.Target} {w w' w₁ : World} {out : StepEnd}
  {addresses : List Address} {ls : List Listener} {made : Option Context} {failure : Failure}
  {held : Report} {c : Context}

/-- How a step ends that finds a report in the target already: there is no way to tell about it. -/
def StepEnd.refused (held : Report) : StepEnd → Failure
  | .error failure => failure
  | .ok _ => .report (.misuse (.alreadySet held.kind))

theorem reportRead_holding (flaw : List Char → String) (fault : Settings.ReadFault) :
    reportRead flaw path (.holding held) fault = .failed ((readEnd flaw fault).refused held) := by
  cases fault <;> rfl

theorem listen_of_parse_error_holding {text : String} {fault : Address.Fault}
    (hparse : Address.parse text = .error fault) :
    listen text (.holding held) w = (.error (.failed ((addressEnd text fault).refused held)), w) := by
  unfold listen Address.parseInto
  rw [hparse]
  cases fault <;> rfl

theorem listen_of_bind_error_holding {text : String} {a : Address}
    (hparse : Address.parse text = .ok a) (hbind : Listener.bind a w = (.error failure, w₁)) :
    listen text (.holding held) w =
      (.error (.failed ((systemEnd (.listening text) failure).refused held)), w₁) := by
  unfold listen Address.parseInto
  rw [hparse]
  simp only [hbind]
  cases failure <;> rfl

theorem writePidFile_of_error_holding {settings : Settings} {name : String} {files : Files}
    (hname : settings.pidFile? = some name)
    (hmake : makePidFile w.platform (Path.normal name) w.files = (.error failure, files)) :
    writePidFile (.holding held) (listeningOn settings ls) w =
      (some (.failed ((systemEnd (.pidFile (Path.normal name)) failure).refused held)),
        listeningOn settings ls, { w with files := files }) := by
  unfold writePidFile
  rw [listeningOn_settings, hname]
  simp only [hmake]
  cases failure <;> rfl

theorem attempt_of_setUp_failed {settings : Settings} {c : Context} {w₂ : World}
    (hload : Loaded path w settings w₁)
    (h : setUp target (new settings) w₁ = (some (.failed failure), c, w₂)) :
    attempt path target w = (.error failure, some c, w₂) := by
  rw [attempt, readSettings_of_loaded hload]
  simp only [h]

/-- With a report in the target, a start breaks off wherever it stops. -/
theorem attempt_of_stops_holding (h : Stops path w out addresses ls made w₁) :
    attempt path (.holding held) w = (.error (out.refused held), made, w₁) := by
  cases h with
  | environment henvironment =>
    simp only [attempt, readSettings, henvironment, StepEnd.refused]
  | reading henvironment hread =>
    simp only [attempt, readSettings, henvironment, hread, reportRead_holding]
  | settings henvironment hread hmake =>
    simp only [attempt, readSettings, henvironment, hread, hmake, reportRead_holding, readEnd]
  | address hload hlisten hbound hparse =>
    exact attempt_of_setUp_failed hload
      (setUp_of_listen_error hlisten hbound (listen_of_parse_error_holding hparse))
  | listening hload hlisten hbound hparse hbind =>
    exact attempt_of_setUp_failed hload
      (setUp_of_listen_error hlisten hbound (listen_of_bind_error_holding hparse hbind))
  | pidFile hload hbound hname hmake =>
    exact attempt_of_setUp_failed hload
      ((setUp_of_bound hbound).trans (writePidFile_of_error_holding hname hmake))

/-- Where a start breaks off: at a step that cannot be reported, at one that would be reported if the
target held no report, as it takes a context down that has an abstract socket, or over the bus type once
everything is set up. -/
inductive Abandons (path : String) (target : Report.Target) (w : World) :
    Failure → Option Context → World → Prop
  | step {failure : Failure} {addresses : List Address} {ls : List Listener} {made : Option Context}
      {w₁ : World} (hstops : Stops path w (.error failure) addresses ls made w₁)
      (hwhole : ∀ code, failure ≠ .document (.surrogate code)) : Abandons path target w failure made w₁
  | refused {held : Report} {obstacle : Obstacle} {addresses : List Address} {ls : List Listener}
      {made : Option Context} {w₁ : World} (htarget : target = .holding held)
      (hstops : Stops path w (.ok obstacle) addresses ls made w₁) :
      Abandons path target w (.report (.misuse (.alreadySet held.kind))) made w₁
  | release {obstacle : Obstacle} {addresses : List Address} {ls : List Listener} {c c' : Context}
      {w₁ w' : World} (hopen : target.Open)
      (hstops : Stops path w (.ok obstacle) addresses ls (some c) w₁)
      (habstract : ¬ Grounded (socketNames ls))
      (hrelease : c.release w₁ = (.error .nullCharacter, c', w')) :
      Abandons path target w .nullCharacter (some c') w'
  | busType {c : Context} {w₁ : World} {fault : Number.Fault} (hbuilt : Built path w c w₁)
      (htype : c.settings.busType = .error fault) : Abandons path target w (.number fault) (some c) w₁

theorem attempt_of_abandons (h : Abandons path target w failure made w') :
    attempt path target w = (.error failure, made, w') := by
  cases h with
  | step hstops =>
    obtain hopen | ⟨held, rfl⟩ := Report.open_or_holding target
    · exact attempt_of_stops hopen hstops
    · exact attempt_of_stops_holding hstops
  | refused htarget hstops =>
    subst htarget
    exact attempt_of_stops_holding hstops
  | release hopen hstops _ hrelease => rw [attempt_of_stops hopen hstops, takenDown, hrelease]
  | busType hbuilt htype =>
    have hready := (announceReady_error (w := w') (built_listeners hbuilt)).2 ⟨_, htype, rfl⟩
    rw [attempt_of_built hbuilt, hready]

/-- A start that does not take its context down after an obstacle breaks off there. -/
theorem abandons_of_obstacle {obstacle : Obstacle} (hopen : target.Open)
    (hstops : Stops path w (.ok obstacle) addresses ls made w₁)
    (h : attempt path target w = (.error failure, some c, w')) (habstract : ¬ Grounded (socketNames ls))
    (hfailure : failure = .nullCharacter) : Abandons path target w failure (some c) w' := by
  subst hfailure
  rw [attempt_of_stops hopen hstops] at h
  unfold takenDown at h
  split at h
  · simp_all
  · simp at h
  · rename_i heq
    split at h
    · simp at h
    · rename_i hrelease
      cases h
      cases heq
      exact .release hopen hstops habstract hrelease

/-- A start ends with a context, without one, or where it is abandoned. -/
theorem abandons_of_attempt
    (hwhole : ∀ {addresses ls made w₁}, Stops path w (.error failure) addresses ls made w₁ →
      ∀ code, failure ≠ .document (.surrogate code))
    (h : attempt path target w = (.error failure, made, w')) : Abandons path target w failure made w' := by
  obtain ⟨c, w₁, hbuilt⟩ | ⟨out, addresses, ls, made', w₁, hstops⟩ := built_or_stops path w
  · have hattempt := @attempt_of_built _ target _ _ _ hbuilt
    cases hready : c.announceReady w₁ with
    | ok w₂ =>
      rw [hready, h] at hattempt
      cases hattempt
    | error failure' =>
      obtain ⟨fault, htype, rfl⟩ := (announceReady_error (built_listeners hbuilt)).1 hready
      rw [hready, h] at hattempt
      cases hattempt
      exact .busType hbuilt htype
  · obtain hopen | ⟨held, rfl⟩ := Report.open_or_holding target
    · cases out with
      | error failure' =>
        have hattempt := attempt_of_stops hopen hstops
        rw [h] at hattempt
        cases hattempt
        exact .step hstops (hwhole hstops)
      | ok obstacle =>
        obtain ⟨-, made₂, w₂, hattempt, -⟩ |
          ⟨before, name, after, c, w₂, hnames, habstract, hattempt, -⟩ := attempt_of_obstacle hopen hstops
        · rw [h] at hattempt
          cases hattempt
        · rw [h] at hattempt
          cases hattempt
          exact abandons_of_obstacle hopen hstops h (not_grounded_of_split hnames habstract) rfl
    · have hattempt := @attempt_of_stops_holding _ _ _ _ _ _ _ held hstops
      rw [h] at hattempt
      cases hattempt
      cases out with
      | error failure' => exact .step hstops (hwhole hstops)
      | ok obstacle => exact .refused rfl hstops

/-- What a start leaves to itself: nothing is new in the tree if it made no context, and otherwise the
context's loop is open and its files stand. Only where the last step would have been reported, that may have
changed the tree, and the sockets in front of an abstract one may be gone. -/
def LeftStanding (w : World) (made : Option Context) (w' : World) : Prop :=
  match made with
  | none => w'.files = w.files
  | some c => c.loop.closed = false ∧
    (Standing w'.files c.paths ∨ ∃ obstacle f g, Standing f c.paths ∧ Residue w (.ok obstacle) f g ∧
      (w'.files = g ∨ ∃ before name after, c.paths = before ++ name :: after ∧
        Path.isAbstract name = true ∧ TakenAway before g w'.files))

theorem stops_leftStanding (h : Stops path w out addresses ls made w₁) : LeftStanding w made w₁ := by
  obtain ⟨-, ⟨f, sockets, hleft⟩, ⟨rfl, rfl⟩ | ⟨settings, rfl⟩⟩ := stops_left h
  · have hkept := loadEnvironment_kept w
    cases h with
    | environment henvironment | reading henvironment | settings henvironment =>
      rw [henvironment] at hkept
      exact hkept.1
  · obtain ⟨f, hstanding, hresidue⟩ := stops_standing h
    refine ⟨rfl, ?_⟩
    cases out with
    | error failure =>
      rw [hresidue.of_failure]
      exact .inl hstanding
    | ok obstacle => exact .inr ⟨obstacle, f, _, hstanding, hresidue, .inl rfl⟩

/-- Taking a context down that breaks off leaves it with what it had. -/
theorem release_leftStanding {obstacle : Obstacle} {c' : Context} (hopen : target.Open)
    (hstops : Stops path w (.ok obstacle) addresses ls (some c) w₁)
    (hrelease : c.release w₁ = (.error failure, c', w')) : LeftStanding w (some c') w' := by
  have hattempt := attempt_of_stops hopen hstops
  simp only [takenDown, hrelease] at hattempt
  obtain ⟨-, _, _, hdone, -⟩ |
    ⟨before, name, after, c₂, w₂, hnames, habstract, hfailed, hloop, hlisteners, hpid, htaken, -⟩ :=
      attempt_of_obstacle hopen hstops
  · cases hattempt.symm.trans hdone
  · cases hattempt.symm.trans hfailed
    obtain ⟨f, hstanding, hresidue⟩ := stops_standing hstops
    obtain ⟨-, -, ⟨hnone, -⟩ | ⟨settings, hmade⟩⟩ := stops_left hstops
    · cases hnone
    · cases hmade
      have hpaths : c'.paths = (listeningOn settings ls).paths := by
        simp [paths, hlisteners, hpid, listeningOn, new]
      have hsplit : c'.paths = before ++ name :: after := by simp [paths, hlisteners, hpid, hnames]
      exact ⟨hloop, .inr ⟨obstacle, f, _, hpaths ▸ hstanding, hresidue,
        .inr ⟨before, name, after, hsplit, habstract, htaken⟩⟩⟩

/-- A world with two listen addresses. The first one is good, the second one has a null character. -/
def leaking : World :=
  { World.empty with
    files := Files.empty.put ["work", "bus.yaml"]
      (.file (Text.Utf8.encode "listen: [unix:path=a.sock, unix:path=b%00c]\n".toList)) }

/-- The result is the failure over a null character. -/
def isNullCharacter {α : Type} : Except Failure α → Bool
  | .error .nullCharacter => true
  | _ => false

theorem isNullCharacter_iff {α : Type} {r : Except Failure α} :
    isNullCharacter r = true ↔ r = .error .nullCharacter := by
  unfold isNullCharacter
  split <;> simp_all

theorem attempt_leaking : ∃ c w', attempt "bus.yaml" .clear leaking = (.error .nullCharacter, some c, w') ∧
    c.loop.closed = false ∧ c.paths = ["a.sock"] ∧ (w'.files.look (.ofText "a.sock")).isOk = true := by
  have hends : isNullCharacter (attempt "bus.yaml" .clear leaking).1 = true := by decide +kernel
  have hmade : (attempt "bus.yaml" .clear leaking).2.1.map (fun c => (c.loop.closed, c.paths)) =
      some (false, ["a.sock"]) := by decide +kernel
  have hlook : ((attempt "bus.yaml" .clear leaking).2.2.files.look (.ofText "a.sock")).isOk = true := by
    decide +kernel
  generalize attempt "bus.yaml" .clear leaking = ended at hends hmade hlook ⊢
  obtain ⟨r, made, w'⟩ := ended
  obtain rfl := isNullCharacter_iff.1 hends
  obtain ⟨c, rfl, hc⟩ := Option.map_eq_some_iff.1 hmade
  obtain ⟨hclosed, hpaths⟩ := Prod.ext_iff.1 hc
  exact ⟨c, w', rfl, hclosed, hpaths, hlook⟩

theorem wholeCharacters_leaking : WholeCharacters "bus.yaml" leaking := by
  have hread : (Settings.readEntries leaking.files "bus.yaml").isOk = true := by decide +kernel
  intro code hfails
  rw [hfails] at hread
  cases hread

end MessageBus.Context
