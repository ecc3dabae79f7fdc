import MessageBus.Proofs.Address.Check
import MessageBus.Proofs.Context.Failure
/-!
What breaks a start off. Main statement: a start with an open target fails for one of a few causes and
for no other; without them it gives a context and leaves the target as it was, or it reports why not.
-/
namespace MessageBus.Context

/-- No escape of the document writes half of a character. A text here has whole ones only. -/
def WholeCharacters (path : String) (w : World) : Prop :=
  ∀ code, Settings.readEntries w.files path ≠ .error (.document (.surrogate code))

/-- The causes that no step reports. -/
inductive Breaks (path : String) (w : World) : Failure → Prop
  | environment {fault : Environment.File.Fault} {w₁ : World}
      (henvironment : loadEnvironment w = (some fault, w₁)) : Breaks path w (.environment fault)
  | nullPath {w₁ : World} (henvironment : loadEnvironment w = (none, w₁))
      (hnull : Path.hasNull path = true) : Breaks path w .nullCharacter
  | encoding {w₁ : World} {bytes : List UInt8} {fault : Text.Utf8.Fault}
      (henvironment : loadEnvironment w = (none, w₁)) (hnull : Path.hasNull path = false)
      (hread : w₁.files.read (.ofText path) = .ok bytes) (hdecode : Files.decode bytes = .error fault) :
      Breaks path w (.encoding fault)
  | document {w₁ : World} {bytes : List UInt8} {text : List Char} {fault : Yaml.Fault}
      (henvironment : loadEnvironment w = (none, w₁)) (hnull : Path.hasNull path = false)
      (hread : w₁.files.read (.ofText path) = .ok bytes) (hdecode : Files.decode bytes = .ok text)
      (hload : Yaml.load text = .error fault) (hfault : fault ≠ .malformed)
      (hwhole : ∀ code, fault ≠ .surrogate code) : Breaks path w (.document fault)
  | port {settings : Settings} {before rest : List String} {text : String} {w₁ w₂ : World}
      {addresses : List Address} {ls : List Listener} {fault : Number.Fault}
      (hload : Loaded path w settings w₁) (hlisten : settings.listen = before ++ text :: rest)
      (hbound : Bound before w₁ addresses ls w₂)
      (hparse : Address.parse text = .error (.unreadablePort fault)) : Breaks path w (.number fault)
  | socket {settings : Settings} {before rest : List String} {text : String} {w₁ w₂ : World}
      {addresses : List Address} {ls : List Listener} {a : Address}
      (hload : Loaded path w settings w₁) (hlisten : settings.listen = before ++ text :: rest)
      (hbound : Bound before w₁ addresses ls w₂) (hparse : Address.parse text = .ok a)
      (hunix : a.transport = .unix)
      (hnulled : Listener.Nulled (Listener.socketPath a (w₂.attempt a)).1 w₂) :
      Breaks path w .nullCharacter
  | host {settings : Settings} {before rest : List String} {text words : String} {w₁ w₂ : World}
      {addresses : List Address} {ls : List Listener} {a : Address}
      (hload : Loaded path w settings w₁) (hlisten : settings.listen = before ++ text :: rest)
      (hbound : Bound before w₁ addresses ls w₂) (hparse : Address.parse text = .ok a)
      (htcp : a.transport = .tcp)
      (hhost : Listener.hostFault? ((a.given? "host").getD Address.fallbackHost) w₂.platform.sockets =
        some words) : Breaks path w (.host words)
  | pidFile {settings : Settings} {name : String} {w₁ w₂ : World} {addresses : List Address}
      {ls : List Listener} (hload : Loaded path w settings w₁)
      (hbound : Bound settings.listen w₁ addresses ls w₂) (hname : settings.pidFile? = some name)
      (hnull : Path.hasNull (Path.normal name) = true) : Breaks path w .nullCharacter
  /-- A step is reported, but an abstract socket that was bound before it keeps the context from being taken
  down. -/
  | release {obstacle : Obstacle} {addresses : List Address} {ls : List Listener} {made : Option Context}
      {w₁ : World} (hstops : Stops path w (.ok obstacle) addresses ls made w₁)
      (habstract : ¬ Grounded (socketNames ls)) : Breaks path w .nullCharacter
  | busType {c : Context} {w₁ : World} {fault : Number.Fault} (hbuilt : Built path w c w₁)
      (htype : c.settings.busType = .error fault) : Breaks path w (.number fault)

variable {path : String} {target : Report.Target} {w w₁ w₂ : World} {out : StepEnd}
  {addresses : List Address} {ls : List Listener} {made : Option Context} {settings : Settings}
  {failure : Failure} {files f g : Files} {c : Context}

/-- Reading the entries step by step. -/
theorem readEntries_eq (files : Files) (path : String) :
    Settings.readEntries files path =
      if Path.hasNull path = true then .error .nullCharacter
      else
        match files.read (.ofText path) with
        | .error e => .error (.system e)
        | .ok bytes =>
          match Files.decode bytes with
          | .error fault => .error (.encoding fault)
          | .ok text =>
            match Yaml.load text with
            | .error fault => .error (.ofDocument text fault)
            | .ok value => (Settings.entriesOf value).mapError .settings := by
  unfold Settings.readEntries Settings.readValue
  by_cases hnull : Path.hasNull path = true
  · simp only [hnull, if_true]
    rfl
  · simp only [hnull]
    cases files.read (.ofText path) with
    | error e => rfl
    | ok bytes =>
      cases hdecode : Files.decode bytes with
      | error fault => simp [hdecode, mapError_ok, mapError_error, bind, Except.bind]
      | ok text =>
        cases hload : Yaml.load text <;>
          simp [hdecode, hload, mapError_ok, mapError_error, bind, Except.bind]

/-- The failure is over half of a character in the document. -/
def Halved (path : String) (w : World) (failure : Failure) : Prop :=
  ∃ code, failure = .document (.surrogate code) ∧
    Settings.readEntries w.files path = .error (.document (.surrogate code))

/-- The end of reading a file that is not reported. -/
theorem breaks_of_readEntries {fault : Settings.ReadFault} {flaw : List Char → String}
    (henvironment : loadEnvironment w = (none, w₁))
    (hread : Settings.readEntries w₁.files path = .error fault) (hend : readEnd flaw fault = .error failure) :
    Breaks path w failure ∨ Halved path w failure := by
  have hfiles := (loadEnvironment_kept w).1
  rw [henvironment] at hfiles
  by_cases hhalved : ∃ code, fault = .document (.surrogate code)
  · obtain ⟨code, rfl⟩ := hhalved
    cases hend
    exact .inr ⟨code, rfl, hfiles ▸ hread⟩
  have hwhole : ∀ code, fault ≠ .document (.surrogate code) := fun code hcode => hhalved ⟨code, hcode⟩
  left
  rw [readEntries_eq] at hread
  split at hread
  · rename_i hnull
    cases hread
    cases hend
    exact .nullPath henvironment hnull
  · rename_i hnull
    have hplain : Path.hasNull path = false := by simpa using hnull
    split at hread
    · cases hread
      cases hend
    · rename_i bytes hbytes
      split at hread
      · rename_i f hdecode
        cases hread
        cases hend
        exact .encoding henvironment hplain hbytes hdecode
      · rename_i text hdecode
        split at hread
        · rename_i f hload
          cases hread
          cases f <;> cases hend <;>
            exact .document henvironment hplain hbytes hdecode hload (by simp)
              fun code hcode => hwhole code (by rw [hcode]; rfl)
        · rename_i value _
          cases hentries : Settings.entriesOf value <;> rw [hentries] at hread <;> cases hread
          cases hend

/-- The listen addresses that settings were checked for are not none. -/
theorem listen_ne_nil {entries : List (Value × Value)} {override : String}
    (h : Settings.make entries override = .ok settings) : settings.listen ≠ [] := by
  unfold Settings.make at h
  dsimp only at h
  split at h
  · simp at h
  · rename_i hfault
    cases h
    have hlisten : Settings.listenFault (Settings.source ⟨entries, override⟩) = none := by
      cases hl : Settings.listenFault (Settings.source ⟨entries, override⟩) with
      | none => rfl
      | some fault => simp [Settings.fault?, hl] at hfault
    simp only [Settings.listen]
    cases hsource : Settings.source ⟨entries, override⟩ with
    | text address => simp
    | list items =>
      cases items with
      | nil => simp [hsource, Settings.listenFault] at hlisten
      | cons item items => simp
    | _ => simp [hsource, Settings.listenFault] at hlisten

theorem bound_length {texts : List String} (h : Bound texts w addresses ls w₁) :
    ls.length = texts.length := by
  induction h with
  | nil => rfl
  | cons _ _ _ ih => simp [ih]

/-- A context that was built has the settings that were read, and a listener at least. -/
theorem built_listeners (h : Built path w c w₁) : c.listeners ≠ [] := by
  obtain ⟨settings, w₀, addresses, ls, w₂, ⟨_, entries, _, _, hmake, _⟩, hbound, hpid⟩ := h
  have hls : ls ≠ [] := by
    have hlength := bound_length hbound
    have hlisten := List.length_pos_iff.2 (listen_ne_nil hmake)
    rintro rfl
    simp at hlength
    omega
  have hpid := hpid .absent
  unfold writePidFile at hpid
  split at hpid
  · cases hpid
    exact hls
  · dsimp only at hpid
    split at hpid <;> cases hpid
    exact hls

theorem announceReady_error (hls : c.listeners ≠ []) :
    c.announceReady w = .error failure ↔
      ∃ fault, c.settings.busType = .error fault ∧ failure = .number fault := by
  obtain ⟨l, rest, hlisteners⟩ := List.exists_cons_of_ne_nil hls
  unfold announceReady
  cases htype : c.settings.busType with
  | error fault => simp [eq_comm]
  | ok kind => simp [address, hlisteners, Except.map]

/-- A step that breaks a start off does so for one of the causes, or over half of a character. -/
theorem breaks_or_halved (h : Stops path w (.error failure) addresses ls made w₁) :
    Breaks path w failure ∨ Halved path w failure := by
  generalize hout : (Except.error failure : StepEnd) = out at h
  cases h with
  | environment henvironment =>
    cases hout
    exact .inl (.environment henvironment)
  | reading henvironment hread => exact breaks_of_readEntries henvironment hread hout.symm
  | settings => cases hout
  | @address _ _ _ _ _ _ _ _ fault hload hlisten hbound hparse =>
    cases fault <;> cases hout
    exact .inl (.port hload hlisten hbound hparse)
  | @listening _ _ _ _ _ _ _ _ _ a failure hload hlisten hbound hparse hbind =>
    obtain ⟨-, hend⟩ := Listener.bind_end hbind
    generalize w₁.files = g at hend
    cases hend with
    | refused e => cases hout
    | nullPath hunix hnulled =>
      cases hout
      exact .inl (.socket hload hlisten hbound hparse hunix hnulled)
    | host htcp words hhost =>
      cases hout
      exact .inl (.host hload hlisten hbound hparse htcp hhost)
    | portUnread htcp fault hasked =>
      obtain ⟨n, hn⟩ := Address.askedPort_of_parse hparse htcp
      rw [hasked] at hn
      cases hn
  | @pidFile _ name _ _ _ _ failure _ hload hbound hname hmake =>
    obtain ⟨rfl, hnull, -⟩ | ⟨e, -, rfl, -⟩ := makePidFile_error hmake
    · cases hout
      exact .inl (.pidFile hload hbound hname hnull)
    · cases hout

/-- No step fails over half of a character, if the document has whole ones. -/
theorem Stops.whole (hw : WholeCharacters path w) (h : Stops path w (.error failure) addresses ls made w₁)
    (code : Nat) : failure ≠ .document (.surrogate code) := by
  obtain hbreaks | ⟨code', -, hread⟩ := breaks_or_halved h
  · rintro rfl
    cases hbreaks with
    | document _ _ _ _ _ _ hwhole => exact hwhole code rfl
  · exact absurd hread (hw code')

theorem breaks_of_stops (hw : WholeCharacters path w)
    (h : Stops path w (.error failure) addresses ls made w₁) : Breaks path w failure := by
  obtain hbreaks | ⟨code, hcode, -⟩ := breaks_or_halved h
  · exact hbreaks
  · exact absurd hcode (h.whole hw code)

/-- Each cause breaks a start off. -/
theorem start_of_breaks (ht : target.Open) (h : Breaks path w failure) :
    ∃ w', start path target w = (.error failure, w') := by
  have hstops : ∀ {addresses ls made w₁}, Stops path w (.error failure) addresses ls made w₁ →
      ∃ w', start path target w = (.error failure, w') := by
    intro addresses ls made w₁ hstops
    rw [start, attempt_of_stops ht hstops]
    exact ⟨w₁, rfl⟩
  cases h with
  | environment henvironment => exact hstops (.environment henvironment)
  | @nullPath w₁ henvironment hnull =>
    have hread : Settings.readEntries w₁.files path = .error .nullCharacter := by
      rw [readEntries_eq, if_pos hnull]
    exact hstops (.reading henvironment hread)
  | @encoding w₁ _ fault henvironment hnull hbytes hdecode =>
    have hread : Settings.readEntries w₁.files path = .error (.encoding fault) := by
      simp [readEntries_eq, hnull, hbytes, hdecode]
    exact hstops (.reading henvironment hread)
  | @document w₁ _ _ fault henvironment hnull hbytes hdecode hload hfault hwhole =>
    have hread : Settings.readEntries w₁.files path = .error (.document fault) := by
      cases fault <;> simp_all [readEntries_eq, Settings.ReadFault.ofDocument]
    exact hstops (.reading henvironment hread)
  | port hload hlisten hbound hparse => exact hstops (.address hload hlisten hbound hparse)
  | socket hload hlisten hbound hparse hunix hnulled =>
    obtain ⟨w₃, hbind⟩ := Listener.bind_of_nulled hunix hnulled
    exact hstops (.listening hload hlisten hbound hparse hbind)
  | host hload hlisten hbound hparse htcp hhost =>
    obtain ⟨asked, hasked⟩ := Address.askedPort_of_parse hparse htcp
    obtain ⟨w₃, hbind⟩ := Listener.bind_of_host htcp hasked hhost
    exact hstops (.listening hload hlisten hbound hparse hbind)
  | @pidFile _ name _ w₂ _ _ hload hbound hname hnull =>
    have hmake : makePidFile w₂.platform (Path.normal name) w₂.files = (.error .nullCharacter, w₂.files) := by
      rw [makePidFile, if_pos hnull]
    exact hstops (.pidFile hload hbound hname hmake)
  | release hstops' habstract =>
    obtain ⟨hgrounded, -⟩ | ⟨_, _, _, _, w', -, -, hattempt, -⟩ := attempt_of_obstacle ht hstops'
    · exact absurd hgrounded habstract
    · exact ⟨w', by rw [start, hattempt]⟩
  | @busType c w₁ fault hbuilt htype =>
    have hready : c.announceReady w₁ = .error (.number fault) :=
      (announceReady_error (built_listeners hbuilt)).2 ⟨fault, htype, rfl⟩
    rw [start, attempt_of_built hbuilt, hready]
    exact ⟨_, rfl⟩

/-- A start with an open target gives a context, reports why not, or breaks off for a cause. -/
theorem start_ends (path : String) (w : World) (ht : target.Open) (hw : WholeCharacters path w) :
    (∃ c, (start path target w).1 = .ok (some c, target)) ∨
      (∃ report, report.owned = true ∧
        (start path target w).1 = .ok (none, target.taking report)) ∨
      ∃ failure, (start path target w).1 = .error failure ∧ Breaks path w failure := by
  obtain ⟨c, w₁, hbuilt⟩ | ⟨out, addresses, ls, made, w₁, hstops⟩ := built_or_stops path w
  · have hattempt := @attempt_of_built _ target _ _ _ hbuilt
    -- what was built can still break off over the bus type in the line that reports it ready
    cases hready : c.announceReady w₁ with
    | ok w' =>
      rw [hready] at hattempt
      exact .inl ⟨c, by rw [start, hattempt]⟩
    | error failure =>
      obtain ⟨fault, htype, rfl⟩ := (announceReady_error (built_listeners hbuilt)).1 hready
      rw [hready] at hattempt
      exact .inr (.inr ⟨_, by rw [start, hattempt], .busType hbuilt htype⟩)
  · cases out with
    | error failure =>
      refine .inr (.inr ⟨failure, ?_, breaks_of_stops hw hstops⟩)
      rw [start, attempt_of_stops ht hstops]
      rfl
    | ok obstacle =>
      obtain ⟨-, made', w', hattempt, -⟩ |
        ⟨before, name, after, c, w', hnames, habstract, hattempt, -⟩ := attempt_of_obstacle ht hstops
      · exact .inr (.inl ⟨_, report_owned path obstacle, by rw [start, hattempt]⟩)
      · exact .inr (.inr ⟨_, by rw [start, hattempt],
          .release hstops (not_grounded_of_split hnames habstract)⟩)

/-- A world whose only listen address has a port that is a digit but no number. -/
def misdigited : World :=
  { World.empty with
    files := Files.empty.put ["work", "bus.yaml"] (.file [])
    environment := ⟨[(Settings.listenVariable, "tcp:port=²")]⟩ }

end MessageBus.Context
