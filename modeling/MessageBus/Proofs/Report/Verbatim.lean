import MessageBus.Proofs.Address.Fault
import MessageBus.Proofs.Context.Abandoned
import MessageBus.Proofs.Files.Path
import MessageBus.Proofs.Report.Unreported
/-!
Texts of users in reports. Reading an address, starting a context and announcing put the texts that a failure
is about into a fixed sentence as they are, whatever stands in them, and no report fails for its wording. Only
where there is no memory for the sentence, the fixed one about that stands in its place.
-/
namespace MessageBus

/-- What the system calls the error, if it is one with a number. -/
def SystemError.description? (e : SystemError) : Option String := e.number.map fun _ => e.reason

theorem SystemError.summary_eq (e : SystemError) :
    e.summary = (e.description?.filter (· ≠ "")).getD e.message := by
  cases hnumber : e.number with
  | none => simp [summary, description?, hnumber]
  | some n => by_cases hreason : e.reason = "" <;> simp [summary, description?, hnumber, hreason, Option.filter]

/-- The text is refused, and this is the report about it. A port of digits that cannot be read has none. -/
def Address.Reports (text : String) (r : Report) : Prop :=
  ∃ fault, Refused text fault ∧ fault.unreadable? = none ∧ r = ⟨.badAddress, fault.sentence text, true⟩

/-- A start stops at an obstacle, and this is the report about it. -/
def Context.Tells (path : String) (w : World) (r : Report) : Prop :=
  ∃ obstacle addresses ls made w₁, Stops path w (.ok obstacle) addresses ls made w₁ ∧ r = obstacle.report path

/-- A start ends with a report. It does so at an obstacle, unless an abstract socket that was bound before
keeps the context from being taken down. -/
def Context.Reports (path : String) (w : World) (r : Report) : Prop :=
  ∃ obstacle addresses ls made w₁, Stops path w (.ok obstacle) addresses ls made w₁ ∧
    Grounded (socketNames ls) ∧ r = obstacle.report path

/-- The report about the outcome of writing so many bytes. The whole of them has none. -/
inductive Announcement.Assessed (size : Nat) : Except SystemError Int → Report → Prop
  | failed (e : SystemError) : Assessed size (.error e) ⟨.ofErrorNumber e.number, e.summary, true⟩
  | short {count : Int} (hshort : count ≠ size) : Assessed size (.ok count) (shortWrite count size)

/-- The line that announces an address is not written as a whole, and this is the report about it. -/
def Announcement.Reports (address : String) (descriptor : Nat) (w : World) (r : Report) : Prop :=
  Assessed (line address).utf8ByteSize (w.write descriptor (line address)).1 r

namespace Report
variable {α : Type} {no : α} {said : Report → Prop} {text path address : String} {w : World} {fault : Fault}
  {target : Target}

/-- An operation that reports what is said and nothing else. With a clear target it ends in a report exactly
where the report is said, and with one that has no memory for it in the report of that; and it breaks off
over a report only if the target holds one already, never over the wording of its own. -/
structure Verbatim (no : α) (said : Report → Prop) (run : Target → Except Failure (α × Target)) : Prop where
  exact : ∀ x r, run .clear = .ok (x, .holding r) ↔ x = no ∧ said r
  exhausted : ∀ x r, run .exhausted = .ok (x, .holding r) ↔ x = no ∧ r = noMemory ∧ ∃ r', said r'
  unbroken : ∀ target fault, run target = .error (.report fault) →
    ∃ held, target = .holding held ∧ fault = .misuse (.alreadySet held.kind)

/-- How an operation ends that is given an open target. -/
inductive Verdict (no : α) (run : Target → Except Failure (α × Target)) : Prop
  | passed (x : α) (hrun : ∀ t : Target, t.Open → run t = .ok (x, t))
  | reported (r : Report) (hrun : ∀ t : Target, t.Open → run t = .ok (no, t.taking r))
  | brokeOff (failure : Failure) (hfailure : ∀ fault, failure ≠ .report fault)
      (hrun : ∀ t : Target, t.Open → run t = .error failure)

variable {run : Target → Except Failure (α × Target)}

/-- What an operation says is what it reports to a clear target. -/
theorem Verdict.verbatim (hv : Verdict no run) (hsaid : ∀ r, said r ↔ run .clear = .ok (no, .holding r))
    (hheld : ∀ held fault, run (.holding held) = .error (.report fault) →
      fault = .misuse (.alreadySet held.kind)) : Verbatim no said run where
  exact x r := by
    rw [hsaid]
    cases hv with
    | passed y hrun => simp [hrun _ open_clear]
    | reported r' hrun => simp [hrun _ open_clear, Target.taking, eq_comm]
    | brokeOff failure _ hrun => simp [hrun _ open_clear]
  exhausted x r := by
    simp only [hsaid]
    cases hv with
    | passed y hrun => simp [hrun _ open_clear, hrun _ open_exhausted]
    | reported r' hrun => simp [hrun _ open_clear, hrun _ open_exhausted, Target.taking, eq_comm]
    | brokeOff failure _ hrun => simp [hrun _ open_clear, hrun _ open_exhausted]
  unbroken target fault h := by
    obtain hopen | ⟨held, rfl⟩ := open_or_holding target
    · cases hv with
      | passed x hrun => cases (hrun _ hopen).symm.trans h
      | reported r hrun => cases (hrun _ hopen).symm.trans h
      | brokeOff failure hfailure hrun => exact absurd (Except.error.inj ((hrun _ hopen).symm.trans h)) (hfailure fault)
    · exact ⟨held, rfl, hheld held fault h⟩

/-! ### Addresses -/

/-- Reading an address for a caller whose failures are those of the program. -/
def readInto (text : String) (target : Target) : Except Failure (Option Address × Target) :=
  (Address.parseInto target text).mapError Failure.ofAddress

theorem readInto_verdict (text : String) : Verdict none (readInto text) := by
  cases hparse : Address.parse text with
  | ok a => exact .passed (some a) fun t _ => by simp [readInto, Address.parseInto, hparse, mapError_ok]
  | error refusal =>
    cases hport : refusal.unreadable? with
    | none =>
      refine .reported ⟨.badAddress, refusal.sentence text, true⟩ fun t ht => ?_
      rw [readInto, Address.parseInto_fault ht hparse, hport]
      rfl
    | some f =>
      refine .brokeOff (.number f) (by simp) fun t ht => ?_
      rw [readInto, Address.parseInto_fault ht hparse, hport]
      rfl

theorem readInto_said (text : String) (r : Report) :
    Address.Reports text r ↔ readInto text .clear = .ok (none, .holding r) := by
  simp only [Address.Reports, ← Address.parse_error_iff]
  cases hparse : Address.parse text with
  | ok a => simp [readInto, Address.parseInto, hparse, mapError_ok]
  | error fault =>
    rw [readInto, Address.parseInto_fault open_clear hparse]
    cases hfault : fault.unreadable? <;>
      simp [hfault, Target.taking, mapError_ok, mapError_error, eq_comm]

theorem readInto_held {held : Report} (h : readInto text (.holding held) = .error (.report fault)) :
    fault = .misuse (.alreadySet held.kind) := by
  unfold readInto Address.parseInto at h
  cases hparse : Address.parse text with
  | ok a => simp [hparse, mapError_ok] at h
  | error refusal =>
    cases hwording : refusal.wording text with
    | error f => simp [hparse, hwording, mapError_error, Failure.ofAddress] at h
    | ok wording =>
      simp only [hparse, hwording, file_holding, mapError_error, Failure.ofAddress, Except.error.injEq,
        Failure.report.injEq] at h
      exact h.symm

theorem readInto_verbatim (text : String) : Verbatim none (Address.Reports text) (readInto text) :=
  (readInto_verdict text).verbatim (readInto_said text) fun _ _ => readInto_held

/-! ### Starts -/

theorem start_verdict (path : String) (w : World) :
    Verdict none fun target => (Context.start path target w).1 := by
  obtain ⟨c, w₁, hbuilt⟩ | ⟨out, addresses, ls, made, w₁, hstops⟩ := Context.built_or_stops path w
  · cases hready : c.announceReady w₁ with
    | ok w₂ =>
      refine .passed (some c) fun t _ => ?_
      rw [Context.start, Context.attempt_of_built hbuilt, hready]
    | error failure =>
      obtain ⟨f, -, rfl⟩ := (Context.announceReady_error (Context.built_listeners hbuilt)).1 hready
      refine .brokeOff (.number f) (by simp) fun t _ => ?_
      rw [Context.start, Context.attempt_of_built hbuilt, hready]
  · cases out with
    | error failure =>
      refine .brokeOff failure (fun fault hreport => ?_) fun t ht => ?_
      · subst hreport
        -- no step breaks off over a report
        obtain hbreaks | ⟨code, hcode, -⟩ := Context.breaks_or_halved hstops
        · cases hbreaks
        · cases hcode
      · rw [Context.start, Context.attempt_of_stops ht hstops]
        rfl
    | ok obstacle =>
      by_cases hgrounded : Context.Grounded (Context.socketNames ls)
      · refine .reported (obstacle.report path) fun t ht => ?_
        obtain ⟨-, made', w', hattempt, -⟩ | ⟨_, _, _, _, _, hnames, habstract, -⟩ :=
          Context.attempt_of_obstacle ht hstops
        · rw [Context.start, hattempt]
        · exact absurd hgrounded (Context.not_grounded_of_split hnames habstract)
      · refine .brokeOff .nullCharacter (by simp) fun t ht => ?_
        obtain ⟨hall, -⟩ | ⟨_, _, _, _, w', -, -, hattempt, -⟩ := Context.attempt_of_obstacle ht hstops
        · exact absurd hall hgrounded
        · rw [Context.start, hattempt]

theorem start_said (path : String) (w : World) (r : Report) :
    Context.Reports path w r ↔ (Context.start path .clear w).1 = .ok (none, .holding r) := by
  constructor
  · rintro ⟨obstacle, addresses, ls, made, w₁, hstops, hgrounded, rfl⟩
    obtain ⟨-, made', w', hattempt, -⟩ | ⟨_, _, _, _, _, hnames, habstract, -⟩ :=
      Context.attempt_of_obstacle open_clear hstops
    · rw [Context.start, hattempt]
      rfl
    · exact absurd hgrounded (Context.not_grounded_of_split hnames habstract)
  · intro h
    obtain ⟨made', hattempt⟩ := Context.attempt_of_start (Prod.ext h rfl)
    obtain ⟨obstacle, addresses, ls, made, w₁, hstops, hgrounded, htaken, -⟩ :=
      Context.stops_of_attempt_none open_clear hattempt
    cases htaken
    exact ⟨obstacle, addresses, ls, made, w₁, hstops, hgrounded, rfl⟩

theorem start_held {held : Report} (h : (Context.start path (.holding held) w).1 = .error (.report fault)) :
    fault = .misuse (.alreadySet held.kind) := by
  have hattempt : Context.attempt path (.holding held) w =
      (.error (.report fault), (Context.attempt path (.holding held) w).2) := Prod.ext h rfl
  cases Context.abandons_of_attempt (fun _ code => by simp) hattempt with
  | refused htarget hstops =>
    cases htarget
    rfl
  | step hstops =>
    obtain hbreaks | ⟨code, hcode, -⟩ := Context.breaks_or_halved hstops
    · cases hbreaks
    · cases hcode

theorem start_verbatim (path : String) (w : World) :
    Verbatim none (Context.Reports path w) fun target => (Context.start path target w).1 :=
  (start_verdict path w).verbatim (start_said path w) fun _ _ => start_held

/-- A step of a start that is reported to an open target takes its own report there, whatever comes of the
context then. -/
theorem setBack_reported_iff {after : Target} (ht : target.Open) :
    (∃ made w₁, Context.SetBack path target w (.reported after) made w₁) ↔
      ∃ r, Context.Tells path w r ∧ after = target.taking r := by
  constructor
  · rintro ⟨made, w₁, hback⟩
    obtain ⟨c, w₂, hbuilt⟩ | ⟨out, addresses, ls, made', w₂, hstops⟩ := Context.built_or_stops path w
    · exact absurd hback hbuilt.not_setBack
    · have hsame := hback.unique (Context.setBack_of_stops ht hstops)
      cases out with
      | error failure => cases hsame
      | ok obstacle =>
        cases hsame
        exact ⟨_, ⟨obstacle, addresses, ls, made', w₂, hstops, rfl⟩, rfl⟩
  · rintro ⟨r, ⟨obstacle, addresses, ls, made, w₁, hstops, rfl⟩, rfl⟩
    exact ⟨made, w₁, Context.setBack_of_stops ht hstops⟩

/-! ### Announcements -/

theorem assess_verdict {size : Nat} {outcome : Except SystemError Int}
    (hcount : ∀ count, outcome = .ok count → count ≠ size →
      Number.tooLong count = false ∧ Number.tooLong size = false) :
    Verdict false fun target => Announcement.assess size target outcome := by
  cases outcome with
  | error e => exact .reported _ fun t ht => Announcement.assess_error ht size e
  | ok count =>
    by_cases hall : count = size
    · refine .passed true fun t _ => ?_
      rw [hall, Announcement.assess_all]
    · obtain ⟨hlong, hsize⟩ := hcount count rfl hall
      exact .reported _ fun t ht => Announcement.assess_short ht hall hlong hsize

theorem assess_said {size : Nat} {outcome : Except SystemError Int}
    (hcount : ∀ count, outcome = .ok count → count ≠ size →
      Number.tooLong count = false ∧ Number.tooLong size = false) (r : Report) :
    Announcement.Assessed size outcome r ↔
      Announcement.assess size .clear outcome = .ok (false, .holding r) := by
  constructor
  · rintro (e | hshort)
    · exact Announcement.assess_error open_clear size e
    · obtain ⟨hlong, hsize⟩ := hcount _ rfl hshort
      exact Announcement.assess_short open_clear hshort hlong hsize
  · intro h
    cases outcome with
    | error e =>
      rw [Announcement.assess_error open_clear] at h
      cases h
      exact .failed e
    | ok count =>
      by_cases hall : count = size
      · rw [hall, Announcement.assess_all] at h
        cases h
      · obtain ⟨hlong, hsize⟩ := hcount count rfl hall
        rw [Announcement.assess_short open_clear hall hlong hsize] at h
        cases h
        exact .short hall

theorem assess_held {size : Nat} {outcome : Except SystemError Int} {held : Report}
    (h : Announcement.assess size (.holding held) outcome = .error (.report fault)) :
    fault = .misuse (.alreadySet held.kind) := by
  by_cases hall : outcome = .ok (size : Int)
  · rw [hall, Announcement.assess_all] at h
    cases h
  · rw [Announcement.assess_holding held hall] at h
    cases h
    rfl

theorem announce_verbatim (descriptor : Nat) (h : Countable address w) :
    Verbatim false (Announcement.Reports address descriptor w) fun target =>
      (Announcement.announce address descriptor target w).1 := by
  simp only [Announcement.announce_eq]
  exact (assess_verdict fun _ => h.short).verbatim (assess_said fun _ => h.short) fun _ _ => assess_held

/-- A failure is reported in its own sentence with the texts in it as they are. An error of the system stands
there under what the system calls it, and otherwise as it shows itself; a pid file stands there in normal form,
which texts have in common that begin with the same slashes and have the same parts. -/
theorem reports_verbatim :
    (∀ text, Verbatim none (Address.Reports text) (readInto text)) ∧
    (∀ path w, Verbatim none (Context.Reports path w) fun target => (Context.start path target w).1) ∧
    (∀ path w (target after : Target), target.Open →
      ((∃ made w₁, Context.SetBack path target w (.reported after) made w₁) ↔
        ∃ r, Context.Tells path w r ∧ after = target.taking r)) ∧
    (∀ address descriptor w, Countable address w →
      Verbatim false (Announcement.Reports address descriptor w) fun target =>
        (Announcement.announce address descriptor target w).1) ∧
    (∀ e : SystemError, e.summary = (e.description?.filter (· ≠ "")).getD e.message) ∧
    (∀ text, Path.normal (Path.normal text) = Path.normal text) ∧
    ∀ text other, Path.normal text = Path.normal other ↔
      Path.leading text.toList = Path.leading other.toList ∧
        (Path.ofText text).parts = (Path.ofText other).parts :=
  ⟨readInto_verbatim, start_verbatim, fun _ _ _ _ => setBack_reported_iff,
    fun _ descriptor _ => announce_verbatim descriptor, SystemError.summary_eq, Path.normal_normal,
    fun _ _ => Path.normal_eq_iff⟩

/-- Directives in an address, in a path and in a line come through as they are, and where there is no memory
left for them only that is reported. -/
theorem reports_verbatim_percent :
    readInto "%s%d:\"" .clear =
        .ok (none, .holding ⟨.badAddress, "Unknown address transport \"%s%d\" in \"%s%d:\"\"", true⟩) ∧
      readInto "%s%d:\"" .exhausted = .ok (none, .holding noMemory) ∧
      Target.clear.Open ∧ (∃ made w₁, Context.SetBack "%n\n\"" .clear World.empty
        (.reported (.holding ⟨.fileNotFound, "Failed to open \"%n\n\"\": No such file or directory", true⟩))
        made w₁) ∧
      (Context.start "%n\n\"" .clear World.empty).1 =
        .ok (none, .holding ⟨.fileNotFound, "Failed to open \"%n\n\"\": No such file or directory", true⟩) ∧
      Countable "%" curtWorld ∧
      (Announcement.announce "%" 5 .clear curtWorld).1 =
        .ok (false, .holding ⟨.ioError, "Short write: 1 of 2 bytes", true⟩) := by
  obtain ⟨haddress, hstart, hsetBack, hannounce, -⟩ := reports_verbatim
  have htext : "%s%d:\"".toList = "%s%d".toList ++ ':' :: ['"'] := by decide
  have hunknown : Address.Refused "%s%d:\"" (.unknownTransport "%s%d") :=
    .unknownTransport htext (by decide) (by decide) fun t => by cases t <;> decide
  have hreports : Address.Reports "%s%d:\""
      ⟨.badAddress, "Unknown address transport \"%s%d\" in \"%s%d:\"\"", true⟩ := ⟨_, hunknown, rfl, rfl⟩
  have hstops : Context.Stops "%n\n\"" World.empty (.ok (.opening .notFound)) [] [] none World.empty :=
    @Context.Stops.reading _ _ (.system .notFound) World.empty rfl rfl
  have hnone : Context.Grounded (Context.socketNames []) := by simp [Context.Grounded, Context.socketNames]
  have hsize : (Announcement.line "%").utf8ByteSize = 2 := by decide
  have hcount : Countable "%" curtWorld := by
    intro count hwriting
    cases hwriting
    exact ⟨Number.tooLong_of_word (by decide), hsize ▸ Number.tooLong_of_word (by decide)⟩
  have hshort : Announcement.Reports "%" 5 curtWorld ⟨.ioError, "Short write: 1 of 2 bytes", true⟩ :=
    .short (by decide)
  refine ⟨?_, ?_, open_clear, ?_, ?_, hcount, ?_⟩
  · exact ((haddress _).exact none _).2 ⟨rfl, hreports⟩
  · exact ((haddress _).exhausted none _).2 ⟨rfl, rfl, _, hreports⟩
  · exact (hsetBack _ _ .clear _ open_clear).2 ⟨_, ⟨_, _, _, _, _, hstops, rfl⟩, rfl⟩
  · exact ((hstart _ _).exact none _).2 ⟨rfl, _, _, _, _, _, hstops, hnone, rfl⟩
  · exact ((hannounce _ 5 _ hcount).exact false _).2 ⟨rfl, hshort⟩

/-- Where there is no memory left for it, the text is not in the report. -/
theorem readInto_exhausted_unsaid :
    ¬ ∀ (text : String) (target after : Target) (a : Option Address), target.Open → target ≠ .absent →
      readInto text target = .ok (a, after) → after ≠ target →
      ∃ fault, Address.Refused text fault ∧
        after.report?.map (·.text) = some (fault.sentence text) := by
  intro hclaim
  have htext : "x:".toList = "x".toList ++ ':' :: [] := by decide
  have hunknown : Address.Refused "x:" (.unknownTransport "x") :=
    .unknownTransport htext (by decide) (by decide) fun t => by cases t <;> decide
  have hread : readInto "x:" .exhausted = .ok (none, .holding noMemory) :=
    ((readInto_verbatim "x:").exhausted none _).2 ⟨rfl, rfl, _, _, hunknown, rfl, rfl⟩
  obtain ⟨fault, hrefused, hsaid⟩ := hclaim "x:" .exhausted (.holding noMemory) none open_exhausted (by simp)
    hread (by simp)
  have hfault := Except.error.inj
    ((Address.parse_error_iff.2 hrefused).symm.trans (Address.parse_error_iff.2 hunknown))
  subst hfault
  exact absurd hsaid (by decide)

end Report
end MessageBus
