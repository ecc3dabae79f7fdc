import MessageBus.Announcement
import MessageBus.Proofs.Report.Filing
import MessageBus.Proofs.World
/-!
What comes of an announcement. It tells whether its line was written as a whole, and reports how the
write ended otherwise; the file tree stays as it is.
-/
namespace MessageBus.Announcement
variable {w w' : World} {address template : String} {descriptor size : Nat} {kind : Report.Kind}
  {arguments : List Value} {target after : Report.Target} {outcome : Except SystemError Int}
  {went : Bool} {σ : Type}

/-- The line that announces the address is written as a whole. -/
def Written (address : String) (descriptor : Nat) (w : World) : Prop :=
  (w.write descriptor (line address)).1 = .ok ((line address).utf8ByteSize : Int)

theorem dismiss_proceeds (descriptor : Nat) (w : World) :
    w.Proceeds 0 (System.ofWorld.dismiss descriptor w) := by
  unfold System.dismiss
  split
  · exact ⟨rfl, ⟨[], by simp [System.ofWorld, World.close], rfl⟩, rfl, rfl⟩
  · exact .refl w

theorem dismiss_files (descriptor : Nat) (w : World) :
    (System.ofWorld.dismiss descriptor w).files = w.files := by
  unfold System.dismiss
  split <;> rfl

/-! ### Verdicts -/

/-- Reports a failed announcement. -/
def refuse (kind : Report.Kind) (template : String) (arguments : List Value)
    (target : Report.Target) : Except Failure (Bool × Report.Target) :=
  match target.file kind (.filled template arguments) with
  | .ok target => .ok (false, target)
  | .error fault => .error (.report fault)

/-- What is reported about an outcome of writing so many bytes. -/
def assess (size : Nat) (target : Report.Target) :
    Except SystemError Int → Except Failure (Bool × Report.Target)
  | .error e => refuse (.ofErrorNumber e.number) "%s" [.text e.summary] target
  | .ok count =>
    if count = size then .ok (true, target)
    else refuse .ioError "Short write: %d of %d bytes" [.int count, .int size] target

/-- The answer with the target that it comes with. -/
def Exit.result (exit : Exit σ) : Except Failure (Bool × Report.Target) :=
  exit.answer.map (·, exit.target)

/-- The end that a verdict on the write comes to. What breaks off leaves the target as it is. -/
def Exit.ofVerdict (target : Report.Target) (s : σ) : Except Failure (Bool × Report.Target) → Exit σ
  | .ok (went, after) => ⟨.ok went, after, s⟩
  | .error failure => ⟨.error failure, target, s⟩

@[simp] theorem Exit.ofVerdict_system (s : σ) (verdict : Except Failure (Bool × Report.Target)) :
    (Exit.ofVerdict target s verdict).system = s := by
  cases verdict <;> rfl

@[simp] theorem Exit.ofVerdict_result (s : σ) (verdict : Except Failure (Bool × Report.Target)) :
    (Exit.ofVerdict target s verdict).result = verdict := by
  cases verdict <;> rfl

theorem decline_eq (kind : Report.Kind) (template : String) (arguments : List Value)
    (target : Report.Target) (s : σ) :
    decline kind template arguments target s =
      .ofVerdict target s (refuse kind template arguments target) := by
  unfold decline refuse
  cases target.file kind (.filled template arguments) <;> rfl

/-- On every way out the descriptor was dismissed, and the verdict is that on the outcome of the write. -/
theorem perform_eq (S : System σ) (address : String) (descriptor : Nat) (target : Report.Target) (s : σ) :
    perform S address descriptor target s =
      .ofVerdict target (S.dismiss descriptor (S.write descriptor (line address) s).2)
        (assess (line address).utf8ByteSize target (S.write descriptor (line address) s).1) := by
  unfold perform
  rcases S.write descriptor (line address) s with ⟨outcome, s₁⟩
  cases outcome with
  | error e =>
    rw [assess]
    dsimp only
    rw [decline_eq]
    cases refuse (.ofErrorNumber e.number) "%s" [.text e.summary] target <;> rfl
  | ok count =>
    rw [assess]
    dsimp only
    split
    · rfl
    · exact decline_eq ..

theorem announce_eq (address : String) (descriptor : Nat) (target : Report.Target) (w : World) :
    announce address descriptor target w =
      (assess (line address).utf8ByteSize target (w.write descriptor (line address)).1,
        System.ofWorld.dismiss descriptor (w.write descriptor (line address)).2) := by
  have hperform := perform_eq .ofWorld address descriptor target w
  exact Prod.ext ((congrArg Exit.result hperform).trans (Exit.ofVerdict_result _ _))
    ((congrArg Exit.system hperform).trans (Exit.ofVerdict_system _ _))

/-- A report that is filed announces nothing. -/
theorem refuse_ok (h : refuse kind template arguments target = .ok (went, after)) : went = false := by
  unfold refuse at h
  split at h <;> cases h
  rfl

theorem assess_ok (h : assess size target outcome = .ok (went, after)) :
    went = true ↔ outcome = .ok (size : Int) := by
  cases outcome with
  | error e =>
    have hwent := refuse_ok h
    simp [hwent]
  | ok count =>
    unfold assess at h
    dsimp only at h
    split at h
    · cases h
      simp_all
    · have hwent := refuse_ok h
      simp_all

/-- The report of a write that came to an end before all bytes were written. -/
def shortWrite (count : Int) (size : Nat) : Report :=
  ⟨.ioError, "Short write: " ++ Number.decimal count ++ " of " ++ Number.decimal size ++ " bytes", true⟩

theorem assess_error (ht : target.Open) (size : Nat) (e : SystemError) :
    assess size target (.error e) =
      .ok (false, target.taking ⟨.ofErrorNumber e.number, e.summary, true⟩) := by
  have hfile : target.file (.ofErrorNumber e.number) (.filled "%s" [.text e.summary]) =
      .ok (target.taking ⟨.ofErrorNumber e.number, e.summary, true⟩) := by
    apply @Report.file_parts _ [.filled e.summary] _ ht
    · simp [Template.Part.Plain]
    · simp [Template.Part.written]
    · simp [Template.Part.arguments]
    · simp [Template.Part.shown]
  rw [assess, refuse, hfile]

theorem assess_all (size : Nat) (target : Report.Target) :
    assess size target (.ok (size : Int)) = .ok (true, target) := by
  simp [assess]

theorem assess_short (ht : target.Open) {count : Int} (hshort : count ≠ size)
    (hcount : Number.tooLong count = false) (hsize : Number.tooLong size = false) :
    assess size target (.ok count) = .ok (false, target.taking (shortWrite count size)) := by
  have hfile : target.file .ioError (.filled "Short write: %d of %d bytes" [.int count, .int size]) =
      .ok (target.taking (shortWrite count size)) := by
    apply @Report.file_parts _
      [.fixed "Short write: ", .number count, .fixed " of ", .number size, .fixed " bytes"] _ ht
    · simp [Template.Part.Plain, hcount, hsize]
    · simp [Template.Part.written]
    · simp [Template.Part.arguments]
    · simp [Template.Part.shown]
  rw [assess]
  simp only [hshort, if_false]
  rw [refuse, hfile]

/-- A target that holds a report takes no verdict but that all was written. -/
theorem assess_holding (r : Report) (h : outcome ≠ .ok (size : Int)) :
    assess size (.holding r) outcome = .error (.report (.misuse (.alreadySet r.kind))) := by
  cases outcome with
  | error e => rfl
  | ok count =>
    have hshort : count ≠ size := fun hall => h (by rw [hall])
    simp [assess, hshort, refuse, Report.file_holding]

/-- An announcement that does not break off tells whether the line was written as a whole. -/
theorem announce_written (h : announce address descriptor target w = (.ok (went, after), w')) :
    w'.files = w.files ∧ w.Proceeds 0 w' ∧ (went = true ↔ Written address descriptor w) := by
  rw [announce_eq] at h
  obtain ⟨hassess, rfl⟩ := Prod.ext_iff.1 h
  exact ⟨(dismiss_files _ _).trans (World.write_files _ _ _),
    (World.proceeds_write _ _ _).trans (dismiss_proceeds _ _), assess_ok hassess⟩

end MessageBus.Announcement
