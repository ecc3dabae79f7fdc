import MessageBus.Proofs.Announcement
import MessageBus.Proofs.Number.Digits
/-!
What an announcement asks of the system. It hands the whole line over in one write, and then has the
descriptor closed unless that is a standard stream: once, whichever way the announcement ends.
-/
namespace MessageBus.Announcement
variable {σ : Type} {w : World} {address : String} {descriptor : Nat} {target : Report.Target}

/-- A request to the system. -/
inductive Request
  | write (descriptor : Nat) (text : String)
  | close (descriptor : Nat)
  deriving DecidableEq

/-- The same system with a record of what it was asked for, whatever its answers were. -/
def System.recorded (S : System σ) : System (σ × List Request) where
  write descriptor text s :=
    let (outcome, after) := S.write descriptor text s.1
    (outcome, after, s.2 ++ [.write descriptor text])
  close descriptor s :=
    let (complaint, after) := S.close descriptor s.1
    (complaint, after, s.2 ++ [.close descriptor])

/-! ### Requests -/

/-- The closing of a descriptor that is no standard stream. -/
def closing (descriptor : Nat) : List Request :=
  if 2 < descriptor then [.close descriptor] else []

theorem dismiss_recorded (S : System σ) (descriptor : Nat) (s : σ) (past : List Request) :
    S.recorded.dismiss descriptor (s, past) = (S.dismiss descriptor s, past ++ closing descriptor) := by
  have hlast : CommandLine.lastStandardStream = 2 := rfl
  unfold System.dismiss closing
  rw [hlast]
  split <;> simp [System.recorded]

/-- The record adds nothing but itself: one write, and the closing. -/
theorem perform_recorded (S : System σ) (address : String) (descriptor : Nat) (target : Report.Target)
    (s : σ) (past : List Request) :
    perform S.recorded address descriptor target (s, past) =
      .ofVerdict target
        (S.dismiss descriptor (S.write descriptor (line address) s).2,
          past ++ .write descriptor (line address) :: closing descriptor)
        (assess (line address).utf8ByteSize target (S.write descriptor (line address) s).1) := by
  have hwrite : S.recorded.write descriptor (line address) (s, past) =
      ((S.write descriptor (line address) s).1,
        (S.write descriptor (line address) s).2, past ++ [.write descriptor (line address)]) := rfl
  rw [perform_eq, hwrite, dismiss_recorded, List.append_assoc, List.singleton_append]

/-! ### Every way out -/

/-- What an announcement comes to, by the outcome of its write and by the target it was given. -/
structure Settled (address : String) (descriptor : Nat) (target : Report.Target)
    (outcome : Except SystemError Int) (exit : Exit σ) (asked : List Request) : Prop where
  /-- The whole line is handed over at once, and the descriptor is closed behind it if it is above 2. -/
  asked : asked = .write descriptor (line address) :: closing descriptor
  /-- The answer is yes if all bytes were written, and at no other end. -/
  went : exit.answer = .ok true ↔ outcome = .ok ((line address).utf8ByteSize : Int)
  untouched : exit.answer = .ok true → exit.target = target
  /-- A write that failed is reported by the kind that its error number stands for. Like every report this one
  gives way to the report of missing memory in a target whose allocator has none. -/
  failed : ∀ e, outcome = .error e → target.Open →
    exit.answer = .ok false ∧
      exit.target = target.taking ⟨.ofErrorNumber e.number, e.summary, true⟩
  /-- A short write is reported with its counts, which are machine words. -/
  short : ∀ count : Int, outcome = .ok count → count ≠ (line address).utf8ByteSize →
    count.natAbs < Nat.pow 2 64 → (line address).utf8ByteSize < Nat.pow 2 64 → target.Open →
    exit.answer = .ok false ∧
      exit.target = target.taking (shortWrite count (line address).utf8ByteSize)
  /-- Where a report is held already, a second one breaks the announcement off. -/
  misused : ∀ r, target = .holding r → outcome ≠ .ok ((line address).utf8ByteSize : Int) →
    exit.answer = .error (.report (.misuse (.alreadySet r.kind))) ∧ exit.target = target

/-- An end by the verdict on the write, behind the one write and the closing. -/
theorem settled_ofVerdict (s : σ) (outcome : Except SystemError Int) :
    Settled address descriptor target outcome
      (.ofVerdict target s (assess (line address).utf8ByteSize target outcome))
      (.write descriptor (line address) :: closing descriptor) := by
  have hyes (hanswer : (Exit.ofVerdict target s
      (assess (line address).utf8ByteSize target outcome)).answer = .ok true) :
      outcome = .ok ((line address).utf8ByteSize : Int) := by
    cases hverdict : assess (line address).utf8ByteSize target outcome with
    | error failure =>
      rw [hverdict] at hanswer
      cases hanswer
    | ok x =>
      rw [hverdict] at hanswer
      exact (assess_ok hverdict).1 (Except.ok.inj hanswer)
  constructor
  case asked => rfl
  case went =>
    refine ⟨hyes, ?_⟩
    rintro rfl
    rw [assess_all]
    rfl
  case untouched =>
    intro hanswer
    rw [hyes hanswer, assess_all]
    rfl
  case failed =>
    rintro e rfl ht
    rw [assess_error ht]
    exact ⟨rfl, rfl⟩
  case short =>
    rintro count rfl hshort hcount hsize ht
    rw [assess_short ht hshort (Number.tooLong_of_word hcount) (Number.tooLong_of_word hsize)]
    exact ⟨rfl, rfl⟩
  case misused =>
    rintro r rfl hpart
    rw [assess_holding r hpart]
    exact ⟨rfl, rfl⟩

/-- Whichever system an announcement is made to, it settles so. -/
theorem perform_settled (S : System σ) (address : String) (descriptor : Nat) (target : Report.Target)
    (s : σ) :
    let exit := perform S.recorded address descriptor target (s, [])
    Settled address descriptor target (S.write descriptor (line address) s).1 exit exit.system.2 := by
  dsimp only
  rw [perform_recorded, Exit.ofVerdict_system]
  exact settled_ofVerdict _ _

/-! ### Announcements to the world -/

/-- What the world says to a write has nothing to do with what it says to a closing. -/
theorem write_closing (w : World) (complaint : Option SystemError) (text : String) :
    World.write { w with closing := complaint } descriptor text =
      ((w.write descriptor text).1, { (w.write descriptor text).2 with closing := complaint }) := by
  cases hwriting : w.writing <;> simp [World.write, hwriting]

/-- A closing that fails is as good as one that does not. -/
theorem announce_closing (w : World) (complaint : Option SystemError) :
    announce address descriptor target { w with closing := complaint } =
      ((announce address descriptor target w).1,
        { (announce address descriptor target w).2 with closing := complaint }) := by
  rw [announce_eq, announce_eq, write_closing]
  dsimp only [System.dismiss]
  split <;> rfl

/-- What the world has got in the end: the line, once, and one closing if the descriptor is above 2. -/
theorem announce_leaves (address : String) (descriptor : Nat) (target : Report.Target) (w : World) :
    (announce address descriptor target w).2.submitted = w.submitted ++ [(descriptor, line address)] ∧
      (announce address descriptor target w).2.closed =
        w.closed ++ if 2 < descriptor then [descriptor] else [] := by
  have hlast : CommandLine.lastStandardStream = 2 := rfl
  have hwrite : (w.write descriptor (line address)).2.submitted = w.submitted ++ [(descriptor, line address)] ∧
      (w.write descriptor (line address)).2.closed = w.closed := by
    unfold World.write
    cases w.writing <;> exact ⟨rfl, rfl⟩
  rw [announce_eq, ← hwrite.1, ← hwrite.2]
  unfold System.dismiss
  rw [hlast]
  split <;> simp [System.ofWorld, World.close]

/-- For every outcome of the write and of the closing, and for every target: the line is handed over in
one write, the descriptor is closed once if it is above 2, and all else goes by the write. -/
theorem announce_settled (address : String) (descriptor : Nat) (target : Report.Target) (w : World) :
    let exit := perform System.ofWorld.recorded address descriptor target (w, [])
    announce address descriptor target w = (exit.result, exit.system.1) ∧
      Settled address descriptor target (w.write descriptor (line address)).1 exit exit.system.2 ∧
      exit.system.1.submitted = w.submitted ++ [(descriptor, line address)] ∧
      exit.system.1.closed = w.closed ++ (if 2 < descriptor then [descriptor] else []) ∧
      ∀ complaint, announce address descriptor target { w with closing := complaint } =
        (exit.result, { exit.system.1 with closing := complaint }) := by
  have hannounce : announce address descriptor target w =
      ((perform System.ofWorld.recorded address descriptor target (w, [])).result,
        (perform System.ofWorld.recorded address descriptor target (w, [])).system.1) := by
    rw [perform_recorded, Exit.ofVerdict_result, Exit.ofVerdict_system, announce_eq]
    rfl
  have hleaves := announce_leaves address descriptor target w
  rw [hannounce] at hleaves
  refine ⟨hannounce, perform_settled .ofWorld address descriptor target w, hleaves.1, hleaves.2,
    fun complaint => ?_⟩
  rw [announce_closing, hannounce]

/-- A world where neither a write nor a closing goes well. -/
def deafWorld : World :=
  { World.empty with writing := .fails .inputOutput, closing := some .inputOutput }

/-- The second report breaks the announcement off, behind one write and one closing. -/
theorem announce_settled_deafWorld :
    let held : Report.Target := .holding ⟨.timeout, "earlier", true⟩
    let exit := perform System.ofWorld.recorded "a" 5 held (deafWorld, [])
    exit.answer = .error (.report (.misuse (.alreadySet .timeout))) ∧ exit.target = held ∧
      exit.system.2 = [.write 5 "a\n", .close 5] ∧
      announce "a" 5 held deafWorld =
        (.error (.report (.misuse (.alreadySet .timeout))),
          { deafWorld with submitted := [(5, "a\n")], closed := [5] }) := by
  have hwrite : (deafWorld.write 5 (line "a")).1 = .error .inputOutput := rfl
  obtain ⟨hannounce, hsettled, -⟩ :=
    announce_settled "a" 5 (.holding ⟨.timeout, "earlier", true⟩) deafWorld
  rw [hwrite] at hsettled
  obtain ⟨hanswer, htarget⟩ := hsettled.misused _ rfl (by simp)
  refine ⟨hanswer, htarget, hsettled.asked, ?_⟩
  rw [hannounce, Exit.result, hanswer]
  rfl

/-- Where no memory is left for the report, a write that failed is not reported by the kind that its error
number stands for. -/
theorem announce_deafWorld_exhausted :
    ¬ ∀ (address : String) (descriptor : Nat) (target after : Report.Target) (w : World) (e : SystemError),
      (w.write descriptor (line address)).1 = .error e → target.Open → target ≠ .absent →
      (announce address descriptor target w).1 = .ok (false, after) →
      ∃ text owned, after = .holding ⟨.ofErrorNumber e.number, text, owned⟩ := by
  intro hclaim
  obtain ⟨text, owned, hkind⟩ := hclaim "a" 5 .exhausted (.holding Report.noMemory) deafWorld .inputOutput rfl
    Report.open_exhausted (by simp) rfl
  have hkinds : Report.Kind.noMemory = .ofErrorNumber SystemError.inputOutput.number :=
    congrArg Report.kind (Report.Target.holding.inj hkind)
  exact absurd hkinds (by decide)

end MessageBus.Announcement
