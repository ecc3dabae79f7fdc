import MessageBus.Proofs.Announcement
import MessageBus.Proofs.Context.Course
import MessageBus.Proofs.Number.Digits
/-!
What a missing target makes of a failure: nothing but that it is not reported. Two runs that differ in
having a target end alike and leave the same world behind.
-/
namespace MessageBus.Report

variable {ε α : Type} {path : String} {w w₁ : World} {c : Context} {out : Context.StepEnd}
  {made : Option Context}

/-- An outcome whose report has nowhere to go. -/
def unreported (r : Except ε (α × Target)) : Except ε (α × Target) :=
  r.map fun x => (x.1, .absent)

/-- Without a target the run ends as with a clear one, but for the report, and comes to the same beside it. -/
def Silenced {β : Type} (run : Target → Except ε (α × Target) × β) : Prop :=
  run .absent = (unreported (run .clear).1, (run .clear).2)

/-- Reading an address without a target ends as it does with one. -/
theorem parseInto_unreported (text : String) :
    Address.parseInto .absent text = unreported (Address.parseInto .clear text) := by
  cases hparse : Address.parse text with
  | ok a => simp [Address.parseInto, hparse, unreported, Except.map]
  | error fault =>
    rw [Address.parseInto_fault open_absent hparse, Address.parseInto_fault open_clear hparse]
    cases fault.unreadable? <;> rfl

/-! ### Starts -/

theorem takenDown_silenced : Silenced fun target => Context.takenDown path target w out made := by
  unfold Silenced
  cases out with
  | error failure => rfl
  | ok obstacle =>
    cases made with
    | none => rfl
    | some c =>
      rcases hrelease : c.release w with ⟨r, c', w'⟩
      cases r <;> simp [Context.takenDown, hrelease, unreported, Except.map, Target.taking]

theorem attempt_of_built_silenced (h : Context.Built path w c w₁) :
    Silenced fun target => Context.attempt path target w := by
  unfold Silenced
  dsimp only
  rw [Context.attempt_of_built h, Context.attempt_of_built h]
  cases c.announceReady w₁ <;> rfl

/-- With or without a target, a start stops at the same step. -/
theorem attempt_silenced (path : String) (w : World) :
    Silenced fun target => Context.attempt path target w := by
  obtain ⟨c, w₁, hbuilt⟩ | ⟨out, addresses, ls, made, w₁, hstops⟩ := Context.built_or_stops path w
  · exact attempt_of_built_silenced hbuilt
  · unfold Silenced
    dsimp only
    rw [Context.attempt_of_stops open_absent hstops, Context.attempt_of_stops open_clear hstops]
    exact takenDown_silenced

theorem start_silenced (path : String) (w : World) :
    Silenced fun target => Context.start path target w := by
  have h := attempt_silenced path w
  simp only [Silenced, Context.start] at h ⊢
  rw [h]

/-! ### Announcements -/

/-- The counts that a short write is reported with can be written, as machine words can. -/
def Countable (address : String) (w : World) : Prop :=
  ∀ count, w.writing = .count count →
    Number.tooLong count = false ∧ Number.tooLong (Announcement.line address).utf8ByteSize = false

theorem assess_unreported {size : Nat} {outcome : Except SystemError Int}
    (h : ∀ count, outcome = .ok count → count ≠ size →
      Number.tooLong count = false ∧ Number.tooLong size = false) :
    Announcement.assess size .absent outcome = unreported (Announcement.assess size .clear outcome) := by
  cases outcome with
  | error e =>
    rw [Announcement.assess_error open_absent, Announcement.assess_error open_clear]
    rfl
  | ok count =>
    by_cases hall : count = size
    · rw [hall, Announcement.assess_all, Announcement.assess_all]
      rfl
    · obtain ⟨hcount, hsize⟩ := h count rfl hall
      rw [Announcement.assess_short open_absent hall hcount hsize,
        Announcement.assess_short open_clear hall hcount hsize]
      rfl

/-- Only a short write is counted in a report, and the world has its count. -/
theorem Countable.short {address : String} {descriptor : Nat} {count : Int} (h : Countable address w)
    (hwrite : (w.write descriptor (Announcement.line address)).1 = .ok count)
    (hshort : count ≠ (Announcement.line address).utf8ByteSize) :
    Number.tooLong count = false ∧ Number.tooLong (Announcement.line address).utf8ByteSize = false := by
  unfold World.write at hwrite
  cases hwriting : w.writing with
  | all =>
    simp only [hwriting] at hwrite
    exact absurd (Except.ok.inj hwrite).symm hshort
  | count n =>
    simp only [hwriting] at hwrite
    obtain rfl := Except.ok.inj hwrite
    exact h n hwriting
  | fails e =>
    simp only [hwriting] at hwrite
    cases hwrite

theorem announce_silenced {address : String} (descriptor : Nat) (h : Countable address w) :
    Silenced fun target => Announcement.announce address descriptor target w := by
  have hassess := @assess_unreported (Announcement.line address).utf8ByteSize
    (w.write descriptor (Announcement.line address)).1
  unfold Silenced
  dsimp only
  rw [Announcement.announce_eq, Announcement.announce_eq, hassess]
  exact fun count => h.short

/-- Without a target, reading an address, a start and an announcement end as they do with a clear one, and
leave the same world. -/
theorem silenced :
    (∀ text, Address.parseInto .absent text = unreported (Address.parseInto .clear text)) ∧
      (∀ path w, Silenced fun target => Context.start path target w) ∧
      ∀ address descriptor w, Countable address w →
        Silenced fun target => Announcement.announce address descriptor target w :=
  ⟨parseInto_unreported, start_silenced, fun _ descriptor _ => announce_silenced descriptor⟩

/-- A world where writing ends behind the first byte. -/
def curtWorld : World := { World.empty with writing := .count 1 }

/-- That world after one announcement. -/
def curtWorldAfter : World :=
  { curtWorld with submitted := [(5, "a\n")], writes := [(5, "a\n")], closed := [5] }

theorem silenced_curtWorld :
    Countable "a" curtWorld ∧
      Announcement.announce "a" 5 .clear curtWorld =
        (.ok (false, .holding (Announcement.shortWrite 1 2)), curtWorldAfter) ∧
      Announcement.announce "a" 5 .absent curtWorld = (.ok (false, .absent), curtWorldAfter) := by
  have hsize : (Announcement.line "a").utf8ByteSize = 2 := by decide
  have hone : Number.tooLong 1 = false := Number.tooLong_of_word (by decide)
  have htwo : Number.tooLong (2 : Nat) = false := Number.tooLong_of_word (by decide)
  have hcount : Countable "a" curtWorld := by
    intro count hwriting
    cases hwriting
    exact ⟨hone, hsize ▸ htwo⟩
  have hclear : Announcement.announce "a" 5 .clear curtWorld =
      (.ok (false, .holding (Announcement.shortWrite 1 2)), curtWorldAfter) := by
    have hshort := Announcement.assess_short open_clear (by decide : (1 : Int) ≠ (2 : Nat)) hone htwo
    have hwrite : curtWorld.write 5 (Announcement.line "a") =
        (.ok 1, { curtWorld with submitted := [(5, "a\n")], writes := [(5, "a\n")] }) := rfl
    rw [Announcement.announce_eq, hwrite, hsize, hshort]
    rfl
  refine ⟨hcount, hclear, ?_⟩
  have hsilenced := silenced.2.2 "a" 5 curtWorld hcount
  rw [Silenced, hclear] at hsilenced
  exact hsilenced

end MessageBus.Report
