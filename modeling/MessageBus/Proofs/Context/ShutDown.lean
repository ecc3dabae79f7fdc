import MessageBus.Proofs.Context.History
import MessageBus.Proofs.Context.Removing
/-!
What is still recorded of a context that was shut down. Main statement: after a shut down that succeeds no
listener and no pid file is recorded, unless an earlier one was broken off; from then on what that left is
recorded for good, and shutting down again succeeds and changes nothing.
-/
namespace MessageBus.Context

/-- A listener or the pid file is recorded: what it left in the file tree is still to be removed. -/
def Owes (c : Context) : Prop := c.listeners ≠ [] ∨ c.pidFile ≠ none

/-- The operation shuts the context down, for the first time. -/
def Begins (op : Operation) (c : Context) : Prop :=
  c.shutDown = false ∧
    match op with
    | .shutdown => True
    | .release => c.references = 1
    | _ => False

/-- An operation began to shut the context down, and that was broken off. -/
def BrokenOff : List Operation → Context → World → Prop
  | [], _, _ => False
  | op :: ops, c, w =>
    (Begins op c ∧ (c.shutdown w).1 ≠ .ok ()) ∨ BrokenOff ops (carryOut op c w).2.1 (carryOut op c w).2.2

/-- The same is recorded as before. -/
structure Recorded (c c' : Context) : Prop where
  listeners : c'.listeners = c.listeners
  pidFile : c'.pidFile = c.pidFile
  shutDown : c'.shutDown = c.shutDown

variable {path : String} {target after : Report.Target} {c c₀ c' : Context} {w w₀ w' : World}
  {op : Operation} {ops : List Operation} {answers : List (Except Failure Unit)} {failure : Failure}

theorem Recorded.refl (c : Context) : Recorded c c := ⟨rfl, rfl, rfl⟩

theorem Recorded.trans {c₁ : Context} (h : Recorded c c₁) (h' : Recorded c₁ c') : Recorded c c' :=
  ⟨h'.listeners.trans h.listeners, h'.pidFile.trans h.pidFile, h'.shutDown.trans h.shutDown⟩

theorem Recorded.owes (h : Recorded c c') : c'.Owes ↔ c.Owes := by
  rw [Owes, h.listeners, h.pidFile, Owes]

/-- A file that cannot be removed is recorded. -/
theorem Obstructed.owes {f : Files} (h : Obstructed c f) : c.Owes := by
  obtain ⟨name, hname, -⟩ := h
  refine (List.mem_append.1 hname).imp (fun hsocket hnil => ?_) fun hpid hnone => ?_
  · simp [hnil, socketNames] at hsocket
  · simp [hnone] at hpid

theorem Touched.recorded (h : Touched c w c' w') : Recorded c c' := by
  obtain ⟨l, connections, wishes, rfl⟩ := h.context
  exact ⟨rfl, rfl, rfl⟩

/-! ### One shut down -/

/-- Removing the files forgets all of them. -/
theorem not_owes_of_removeFiles (h : c.removeFiles w = (.ok (), c', w')) : ¬ c'.Owes := by
  unfold removeFiles at h
  split at h
  · cases h
  · unfold removePidFile at h
    split at h
    · rename_i hnone
      cases h
      simpa [Owes] using hnone
    · split at h <;> cases h
      simp [Owes]

/-- The first shut down forgets all the files. -/
theorem Tended.shutdown_forgets (h : Tended c) (hfirst : c.shutDown = false)
    (hdone : c.shutdown w = (.ok (), c', w')) : ¬ c'.Owes := by
  obtain ⟨c₁, w₁, -, -, -, -, hshutdown⟩ := shutdown_first h hfirst w
  exact not_owes_of_removeFiles (hshutdown.symm.trans hdone)

/-- Or it is broken off over one of them. -/
theorem Tended.shutdown_obstructed (h : Tended c) (hfirst : c.shutDown = false)
    (hfails : c.shutdown w = (.error failure, c', w')) : Obstructed c' w'.files := by
  obtain ⟨c₁, w₁, -, -, -, -, hshutdown⟩ := shutdown_first h hfirst w
  exact (removeFiles_error (hshutdown.symm.trans hfails)).2

theorem Tended.shutdown_owes (h : Tended c) (hfirst : c.shutDown = false) (w : World) :
    (c.shutdown w).2.1.Owes ↔ (c.shutdown w).1 ≠ .ok () := by
  rcases hshutdown : c.shutdown w with ⟨failure | done, c', w'⟩
  · simpa using (h.shutdown_obstructed hfirst hshutdown).owes
  · simpa using h.shutdown_forgets hfirst hshutdown

/-- Removing the files does not look at the references. -/
theorem removeFiles_references (n : Nat) (c : Context) (w : World) :
    ({ c with references := n } : Context).removeFiles w =
      ((c.removeFiles w).1, { (c.removeFiles w).2.1 with references := n }, (c.removeFiles w).2.2) := by
  unfold removeFiles removePidFile
  dsimp only
  split
  · rfl
  · split
    · rfl
    · split <;> rfl

/-- Neither does shutting down. -/
theorem shutdown_references (n : Nat) (c : Context) (w : World) :
    ({ c with references := n } : Context).shutdown w =
      ((c.shutdown w).1, { (c.shutdown w).2.1 with references := n }, (c.shutdown w).2.2) := by
  obtain hshut | hfirst := Bool.eq_false_or_eq_true c.shutDown
  · rw [shutdown_of_shutDown hshut, shutdown_of_shutDown (c := { c with references := n }) hshut]
  · rw [shutdown_eq hfirst, shutdown_eq (c := { c with references := n }) hfirst]
    have hcomplete : complete (.job .closeAll) { c with references := n, shutDown := true }
          (w.record shuttingDown) =
        ((complete (.job .closeAll) { c with shutDown := true } (w.record shuttingDown)).1,
          { (complete (.job .closeAll) { c with shutDown := true } (w.record shuttingDown)).2.1 with
            references := n },
          (complete (.job .closeAll) { c with shutDown := true } (w.record shuttingDown)).2.2) := rfl
    rw [hcomplete]
    rcases complete (.job .closeAll) { c with shutDown := true } (w.record shuttingDown) with
      ⟨failure | done, c₁, w₁⟩
    · rfl
    · exact removeFiles_references n c₁ w₁

/-! ### One operation after the other -/

/-- What does not begin to shut a context down leaves it as it is, up to its references and its loop, and
leaves the files to others. -/
theorem Tended.unbegun_carryOut (h : Tended c) (hbegins : ¬ Begins op c) (w : World) :
    ∃ n, Touched { c with references := n } { w with files := op.byOthers w.files }
      (Context.carryOut op c w).2.1 (Context.carryOut op c w).2.2 := by
  cases hsettles : op.settles with
  | false =>
    obtain ⟨-, hdriven⟩ := h.toOrderly.unsettled hsettles w
    exact ⟨c.references, hdriven.toTouched⟩
  | true =>
    cases op with
    | retain => exact ⟨c.references + 1, .refl _ w⟩
    | shutdown =>
      have hshut : c.shutDown = true := by
        cases hfirst : c.shutDown with
        | true => rfl
        | false => exact absurd ⟨hfirst, trivial⟩ hbegins
      rw [Context.carryOut, shutdown_of_shutDown hshut]
      exact ⟨c.references, .refl c w⟩
    | release =>
      obtain ⟨-, hrefused⟩ | ⟨n, -, hmore⟩ | hlast := release_cases c w
      · rw [Context.carryOut, hrefused]
        exact ⟨c.references, .refl c w⟩
      · rw [Context.carryOut, hmore]
        exact ⟨n + 1, .refl _ w⟩
      · have hshut : c.shutDown = true := by
          cases hfirst : c.shutDown with
          | true => rfl
          | false => exact absurd ⟨hfirst, hlast⟩ hbegins
        rw [Context.carryOut, Context.release_last hlast,
          shutdown_of_shutDown (c := { c with references := 0 }) hshut]
        exact ⟨0, closeLoop_touched { c with references := 0 } w⟩
    | _ => simp [Operation.settles] at hsettles

theorem Tended.recorded_carryOut (h : Tended c) (hbegins : ¬ Begins op c) (w : World) :
    Recorded c (Context.carryOut op c w).2.1 := by
  obtain ⟨n, htouched⟩ := h.unbegun_carryOut hbegins w
  have hrecorded := htouched.recorded
  exact ⟨hrecorded.listeners, hrecorded.pidFile, hrecorded.shutDown⟩

/-- What begins to shut a context down leaves something recorded if it is broken off, and else nothing. -/
theorem Tended.owes_carryOut (h : Tended c) (hbegins : Begins op c) (w : World) :
    (Context.carryOut op c w).2.1.shutDown = true ∧
      ((Context.carryOut op c w).2.1.Owes ↔ (c.shutdown w).1 ≠ .ok ()) := by
  obtain ⟨hfirst, hop⟩ := hbegins
  obtain ⟨-, hshut, -⟩ := h.shutdown w
  have howes := h.shutdown_owes hfirst w
  cases op with
  | shutdown => exact ⟨hshut, howes⟩
  | release =>
    rw [Context.carryOut, Context.release_last hop, shutdown_references]
    generalize c.shutdown w = result at hshut howes ⊢
    obtain ⟨failure | done, c₁, w₁⟩ := result
    · exact ⟨hshut, howes⟩
    · have hclosed := (closeLoop_touched { c₁ with references := 0 } w₁).recorded
      exact ⟨hclosed.shutDown.trans hshut, hclosed.owes.trans howes⟩
  | _ => exact hop.elim

/-- What is recorded of a context that is shut down: what was so before, or what was broken off. -/
theorem Tended.owes_iff (h : Tended c) (ops : List Operation) (w : World) :
    (Context.carryOutAll ops c w).2.1.shutDown = true ∧ (Context.carryOutAll ops c w).2.1.Owes ↔
      (c.shutDown = true ∧ c.Owes) ∨ BrokenOff ops c w := by
  induction ops generalizing c w with
  | nil => simp [Context.carryOutAll, BrokenOff]
  | cons op ops ih =>
    have hrest := ih (h.carryOut op w) (Context.carryOut op c w).2.2
    rw [carryOutAll_cons, BrokenOff, ← or_assoc]
    refine hrest.trans (or_congr_left ?_)
    by_cases hbegins : Begins op c
    · obtain ⟨hshut, howes⟩ := h.owes_carryOut hbegins w
      simp [hshut, howes, hbegins, hbegins.1]
    · have hsame := h.recorded_carryOut hbegins w
      simp [hsame.shutDown, hsame.owes, hbegins]

/-! ### From the start -/

/-- A shut down that succeeds leaves something recorded exactly if an earlier one was broken off; one that
fails is the first, and leaves a file recorded that cannot be removed. -/
theorem shutdown_owes_iff (hstart : start path target w = (.ok (some c₀, after), w₀))
    (hrun : carryOutAll ops c₀ w₀ = (answers, c, w')) :
    (∀ w c' w'', c.shutdown w = (.ok (), c', w'') → (c'.Owes ↔ BrokenOff ops c₀ w₀)) ∧
    (∀ w failure c' w'', c.shutdown w = (.error failure, c', w'') →
      c.shutDown = false ∧ c'.shutDown = true ∧ c'.Owes ∧ Obstructed c' w''.files) ∧
    (BrokenOff ops c₀ w₀ → ∀ w, c.shutdown w = (.ok (), c, w)) := by
  have hfresh := tended_of_start hstart
  obtain ⟨-, hnew, -⟩ := fresh_of_start hstart
  have htended := hfresh.carryOutAll ops w₀
  have howes := hfresh.owes_iff ops w₀
  rw [hrun] at htended howes
  simp only [hnew, Bool.false_eq_true, false_and, false_or] at howes
  refine ⟨fun w c' w'' hshutdown => ?_, fun w failure c' w'' hshutdown => ?_, fun hbroken w =>
    shutdown_of_shutDown (howes.2 hbroken).1 w⟩
  · cases hfirst : c.shutDown with
    | true =>
      rw [shutdown_of_shutDown hfirst] at hshutdown
      cases hshutdown
      rw [← howes]
      simp [hfirst]
    | false =>
      have hdone := htended.shutdown_owes hfirst w
      rw [hshutdown] at hdone
      rw [← howes]
      simpa [hfirst] using hdone
  · cases hfirst : c.shutDown with
    | true =>
      rw [shutdown_of_shutDown hfirst] at hshutdown
      cases hshutdown
    | false =>
      have hobstructed := htended.shutdown_obstructed hfirst hshutdown
      obtain ⟨-, hshut, -⟩ := htended.shutdown w
      rw [hshutdown] at hshut
      exact ⟨rfl, hshut, hobstructed.owes, hobstructed⟩

/-- The place of the first socket was taken by a directory before the shut down. -/
def blocked : List Operation :=
  [.rearrange (Files.empty.put ["work", "a.sock"] .directory), .shutdown]

/-- The shut down fails then, and has the listeners and the pid file still recorded. -/
theorem carryOutAll_blocked : ∃ c₀ answers c w',
    start "bus.yaml" .clear furnished =
      (.ok (some c₀, .clear), (start "bus.yaml" .clear furnished).2) ∧
    carryOutAll blocked c₀ (start "bus.yaml" .clear furnished).2 = (answers, c, w') ∧
    answers.map (·.toOption) = [some (), none] ∧ c.shutDown = true ∧
    c.listeners.map (·.socket) = [some "a.sock", some "b.sock"] ∧ c.pidFile = some "bus.pid" := by
  obtain ⟨c₀, answers, c, w', hstart, hrun, hc⟩ := carryOutAll_furnished blocked
    (f := fun _ r => (r.1.map (·.toOption), r.2.1.shutDown, r.2.1.listeners.map (·.socket), r.2.1.pidFile))
    (a := ([some (), none], true, [some "a.sock", some "b.sock"], some "bus.pid")) (by decide +kernel)
  simp only [Prod.mk.injEq] at hc
  exact ⟨c₀, answers, c, w', hstart, hrun, hc⟩

theorem shutdown_owes_iff_blocked : ∃ c₀ answers c w',
    start "bus.yaml" .clear furnished =
      (.ok (some c₀, .clear), (start "bus.yaml" .clear furnished).2) ∧
    carryOutAll blocked c₀ (start "bus.yaml" .clear furnished).2 = (answers, c, w') ∧
    BrokenOff blocked c₀ (start "bus.yaml" .clear furnished).2 ∧
    c.shutdown w' = (.ok (), c, w') ∧ c.Owes := by
  obtain ⟨c₀, answers, c, w', hstart, hrun, -, hshut, -, hpid⟩ := carryOutAll_blocked
  obtain ⟨howes, -, hagain⟩ := shutdown_owes_iff hstart hrun
  have howing : c.Owes := .inr (by simp [hpid])
  have hbroken := (howes w' c w' (shutdown_of_shutDown hshut w')).1 howing
  exact ⟨c₀, answers, c, w', hstart, hrun, hbroken, hagain hbroken w', howing⟩

/-- A shut down that succeeds may leave a listener and the pid file recorded. -/
theorem shutdown_blocked_owes : ¬ ∀ (path : String) (target : Report.Target) (w : World) (c₀ : Context)
    (after : Report.Target) (w₀ : World) (ops : List Operation) (answers : List (Except Failure Unit))
    (c : Context) (w' : World),
    start path target w = (.ok (some c₀, after), w₀) → carryOutAll ops c₀ w₀ = (answers, c, w') →
      ∀ w₁ c' w'', c.shutdown w₁ = (.ok (), c', w'') → c'.listeners = [] ∧ c'.pidFile = none := by
  intro hclaim
  obtain ⟨c₀, answers, c, w', hstart, hrun, -, hshut, -, hpid⟩ := carryOutAll_blocked
  obtain ⟨-, hnone⟩ := hclaim _ _ _ _ _ _ _ _ c w' hstart hrun w' c w' (shutdown_of_shutDown hshut w')
  rw [hpid] at hnone
  cases hnone

end MessageBus.Context
