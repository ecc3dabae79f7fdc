import MessageBus.Proofs.Context.History
import MessageBus.Proofs.Context.Removing
/-!
The references to a context. Main statement: after any history they are one more than were taken less those
that were given back, no release is refused but one without a reference, the loop is not closed before the
last reference was given back, and the context is shut down once at most.
-/
namespace MessageBus.Context

def Operation.isRetain : Operation → Bool
  | .retain => true
  | _ => false

def Operation.isRelease : Operation → Bool
  | .release => true
  | _ => false

/-- The answer of a release without a reference. -/
def isRefusal : Except Failure Unit → Bool
  | .error .overReleased => true
  | _ => false

/-- The references that were taken. -/
def taken (ops : List Operation) : Nat := ops.countP (·.isRetain)

/-- The references that were given back: the releases that were not refused, whatever they failed with. -/
def givenBack (ops : List Operation) (answers : List (Except Failure Unit)) : Nat :=
  (ops.zip answers).countP fun step => step.1.isRelease && !isRefusal step.2

/-- How often a shut down was begun. -/
def shutDowns (log : List Log.Record) : Nat := log.count shuttingDown

/-- Between two states a shut down was logged if there was one. -/
def Noted (c : Context) (w : World) (c' : Context) (w' : World) : Prop :=
  ∃ more, w'.log = w.log ++ more ∧ shutDowns more + c.shutDown.toNat = c'.shutDown.toNat

variable {path : String} {target after : Report.Target} {c c₀ c₁ c' : Context} {w w₀ w₁ w' : World}
  {op : Operation} {ops : List Operation} {answers : List (Except Failure Unit)}

/-! ### What is refused -/

theorem isRefusal_iff {answer : Except Failure Unit} :
    isRefusal answer = true ↔ answer = .error .overReleased := by
  unfold isRefusal
  split <;> simp_all

theorem Tended.shutdown_fails (h : Tended c) (w : World) : (c.shutdown w).1 ≠ .error .overReleased := by
  cases hfirst : c.shutDown with
  | true => simp [shutdown_of_shutDown hfirst]
  | false =>
    obtain ⟨c₁, w₁, -, -, -, -, hshutdown⟩ := shutdown_first h hfirst w
    rw [hshutdown]
    exact fun hfails => (removeFiles_error (Prod.ext hfails rfl)).1 rfl

theorem closeLoop_fails (c : Context) (w : World) : (c.closeLoop w).1 ≠ .error .overReleased := by
  rw [closeLoop_eq]
  cases (c.loop.closeWithin Traffic.behaviour Traffic.closingRounds (c.traffic (c.closing w))).1 with
  | ok done => simp [mapError_ok]
  | error fault => simp [mapError_error]

/-- Without references, and then only, a release is refused. -/
theorem Tended.release_refused (h : Tended c) (w : World) :
    (c.release w).1 = .error .overReleased ↔ c.references = 0 := by
  obtain ⟨hnone, hrefused⟩ | ⟨n, hreferences, hmore⟩ | hlast := release_cases c w
  · simp [hrefused, hnone]
  · simp [hmore, hreferences]
  · have hfails := (h.withReferences 0).shutdown_fails w
    rw [Context.release_last hlast, hlast]
    generalize ({ c with references := 0 } : Context).shutdown w = result at hfails ⊢
    obtain ⟨failure | done, c₁, w₁⟩ := result
    · simpa using hfails
    · simpa using closeLoop_fails c₁ w₁

/-! ### The count -/

/-- An operation that settles nothing takes no reference and gives none back. -/
theorem not_settling (hsettles : op.settles = false) : op.isRetain = false ∧ op.isRelease = false := by
  cases op <;> simp_all [Operation.settles, Operation.isRetain, Operation.isRelease]

theorem Tended.release_references (h : Tended c) (w : World) :
    (c.release w).2.1.references = c.references - 1 := by
  obtain ⟨hnone, hrefused⟩ | ⟨n, hreferences, hmore⟩ | hlast := release_cases c w
  · rw [hrefused, hnone]
  · rw [hmore, hreferences]
    rfl
  · rw [(h.release_last hlast w).2.2.1, hlast]

/-- One operation and the references. -/
theorem Tended.references_carryOut (h : Tended c) (op : Operation) (w : World) :
    (Context.carryOut op c w).2.1.references +
        (op.isRelease && !isRefusal (Context.carryOut op c w).1).toNat =
      c.references + op.isRetain.toNat := by
  cases hsettles : op.settles with
  | false =>
    obtain ⟨hretain, hrelease⟩ := not_settling hsettles
    obtain ⟨-, hdriven⟩ := h.toOrderly.unsettled hsettles w
    obtain ⟨l, connections, wishes, hkept⟩ := hdriven.context
    rw [hkept, hretain, hrelease]
    rfl
  | true =>
    cases op with
    | retain => rfl
    | shutdown => exact congrArg (· + 0) (h.shutdown w).2.2.1
    | release =>
      have hleft : (Context.carryOut .release c w).2.1.references = c.references - 1 :=
        h.release_references w
      have hrefused : isRefusal (Context.carryOut .release c w).1 = true ↔ c.references = 0 :=
        isRefusal_iff.trans (h.release_refused w)
      rw [hleft]
      cases hrefusal : isRefusal (Context.carryOut .release c w).1 with
      | true => simp [hrefused.1 hrefusal, Operation.isRelease, Operation.isRetain]
      | false =>
        have hpos : c.references ≠ 0 := fun hnone => by simp [hrefused.2 hnone] at hrefusal
        simp only [Operation.isRelease, Operation.isRetain, Bool.not_false, Bool.and_self,
          Bool.toNat_true, Bool.toNat_false]
        omega
    | _ => simp [Operation.settles] at hsettles

theorem Tended.references_carryOutAll (h : Tended c) (ops : List Operation) (w : World) :
    (Context.carryOutAll ops c w).2.1.references + givenBack ops (Context.carryOutAll ops c w).1 =
      c.references + taken ops := by
  induction ops generalizing c w with
  | nil => rfl
  | cons op ops ih =>
    have hfirst := h.references_carryOut op w
    have hrest := ih (h.carryOut op w) (Context.carryOut op c w).2.2
    rw [carryOutAll_cons]
    simp only [givenBack, taken, List.zip_cons_cons, List.countP_cons] at hrest ⊢
    cases hretain : op.isRetain <;>
      cases hrelease : op.isRelease && !isRefusal (Context.carryOut op c w).1 <;>
      simp only [hretain, hrelease, Bool.toNat_true, Bool.toNat_false, if_true, Bool.false_eq_true,
        if_false] at hfirst ⊢ <;>
      omega

/-! ### The end of the loop -/

/-- Only giving the last reference back closes the loop. -/
theorem Tended.closed_carryOut (h : Tended c) (hopen : c.loop.closed = false)
    (hclosed : (Context.carryOut op c w).2.1.loop.closed = true) :
    (Context.carryOut op c w).2.1.references = 0 := by
  have hsame : (Context.carryOut op c w).2.1.loop.closed ≠ c.loop.closed := by
    rw [hopen, hclosed]
    simp
  cases hsettles : op.settles with
  | false =>
    obtain ⟨-, hdriven⟩ := h.toOrderly.unsettled hsettles w
    exact absurd hdriven.closed hsame
  | true =>
    cases op with
    | retain => exact absurd rfl hsame
    | shutdown => exact absurd (h.shutdown w).2.2.2 hsame
    | release =>
      obtain ⟨-, hrefused⟩ | ⟨n, -, hmore⟩ | hlast := release_cases c w
      · exact absurd (congrArg (·.2.1.loop.closed) hrefused) hsame
      · exact absurd (congrArg (·.2.1.loop.closed) hmore) hsame
      · exact (h.release_last hlast w).2.2.1
    | _ => simp [Operation.settles] at hsettles

/-- Where a loop was closed, there was no reference at some time. -/
theorem Tended.closed_carryOutAll (h : Tended c) (ops : List Operation) (w : World)
    (hopen : c.loop.closed = false)
    (hclosed : (Context.carryOutAll ops c w).2.1.loop.closed = true) :
    ∃ before, before <+: ops ∧ (Context.carryOutAll before c w).2.1.references = 0 := by
  induction ops generalizing c w with
  | nil => exact absurd (hopen.symm.trans hclosed) (by simp)
  | cons op ops ih =>
    cases hnow : (Context.carryOut op c w).2.1.loop.closed with
    | true => exact ⟨[op], by simp, h.closed_carryOut hopen hnow⟩
    | false =>
      obtain ⟨before, hbefore, hnone⟩ := ih (h.carryOut op w) _ hnow hclosed
      exact ⟨op :: before, List.cons_prefix_cons.2 ⟨rfl, hbefore⟩, hnone⟩

/-- A release that succeeds and leaves no reference has closed the loop. -/
theorem Tended.closed_of_release (h : Tended c) (hrelease : c.release w = (.ok (), c', w'))
    (hnone : c'.references = 0) : c'.loop.closed = true := by
  obtain ⟨-, hrefused⟩ | ⟨n, -, hmore⟩ | hlast := release_cases c w
  · cases hrefused.symm.trans hrelease
  · cases hmore.symm.trans hrelease
    cases hnone
  · obtain ⟨-, -, -, hover⟩ := h.release_last hlast w
    rw [hrelease] at hover
    exact (hover rfl).1

/-! ### Once -/

theorem Noted.trans (h : Noted c w c₁ w₁) (h' : Noted c₁ w₁ c' w') : Noted c w c' w' := by
  obtain ⟨more, hlog, hcount⟩ := h
  obtain ⟨more', hlog', hcount'⟩ := h'
  refine ⟨more ++ more', by rw [hlog', hlog, List.append_assoc], ?_⟩
  have happend : shutDowns (more ++ more') = shutDowns more + shutDowns more' := List.count_append
  omega

/-- Details tell of no shut down. -/
theorem shutDowns_of_debug {more : List Log.Record} (h : ∀ r ∈ more, r.level = .debug) :
    shutDowns more = 0 :=
  List.count_eq_zero.2 fun hmem => by simpa [shuttingDown] using h _ hmem

/-- Nothing was shut down, among whatever files. -/
theorem Touched.noted {files : Files} (h : Touched c { w with files := files } c' w') :
    Noted c w c' w' := by
  obtain ⟨l, connections, wishes, rfl⟩ := h.context
  obtain ⟨more, rfl, hdebug⟩ := h.world
  exact ⟨more, rfl, by rw [shutDowns_of_debug hdebug, Nat.zero_add]⟩

theorem Tended.noted_shutdown (h : Tended c) (w : World) :
    Noted c w (c.shutdown w).2.1 (c.shutdown w).2.2 := by
  cases hfirst : c.shutDown with
  | true =>
    rw [shutdown_of_shutDown hfirst]
    exact (Touched.refl c w).noted
  | false =>
    obtain ⟨c₁, w₁, -, hdriven, -, -, hshutdown⟩ := shutdown_first h hfirst w
    obtain ⟨listeners, pidFile, files, hkept⟩ := removeFiles_kept c₁ w₁
    obtain ⟨l, connections, wishes, rfl⟩ := hdriven.context
    obtain ⟨more, rfl, hdebug⟩ := hdriven.world
    rw [hshutdown, hkept]
    refine ⟨shuttingDown :: more, by simp [World.record], ?_⟩
    have hnone := shutDowns_of_debug hdebug
    simp only [shutDowns, List.count_cons_self, hfirst, Bool.toNat_false, Bool.toNat_true] at hnone ⊢
    omega

theorem Tended.noted_release (h : Tended c) (w : World) :
    Noted c w (c.release w).2.1 (c.release w).2.2 := by
  obtain ⟨-, hrefused⟩ | ⟨n, -, hmore⟩ | hlast := release_cases c w
  · rw [hrefused]
    exact (Touched.refl c w).noted
  · rw [hmore]
    exact ⟨[], by simp, Nat.zero_add _⟩
  · have hnoted := (h.withReferences 0).noted_shutdown w
    rw [Context.release_last hlast]
    generalize ({ c with references := 0 } : Context).shutdown w = result at hnoted ⊢
    obtain ⟨failure | done, c₁, w₁⟩ := result
    · exact hnoted
    · have hshutdown : Noted c w c₁ w₁ := hnoted
      exact hshutdown.trans (closeLoop_touched c₁ w₁).noted

theorem Tended.noted_carryOut (h : Tended c) (op : Operation) (w : World) :
    Noted c w (Context.carryOut op c w).2.1 (Context.carryOut op c w).2.2 := by
  cases hsettles : op.settles with
  | false =>
    obtain ⟨-, hdriven⟩ := h.toOrderly.unsettled hsettles w
    exact hdriven.toTouched.noted
  | true =>
    cases op with
    | retain => exact ⟨[], by simp [Context.carryOut], Nat.zero_add _⟩
    | shutdown => exact h.noted_shutdown w
    | release => exact h.noted_release w
    | _ => simp [Operation.settles] at hsettles

theorem Tended.noted_carryOutAll (h : Tended c) (ops : List Operation) (w : World) :
    Noted c w (Context.carryOutAll ops c w).2.1 (Context.carryOutAll ops c w).2.2 := by
  induction ops generalizing c w with
  | nil => exact (Touched.refl c w).noted
  | cons op ops ih => exact (h.noted_carryOut op w).trans (ih (h.carryOut op w) _)

/-! ### From the start -/

/-- The account of the references after any history. -/
theorem references_accounted (hstart : start path target w = (.ok (some c₀, after), w₀))
    (hrun : carryOutAll ops c₀ w₀ = (answers, c, w')) :
    c.references + givenBack ops answers = 1 + taken ops ∧
    (∀ w, (c.release w).1 = .error .overReleased ↔ c.references = 0) ∧
    (∀ w, c.references = 0 → c.release w = (.error .overReleased, c, w)) ∧
    (c.loop.closed = true →
      ∃ before, before <+: ops ∧ (carryOutAll before c₀ w₀).2.1.references = 0) ∧
    (∀ w c' w'', c.release w = (.ok (), c', w'') → c'.references = 0 → c'.loop.closed = true) ∧
    (∃ more, w'.log = w₀.log ++ more ∧ shutDowns more = c.shutDown.toNat) ∧
    (∀ w, c.shutDown = true → c.shutdown w = (.ok (), c, w)) := by
  have hfresh := tended_of_start hstart
  obtain ⟨hone, hfirst, hloop, -⟩ := fresh_of_start hstart
  have htended := hfresh.carryOutAll ops w₀
  have hreferences := hfresh.references_carryOutAll ops w₀
  obtain ⟨more, hlog, hcount⟩ := hfresh.noted_carryOutAll ops w₀
  have hclosed := hfresh.closed_carryOutAll ops w₀ (by rw [hloop]; rfl)
  rw [hrun] at htended hreferences hlog hcount hclosed
  rw [hone] at hreferences
  rw [hfirst, Bool.toNat_false, Nat.add_zero] at hcount
  exact ⟨hreferences, htended.release_refused, fun w hnone => release_of_no_references hnone w,
    hclosed, fun _ _ _ => htended.closed_of_release, ⟨more, hlog, hcount⟩,
    fun w hshut => shutdown_of_shutDown hshut w⟩

/-- A context that is shut down with two references, which are given back then, and one more is not. -/
def backAndForth : List Operation := [.retain, .shutdown, .release, .release, .release]

theorem references_accounted_back : ∃ c₀ answers c w',
    start "bus.yaml" .clear furnished =
      (.ok (some c₀, .clear), (start "bus.yaml" .clear furnished).2) ∧
    carryOutAll backAndForth c₀ (start "bus.yaml" .clear furnished).2 = (answers, c, w') ∧
    answers.map isRefusal = [false, false, false, false, true] ∧ c.loop.closed = true ∧
    c.references + givenBack backAndForth answers = 1 + taken backAndForth ∧
    (c.release w').1 = .error .overReleased ∧
    (∃ more, w'.log = (start "bus.yaml" .clear furnished).2.log ++ more ∧ shutDowns more = 1) := by
  obtain ⟨c₀, answers, c, w', hstart, hrun, hc⟩ := carryOutAll_furnished backAndForth
    (f := fun _ r => (r.1.map isRefusal, r.2.1.references, r.2.1.shutDown, r.2.1.loop.closed))
    (a := ([false, false, false, false, true], 0, true, true)) (by decide +kernel)
  simp only [Prod.mk.injEq] at hc
  obtain ⟨hanswers, hnone, hshut, hclosed⟩ := hc
  obtain ⟨hcount, hrefused, -, -, -, ⟨more, hlog, hlogged⟩, -⟩ := references_accounted hstart hrun
  rw [hshut] at hlogged
  exact ⟨c₀, answers, c, w', hstart, hrun, hanswers, hclosed, hcount, (hrefused w').2 hnone, more, hlog,
    hlogged⟩

end MessageBus.Context
