import MessageBus.Proofs.Loop.Closing
/-!
Turns, and what they leave alone. The turn of one task leaves the others with their work; at most they have a
turn coming instead of waiting. What each entry preserves, all that drives the loop preserves. Main statement:
a job that ends at its first turn, whatever was done before it in the round, has its outcome, and leaves the
loop at rest.
-/
namespace MessageBus.Loop

variable {σ J C V : Type}

/-- The task had no turn in between; at most it has one coming now. -/
structure Task.Same (t t' : Task J V) : Prop where
  work : t'.work = t.work
  isOpen : t'.isOpen = t.isOpen
  started : t'.started = t.started
  phase : t'.phase = t.phase ∨ t'.phase = .queued

/-- No task had a turn. -/
structure Undisturbed (l l' : Loop J C V) : Prop where
  length : l'.tasks.length = l.tasks.length
  task : ∀ (i : Nat) (t : Task J V), l.tasks[i]? = some t → ∃ t', l'.tasks[i]? = some t' ∧ t.Same t'

/-- The task with a number is not to be told of a cancellation. -/
def IsSpared (i : Nat) (tasks : List (Task J V)) : Prop :=
  ∀ t, tasks[i]? = some t → t.isOpen = true → t.cancelling = false

/-- Nobody is to be told of a cancellation. -/
def Spared (tasks : List (Task J V)) : Prop := ∀ i, IsSpared i tasks

/-- What is said of the tasks and the state stays true as an entry is run. -/
structure Behaviour.Preserves (b : Behaviour σ J C V) (Q : List (Task J V) → σ → Prop) : Prop where
  perform : ∀ (l : Loop J C V) (s : σ) (e : Entry C), Q l.tasks s →
    Q (perform b (l, s) e).1.tasks (perform b (l, s) e).2

/-- The relation holds between the states before and after whatever a behaviour does. -/
structure Behaviour.Keeps (b : Behaviour σ J C V) (R : σ → σ → Prop) : Prop where
  refl : ∀ s, R s s
  trans : ∀ {s s₁ s'}, R s s₁ → R s₁ s' → R s s'
  advance : ∀ j cancelled s, R s (b.advance j cancelled s).2.2
  call : ∀ c s, R s (b.call c s).2

variable {b : Behaviour σ J C V} {l l' : Loop J C V} {s : σ} {e : Entry C} {i j k taken limit : Nat}
  {t t' : Task J V} {R : σ → σ → Prop} {w : Work J V} {job : J} {P : V → Prop}
  {Q : List (Task J V) → σ → Prop}

/-! ### Tasks without a turn -/

theorem Task.Same.refl (t : Task J V) : t.Same t := ⟨rfl, rfl, rfl, .inl rfl⟩

theorem Task.Same.trans {t₁ : Task J V} (h : t.Same t₁) (h' : t₁.Same t') : t.Same t' where
  work := h'.work.trans h.work
  isOpen := h'.isOpen.trans h.isOpen
  started := h'.started.trans h.started
  phase := by
    obtain hsame | hqueued := h'.phase
    · rw [hsame]
      exact h.phase
    · exact .inr hqueued

theorem Undisturbed.refl (l : Loop J C V) : Undisturbed l l := ⟨rfl, fun _ t ht => ⟨t, ht, .refl t⟩⟩

theorem Undisturbed.trans {l₁ : Loop J C V} (h : Undisturbed l l₁) (h' : Undisturbed l₁ l') :
    Undisturbed l l' := by
  refine ⟨h'.length.trans h.length, fun i t ht => ?_⟩
  obtain ⟨t₁, ht₁, hsame⟩ := h.task i t ht
  obtain ⟨t', ht', hsame'⟩ := h'.task i t₁ ht₁
  exact ⟨t', ht', hsame.trans hsame'⟩

/-- What a task was before. -/
theorem Undisturbed.before (h : Undisturbed l l') (ht' : l'.tasks[i]? = some t') :
    ∃ t, l.tasks[i]? = some t ∧ t.Same t' := by
  have hi : i < l.tasks.length := h.length ▸ (List.getElem?_eq_some_iff.1 ht').1
  obtain ⟨u, hu, hsame⟩ := h.task i _ (List.getElem?_eq_getElem hi)
  obtain rfl := Option.some.inj (hu.symm.trans ht')
  exact ⟨_, List.getElem?_eq_getElem hi, hsame⟩

theorem Undisturbed.setTask (ht : l.tasks[i]? = some t) (h : t.Same t') :
    Undisturbed l (l.setTask i t') := by
  refine ⟨by simp [Loop.setTask], fun k u hu => ?_⟩
  by_cases hik : i = k
  · subst hik
    obtain rfl := Option.some.inj (ht.symm.trans hu)
    exact ⟨t', task_setTask ht, h⟩
  · exact ⟨u, by rw [Loop.setTask, List.getElem?_set_ne hik, hu], .refl u⟩

theorem undisturbed_wake (l : Loop J C V) (i : Nat) : Undisturbed l (l.wake i) := by
  unfold wake
  split
  · rename_i t ht
    split
    · rename_i gate hwaiting
      have hset : Undisturbed l (l.setTask i { t with phase := .queued }) :=
        .setTask ht ⟨rfl, by simp [Task.isOpen, hwaiting], rfl, .inr rfl⟩
      exact ⟨hset.length, hset.task⟩
    · exact .refl l
  · exact .refl l

theorem undisturbed_foldl {α : Type} {f : Loop J C V → α → Loop J C V}
    (h : ∀ l a, Undisturbed l (f l a)) (as : List α) (l : Loop J C V) :
    Undisturbed l (as.foldl f l) :=
  List.foldlRecOn (motive := fun l' : Loop J C V => Undisturbed l l') as f (.refl l)
    fun l' hl a _ => hl.trans (h l' a)

theorem undisturbed_serveRequest (l : Loop J C V) (r : Request C) : Undisturbed l (l.serveRequest r) := by
  cases r with
  | stop =>
    unfold serveRequest requestStop
    dsimp only
    split
    · exact .refl l
    · split <;> exact ⟨rfl, (Undisturbed.refl l).task⟩
  | deliver signal | call c => exact ⟨rfl, (Undisturbed.refl l).task⟩
  | openGate gate => exact undisturbed_foldl undisturbed_wake _ l

theorem undisturbed_requests (l : Loop J C V) (rs : List (Request C)) :
    Undisturbed l (rs.foldl serveRequest l) :=
  undisturbed_foldl undisturbed_serveRequest rs l

theorem undisturbed_cancelled (l : Loop J C V) : Undisturbed l l.cancelled := by
  have hgroup : Undisturbed l l.groupOpen := by
    refine ⟨by simp [groupOpen_tasks], fun i t ht => ⟨t.enrolled (l.groups + 1), ?_, ?_⟩⟩
    · rw [groupOpen_tasks, List.getElem?_map, ht, Option.map_some]
    · have hphase := enrolled_phase (l.groups + 1) t
      refine ⟨?_, by simp only [Task.isOpen, hphase], ?_, .inl hphase⟩ <;>
        unfold Task.enrolled <;> split <;> rfl
  refine hgroup.trans (undisturbed_foldl (fun l i => ?_) _ _)
  unfold cancel
  split
  · rename_i t ht
    split
    · have hmarked : Undisturbed l (l.setTask i { t with cancelling := true }) :=
        .setTask ht ⟨rfl, rfl, rfl, .inl rfl⟩
      exact hmarked.trans (undisturbed_wake _ i)
    · exact .refl l
  · exact .refl l

/-- Once a task does not wait at a gate, it does not before its next turn. -/
theorem Undisturbed.not_waiting (h : Undisturbed l l') {gate : Nat}
    (hbefore : ∀ t, l.tasks[i]? = some t → t.phase ≠ .waiting gate) (ht' : l'.tasks[i]? = some t') :
    t'.phase ≠ .waiting gate := by
  obtain ⟨t, ht, hsame⟩ := h.before ht'
  obtain hphase | hphase := hsame.phase <;> rw [hphase]
  · exact hbefore t ht
  · simp

theorem not_waiting_foldl {α : Type} {f : Loop J C V → α → Loop J C V} {as : List α} {a : α} {gate : Nat}
    (hf : ∀ l a, Undisturbed l (f l a)) (ha : a ∈ as)
    (hdone : ∀ l t, (f l a).tasks[i]? = some t → t.phase ≠ .waiting gate)
    (ht' : (as.foldl f l).tasks[i]? = some t') : t'.phase ≠ .waiting gate := by
  obtain ⟨before, after, rfl⟩ := List.append_of_mem ha
  rw [List.foldl_append, List.foldl_cons] at ht'
  exact (undisturbed_foldl hf after _).not_waiting (hdone _) ht'

theorem not_waiting_wake {gate : Nat} (ht' : (l.wake i).tasks[i]? = some t') :
    t'.phase ≠ .waiting gate := by
  obtain ⟨t, ht, -⟩ := (undisturbed_wake l i).before ht'
  unfold wake at ht'
  split at ht'
  · split at ht'
    · rw [push, task_setTask ht, Option.some.injEq] at ht'
      simp [← ht']
    · rename_i v hv _ hnone
      obtain rfl := Option.some.inj (hv.symm.trans ht')
      exact hnone gate
  · rename_i hnone
    simp [hnone] at ht'

/-- The gate was opened: nobody waits at it. -/
theorem not_waiting_openGate {gate : Nat} (ht' : (l.openGate gate).tasks[i]? = some t') :
    t'.phase ≠ .waiting gate := by
  by_cases hwaits : ∃ t, l.tasks[i]? = some t ∧ t.phase = .waiting gate
  · obtain ⟨t, ht, hwaiting⟩ := hwaits
    unfold openGate at ht'
    refine not_waiting_foldl undisturbed_wake (List.mem_filter.2 ⟨?_, ?_⟩)
      (fun _ _ => not_waiting_wake) ht'
    · exact List.mem_range.2 (List.getElem?_eq_some_iff.1 ht).1
    · rw [ht, Option.any_some, hwaiting]
      exact beq_self_eq_true gate
  · exact (undisturbed_serveRequest l (.openGate gate)).not_waiting
      (fun t ht hwaiting => hwaits ⟨t, ht, hwaiting⟩) ht'

theorem not_waiting_requests {gate : Nat} {rs : List (Request C)} (hr : .openGate gate ∈ rs)
    (ht' : (rs.foldl serveRequest l).tasks[i]? = some t') : t'.phase ≠ .waiting gate :=
  not_waiting_foldl undisturbed_serveRequest hr (fun _ _ => not_waiting_openGate) ht'

/-- The entry is no turn of the task. -/
theorem perform_other (he : e ≠ .resume i) (ht : l.tasks[i]? = some t) (s : σ) :
    ∃ t', (perform b (l, s) e).1.tasks[i]? = some t' ∧ t.Same t' := by
  cases e with
  | halt | readPipe => exact ⟨t, ht, .refl t⟩
  | call c => exact (undisturbed_requests l _).task i t ht
  | collect g =>
    refine ⟨t, ?_, .refl t⟩
    simp only [perform, collect]
    split <;> (try split) <;> exact ht
  | resume k =>
    have hki : k ≠ i := by simpa using he
    have htook := resume_took (b := b) l s k
    simp only [perform]
    generalize (resume b l s k).1 = l' at htook ⊢
    cases htook with
    | nothing => exact ⟨t, ht, .refl t⟩
    | ends requests =>
      obtain ⟨u, hu, hsame⟩ := (undisturbed_requests l requests).task i t ht
      exact ⟨u, by rw [finish_eq, ← hu]; exact List.getElem?_set_ne hki, hsame⟩
    | waits requests =>
      obtain ⟨u, hu, hsame⟩ := (undisturbed_requests l requests).task i t ht
      exact ⟨u, by rw [← hu]; exact List.getElem?_set_ne hki, hsame⟩
    | givesWay => exact ⟨t, by rw [← ht]; exact List.getElem?_set_ne hki, .refl t⟩

/-- What a task was before an entry that is no turn of it. -/
theorem perform_before (he : e ≠ .resume i) (s : σ) (ht' : (perform b (l, s) e).1.tasks[i]? = some t') :
    ∃ t, l.tasks[i]? = some t ∧ t.Same t' := by
  obtain ⟨t, ht, -⟩ := (ran_perform l s e).task ht'
  obtain ⟨u, hu, hsame⟩ := perform_other (b := b) he ht s
  obtain rfl := Option.some.inj (hu.symm.trans ht')
  exact ⟨t, ht, hsame⟩

/-- What a task that is not over behind its turn did in it: it gave way, or its job waits. It was told of its
cancellation by then. -/
theorem resume_own (ht' : (resume b l s i).1.tasks[i]? = some t') (hopen' : t'.isOpen = true) :
    ∃ t, l.tasks[i]? = some t ∧ t.isOpen = true ∧ t'.cancelling = false ∧
      ((∃ left v left', t.work = .turns left v ∧ t.cancelling = false ∧ t'.work = .turns left' v) ∨
        ∃ j gate j', t.work = .job j ∧ (b.advance j t.cancelling s).1 = .waits gate j' ∧
          t'.work = .job j' ∧ (resume b l s i).1.ready =
            ((b.advance j t.cancelling s).2.1.foldl serveRequest l).ready) := by
  obtain ⟨t, ht, hkept⟩ := (ran_resume l s i).task ht'
  have hopen : t.isOpen = true := by
    cases hover : t.isOpen with
    | true => rfl
    | false =>
      rw [hkept (.inl hover), hover] at hopen'
      exact absurd hopen' (by simp)
  refine ⟨t, ht, hopen, ?_⟩
  -- a task that ends is not open behind that
  have hends : ∀ {l₁ : Loop J C V} {u : Task J V} {p : Phase V}, l₁.tasks[i]? = some u →
      Task.isOpen { t with phase := p, started := true, cancelling := false } = false →
      (l₁.finish i t p).tasks[i]? = some t' → False := by
    intro l₁ u p hu hover hend
    obtain rfl := Option.some.inj ((task_finish hu t p).symm.trans hend)
    simp [hover] at hopen'
  unfold resume at ht' ⊢
  simp only [ht, hopen, if_true] at ht' ⊢
  split at ht'
  · exact (hends ht rfl ht').elim
  · rename_i hlate
    split at ht'
    · rename_i left v hwork
      split at ht'
      · exact (hends ht rfl ht').elim
      · rename_i hgoes
        split at ht'
        · exact (hends ht rfl ht').elim
        · obtain rfl := Option.some.inj ((task_setTask ht).symm.trans ht')
          have hspared : t.cancelling = false := by simpa using hgoes
          exact ⟨hspared, .inl ⟨_, v, _, hwork, hspared, rfl⟩⟩
    · rename_i job hwork
      obtain ⟨u, hu, -⟩ := (undisturbed_requests l (b.advance job t.cancelling s).2.1).task i t ht
      split at ht'
      · rename_i gate job' hwaits
        obtain rfl := Option.some.inj ((task_setTask hu).symm.trans ht')
        refine ⟨rfl, .inr ⟨job, gate, job', hwork, hwaits, rfl, ?_⟩⟩
        simp only [hlate]
        rfl
      · exact (hends hu rfl ht').elim
      · exact (hends hu rfl ht').elim

/-! ### What a behaviour preserves -/

namespace Behaviour.Preserves

theorem performAll (h : b.Preserves Q) (es : List (Entry C)) (l : Loop J C V) (s : σ)
    (hs : Q l.tasks s) :
    Q (es.foldl (Loop.perform b) (l, s)).1.tasks (es.foldl (Loop.perform b) (l, s)).2 := by
  induction es generalizing l s with
  | nil => exact hs
  | cons e es ih => exact ih _ _ (h.perform l s e hs)

theorem round (h : b.Preserves Q) (l : Loop J C V) (s : σ) (hs : Q l.tasks s) :
    Q (Loop.round b l s).1.tasks (Loop.round b l s).2 := by
  obtain ⟨delivered, coming, pipe, -, hround⟩ := round_eq_performAll (b := b) l s
  rw [hround]
  exact h.performAll _ (l.begun delivered coming) s hs

theorem rounds (h : b.Preserves Q) (limit : Nat) (l : Loop J C V) (s : σ) (hs : Q l.tasks s) :
    Q (Loop.rounds b limit l s).1.tasks (Loop.rounds b limit l s).2 := by
  induction limit generalizing l s with
  | zero => exact hs
  | succ limit ih =>
    rw [rounds_succ]
    split
    · exact h.round l s hs
    · exact ih _ _ (h.round l s hs)

theorem run (h : b.Preserves Q) (limit : Nat) (l : Loop J C V) (s : σ) (hs : Q l.tasks s) :
    Q (Loop.run b limit l s).2.1.tasks (Loop.run b limit l s).2.2 := by
  cases hclosed : l.closed with
  | true => rwa [run_of_closed b hclosed]
  | false =>
    rw [run_eq hclosed]
    exact h.rounds limit l s hs

theorem complete (h : b.Preserves Q) (w : Work J V) (l : Loop J C V) (s : σ) (hs : Q l.tasks s)
    (hnew : Q (l.tasks ++ [.new w]) s) :
    Q (Loop.complete b w l s).2.1.tasks (Loop.complete b w l s).2.2 := by
  cases hclosed : l.closed with
  | true => rwa [complete_of_closed b hclosed]
  | false =>
    have hrounds := h.rounds w.rounds (engaged w l) s hnew
    rw [complete_eq hclosed]
    split <;> exact hrounds

theorem cancelAll (h : b.Preserves Q) (hcancelled : ∀ (l : Loop J C V) s, Q l.tasks s → Q l.cancelled.tasks s)
    (limit : Nat) (l : Loop J C V) (s : σ) (hs : Q l.tasks s) :
    Q (Loop.cancelAll b limit l s).2.1.tasks (Loop.cancelAll b limit l s).2.2 := by
  rw [cancelAll_eq]
  split
  · exact hs
  · exact h.rounds limit l.cancelled.gathering s (hcancelled l s hs)

/-- Closing cancels tasks, and it has work for a task of its own. -/
theorem closeWithin (h : b.Preserves Q)
    (hcancelled : ∀ (l : Loop J C V) s, Q l.tasks s → Q l.cancelled.tasks s)
    (hnew : ∀ tasks s, Q tasks s → Q (tasks ++ [.new (.turns 0 b.nothing)]) s) (limit : Nat)
    (l : Loop J C V) (s : σ) (hs : Q l.tasks s) :
    Q (Loop.closeWithin b limit l s).2.1.tasks (Loop.closeWithin b limit l s).2.2 := by
  rw [Loop.closeWithin]
  split
  · exact hs
  · have hcancel := h.cancelAll hcancelled limit l s hs
    generalize Loop.cancelAll b limit l s = cancelled at hcancel ⊢
    obtain ⟨result, l₁, s₁⟩ := cancelled
    cases result with
    | error fault => exact hcancel
    | ok done =>
      have hcomplete := h.complete (.turns 0 b.nothing) l₁ s₁ hcancel (hnew _ _ hcancel)
      dsimp only
      generalize Loop.complete b (.turns 0 b.nothing) l₁ s₁ = completed at hcomplete ⊢
      obtain ⟨result, l₂, s₂⟩ := completed
      cases result <;> exact hcomplete

end Behaviour.Preserves


/-- A turn changes the state only as the job of the task does. -/
theorem resume_state (l : Loop J C V) (s : σ) (i : Nat) :
    (resume b l s i).2 = s ∨ ∃ t job, l.tasks[i]? = some t ∧ t.work = .job job ∧
      (resume b l s i).2 = (b.advance job t.cancelling s).2.2 := by
  unfold resume
  split
  · exact .inl rfl
  · rename_i t ht
    split
    · split
      · exact .inl rfl
      · split
        · split
          · exact .inl rfl
          · split <;> exact .inl rfl
        · rename_i job hwork
          refine .inr ⟨t, job, ht, hwork, ?_⟩
          dsimp only
          split <;> rfl
    · exact .inl rfl

namespace Behaviour.Keeps

theorem resume (h : b.Keeps R) (l : Loop J C V) (s : σ) (i : Nat) : R s (Loop.resume b l s i).2 := by
  obtain hsame | ⟨t, job, -, -, hadvance⟩ := resume_state (b := b) l s i
  · rw [hsame]
    exact h.refl s
  · rw [hadvance]
    exact h.advance job t.cancelling s

theorem perform (h : b.Keeps R) (l : Loop J C V) (s : σ) (e : Entry C) :
    R s (Loop.perform b (l, s) e).2 := by
  cases e with
  | halt | readPipe | collect g => exact h.refl s
  | resume i => exact h.resume l s i
  | call c => exact h.call c s

theorem preserves (h : b.Keeps R) (s : σ) : b.Preserves fun _ s' => R s s' :=
  ⟨fun l s' e hs => h.trans hs (h.perform l s' e)⟩

theorem performAll (h : b.Keeps R) (es : List (Entry C)) (l : Loop J C V) (s : σ) :
    R s (es.foldl (Loop.perform b) (l, s)).2 :=
  (h.preserves s).performAll es l s (h.refl s)

theorem run (h : b.Keeps R) (limit : Nat) (l : Loop J C V) (s : σ) : R s (Loop.run b limit l s).2.2 :=
  (h.preserves s).run limit l s (h.refl s)

theorem complete (h : b.Keeps R) (w : Work J V) (l : Loop J C V) (s : σ) :
    R s (Loop.complete b w l s).2.2 :=
  (h.preserves s).complete w l s (h.refl s) (h.refl s)

theorem closeWithin (h : b.Keeps R) (limit : Nat) (l : Loop J C V) (s : σ) :
    R s (Loop.closeWithin b limit l s).2.2 :=
  (h.preserves s).closeWithin (fun _ _ hs => hs) (fun _ _ hs => hs) limit l s (h.refl s)

end Behaviour.Keeps

/-! ### Tasks that are spared -/

theorem Finished.spared (h : Finished l) : Spared l.tasks := by
  intro i t ht hopen
  simp [h t (List.mem_of_getElem? ht)] at hopen

theorem IsSpared.set {tasks : List (Task J V)} (h : IsSpared k tasks) (i : Nat) (t : Task J V)
    (hspared : i = k → t.isOpen = true → t.cancelling = false) : IsSpared k (tasks.set i t) := by
  intro u hu hopen
  by_cases hi : i = k
  · subst hi
    obtain rfl : t = u := by
      rw [List.getElem?_set_self (by simpa using (List.getElem?_eq_some_iff.1 hu).1)] at hu
      exact Option.some.inj hu
    exact hspared rfl hopen
  · rw [List.getElem?_set_ne hi] at hu
    exact h u hu hopen

theorem Spared.add {tasks : List (Task J V)} (h : Spared tasks) (w : Work J V) :
    Spared (tasks ++ [.new w]) := by
  intro i t ht hopen
  rw [List.getElem?_append] at ht
  split at ht
  · exact h i t ht hopen
  · obtain rfl : t = .new w := by simpa using List.mem_of_getElem? ht
    rfl

theorem IsSpared.finish (h : IsSpared k l.tasks) (t : Task J V) (p : Phase V) :
    IsSpared k (l.finish i t p).tasks := by
  rw [finish_eq]
  exact h.set i _ fun _ _ => rfl

theorem IsSpared.wake (h : IsSpared k l.tasks) (i : Nat) : IsSpared k (l.wake i).tasks := by
  unfold Loop.wake
  split
  · rename_i t ht
    split
    · rename_i gate hwaiting
      refine h.set i _ fun hi _ => h t (hi ▸ ht) ?_
      simp [Task.isOpen, hwaiting]
    · exact h
  · exact h

theorem IsSpared.serveRequest (h : IsSpared k l.tasks) (r : Request C) :
    IsSpared k (l.serveRequest r).tasks := by
  cases r with
  | stop =>
    unfold Loop.serveRequest requestStop
    dsimp only
    split
    · exact h
    · split <;> exact h
  | deliver signal | call c => exact h
  | openGate gate =>
    exact List.foldlRecOn (motive := fun l' : Loop J C V => IsSpared k l'.tasks) _ Loop.wake h
      fun _ hl i _ => IsSpared.wake hl i

theorem Spared.serveRequest (h : Spared l.tasks) (r : Request C) : Spared (l.serveRequest r).tasks :=
  fun k => (h k).serveRequest r

theorem IsSpared.requests (h : IsSpared k l.tasks) (rs : List (Request C)) :
    IsSpared k (rs.foldl Loop.serveRequest l).tasks :=
  List.foldlRecOn (motive := fun l' : Loop J C V => IsSpared k l'.tasks) rs Loop.serveRequest h
    fun _ hl r _ => IsSpared.serveRequest hl r

/-- A turn takes no one's cancellation but its own, and asks for none. -/
theorem IsSpared.resume (h : IsSpared k l.tasks) (s : σ) (i : Nat) :
    IsSpared k (resume b l s i).1.tasks := by
  unfold Loop.resume
  split
  · exact h
  · rename_i t ht
    split
    · rename_i hopen
      split
      · exact h.finish t _
      · split
        · split
          · exact h.finish t _
          · split
            · exact h.finish t _
            · exact h.set i _ fun hi _ => h t (hi ▸ ht) hopen
        · rename_i job _
          have hasked := h.requests (b.advance job t.cancelling s).2.1
          dsimp only
          split
          · exact hasked.set i _ fun _ _ => rfl
          · exact hasked.finish t _
          · exact hasked.finish t _
    · exact h

/-- No entry cancels a task. -/
theorem IsSpared.perform (h : IsSpared k l.tasks) (s : σ) (e : Entry C) :
    IsSpared k (Loop.perform b (l, s) e).1.tasks := by
  cases e with
  | halt | readPipe => exact h
  | resume i => exact h.resume s i
  | call c => exact h.requests _
  | collect g =>
    unfold Loop.perform collect
    dsimp only
    split
    · split <;> exact h
    · exact h

theorem preserves_spared : b.Preserves fun tasks _ => Spared tasks :=
  ⟨fun _ s e h k => (h k).perform s e⟩

/-! ### Jobs that are over at their first turn -/

theorem rounds_closed (limit : Nat) (l : Loop J C V) (s : σ) :
    (rounds b limit l s).1.closed = l.closed :=
  rounds_induction (P := fun l' => l'.closed = l.closed)
    (fun l' s h => (ran_round l' s).closed.trans h) rfl limit s

theorem run_closed (limit : Nat) (l : Loop J C V) (s : σ) :
    (run b limit l s).2.1.closed = l.closed := by
  cases hclosed : l.closed with
  | true => rw [run_of_closed b hclosed, hclosed]
  | false =>
    rw [run_eq hclosed]
    exact (rounds_closed limit l s).trans hclosed

theorem complete_closed (w : Work J V) (l : Loop J C V) (s : σ) :
    (complete b w l s).2.1.closed = l.closed := by
  cases hclosed : l.closed with
  | true => rw [complete_of_closed b hclosed, hclosed]
  | false =>
    rw [complete_loop hclosed]
    exact (rounds_closed w.rounds (engaged w l) s).trans hclosed

theorem Finished.undisturbed (h : Finished l) (hl : Undisturbed l l') : Finished l' := by
  intro t' ht'
  obtain ⟨i, hi⟩ := List.getElem?_of_mem ht'
  obtain ⟨t, ht, hsame⟩ := hl.before hi
  rw [hsame.isOpen]
  exact h t (List.mem_of_getElem? ht)

/-- The turn of a new job that ends. -/
theorem resume_ends {v : V} (ht : l.tasks[i]? = some (.new (.job job)))
    (hends : (b.advance job false s).1 = .ends v) :
    ∃ t, (resume b l s i).1.tasks[i]? = some t ∧ t.phase = .ended v := by
  unfold resume
  obtain ⟨u, hu, -⟩ := (undisturbed_requests l (b.advance job false s).2.1).task i _ ht
  simp only [ht, Task.new, Task.isOpen, Bool.false_and, if_true, Bool.false_eq_true, if_false, hends]
  exact ⟨_, task_finish hu _ _, rfl⟩

theorem Ran.ended {es : List (Entry C)} {v : V} (h : Ran es l l')
    (ht : ∃ t, l.tasks[i]? = some t ∧ t.phase = .ended v) :
    ∃ t, l'.tasks[i]? = some t ∧ t.phase = .ended v := by
  obtain ⟨t, ht, hended⟩ := ht
  exact ⟨t, h.tasks i t ht (.inl (by simp [Task.isOpen, hended])), hended⟩

/-- Whatever the others do before it in the first round, the job is over after that. -/
theorem round_engaged (hR : b.Keeps R) (s : σ)
    (hends : ∀ s', R s s' → ∃ v, P v ∧ (b.advance job false s').1 = .ends v) (l : Loop J C V) :
    ∃ v, P v ∧ ∃ t, (round b (engaged (.job job) l) s).1.tasks[l.tasks.length]? = some t ∧
      t.phase = .ended v := by
  obtain ⟨delivered, coming, pipe, -, hround⟩ := round_eq_performAll (b := b) (engaged (.job job) l) s
  have hmem : Entry.resume l.tasks.length ∈ (engaged (.job job) l).ready ++ pipe := by
    simp [engaged, add, push]
  obtain ⟨before, after, hsplit, hfirst⟩ := List.eq_append_cons_of_mem hmem
  have hnew : ((engaged (.job job) l).begun delivered coming).tasks[l.tasks.length]? =
      some (.new (.job job)) := by simp [engaged, begun, add, push]
  rw [hround, hsplit, List.foldl_append, List.foldl_cons]
  -- up to its turn the new task is left alone
  have hran := ran_performAll (b := b) before ((engaged (.job job) l).begun delivered coming) s
  have hkept := hR.performAll before ((engaged (.job job) l).begun delivered coming) s
  generalize before.foldl (perform b) ((engaged (.job job) l).begun delivered coming, s) = reached
    at hran hkept ⊢
  obtain ⟨v, hv, hadvance⟩ := hends _ hkept
  have hturn := resume_ends (hran.tasks _ _ hnew (.inr ⟨rfl, hfirst⟩)) hadvance
  exact ⟨v, hv, (ran_performAll after _ _).ended hturn⟩

/-- Work that is awaited and over after a round is told in the next one. -/
theorem stopping_of_over (h : Sound taken [] l) (hstill : l.stopping = false)
    (hawaited : l.awaited = .task i) (htaken : taken ≤ l.stopRequested.toNat)
    (hover : ∃ t, (round b l s).1.tasks[i]? = some t ∧ t.isOpen = false) :
    (rounds b 2 l s).1.stopping = true := by
  by_cases hnone : halts l.ready = 0
  · have hran := ran_round (b := b) l s
    have hround := h.round (b := b) s
    have hstopping := stopping_round_of_no_halt (b := b) hstill hnone s
    obtain ⟨t, ht, hover⟩ := hover
    rw [hnone] at hround
    rw [rounds_of_no_halt hstill hnone]
    have hdue : (round b l s).1.isDue = false := by simp [isDue, hran.awaited, hawaited, ht, hover]
    have hpos := hround.halts_pos_of_over (Nat.le_trans htaken hran.requested_le)
      (by simp [awaits, hran.awaited, hawaited]) hdue
    rw [rounds_of_halt hstopping hpos]
    exact stopping_round_of_halt hstopping hpos _
  · have hpos := Nat.pos_of_ne_zero hnone
    rw [rounds_of_halt hstill hpos]
    exact stopping_round_of_halt hstill hpos s

/-- A job that ends at its first turn, whatever comes before it, has its outcome. -/
theorem Resting.completeJob (h : Resting taken l) (hR : b.Keeps R) (s : σ)
    (hends : ∀ s', R s s' → ∃ v, P v ∧ (b.advance job false s').1 = .ends v) :
    ∃ v, P v ∧ (Loop.complete b (.job job) l s).1 = .ok v ∧
      ∃ n, Resting n (Loop.complete b (.job job) l s).2.1 := by
  have hsound := h.engaged (.job job)
  obtain ⟨v, hv, hended⟩ := round_engaged hR s hends l
  have hover : ∃ t, (Loop.round b (Loop.engaged (.job job) l) s).1.tasks[l.tasks.length]? = some t ∧
      t.isOpen = false := by
    obtain ⟨t, ht, hphase⟩ := hended
    exact ⟨t, ht, by simp [Task.isOpen, hphase]⟩
  have hone : halts (Loop.engaged (.job job) l).ready ≤ 1 := by
    rw [halts_engaged]
    exact h.halts_le
  have hstopped := stopping_of_over hsound h.still rfl h.taken_le hover
  have hrest := hsound.rounds_rest (b := b) h.still hone rfl hstopped
  have hend : ∃ t, (rounds b 2 (Loop.engaged (.job job) l) s).1.tasks[l.tasks.length]? = some t ∧
      t.phase = .ended v := by
    rw [rounds_succ]
    split
    · exact hended
    · rw [rounds_succ]
      split <;> exact (ran_round _ _).ended hended
  obtain ⟨t, ht, hphase⟩ := hend
  have houtcome : (rounds b 2 (Loop.engaged (.job job) l) s).1.outcome? l.tasks.length = some v := by
    simp [outcome?, ht, hphase]
  rw [complete_eq h.opened]
  simp only [Work.rounds, houtcome]
  exact ⟨v, hv, rfl, _, hrest⟩

end MessageBus.Loop
