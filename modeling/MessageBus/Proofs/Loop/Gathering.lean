import MessageBus.Proofs.Loop.Work
/-!
What closing a loop comes to, whatever the jobs on it do when they are told of their cancellation: they may
wait for something else before they are over. Main statement: closing succeeds only with all tasks over, it
leaves nobody to be told of a cancellation, and it does not run out of rounds if the tasks are over two
rounds before the last.
-/
namespace MessageBus.Loop

variable {σ J C V : Type}

/-- All tasks that are not over are members of the newest group. -/
def Enrolled (l : Loop J C V) : Prop := ∀ t ∈ l.tasks, t.isOpen = true → t.group = some l.groups

/-- Each task that is still to be told of its cancellation is told by one of the entries. -/
def Warned (es : List (Entry C)) (l : Loop J C V) : Prop :=
  ∀ i t, l.tasks[i]? = some t → t.isOpen = true → t.cancelling = true →
    t.phase = .queued ∧ .resume i ∈ es

variable {b : Behaviour σ J C V} {l l' : Loop J C V} {s : σ} {e : Entry C} {es fs : List (Entry C)}
  {i n taken limit : Nat} {t t' : Task J V}

/-! ### Members -/

/-- A task behind a change of one is that one, or it is as it was. -/
theorem setTask_before {k : Nat} {u : Task J V} (ht' : (l.setTask k u).tasks[i]? = some t') :
    (k = i ∧ t' = u) ∨ l.tasks[i]? = some t' := by
  rw [Loop.setTask, List.getElem?_set] at ht'
  split at ht'
  · rename_i hki
    split at ht'
    · exact .inl ⟨hki, (Option.some.inj ht').symm⟩
    · simp at ht'
  · exact .inr ht'

/-- A task that is not over behind an entry was not over before it, in the same group. -/
theorem group_perform (s : σ) (ht' : (perform b (l, s) e).1.tasks[i]? = some t') (hopen' : t'.isOpen = true) :
    ∃ t, l.tasks[i]? = some t ∧ t.isOpen = true ∧ t'.group = t.group := by
  have hrequests : ∀ {rs : List (Request C)} {u : Task J V},
      (rs.foldl serveRequest l).tasks[i]? = some u → u.isOpen = true →
      ∃ t, l.tasks[i]? = some t ∧ t.isOpen = true ∧ u.group = t.group := by
    intro rs u hu hopen
    obtain ⟨t, ht, htopen, hgroup⟩ := task_of_standing (standing_requests l rs).symm hu
    exact ⟨t, ht, htopen.trans hopen, hgroup.symm⟩
  cases e with
  | halt | readPipe => exact ⟨t', ht', hopen', rfl⟩
  | call c => exact hrequests ht' hopen'
  | collect g =>
    refine ⟨t', ?_, hopen', rfl⟩
    unfold perform collect at ht'
    dsimp only at ht'
    split at ht'
    · split at ht' <;> exact ht'
    · exact ht'
  | resume k =>
    have htook := resume_took (b := b) l s k
    simp only [perform] at ht'
    generalize (resume b l s k).1 = l' at htook ht'
    cases htook with
    | nothing => exact ⟨t', ht', hopen', rfl⟩
    | @ends t p requests ht hopen hover =>
      rw [finish_eq] at ht'
      obtain ⟨-, rfl⟩ | hbefore := setTask_before ht'
      · simp [hover] at hopen'
      · exact hrequests hbefore hopen'
    | @waits t u gate requests ht hopen hwaits hgroup =>
      obtain ⟨rfl, rfl⟩ | hbefore := setTask_before ht'
      · exact ⟨t, ht, hopen, hgroup⟩
      · exact hrequests hbefore hopen'
    | @givesWay t u ht hopen hphase hgroup =>
      obtain ⟨rfl, rfl⟩ | hbefore := setTask_before ht'
      · exact ⟨t, ht, hopen, hgroup⟩
      · exact ⟨t', hbefore, hopen', rfl⟩

theorem Enrolled.perform (h : Enrolled l) (s : σ) (e : Entry C) : Enrolled (Loop.perform b (l, s) e).1 := by
  intro t' ht' hopen'
  obtain ⟨i, hi⟩ := List.getElem?_of_mem ht'
  obtain ⟨t, ht, hopen, hgroup⟩ := group_perform s hi hopen'
  rw [hgroup, (ran_perform l s e).groups]
  exact h t (List.mem_of_getElem? ht) hopen

theorem Enrolled.performAll (h : Enrolled l) (s : σ) (es : List (Entry C)) :
    Enrolled (es.foldl (Loop.perform b) (l, s)).1 := by
  induction es generalizing l s with
  | nil => exact h
  | cons e es ih => exact ih (h.perform s e) _

theorem Enrolled.rounds (h : Enrolled l) (limit : Nat) (s : σ) : Enrolled (Loop.rounds b limit l s).1 := by
  refine rounds_induction (fun l s hl => ?_) h limit s
  obtain ⟨delivered, coming, pipe, -, hround⟩ := round_eq_performAll (b := b) l s
  have hstart : Enrolled (l.begun delivered coming) := hl
  rw [hround]
  exact hstart.performAll s _

/-- With all open tasks in the newest group, and nobody of it to come, all tasks are over. -/
theorem Enrolled.finished (h : Enrolled l) (hl : Filed es l) (hnone : l.outstanding = 0) : Finished l := by
  have hmembers : l.tasks.countP (Task.isMember l.groups) = 0 := by
    have houtstanding := hl.outstanding
    omega
  intro t ht
  cases hopen : t.isOpen with
  | false => rfl
  | true =>
    have hmember := List.countP_eq_zero.1 hmembers t ht
    simp [Task.isMember, hopen, h t ht hopen] at hmember

theorem standing_cancel (l : Loop J C V) (i : Nat) : (l.cancel i).standing = l.standing := by
  unfold cancel
  split
  · rename_i t ht
    split
    · have hmarked : (l.setTask i { t with cancelling := true }).standing = l.standing :=
        standing_setTask ht rfl
      rw [standing_wake, hmarked]
    · rfl
  · rfl

theorem standing_cancelled (l : Loop J C V) : l.cancelled.standing = l.groupOpen.standing := by
  refine List.foldlRecOn (motive := fun l' : Loop J C V => l'.standing = l.groupOpen.standing) _ cancel
    rfl ?_
  exact fun l' h i _ => (standing_cancel l' i).trans h

theorem enrolled_cancelled (l : Loop J C V) : Enrolled l.cancelled := by
  intro t ht hopen
  obtain ⟨i, hi⟩ := List.getElem?_of_mem ht
  obtain ⟨u, hu, huopen, hgroup⟩ := task_of_standing (standing_cancelled l).symm hi
  rw [groupOpen_tasks, List.getElem?_map, Option.map_eq_some_iff] at hu
  obtain ⟨v, -, rfl⟩ := hu
  have hwas : v.isOpen = true := by
    rw [← hopen, ← huopen, Task.isOpen, Task.isOpen, enrolled_phase]
  rw [cancelled_groups, ← hgroup]
  simp [Task.enrolled, hwas]

/-! ### Who is told -/

theorem Warned.perform (h : Warned (e :: es) l) (s : σ) : Warned es (Loop.perform b (l, s) e).1 := by
  intro i t' ht' hopen' htold'
  by_cases hturn : e = .resume i
  · subst hturn
    obtain ⟨-, -, -, htold, -⟩ := resume_own ht' hopen'
    simp [htold] at htold'
  · obtain ⟨t, ht, hkept⟩ := (ran_perform (b := b) l s e).task ht'
    -- a task that was not to be told before is not behind the entry
    have htold : t.isOpen = true ∧ t.cancelling = true := by
      obtain ⟨u, hu, hsame⟩ := perform_before hturn s ht'
      obtain rfl := Option.some.inj (ht.symm.trans hu)
      refine ⟨hsame.isOpen ▸ hopen', ?_⟩
      cases hcancelling : t.cancelling with
      | true => rfl
      | false =>
        have hspared : IsSpared i l.tasks := by
          intro v hv _
          obtain rfl := Option.some.inj (ht.symm.trans hv)
          exact hcancelling
        exact absurd (hspared.perform s e t' ht' hopen') (by simp [htold'])
    obtain ⟨hqueued, hmem⟩ := h i t ht htold.1 htold.2
    rw [hkept (.inr ⟨hqueued, by simpa using Ne.symm hturn⟩)]
    exact ⟨hqueued, (List.mem_cons.1 hmem).resolve_left (Ne.symm hturn)⟩

theorem Warned.performAll (h : Warned es l) (s : σ) : Warned [] (es.foldl (Loop.perform b) (l, s)).1 := by
  induction es generalizing l s with
  | nil => exact h
  | cons e es ih => exact ih (h.perform s) _

/-- Behind a round in which all are told nobody is to be told. -/
theorem Warned.round (h : Warned l.ready l) (s : σ) : Spared (Loop.round b l s).1.tasks := by
  obtain ⟨delivered, coming, pipe, -, hround⟩ := round_eq_performAll (b := b) l s
  have hstart : Warned (l.ready ++ pipe) (l.begun delivered coming) := by
    intro i t ht hopen htold
    obtain ⟨hqueued, hmem⟩ := h i t ht hopen htold
    exact ⟨hqueued, List.mem_append_left pipe hmem⟩
  have hend := hstart.performAll (b := b) s
  rw [← hround] at hend
  intro i t ht hopen
  cases htold : t.cancelling with
  | false => rfl
  | true => exact absurd (hend i t ht hopen htold).2 (by simp)

theorem warned_gathering (h : Resting taken l) :
    Warned l.cancelled.gathering.ready l.cancelled.gathering :=
  fun i t ht hopen _ =>
    have hdoomed := doomed_cancelled h i t ht hopen
    ⟨hdoomed.1, hdoomed.2.2⟩

/-! ### Closing -/

/-- Cancelling leaves nobody to be told, and no task open if it succeeds. -/
theorem Resting.cancelAll_kept (h : Resting taken l) (limit : Nat) (s : σ) :
    Spared (Loop.cancelAll b (limit + 1) l s).2.1.tasks ∧
      ((Loop.cancelAll b (limit + 1) l s).1 = .ok () →
        Finished (Loop.cancelAll b (limit + 1) l s).2.1) := by
  rw [cancelAll_eq]
  split
  · rename_i hnone
    have hover := isEmpty_numbers.1 hnone
    exact ⟨hover.spared, fun _ => hover⟩
  · rename_i hmembers
    obtain ⟨hcancelled, houtstanding⟩ := h.cancelled
    have hsome : l.cancelled.outstanding ≠ 0 := by
      rw [houtstanding]
      simpa using hmembers
    have hspared : Spared (Loop.rounds b (limit + 1) l.cancelled.gathering s).1.tasks := by
      have hround := (warned_gathering h).round (b := b) s
      rw [rounds_succ]
      split
      · exact hround
      · exact preserves_spared.rounds limit _ _ hround
    refine ⟨hspared, fun hok => ?_⟩
    have hone : halts l.cancelled.gathering.ready ≤ 1 := (halts_gathering l).symm ▸ h.halts_le
    have hend := (hcancelled.gathering hsome).rounds (b := b) hcancelled.still hone
      (rfl : Loop.rounds b (limit + 1) l.cancelled.gathering s = (_, _))
    have henrolled : Enrolled l.cancelled.gathering := enrolled_cancelled l
    have hnone : (Loop.rounds b (limit + 1) l.cancelled.gathering s).1.outstanding = 0 := by
      dsimp only at hok
      split at hok
      · rename_i hall
        simp only [Bool.and_eq_true, beq_iff_eq] at hall
        exact hall.2
      · simp at hok
    exact (henrolled.rounds (limit + 1) s).finished hend.toFiled hnone

/-- Closing leaves nobody to be told, and it succeeds only with all tasks over. -/
theorem Resting.closeWithin_kept (h : Resting taken l) (limit : Nat) (s : σ) :
    Spared (Loop.closeWithin b (limit + 1) l s).2.1.tasks ∧
      ((Loop.closeWithin b (limit + 1) l s).1 = .ok () →
        (Loop.closeWithin b (limit + 1) l s).2.1.closed = true ∧
          Finished (Loop.closeWithin b (limit + 1) l s).2.1) := by
  obtain ⟨hspared, hover⟩ := h.cancelAll_kept (b := b) limit s
  have hcancel := h.cancelAll (b := b) (limit + 1) s
  rw [Loop.closeWithin, if_neg (by simp [h.opened])]
  generalize Loop.cancelAll b (limit + 1) l s = cancelled at hspared hover hcancel ⊢
  obtain ⟨result, l₁, s₁⟩ := cancelled
  dsimp only at hspared hover hcancel
  cases result with
  | error fault => exact ⟨hspared, by simp⟩
  | ok done =>
    obtain hcancel | ⟨-, k, -, hresting⟩ | ⟨hcancel, -⟩ := hcancel
    · simp at hcancel
    · have hover' := (hover rfl).complete (b := b) hresting b.nothing s₁
      dsimp only
      generalize Loop.complete b (.turns 0 b.nothing) l₁ s₁ = completed at hover' ⊢
      obtain ⟨result, l₂, s₂⟩ := completed
      cases result with
      | error fault => exact ⟨hover'.spared, by simp⟩
      | ok outcome => exact ⟨hover'.spared, fun _ => ⟨rfl, hover'⟩⟩
    · simp at hcancel

/-- Two rounds behind the one in which the tasks are over their group halts the loop at the latest. -/
theorem rounds_gather_behind (h : Sound taken [] l) (hstill : l.stopping = false)
    (hgroup : ∃ g, l.awaited = .group g) (htaken : taken ≤ l.stopRequested.toNat) (s : σ)
    (hover : (rounds b n l s).1.stopping = true ∨ Finished (rounds b n l s).1) :
    (rounds b (n + 2) l s).1.stopping = true := by
  induction n generalizing l s with
  | zero =>
    obtain hstopping | hover := hover
    · exact absurd (hstill.symm.trans hstopping) (by simp)
    · exact (rounds_gather h hstill hgroup hover htaken s).1
  | succ n ih =>
    by_cases hnone : halts l.ready = 0
    · have hran := ran_round (b := b) l s
      have hround := h.round (b := b) s
      have hstopping := stopping_round_of_no_halt (b := b) hstill hnone s
      rw [hnone] at hround
      rw [rounds_of_no_halt hstill hnone] at hover
      rw [show n + 1 + 2 = n + 2 + 1 from rfl, rounds_of_no_halt hstill hnone]
      refine ih hround hstopping ?_ (Nat.le_trans htaken hran.requested_le) _ hover
      rwa [hran.awaited]
    · have hpos := Nat.pos_of_ne_zero hnone
      rw [rounds_of_halt hstill hpos]
      exact stopping_round_of_halt hstill hpos s

/-- Closing comes to an end if the tasks that are told of their cancellation are over in all rounds but two. -/
theorem Resting.closeWithin_ends (h : Resting taken l) (s : σ)
    (hover : l.cancelled.outstanding ≠ 0 → (rounds b n l.cancelled.gathering s).1.stopping = true ∨
      Finished (rounds b n l.cancelled.gathering s).1) :
    (Loop.closeWithin b (n + 2) l s).1 ≠ .error .unfinished := by
  have hcancel : (Loop.cancelAll b (n + 2) l s).1 ≠ .error .unfinished := by
    rw [cancelAll_eq]
    split
    · simp
    · rename_i hmembers
      obtain ⟨hcancelled, houtstanding⟩ := h.cancelled
      have hsome : l.cancelled.outstanding ≠ 0 := by
        rw [houtstanding]
        simpa using hmembers
      have hstopping := rounds_gather_behind (hcancelled.gathering hsome) hcancelled.still ⟨_, rfl⟩
        hcancelled.taken_le s (hover hsome)
      dsimp only
      rw [hstopping]
      split <;> simp [notOver]
  have hresults := h.cancelAll (b := b) (n + 2) s
  rw [Loop.closeWithin, if_neg (by simp [h.opened])]
  generalize Loop.cancelAll b (n + 2) l s = cancelled at hcancel hresults ⊢
  obtain ⟨result, l₁, s₁⟩ := cancelled
  dsimp only at hcancel hresults
  cases result with
  | error fault => exact hcancel
  | ok done =>
    obtain hresult | ⟨-, k, -, hresting⟩ | ⟨hresult, -⟩ := hresults
    · simp at hresult
    · have hcomplete := hresting.complete (b := b) 0 b.nothing s₁
      dsimp only
      generalize Loop.complete b (.turns 0 b.nothing) l₁ s₁ = completed at hcomplete ⊢
      obtain ⟨result, l₂, s₂⟩ := completed
      dsimp only at hcomplete
      obtain ⟨rfl, -⟩ | ⟨-, hpos, -⟩ := hcomplete
      · simp
      · exact absurd hpos (Nat.lt_irrefl 0)
    · simp at hresult

end MessageBus.Loop
