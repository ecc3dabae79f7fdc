import MessageBus.Proofs.Loop.History
/-!
How a loop is closed. Main statement: a loop is closed with all its tasks over, unless a halt that no run
took is pending while a task is open; then the tasks are over, but the loop is not closed before it is
closed again.
-/
namespace MessageBus.Loop

variable {σ J C V : Type}

/-- A job that is told of its cancellation does not wait again. -/
def Behaviour.Obedient (b : Behaviour σ J C V) : Prop :=
  ∀ j s gate j', (b.advance j true s).1 ≠ .waits gate j'

/-- All tasks are over. -/
def Finished (l : Loop J C V) : Prop := ∀ t ∈ l.tasks, t.isOpen = false

/-- Each task that is not over is told of its cancellation by one of the entries. -/
def Doomed (es : List (Entry C)) (l : Loop J C V) : Prop :=
  ∀ i t, l.tasks[i]? = some t → t.isOpen = true → t.phase = .queued ∧ t.cancelling = true ∧ .resume i ∈ es

variable {b : Behaviour σ J C V} {l l' : Loop J C V} {s' : σ} {e : Entry C} {es fs : List (Entry C)}
  {answers : List (Answer V)} {i j taken : Nat} {t : Task J V}

theorem Doomed.mono (h : Doomed es l) (hsub : ∀ e ∈ es, e ∈ fs) : Doomed fs l := by
  intro i t ht hopen
  obtain ⟨hqueued, htold, hmem⟩ := h i t ht hopen
  exact ⟨hqueued, htold, hsub _ hmem⟩

theorem finished_of_doomed (h : Doomed [] l) : Finished l := by
  intro t ht
  obtain ⟨i, hi⟩ := List.getElem?_of_mem ht
  cases hopen : t.isOpen with
  | false => rfl
  | true =>
    obtain ⟨-, -, hmem⟩ := h i t hi hopen
    simp at hmem

/-- The tasks of a loop on which entries were run. -/
theorem Ran.task (h : Ran es l l') {t' : Task J V} (ht' : l'.tasks[i]? = some t') :
    ∃ t, l.tasks[i]? = some t ∧ (t.isOpen = false ∨ t.phase = .queued ∧ .resume i ∉ es → t' = t) := by
  have hi : i < l.tasks.length := h.length ▸ (List.getElem?_eq_some_iff.1 ht').1
  have ht := List.getElem?_eq_getElem hi
  exact ⟨_, ht, fun hkept => Option.some.inj (ht'.symm.trans (h.tasks i _ ht hkept))⟩

theorem Ran.finished (h : Ran es l l') (hl : Finished l) : Finished l' := by
  intro t' ht'
  obtain ⟨i, hi⟩ := List.getElem?_of_mem ht'
  obtain ⟨t, ht, hsame⟩ := h.task hi
  have hover := hl t (List.mem_of_getElem? ht)
  rw [hsame (.inl hover)]
  exact hover

/-- A task that is told of its cancellation is over. -/
theorem resume_cancelling (hb : b.Obedient) (ht : l.tasks[i]? = some t) (hopen : t.isOpen = true)
    (htold : t.cancelling = true) (s : σ) :
    ∃ t', (resume b l s i).1.tasks[i]? = some t' ∧ t'.isOpen = false := by
  have hcancel : ∃ t', (l.finish i t .cancelled).tasks[i]? = some t' ∧ t'.isOpen = false :=
    ⟨_, task_finish ht t .cancelled, by simp [Task.isOpen]⟩
  unfold resume
  simp only [ht, hopen, htold, if_true, Bool.true_and]
  split
  · exact hcancel
  · split
    · exact hcancel
    · rename_i job _
      obtain ⟨u, hu, -⟩ := task_of_standing (standing_requests l (b.advance job true s).2.1) ht
      split
      · rename_i gate job' hwaits
        exact absurd hwaits (hb job s gate job')
      · exact ⟨_, task_finish hu t _, by simp [Task.isOpen]⟩
      · exact ⟨_, task_finish hu t _, by simp [Task.isOpen]⟩

theorem Doomed.perform (hb : b.Obedient) (h : Doomed (e :: es) l) (s : σ) :
    Doomed es (Loop.perform b (l, s) e).1 := by
  intro i t' ht' hopen'
  have hran := ran_perform (b := b) l s e
  obtain ⟨t, ht, hsame⟩ := hran.task ht'
  cases hopen : t.isOpen with
  | false =>
    rw [hsame (.inl hopen)] at hopen'
    simp [hopen] at hopen'
  | true =>
    obtain ⟨hqueued, htold, hmem⟩ := h i t ht hopen
    by_cases hturn : e = .resume i
    · subst hturn
      obtain ⟨u, hu, hover⟩ := resume_cancelling hb ht hopen htold s
      obtain rfl := Option.some.inj (hu.symm.trans ht')
      simp [hover] at hopen'
    · rw [hsame (.inr ⟨hqueued, by simpa using Ne.symm hturn⟩)]
      exact ⟨hqueued, htold, (List.mem_cons.1 hmem).resolve_left (Ne.symm hturn)⟩

theorem Doomed.performAll (hb : b.Obedient) (h : Doomed es l) (s : σ) :
    Doomed [] (es.foldl (Loop.perform b) (l, s)).1 := by
  induction es generalizing l s with
  | nil => exact h
  | cons e es ih => exact ih (h.perform hb s) _

/-- A round that tells all open tasks of their cancellation is the last one for them. -/
theorem Doomed.round (hb : b.Obedient) (h : Doomed l.ready l) (s : σ) : Finished (Loop.round b l s).1 := by
  obtain ⟨delivered, coming, pipe, -, hround⟩ := round_eq_performAll (b := b) l s
  have hready : Doomed l.ready (l.begun delivered coming) := h
  have hstart : Doomed (l.ready ++ pipe) (l.begun delivered coming) :=
    hready.mono fun e he => List.mem_append_left pipe he
  rw [hround]
  exact finished_of_doomed (hstart.performAll hb s)

/-! ### Cancelling -/

/-- If the task is not over, its cancellation is what it is told next. -/
def IsTold (t : Task J V) : Prop := t.isOpen = true → t.phase = .queued ∧ t.cancelling = true

theorem task_wake_ne (hij : i ≠ j) (l : Loop J C V) : (l.wake i).tasks[j]? = l.tasks[j]? := by
  unfold wake
  split
  · split
    · exact List.getElem?_set_ne hij
    · rfl
  · rfl

theorem task_cancel_ne (hij : i ≠ j) (l : Loop J C V) : (l.cancel i).tasks[j]? = l.tasks[j]? := by
  unfold cancel
  split
  · split
    · exact (task_wake_ne hij _).trans (List.getElem?_set_ne hij)
    · rfl
  · rfl

/-- A task that waits is woken. -/
theorem isTold_wake {t₀ : Task J V} (ht₀ : l.tasks[i]? = some t₀) (htold : t₀.cancelling = true)
    (ht : (l.wake i).tasks[i]? = some t) : IsTold t := by
  intro hopen
  unfold wake at ht
  simp only [ht₀] at ht
  split at ht
  · obtain rfl := Option.some.inj ((task_setTask ht₀).symm.trans ht)
    exact ⟨rfl, htold⟩
  · rename_i hwaits
    obtain rfl := Option.some.inj (ht₀.symm.trans ht)
    refine ⟨?_, htold⟩
    cases hphase : t₀.phase with
    | queued => rfl
    | waiting gate => exact absurd hphase (hwaits gate)
    | ended outcome => simp [Task.isOpen, hphase] at hopen
    | cancelled => simp [Task.isOpen, hphase] at hopen

theorem isTold_cancel (ht : (l.cancel i).tasks[i]? = some t) : IsTold t := by
  unfold cancel at ht
  split at ht
  · rename_i t₀ ht₀
    split at ht
    · exact isTold_wake (task_setTask ht₀) rfl ht
    · rename_i hover
      obtain rfl := Option.some.inj (ht₀.symm.trans ht)
      exact fun hopen => absurd hopen hover
  · rename_i hnone
    simp [hnone] at ht

theorem isTold_cancels (is : List Nat) (hi : i ∈ is ∨ ∀ t, l.tasks[i]? = some t → IsTold t)
    (ht : (is.foldl cancel l).tasks[i]? = some t) : IsTold t := by
  induction is generalizing l with
  | nil => exact (hi.resolve_left (by simp)) t ht
  | cons j is ih =>
    refine ih (l := l.cancel j) ?_ ht
    by_cases hij : j = i
    · subst hij
      exact .inr fun u hu => isTold_cancel hu
    · refine hi.imp (fun hmem => (List.mem_cons.1 hmem).resolve_left (Ne.symm hij)) fun hall u hu => ?_
      rw [task_cancel_ne hij] at hu
      exact hall u hu

/-- All tasks that are not over are told. -/
theorem isTold_cancelled (ht : l.cancelled.tasks[i]? = some t) : IsTold t := by
  refine isTold_cancels _ ?_ ht
  by_cases hmem : i ∈ l.numbers Task.isOpen
  · exact .inl hmem
  · -- the task is over, in its group as before
    refine .inr fun u hu hopen => absurd ?_ hmem
    rw [groupOpen_tasks, List.getElem?_map, Option.map_eq_some_iff] at hu
    obtain ⟨v, hv, rfl⟩ := hu
    have hwas : v.isOpen = true := by
      rw [← hopen, Task.isOpen, Task.isOpen, enrolled_phase]
    obtain ⟨hi, rfl⟩ := List.getElem?_eq_some_iff.1 hv
    simp [numbers, hi, hwas]

theorem doomed_cancelled (h : Resting taken l) : Doomed l.cancelled.ready l.cancelled := by
  intro i t ht hopen
  obtain ⟨hqueued, htold⟩ := isTold_cancelled ht hopen
  exact ⟨hqueued, htold, h.cancelled.1.scheduled i t ht hqueued⟩

/-- Cancelling queues turns only. -/
theorem wake_ready (l : Loop J C V) (i : Nat) :
    halts (l.wake i).ready = halts l.ready ∧ ∀ g, told g (l.wake i).ready = told g l.ready := by
  have hpushed : halts (l.ready ++ [.resume i]) = halts l.ready ∧
      ∀ g, told g (l.ready ++ [.resume i]) = told g l.ready :=
    ⟨by rw [halts_append, halts_plain rfl, Nat.add_zero],
      fun g => by rw [told_append, told_plain rfl, Nat.add_zero]⟩
  unfold wake
  split
  · split
    · exact hpushed
    · exact ⟨rfl, fun _ => rfl⟩
  · exact ⟨rfl, fun _ => rfl⟩

theorem cancelled_ready (l : Loop J C V) :
    halts l.cancelled.ready = halts l.ready ∧ ∀ g, told g l.cancelled.ready = told g l.ready := by
  refine List.foldlRecOn (motive := fun l' : Loop J C V => halts l'.ready = halts l.ready ∧
    ∀ g, told g l'.ready = told g l.ready) _ cancel ⟨rfl, fun _ => rfl⟩ ?_
  rintro l' ⟨hhalts, htold⟩ i -
  unfold cancel
  split
  · split
    · rename_i t _ _
      obtain ⟨hwoken, htells⟩ := wake_ready (l'.setTask i { t with cancelling := true }) i
      exact ⟨hwoken.trans hhalts, fun g => (htells g).trans (htold g)⟩
    · exact ⟨hhalts, htold⟩
  · exact ⟨hhalts, htold⟩

theorem cancelled_groups (l : Loop J C V) : l.cancelled.groups = l.groups + 1 := by
  refine List.foldlRecOn (motive := fun l' : Loop J C V => l'.groups = l.groups + 1) _ cancel rfl ?_
  exact fun l' h i _ => (cancel_kept l' i).2.2.1.trans h

/-! ### Closing -/

theorem Finished.rounds (h : Finished l) (limit : Nat) (s : σ) : Finished (Loop.rounds b limit l s).1 :=
  rounds_induction (fun l s h => (ran_round l s).finished h) h limit s

/-- With all tasks over, the newest group is told of the ends that are left. -/
theorem round_gather (h : Filed [] l) (hover : Finished l) (s : σ) : (round b l s).1.outstanding = 0 := by
  have hmembers : l.tasks.countP (Task.isMember l.groups) = 0 := by
    rw [List.countP_eq_zero]
    intro t ht
    simp [Task.isMember, hover t ht]
  have houtstanding := h.outstanding
  rw [hmembers, Nat.add_zero, List.nil_append] at houtstanding
  rw [(ran_round l s).outstanding, houtstanding, Nat.sub_self]

/-- With all tasks over, the last end that is told brings a halt. -/
theorem rounds_gather (h : Sound taken [] l) (hstill : l.stopping = false)
    (hgroup : ∃ g, l.awaited = .group g) (hover : Finished l) (htaken : taken ≤ l.stopRequested.toNat)
    (s : σ) :
    (rounds b 2 l s).1.stopping = true ∧ (rounds b 2 l s).1.outstanding = 0 := by
  obtain ⟨g, hawaited⟩ := hgroup
  have hgather := round_gather (b := b) h.toFiled hover s
  have hran := ran_round (b := b) l s
  by_cases hnone : halts l.ready = 0
  · have hround := h.round (b := b) s
    have hstopping := stopping_round_of_no_halt (b := b) hstill hnone s
    rw [hnone] at hround
    rw [rounds_of_no_halt hstill hnone]
    have hdue : (round b l s).1.isDue = false := by simp [isDue, hran.awaited, hawaited, hgather]
    have hpos := hround.halts_pos_of_over (Nat.le_trans htaken hran.requested_le)
      (by simp [awaits, hran.awaited, hawaited]) hdue
    rw [rounds_of_halt hstopping hpos]
    exact ⟨stopping_round_of_halt hstopping hpos _,
      round_gather hround.toFiled (hran.finished hover) _⟩
  · have hpos := Nat.pos_of_ne_zero hnone
    rw [rounds_of_halt hstill hpos]
    exact ⟨stopping_round_of_halt hstill hpos s, hgather⟩

/-- A halt that no run took is pending while tasks are not over. -/
def Stray (l : Loop J C V) : Prop := .halt ∈ l.ready ∧ ¬ Finished l

theorem isEmpty_numbers : (l.numbers Task.isOpen).isEmpty = true ↔ Finished l := by
  rw [List.isEmpty_iff_length_eq_zero, length_numbers, List.countP_eq_zero]
  simp [Finished]

/-- All tasks are cancelled, and over after the first round. -/
theorem round_gathering (hb : b.Obedient) (h : Resting taken l) (s : σ) :
    Finished (round b l.cancelled.gathering s).1 := by
  have hdoomed : Doomed l.cancelled.gathering.ready l.cancelled.gathering := doomed_cancelled h
  exact hdoomed.round hb s

theorem halts_gathering (l : Loop J C V) : halts l.cancelled.gathering.ready = halts l.ready :=
  (cancelled_ready l).1

theorem told_gathering (h : Resting taken l) :
    told l.cancelled.gathering.groups l.cancelled.gathering.ready = 0 := by
  have hnewer : told (l.groups + 1) l.ready = 0 := told_newer h.entries
  have hgroups : told l.cancelled.groups l.cancelled.ready = told (l.groups + 1) l.cancelled.ready := by
    rw [cancelled_groups]
  exact hgroups.trans (((cancelled_ready l).2 _).trans hnewer)

/-- The second round tells of the ends of the first one, and the third one halts at the latest. -/
theorem rounds_gathering (hb : b.Obedient) (h : Resting taken l) (hsome : l.cancelled.outstanding ≠ 0)
    (hnone : halts l.ready = 0) (s : σ) :
    Finished (rounds b cancelRounds l.cancelled.gathering s).1 ∧
      (rounds b cancelRounds l.cancelled.gathering s).1.stopping = true ∧
      (rounds b cancelRounds l.cancelled.gathering s).1.outstanding = 0 := by
  have hcancelled := h.cancelled.1
  have hsound := hcancelled.gathering hsome
  have hstill : l.cancelled.gathering.stopping = false := hcancelled.still
  have hhalts := (halts_gathering l).trans hnone
  have hover := round_gathering hb h s
  have hran := ran_round (b := b) l.cancelled.gathering s
  have hnext := hsound.round (b := b) s
  have hstopping := stopping_round_of_no_halt (b := b) hstill hhalts s
  rw [hhalts] at hnext
  rw [cancelRounds, rounds_of_no_halt hstill hhalts]
  exact ⟨hover.rounds 2 _, rounds_gather hnext hstopping ⟨_, hran.awaited⟩ hover
    (Nat.le_trans hcancelled.taken_le hran.requested_le) _⟩

/-- A halt comes in the round in which the tasks are over, before that is told. -/
theorem rounds_gathering_halted (hb : b.Obedient) (h : Resting taken l)
    (hsome : l.cancelled.outstanding ≠ 0) (hpos : 0 < halts l.ready) (s : σ) :
    Finished (rounds b cancelRounds l.cancelled.gathering s).1 ∧
      (rounds b cancelRounds l.cancelled.gathering s).1.stopping = true ∧
      (rounds b cancelRounds l.cancelled.gathering s).1.outstanding ≠ 0 := by
  have hstill : l.cancelled.gathering.stopping = false := h.cancelled.1.still
  have hhalts : 0 < halts l.cancelled.gathering.ready := (halts_gathering l).symm ▸ hpos
  have hleft : (round b l.cancelled.gathering s).1.outstanding = l.cancelled.outstanding := by
    rw [(ran_round _ s).outstanding, told_gathering h]
    rfl
  rw [cancelRounds, rounds_of_halt hstill hhalts]
  exact ⟨round_gathering hb h s, stopping_round_of_halt hstill hhalts s, hleft ▸ hsome⟩

/-- Obedient tasks are over after the rounds that closing gives them, or a stray halt comes before. -/
theorem cancelAll_obedient (hb : b.Obedient) (h : Resting taken l) (s : σ) :
    Finished (cancelAll b cancelRounds l s).2.1 ∧
      (Stray l → (cancelAll b cancelRounds l s).1 = .error .stoppedEarly) ∧
      (¬ Stray l → (cancelAll b cancelRounds l s).1 = .ok ()) := by
  rw [cancelAll_eq]
  split
  · rename_i hnone
    have hover := isEmpty_numbers.1 hnone
    exact ⟨hover, fun hstray => absurd hover hstray.2, fun _ => rfl⟩
  · rename_i hmembers
    have hsome : l.cancelled.outstanding ≠ 0 := by
      rw [h.cancelled.2]
      simpa using hmembers
    by_cases hnone : halts l.ready = 0
    · obtain ⟨hover, hstopping, hall⟩ := rounds_gathering hb h hsome hnone s
      refine ⟨hover, fun hstray => ?_, fun _ => ?_⟩
      · exact absurd (halts_pos.2 hstray.1) (by omega)
      · simp [hstopping, hall]
    · have hpos := Nat.pos_of_ne_zero hnone
      obtain ⟨hover, hstopping, hleft⟩ := rounds_gathering_halted hb h hsome hpos s
      refine ⟨hover, fun _ => ?_, fun hcalm => ?_⟩
      · simp [hstopping, hleft, notOver]
      · exact absurd ⟨halts_pos.1 hpos, fun hover => hmembers (isEmpty_numbers.2 hover)⟩ hcalm

theorem complete_loop (hopen : l.closed = false) (w : Work J V) (s : σ) :
    (complete b w l s).2.1 = (rounds b w.rounds (engaged w l) s).1.rest := by
  rw [complete_eq hopen]
  split <;> rfl

/-- Work that is over at once leaves all tasks over. -/
theorem Finished.complete (h : Finished l) (hl : Resting taken l) (v : V) (s : σ) :
    Finished (Loop.complete b (.turns 0 v) l s).2.1 := by
  have hround : Finished (round b (Loop.engaged (.turns 0 v) l) s).1 := by
    intro t' ht'
    obtain ⟨i, hi⟩ := List.getElem?_of_mem ht'
    obtain ⟨t, ht, hsame⟩ := (ran_round (b := b) (Loop.engaged (.turns 0 v) l) s).task hi
    simp only [Loop.engaged, add, List.getElem?_append] at ht
    split at ht
    · have hover := h t (List.mem_of_getElem? ht)
      rw [hsame (.inl hover)]
      exact hover
    · rename_i hlast
      have hi' : i = l.tasks.length := by
        have hlength := (List.getElem?_eq_some_iff.1 ht).1
        rw [List.length_singleton] at hlength
        omega
      obtain ⟨u, hu, howes⟩ := (owed_engaged v 0 l).roundTurn (b := b) (hl.engaged (.turns 0 v)).toFiled s
      obtain rfl := Option.some.inj ((hi' ▸ hi).symm.trans hu)
      exact isOpen_of_owes_zero howes
  have hall : Finished (Loop.rounds b 2 (Loop.engaged (.turns 0 v) l) s).1 := by
    rw [rounds_succ]
    split
    · exact hround
    · exact hround.rounds 1 _
  rw [complete_loop hl.opened]
  exact hall

/-- A loop is closed with all its tasks over unless a halt is stray; then it is left open. -/
theorem close_resting (hb : b.Obedient) (h : Resting taken l) (s : σ) :
    Finished (close b l s).2.1 ∧
      (Stray l → (close b l s).1 = .error .stoppedEarly ∧ ∃ n, Resting n (close b l s).2.1) ∧
      (¬ Stray l → (close b l s).1 = .ok () ∧ (close b l s).2.1.closed = true) := by
  obtain ⟨hover, hstray, hcalm⟩ := cancelAll_obedient hb h s
  have hcancel := h.cancelAll (b := b) cancelRounds s
  rw [close, closeWithin, if_neg (by simp [h.opened])]
  generalize cancelAll b cancelRounds l s = cancelled at hover hstray hcalm hcancel ⊢
  obtain ⟨result, l₁, s₁⟩ := cancelled
  dsimp only at hover hstray hcalm hcancel
  obtain rfl | ⟨rfl, n, -, hresting⟩ | ⟨rfl, hresting⟩ := hcancel
  · -- obedient tasks do not go on for ever
    by_cases h : Stray l
    · exact absurd (hstray h) (by simp)
    · exact absurd (hcalm h) (by simp)
  · have hover' := hover.complete (b := b) hresting b.nothing s₁
    have hcomplete := hresting.complete (b := b) 0 b.nothing s₁
    dsimp only
    generalize complete b (.turns 0 b.nothing) l₁ s₁ = completed at hover' hcomplete ⊢
    obtain ⟨result, l₂, s₂⟩ := completed
    dsimp only at hover' hcomplete
    obtain ⟨rfl, -⟩ | ⟨-, hpos, -⟩ := hcomplete
    · exact ⟨hover', fun h => absurd (hstray h) (by simp), fun _ => ⟨rfl, rfl⟩⟩
    · exact absurd hpos (Nat.lt_irrefl 0)
  · exact ⟨hover, fun _ => ⟨rfl, _, hresting⟩, fun h => absurd (hcalm h) (by simp)⟩

/-- Closing a loop that was new, whatever was done with it, closes it with all its tasks over, and closing
it again changes nothing; unless a halt is stray. Then the loop is left open with its tasks over, and
closing it again closes it. -/
theorem closes_unless_stray (hb : b.Obedient) (ops : List (Operation J C V)) (s : σ)
    (hrun : carryOutAll b ops .empty s = (answers, l, s')) (hreturns : .error .unfinished ∉ answers)
    (hopen : l.closed = false) {result : Except Fault Unit} {lc : Loop J C V} {sc : σ}
    (hclose : close b l s' = (result, lc, sc)) :
    Finished lc ∧
    (¬ Stray l → result = .ok () ∧ lc.closed = true ∧ close b lc sc = (.ok (), lc, sc)) ∧
    (Stray l → result = .error .stoppedEarly ∧ lc.closed = false ∧
      (close b lc sc).1 = .ok () ∧ (close b lc sc).2.1.closed = true) := by
  have hresting := (kept_of_new hrun hreturns).1.resting hopen
  obtain ⟨hover, hstray, hcalm⟩ := close_resting hb hresting s'
  rw [hclose] at hover hstray hcalm
  refine ⟨hover, fun h => ?_, fun h => ?_⟩
  · obtain ⟨hresult, hclosed⟩ := hcalm h
    exact ⟨hresult, hclosed, closeWithin_of_closed b hclosed cancelRounds sc⟩
  · obtain ⟨hresult, n, hleft⟩ := hstray h
    have hagain := (close_resting hb hleft sc).2.2 fun hagain => hagain.2 hover
    exact ⟨hresult, hleft.opened, hagain⟩

theorem Tagged.obedient (V : Type) : (Tagged.behaviour V).Obedient := by
  intro j seen gate j'
  simp [Tagged.behaviour, Tagged.advance]

/-- A task waits, and the stop was asked for and taken by a run. -/
def halted : List (Answer (Option Nat)) × Loop Tagged.Waiting Tagged.Callback (Option Nat) × List String :=
  carryOutAll (Tagged.behaviour Nat) [.spawn (.job ⟨"a"⟩), .requestStop, .run 51] .empty []

theorem closes_unless_stray_halted :
    .error .unfinished ∉ halted.1 ∧ halted.2.1.closed = false ∧ ¬ Finished halted.2.1 ∧
      (close (Tagged.behaviour Nat) halted.2.1 halted.2.2).1 = .ok () ∧
      (close (Tagged.behaviour Nat) halted.2.1 halted.2.2).2.1.closed = true := by
  have hanswers : halted.1 = [.ok .done, .ok .done, .ok (.ran .stopped)] := rfl
  have hreturns : .error .unfinished ∉ halted.1 := by simp [hanswers]
  have hopen : halted.2.1.closed = false := rfl
  have hleft : ¬ Finished halted.2.1 := fun h => absurd (h _ (.head _)) (by decide)
  have hcalm : ¬ Stray halted.2.1 := fun h => absurd h.1 (by simp [show halted.2.1.ready = [] from rfl])
  have hcloses := (closes_unless_stray (Tagged.obedient Nat) _ _ rfl hreturns hopen rfl).2.1 hcalm
  exact ⟨hreturns, hopen, hleft, hcloses.1, hcloses.2.1⟩

/-- A task is open and the stop was not taken: closing fails, and the loop stays open. -/
theorem close_fails_when_stray :
    ∃ l s, carryOutAll (Tagged.behaviour Nat) [.spawn (.job ⟨"a"⟩), .requestStop] .empty [] =
        ([.ok .done, .ok .done], l, s) ∧
      l.closed = false ∧ (close (Tagged.behaviour Nat) l s).1 = .error .stoppedEarly ∧
      (close (Tagged.behaviour Nat) l s).2.1.closed = false :=
  ⟨_, _, rfl, rfl, rfl, rfl⟩

end MessageBus.Loop
