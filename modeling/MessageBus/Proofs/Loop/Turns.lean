import MessageBus.Proofs.Loop.Rounds
/-!
Work that gives way a number of times. Main statement: a loop that awaits such work stops within the rounds
that it may take, and work that is over has the outcome that it was to have.
-/
namespace MessageBus.Loop

variable {σ J C V : Type} {b : Behaviour σ J C V} {l : Loop J C V} {s : σ} {es : List (Entry C)}
  {i k n taken : Nat} {t : Task J V} {v : V}

/-- The task has ended with an outcome, or it ends with it after so many turns at most. -/
def Owes (v : V) (turns : Nat) (t : Task J V) : Prop :=
  t.phase = .ended v ∨ t.phase = .queued ∧ t.cancelling = false ∧ ∃ left < turns, t.work = .turns left v

/-- A task of the loop that owes an outcome. -/
def Owed (v : V) (turns i : Nat) (l : Loop J C V) : Prop := ∃ t, l.tasks[i]? = some t ∧ Owes v turns t

theorem Owes.ended (h : Owes v 0 t) : t.phase = .ended v := by
  obtain h | ⟨-, -, left, hleft, -⟩ := h
  · exact h
  · exact absurd hleft (Nat.not_lt_zero left)

theorem Owes.mono (h : Owes v k t) (hk : k ≤ n) : Owes v n t :=
  h.imp id fun ⟨hqueued, hkept, left, hleft, hwork⟩ =>
    ⟨hqueued, hkept, left, Nat.lt_of_lt_of_le hleft hk, hwork⟩

theorem Owed.mono (h : Owed v k i l) (hk : k ≤ n) : Owed v n i l := by
  obtain ⟨t, ht, howes⟩ := h
  exact ⟨t, ht, howes.mono hk⟩

theorem owes_new (v : V) (left : Nat) : Owes v (left + 1) (.new (.turns left v) : Task J V) :=
  .inr ⟨rfl, rfl, left, Nat.lt_succ_self left, rfl⟩

theorem isOpen_of_owes_zero (h : Owes v 0 t) : t.isOpen = false := by
  simp [Task.isOpen, h.ended]

theorem resume_last (ht : l.tasks[i]? = some t) (hqueued : t.phase = .queued) (hkept : t.cancelling = false)
    (hwork : t.work = .turns 0 v) (s : σ) : (resume b l s i).1 = l.finish i t (.ended v) := by
  simp [resume, ht, Task.isOpen, hqueued, hkept, hwork]

theorem resume_more (ht : l.tasks[i]? = some t) (hqueued : t.phase = .queued) (hkept : t.cancelling = false)
    (hwork : t.work = .turns (n + 1) v) (s : σ) :
    (resume b l s i).1 = (l.setTask i { t with work := .turns n v, started := true }).push (.resume i) := by
  simp [resume, ht, Task.isOpen, hqueued, hkept, hwork]

/-- The turn of the task itself. -/
theorem Owed.resume (h : Owed v (k + 1) i l) (s : σ) : Owed v k i (Loop.resume b l s i).1 := by
  obtain ⟨t, ht, hended | ⟨hqueued, hkept, left, hleft, hwork⟩⟩ := h
  · have hover : t.isOpen = false := by simp [Task.isOpen, hended]
    exact ⟨t, by simp [Loop.resume, ht, hover], .inl hended⟩
  · cases left with
    | zero =>
      rw [resume_last ht hqueued hkept hwork]
      exact ⟨_, task_finish ht t _, .inl rfl⟩
    | succ left =>
      rw [resume_more ht hqueued hkept hwork]
      exact ⟨_, task_setTask ht, .inr ⟨hqueued, hkept, left, Nat.lt_of_succ_lt_succ hleft, rfl⟩⟩

theorem Owed.perform (h : Owed v k i l) (s : σ) (e : Entry C) : Owed v k i (Loop.perform b (l, s) e).1 := by
  by_cases hturn : e = .resume i
  · subst hturn
    exact ((h.mono (Nat.le_succ k)).resume s)
  · obtain ⟨t, ht, howes⟩ := h
    refine ⟨t, (ran_perform l s e).tasks i t ht ?_, howes⟩
    obtain hended | ⟨hqueued, -⟩ := howes
    · exact .inl (by simp [Task.isOpen, hended])
    · exact .inr ⟨hqueued, by simpa using Ne.symm hturn⟩

theorem Owed.performAll (h : Owed v k i l) (s : σ) (es : List (Entry C)) :
    Owed v k i (es.foldl (Loop.perform b) (l, s)).1 := by
  induction es generalizing l s with
  | nil => exact h
  | cons e es ih => exact ih (h.perform s e) _

/-- Entries with a turn of the task among them. -/
theorem Owed.performTurn (h : Owed v (k + 1) i l) (s : σ) (hmem : .resume i ∈ es) :
    Owed v k i (es.foldl (Loop.perform b) (l, s)).1 := by
  obtain ⟨before, after, rfl⟩ := List.append_of_mem hmem
  rw [List.foldl_append, List.foldl_cons]
  have hbefore := h.performAll (b := b) s before
  generalize before.foldl (Loop.perform b) (l, s) = reached at hbefore ⊢
  exact (hbefore.resume (b := b) reached.2).performAll _ after

theorem Owed.round (h : Owed v k i l) (s : σ) : Owed v k i (Loop.round b l s).1 := by
  obtain ⟨delivered, coming, pipe, -, hround⟩ := round_eq_performAll (b := b) l s
  have hstart : Owed v k i (l.begun delivered coming) := h
  rw [hround]
  exact hstart.performAll s _

/-- A round gives the task its turn. -/
theorem Owed.roundTurn (h : Owed v (k + 1) i l) (hl : Filed [] l) (s : σ) :
    Owed v k i (Loop.round b l s).1 := by
  obtain ⟨t, ht, hended | hqueued⟩ := h
  · exact Owed.round (k := k) ⟨t, ht, .inl hended⟩ s
  · have hmem : .resume i ∈ l.ready := hl.scheduled i t ht hqueued.1
    obtain ⟨delivered, coming, pipe, -, hround⟩ := round_eq_performAll (b := b) l s
    have hstart : Owed v (k + 1) i (l.begun delivered coming) := ⟨t, ht, .inr hqueued⟩
    rw [hround]
    exact hstart.performTurn s (List.mem_append_left pipe hmem)

theorem Owed.rounds (h : Owed v k i l) (limit : Nat) (s : σ) : Owed v k i (Loop.rounds b limit l s).1 :=
  rounds_induction (fun _ s h => h.round s) h limit s

/-- The rounds begin with a turn of the task. -/
theorem Owed.roundsTurn (h : Owed v (k + 1) i l) (hl : Filed [] l) (limit : Nat) (s : σ) :
    Owed v k i (Loop.rounds b (limit + 1) l s).1 := by
  have hround := h.roundTurn (b := b) hl s
  rw [rounds_succ]
  split
  · exact hround
  · exact hround.rounds limit _

/-- An end that came and was not taken yet is a halt in the queue. -/
theorem Sound.halts_pos_of_over (h : Sound taken [] l) (htaken : taken ≤ l.stopRequested.toNat)
    (hawaits : l.awaits = true) (hover : l.isDue = false) : 0 < halts l.ready := by
  have hstops := h.stops
  simp only [List.nil_append, hawaits, hover, Bool.toNat_true, Bool.toNat_false] at hstops
  omega

/-- Rounds for work that is awaited: one for each turn, and one for the halt that its end queues. -/
theorem stopping_rounds (h : Sound taken [] l) (hstill : l.stopping = false) (hawaited : l.awaited = .task i)
    (htaken : taken ≤ l.stopRequested.toNat) (howed : Owed v k i l) (s : σ) :
    (rounds b (k + 1) l s).1.stopping = true := by
  induction k generalizing l s with
  | zero =>
    obtain ⟨t, ht, howes⟩ := howed
    have hover : l.isDue = false := by simp [isDue, hawaited, ht, isOpen_of_owes_zero howes]
    have hpos := h.halts_pos_of_over htaken (by simp [awaits, hawaited]) hover
    rw [rounds_of_halt hstill hpos]
    exact stopping_round_of_halt hstill hpos s
  | succ k ih =>
    by_cases hnone : halts l.ready = 0
    · have hran := ran_round (b := b) l s
      have hround := h.round (b := b) s
      rw [hnone] at hround
      have hkept := Nat.le_trans htaken hran.requested_le
      rw [rounds_of_no_halt hstill hnone]
      exact ih hround (stopping_round_of_no_halt hstill hnone s) (hran.awaited.trans hawaited) hkept
        (howed.roundTurn h.toFiled s) _
    · have hpos := Nat.pos_of_ne_zero hnone
      rw [rounds_of_halt hstill hpos]
      exact stopping_round_of_halt hstill hpos s

end MessageBus.Loop
