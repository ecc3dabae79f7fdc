import MessageBus.Proofs.Loop.Turns
/-!
What drives a loop: runs, work that is awaited, and closing. Main statement: each of them leaves the loop
with an account that says which halts it took.
-/
namespace MessageBus.Loop

variable {σ J C V : Type}

/-- The loop with a new task that is awaited. -/
def engaged (w : Work J V) (l : Loop J C V) : Loop J C V :=
  { (l.add w).2 with awaited := .task l.tasks.length }

/-- The stop is asked for in the round in which the work ends: the halts for both are taken as one. -/
def swallows (b : Behaviour σ J C V) (w : Work J V) (l : Loop J C V) (s : σ) : Bool :=
  coincides b w.rounds (engaged w l) s

/-- The loop as it is left by what drove it. -/
def rest (l : Loop J C V) : Loop J C V := { l with stopping := false, awaited := .nothing }

variable {b : Behaviour σ J C V} {l : Loop J C V} {s : σ} {es : List (Entry C)} {k limit taken : Nat}

theorem resting_empty : Resting 0 (empty : Loop J C V) where
  opened := rfl
  outstanding := rfl
  newest := by simp [empty]
  entries := by simp [empty]
  members := by simp [empty]
  scheduled := by simp [empty]
  known := by simp [empty]
  stops := rfl
  idle := rfl
  still := rfl

/-- The one request is pending, or it was taken. -/
theorem Resting.halts_add_taken (h : Resting taken l) : halts l.ready + taken = l.stopRequested.toNat := by
  have hstops := h.stops
  simpa [isDue, awaits, h.idle] using hstops

theorem Resting.halts_le (h : Resting taken l) : halts l.ready ≤ 1 := by
  have hsum := h.halts_add_taken
  have hrequested := Bool.toNat_le l.stopRequested
  omega

theorem Resting.taken_le (h : Resting taken l) : taken ≤ l.stopRequested.toNat := by
  have hsum := h.halts_add_taken
  omega

/-! ### Runs -/

theorem run_eq (hopen : l.closed = false) (limit : Nat) (s : σ) :
    run b limit l s = (.ok (if (rounds b limit l s).1.stopping then .stopped else .ranOut),
      { (rounds b limit l s).1 with stopping := false }, (rounds b limit l s).2) := by
  rw [run, if_neg (by simp [hopen])]
  rfl

theorem rounds_awaited (limit : Nat) (l : Loop J C V) (s : σ) :
    (rounds b limit l s).1.awaited = l.awaited :=
  rounds_induction (P := fun l' => l'.awaited = l.awaited)
    (fun l' s h => (ran_round l' s).awaited.trans h) rfl limit s

/-- A run that is stopped has taken the one halt. -/
theorem Resting.run (h : Resting taken l) (limit : Nat) (s : σ) :
    ∃ ending, (Loop.run b limit l s).1 = .ok ending ∧
      Resting (taken + if ending = .stopped then 1 else 0) (Loop.run b limit l s).2.1 := by
  have hend := h.toSound.rounds h.still h.halts_le (rfl : Loop.rounds b limit l s = (_, _))
  have hidle := (rounds_awaited (b := b) limit l s).trans h.idle
  rw [run_eq h.opened]
  generalize (Loop.rounds b limit l s).1 = l₁ at hend hidle
  refine ⟨_, rfl, ⟨?_, hidle, rfl⟩⟩
  cases hstopping : l₁.stopping with
  | false =>
    rw [hstopping] at hend
    exact { hend with }
  | true =>
    -- nothing was awaited, so there was one halt at most
    have hstops := hend.stops
    have hrequested := Bool.toNat_le l₁.stopRequested
    simp only [hstopping, if_true, awaits, hidle, bne_self_eq_false, Bool.toNat_false] at hstops
    have hone : (coincides b limit l s).toNat = 0 := by omega
    rw [hstopping, hone] at hend
    exact { hend with }

/-! ### Awaiting -/

/-- What was awaited took one halt for itself if it came. -/
theorem Sound.rest (h : Sound (taken + 1) [] l) (hawaits : l.awaits = true) :
    Resting (taken + l.isDue.toNat) l.rest where
  toFiled := { h.toFiled with newest := by simp [Loop.rest] }
  idle := rfl
  still := rfl
  stops := by
    have hstops := h.stops
    have hhalts : halts l.ready + (taken + l.isDue.toNat) = l.stopRequested.toNat := by
      simp only [List.nil_append, hawaits, Bool.toNat_true] at hstops
      omega
    exact hhalts

/-- A loop that is stopped while something is awaited has taken the halt of the request if the end is still
due, or if both came in one round. -/
theorem Sound.rounds_rest (h : Sound taken [] l) (hstill : l.stopping = false) (hone : halts l.ready ≤ 1)
    (hawaits : l.awaits = true) (hstopped : (Loop.rounds b limit l s).1.stopping = true) :
    Resting (taken + if (Loop.rounds b limit l s).1.isDue then 1 else (coincides b limit l s).toNat)
      (Loop.rounds b limit l s).1.rest := by
  have hend := h.rounds hstill hone (rfl : Loop.rounds b limit l s = (_, _))
  rw [hstopped, if_pos rfl, Nat.add_comm 1, ← Nat.add_assoc] at hend
  have hrest := hend.rest (by rw [awaits, rounds_awaited]; exact hawaits)
  cases hdue : (Loop.rounds b limit l s).1.isDue with
  | false => simpa [hdue] using hrest
  | true =>
    -- no more than one halt was taken
    rw [hdue, Bool.toNat_true] at hrest
    have hsum := hrest.halts_add_taken
    have hrequested := Bool.toNat_le (Loop.rounds b limit l s).1.rest.stopRequested
    have hapart : (coincides b limit l s).toNat = 0 := by omega
    simpa [hapart] using hrest

/-! ### Work -/

theorem engaged_isDue (w : Work J V) (l : Loop J C V) : (engaged w l).isDue = true := by
  simp [isDue, engaged, add, push, Task.new, Task.isOpen]

theorem Filed.add (h : Filed [] l) (w : Work J V) : Filed [] (l.add w).2 where
  opened := h.opened
  outstanding := by
    have hnew : ∀ g, Task.isMember g (.new w : Task J V) = false := by simp [Task.isMember, Task.new]
    have hpushed : l.outstanding = told l.groups ([] ++ (l.push (.resume l.tasks.length)).ready) +
        l.tasks.countP (Task.isMember l.groups) := by
      rw [told_push, told_plain rfl, Nat.add_zero]
      exact h.outstanding
    simpa [Loop.add, Loop.push, List.countP_append, hnew] using hpushed
  newest := h.newest
  entries := fun g hg => h.entries g (((mem_push l).1 hg).resolve_right (by simp))
  members := by
    intro t ht g hg
    obtain ht | ht := List.mem_append.1 ht
    · exact h.members t ht g hg
    · obtain rfl := List.mem_singleton.1 ht
      simp [Task.new] at hg
  scheduled := by
    intro i t ht hqueued
    simp only [Loop.add, List.getElem?_append] at ht
    refine (mem_push l).2 ?_
    split at ht
    · exact .inl (h.scheduled i t ht hqueued)
    · rename_i hlast
      have hi : i = l.tasks.length := by
        have hlength := (List.getElem?_eq_some_iff.1 ht).1
        rw [List.length_singleton] at hlength
        omega
      exact .inr (by rw [hi])
  known := by
    intro i hi
    have hlength : (l.add w).2.tasks.length = l.tasks.length + 1 := by simp [Loop.add]
    rw [hlength]
    obtain hi | hi := (mem_push l).1 hi
    · exact Nat.lt_succ_of_lt (h.known i hi)
    · exact Nat.lt_succ_of_le (Nat.le_of_eq (by simpa using hi))

theorem halts_engaged (w : Work J V) (l : Loop J C V) : halts (engaged w l).ready = halts l.ready := by
  have hhalts : halts (l.ready ++ [.resume l.tasks.length]) = halts l.ready := by
    rw [halts_append, halts_plain rfl, Nat.add_zero]
  exact hhalts

theorem Resting.add (h : Resting taken l) (w : Work J V) : Resting taken (l.add w).2 where
  toFiled := h.toFiled.add w
  stops := by
    have hdue : (l.add w).2.isDue = l.isDue := by simp [isDue, Loop.add, push, h.idle]
    have hstops : halts ([] ++ (engaged w l).ready) + l.isDue.toNat + taken =
        l.stopRequested.toNat + l.awaits.toNat := by
      rw [List.nil_append, halts_engaged]
      exact h.stops
    rw [hdue]
    exact hstops
  idle := h.idle
  still := h.still

theorem Resting.engaged (h : Resting taken l) (w : Work J V) : Sound taken [] (engaged w l) where
  toFiled := { h.toFiled.add w with newest := by simp [Loop.engaged] }
  stops := by
    have hsum := h.halts_add_taken
    rw [engaged_isDue, List.nil_append, halts_engaged]
    have hstops : halts l.ready + 1 + taken = l.stopRequested.toNat + 1 := by omega
    exact hstops

theorem owed_engaged (v : V) (k : Nat) (l : Loop J C V) :
    Owed v (k + 1) l.tasks.length (engaged (.turns k v) l) :=
  ⟨_, by simp [Loop.engaged, add, push], owes_new v k⟩

theorem complete_eq (hopen : l.closed = false) (w : Work J V) (s : σ) :
    complete b w l s =
      match (rounds b w.rounds (engaged w l) s).1.outcome? l.tasks.length with
      | some outcome => (.ok outcome, (rounds b w.rounds (engaged w l) s).1.rest,
          (rounds b w.rounds (engaged w l) s).2)
      | none => (.error (notOver (rounds b w.rounds (engaged w l) s).1.stopping),
          (rounds b w.rounds (engaged w l) s).1.rest, (rounds b w.rounds (engaged w l) s).2) := by
  rw [complete, if_neg (by simp [hopen])]
  rfl

/-- Work that gives way ends with its outcome, unless the stop comes before. -/
theorem Resting.complete (h : Resting taken l) (k : Nat) (v : V) (s : σ) :
    ((Loop.complete b (.turns k v) l s).1 = .ok v ∧
      Resting (taken + (swallows b (.turns k v) l s).toNat) (Loop.complete b (.turns k v) l s).2.1) ∨
    ((Loop.complete b (.turns k v) l s).1 = .error .stoppedEarly ∧ 0 < k ∧
      Resting (taken + 1) (Loop.complete b (.turns k v) l s).2.1) := by
  have hsound := h.engaged (.turns k v)
  have howed := owed_engaged v k l
  have hone : halts (Loop.engaged (.turns k v) l).ready ≤ 1 := by
    rw [halts_engaged]
    exact h.halts_le
  have hstopped := stopping_rounds (b := b) hsound h.still rfl h.taken_le howed s
  have hrest := hsound.rounds_rest (b := b) h.still hone rfl hstopped
  obtain ⟨t, ht, howes⟩ := howed.roundsTurn (b := b) hsound.toFiled (k + 1) s
  have hawaited := rounds_awaited (b := b) (k + 1 + 1) (Loop.engaged (.turns k v) l) s
  rw [complete_eq h.opened, swallows]
  simp only [Work.rounds]
  generalize hreached : Loop.rounds b (k + 1 + 1) (Loop.engaged (.turns k v) l) s = reached at *
  have hdue : reached.1.isDue = t.isOpen := by
    rw [isDue, hawaited]
    simp [Loop.engaged, ht]
  obtain hended | ⟨hqueued, -, left, hleft, -⟩ := howes
  · have hover : t.isOpen = false := by simp [Task.isOpen, hended]
    have houtcome : reached.1.outcome? l.tasks.length = some v := by simp [outcome?, ht, hended]
    rw [hdue, hover] at hrest
    rw [houtcome]
    exact .inl ⟨rfl, hrest⟩
  · have hopen : t.isOpen = true := by simp [Task.isOpen, hqueued]
    have hnone : reached.1.outcome? l.tasks.length = none := by simp [outcome?, ht, hqueued]
    rw [hdue, hopen] at hrest
    rw [hnone, hstopped]
    exact .inr ⟨rfl, by omega, hrest⟩

/-! ### Closing -/

/-- As many places as there are elements with the property. -/
theorem length_places {α : Type} (as : List α) (p : α → Bool) :
    ((List.range as.length).filter fun i => as[i]?.any p).length = as.countP p := by
  rw [← List.countP_eq_length_filter]
  induction as with
  | nil => rfl
  | cons a as ih =>
    rw [List.length_cons, List.range_succ_eq_map, List.countP_cons, List.countP_map, List.countP_cons, ← ih]
    simp [Function.comp_def]

theorem length_numbers (l : Loop J C V) (p : Task J V → Bool) : (l.numbers p).length = l.tasks.countP p :=
  length_places l.tasks p

/-- The task as a member of a group, if it is not over. -/
def Task.enrolled (g : Nat) (t : Task J V) : Task J V := if t.isOpen then { t with group := some g } else t

theorem groupOpen_tasks (l : Loop J C V) :
    l.groupOpen.tasks = l.tasks.map (Task.enrolled (l.groups + 1)) := rfl

theorem enrolled_phase (g : Nat) (t : Task J V) : (t.enrolled g).phase = t.phase := by
  unfold Task.enrolled
  split <;> rfl

theorem enrolled_isMember (g : Nat) (t : Task J V) : (t.enrolled g).isMember g = t.isOpen := by
  cases hopen : t.isOpen with
  | true =>
    have hphase : Task.isOpen { t with group := some g } = true := hopen
    simp [Task.enrolled, Task.isMember, hopen, hphase]
  | false => simp [Task.enrolled, Task.isMember, hopen]

theorem told_newer (h : ∀ g, .collect g ∈ es → g ≤ k) : told (k + 1) es = 0 := by
  rw [told, List.countP_eq_zero]
  intro e he
  cases e with
  | collect g =>
    have hle := h g he
    simp only [Entry.tells, beq_iff_eq]
    omega
  | _ => simp [Entry.tells]

/-- A new group is formed of the tasks that are not over; no entry tells it of an end yet. -/
theorem Resting.groupOpen (h : Resting taken l) : Resting taken l.groupOpen where
  opened := h.opened
  outstanding := by
    have hnone : told (l.groups + 1) l.ready = 0 := told_newer h.entries
    have hmembers :
        l.groupOpen.tasks.countP (Task.isMember (l.groups + 1)) = l.tasks.countP Task.isOpen := by
      rw [groupOpen_tasks, List.countP_map]
      exact List.countP_congr fun t _ => by rw [Function.comp_apply, enrolled_isMember]
    have hcount : (l.numbers Task.isOpen).length = told (l.groups + 1) ([] ++ l.ready) +
        l.groupOpen.tasks.countP (Task.isMember (l.groups + 1)) := by
      rw [length_numbers, hmembers, List.nil_append, hnone, Nat.zero_add]
    exact hcount
  newest := by simp [Loop.groupOpen, h.idle]
  entries := fun g hg => Nat.le_succ_of_le (h.entries g hg)
  members := by
    intro t ht g hg
    obtain ⟨u, hu, rfl⟩ := List.mem_map.1 ht
    split at hg
    · obtain rfl : l.groups + 1 = g := by simpa using hg
      exact Nat.le_refl _
    · exact Nat.le_succ_of_le (h.members u hu g hg)
  scheduled := by
    intro i t ht hqueued
    rw [groupOpen_tasks, List.getElem?_map, Option.map_eq_some_iff] at ht
    obtain ⟨u, hu, rfl⟩ := ht
    exact h.scheduled i u hu (enrolled_phase (l.groups + 1) u ▸ hqueued)
  known := by
    intro i hi
    rw [groupOpen_tasks, List.length_map]
    exact h.known i hi
  stops := by
    have hdue : l.groupOpen.isDue = l.isDue := by simp [isDue, Loop.groupOpen, h.idle]
    rw [hdue]
    exact h.stops
  idle := h.idle
  still := h.still

theorem Sound.cancel (h : Sound taken es l) (i : Nat) : Sound taken es (l.cancel i) := by
  unfold Loop.cancel
  split
  · rename_i t ht
    split
    · have hmarked : Sound taken es (l.setTask i { t with cancelling := true }) :=
        h.setTask ht rfl (h.scheduled i t ht)
      exact hmarked.wake i
    · exact h
  · exact h

/-- What is cancelled is still counted, and no task is over yet. -/
theorem cancel_kept (l : Loop J C V) (i : Nat) :
    (l.cancel i).awaited = l.awaited ∧ (l.cancel i).stopping = l.stopping ∧ (l.cancel i).groups = l.groups ∧
      (l.cancel i).outstanding = l.outstanding := by
  unfold cancel
  split
  · split
    · rename_i t _ _
      have hran := ran_wake (l.setTask i { t with cancelling := true }) i
      exact ⟨hran.awaited, hran.stopping.trans (Bool.or_false _), hran.groups, hran.outstanding⟩
    · simp
  · simp

theorem Resting.cancel (h : Resting taken l) (i : Nat) : Resting taken (l.cancel i) := by
  obtain ⟨hawaited, hstopping, -, -⟩ := cancel_kept l i
  exact ⟨h.toSound.cancel i, hawaited.trans h.idle, hstopping.trans h.still⟩

/-- The loop with its open tasks cancelled, as one group. -/
def cancelled (l : Loop J C V) : Loop J C V := (l.numbers Task.isOpen).foldl cancel l.groupOpen

theorem Resting.cancelled (h : Resting taken l) :
    Resting taken l.cancelled ∧ l.cancelled.outstanding = (l.numbers Task.isOpen).length := by
  refine List.foldlRecOn (motive := fun l' => Resting taken l' ∧
    l'.outstanding = (l.numbers Task.isOpen).length) _ Loop.cancel ⟨h.groupOpen, rfl⟩ ?_
  rintro l' ⟨hresting, houtstanding⟩ i -
  obtain ⟨-, -, -, hkept⟩ := cancel_kept l' i
  exact ⟨hresting.cancel i, hkept.trans houtstanding⟩

/-- The loop as it waits for its newest group. -/
def gathering (l : Loop J C V) : Loop J C V := { l with awaited := .group l.groups }

theorem Resting.gathering (h : Resting taken l) (hsome : l.outstanding ≠ 0) : Sound taken [] l.gathering where
  toFiled := { h.toFiled with newest := by simp [Loop.gathering] }
  stops := by
    have hsum := h.halts_add_taken
    have hdue : l.gathering.isDue = true := by simpa [isDue, Loop.gathering] using hsome
    rw [hdue, List.nil_append]
    have hstops : halts l.ready + 1 + taken = l.stopRequested.toNat + 1 := by omega
    exact hstops

theorem cancelAll_eq (limit : Nat) (l : Loop J C V) (s : σ) :
    cancelAll b limit l s =
      if (l.numbers Task.isOpen).isEmpty then (.ok (), l, s)
      else
        let reached := rounds b limit l.cancelled.gathering s
        (if reached.1.stopping && reached.1.outstanding == 0 then .ok ()
          else .error (notOver reached.1.stopping), reached.1.rest, reached.2) := rfl

/-- The open tasks are cancelled; a halt that comes before the last of them is over is taken. -/
theorem Resting.cancelAll (h : Resting taken l) (limit : Nat) (s : σ) :
    (Loop.cancelAll b limit l s).1 = .error .unfinished ∨
    ((Loop.cancelAll b limit l s).1 = .ok () ∧
      ∃ n, taken ≤ n ∧ Resting n (Loop.cancelAll b limit l s).2.1) ∨
    ((Loop.cancelAll b limit l s).1 = .error .stoppedEarly ∧
      Resting (taken + 1) (Loop.cancelAll b limit l s).2.1) := by
  rw [cancelAll_eq]
  split
  · exact .inr (.inl ⟨rfl, taken, Nat.le_refl _, h⟩)
  · rename_i hmembers
    obtain ⟨hcancelled, houtstanding⟩ := h.cancelled
    have hsome : l.cancelled.outstanding ≠ 0 := by
      rw [houtstanding]
      simpa using hmembers
    have hsound := hcancelled.gathering hsome
    dsimp only
    cases hstopped : (Loop.rounds b limit l.cancelled.gathering s).1.stopping with
    | false => exact .inl rfl
    | true =>
      have hrest := hsound.rounds_rest (b := b) hcancelled.still hcancelled.halts_le rfl hstopped
      have hawaited := rounds_awaited (b := b) limit l.cancelled.gathering s
      generalize Loop.rounds b limit l.cancelled.gathering s = reached at *
      have hdue : reached.1.isDue = (reached.1.outstanding != 0) := by
        rw [isDue, hawaited]
        rfl
      rw [hdue] at hrest
      by_cases hover : reached.1.outstanding = 0
      · simp only [hover] at hrest ⊢
        exact .inr (.inl ⟨rfl, _, Nat.le_add_right _ _, hrest⟩)
      · have hleft : (reached.1.outstanding == 0) = false := by simpa using hover
        rw [bne, hleft, Bool.not_false, if_pos rfl] at hrest
        rw [hleft]
        exact .inr (.inr ⟨rfl, hrest⟩)

/-- A loop is closed unless its tasks go on for ever, or a halt comes before they are over. -/
theorem Resting.closeWithin (h : Resting taken l) (limit : Nat) (s : σ) :
    (Loop.closeWithin b limit l s).1 = .error .unfinished ∨
    ((Loop.closeWithin b limit l s).1 = .ok () ∧
      ∃ l₁ n, taken ≤ n ∧ Resting n l₁ ∧ (Loop.closeWithin b limit l s).2.1 = l₁.shut) ∨
    ((Loop.closeWithin b limit l s).1 = .error .stoppedEarly ∧
      Resting (taken + 1) (Loop.closeWithin b limit l s).2.1) := by
  rw [Loop.closeWithin, if_neg (by simp [h.opened])]
  have hcancel := h.cancelAll (b := b) limit s
  generalize Loop.cancelAll b limit l s = cancelled at hcancel ⊢
  obtain ⟨result, l₁, s₁⟩ := cancelled
  dsimp only at hcancel
  obtain rfl | ⟨rfl, n, hn, hresting⟩ | ⟨rfl, hresting⟩ := hcancel
  · exact .inl rfl
  · have hcomplete := hresting.complete (b := b) 0 b.nothing s₁
    dsimp only
    generalize Loop.complete b (.turns 0 b.nothing) l₁ s₁ = completed at hcomplete ⊢
    obtain ⟨result, l₂, s₂⟩ := completed
    dsimp only at hcomplete
    obtain ⟨rfl, hrest⟩ | ⟨-, hpos, -⟩ := hcomplete
    · exact .inr (.inl ⟨rfl, l₂, _, by omega, hrest, rfl⟩)
    · exact absurd hpos (Nat.lt_irrefl 0)
  · exact .inr (.inr ⟨rfl, hresting⟩)

end MessageBus.Loop
