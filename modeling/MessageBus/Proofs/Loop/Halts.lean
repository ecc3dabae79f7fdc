import MessageBus.Proofs.Loop.Entries
/-!
The halts of a loop. A halt is queued for the one request that counts, or for the end of what is awaited;
an account of them holds in the middle of a round and is kept by each entry. Main statement: a round takes
the halts that were ready at its start and no others.
-/
namespace MessageBus.Loop

variable {σ J C V : Type}

/-- The task is a member of the group that is not over. -/
def Task.isMember (group : Nat) (t : Task J V) : Bool := t.isOpen && t.group == some group

/-- The end of what is awaited is still to come. -/
def isDue (l : Loop J C V) : Bool :=
  match l.awaited with
  | .nothing => false
  | .task i => l.tasks[i]?.any Task.isOpen
  | .group _ => l.outstanding != 0

def awaits (l : Loop J C V) : Bool := l.awaited != .nothing

/-- The books of an open loop in a round with some entries still to run: the ends that the newest group was
not told yet are all to come, each task that has a turn coming is among the entries, and no turn is for a
task that is not there. -/
structure Filed (es : List (Entry C)) (l : Loop J C V) : Prop where
  opened : l.closed = false
  outstanding : l.outstanding = told l.groups (es ++ l.ready) + l.tasks.countP (Task.isMember l.groups)
  newest : ∀ g, l.awaited = .group g → g = l.groups
  entries : ∀ g, .collect g ∈ es ++ l.ready → g ≤ l.groups
  members : ∀ t ∈ l.tasks, ∀ g ∈ t.group, g ≤ l.groups
  scheduled : ∀ i t, l.tasks[i]? = some t → t.phase = .queued → .resume i ∈ es ++ l.ready
  known : ∀ i, .resume i ∈ es ++ l.ready → i < l.tasks.length

/-- The account of the halts: what is queued, due and taken is what was asked for. -/
structure Sound (taken : Nat) (es : List (Entry C)) (l : Loop J C V) : Prop extends Filed es l where
  stops : halts (es ++ l.ready) + l.isDue.toNat + taken = l.stopRequested.toNat + l.awaits.toNat

variable {b : Behaviour σ J C V} {l l' : Loop J C V} {e : Entry C} {es fs : List (Entry C)}
  {i taken g : Nat} {t t' : Task J V} {p : Phase V}

theorem any_isOpen_eq (l : Loop J C V) (i : Nat) :
    l.tasks[i]?.any Task.isOpen = l.standing[i]?.any (·.1) := by
  cases ht : l.tasks[i]? <;> simp [standing, ht]

theorem countP_isMember (l : Loop J C V) (g : Nat) :
    l.tasks.countP (Task.isMember g) = l.standing.countP fun x => x.1 && x.2 == some g := by
  rw [standing, List.countP_map]
  rfl

theorem isDue_congr (hawaited : l'.awaited = l.awaited) (houtstanding : l'.outstanding = l.outstanding)
    (hstanding : l'.standing = l.standing) : l'.isDue = l.isDue := by
  simp only [isDue, any_isOpen_eq, hawaited, houtstanding, hstanding]

theorem halts_push (l : Loop J C V) (e : Entry C) :
    halts (es ++ (l.push e).ready) = halts (es ++ l.ready) + halts [e] := by
  rw [Loop.push, ← List.append_assoc, halts_append]

theorem told_push (l : Loop J C V) (e : Entry C) :
    told g (es ++ (l.push e).ready) = told g (es ++ l.ready) + told g [e] := by
  rw [Loop.push, ← List.append_assoc, told_append]

theorem mem_push {f : Entry C} (l : Loop J C V) :
    f ∈ es ++ (l.push e).ready ↔ f ∈ es ++ l.ready ∨ f = e := by
  rw [Loop.push, ← List.append_assoc, List.mem_append, List.mem_singleton]

theorem Filed.push (h : Filed es l) (he : ∀ g, e ≠ .collect g)
    (hknown : ∀ i, e = .resume i → i < l.tasks.length) : Filed es (l.push e) where
  opened := h.opened
  outstanding := by
    have hnone : told l.groups [e] = 0 := by cases e <;> simp_all [told, Entry.tells]
    rw [told_push, show (l.push e).groups = l.groups from rfl, hnone, Nat.add_zero]
    exact h.outstanding
  newest := h.newest
  entries := fun g hg => h.entries g (((mem_push l).1 hg).resolve_right fun heq => he g heq.symm)
  members := h.members
  scheduled := fun i t ht hqueued => (mem_push l).2 (.inl (h.scheduled i t ht hqueued))
  known := fun i hi => ((mem_push l).1 hi).elim (h.known i) fun heq => hknown i heq.symm

theorem Sound.push (h : Sound taken es l) (he : e.isPlain = true)
    (hknown : ∀ i, e = .resume i → i < l.tasks.length) : Sound taken es (l.push e) where
  toFiled := by
    refine h.toFiled.push (fun g hg => ?_) hknown
    simp [hg, Entry.isPlain] at he
  stops := by
    rw [halts_push, halts_plain he, Nat.add_zero]
    exact h.stops

/-- A request that is the first one queues its halt. -/
theorem Sound.requestStop (h : Sound taken es l) : Sound taken es l.requestStop := by
  unfold Loop.requestStop
  split
  · exact h
  · rename_i hfirst
    rw [if_neg (by simp [h.opened])]
    have hfiled := h.toFiled.push (e := .halt) (by simp) (by simp)
    refine ⟨{ hfiled with }, ?_⟩
    have hhalts : halts (es ++ (l.push .halt).ready) + l.isDue.toNat + taken = 1 + l.awaits.toNat := by
      have hstops := h.stops
      simp only [hfirst, Bool.toNat_false] at hstops
      rw [halts_push, halts_halt]
      omega
    exact hhalts

theorem Filed.setTask (h : Filed es l) (ht : l.tasks[i]? = some t)
    (hsame : (t'.isOpen, t'.group) = (t.isOpen, t.group))
    (hturn : t'.phase = .queued → .resume i ∈ es ++ l.ready) : Filed es (l.setTask i t') := by
  refine { h with outstanding := ?_, members := ?_, scheduled := ?_, known := ?_ }
  · rw [countP_isMember, standing_setTask ht hsame, ← countP_isMember]
    exact h.outstanding
  · intro u hu g hg
    obtain hu | rfl := List.mem_or_eq_of_mem_set hu
    · exact h.members u hu g hg
    · exact h.members t (List.mem_of_getElem? ht) g ((Prod.mk.inj hsame).2 ▸ hg)
  · intro j u hu hqueued
    by_cases hij : i = j
    · subst hij
      obtain rfl := Option.some.inj ((task_setTask ht).symm.trans hu)
      exact hturn hqueued
    · rw [Loop.setTask, List.getElem?_set_ne hij] at hu
      exact h.scheduled j u hu hqueued
  · intro j hj
    rw [Loop.setTask, List.length_set]
    exact h.known j hj

theorem Sound.setTask (h : Sound taken es l) (ht : l.tasks[i]? = some t)
    (hsame : (t'.isOpen, t'.group) = (t.isOpen, t.group))
    (hturn : t'.phase = .queued → .resume i ∈ es ++ l.ready) : Sound taken es (l.setTask i t') := by
  have hdue : (l.setTask i t').isDue = l.isDue := isDue_congr rfl rfl (standing_setTask ht hsame)
  refine ⟨h.toFiled.setTask ht hsame hturn, ?_⟩
  rw [hdue]
  exact h.stops

theorem Sound.wake (h : Sound taken es l) (i : Nat) : Sound taken es (l.wake i) := by
  unfold Loop.wake
  split
  · rename_i t ht
    split
    · rename_i gate hphase
      have hpushed := h.push (e := .resume i) rfl (by simp [(List.getElem?_eq_some_iff.1 ht).1])
      refine hpushed.setTask ht ?_ fun _ => ?_
      · simp [Task.isOpen, hphase]
      · simp [Loop.push]
    · exact h
  · exact h

theorem Sound.deliver (h : Sound taken es l) (signal : Signal) : Sound taken es (l.deliver signal) :=
  { h with }

theorem Sound.serveRequest (h : Sound taken es l) (r : Request C) : Sound taken es (l.serveRequest r) := by
  cases r with
  | stop => exact h.requestStop
  | deliver signal => exact h.deliver signal
  | openGate gate => exact List.foldlRecOn _ _ h fun _ h i _ => h.wake i
  | call c => exact h.push rfl (by simp)

theorem Sound.requests (h : Sound taken es l) (rs : List (Request C)) :
    Sound taken es (rs.foldl Loop.serveRequest l) :=
  List.foldlRecOn _ _ h fun _ h r _ => h.serveRequest r

/-- An entry is taken from those still to run. -/
theorem Filed.drop (h : Filed (e :: es) l) (htold : told l.groups [e] = 0)
    (hturn : ∀ i t, e = .resume i → l.tasks[i]? = some t → t.phase = .queued → e ∈ es ++ l.ready) :
    Filed es l where
  opened := h.opened
  outstanding := by
    have houtstanding := h.outstanding
    rwa [List.cons_append, told_cons, htold, Nat.zero_add] at houtstanding
  newest := h.newest
  entries := fun g hg => h.entries g (.tail _ hg)
  members := h.members
  scheduled := by
    intro i t ht hqueued
    obtain rfl | hmem := List.mem_cons.1 (h.scheduled i t ht hqueued)
    · exact hturn i t rfl ht hqueued
    · exact hmem
  known := fun i hi => h.known i (.tail _ hi)

theorem Sound.drop (h : Sound taken (e :: es) l) (he : e.isPlain = true)
    (hturn : ∀ i t, e = .resume i → l.tasks[i]? = some t → t.phase = .queued → e ∈ es ++ l.ready) :
    Sound taken es l := by
  refine ⟨h.toFiled.drop (told_plain he _) hturn, ?_⟩
  have hstops := h.stops
  rwa [List.cons_append, halts_cons, halts_plain he, Nat.zero_add] at hstops

theorem halts_notices (l : Loop J C V) (i : Nat) (t : Task J V) :
    halts (l.notices i t) = if l.awaited = .task i then 1 else 0 := by
  unfold notices
  split <;> cases t.group <;> rfl

theorem told_notices (l : Loop J C V) (i : Nat) (t : Task J V) (g : Nat) :
    told g (l.notices i t) = if t.group = some g then 1 else 0 := by
  unfold notices
  split <;> cases t.group <;> simp [told, Entry.tells, List.countP_cons]

theorem resume_notMem_notices : .resume g ∉ l.notices i t := by
  unfold notices
  split <;> cases t.group <;> simp

theorem collect_mem_notices : .collect g ∈ l.notices i t ↔ t.group = some g := by
  unfold notices
  split <;> cases t.group <;> simp [eq_comm]

/-- The member that ends is one of those that are counted. -/
theorem countP_isMember_set (ht : l.tasks[i]? = some t) (hopen : t.isOpen = true)
    (hover : t'.isOpen = false) :
    l.tasks.countP (Task.isMember g) =
      (l.tasks.set i t').countP (Task.isMember g) + if t.group = some g then 1 else 0 := by
  obtain ⟨hi, rfl⟩ := List.getElem?_eq_some_iff.1 ht
  have hover' : Task.isMember g t' = false := by simp [Task.isMember, hover]
  rw [List.countP_set hi, hover']
  by_cases hgroup : l.tasks[i].group = some g
  · have hmember : Task.isMember g l.tasks[i] = true := by simp [Task.isMember, hopen, hgroup]
    have hpos := List.countP_pos_iff.2 ⟨_, List.getElem_mem hi, hmember⟩
    simp only [hmember, hgroup, if_true, Bool.false_eq_true, if_false]
    omega
  · simp [Task.isMember, hgroup]

/-- The end of a task is due until it comes. -/
theorem isDue_setTask_over (ht : l.tasks[i]? = some t) (hopen : t.isOpen = true) (hover : t'.isOpen = false) :
    l.isDue.toNat = (l.setTask i t').isDue.toNat + if l.awaited = .task i then 1 else 0 := by
  cases hawaited : l.awaited with
  | nothing => simp [isDue, Loop.setTask, hawaited]
  | group g => simp [isDue, Loop.setTask, hawaited]
  | task j =>
    by_cases hij : i = j
    · subst hij
      obtain ⟨hi, rfl⟩ := List.getElem?_eq_some_iff.1 ht
      simp [isDue, Loop.setTask, hawaited, hi, hopen, hover]
    · have hji : j ≠ i := Ne.symm hij
      simp [isDue, Loop.setTask, hawaited, List.getElem?_set_ne hij, hji]

theorem Filed.finish (h : Filed es l) (ht : l.tasks[i]? = some t) (hopen : t.isOpen = true)
    (hover : t'.isOpen = false) (hgroup : t'.group = t.group) :
    Filed es { l.setTask i t' with ready := l.ready ++ l.notices i t' } where
  opened := h.opened
  outstanding := by
    have htold : l.outstanding = told l.groups (es ++ (l.ready ++ l.notices i t')) +
        (l.tasks.set i t').countP (Task.isMember l.groups) := by
      have houtstanding := h.outstanding
      have hmembers := countP_isMember_set (g := l.groups) ht hopen hover
      simp only [told_append, told_notices, hgroup] at houtstanding ⊢
      omega
    exact htold
  newest := h.newest
  entries := by
    intro g hg
    simp only [← List.append_assoc] at hg
    obtain hg | hg := List.mem_append.1 hg
    · exact h.entries g hg
    · exact h.members t (List.mem_of_getElem? ht) g (hgroup ▸ collect_mem_notices.1 hg)
  members := by
    intro u hu g hg
    obtain hu | rfl := List.mem_or_eq_of_mem_set hu
    · exact h.members u hu g hg
    · exact h.members t (List.mem_of_getElem? ht) g (hgroup ▸ hg)
  scheduled := by
    intro j u hu hqueued
    simp only [← List.append_assoc]
    refine List.mem_append_left _ (h.scheduled j u ?_ hqueued)
    have hne : i ≠ j := by
      rintro rfl
      obtain rfl := Option.some.inj ((task_setTask ht).symm.trans hu)
      simp [Task.isOpen, hqueued] at hover
    rwa [Loop.setTask, List.getElem?_set_ne hne] at hu
  known := by
    intro j hj
    simp only [← List.append_assoc] at hj
    rw [Loop.setTask, List.length_set]
    exact h.known j ((List.mem_append.1 hj).resolve_right resume_notMem_notices)

/-- A task that was not over ends, and who waits for it is told. -/
theorem Sound.finish (h : Sound taken es l) (ht : l.tasks[i]? = some t) (hopen : t.isOpen = true)
    (hgroup : t'.group = t.group)
    (hover : Task.isOpen { t' with phase := p, started := true, cancelling := false } = false) :
    Sound taken es (l.finish i t' p) := by
  rw [finish_eq]
  refine ⟨h.toFiled.finish ht hopen hover hgroup, ?_⟩
  have hhalts : halts (es ++ (l.ready ++ l.notices i t')) +
      (l.setTask i { t' with phase := p, started := true, cancelling := false }).isDue.toNat + taken =
      l.stopRequested.toNat + l.awaits.toNat := by
    have hstops := h.stops
    have hdue := isDue_setTask_over ht hopen hover
    simp only [halts_append, halts_notices] at hstops ⊢
    omega
  exact hhalts

/-- The end of a member was told to a group that is not the newest one. -/
theorem Sound.collectOld (h : Sound taken (.collect g :: es) l) (hold : g ≠ l.groups) : Sound taken es l :=
  ⟨h.toFiled.drop (told_collect_ne hold) (by simp), h.stops⟩

/-- The end of a member was told to the newest group. -/
theorem Filed.collectNew (h : Filed (.collect l.groups :: es) l) :
    0 < l.outstanding ∧ Filed es { l with outstanding := l.outstanding - 1 } := by
  have houtstanding := h.outstanding
  rw [List.cons_append, told_cons, told_collect_self] at houtstanding
  refine ⟨by omega, h.opened, ?_, h.newest, fun g hg => h.entries g (.tail _ hg), h.members, ?_, ?_⟩
  · dsimp only
    omega
  · exact fun i t ht hqueued => (List.mem_cons.1 (h.scheduled i t ht hqueued)).resolve_left (by simp)
  · exact fun i hi => h.known i (.tail _ hi)

/-- The last end of a member that is awaited becomes a halt. -/
theorem Sound.collect (h : Sound taken (.collect g :: es) l) : Sound taken es (l.collect g) := by
  unfold Loop.collect
  split
  · rename_i hnewest
    subst hnewest
    obtain ⟨hpos, hfiled⟩ := h.toFiled.collectNew
    have hstops : halts (es ++ l.ready) + l.isDue.toNat + taken = l.stopRequested.toNat + l.awaits.toNat :=
      h.stops
    dsimp only
    split
    · rename_i hlast
      obtain ⟨hnone, hawaited⟩ := hlast
      refine ⟨hfiled.push (by simp) (by simp), ?_⟩
      rw [halts_push]
      have hdue : isDue ({ l with outstanding := l.outstanding - 1 }.push .halt) = false := by
        simp [isDue, Loop.push, hawaited, hnone]
      have hwas : l.isDue = true := by simp [isDue, hawaited, Nat.ne_of_gt hpos]
      rw [hdue, halts_halt]
      rw [hwas] at hstops
      simp only [Bool.toNat_true, Bool.toNat_false] at hstops ⊢
      exact Eq.trans (by omega) hstops
    · refine ⟨hfiled, ?_⟩
      rename_i hmore
      have hdue : isDue { l with outstanding := l.outstanding - 1 } = l.isDue := by
        cases hawaited : l.awaited with
        | nothing => simp [isDue, hawaited]
        | task i => simp [isDue, hawaited]
        | group g =>
          obtain rfl := h.newest g hawaited
          have hsome : l.outstanding - 1 ≠ 0 := fun hnone => hmore ⟨hnone, hawaited⟩
          simp only [isDue, hawaited, bne_iff_ne.2 hsome, bne_iff_ne.2 (Nat.ne_of_gt hpos)]
      rw [hdue]
      exact hstops
  · rename_i hold
    exact h.collectOld hold

theorem Sound.pushCalls (h : Sound taken es l) (cs : List C) :
    Sound taken es { l with ready := l.ready ++ cs.map .call } := by
  induction cs generalizing l with
  | nil => simpa using h
  | cons c cs ih =>
    have hrest := ih (h.push (e := .call c) rfl (by simp))
    simpa [Loop.push] using hrest

theorem Sound.readPipe (h : Sound taken es l) : Sound taken es l.readPipe :=
  { h.pushCalls (l.delivered.filterMap (l.handlers.lookup ·)) with }

/-- Requests leave each task as far from its end as it was. -/
theorem task_of_standing (h : l'.standing = l.standing) (ht : l.tasks[i]? = some t) :
    ∃ t', l'.tasks[i]? = some t' ∧ t'.isOpen = t.isOpen ∧ t'.group = t.group := by
  have hget := congrArg (·[i]?) h
  simp only [standing, List.getElem?_map, ht, Option.map_some, Option.map_eq_some_iff, Prod.mk.injEq] at hget
  exact hget

theorem Sound.finishTurn (h : Sound taken (.resume i :: es) l) (ht : l.tasks[i]? = some t)
    (hopen : t.isOpen = true) (hgroup : t'.group = t.group)
    (hover : Task.isOpen { t' with phase := p, started := true, cancelling := false } = false) :
    Sound taken es (l.finish i t' p) := by
  refine (h.finish ht hopen hgroup hover).drop rfl fun j u hj hu hqueued => ?_
  obtain rfl := Entry.resume.inj hj
  rw [finish_eq] at hu
  obtain rfl := Option.some.inj ((task_setTask ht).symm.trans hu)
  simp [Task.isOpen, show p = .queued from hqueued] at hover

theorem Sound.resume (h : Sound taken (.resume i :: es) l) (s : σ) :
    Sound taken es (Loop.resume b l s i).1 := by
  have htook := resume_took (b := b) l s i
  generalize (Loop.resume b l s i).1 = l' at htook ⊢
  cases htook with
  | nothing hover =>
    refine h.drop rfl fun j u hj hu hqueued => ?_
    obtain rfl := Entry.resume.inj hj
    have hclosed := hover u hu
    simp [Task.isOpen, hqueued] at hclosed
  | ends requests ht hopen hover =>
    obtain ⟨u, hu, huopen, hugroup⟩ := task_of_standing (standing_requests l requests) ht
    exact (h.requests requests).finishTurn hu (huopen.trans hopen) hugroup.symm hover
  | @waits t t' gate requests ht hopen hwaits hgroup =>
    obtain ⟨u, hu, huopen, hugroup⟩ := task_of_standing (standing_requests l requests) ht
    have hwaiting : t'.isOpen = true := by simp [Task.isOpen, hwaits]
    have hsame : (t'.isOpen, t'.group) = (u.isOpen, u.group) := by
      rw [hwaiting, hgroup, huopen, hopen, hugroup]
    refine ((h.requests requests).setTask hu hsame ?_).drop rfl fun j v hj hv hqueued => ?_
    · simp [hwaits]
    · obtain rfl := Entry.resume.inj hj
      obtain rfl := Option.some.inj ((task_setTask hu).symm.trans hv)
      simp [hwaits] at hqueued
  | @givesWay t t' ht hopen hphase hgroup =>
    -- the next turn of the task is behind what is ready
    have hpushed := h.push (e := .resume i) rfl (by simp [(List.getElem?_eq_some_iff.1 ht).1])
    have hsame : (t'.isOpen, t'.group) = (t.isOpen, t.group) := by simp [Task.isOpen, hphase, hgroup]
    refine (hpushed.setTask ht hsame fun _ => .head _).drop rfl fun j u hj _ _ => ?_
    obtain rfl := Entry.resume.inj hj
    exact (mem_push l).2 (.inr rfl)

/-- An entry that is run is taken if it is a halt. -/
theorem Sound.perform (h : Sound taken (e :: es) l) (s : σ) :
    Sound (taken + halts [e]) es (Loop.perform b (l, s) e).1 := by
  cases e with
  | halt =>
    have hfiled := h.toFiled.drop (told_halt l.groups) (by simp)
    have hstops := h.stops
    rw [List.cons_append, halts_cons] at hstops
    exact ⟨{ hfiled with }, Eq.trans (by dsimp only [Loop.perform, isDue]; omega) hstops⟩
  | readPipe => exact (h.drop rfl (by simp)).readPipe
  | resume i => exact h.resume s
  | call c => exact (h.drop rfl (by simp)).requests _
  | collect g => exact h.collect

theorem Sound.performAll (h : Sound taken (es ++ fs) l) (s : σ) :
    Sound (taken + halts es) fs (es.foldl (Loop.perform b) (l, s)).1 := by
  induction es generalizing taken l s with
  | nil => exact h
  | cons e es ih =>
    rw [halts_cons, ← Nat.add_assoc]
    exact ih (h.perform s) _

end MessageBus.Loop
