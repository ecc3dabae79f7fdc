import MessageBus.Loop.Round
/-!
What entries do to a loop, and what they leave alone. Main statement: the entries of a round, run one after
the other, stop the loop if one of them is a halt, tell the newest group of the ends that they stand for,
and leave tasks alone that are over or whose turn is not among them.
-/
namespace MessageBus.Loop

variable {σ J C V : Type}

def Entry.isHalt : Entry C → Bool
  | .halt => true
  | _ => false

def halts (es : List (Entry C)) : Nat := es.countP Entry.isHalt

/-- The entry tells the group of an end. -/
def Entry.tells (group : Nat) : Entry C → Bool
  | .collect g => g == group
  | _ => false

/-- How many ends of members the entries will tell the group. -/
def told (group : Nat) (es : List (Entry C)) : Nat := es.countP (Entry.tells group)

/-- Entries that neither halt the loop nor tell a group of an end. -/
def Entry.isPlain : Entry C → Bool
  | .halt | .collect _ => false
  | _ => true

/-- Which tasks are not over, and the groups of all. -/
def standing (l : Loop J C V) : List (Bool × Option Nat) := l.tasks.map fun t => (t.isOpen, t.group)

/-- Entries were run: what is awaited is as it was, the newest group was told of the ends that they tell,
and the loop is stopping if one of them was a halt. A task that was over stays as it was, and so does one
that had a turn coming which is not among the entries. -/
structure Ran (es : List (Entry C)) (l l' : Loop J C V) : Prop where
  closed : l'.closed = l.closed
  awaited : l'.awaited = l.awaited
  groups : l'.groups = l.groups
  outstanding : l'.outstanding = l.outstanding - told l.groups es
  stopping : l'.stopping = (l.stopping || es.any Entry.isHalt)
  requested : l.stopRequested = true → l'.stopRequested = true
  length : l'.tasks.length = l.tasks.length
  tasks : ∀ i t, l.tasks[i]? = some t → t.isOpen = false ∨ t.phase = .queued ∧ .resume i ∉ es →
    l'.tasks[i]? = some t

/-- What the turn of a task makes of the loop. The requests of a job are served before it goes on. -/
inductive Took (l : Loop J C V) (i : Nat) : Loop J C V → Prop
  | nothing (hover : ∀ t, l.tasks[i]? = some t → t.isOpen = false) : Took l i l
  | ends {t p} (requests : List (Request C)) (ht : l.tasks[i]? = some t) (hopen : t.isOpen = true)
    (hover : Task.isOpen { t with phase := p, started := true, cancelling := false } = false) :
    Took l i ((requests.foldl serveRequest l).finish i t p)
  | waits {t t' gate} (requests : List (Request C)) (ht : l.tasks[i]? = some t) (hopen : t.isOpen = true)
    (hwaits : t'.phase = .waiting gate) (hgroup : t'.group = t.group) :
    Took l i ((requests.foldl serveRequest l).setTask i t')
  | givesWay {t t'} (ht : l.tasks[i]? = some t) (hopen : t.isOpen = true) (hphase : t'.phase = t.phase)
    (hgroup : t'.group = t.group) : Took l i ((l.setTask i t').push (.resume i))

variable {b : Behaviour σ J C V} {l l' : Loop J C V} {e : Entry C} {es fs : List (Entry C)} {i : Nat}
  {t t' : Task J V}

@[simp] theorem halts_append (es fs : List (Entry C)) : halts (es ++ fs) = halts es + halts fs :=
  List.countP_append

@[simp] theorem told_append (g : Nat) (es fs : List (Entry C)) : told g (es ++ fs) = told g es + told g fs :=
  List.countP_append

theorem halts_cons (e : Entry C) (es : List (Entry C)) : halts (e :: es) = halts [e] + halts es :=
  halts_append [e] es

theorem told_cons (g : Nat) (e : Entry C) (es : List (Entry C)) :
    told g (e :: es) = told g [e] + told g es :=
  told_append g [e] es

@[simp] theorem halts_halt : halts [.halt (C := C)] = 1 := rfl

@[simp] theorem told_halt (g : Nat) : told g [.halt (C := C)] = 0 := rfl

theorem told_collect_self (g : Nat) : told g [.collect g (C := C)] = 1 := by
  simp [told, Entry.tells]

theorem told_collect_ne {g k : Nat} (h : g ≠ k) : told k [.collect g (C := C)] = 0 := by
  simp [told, Entry.tells, h]

theorem halts_pos : 0 < halts es ↔ .halt ∈ es := by
  rw [halts, List.countP_pos_iff]
  constructor
  · rintro ⟨e, he, hhalt⟩
    cases e <;> simp [Entry.isHalt] at hhalt
    exact he
  · exact fun h => ⟨_, h, rfl⟩

theorem halts_plain (h : e.isPlain = true) : halts [e] = 0 := by
  cases e <;> simp_all [halts, Entry.isPlain, Entry.isHalt]

theorem told_plain (h : e.isPlain = true) (g : Nat) : told g [e] = 0 := by
  cases e <;> simp_all [told, Entry.isPlain, Entry.tells]

theorem Ran.refl (l : Loop J C V) : Ran [] l l where
  closed := rfl
  awaited := rfl
  groups := rfl
  outstanding := rfl
  stopping := by simp
  requested := id
  length := rfl
  tasks := fun _ _ ht _ => ht

theorem Ran.trans {l₁ : Loop J C V} (h : Ran es l l₁) (h' : Ran fs l₁ l') : Ran (es ++ fs) l l' where
  closed := h'.closed.trans h.closed
  awaited := h'.awaited.trans h.awaited
  groups := h'.groups.trans h.groups
  outstanding := by rw [h'.outstanding, h.outstanding, h.groups, told_append, Nat.sub_sub]
  stopping := by rw [h'.stopping, h.stopping, List.any_append, Bool.or_assoc]
  requested := fun hr => h'.requested (h.requested hr)
  length := h'.length.trans h.length
  tasks := by
    intro i t ht hkept
    simp only [List.mem_append, not_or, ← and_assoc] at hkept
    refine h'.tasks i t (h.tasks i t ht ?_) ?_
    · exact hkept.imp id (·.1)
    · exact hkept.imp id fun h => ⟨h.1.1, h.2⟩

theorem Ran.requested_le (h : Ran es l l') : l.stopRequested.toNat ≤ l'.stopRequested.toNat := by
  cases hasked : l.stopRequested with
  | false => exact Nat.zero_le _
  | true => exact Nat.le_of_eq (by rw [h.requested hasked])

/-- A plain entry may be counted in. -/
theorem Ran.weaken (h : Ran es l l') (e : Entry C) (he : e.isPlain = true) : Ran (e :: es) l l' where
  closed := h.closed
  awaited := h.awaited
  groups := h.groups
  outstanding := by rw [h.outstanding, told_cons, told_plain he, Nat.zero_add]
  stopping := by
    rw [h.stopping]
    cases e <;> simp_all [Entry.isPlain, Entry.isHalt]
  requested := h.requested
  length := h.length
  tasks := by
    refine fun i t ht hkept => h.tasks i t ht (hkept.imp id fun hqueued => ?_)
    exact ⟨hqueued.1, fun hmem => hqueued.2 (.tail _ hmem)⟩

theorem ran_push (l : Loop J C V) (e : Entry C) : Ran [] l (l.push e) :=
  { Ran.refl l with }

theorem ran_deliver (l : Loop J C V) (signal : Signal) : Ran [] l (l.deliver signal) :=
  { Ran.refl l with }

theorem ran_requestStop (l : Loop J C V) : Ran [] l l.requestStop := by
  unfold requestStop
  split
  · exact Ran.refl l
  · split
    · exact { Ran.refl l with requested := fun _ => rfl }
    · exact { Ran.refl l with requested := fun _ => rfl }

/-- A task that waits may be set to anything. -/
theorem ran_setTask_waiting {gate : Nat} (ht : l.tasks[i]? = some t) (hwaiting : t.phase = .waiting gate)
    (t' : Task J V) : Ran [] l (l.setTask i t') := by
  refine { Ran.refl l with length := by simp [setTask], tasks := ?_ }
  intro j u hu hkept
  have hne : i ≠ j := by
    rintro rfl
    obtain rfl := Option.some.inj (ht.symm.trans hu)
    simp [Task.isOpen, hwaiting] at hkept
  rwa [setTask, List.getElem?_set_ne hne]

theorem ran_wake (l : Loop J C V) (i : Nat) : Ran [] l (l.wake i) := by
  unfold wake
  split
  · rename_i t ht
    split
    · rename_i gate hphase
      exact (ran_setTask_waiting ht hphase _).trans (ran_push _ _)
    · exact Ran.refl l
  · exact Ran.refl l

theorem standing_setTask (ht : l.tasks[i]? = some t) (h : (t'.isOpen, t'.group) = (t.isOpen, t.group)) :
    (l.setTask i t').standing = l.standing := by
  have hset : (l.tasks.map fun t => (t.isOpen, t.group))[i]? = some (t.isOpen, t.group) := by simp [ht]
  obtain ⟨hi, hget⟩ := List.getElem?_eq_some_iff.1 hset
  rw [standing, setTask, List.map_set, h, ← hget, List.set_getElem_self]
  rfl

theorem task_setTask (ht : l.tasks[i]? = some t) : (l.setTask i t').tasks[i]? = some t' := by
  simp [setTask, (List.getElem?_eq_some_iff.1 ht).1]

theorem ran_foldl {α : Type} {f : Loop J C V → α → Loop J C V} (h : ∀ l a, Ran [] l (f l a))
    (as : List α) (l : Loop J C V) : Ran [] l (as.foldl f l) := by
  induction as generalizing l with
  | nil => exact Ran.refl l
  | cons a as ih => exact (h l a).trans (ih _)

theorem ran_openGate (l : Loop J C V) (gate : Nat) : Ran [] l (l.openGate gate) := ran_foldl ran_wake _ l

theorem ran_serveRequest (l : Loop J C V) (r : Request C) : Ran [] l (l.serveRequest r) := by
  cases r with
  | stop => exact ran_requestStop l
  | deliver signal => exact ran_deliver l signal
  | openGate gate => exact ran_openGate l gate
  | call c => exact ran_push l (.call c)

theorem standing_wake (l : Loop J C V) (i : Nat) : (l.wake i).standing = l.standing := by
  unfold wake
  split
  · rename_i t ht
    split
    · rename_i gate hphase
      refine standing_setTask ht ?_
      simp [Task.isOpen, hphase]
    · rfl
  · rfl

theorem standing_serveRequest (l : Loop J C V) (r : Request C) :
    (l.serveRequest r).standing = l.standing := by
  cases r with
  | stop =>
    rw [serveRequest, requestStop]
    split
    · rfl
    · split <;> rfl
  | deliver signal | call c => rfl
  | openGate gate =>
    refine List.foldlRecOn (motive := fun l' : Loop J C V => l'.standing = l.standing) _ wake rfl ?_
    exact fun l' h i _ => (standing_wake l' i).trans h

theorem standing_requests (l : Loop J C V) (rs : List (Request C)) :
    (rs.foldl serveRequest l).standing = l.standing := by
  refine List.foldlRecOn (motive := fun l' : Loop J C V => l'.standing = l.standing) _ serveRequest rfl ?_
  exact fun l' h r _ => (standing_serveRequest l' r).trans h

/-- A task that is not over may be set to anything in its turn. -/
theorem Ran.setTask (h : Ran [] l l') (ht : l.tasks[i]? = some t) (hopen : t.isOpen = true)
    (t' : Task J V) : Ran [.resume i] l (l'.setTask i t') := by
  refine { h.weaken (.resume i) rfl with length := by simpa [Loop.setTask] using h.length, tasks := ?_ }
  intro j u hu hkept
  have hne : i ≠ j := by
    rintro rfl
    obtain rfl := Option.some.inj (ht.symm.trans hu)
    simp [hopen] at hkept
  rw [Loop.setTask, List.getElem?_set_ne hne]
  exact h.tasks j u hu (hkept.imp id fun h => ⟨h.1, by simp⟩)

/-- Who is told of the end of a task. -/
def notices (l : Loop J C V) (i : Nat) (t : Task J V) : List (Entry C) :=
  (if l.awaited = .task i then [.halt] else []) ++ t.group.toList.map .collect

theorem announceEnd_eq (l : Loop J C V) (i : Nat) (t : Task J V) :
    l.announceEnd i t = { l with ready := l.ready ++ l.notices i t } := by
  unfold announceEnd notices
  split <;> cases t.group <;> simp [push]

theorem finish_eq (l : Loop J C V) (i : Nat) (t : Task J V) (p : Phase V) :
    l.finish i t p =
      { l.setTask i { t with phase := p, started := true, cancelling := false } with
        ready := l.ready ++ l.notices i t } :=
  announceEnd_eq ..

theorem task_finish (ht : l.tasks[i]? = some t) (t' : Task J V) (p : Phase V) :
    (l.finish i t' p).tasks[i]? = some { t' with phase := p, started := true, cancelling := false } := by
  rw [finish_eq]
  exact task_setTask ht

theorem Ran.finish (h : Ran [] l l') (ht : l.tasks[i]? = some t) (hopen : t.isOpen = true) (p : Phase V) :
    Ran [.resume i] l (l'.finish i t p) := by
  rw [finish_eq]
  exact { h.setTask ht hopen _ with }

theorem resume_took (l : Loop J C V) (s : σ) (i : Nat) : Took l i (resume b l s i).1 := by
  unfold resume
  split
  · rename_i hnone
    exact .nothing fun t ht => by simp [hnone] at ht
  · rename_i t ht
    split
    · rename_i hopen
      have hcancelled : Took l i (l.finish i t .cancelled) := .ends [] ht hopen rfl
      split
      · exact hcancelled
      · split
        · split
          · exact hcancelled
          · split
            · exact .ends [] ht hopen rfl
            · exact .givesWay ht hopen rfl rfl
        · dsimp only
          split
          · exact .waits _ ht hopen rfl rfl
          · exact .ends _ ht hopen rfl
          · exact .ends _ ht hopen rfl
    · rename_i hover
      refine .nothing fun u hu => ?_
      obtain rfl := Option.some.inj (ht.symm.trans hu)
      simpa using hover

theorem ran_resume (l : Loop J C V) (s : σ) (i : Nat) : Ran [.resume i] l (resume b l s i).1 := by
  have htook := resume_took (b := b) l s i
  generalize (resume b l s i).1 = l' at htook ⊢
  cases htook with
  | nothing => exact (Ran.refl l).weaken _ rfl
  | ends requests ht hopen => exact (ran_foldl ran_serveRequest requests l).finish ht hopen _
  | waits requests ht hopen => exact (ran_foldl ran_serveRequest requests l).setTask ht hopen _
  | givesWay ht hopen => exact ((Ran.refl l).setTask ht hopen _).trans (ran_push _ _)

theorem ran_collect (l : Loop J C V) (g : Nat) : Ran [.collect g] l (l.collect g) := by
  unfold collect
  split
  · rename_i hnewest
    subst hnewest
    have htold : l.outstanding - 1 = l.outstanding - told l.groups [.collect l.groups (C := C)] := by
      rw [told_collect_self]
    dsimp only
    split <;> exact { Ran.refl l with outstanding := htold, tasks := fun _ _ ht _ => ht }
  · rename_i hold
    exact { Ran.refl l with
      outstanding := by rw [told_collect_ne hold, Nat.sub_zero], tasks := fun _ _ ht _ => ht }

theorem ran_perform (l : Loop J C V) (s : σ) (e : Entry C) : Ran [e] l (perform b (l, s) e).1 := by
  cases e with
  | halt =>
    exact { Ran.refl l with stopping := by simp [perform, Entry.isHalt], tasks := fun _ _ ht _ => ht }
  | readPipe => exact ((show Ran [] l l.readPipe from { Ran.refl l with })).weaken _ rfl
  | resume i => exact ran_resume l s i
  | call c => exact (ran_foldl ran_serveRequest (b.call c s).1 l).weaken _ rfl
  | collect g => exact ran_collect l g

/-- The entries of a round, one after the other. -/
theorem ran_performAll (es : List (Entry C)) (l : Loop J C V) (s : σ) :
    Ran es l (es.foldl (perform b) (l, s)).1 := by
  induction es generalizing l s with
  | nil => exact Ran.refl l
  | cons e es ih => exact (ran_perform l s e).trans (ih _ _)

/-! ### What stays ready -/

theorem mem_ready_wake (h : e ∈ l.ready) (i : Nat) : e ∈ (l.wake i).ready := by
  unfold wake
  split
  · split
    · exact List.mem_append_left _ h
    · exact h
  · exact h

theorem mem_ready_serveRequest (h : e ∈ l.ready) (r : Request C) : e ∈ (l.serveRequest r).ready := by
  cases r with
  | stop =>
    unfold serveRequest requestStop
    dsimp only
    split
    · exact h
    · split
      · exact h
      · exact List.mem_append_left _ h
  | deliver signal => exact h
  | openGate gate =>
    exact List.foldlRecOn (motive := fun l' : Loop J C V => e ∈ l'.ready) _ wake h
      fun _ hl i _ => mem_ready_wake hl i
  | call c => exact List.mem_append_left _ h

theorem mem_ready_requests (h : e ∈ l.ready) (rs : List (Request C)) :
    e ∈ (rs.foldl serveRequest l).ready :=
  List.foldlRecOn (motive := fun l' : Loop J C V => e ∈ l'.ready) rs serveRequest h
    fun _ hl r _ => mem_ready_serveRequest hl r

/-- A callback that is asked for is ready behind the requests. -/
theorem call_mem_ready {rs : List (Request C)} {c : C} (h : .call c ∈ rs) :
    .call c ∈ (rs.foldl serveRequest l).ready := by
  obtain ⟨before, after, rfl⟩ := List.append_of_mem h
  rw [List.foldl_append, List.foldl_cons]
  exact mem_ready_requests (by simp [serveRequest, push]) after

/-- No entry takes anything away that is ready for a later round. -/
theorem mem_ready_perform (h : e ∈ l.ready) (s : σ) (f : Entry C) : e ∈ (perform b (l, s) f).1.ready := by
  cases f with
  | halt => exact h
  | readPipe => exact List.mem_append_left _ h
  | call c => exact mem_ready_requests h _
  | collect g =>
    unfold perform collect
    dsimp only
    split
    · split
      · exact List.mem_append_left _ h
      · exact h
    · exact h
  | resume i =>
    have htook := resume_took (b := b) l s i
    simp only [perform]
    generalize (resume b l s i).1 = l' at htook ⊢
    cases htook with
    | nothing => exact h
    | ends requests =>
      rw [finish_eq]
      exact List.mem_append_left _ (mem_ready_requests h requests)
    | waits requests => exact mem_ready_requests h requests
    | givesWay => exact List.mem_append_left _ h

/-! ### What a round runs -/

theorem flatten_dropWhile_isEmpty (rounds : List (List Signal)) :
    (rounds.dropWhile (·.isEmpty)).flatten = rounds.flatten := by
  induction rounds with
  | nil => rfl
  | cons signals rounds ih =>
    cases signals with
    | nil => simpa using ih
    | cons s signals => simp

/-- Signals arrive as a round begins: none is lost, and the rest of the loop is as it was. -/
theorem receive_eq (l : Loop J C V) :
    ∃ delivered coming, l.receive = { l with delivered := delivered, coming := coming } ∧
      delivered ++ coming.flatten = l.delivered ++ l.coming.flatten := by
  have hcoming : (if l.isIdle then l.coming.dropWhile (·.isEmpty) else l.coming).flatten =
      l.coming.flatten := by
    split
    · exact flatten_dropWhile_isEmpty l.coming
    · rfl
  unfold receive
  split
  · rename_i hnone
    rw [hnone] at hcoming
    exact ⟨l.delivered, [], rfl, by simp [← hcoming]⟩
  · rename_i signals later hsome
    rw [hsome] at hcoming
    exact ⟨_, later, rfl, by simp [← hcoming]⟩

/-- A round runs the entries that are ready, and maybe the pipe behind them. -/
theorem agenda_eq (l : Loop J C V) :
    ∃ pipe, (pipe = [] ∨ pipe = [.readPipe]) ∧ l.agenda = l.ready ++ pipe := by
  unfold agenda
  split
  · exact ⟨[.readPipe], .inr rfl, rfl⟩
  · exact ⟨[], .inl rfl, rfl⟩

end MessageBus.Loop
