import MessageBus.Proofs.Traffic.Turn
/-!
Which task serves which connection. Each connection has one task at most, and it is active as long as that
task, once begun, is not over. Main statement: that is kept by all that drives the loop, so there are as
many active connections as tasks that read.
-/
namespace MessageBus.Traffic

/-- A task on the loop of a bus. -/
abbrev Task := Loop.Task Job Outcome

abbrev BusLoop := Loop Job Callback Outcome

/-- The connection that a task serves, also when it is over. -/
def connection? (t : Task) : Option Nat :=
  match t.work with
  | .job (.serve i) | .job (.hear i) | .job (.part i _) => some i
  | .job .closeAll | .turns _ _ => none

/-- The connection that a task reads: it was begun and is not over. -/
def reading? (t : Task) : Option Nat :=
  if t.isOpen then
    match t.work with
    | .job (.hear i) => some i
    | _ => none
  else none

/-- The connection to which a task will come at its first turn. -/
def coming? (t : Task) : Option Nat :=
  if t.isOpen then
    match t.work with
    | .job (.serve i) => some i
    | _ => none
  else none

/-- The job goes on with what was begun at an earlier turn. -/
def Job.goesOn : Job → Bool
  | .hear _ | .part _ _ => true
  | .closeAll | .serve _ => false

/-- The connection is being read: its reader came to it and has not left it. -/
def IsRead (x : Connection) : Prop := 0 < x.reads ∧ x.waits = 0

/-- What the tasks of a connection can tell of it. -/
def stage (x : Connection) : Bool × Nat × Nat × Bool := (x.active, x.reads, x.waits, x.deferred)

/-- The tasks serve the connections, each at most one. -/
structure Manned (tasks : List Task) (connections : List Connection) : Prop where
  known : ∀ (k : Nat) (t : Task) (i : Nat), tasks[k]? = some t → connection? t = some i →
    i < connections.length
  alone : ∀ (k k' : Nat) (t t' : Task) (i : Nat), tasks[k]? = some t → tasks[k']? = some t' →
    connection? t = some i → connection? t' = some i → k = k'
  gate : ∀ (k : Nat) (t : Task) (g : Nat), tasks[k]? = some t → t.phase = .waiting g →
    t.work = .job (.hear g) ∨ ∃ how, t.work = .job (.part g how)
  begun : ∀ (k : Nat) (t : Task) (job : Job), tasks[k]? = some t → t.work = .job job →
    job.goesOn = true → t.started = true
  parted : ∀ (k : Nat) (t : Task) (i : Nat) (how : Connection.ReadEnd) (x : Connection),
    tasks[k]? = some t → t.isOpen = true → t.work = .job (.part i how) → connections[i]? = some x →
    x.deferred = true
  active : ∀ (i : Nat) (x : Connection), connections[i]? = some x →
    (x.active = true ↔ ∃ (k : Nat) (t : Task), tasks[k]? = some t ∧ reading? t = some i)
  coming : ∀ (k : Nat) (t : Task) (i : Nat) (x : Connection), tasks[k]? = some t → coming? t = some i →
    connections[i]? = some x → x.reads = 0 ∧ x.waits = 0
  tidy : ∀ (i : Nat) (x : Connection), connections[i]? = some x → (x.active = true ↔ IsRead x)

variable {tasks tasks' : List Task} {connections connections' : List Connection} {t t' : Task}
  {x y : Connection} {i j k limit : Nat} {l l' : BusLoop} {s : Traffic} {e : Loop.Entry Callback}

/-! ### Places in a list -/

theorem concat_some {α : Type} {as : List α} {a b : α} (h : (as ++ [b])[k]? = some a) :
    as[k]? = some a ∨ k = as.length ∧ a = b := by
  rw [List.getElem?_append] at h
  split at h
  · exact .inl h
  · obtain ⟨hk, hb⟩ := List.getElem?_eq_some_iff.1 h
    rw [List.length_singleton] at hk
    exact .inr ⟨by omega, by simpa using hb.symm⟩

theorem set_some {α : Type} {as : List α} {a b : α} (h : (as.set k b)[j]? = some a) :
    j = k ∧ a = b ∨ j ≠ k ∧ as[j]? = some a := by
  by_cases hk : k = j
  · subst hk
    have hlength := (List.getElem?_eq_some_iff.1 h).1
    rw [List.length_set] at hlength
    rw [List.getElem?_set_self hlength] at h
    exact .inl ⟨rfl, (Option.some.inj h).symm⟩
  · rw [List.getElem?_set_ne hk] at h
    exact .inr ⟨Ne.symm hk, h⟩

theorem set_self {α : Type} {as : List α} {a : α} (h : as[k]? = some a) (b : α) :
    (as.set k b)[k]? = some b :=
  List.getElem?_set_self (List.getElem?_eq_some_iff.1 h).1

/-! ### One task -/

theorem reading?_eq_some : reading? t = some i ↔ t.isOpen = true ∧ t.work = .job (.hear i) := by
  unfold reading?
  split
  · split <;> simp_all
  · simp_all

theorem coming?_eq_some : coming? t = some i ↔ t.isOpen = true ∧ t.work = .job (.serve i) := by
  unfold coming?
  split
  · split <;> simp_all
  · simp_all

theorem connection?_of_reading? (h : reading? t = some i) : connection? t = some i := by
  simp [connection?, (reading?_eq_some.1 h).2]

theorem connection?_of_part {how : Connection.ReadEnd} (h : t.work = .job (.part i how)) :
    connection? t = some i := by
  simp [connection?, h]

theorem connection?_of_coming? (h : coming? t = some i) : connection? t = some i := by
  simp [connection?, (coming?_eq_some.1 h).2]

theorem reading?_of_over (h : t.isOpen = false) : reading? t = none := by simp [reading?, h]

theorem coming?_of_over (h : t.isOpen = false) : coming? t = none := by simp [coming?, h]

theorem same_connection? (h : t.Same t') : connection? t' = connection? t := by
  unfold connection?
  rw [h.work]

theorem same_reading? (h : t.Same t') : reading? t' = reading? t := by
  unfold reading?
  rw [h.work, h.isOpen]

theorem same_coming? (h : t.Same t') : coming? t' = coming? t := by
  unfold coming?
  rw [h.work, h.isOpen]

/-! ### What leaves tasks to their connections -/

theorem manned_nil : Manned [] [] := by
  constructor <;> simp

/-- No task had a turn. -/
theorem Manned.undisturbed (h : Manned l.tasks connections) (hl : l.Undisturbed l') :
    Manned l'.tasks connections where
  known := by
    intro k t' i ht' hi
    obtain ⟨t, ht, hsame⟩ := hl.before ht'
    exact h.known k t i ht (same_connection? hsame ▸ hi)
  alone := by
    intro k k' t' u' i ht' hu' hi hi'
    obtain ⟨t, ht, hsame⟩ := hl.before ht'
    obtain ⟨u, hu, hsame'⟩ := hl.before hu'
    exact h.alone k k' t u i ht hu (same_connection? hsame ▸ hi) (same_connection? hsame' ▸ hi')
  gate := by
    intro k t' g ht' hwaiting
    obtain ⟨t, ht, hsame⟩ := hl.before ht'
    rw [hsame.work]
    obtain hphase | hphase := hsame.phase
    · exact h.gate k t g ht (hphase ▸ hwaiting)
    · simp [hphase] at hwaiting
  begun := by
    intro k t' job ht' hwork hgoes
    obtain ⟨t, ht, hsame⟩ := hl.before ht'
    rw [hsame.started]
    exact h.begun k t job ht (hsame.work ▸ hwork) hgoes
  parted := by
    intro k t' i how x ht' hopen' hwork hx
    obtain ⟨t, ht, hsame⟩ := hl.before ht'
    exact h.parted k t i how x ht (hsame.isOpen ▸ hopen') (hsame.work ▸ hwork) hx
  active := by
    intro i x hx
    rw [h.active i x hx]
    constructor
    · rintro ⟨k, t, ht, hreads⟩
      obtain ⟨t', ht', hsame⟩ := hl.task k t ht
      exact ⟨k, t', ht', (same_reading? hsame).trans hreads⟩
    · rintro ⟨k, t', ht', hreads⟩
      obtain ⟨t, ht, hsame⟩ := hl.before ht'
      exact ⟨k, t, ht, (same_reading? hsame).symm.trans hreads⟩
  coming := by
    intro k t' i x ht' hcomes hx
    obtain ⟨t, ht, hsame⟩ := hl.before ht'
    exact h.coming k t i x ht ((same_coming? hsame).symm.trans hcomes) hx
  tidy := h.tidy

/-- What happens to connections outside of their tasks. -/
theorem Manned.staged (h : Manned tasks connections)
    (hstage : connections'.map stage = connections.map stage) : Manned tasks connections' := by
  have hlength : connections'.length = connections.length := by simpa using congrArg List.length hstage
  have hbefore : ∀ (i : Nat) (y : Connection), connections'[i]? = some y →
      ∃ x, connections[i]? = some x ∧ y.active = x.active ∧ y.reads = x.reads ∧ y.waits = x.waits ∧
        y.deferred = x.deferred := by
    intro i y hy
    have hmap := congrArg (·[i]?) hstage
    simp only [List.getElem?_map, hy, Option.map_some] at hmap
    obtain ⟨x, hx, hxy⟩ := Option.map_eq_some_iff.1 hmap.symm
    simp only [stage, Prod.mk.injEq] at hxy
    exact ⟨x, hx, hxy.1.symm, hxy.2.1.symm, hxy.2.2.1.symm, hxy.2.2.2.symm⟩
  refine { h with known := ?_, parted := ?_, active := ?_, coming := ?_, tidy := ?_ }
  · intro k t i ht hi
    rw [hlength]
    exact h.known k t i ht hi
  · intro k t i how y ht hopen hwork hy
    obtain ⟨x, hx, -, -, -, hdeferred⟩ := hbefore i y hy
    rw [hdeferred]
    exact h.parted k t i how x ht hopen hwork hx
  · intro i y hy
    obtain ⟨x, hx, hactive, -⟩ := hbefore i y hy
    rw [hactive, h.active i x hx]
  · intro k t i y ht hcomes hy
    obtain ⟨x, hx, -, hreads, hwaits, -⟩ := hbefore i y hy
    rw [hreads, hwaits]
    exact h.coming k t i x ht hcomes hx
  · intro i y hy
    obtain ⟨x, hx, hactive, hreads, hwaits, -⟩ := hbefore i y hy
    rw [IsRead, hactive, hreads, hwaits]
    exact h.tidy i x hx

/-! ### New tasks and connections -/

/-- A new task that was not begun: it may be for a connection that has none and was not read yet. -/
theorem Manned.add (h : Manned tasks connections) {work : Loop.Work Job Outcome}
    (hnew : ∀ job, work = .job job → job.goesOn = false)
    (hfree : ∀ i, work = .job (.serve i) → i < connections.length ∧
      (∀ (k : Nat) (t : Task), tasks[k]? = some t → connection? t ≠ some i) ∧
      ∀ x : Connection, connections[i]? = some x → x.reads = 0 ∧ x.waits = 0) :
    Manned (tasks ++ [.new work]) connections := by
  have hserves : ∀ i, connection? (.new work) = some i → work = .job (.serve i) := by
    intro i hi
    cases work with
    | turns left v => simp [connection?, Loop.Task.new] at hi
    | job job =>
      cases job with
      | closeAll => simp [connection?, Loop.Task.new] at hi
      | serve j => simpa [connection?, Loop.Task.new] using hi
      | hear | part => exact absurd (hnew _ rfl) (by simp [Job.goesOn])
  have hunread : ∀ i, reading? (.new work) ≠ some i := fun i hreads =>
    absurd (hnew _ (reading?_eq_some.1 hreads).2) (by simp [Job.goesOn])
  refine { known := ?_, alone := ?_, gate := ?_, begun := ?_, parted := ?_, active := ?_, coming := ?_,
           tidy := h.tidy }
  · intro k t i ht hi
    obtain ht | ⟨-, rfl⟩ := concat_some ht
    · exact h.known k t i ht hi
    · exact (hfree i (hserves i hi)).1
  · intro k k' t t' i ht ht' hi hi'
    obtain ht | ⟨hk, rfl⟩ := concat_some ht <;> obtain ht' | ⟨hk', rfl⟩ := concat_some ht'
    · exact h.alone k k' t t' i ht ht' hi hi'
    · exact absurd hi ((hfree i (hserves i hi')).2.1 k t ht)
    · exact absurd hi' ((hfree i (hserves i hi)).2.1 k' t' ht')
    · rw [hk, hk']
  · intro k t g ht hwaiting
    obtain ht | ⟨-, rfl⟩ := concat_some ht
    · exact h.gate k t g ht hwaiting
    · simp [Loop.Task.new] at hwaiting
  · intro k t job ht hwork hgoes
    obtain ht | ⟨-, rfl⟩ := concat_some ht
    · exact h.begun k t job ht hwork hgoes
    · exact absurd (hnew job hwork) (by simp [hgoes])
  · intro k t i how x ht hopen hwork hx
    obtain ht | ⟨-, rfl⟩ := concat_some ht
    · exact h.parted k t i how x ht hopen hwork hx
    · exact absurd (hnew _ hwork) (by simp [Job.goesOn])
  · intro i x hx
    rw [h.active i x hx]
    constructor
    · rintro ⟨k, t, ht, hreads⟩
      exact ⟨k, t, by rw [List.getElem?_append_left (List.getElem?_eq_some_iff.1 ht).1, ht], hreads⟩
    · rintro ⟨k, t, ht, hreads⟩
      obtain ht | ⟨-, rfl⟩ := concat_some ht
      · exact ⟨k, t, ht, hreads⟩
      · exact absurd hreads (hunread i)
  · intro k t i x ht hcomes hx
    obtain ht | ⟨-, rfl⟩ := concat_some ht
    · exact h.coming k t i x ht hcomes hx
    · exact (hfree i (coming?_eq_some.1 hcomes).2).2.2 x hx

/-- A connection comes that was not read yet. -/
theorem Manned.connect (h : Manned tasks connections) {u : Connection} (hactive : u.active = false)
    (hunread : u.reads = 0) : Manned tasks (connections ++ [u]) := by
  have hnone : ∀ (k : Nat) (t : Task), tasks[k]? = some t → connection? t ≠ some connections.length :=
    fun k t ht hi => Nat.lt_irrefl _ (h.known k t _ ht hi)
  refine { h with known := ?_, parted := ?_, active := ?_, coming := ?_, tidy := ?_ }
  · intro k t i ht hi
    rw [List.length_append]
    exact Nat.lt_of_lt_of_le (h.known k t i ht hi) (Nat.le_add_right _ _)
  · intro k t i how x ht hopen hwork hx
    obtain hx | ⟨rfl, -⟩ := concat_some hx
    · exact h.parted k t i how x ht hopen hwork hx
    · exact absurd (connection?_of_part hwork) (hnone k t ht)
  · intro i x hx
    obtain hx | ⟨rfl, rfl⟩ := concat_some hx
    · exact h.active i x hx
    · rw [hactive]
      simp only [Bool.false_eq_true, false_iff, not_exists, not_and]
      exact fun k t ht hreads => hnone k t ht (connection?_of_reading? hreads)
  · intro k t i x ht hcomes hx
    obtain hx | ⟨rfl, -⟩ := concat_some hx
    · exact h.coming k t i x ht hcomes hx
    · exact absurd (connection?_of_coming? hcomes) (hnone k t ht)
  · intro i x hx
    obtain hx | ⟨-, rfl⟩ := concat_some hx
    · exact h.tidy i x hx
    · simp [hactive, IsRead, hunread]

/-- A connection comes with its task. -/
theorem Manned.takeIn (h : Manned tasks connections) (deferred : Bool) (chunks : List String)
    (ending : StreamEnd) (farewell : Farewell) :
    Manned (tasks ++ [.new (.job (.serve connections.length))])
      (connections ++ [.new deferred chunks ending farewell]) := by
  refine (h.connect rfl rfl).add (fun job hjob => ?_) fun i hi => ?_
  · obtain rfl : Job.serve connections.length = job := by simpa using hjob
    rfl
  · obtain rfl : connections.length = i := by simpa using hi
    refine ⟨by simp, fun k t ht hi => Nat.lt_irrefl _ (h.known k t _ ht hi), fun x hx => ?_⟩
    obtain rfl : Connection.new deferred chunks ending farewell = x := by simpa using hx
    exact ⟨rfl, rfl⟩

/-- A task comes that is for no connection. -/
theorem Manned.employ (h : Manned tasks connections) {work : Loop.Work Job Outcome}
    (hnone : connection? (.new work) = none) : Manned (tasks ++ [.new work]) connections := by
  refine h.add (fun job hjob => ?_) fun i hi => ?_
  · cases job with
    | closeAll | serve => rfl
    | hear | part => simp [connection?, Loop.Task.new, hjob] at hnone
  · simp [connection?, Loop.Task.new, hi] at hnone

/-! ### Turns -/

/-- A task that is over or goes on serves the same connection as before. -/
structure Resumed (t t' : Task) : Prop where
  connection : connection? t' = connection? t
  gate : ∀ g, t'.phase = .waiting g → t'.work = .job (.hear g) ∨ ∃ how, t'.work = .job (.part g how)
  begun : t'.started = true
  coming : coming? t' = none

/-- A connection with a task is active while that reads. -/
theorem Manned.active_iff (h : Manned tasks connections) (ht : tasks[k]? = some t)
    (hi : connection? t = some i) (hx : connections[i]? = some x) :
    x.active = true ↔ reading? t = some i := by
  rw [h.active i x hx]
  constructor
  · rintro ⟨k', u, hu, hreads⟩
    obtain rfl := h.alone k k' t u i ht hu hi (connection?_of_reading? hreads)
    obtain rfl := Option.some.inj (ht.symm.trans hu)
    exact hreads
  · exact fun hreads => ⟨k, t, ht, hreads⟩

/-- The turn of a task, in which its connection may change and no other does. -/
theorem Manned.turn (h : Manned tasks connections) (ht : tasks[k]? = some t) (hturn : Resumed t t')
    (hlength : connections'.length = connections.length)
    (hothers : ∀ j, connection? t ≠ some j → connections'[j]? = connections[j]?)
    (hown : ∀ (j : Nat) (y : Connection), connection? t = some j → connections'[j]? = some y →
      (y.active = true ↔ reading? t' = some j) ∧ (y.active = true ↔ IsRead y) ∧
        ∀ how, t'.isOpen = true → t'.work = .job (.part j how) → y.deferred = true) :
    Manned (tasks.set k t') connections' := by
  have hset := set_self ht t'
  refine { known := ?_, alone := ?_, gate := ?_, begun := ?_, parted := ?_, active := ?_, coming := ?_,
           tidy := ?_ }
  · intro k' u i hu hi
    rw [hlength]
    obtain ⟨rfl, rfl⟩ | ⟨-, hwas⟩ := set_some hu
    · exact h.known _ t i ht (hturn.connection ▸ hi)
    · exact h.known k' u i hwas hi
  · intro a a' u u' i hu hu' hi hi'
    obtain ⟨ha, hsame⟩ | ⟨-, hwas⟩ := set_some hu <;>
      obtain ⟨ha', hsame'⟩ | ⟨-, hwas'⟩ := set_some hu'
    · rw [ha, ha']
    · rw [hsame, hturn.connection] at hi
      exact ha ▸ h.alone k a' t u' i ht hwas' hi hi'
    · rw [hsame', hturn.connection] at hi'
      exact ha' ▸ h.alone a k u t i hwas ht hi hi'
    · exact h.alone a a' u u' i hwas hwas' hi hi'
  · intro k' u g hu hwaiting
    obtain ⟨rfl, rfl⟩ | ⟨-, hwas⟩ := set_some hu
    · exact hturn.gate g hwaiting
    · exact h.gate k' u g hwas hwaiting
  · intro k' u job hu hwork hgoes
    obtain ⟨rfl, rfl⟩ | ⟨-, hwas⟩ := set_some hu
    · exact hturn.begun
    · exact h.begun k' u job hwas hwork hgoes
  · intro k' u i how y hu hopen hwork hy
    obtain ⟨rfl, rfl⟩ | ⟨hne, hwas⟩ := set_some hu
    · have hi : connection? t = some i := hturn.connection ▸ connection?_of_part hwork
      exact (hown i y hi hy).2.2 how hopen hwork
    · have hi : connection? t ≠ some i := fun hi =>
        hne (h.alone k' k u t i hwas ht (connection?_of_part hwork) hi)
      exact h.parted k' u i how y hwas hopen hwork (hothers i hi ▸ hy)
  · intro i y hy
    by_cases hi : connection? t = some i
    · -- the task is the only one of this connection, before and after
      rw [(hown i y hi hy).1]
      constructor
      · exact fun hreads => ⟨k, t', hset, hreads⟩
      · rintro ⟨k', u, hu, hreads⟩
        obtain ⟨rfl, rfl⟩ | ⟨hne, hwas⟩ := set_some hu
        · exact hreads
        · exact absurd (h.alone k' k u t i hwas ht (connection?_of_reading? hreads) hi) hne
    · rw [hothers i hi] at hy
      rw [h.active i y hy]
      constructor
      · rintro ⟨k', u, hu, hreads⟩
        have hne : k ≠ k' := by
          rintro rfl
          obtain rfl := Option.some.inj (ht.symm.trans hu)
          exact hi (connection?_of_reading? hreads)
        exact ⟨k', u, by rwa [List.getElem?_set_ne hne], hreads⟩
      · rintro ⟨k', u, hu, hreads⟩
        obtain ⟨rfl, rfl⟩ | ⟨-, hwas⟩ := set_some hu
        · exact absurd (hturn.connection ▸ connection?_of_reading? hreads) hi
        · exact ⟨k', u, hwas, hreads⟩
  · intro k' u i y hu hcomes hy
    obtain ⟨rfl, rfl⟩ | ⟨hne, hwas⟩ := set_some hu
    · simp [hturn.coming] at hcomes
    · have hi : connection? t ≠ some i := fun hi =>
        hne (h.alone k' k u t i hwas ht (connection?_of_coming? hcomes) hi)
      exact h.coming k' u i y hwas hcomes (hothers i hi ▸ hy)
  · intro i y hy
    by_cases hi : connection? t = some i
    · exact (hown i y hi hy).2.1
    · exact h.tidy i y (hothers i hi ▸ hy)

/-- The turn of a task that leaves the connections as they are. -/
theorem Manned.set (h : Manned tasks connections) (ht : tasks[k]? = some t) (hturn : Resumed t t')
    (hreads : reading? t' = reading? t)
    (hparts : ∀ i how, t'.isOpen = true → t'.work = .job (.part i how) →
      t.isOpen = true ∧ t.work = .job (.part i how)) : Manned (tasks.set k t') connections := by
  refine h.turn ht hturn rfl (fun _ _ => rfl) fun j y hj hy =>
    ⟨?_, h.tidy j y hy, fun how hopen hwork => ?_⟩
  · rw [h.active_iff ht hj hy, hreads]
  · obtain ⟨hopen, hwork⟩ := hparts j how hopen hwork
    exact h.parted k t j how y ht hopen hwork hy

/-- What a task is when it is over. -/
theorem resumed_over (hwork : t'.work = t.work) (hbegun : t'.started = true) (hover : t'.isOpen = false) :
    Resumed t t' where
  connection := by
    unfold connection?
    rw [hwork]
  gate := by
    intro g hwaiting
    simp [Loop.Task.isOpen, hwaiting] at hover
  begun := hbegun
  coming := coming?_of_over hover

theorem finish_tasks (l : BusLoop) (k : Nat) (t : Task) (p : Loop.Phase Outcome) :
    (l.finish k t p).tasks =
      l.tasks.set k { t with phase := p, started := true, cancelling := false } := by
  rw [Loop.finish_eq]
  rfl

/-- A task that read no connection ends. -/
theorem Manned.finish {p : Loop.Phase Outcome} (h : Manned l.tasks connections)
    (ht : l.tasks[k]? = some t) (hwork : t'.work = t.work)
    (hover : Loop.Task.isOpen { t' with phase := p, started := true, cancelling := false } = false)
    (hreads : reading? t = none) : Manned (l.finish k t' p).tasks connections := by
  rw [finish_tasks]
  exact h.set ht (resumed_over hwork rfl hover) ((reading?_of_over hover).trans hreads.symm)
    fun _ _ hopen _ => absurd (hover.symm.trans hopen) (by simp)

/-- A task whose connection is left is over. -/
theorem Manned.leaves (h : Manned tasks connections) (ht : tasks[k]? = some t)
    (hi : connection? t = some i) (hx : connections[i]? = some x) (hwork : t'.work = t.work)
    (hbegun : t'.started = true) (hover : t'.isOpen = false) (hleft : y.active = false ∧ ¬ IsRead y) :
    Manned (tasks.set k t') (connections.set i y) := by
  refine h.turn ht (resumed_over hwork hbegun hover) (by simp) (fun j hj => ?_) fun j z hj hz => ?_
  · exact List.getElem?_set_ne fun hij : i = j => hj (hij ▸ hi)
  · obtain rfl := Option.some.inj (hi.symm.trans hj)
    obtain rfl := Option.some.inj ((set_self hx y).symm.trans hz)
    refine ⟨?_, ?_, fun how hopen => absurd (hover.symm.trans hopen) (by simp)⟩
    · simp [hleft.1, reading?_of_over hover]
    · simp [hleft.1, hleft.2]

/-- A task that serves a connection waits at its gate: to read on, or for the end of the connection where
that is deferred. -/
theorem Manned.waits (h : Manned tasks connections) (ht : tasks[k]? = some t)
    (hi : connection? t = some i) (hx : connections[i]? = some x) (hphase : t'.phase = .waiting i)
    (hbegun : t'.started = true)
    (hstands : t'.work = .job (.hear i) ∧ y.active = true ∧ IsRead y ∨
      (∃ how, t'.work = .job (.part i how)) ∧ y.active = false ∧ ¬ IsRead y ∧ y.deferred = true) :
    Manned (tasks.set k t') (connections.set i y) := by
  have hopen : t'.isOpen = true := by simp [Loop.Task.isOpen, hphase]
  have hserves : connection? t' = some i ∧ coming? t' = none := by
    obtain ⟨hwork, -⟩ | ⟨⟨how, hwork⟩, -⟩ := hstands <;> simp [connection?, coming?, hwork]
  refine h.turn ht ⟨hserves.1.trans hi.symm, fun g hwaiting => ?_, hbegun, hserves.2⟩ (by simp)
    (fun j hj => ?_) fun j z hj hz => ?_
  · obtain rfl : i = g := by simpa [hphase] using hwaiting
    exact hstands.imp (·.1) (·.1)
  · exact List.getElem?_set_ne fun hij : i = j => hj (hij ▸ hi)
  · obtain rfl := Option.some.inj (hi.symm.trans hj)
    obtain rfl := Option.some.inj ((set_self hx y).symm.trans hz)
    rw [reading?_eq_some]
    obtain ⟨hwork, hactive, hread⟩ | ⟨⟨how, hwork⟩, hactive, hread, hdeferred⟩ := hstands
    · simp [hwork, hopen, hactive, hread]
    · simp [hwork, hactive, hread, hdeferred]

theorem not_isRead_departed (x : Connection) : ¬ IsRead x.departed := fun h => by
  have hwaits := h.2
  simp at hwaits

/-- The turn of a task that serves a connection. The requests in it give nobody a turn. -/
theorem Manned.attends {turn : Loop.Turn Job Outcome} {requests : List Request} {s' : Traffic} {job : Job}
    (h : Manned l.tasks s.connections) (ht : l.tasks[k]? = some t) (hopen : t.isOpen = true)
    (hlate : (t.cancelling && !t.started) = false) (hwork : t.work = .job job)
    (hi : connection? t = some i) (hx : s.connections[i]? = some x)
    (hadvance : behaviour.advance job t.cancelling s = (turn, requests, s'))
    (hset : s'.connections = s.connections.set i y) {x' : Connection}
    (hattends : Attends i x' turn requests y) (hread : x'.active = true ∧ IsRead x') :
    Manned (Loop.resume behaviour l s k).1.tasks (Loop.resume behaviour l s k).2.connections := by
  have hasked := Loop.undisturbed_requests l requests
  obtain ⟨u, hu, hsame⟩ := hasked.task k t ht
  have hmanned := h.undisturbed hasked
  have hui : connection? u = some i := (same_connection? hsame).trans hi
  unfold Loop.resume
  simp only [ht, hopen, hlate, hwork, hadvance, if_true, Bool.false_eq_true, if_false]
  cases hattends with
  | waits n chunks =>
    dsimp only
    rw [hset]
    refine hmanned.waits hu hui hx rfl rfl (.inl ⟨rfl, hread.1, ?_, ?_⟩)
    · simpa using Nat.lt_of_lt_of_le hread.2.1 (Nat.le_add_right _ n)
    · simpa using hread.2.2
  | parts n chunks how hdeferred hthere =>
    dsimp only
    rw [hset]
    exact hmanned.waits hu hui hx rfl rfl (.inr ⟨⟨how, rfl⟩, Connection.departed_active _,
      not_isRead_departed _, (Connection.departed_deferred _).trans hdeferred⟩)
  | leaves n chunks hgone hends =>
    cases turn with
    | waits gate job' => exact absurd rfl (hends gate job')
    | ends v | cancelled =>
      dsimp only
      rw [hset, finish_tasks]
      exact hmanned.leaves hu hui hx hsame.work.symm rfl rfl ⟨by simp, not_isRead_departed _⟩

@[simp] theorem stage_close (x : Connection) : stage x.close = stage x := by simp [stage]

theorem stages_closeAll (s : Traffic) : s.closeAll.2.connections.map stage = s.connections.map stage := by
  simp only [closeAll, List.map_map]
  refine List.map_congr_left fun x _ => ?_
  dsimp only [Function.comp_apply]
  split <;> simp [stage_close]

/-- A task without a connection has its turn. -/
theorem Manned.turns {left : Nat} {v : Outcome} (h : Manned l.tasks s.connections)
    (ht : l.tasks[k]? = some t) (hopen : t.isOpen = true) (hwork : t.work = .turns left v) :
    Manned (Loop.resume behaviour l s k).1.tasks (Loop.resume behaviour l s k).2.connections := by
  have hnone : reading? t = none := by simp [reading?, hwork]
  have hcancelled : Manned (l.finish k t .cancelled).tasks s.connections := h.finish ht rfl rfl hnone
  simp only [Loop.resume, ht, hopen, hwork, if_true]
  split
  · exact hcancelled
  · split
    · exact hcancelled
    · cases left with
      | zero => exact h.finish ht rfl rfl hnone
      | succ n =>
        refine h.set ht ⟨by simp [connection?, hwork], fun g hwaiting => ?_, rfl, by simp [coming?]⟩ ?_
          (by simp)
        · have hwas := h.gate k t g ht hwaiting
          simp [hwork] at hwas
        · rw [hnone]
          simp [reading?]

/-- The turn of the task that hangs up. -/
theorem Manned.closesAll (h : Manned l.tasks s.connections) (ht : l.tasks[k]? = some t)
    (hopen : t.isOpen = true) (hwork : t.work = .job .closeAll) :
    Manned (Loop.resume behaviour l s k).1.tasks (Loop.resume behaviour l s k).2.connections := by
  have hnone : reading? t = none := by simp [reading?, hwork]
  have hcancelled : Manned (l.finish k t .cancelled).tasks s.connections := h.finish ht rfl rfl hnone
  simp only [Loop.resume, ht, hopen, hwork, if_true]
  split
  · exact hcancelled
  · cases hcancelling : t.cancelling with
    | true => exact hcancelled
    | false =>
      have hasked := Loop.undisturbed_requests l s.closeAll.1
      obtain ⟨u, hu, hsame⟩ := hasked.task k t ht
      have hclosed := (h.undisturbed hasked).staged (stages_closeAll s)
      exact hclosed.finish hu hsame.work.symm rfl ((same_reading? hsame).trans hnone)

/-- A task comes to its connection, unless it is cancelled before. -/
theorem Manned.serves (h : Manned l.tasks s.connections) (ht : l.tasks[k]? = some t)
    (hopen : t.isOpen = true) (hwork : t.work = .job (.serve i)) :
    Manned (Loop.resume behaviour l s k).1.tasks (Loop.resume behaviour l s k).2.connections := by
  have hi : connection? t = some i := by simp [connection?, hwork]
  obtain ⟨x, hx⟩ : ∃ x, s.connections[i]? = some x :=
    ⟨_, List.getElem?_eq_getElem (h.known k t i ht hi)⟩
  cases hcancelling : t.cancelling with
  | true =>
    have hcancelled : Manned (l.finish k t .cancelled).tasks s.connections :=
      h.finish ht rfl rfl (by simp [reading?, hwork])
    simp only [Loop.resume, ht, hopen, hwork, hcancelling, if_true]
    split
    · exact hcancelled
    · simpa [behaviour, advance, hx] using hcancelled
  | false =>
    obtain ⟨turn, requests, s', y, hadvance, -, hattends, -, hset⟩ := advance_serve hx
    have hcomes := h.coming k t i x ht (coming?_eq_some.2 ⟨hopen, hwork⟩) hx
    refine h.attends ht hopen (by simp [hcancelling]) hwork hi hx (by rw [hcancelling]; exact hadvance)
      hset hattends ⟨rfl, ?_, ?_⟩
    · simp [Connection.ask]
    · have hwaits : x.join.ask.waits = x.waits := by
        simp [Connection.join, Connection.ask, Connection.waits, Connection.note]
      rw [hwaits, hcomes.2]

/-- A task goes on reading its connection. -/
theorem Manned.hears (h : Manned l.tasks s.connections) (ht : l.tasks[k]? = some t)
    (hopen : t.isOpen = true) (hwork : t.work = .job (.hear i)) :
    Manned (Loop.resume behaviour l s k).1.tasks (Loop.resume behaviour l s k).2.connections := by
  have hi : connection? t = some i := by simp [connection?, hwork]
  obtain ⟨x, hx⟩ : ∃ x, s.connections[i]? = some x :=
    ⟨_, List.getElem?_eq_getElem (h.known k t i ht hi)⟩
  obtain ⟨turn, requests, s', y, hadvance, hattends, -, hset, -⟩ := advance_hear hx t.cancelling
  have hactive := (h.active_iff ht hi hx).2 (reading?_eq_some.2 ⟨hopen, hwork⟩)
  exact h.attends ht hopen (by simp [h.begun k t _ ht hwork rfl]) hwork hi hx hadvance hset hattends
    ⟨hactive, (h.tidy i x hx).1 hactive⟩

/-- A task waits on for the end of its connection, or is over. -/
theorem Manned.parts {how : Connection.ReadEnd} (h : Manned l.tasks s.connections)
    (ht : l.tasks[k]? = some t) (hopen : t.isOpen = true) (hwork : t.work = .job (.part i how)) :
    Manned (Loop.resume behaviour l s k).1.tasks (Loop.resume behaviour l s k).2.connections := by
  have hi := connection?_of_part hwork
  have hx := List.getElem?_eq_getElem (h.known k t i ht hi)
  have hbegun := h.begun k t _ ht hwork rfl
  have hnone : reading? t = none := by simp [reading?, hwork]
  obtain ⟨turn, s', hadvance, -, hsame, hturn⟩ := advance_part hx how t.cancelling
  have hadvance : behaviour.advance (.part i how) t.cancelling s = (turn, [], s') := hadvance
  unfold Loop.resume
  simp only [ht, hopen, hbegun, hwork, hadvance, if_true, Bool.not_true, Bool.and_false,
    Bool.false_eq_true, if_false, List.foldl_nil]
  obtain ⟨-, -, rfl⟩ | ⟨-, hends⟩ := hturn
  · dsimp only
    rw [hsame]
    refine h.set ht ⟨?_, fun g hwaiting => ?_, rfl, rfl⟩ ?_ fun j how' _ hparts => ⟨hopen, ?_⟩
    · rw [hi]
      rfl
    · obtain rfl : i = g := by simpa using hwaiting
      exact .inr ⟨how, rfl⟩
    · rw [hnone]
      rfl
    · rw [hwork]
      exact hparts
  · cases turn with
    | waits gate job' => exact absurd rfl (hends gate job')
    | ends v | cancelled =>
      dsimp only
      rw [hsame]
      exact h.finish ht rfl rfl hnone

/-- The turn of any task. -/
theorem Manned.resume (h : Manned l.tasks s.connections) (k : Nat) :
    Manned (Loop.resume behaviour l s k).1.tasks (Loop.resume behaviour l s k).2.connections := by
  cases ht : l.tasks[k]? with
  | none => simpa [Loop.resume, ht] using h
  | some t =>
    cases hopen : t.isOpen with
    | false => simpa [Loop.resume, ht, hopen] using h
    | true =>
      cases hwork : t.work with
      | turns left v => exact h.turns ht hopen hwork
      | job job =>
        cases job with
        | closeAll => exact h.closesAll ht hopen hwork
        | serve i => exact h.serves ht hopen hwork
        | hear i => exact h.hears ht hopen hwork
        | part i how => exact h.parts ht hopen hwork

/-- The turn of a task leaves the connections of the others among the active ones, or not among them. -/
theorem active_of_other_turn (l : BusLoop) (s : Traffic) {k j : Nat}
    (hother : ∀ t, l.tasks[k]? = some t → connection? t ≠ some j) :
    (Loop.resume behaviour l s k).2.connections[j]?.map (·.active) =
      s.connections[j]?.map (·.active) := by
  obtain hsame | ⟨t, job, ht, hwork, hadvance⟩ := Loop.resume_state (b := behaviour) l s k
  · rw [hsame]
  · have hne : ∀ i, job = .serve i ∨ job = .hear i → i ≠ j := by
      rintro i (rfl | rfl) rfl <;> exact hother t ht (by simp [connection?, hwork])
    rw [hadvance]
    show (advance job t.cancelling s).2.2.connections[j]?.map _ = _
    cases job with
    | closeAll =>
      cases t.cancelling with
      | true => rfl
      | false =>
        have hstages := congrArg (fun stages => stages[j]?.map (·.1)) (stages_closeAll s)
        simpa [stage, Option.map_map, Function.comp_def, advance] using hstages
    | serve i =>
      cases hx : s.connections[i]? with
      | none => simp [advance, hx]
      | some x =>
        cases t.cancelling with
        | true => simp [advance, hx]
        | false =>
          obtain ⟨turn, requests, s', y, hserve, -, -, -, hset⟩ := advance_serve hx
          rw [hserve, hset, List.getElem?_set_ne (hne i (.inl rfl))]
    | hear i =>
      cases hx : s.connections[i]? with
      | none => simp [advance, hx]
      | some x =>
        obtain ⟨turn, requests, s', y, hhear, -, -, hset, -⟩ := advance_hear hx t.cancelling
        rw [hhear, hset, List.getElem?_set_ne (hne i (.inr rfl))]
    | part i how =>
      cases hx : s.connections[i]? with
      | none => simp [advance, hx]
      | some x =>
        obtain ⟨turn, s', hpart, -, hsame, -⟩ := advance_part hx how t.cancelling
        rw [hpart, hsame]

/-! ### What drives the loop -/

@[simp] theorem stage_letGo (x : Connection) : stage x.letGo = stage x := rfl

theorem stages_change (s : Traffic) (i : Nat) {f : Connection → Connection}
    (h : ∀ x, stage (f x) = stage x) :
    (s.change i f).connections.map stage = s.connections.map stage := by
  refine List.ext_getElem? fun j => ?_
  simp only [change, List.getElem?_map, List.getElem?_modify]
  cases s.connections[j]? with
  | none => rfl
  | some x =>
    simp only [Option.map_some]
    split <;> simp [h]

theorem Manned.perform (h : Manned l.tasks s.connections) (e : Loop.Entry Callback) :
    Manned (Loop.perform behaviour (l, s) e).1.tasks (Loop.perform behaviour (l, s) e).2.connections := by
  cases e with
  | halt | readPipe => exact h
  | resume k => exact h.resume k
  | collect g =>
    have hsame : (l.collect g).tasks = l.tasks := by
      unfold Loop.collect
      split
      · dsimp only
        split <;> rfl
      · rfl
    simpa only [Loop.perform, hsame] using h
  | call c =>
    have hasked := h.undisturbed (Loop.undisturbed_requests l (call c s).1)
    cases c with
    | wish wish => exact hasked
    | letGo i => exact hasked.staged (stages_change s i stage_letGo)

theorem preserves_manned : behaviour.Preserves fun tasks s => Manned tasks s.connections :=
  ⟨fun _ _ e h => h.perform e⟩

theorem Manned.closeWithin (h : Manned l.tasks s.connections) (limit : Nat) :
    Manned (Loop.closeWithin behaviour limit l s).2.1.tasks
      (Loop.closeWithin behaviour limit l s).2.2.connections :=
  preserves_manned.closeWithin (fun l _ h => h.undisturbed (Loop.undisturbed_cancelled l))
    (fun _ _ h => h.employ rfl) limit l s h

/-! ### Counting -/

theorem Manned.readers_nodup (h : Manned tasks connections) : (tasks.filterMap reading?).Nodup := by
  rw [List.Nodup, List.pairwise_filterMap, List.pairwise_iff_getElem]
  rintro k k' hk hk' hlt i hi i' hi' rfl
  have halone := h.alone k k' _ _ i (List.getElem?_eq_getElem hk) (List.getElem?_eq_getElem hk')
    (connection?_of_reading? hi) (connection?_of_reading? hi')
  omega

/-- The active connections are those that are read. -/
theorem Manned.active_eq (h : Manned tasks connections) :
    connections.countP (·.active) = tasks.countP fun t => (reading? t).isSome := by
  have hactives : ((List.range connections.length).filter fun i => connections[i]?.any (·.active)).Nodup :=
    List.nodup_range.filter _
  have hperm := (List.perm_ext_iff_of_nodup hactives h.readers_nodup).2 fun i => by
    rw [List.mem_filter, List.mem_range, List.mem_filterMap]
    constructor
    · rintro ⟨hi, hactive⟩
      rw [List.getElem?_eq_getElem hi, Option.any_some] at hactive
      obtain ⟨k, t, ht, hreads⟩ := (h.active i _ (List.getElem?_eq_getElem hi)).1 hactive
      exact ⟨t, List.mem_of_getElem? ht, hreads⟩
    · rintro ⟨t, ht, hreads⟩
      obtain ⟨k, hk⟩ := List.getElem?_of_mem ht
      have hi := h.known k t i hk (connection?_of_reading? hreads)
      have hactive := (h.active i _ (List.getElem?_eq_getElem hi)).2 ⟨k, t, hk, hreads⟩
      exact ⟨hi, by rw [List.getElem?_eq_getElem hi, Option.any_some, hactive]⟩
  rw [← Loop.length_places, hperm.length_eq, List.length_filterMap_eq_countP]

/-- With all tasks over no connection is active. -/
theorem Manned.active_of_finished (h : Manned l.tasks connections) (hover : l.Finished) :
    connections.countP (·.active) = 0 := by
  rw [h.active_eq, List.countP_eq_zero]
  intro t ht
  simp [reading?_of_over (hover t ht)]

end MessageBus.Traffic
