import MessageBus.Proofs.Traffic.Manning
/-!
How all connections are hung up. The tasks that were on their way come to their connections first; then all
active connections are closed, and the readers that wait at one that is let go of at once are woken; in the
round behind that they leave. Main statement: if no halt is pending, each connection that was served is
closed by that, and the tasks are over that serve a connection which is let go of at once.
-/
namespace MessageBus.Traffic

/-- Who has not come to a connection yet has its first turn among the entries. -/
def Arriving (es : List (Loop.Entry Callback)) (l : BusLoop) : Prop :=
  ∀ (k : Nat) (t : Task) (i : Nat), l.tasks[k]? = some t → coming? t = some i → .resume k ∈ es

/-- Who reads a connection that is let go of at once has its next turn among the entries, and the connection
was hung up. -/
def Leaving (es : List (Loop.Entry Callback)) (l : BusLoop) (s : Traffic) : Prop :=
  ∀ (k : Nat) (t : Task) (i : Nat) (x : Connection), l.tasks[k]? = some t → reading? t = some i →
    s.connections[i]? = some x → x.deferred = false → .resume k ∈ es ∧ x.hungUp = true

/-- Who serves a connection that is let go of at once is over. -/
def LeftPromptly (l : BusLoop) (s : Traffic) : Prop :=
  ∀ t ∈ l.tasks, ∀ (i : Nat) (x : Connection), connection? t = some i → s.connections[i]? = some x →
    x.deferred = false → t.isOpen = false

/-- All tasks that serve a connection are over. -/
def Deserted (l : BusLoop) : Prop := ∀ t ∈ l.tasks, ∀ i, connection? t = some i → t.isOpen = false

variable {l : BusLoop} {s : Traffic} {t t' : Task} {e : Loop.Entry Callback}
  {es fs : List (Loop.Entry Callback)} {i k n taken : Nat} {x y : Connection} {w : Loop.Work Job Outcome}

/-- A job that waits goes on with the connection that its task served before: it will hear from the
connection, which was not hung up, or it waits for its end, which is deferred. -/
theorem Manned.advance_waits {job job' : Job} {gate : Nat} (h : Manned l.tasks s.connections)
    (ht : l.tasks[k]? = some t) (hopen : t.isOpen = true) (hwork : t.work = .job job)
    (hwaits : (advance job t.cancelling s).1 = .waits gate job') :
    ∃ j x, connection? t = some j ∧ s.connections[j]? = some x ∧
      (job' = .hear j ∧ x.hungUp = false ∨ (∃ how, job' = .part j how) ∧ x.deferred = true) := by
  cases job with
  | closeAll =>
    unfold advance at hwaits
    dsimp only at hwaits
    split at hwaits <;> simp at hwaits
  | serve j =>
    have hj : connection? t = some j := by simp [connection?, hwork]
    have hx := List.getElem?_eq_getElem (h.known k t j ht hj)
    cases hcancelling : t.cancelling with
    | true => simp [advance, hx, hcancelling] at hwaits
    | false =>
      obtain ⟨turn, requests, s', y, hadvance, -, hattends, -⟩ := advance_serve hx
      rw [hcancelling, hadvance] at hwaits
      obtain rfl : turn = .waits gate job' := hwaits
      exact ⟨j, _, hj, hx, hattends.waiting.2.imp id fun hparts => ⟨hparts.1, hparts.2.1⟩⟩
  | hear j =>
    have hj : connection? t = some j := by simp [connection?, hwork]
    have hx := List.getElem?_eq_getElem (h.known k t j ht hj)
    obtain ⟨turn, requests, s', y, hadvance, hattends, -⟩ := advance_hear hx t.cancelling
    rw [hadvance] at hwaits
    obtain rfl : turn = .waits gate job' := hwaits
    exact ⟨j, _, hj, hx, hattends.waiting.2.imp id fun hparts => ⟨hparts.1, hparts.2.1⟩⟩
  | part j how =>
    have hj := connection?_of_part hwork
    have hx := List.getElem?_eq_getElem (h.known k t j ht hj)
    obtain ⟨turn, s', hadvance, -, -, ⟨-, -, hturn⟩ | ⟨-, hends⟩⟩ := advance_part hx how t.cancelling
    · rw [hadvance] at hwaits
      obtain ⟨-, rfl⟩ := Loop.Turn.waits.inj (hturn.symm.trans hwaits)
      exact ⟨j, _, hj, hx, .inr ⟨⟨how, rfl⟩, h.parted k t j how _ ht hopen hwork hx⟩⟩
    · rw [hadvance] at hwaits
      exact absurd hwaits (hends _ _)

/-- Who goes on with a connection at its turn had it before. -/
theorem goesOn_of_turn (h : Manned l.tasks s.connections)
    (ht' : (Loop.resume behaviour l s k).1.tasks[k]? = some t') (hopen' : t'.isOpen = true)
    (hi : connection? t' = some i) :
    ∃ t x, l.tasks[k]? = some t ∧ t.isOpen = true ∧ connection? t = some i ∧
      s.connections[i]? = some x ∧ (t'.work = .job (.hear i) ∧ x.hungUp = false ∨
        (∃ how, t'.work = .job (.part i how)) ∧ x.deferred = true) := by
  obtain ⟨t, ht, hopen, -, ⟨-, v, left, -, -, hturns⟩ | ⟨job, gate, job', hwork, hwaits, hwork', -⟩⟩ :=
    Loop.resume_own ht' hopen'
  · simp [connection?, hturns] at hi
  · obtain ⟨j, x, hj, hx, hjob⟩ := h.advance_waits ht hopen hwork hwaits
    obtain rfl : j = i := by
      obtain ⟨rfl, -⟩ | ⟨⟨how, rfl⟩, -⟩ := hjob <;> simpa [connection?, hwork'] using hi
    refine ⟨t, x, ht, hopen, hj, hx, hjob.imp (fun hhears => ?_) fun hparts => ?_⟩
    · exact ⟨by rw [hwork', hhears.1], hhears.2⟩
    · exact ⟨hparts.1.imp fun how hhow => by rw [hwork', hhow], hparts.2⟩

/-- Who serves a connection is on the way to it, reads it, or waits for its end. -/
theorem serves_cases (hopen : t.isOpen = true) (hi : connection? t = some i) :
    coming? t = some i ∨ reading? t = some i ∨ ∃ how, t.work = .job (.part i how) := by
  unfold connection? at hi
  rw [coming?_eq_some, reading?_eq_some]
  split at hi <;> simp_all

/-- Who serves a connection that is let go of at once does not wait for its end. -/
theorem Manned.coming_or_reading {tasks : List Task} {connections : List Connection}
    (h : Manned tasks connections) (ht : tasks[k]? = some t) (hopen : t.isOpen = true)
    (hi : connection? t = some i) (hx : connections[i]? = some x) (hprompt : x.deferred = false) :
    coming? t = some i ∨ reading? t = some i := by
  obtain hcomes | hreads | ⟨how, hwork⟩ := serves_cases hopen hi
  · exact .inl hcomes
  · exact .inr hreads
  · have hdeferred := h.parted k t i how x ht hopen hwork hx
    exact absurd (hdeferred.symm.trans hprompt) (by simp)

theorem Arriving.perform (h : Arriving (e :: es) l) (hm : Manned l.tasks s.connections) :
    Arriving es (Loop.perform behaviour (l, s) e).1 := by
  intro k t' i ht' hcomes
  by_cases he : e = .resume k
  · subst he
    obtain ⟨hopen, hserves⟩ := coming?_eq_some.1 hcomes
    obtain ⟨-, -, -, -, -, -, ⟨hhears, -⟩ | ⟨⟨how, hparts⟩, -⟩⟩ :=
      goesOn_of_turn hm ht' hopen (connection?_of_coming? hcomes)
    · simp [hserves] at hhears
    · simp [hserves] at hparts
  · obtain ⟨t, ht, hsame⟩ := Loop.perform_before he s ht'
    have hmem := h k t i ht ((same_coming? hsame).symm.trans hcomes)
    exact (List.mem_cons.1 hmem).resolve_left (Ne.symm he)

theorem Arriving.performAll (h : Arriving (es ++ fs) l) (hm : Manned l.tasks s.connections) :
    Arriving fs (es.foldl (Loop.perform behaviour) (l, s)).1 := by
  induction es generalizing l s with
  | nil => exact h
  | cons e es ih =>
    have hrest : Arriving (es ++ fs) (Loop.perform behaviour (l, s) e).1 := Arriving.perform h hm
    exact ih hrest (hm.perform e)

/-- The connection of a task before an entry, by what it is behind it. -/
theorem connection_before (hm : Manned l.tasks s.connections) (ht : l.tasks[k]? = some t)
    (hi : connection? t = some i) (hy : (Loop.perform behaviour (l, s) e).2.connections[i]? = some y) :
    ∃ x, s.connections[i]? = some x ∧ x.Later y := by
  have hx := List.getElem?_eq_getElem (hm.known k t i ht hi)
  obtain ⟨z, hz, hlater⟩ := (behaviour_keeps.perform l s e).connection i _ hx
  obtain rfl := Option.some.inj (hy.symm.trans hz)
  exact ⟨_, hx, hlater⟩

/-- With nobody on the way, each turn of a reader is its last one. -/
theorem Leaving.perform (h : Leaving (e :: es) l s) (hm : Manned l.tasks s.connections)
    (hall : Arriving [] l) :
    Leaving es (Loop.perform behaviour (l, s) e).1 (Loop.perform behaviour (l, s) e).2 := by
  intro k t' i y ht' hreads hy hprompt
  by_cases he : e = .resume k
  · subst he
    obtain ⟨hopen', hwork'⟩ := reading?_eq_some.1 hreads
    obtain ⟨t, x, ht, hopen, hi, hx, ⟨-, hhung⟩ | ⟨⟨how, hparts⟩, -⟩⟩ :=
      goesOn_of_turn hm ht' hopen' (connection?_of_reading? hreads)
    · obtain ⟨x', hx', hlater⟩ := connection_before hm ht hi hy
      obtain rfl := Option.some.inj (hx.symm.trans hx')
      have hwas : x.deferred = false := hlater.deferred.symm.trans hprompt
      obtain hcomes | hread := hm.coming_or_reading ht hopen hi hx hwas
      · exact absurd (hall k t i ht hcomes) (by simp)
      · obtain ⟨-, hhung'⟩ := h k t i x ht hread hx hwas
        simp [hhung] at hhung'
    · simp [hwork'] at hparts
  · obtain ⟨t, ht, hsame⟩ := Loop.perform_before he s ht'
    have hread := (same_reading? hsame).symm.trans hreads
    obtain ⟨x, hx, hlater⟩ := connection_before hm ht (connection?_of_reading? hread) hy
    obtain ⟨hmem, hhung⟩ := h k t i x ht hread hx (hlater.deferred.symm.trans hprompt)
    exact ⟨(List.mem_cons.1 hmem).resolve_left (Ne.symm he), hlater.hungUp hhung⟩

theorem Leaving.performAll (h : Leaving (es ++ fs) l s) (hm : Manned l.tasks s.connections)
    (hall : Arriving [] l) :
    Leaving fs (es.foldl (Loop.perform behaviour) (l, s)).1
      (es.foldl (Loop.perform behaviour) (l, s)).2 := by
  induction es generalizing l s with
  | nil => exact h
  | cons e es ih =>
    have hrest : Leaving (es ++ fs) (Loop.perform behaviour (l, s) e).1
      (Loop.perform behaviour (l, s) e).2 := Leaving.perform h hm hall
    have hnobody : Arriving [] (Loop.perform behaviour (l, s) e).1 :=
      Arriving.perform (fun k t i ht hcomes => absurd (hall k t i ht hcomes) (by simp)) hm
    exact ih hrest (hm.perform e) hnobody

/-- The round in which the readers leave. -/
theorem Leaving.round (h : Leaving l.ready l s) (hm : Manned l.tasks s.connections)
    (hall : Arriving [] l) :
    LeftPromptly (Loop.round behaviour l s).1 (Loop.round behaviour l s).2 := by
  have hmanned := preserves_manned.round l s hm
  obtain ⟨delivered, coming, pipe, -, hround⟩ := Loop.round_eq_performAll (b := behaviour) l s
  have hstart : Leaving (l.ready ++ pipe ++ []) (l.begun delivered coming) s := by
    intro k t i x ht hreads hx hprompt
    obtain ⟨hmem, hhung⟩ := h k t i x ht hreads hx hprompt
    exact ⟨by simp [hmem], hhung⟩
  have hnobody : Arriving (l.ready ++ pipe ++ []) (l.begun delivered coming) :=
    fun k t i ht hcomes => absurd (hall k t i ht hcomes) (by simp)
  have hend := hstart.performAll hm hall
  have hnone := hnobody.performAll hm
  rw [← hround] at hend hnone
  intro t ht i x hi hx hprompt
  obtain ⟨k, hk⟩ := List.getElem?_of_mem ht
  cases hopen : t.isOpen with
  | false => rfl
  | true =>
    obtain hcomes | hreads := hmanned.coming_or_reading hk hopen hi hx hprompt
    · exact absurd (hnone k t i hk hcomes) (by simp)
    · exact absurd (hend k t i x hk hreads hx hprompt).1 (by simp)

/-- An active connection is deferred once the others were left. -/
theorem Manned.deferred_of_left (h : Manned l.tasks s.connections) (hl : LeftPromptly l s)
    (hx : x ∈ s.connections) (hactive : x.active = true) : x.deferred = true := by
  obtain ⟨i, hi⟩ := List.getElem?_of_mem hx
  obtain ⟨k, t, ht, hreads⟩ := (h.active i x hi).1 hactive
  cases hdeferred : x.deferred with
  | true => rfl
  | false =>
    have hover := hl t (List.mem_of_getElem? ht) i x (connection?_of_reading? hreads) hi hdeferred
    exact absurd ((reading?_eq_some.1 hreads).1.symm.trans hover) (by simp)

/-- If all connections are let go of at once, nobody serves one once these were left. -/
theorem Manned.deserted (h : Manned l.tasks s.connections) (hl : LeftPromptly l s)
    (hprompt : ∀ x ∈ s.connections, x.deferred = false) : Deserted l := by
  intro t ht i hi
  obtain ⟨k, hk⟩ := List.getElem?_of_mem ht
  have hx := List.getElem?_eq_getElem (h.known k t i hk hi)
  exact hl t ht i _ hi hx (hprompt _ (List.getElem_mem _))

/-! ### The round before that -/

/-- Readers of connections that are let go of at once have a turn coming, and their connections were hung
up. -/
def Woken (l : BusLoop) (s : Traffic) : Prop :=
  ∀ (k : Nat) (t : Task) (i : Nat) (x : Connection), l.tasks[k]? = some t → reading? t = some i →
    s.connections[i]? = some x → x.deferred = false → t.phase = .queued ∧ x.hungUp = true

theorem openGate_mem_closeAll (hx : s.connections[i]? = some x) (hactive : x.active = true)
    (hprompt : x.deferred = false) : .openGate i ∈ s.closeAll.1 := by
  refine List.mem_filterMap.2 ⟨i, List.mem_range.2 (List.getElem?_eq_some_iff.1 hx).1, ?_⟩
  rw [hx, Option.filter_some, if_pos hactive, Option.map_some, closing, hprompt]
  rfl

theorem resume_closeAll (ht : l.tasks[k]? = some (.new (.job .closeAll))) :
    Loop.resume behaviour l s k =
      ((s.closeAll.1.foldl Loop.serveRequest l).finish k (.new (.job .closeAll)) (.ended (.ok ())),
        s.closeAll.2) := by
  unfold Loop.resume
  rw [ht]
  rfl

/-- The turn that hangs up wakes all readers. -/
theorem woken_closeAll (hm : Manned l.tasks s.connections)
    (ht : l.tasks[k]? = some (.new (.job .closeAll))) :
    Woken (Loop.resume behaviour l s k).1 (Loop.resume behaviour l s k).2 := by
  have hasked := Loop.undisturbed_requests l s.closeAll.1
  intro j t' i y ht' hreads hy hprompt
  rw [resume_closeAll ht] at ht' hy
  rw [finish_tasks] at ht'
  obtain ⟨-, rfl⟩ | ⟨-, hwas⟩ := set_some ht'
  · simp [reading?, Loop.Task.isOpen] at hreads
  · obtain ⟨t, hbefore, hsame⟩ := hasked.before hwas
    have hread := (same_reading? hsame).symm.trans hreads
    obtain ⟨x, hx⟩ : ∃ x, s.connections[i]? = some x :=
      ⟨_, List.getElem?_eq_getElem (hm.known j t i hbefore (connection?_of_reading? hread))⟩
    have hactive := (hm.active i x hx).2 ⟨j, t, hbefore, hread⟩
    obtain rfl : x.close = y := by
      have hclosed := (closeAll_connection hx).symm.trans hy
      simpa [hactive] using hclosed
    have hwas' : x.deferred = false := by simpa using hprompt
    have hopened := Loop.not_waiting_requests (openGate_mem_closeAll hx hactive hwas') hwas
    obtain ⟨hopen, hwork⟩ := reading?_eq_some.1 hreads
    refine ⟨?_, Connection.close_hungUp (.inr hwas')⟩
    -- a reader waits at the gate of its connection only
    cases hphase : t'.phase with
    | queued => rfl
    | waiting g =>
      obtain hgate | ⟨how, hgate⟩ := (hm.undisturbed hasked).gate j t' g hwas hphase
      · obtain rfl : i = g := by simpa [hwork] using hgate
        exact absurd hphase hopened
      · simp [hwork] at hgate
    | ended | cancelled => simp [Loop.Task.isOpen, hphase] at hopen

/-- Who has not come to a connection yet has a turn coming. -/
theorem Manned.queued_of_coming {tasks : List Task} {connections : List Connection}
    (h : Manned tasks connections) (ht : tasks[k]? = some t) (hcomes : coming? t = some i) :
    t.phase = .queued := by
  obtain ⟨hopen, hwork⟩ := coming?_eq_some.1 hcomes
  cases hphase : t.phase with
  | queued => rfl
  | waiting g =>
    obtain hgate | ⟨how, hgate⟩ := h.gate k t g ht hphase <;> simp [hwork] at hgate
  | ended | cancelled => simp [Loop.Task.isOpen, hphase] at hopen

/-- The round in which the connections are hung up: what was ready is run before that, and maybe the pipe
behind it. -/
theorem round_closeAll (h : l.Resting taken) (hm : Manned l.tasks s.connections) :
    ∃ delivered coming pipe l₁ s₁, (pipe = [] ∨ pipe = [.readPipe]) ∧
      l.ready.foldl (Loop.perform behaviour)
        ((l.engaged (.job .closeAll)).begun delivered coming, s) = (l₁, s₁) ∧
      l₁.tasks[l.tasks.length]? = some (.new (.job .closeAll)) ∧ Manned l₁.tasks s₁.connections ∧
      Loop.round behaviour (l.engaged (.job .closeAll)) s =
        pipe.foldl (Loop.perform behaviour) (Loop.resume behaviour l₁ s₁ l.tasks.length) := by
  obtain ⟨delivered, coming, pipe, hpipe, hround⟩ :=
    Loop.round_eq_performAll (b := behaviour) (l.engaged (.job .closeAll)) s
  have hmanned : Manned ((l.engaged (.job .closeAll)).begun delivered coming).tasks s.connections :=
    hm.employ rfl
  have hready : (l.engaged (.job .closeAll)).ready = l.ready ++ [.resume l.tasks.length] := rfl
  have hlast : .resume l.tasks.length ∉ l.ready := fun hmem =>
    Nat.lt_irrefl _ (h.known _ (by simpa using hmem))
  have hnew : ((l.engaged (.job .closeAll)).begun delivered coming).tasks[l.tasks.length]? =
      some (.new (.job .closeAll)) := by simp [Loop.engaged, Loop.begun, Loop.add]
  have hkept := (Loop.ran_performAll (b := behaviour) l.ready
    ((l.engaged (.job .closeAll)).begun delivered coming) s).tasks _ _ hnew (.inr ⟨rfl, hlast⟩)
  have hreached := preserves_manned.performAll l.ready _ _ hmanned
  rw [hready, List.append_assoc, List.foldl_append, List.singleton_append, List.foldl_cons] at hround
  exact ⟨delivered, coming, pipe, _, _, hpipe, rfl, hkept, hreached, hround⟩

/-- In the round in which the connections are hung up, those on the way come first. -/
theorem round_hangingUp (h : l.Resting taken) (hm : Manned l.tasks s.connections) :
    Woken (Loop.round behaviour (l.engaged (.job .closeAll)) s).1
        (Loop.round behaviour (l.engaged (.job .closeAll)) s).2 ∧
      Arriving [] (Loop.round behaviour (l.engaged (.job .closeAll)) s).1 := by
  constructor
  · obtain ⟨-, -, pipe, l₁, s₁, hpipe, -, hnew, hmanned, hround⟩ := round_closeAll h hm
    have hwoken := woken_closeAll hmanned hnew
    rw [hround]
    obtain rfl | rfl := hpipe <;> exact hwoken
  · obtain ⟨delivered, coming, pipe, -, hround⟩ :=
      Loop.round_eq_performAll (b := behaviour) (l.engaged (.job .closeAll)) s
    have hmanned : Manned ((l.engaged (.job .closeAll)).begun delivered coming).tasks s.connections :=
      hm.employ rfl
    have harriving : Arriving (((l.engaged (.job .closeAll)).ready ++ pipe) ++ [])
        ((l.engaged (.job .closeAll)).begun delivered coming) := by
      intro k t i ht hcomes
      have hmem := (h.engaged (.job .closeAll)).scheduled k t ht (hmanned.queued_of_coming ht hcomes)
      simp only [List.nil_append] at hmem
      simp [hmem]
    have hnobody := harriving.performAll hmanned
    rwa [← hround] at hnobody

/-- Hanging up on all connections leaves nobody at one that is let go of at once, unless a halt cuts it
short. -/
theorem left_closeAll (h : l.Resting taken) (hm : Manned l.tasks s.connections)
    (hcalm : .halt ∉ l.ready) :
    LeftPromptly (Loop.complete behaviour (.job .closeAll) l s).2.1
      (Loop.complete behaviour (.job .closeAll) l s).2.2 := by
  have hhalts : Loop.halts (l.engaged (.job .closeAll)).ready = 0 := by
    rw [Loop.halts_engaged]
    exact Nat.eq_zero_of_not_pos fun hpos => hcalm (Loop.halts_pos.1 hpos)
  have hsound := (h.engaged (.job .closeAll)).round (b := behaviour) s
  have hmanned : Manned (l.engaged (.job .closeAll)).tasks s.connections := hm.employ rfl
  obtain ⟨hwoken, hall⟩ := round_hangingUp h hm
  have hstill : (l.engaged (.job .closeAll)).stopping = false := h.still
  have hleaving : Leaving (Loop.round behaviour (l.engaged (.job .closeAll)) s).1.ready
      (Loop.round behaviour (l.engaged (.job .closeAll)) s).1
      (Loop.round behaviour (l.engaged (.job .closeAll)) s).2 := by
    intro k t i x ht hreads hx hprompt
    obtain ⟨hqueued, hhung⟩ := hwoken k t i x ht hreads hx hprompt
    exact ⟨hsound.scheduled k t ht hqueued, hhung⟩
  have hleft := hleaving.round (preserves_manned.round _ _ hmanned) hall
  have hrounds : LeftPromptly (Loop.rounds behaviour 2 (l.engaged (.job .closeAll)) s).1
      (Loop.rounds behaviour 2 (l.engaged (.job .closeAll)) s).2 := by
    rw [Loop.rounds_of_no_halt hstill hhalts, Loop.rounds_succ]
    split <;> exact hleft
  rw [Loop.complete_eq h.opened]
  split <;> exact hrounds

/-! ### What is closed -/

/-- The connection is active, unless it was closed more often than so many times. -/
def Minded (i n : Nat) (s : Traffic) : Prop :=
  ∃ x, s.connections[i]? = some x ∧ n ≤ x.closes ∧ (x.active = true ∨ n < x.closes)

/-- The connection was closed more often than so many times. -/
def Closed (i n : Nat) (s : Traffic) : Prop := ∃ x, s.connections[i]? = some x ∧ n < x.closes

theorem Minded.follows {s' : Traffic} (h : Minded i n s) (hfollows : s.Follows s') : Minded i n s' := by
  obtain ⟨x, hx, hle, hminded⟩ := h
  obtain ⟨y, hy, hlater⟩ := hfollows.connection i x hx
  refine ⟨y, hy, Nat.le_trans hle hlater.closes, ?_⟩
  obtain hactive | hlt := hminded
  · exact (hlater.left hactive).imp id (Nat.lt_of_le_of_lt hle)
  · exact .inr (Nat.lt_of_lt_of_le hlt hlater.closes)

theorem preserves_minded (i n : Nat) : behaviour.Preserves fun _ s => Minded i n s :=
  ⟨fun l s e h => h.follows (behaviour_keeps.perform l s e)⟩

theorem preserves_closed (i n : Nat) : behaviour.Preserves fun _ s => Closed i n s where
  perform := by
    rintro l s e ⟨x, hx, hlt⟩
    obtain ⟨y, hy, hlater⟩ := (behaviour_keeps.perform l s e).connection i x hx
    exact ⟨y, hy, Nat.lt_of_lt_of_le hlt hlater.closes⟩

/-- All that are active are closed as all connections are hung up. -/
theorem Minded.closeAll (h : Minded i n s) (ht : l.tasks[k]? = some (.new (.job .closeAll))) :
    Closed i n (Loop.resume behaviour l s k).2 := by
  obtain ⟨x, hx, hle, hminded⟩ := h
  rw [resume_closeAll ht]
  refine ⟨_, closeAll_connection hx, ?_⟩
  obtain hactive | hlt := hminded
  · simpa [hactive] using Nat.lt_succ_of_le hle
  · split
    · simpa using Nat.lt_succ_of_lt hlt
    · exact hlt

/-- The turn in which a task that was not cancelled comes to its connection. -/
theorem minded_serve (ht : l.tasks[k]? = some t) (hcomes : coming? t = some i)
    (hspared : t.cancelling = false) (hx : s.connections[i]? = some x) (hle : n ≤ x.closes) :
    Minded i n (Loop.resume behaviour l s k).2 := by
  obtain ⟨hopen, hwork⟩ := coming?_eq_some.1 hcomes
  obtain ⟨turn, requests, s', y, hadvance, -, hattends, -, hset⟩ := advance_serve hx
  have hstate : (Loop.resume behaviour l s k).2 = s' := by
    unfold Loop.resume
    simp only [ht, hopen, hspared, hwork, behaviour, hadvance, if_true, Bool.false_and,
      Bool.false_eq_true, if_false]
    cases turn <;> rfl
  have hlater : x.Later y := (Connection.later_join x).trans hattends.later
  refine ⟨y, by rw [hstate, hset, set_self hx], Nat.le_trans hle hlater.closes, ?_⟩
  have hcloses : x.join.ask.closes = x.closes := by
    simp [Connection.join, Connection.ask, Connection.closes, Connection.note]
  exact (hattends.later.left rfl).imp id fun hlt => Nat.lt_of_le_of_lt hle (hcloses ▸ hlt)

/-- Who was on the way to a connection has come to it once what was ready was run. -/
theorem minded_ready (h : l.Resting taken) (hm : Manned l.tasks s.connections)
    (hspared : Loop.Spared l.tasks) (ht : l.tasks[k]? = some t)
    (hserves : coming? t = some i ∨ reading? t = some i) (hx : s.connections[i]? = some x)
    (delivered : List Signal) (coming : List (List Signal)) :
    Minded i x.closes (l.ready.foldl (Loop.perform behaviour)
      ((l.engaged w).begun delivered coming, s)).2 := by
  have hthere : ((l.engaged w).begun delivered coming).tasks[k]? = some t := by
    rw [← ht]
    exact List.getElem?_append_left (List.getElem?_eq_some_iff.1 ht).1
  obtain hcomes | hreads := hserves
  · have hqueued := hm.queued_of_coming ht hcomes
    have hmem : .resume k ∈ l.ready := by simpa using h.scheduled k t ht hqueued
    obtain ⟨before, after, hsplit, hfirst⟩ := List.eq_append_cons_of_mem hmem
    have hkept := (Loop.ran_performAll (b := behaviour) before
      ((l.engaged w).begun delivered coming) s).tasks k t hthere (.inr ⟨hqueued, hfirst⟩)
    obtain ⟨x₁, hx₁, hlater⟩ := (behaviour_keeps.performAll before
      ((l.engaged w).begun delivered coming) s).connection i x hx
    rw [hsplit, List.foldl_append, List.foldl_cons]
    exact (preserves_minded i x.closes).performAll _ _ _ (minded_serve hkept hcomes
      (hspared k t ht (coming?_eq_some.1 hcomes).1) hx₁ hlater.closes)
  · have hactive := (hm.active_iff ht (connection?_of_reading? hreads) hx).2 hreads
    exact (preserves_minded i x.closes).performAll _ _ _ ⟨x, hx, Nat.le_refl _, .inl hactive⟩

/-- Hanging up closes all connections that are read or about to be. -/
theorem closed_closeAll (h : l.Resting taken) (hm : Manned l.tasks s.connections)
    (hspared : Loop.Spared l.tasks) (ht : l.tasks[k]? = some t)
    (hserves : coming? t = some i ∨ reading? t = some i) (hx : s.connections[i]? = some x) :
    Closed i x.closes (Loop.complete behaviour (.job .closeAll) l s).2.2 := by
  have hround : Closed i x.closes (Loop.round behaviour (l.engaged (.job .closeAll)) s).2 := by
    obtain ⟨delivered, coming, pipe, l₁, s₁, -, hready, hnew, -, hround⟩ := round_closeAll h hm
    have hminded := minded_ready (w := .job .closeAll) h hm hspared ht hserves hx delivered coming
    rw [hready] at hminded
    rw [hround]
    exact (preserves_closed i x.closes).performAll pipe _ _ (hminded.closeAll hnew)
  have hrounds : Closed i x.closes (Loop.rounds behaviour 2 (l.engaged (.job .closeAll)) s).2 := by
    rw [Loop.rounds_succ]
    split
    · exact hround
    · exact (preserves_closed i x.closes).rounds 1 _ _ hround
  rw [Loop.complete_eq h.opened]
  split <;> exact hrounds

end MessageBus.Traffic
