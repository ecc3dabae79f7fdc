import MessageBus.Proofs.Loop.Gathering
import MessageBus.Traffic
/-!
What a turn on the loop of a bus does to its connections. A turn in the service of a connection changes no
other one: it reads on and waits, or it leaves the connection, closes it and may wait for its end. Main
statement: whatever happens on the loop, a connection that was active still is, or it was closed in between.
-/
namespace MessageBus

namespace Connection
variable {x y z : Connection} {text : String} {rest : List String} {a : Act}

/-! ### What is noted of a connection -/

@[simp] theorem reads_note (x : Connection) (a : Act) : (x.note a).reads = x.reads + [a].count .asked := by
  simp [reads, note]

@[simp] theorem closes_note (x : Connection) (a : Act) :
    (x.note a).closes = x.closes + [a].count .closed := by
  simp [closes, note]

@[simp] theorem waits_note (x : Connection) (a : Act) : (x.note a).waits = x.waits + [a].count .waited := by
  simp [waits, note]

@[simp] theorem close_acts (x : Connection) : x.close.acts = x.acts ++ [.closed] := by
  unfold close
  split <;> rfl

@[simp] theorem close_active (x : Connection) : x.close.active = x.active := by
  unfold close
  split <;> rfl

@[simp] theorem close_deferred (x : Connection) : x.close.deferred = x.deferred := by
  unfold close
  split <;> rfl

@[simp] theorem close_ending (x : Connection) : x.close.ending = x.ending := by
  unfold close
  split <;> rfl

@[simp] theorem close_farewell (x : Connection) : x.close.farewell = x.farewell := by
  unfold close
  split <;> rfl

@[simp] theorem close_chunks (x : Connection) : x.close.chunks = x.chunks := by
  unfold close
  split <;> rfl

theorem close_hungUp (h : x.hungUp = true ∨ x.deferred = false) : x.close.hungUp = true := by
  unfold close
  split
  · rename_i hdeferred
    exact h.resolve_right (by simp [hdeferred])
  · rfl

theorem close_gone (h : x.gone = true ∨ x.deferred = false) : x.close.gone = true := by
  unfold close
  split
  · rename_i hdeferred
    exact h.resolve_right (by simp [hdeferred])
  · rfl

@[simp] theorem reads_close (x : Connection) : x.close.reads = x.reads := by simp [reads]

@[simp] theorem closes_close (x : Connection) : x.close.closes = x.closes + 1 := by simp [closes]

@[simp] theorem waits_close (x : Connection) : x.close.waits = x.waits := by simp [waits]

/-- The connection behind some more reads that took chunks of it. -/
def readTo (x : Connection) (reads : Nat) (chunks : List String) : Connection :=
  { x with acts := x.acts ++ .replicate reads .asked, chunks := chunks }

@[simp] theorem reads_readTo (x : Connection) (n : Nat) (chunks : List String) :
    (x.readTo n chunks).reads = x.reads + n := by
  simp [reads, readTo]

@[simp] theorem closes_readTo (x : Connection) (n : Nat) (chunks : List String) :
    (x.readTo n chunks).closes = x.closes := by
  simp [closes, readTo, List.count_replicate]

@[simp] theorem waits_readTo (x : Connection) (n : Nat) (chunks : List String) :
    (x.readTo n chunks).waits = x.waits := by
  simp [waits, readTo, List.count_replicate]

theorem readTo_zero (x : Connection) : x.readTo 0 x.chunks = x := by simp [readTo]

/-- The connection as its handler begins to wait for its end. -/
def departed (x : Connection) : Connection := x.leave.close.await

@[simp] theorem departed_active (x : Connection) : x.departed.active = false := close_active x.leave

@[simp] theorem departed_deferred (x : Connection) : x.departed.deferred = x.deferred :=
  close_deferred x.leave

@[simp] theorem departed_farewell (x : Connection) : x.departed.farewell = x.farewell :=
  close_farewell x.leave

@[simp] theorem departed_waits (x : Connection) : x.departed.waits = x.waits + 1 := by
  simp [departed, await, leave]
  rfl

@[simp] theorem departed_closes (x : Connection) : x.departed.closes = x.closes + 1 := by
  simp [departed, await, leave]
  rfl

/-- Nobody waits for the end of a connection that is let go of at once. -/
theorem departed_isGone (h : x.deferred = false) : x.departed.isGone = true := by
  have hgone : x.departed.gone = true := close_gone (x := x.leave) (.inr h)
  simp [isGone, hgone]

/-! ### What becomes of a connection -/

/-- What becomes of a connection: it ends as it would have before, and is let go of as it would have been; a
hang-up is for good, and it does not cease to be active without being closed. -/
structure Later (x y : Connection) : Prop where
  ending : y.ending = x.ending
  deferred : y.deferred = x.deferred
  hungUp : x.hungUp = true → y.hungUp = true
  gone : x.gone = true → y.gone = true
  closes : x.closes ≤ y.closes
  left : x.active = true → y.active = true ∨ x.closes < y.closes

theorem Later.refl (x : Connection) : x.Later x := ⟨rfl, rfl, id, id, Nat.le_refl _, .inl⟩

theorem Later.trans (h : x.Later y) (h' : y.Later z) : x.Later z where
  ending := h'.ending.trans h.ending
  deferred := h'.deferred.trans h.deferred
  hungUp := fun hx => h'.hungUp (h.hungUp hx)
  gone := fun hx => h'.gone (h.gone hx)
  closes := Nat.le_trans h.closes h'.closes
  left := by
    intro hx
    obtain hy | hclosed := h.left hx
    · exact (h'.left hy).imp id (Nat.lt_of_le_of_lt h.closes)
    · exact .inr (Nat.lt_of_lt_of_le hclosed h'.closes)

/-- What is gone stays so. -/
theorem Later.isGone (h : x.Later y) (hgone : x.isGone = true) : y.isGone = true := by
  unfold Connection.isGone at hgone ⊢
  rw [h.ending]
  cases hx : x.gone with
  | true => simp [h.gone hx]
  | false =>
    rw [hx, Bool.false_or] at hgone
    simp [hgone]

theorem later_letGo (x : Connection) : x.Later x.letGo :=
  ⟨rfl, rfl, fun _ => rfl, fun _ => rfl, Nat.le_refl _, .inl⟩

theorem later_close (x : Connection) : x.Later x.close where
  ending := close_ending x
  deferred := close_deferred x
  hungUp := fun h => close_hungUp (.inl h)
  gone := fun h => close_gone (.inl h)
  closes := by simp
  left := fun h => .inl (by rwa [close_active])

theorem later_readTo (x : Connection) (n : Nat) (chunks : List String) : x.Later (x.readTo n chunks) :=
  ⟨rfl, rfl, id, id, by simp, .inl⟩

theorem later_departed (x : Connection) : x.Later x.departed where
  ending := close_ending x.leave
  deferred := departed_deferred x
  hungUp := fun h => close_hungUp (x := x.leave) (.inl h)
  gone := fun h => close_gone (x := x.leave) (.inl h)
  closes := by simp
  left := fun _ => .inr (by simp)

theorem later_join (x : Connection) : x.Later x.join.ask :=
  ⟨rfl, rfl, id, id, by simp [join, ask, closes, note], fun _ => .inl rfl⟩

/-- Reading only counts reads and takes chunks. -/
theorem readOn_eq (x : Connection) : ∃ n chunks, x.readOn.2 = x.readTo n chunks := by
  unfold readOn readTo
  simp only [List.map_const']
  split <;> exact ⟨_, _, rfl⟩

/-! ### Reading chunk by chunk -/

theorem readOn_nil (h : x.chunks = []) : x.readOn = (x.lastRead, x) := by
  simp [readOn, h]
  constructor
  · simp [lastRead]
  · rw [← h]

theorem readOn_empty (h : x.chunks = "" :: rest) :
    x.readOn = (some .nothingMore, { x with chunks := rest }) := by
  simp [readOn, h]

/-- Behind a full chunk the next read begins. -/
theorem readOn_more (h : x.chunks = text :: rest) (htext : text ≠ "") :
    x.readOn = Connection.readOn { x.ask with chunks := rest } := by
  simp [readOn, h, htext, ask, note]
  rfl

/-- There is nothing to read, and no end to be told of. -/
def Silent (x : Connection) : Prop :=
  (∀ text ∈ x.chunks, text ≠ "") ∧ x.ending = .staysOpen ∧ x.hungUp = false

/-- A reader waits at a silent connection, and at no other. -/
theorem readOn_none (x : Connection) : x.readOn.1 = none ↔ x.Silent := by
  generalize hchunks : x.chunks = chunks
  induction chunks generalizing x with
  | nil =>
    rw [readOn_nil hchunks, Silent, hchunks]
    unfold lastRead
    cases hending : x.ending <;> simp
  | cons text rest ih =>
    by_cases htext : text = ""
    · subst htext
      rw [readOn_empty hchunks, Silent, hchunks]
      simp
    · rw [readOn_more hchunks htext, ih _ rfl, Silent, Silent, hchunks]
      simp [htext, ask, note]

end Connection

namespace Traffic

/-- What becomes of the traffic on a loop: connections go on, none comes in, and nothing but details is
logged. -/
structure Follows (t t' : Traffic) : Prop where
  length : t'.connections.length = t.connections.length
  connection : ∀ (i : Nat) (x : Connection), t.connections[i]? = some x →
    ∃ y, t'.connections[i]? = some y ∧ x.Later y
  log : ∃ more, t'.log = t.log ++ more ∧ ∀ r ∈ more, r.level = .debug

/-- A turn in the service of a connection: its reader goes on and waits for more, or it leaves and closes the
connection, and waits for its end or is over. -/
inductive Attends (i : Nat) (x : Connection) : Loop.Turn Job Outcome → List Request → Connection → Prop
  | waits (n : Nat) (chunks : List String) (hstays : x.ending = .staysOpen ∧ x.hungUp = false) :
      Attends i x (.waits i (.hear i)) [] (x.readTo n chunks)
  | parts (n : Nat) (chunks : List String) (how : Connection.ReadEnd) (hdeferred : x.deferred = true)
      (hthere : (x.readTo n chunks).departed.isGone = false) :
      Attends i x (.waits i (.part i how)) [closing i x] (x.readTo n chunks).departed
  | leaves {turn : Loop.Turn Job Outcome} (n : Nat) (chunks : List String)
      (hgone : (x.readTo n chunks).departed.isGone = true) (hends : ∀ gate job, turn ≠ .waits gate job) :
      Attends i x turn [closing i x] (x.readTo n chunks).departed

variable {t t' t₁ : Traffic} {x y c : Connection} {i j : Nat} {turn : Loop.Turn Job Outcome}
  {requests : List Request} {how : Connection.ReadEnd} {cancelled : Bool}

/-! ### What follows -/

theorem Follows.refl (t : Traffic) : t.Follows t :=
  ⟨rfl, fun _ x hx => ⟨x, hx, .refl x⟩, [], by simp, by simp⟩

theorem Follows.trans (h : t.Follows t₁) (h' : t₁.Follows t') : t.Follows t' where
  length := h'.length.trans h.length
  connection := by
    intro i x hx
    obtain ⟨y, hy, hxy⟩ := h.connection i x hx
    obtain ⟨z, hz, hyz⟩ := h'.connection i y hy
    exact ⟨z, hz, hxy.trans hyz⟩
  log := by
    obtain ⟨more, hlog, hdebug⟩ := h.log
    obtain ⟨more', hlog', hdebug'⟩ := h'.log
    refine ⟨more ++ more', by rw [hlog', hlog, List.append_assoc], fun r hr => ?_⟩
    obtain hr | hr := List.mem_append.1 hr
    · exact hdebug r hr
    · exact hdebug' r hr

/-- Connections that are all let go of at once stay so. -/
theorem Follows.prompt (h : t.Follows t') (hprompt : ∀ x ∈ t.connections, x.deferred = false)
    (hy : y ∈ t'.connections) : y.deferred = false := by
  obtain ⟨i, hi, rfl⟩ := List.getElem_of_mem hy
  obtain ⟨z, hz, hlater⟩ := h.connection i _ (List.getElem?_eq_getElem (h.length ▸ hi))
  obtain rfl := Option.some.inj ((List.getElem?_eq_getElem hi).symm.trans hz)
  exact hlater.deferred.trans (hprompt _ (List.getElem_mem _))

theorem follows_record (t : Traffic) (message : String) : t.Follows (t.record message) :=
  { Follows.refl t with log := ⟨_, rfl, by simp⟩ }

/-- One connection goes on. -/
theorem follows_change (t : Traffic) {f : Connection → Connection}
    (h : ∀ x, t.connections[i]? = some x → x.Later (f x)) : t.Follows (t.change i f) := by
  refine { Follows.refl t with length := by simp [change], connection := fun j x hx => ?_ }
  by_cases hij : i = j
  · subst hij
    exact ⟨f x, by simp [change, hx], h x hx⟩
  · exact ⟨x, by rw [change_of_ne t hij, hx], .refl x⟩

theorem change_set (t : Traffic) (i : Nat) (y : Connection) :
    (t.change i fun _ => y).connections = t.connections.set i y := by
  refine List.ext_getElem? fun j => ?_
  simp only [change, List.getElem?_modify, List.getElem?_set]
  split
  · split <;> simp_all
  · simp

theorem set_change (t : Traffic) (i : Nat) (f : Connection → Connection) (y : Connection) :
    (t.change i f).connections.set i y = t.connections.set i y := by
  refine List.ext_getElem? fun j => ?_
  by_cases hij : i = j
  · subst hij
    simp [change, List.getElem?_set]
  · rw [List.getElem?_set_ne hij, List.getElem?_set_ne hij, change_of_ne t hij]

/-! ### Turns -/

theorem Attends.later (h : Attends i x turn requests y) : x.Later y := by
  cases h with
  | waits n chunks => exact x.later_readTo n chunks
  | parts n chunks => exact (x.later_readTo n chunks).trans (Connection.later_departed _)
  | leaves n chunks => exact (x.later_readTo n chunks).trans (Connection.later_departed _)

/-- Whoever waits for a connection waits at its gate: to hear from it, where it was not hung up, or for its
end, which comes later. -/
theorem Attends.waiting {gate : Nat} {job : Job} (h : Attends i x (.waits gate job) requests y) :
    gate = i ∧ (job = .hear i ∧ x.hungUp = false ∨
      (∃ how, job = .part i how) ∧ x.deferred = true ∧ requests = [.call (.letGo i)] ∧
        y.isGone = false) := by
  cases h with
  | waits n chunks hstays => exact ⟨rfl, .inl ⟨rfl, hstays.2⟩⟩
  | parts n chunks how hdeferred hthere =>
    exact ⟨rfl, .inr ⟨⟨how, rfl⟩, hdeferred, by simp [closing, hdeferred], hthere⟩⟩
  | leaves n chunks hgone hends => exact absurd rfl (hends gate job)

theorem settle_kept (t : Traffic) (how : Connection.ReadEnd) (farewell : Farewell) :
    t.Follows (t.settle how farewell).2 ∧ (t.settle how farewell).2.connections = t.connections ∧
      ∀ gate job, (t.settle how farewell).1 ≠ .waits gate job := by
  unfold settle
  cases farewell with
  | failed e => exact ⟨.refl t, rfl, by simp⟩
  | quiet | reset => cases how <;> exact ⟨follows_record t _, rfl, by simp⟩

theorem settle_ends (t : Traffic) (farewell : Farewell) (h : how ≠ .cancelled) :
    ∃ v, (t.settle how farewell).1 = .ends v := by
  unfold settle
  cases how with
  | cancelled => exact absurd rfl h
  | nothingMore | lost | failed => cases farewell <;> exact ⟨_, rfl⟩

/-- Waiting for the end of a connection changes none. -/
theorem part_kept (t : Traffic) (i : Nat) (c : Connection) (how : Connection.ReadEnd) :
    t.Follows (t.part i c how).2 ∧ (t.part i c how).2.connections = t.connections ∧
      (c.isGone = false ∧ (t.part i c how).1 = .waits i (.part i how) ∨
        c.isGone = true ∧ ∀ gate job, (t.part i c how).1 ≠ .waits gate job) := by
  unfold part
  cases hgone : c.isGone with
  | true =>
    obtain ⟨hfollows, hsame, hends⟩ := settle_kept t how c.farewell
    exact ⟨hfollows, hsame, .inr ⟨rfl, hends⟩⟩
  | false => exact ⟨.refl t, rfl, .inl ⟨rfl, rfl⟩⟩

/-- The traffic as the end of reading is told of. -/
def afterReading (t : Traffic) : Connection.ReadEnd → Traffic
  | .lost message => t.record ("Connection lost: " ++ message)
  | _ => t

@[simp] theorem afterReading_connections (t : Traffic) (how : Connection.ReadEnd) :
    (t.afterReading how).connections = t.connections := by
  cases how <;> rfl

theorem follows_afterReading (t : Traffic) (how : Connection.ReadEnd) : t.Follows (t.afterReading how) := by
  cases how with
  | lost message => exact follows_record t _
  | _ => exact .refl t

theorem closing_departed (i : Nat) (c : Connection) : closing i c.departed = closing i c := by
  simp [closing]

theorem conclude_eq (t : Traffic) (i : Nat) (c : Connection) (how : Connection.ReadEnd) :
    t.conclude i c how =
      ((((t.afterReading how).change i fun _ => c.departed).part i c.departed how).1, [closing i c],
        (((t.afterReading how).change i fun _ => c.departed).part i c.departed how).2) := by
  rw [← closing_departed]
  unfold conclude
  cases how <;> rfl

/-- A connection that was read so far is left. -/
theorem conclude_attends (t : Traffic) (i : Nat) {c : Connection} {n : Nat} {chunks : List String}
    (hc : c = x.readTo n chunks) (how : Connection.ReadEnd)
    (hleft : ∀ u, t.connections[i]? = some u → u.Later x) :
    ∃ turn t', t.conclude i c how = (turn, [closing i x], t') ∧
      Attends i x turn [closing i x] c.departed ∧ t.Follows t' ∧
      t'.connections = t.connections.set i c.departed := by
  subst hc
  have hchange : t.Follows ((t.afterReading how).change i fun _ => (x.readTo n chunks).departed) := by
    refine (follows_afterReading t how).trans (follows_change _ fun u hu => ?_)
    rw [afterReading_connections] at hu
    exact (hleft u hu).trans ((x.later_readTo n chunks).trans (Connection.later_departed _))
  obtain ⟨hfollows, hsame, hturn⟩ := part_kept
    ((t.afterReading how).change i fun _ => (x.readTo n chunks).departed) i
    (x.readTo n chunks).departed how
  refine ⟨_, _, conclude_eq t i _ how, ?_, hchange.trans hfollows, ?_⟩
  · obtain ⟨hthere, hwaits⟩ | ⟨hgone, hends⟩ := hturn
    · have hdeferred : x.deferred = true := by
        cases hx : x.deferred with
        | true => rfl
        | false =>
          have hgone := Connection.departed_isGone (x := x.readTo n chunks) hx
          exact absurd (hgone.symm.trans hthere) (by simp)
      rw [hwaits]
      exact .parts n chunks how hdeferred hthere
    · exact .leaves n chunks hgone hends
  · rw [hsame, change_set, afterReading_connections]

/-- A read that was begun is gone on with. -/
theorem hear_attends (t : Traffic) (i : Nat) (c : Connection)
    (hc : ∀ u, t.connections[i]? = some u → u.Later c) :
    ∃ turn requests t' y, t.hear i c = (turn, requests, t') ∧ Attends i c turn requests y ∧
      t.Follows t' ∧ t'.connections = t.connections.set i y := by
  obtain ⟨n, chunks, hread⟩ := c.readOn_eq
  have hstays := c.readOn_none
  unfold hear
  generalize c.readOn = result at hread hstays ⊢
  obtain ⟨how, c'⟩ := result
  obtain rfl : c' = _ := hread
  cases how with
  | some how =>
    obtain ⟨turn, t', hconclude, hattends, hfollows, hset⟩ := conclude_attends t i rfl how hc
    exact ⟨_, _, _, _, hconclude, hattends, hfollows, hset⟩
  | none =>
    have hwaits := Attends.waits (i := i) n chunks (hstays.1 rfl).2
    exact ⟨_, _, _, _, rfl, hwaits, follows_change t fun u hu => (hc u hu).trans hwaits.later,
      change_set t i _⟩

theorem advance_hear (hx : t.connections[i]? = some x) (cancelled : Bool) :
    ∃ turn requests t' y, advance (.hear i) cancelled t = (turn, requests, t') ∧
      Attends i x turn requests y ∧ t.Follows t' ∧ t'.connections = t.connections.set i y ∧
      (cancelled = true → ∀ gate, turn ≠ .waits gate (.hear i)) := by
  have hsame : ∀ u, t.connections[i]? = some u → u.Later x := by
    intro u hu
    obtain rfl := Option.some.inj (hx.symm.trans hu)
    exact .refl x
  cases cancelled with
  | true =>
    obtain ⟨turn, t', hconclude, hattends, hfollows, hset⟩ :=
      conclude_attends t i x.readTo_zero.symm .cancelled hsame
    refine ⟨turn, _, t', _, by simp [advance, hx, hconclude], hattends, hfollows, hset, ?_⟩
    rintro - gate rfl
    have hturn := congrArg (·.1) hconclude
    rw [conclude_eq] at hturn
    obtain ⟨-, -, ⟨-, hwaits⟩ | ⟨-, hends⟩⟩ := part_kept
      ((t.afterReading .cancelled).change i fun _ => x.departed) i x.departed .cancelled
    · simp [hwaits] at hturn
    · exact hends _ _ hturn
  | false =>
    obtain ⟨turn, requests, t', y, hhear, hattends, hfollows, hset⟩ := hear_attends t i x hsame
    exact ⟨turn, requests, t', y, by simp [advance, hx, hhear], hattends, hfollows, hset, by simp⟩

/-- The traffic once the handler came to its connection. -/
def accepted (t : Traffic) (i : Nat) : Traffic :=
  let t := t.change i Connection.join
  t.record ("Connection accepted (" ++ toString t.active ++ " active)")

/-- The first turn: the reader comes to the connection. -/
theorem advance_serve (hx : t.connections[i]? = some x) :
    ∃ turn requests t' y, advance (.serve i) false t = (turn, requests, t') ∧
      (t.accepted i).hear i x.join.ask = (turn, requests, t') ∧
      Attends i x.join.ask turn requests y ∧ t.Follows t' ∧
      t'.connections = t.connections.set i y := by
  have hjoined : t.Follows (t.change i Connection.join) :=
    follows_change t fun u _ => ⟨rfl, rfl, id, id, by simp [Connection.join, Connection.closes,
      Connection.note], fun _ => .inl rfl⟩
  obtain ⟨turn, requests, t', y, hhear, hattends, hfollows, hset⟩ :=
    hear_attends (t.accepted i) i x.join.ask (by
      intro u hu
      obtain rfl : x.join = u := by simpa [accepted, record, change, hx] using hu
      exact ⟨rfl, rfl, id, id, by simp [Connection.ask], fun _ => .inl rfl⟩)
  refine ⟨turn, requests, t', y, ?_, hhear, hattends,
    hjoined.trans ((follows_record _ _).trans hfollows), ?_⟩
  · rw [← hhear]
    simp only [advance, hx, Bool.false_eq_true, if_false]
    rfl
  · rw [hset]
    exact set_change t i _ y

/-- The turn of a handler that waits for the end of a connection. -/
theorem advance_part (hx : t.connections[i]? = some x) (how : Connection.ReadEnd) (cancelled : Bool) :
    ∃ turn t', advance (.part i how) cancelled t = (turn, [], t') ∧ t.Follows t' ∧
      t'.connections = t.connections ∧
      (cancelled = false ∧ x.isGone = false ∧ turn = .waits i (.part i how) ∨
        (cancelled = true ∨ x.isGone = true) ∧ ∀ gate job, turn ≠ .waits gate job) := by
  cases cancelled with
  | true => exact ⟨.cancelled, t, by simp [advance, hx], .refl t, rfl, .inr ⟨.inl rfl, by simp⟩⟩
  | false =>
    obtain ⟨hfollows, hsame, hturn⟩ := part_kept t i x how
    refine ⟨(t.part i x how).1, _, by simp [advance, hx], hfollows, hsame, ?_⟩
    exact hturn.imp (fun h => ⟨rfl, h⟩) fun h => ⟨.inr h.1, h.2⟩

theorem readOn_not_cancelled (c : Connection) : c.readOn.1 ≠ some .cancelled := by
  unfold Connection.readOn
  dsimp only
  split
  · simp
  · unfold Connection.lastRead
    dsimp only
    split <;> (try split) <;> simp

/-- A connection that neither stays open nor is waited for is served at one turn. -/
theorem serve_ends (hx : t.connections[i]? = some x) (hends : x.ending ≠ .staysOpen)
    (hprompt : x.deferred = false) : ∃ v, (advance (.serve i) false t).1 = .ends v := by
  obtain ⟨turn, requests, t', y, hadvance, hhear, -⟩ := advance_serve hx
  obtain ⟨n, chunks, hread⟩ := x.join.ask.readOn_eq
  have hstays := x.join.ask.readOn_none
  have hnot := readOn_not_cancelled x.join.ask
  have hturn : turn = ((t.accepted i).hear i x.join.ask).1 := congrArg (·.1) hhear.symm
  rw [hadvance]
  dsimp only
  rw [hturn]
  unfold hear
  generalize x.join.ask.readOn = result at hread hstays hnot
  obtain ⟨how, c⟩ := result
  obtain rfl : c = _ := hread
  cases how with
  | none => exact absurd (hstays.1 rfl).2.1 hends
  | some how =>
    dsimp only
    have hgone : (x.join.ask.readTo n chunks).departed.isGone = true :=
      Connection.departed_isGone (x := x.join.ask.readTo n chunks) hprompt
    rw [conclude_eq]
    simp only [part, hgone, if_true]
    exact settle_ends _ _ (by simpa using hnot)

theorem closeAll_ends (t : Traffic) : (advance .closeAll false t).1 = .ends (.ok ()) := rfl

/-! ### All that happens on the loop -/

theorem closeAll_connection (hx : t.connections[i]? = some x) :
    t.closeAll.2.connections[i]? = some (if x.active then x.close else x) := by
  simp [closeAll, hx]

theorem follows_closeAll (t : Traffic) : t.Follows t.closeAll.2 := by
  refine { Follows.refl t with length := by simp [closeAll], connection := fun i x hx => ?_ }
  refine ⟨_, closeAll_connection hx, ?_⟩
  split
  · exact x.later_close
  · exact .refl x

theorem follows_advance (job : Job) (cancelled : Bool) (t : Traffic) :
    t.Follows (advance job cancelled t).2.2 := by
  cases job with
  | closeAll =>
    cases cancelled with
    | true => exact .refl t
    | false => exact follows_closeAll t
  | serve i =>
    cases hx : t.connections[i]? with
    | none => simpa [advance, hx] using Follows.refl t
    | some x =>
      cases cancelled with
      | true => simpa [advance, hx] using Follows.refl t
      | false =>
        obtain ⟨turn, requests, t', y, hadvance, -, -, hfollows, -⟩ := advance_serve hx
        rwa [hadvance]
  | hear i =>
    cases hx : t.connections[i]? with
    | none => simpa [advance, hx] using Follows.refl t
    | some x =>
      obtain ⟨turn, requests, t', y, hadvance, -, hfollows, -⟩ := advance_hear hx cancelled
      rwa [hadvance]
  | part i how =>
    cases hx : t.connections[i]? with
    | none => simpa [advance, hx] using Follows.refl t
    | some x =>
      obtain ⟨turn, t', hadvance, hfollows, -⟩ := advance_part hx how cancelled
      rwa [hadvance]

theorem follows_call (callback : Callback) (t : Traffic) : t.Follows (call callback t).2 := by
  cases callback with
  | wish wish => exact { Follows.refl t with }
  | letGo i => exact follows_change t fun x _ => x.later_letGo

theorem behaviour_keeps : behaviour.Keeps Follows where
  refl := .refl
  trans := .trans
  advance := follows_advance
  call := follows_call

end Traffic
end MessageBus
