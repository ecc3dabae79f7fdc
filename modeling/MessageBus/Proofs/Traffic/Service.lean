import MessageBus.Proofs.Traffic.Turn
/-!
The service of a connection from the first turn of its handler to the last, with all that comes to the
connection in between. Main statement: the connection is read up to the first read that brings no full chunk;
then it is taken off the active ones, closed once, and waited for once, in that order, and the service is over
as the wait for the end and the end of reading tell.
-/
namespace MessageBus.Traffic
open Connection (ReadEnd)

/-- How a handler is over. An error of the farewell goes before what reading ended with; the loss of the
connection is no error. -/
def settled (how : ReadEnd) : Farewell → Loop.Turn Job Outcome
  | .failed e => .ends (.error e)
  | .quiet | .reset =>
    match how with
    | .nothingMore | .lost _ => .ends (.ok ())
    | .failed e => .ends (.error e)
    | .cancelled => .cancelled

/-- The job is for the service of a connection. -/
def Job.IsFor (i : Nat) : Job → Prop
  | .closeAll => False
  | .serve j | .hear j | .part j _ => j = i

/-- What may become of a connection while its handler waits: chunks come, others close it as long as it is
active, and its end, its farewell, and whether it was hung up and let go of are what they are then. -/
inductive Undergoes (x : Connection) (texts : List String) (closes : Nat) : Connection → Prop
  | intro (ending : StreamEnd) (farewell : Farewell) (hungUp gone : Bool)
      (hidle : x.active = false → closes = 0) :
    Undergoes x texts closes
      { x with
        chunks := x.chunks ++ texts
        acts := x.acts ++ .replicate closes .closed
        ending := ending
        farewell := farewell
        hungUp := hungUp
        gone := gone }

/-- The turns of a handler that waits for the end of its connection, with the chunks that come in between, and
whether it is told of its cancellation at the last. Between two turns anything may happen to the other
connections. -/
inductive Awaits (i : Nat) (how : ReadEnd) :
    Traffic → List String → Bool → Loop.Turn Job Outcome → Traffic → Prop
  | last {torn : Bool} {t t' : Traffic} {turn : Loop.Turn Job Outcome} {requests : List Request}
      (hturn : advance (.part i how) torn t = (turn, requests, t'))
      (hends : ∀ gate job, turn ≠ .waits gate job) : Awaits i how t [] torn turn t'
  | stays {torn : Bool} {t t₁ t₂ t' : Traffic} {turn : Loop.Turn Job Outcome} {requests : List Request}
      {gate closes : Nat} {job : Job} {x y : Connection} {texts later : List String}
      (hturn : advance (.part i how) false t = (.waits gate job, requests, t₁))
      (hx : t₁.connections[i]? = some x) (hy : t₂.connections[i]? = some y)
      (hbetween : Undergoes x texts closes y) (hlater : Awaits i how t₂ later torn turn t') :
    Awaits i how t (texts ++ later) torn turn t'

/-- The turns of a handler up to its last: those behind which it waits to read on; the one in which reading
ends, with the connection as it is met there, and whether the handler is told of its cancellation; and those
that wait for the end, if it does not come at once. A handler that is told before its first turn has none. -/
inductive Course (i : Nat) : Job → Traffic → List String → Nat → Bool → Connection → Bool →
    Loop.Turn Job Outcome → Traffic → Prop
  | last {job : Job} {cut : Bool} {t t' : Traffic} {z : Connection} {turn : Loop.Turn Job Outcome}
      {requests : List Request} (hbegun : job = .serve i → cut = false)
      (hz : t.connections[i]? = some z) (hturn : advance job cut t = (turn, requests, t'))
      (hends : ∀ gate job, turn ≠ .waits gate job) : Course i job t [] 0 cut z false turn t'
  | parts {job : Job} {how : ReadEnd} {cut torn : Bool} {t t₁ t₂ t' : Traffic} {x y z : Connection}
      {turn : Loop.Turn Job Outcome} {requests : List Request} {gate closes : Nat}
      {texts later : List String} (hbegun : job = .serve i → cut = false)
      (hz : t.connections[i]? = some z)
      (hturn : advance job cut t = (.waits gate (.part i how), requests, t₁))
      (hx : t₁.connections[i]? = some x) (hy : t₂.connections[i]? = some y)
      (hbetween : Undergoes x texts closes y) (hlater : Awaits i how t₂ later torn turn t') :
    Course i job t (texts ++ later) closes cut z torn turn t'
  | reads {job : Job} {cut torn : Bool} {t t₁ t₂ t' : Traffic} {x y z : Connection}
      {turn : Loop.Turn Job Outcome} {requests : List Request} {gate closes others : Nat}
      {texts later : List String} (hturn : advance job false t = (.waits gate (.hear i), requests, t₁))
      (hx : t₁.connections[i]? = some x) (hy : t₂.connections[i]? = some y)
      (hbetween : Undergoes x texts closes y)
      (hlater : Course i (.hear i) t₂ later others cut z torn turn t') :
    Course i job t (texts ++ later) (closes + others) cut z torn turn t'

/-- How reading ends at a turn that meets the connection so, with what it takes of the chunks behind the full
ones: an empty chunk, the end of the stream behind all chunks, or the cancellation of the handler. -/
inductive Answer (z : Connection) : Bool → ReadEnd → List String → Prop
  | empty : Answer z false .nothingMore [""]
  | stopped {how : ReadEnd} (hfull : ∀ text ∈ z.chunks, text ≠ "") (hlast : z.lastRead = some how) :
      Answer z false how []
  | cancelled : Answer z true .cancelled []

/-- What was done with a connection as its handler read full chunks of it and began another read, while others
closed it so often. -/
structure Handled (full : List String) (others : Nat) (acts : List Connection.Act) : Prop where
  filled : ∀ text ∈ full, text ≠ ""
  own : acts.filter (· ≠ .closed) = .joined :: .replicate (full.length + 1) .asked
  others : acts.count .closed = others

/-- A connection of which its handler read full chunks, with what arrived in the meantime and how often others
closed it. -/
structure Read (x : Connection) (arrived : List String) (others : Nat) (full : List String)
    (y : Connection) : Prop where
  acts : ∃ acts, y.acts = x.acts ++ acts ∧ Handled full others acts
  chunks : x.chunks ++ arrived = full ++ y.chunks
  active : y.active = true

/-- A connection that its handler left behind that: it was taken off the active ones, closed, and then waited
for. -/
structure Left (x : Connection) (arrived : List String) (others : Nat) (full taken : List String)
    (y : Connection) : Prop where
  acts : ∃ acts, y.acts = x.acts ++ acts ++ [.left, .closed, .waited] ∧ Handled full others acts
  chunks : x.chunks ++ arrived = full ++ taken ++ y.chunks
  active : y.active = false

variable {t t' t₁ : Traffic} {c x y z : Connection} {i j k : Nat} {turn : Loop.Turn Job Outcome}
  {cancelled cut torn : Bool} {how : ReadEnd} {job : Job} {requests : List Request}
  {arrived texts later taken full rest : List String} {others closes : Nat}
  {acts : List Connection.Act}

/-! ### One turn -/

theorem settle_turn (t : Traffic) (how : ReadEnd) (farewell : Farewell) :
    (t.settle how farewell).1 = settled how farewell := by
  unfold settle settled
  cases farewell <;> cases how <;> rfl

theorem settled_ne_waits (how : ReadEnd) (farewell : Farewell) (gate : Nat) (job : Job) :
    settled how farewell ≠ .waits gate job := by
  cases farewell <;> cases how <;> simp [settled]

theorem readTo_ask (c : Connection) (n : Nat) (chunks rest : List String) :
    Connection.readTo { c.ask with chunks := chunks } n rest = c.readTo (n + 1) rest := by
  simp [Connection.readTo, Connection.ask, Connection.note, List.replicate_succ]

/-- Reading on takes the full chunks, and an empty one or the end behind them if there is one. -/
theorem readOn_full (c : Connection) : ∃ full, (∀ text ∈ full, text ≠ "") ∧
    (c.Silent ∧ c.chunks = full ∧ c.readOn = (none, c.readTo full.length []) ∨
      ∃ how taken rest, Answer c false how taken ∧ c.chunks = full ++ taken ++ rest ∧
        c.readOn = (some how, c.readTo full.length rest)) := by
  generalize hchunks : c.chunks = chunks
  induction chunks generalizing c with
  | nil =>
    have hsame : c.readTo 0 [] = c := hchunks ▸ c.readTo_zero
    refine ⟨[], by simp, ?_⟩
    rw [List.length_nil, hsame, Connection.readOn_nil hchunks]
    cases hlast : c.lastRead with
    | none => exact .inl ⟨c.readOn_none.1 (by rw [Connection.readOn_nil hchunks, hlast]), rfl, rfl⟩
    | some how =>
      exact .inr ⟨how, [], [], .stopped (by simp [hchunks]) hlast, rfl, by rw [hsame]⟩
  | cons text rest ih =>
    by_cases htext : text = ""
    · subst htext
      refine ⟨[], by simp, .inr ⟨.nothingMore, [""], rest, .empty, rfl, ?_⟩⟩
      rw [Connection.readOn_empty hchunks]
      simp [Connection.readTo]
    · obtain ⟨full, hfull, hread⟩ := ih { c.ask with chunks := rest } rfl
      have hall : ∀ u ∈ text :: full, u ≠ "" := by simpa [htext] using hfull
      simp only [readTo_ask, ← Connection.readOn_more hchunks htext] at hread
      refine ⟨text :: full, hall, ?_⟩
      obtain ⟨⟨hsilent, hends⟩, rfl, hread⟩ | ⟨how, taken, behind, hanswer, rfl, hread⟩ := hread
      · exact .inl ⟨⟨by simpa [hchunks, htext] using hsilent, hends⟩, rfl, hread⟩
      · refine .inr ⟨how, taken, behind, ?_, by simp, hread⟩
        cases hanswer with
        | empty => exact .empty
        | stopped hstop hlast => exact .stopped (by simpa [hchunks, htext] using hstop) hlast

/-- A turn in which a connection is left. -/
theorem conclude_turn (hx : t.connections[i]? = some x) (c : Connection) (how : ReadEnd) :
    ∃ turn requests t', t.conclude i c how = (turn, requests, t') ∧
      t'.connections[i]? = some c.departed ∧
      (c.departed.isGone = false ∧ turn = .waits i (.part i how) ∨
        c.departed.isGone = true ∧ turn = settled how c.farewell) := by
  have hset : ((t.afterReading how).change i fun _ => c.departed).connections[i]? = some c.departed := by
    simp [change, hx]
  obtain ⟨-, hsame, -⟩ := part_kept ((t.afterReading how).change i fun _ => c.departed) i c.departed how
  refine ⟨_, _, _, conclude_eq t i c how, by rw [hsame, hset], ?_⟩
  unfold part
  cases hgone : c.departed.isGone with
  | true =>
    rw [if_pos rfl, settle_turn, Connection.departed_farewell]
    exact .inr ⟨rfl, rfl⟩
  | false => exact .inl ⟨rfl, by simp⟩

/-- A turn that goes on with a read: it takes what has come, and waits for more or leaves the connection. -/
inductive Hears (i : Nat) (c : Connection) : Bool → Loop.Turn Job Outcome → Connection → Prop
  | waits {full : List String} (hfull : ∀ text ∈ full, text ≠ "") (hsilent : c.Silent)
      (hchunks : c.chunks = full) : Hears i c false (.waits i (.hear i)) (c.readTo full.length [])
  | leaves {full taken rest : List String} {how : ReadEnd} {cut : Bool} {turn : Loop.Turn Job Outcome}
      (hfull : ∀ text ∈ full, text ≠ "") (hanswer : Answer c cut how taken)
      (hchunks : c.chunks = full ++ taken ++ rest)
      (hturn : (c.readTo full.length rest).departed.isGone = false ∧ turn = .waits i (.part i how) ∨
        (c.readTo full.length rest).departed.isGone = true ∧ turn = settled how c.farewell) :
    Hears i c cut turn (c.readTo full.length rest).departed

theorem hear_hears (hx : t.connections[i]? = some x) (c : Connection) :
    ∃ turn requests t' y, t.hear i c = (turn, requests, t') ∧ t'.connections[i]? = some y ∧
      Hears i c false turn y := by
  obtain ⟨full, hfull, ⟨hsilent, hchunks, hread⟩ | ⟨how, taken, rest, hanswer, hchunks, hread⟩⟩ :=
    readOn_full c
  · refine ⟨_, _, _, _, by rw [hear, hread], ?_, .waits hfull hsilent hchunks⟩
    simp [change, hx]
  · obtain ⟨turn, requests, t', hconclude, hy, hturn⟩ := conclude_turn hx (c.readTo full.length rest) how
    exact ⟨turn, requests, t', _, by rw [hear, hread]; exact hconclude, hy,
      .leaves hfull hanswer hchunks hturn⟩

theorem advance_serve_hears (hx : t.connections[i]? = some x) :
    ∃ turn requests t' y, advance (.serve i) false t = (turn, requests, t') ∧
      t'.connections[i]? = some y ∧ Hears i x.join.ask false turn y := by
  obtain ⟨turn, requests, t', -, hadvance, hhear, -⟩ := advance_serve hx
  have hjoined : (t.accepted i).connections[i]? = some x.join := by simp [accepted, record, change, hx]
  obtain ⟨turn', requests', t'', y, hhear', hy, hhears⟩ := hear_hears hjoined x.join.ask
  obtain ⟨rfl, rfl, rfl⟩ : turn = turn' ∧ requests = requests' ∧ t' = t'' := by
    simpa using hhear.symm.trans hhear'
  exact ⟨turn, requests, t', y, hadvance, hy, hhears⟩

theorem advance_hear_hears (hx : t.connections[i]? = some x) (cut : Bool) :
    ∃ turn requests t' y, advance (.hear i) cut t = (turn, requests, t') ∧
      t'.connections[i]? = some y ∧ Hears i x cut turn y := by
  cases cut with
  | true =>
    obtain ⟨turn, requests, t', hconclude, hy, hturn⟩ := conclude_turn hx x .cancelled
    have hleaves := @Hears.leaves i x [] [] x.chunks _ _ turn (by simp) .cancelled rfl
    rw [List.length_nil, Connection.readTo_zero] at hleaves
    exact ⟨turn, requests, t', _, by simp [advance, hx, hconclude], hy, hleaves hturn⟩
  | false =>
    obtain ⟨turn, requests, t', y, hhear, hy, hhears⟩ := hear_hears hx x
    exact ⟨turn, requests, t', y, by simp [advance, hx, hhear], hy, hhears⟩

/-! ### All turns -/

theorem handled_begun : Handled [] 0 [.joined, .asked] := ⟨by simp, by decide, by decide⟩

/-- More full chunks are read. -/
theorem Handled.more (h : Handled full others acts) {more : List String}
    (hmore : ∀ text ∈ more, text ≠ "") :
    Handled (full ++ more) others (acts ++ .replicate more.length .asked) where
  filled := by
    intro text htext
    obtain htext | htext := List.mem_append.1 htext
    · exact h.filled text htext
    · exact hmore text htext
  own := by
    have hasked : (List.replicate more.length Connection.Act.asked).filter (· ≠ .closed) =
        .replicate more.length .asked := List.filter_eq_self.2 fun a ha => by
      simp [List.eq_of_mem_replicate ha]
    rw [List.filter_append, h.own, hasked, List.cons_append, List.replicate_append_replicate,
      List.length_append, Nat.add_right_comm]
  others := by simp [List.count_append, List.count_replicate, h.others]

/-- Others close the connection. -/
theorem Handled.closed (h : Handled full others acts) (closes : Nat) :
    Handled full (others + closes) (acts ++ .replicate closes .closed) where
  filled := h.filled
  own := by
    have hclosed : (List.replicate closes Connection.Act.closed).filter (· ≠ .closed) = [] :=
      List.filter_eq_nil_iff.2 fun a ha => by simp [List.eq_of_mem_replicate ha]
    rw [List.filter_append, h.own, hclosed, List.append_nil]
  others := by simp [List.count_append, h.others]

theorem read_begun (x : Connection) : Read x [] 0 [] x.join.ask where
  acts := ⟨_, by simp [Connection.join, Connection.ask, Connection.note], handled_begun⟩
  chunks := List.append_nil _
  active := rfl

theorem Read.undergoes (h : Read x arrived others full y) (hbetween : Undergoes y texts closes z) :
    Read x (arrived ++ texts) (others + closes) full z := by
  cases hbetween with
  | intro ending farewell hungUp gone hidle =>
    obtain ⟨acts, hacts, hhandled⟩ := h.acts
    refine ⟨⟨_, ?_, hhandled.closed closes⟩, ?_, h.active⟩
    · simp [hacts]
    · dsimp only
      rw [← List.append_assoc, h.chunks, List.append_assoc]

theorem Left.undergoes (h : Left x arrived others full taken y) (hbetween : Undergoes y texts closes z) :
    closes = 0 ∧ Left x (arrived ++ texts) others full taken z := by
  cases hbetween with
  | intro ending farewell hungUp gone hidle =>
    obtain rfl := hidle h.active
    obtain ⟨acts, hacts, hhandled⟩ := h.acts
    refine ⟨rfl, ⟨acts, ?_, hhandled⟩, ?_, h.active⟩
    · simp [hacts]
    · dsimp only
      rw [← List.append_assoc, h.chunks, List.append_assoc]

/-- A turn that waits to read on has read what was there. -/
theorem Read.waits {gate : Nat} (h : Read x arrived others full c)
    (hhears : Hears i c cut (.waits gate (.hear i)) y) :
    Read x arrived others (full ++ c.chunks) y := by
  generalize hturn : Loop.Turn.waits gate (Job.hear i) = turn at hhears
  cases hhears with
  | waits hfull hsilent hchunks =>
    obtain ⟨acts, hacts, hhandled⟩ := h.acts
    refine ⟨⟨_, ?_, hhandled.more (hchunks ▸ hfull)⟩, ?_, h.active⟩
    · simp [Connection.readTo, hacts, hchunks]
    · simp [Connection.readTo, h.chunks]
  | leaves _ _ _ hleaves =>
    obtain ⟨-, rfl⟩ | ⟨-, rfl⟩ := hleaves
    · simp at hturn
    · exact absurd hturn.symm (settled_ne_waits _ _ _ _)

/-- A turn that does not wait to read on has left the connection. -/
theorem Read.leaves (h : Read x arrived others full c) (hhears : Hears i c cut turn y)
    (hends : ∀ gate, turn ≠ .waits gate (.hear i)) :
    ∃ full taken how, Answer c cut how taken ∧ Left x arrived others full taken y ∧
      (turn = .waits i (.part i how) ∨ turn = settled how y.farewell) := by
  cases hhears with
  | waits => exact absurd rfl (hends i)
  | @leaves more taken rest how _ _ hfull hanswer hchunks hturn =>
    obtain ⟨acts, hacts, hhandled⟩ := h.acts
    refine ⟨full ++ more, taken, how, hanswer, ⟨⟨_, ?_, hhandled.more hfull⟩, ?_, by simp⟩, ?_⟩
    · simp [Connection.departed, Connection.leave, Connection.await, Connection.note,
        Connection.readTo, hacts]
    · simp [Connection.departed, Connection.leave, Connection.await, Connection.note,
        Connection.readTo, h.chunks, hchunks]
    · rw [Connection.departed_farewell]
      exact hturn.imp (·.2) (·.2)

/-- Whoever waits for the end of a connection is over as the farewell tells, unless it is told of its
cancellation before. -/
theorem Awaits.left (hawaits : Awaits i how t later torn turn t') (h : Left x arrived others full taken y)
    (hy : t.connections[i]? = some y) :
    ∃ z, t'.connections[i]? = some z ∧ Left x (arrived ++ later) others full taken z ∧
      turn = if torn then .cancelled else settled how z.farewell := by
  induction hawaits generalizing arrived y with
  | @last torn t t' turn requests hturn hends =>
    rw [List.append_nil]
    cases torn with
    | true =>
      simp only [advance, hy, if_true, Prod.mk.injEq] at hturn
      obtain ⟨rfl, -, rfl⟩ := hturn
      exact ⟨y, hy, h, rfl⟩
    | false =>
      obtain ⟨-, hsame, -⟩ := part_kept t i y how
      simp only [advance, hy, Bool.false_eq_true, if_false, Prod.mk.injEq] at hturn
      obtain ⟨rfl, -, rfl⟩ := hturn
      refine ⟨y, hsame.symm ▸ hy, h, ?_⟩
      unfold part at hends ⊢
      split
      · simpa using settle_turn t how y.farewell
      · rename_i hthere
        simp [hthere] at hends
  | @stays torn t t₁ t₂ t' turn requests gate closes job u v texts later hturn hu hv hbetween _ ih =>
    obtain ⟨turn', s', hadvance, -, hsame, -⟩ := advance_part hy how false
    obtain rfl : t₁ = s' := congrArg (·.2.2) (hturn.symm.trans hadvance)
    obtain rfl : u = y := Option.some.inj (hu.symm.trans (hsame ▸ hy))
    obtain ⟨-, hleft⟩ := h.undergoes hbetween
    obtain ⟨z, hz, hend, hlast⟩ := ih hleft hv
    exact ⟨z, hz, by rwa [List.append_assoc] at hend, hlast⟩

theorem Answer.join (h : Answer x.join.ask cut how taken) : Answer x cut how taken := by
  cases h with
  | empty => exact .empty
  | stopped hfull hlast => exact .stopped hfull hlast
  | cancelled => exact .cancelled

/-- What a turn of a handler makes of a connection that was read so far. -/
theorem hears_of_turn (hbegun : job = .serve i → cut = false) (hz : t.connections[i]? = some z)
    (hjob : job = .serve i ∧ x = z ∧ arrived = [] ∧ others = 0 ∨
      job = .hear i ∧ ∃ full, Read x arrived others full z)
    (hturn : advance job cut t = (turn, requests, t')) :
    ∃ c full y, Read x arrived others full c ∧ (∀ how taken, Answer c cut how taken → Answer z cut how taken) ∧
      t'.connections[i]? = some y ∧ Hears i c cut turn y := by
  obtain ⟨rfl, rfl, rfl, rfl⟩ | ⟨rfl, full, hread⟩ := hjob
  · obtain rfl := hbegun rfl
    obtain ⟨turn', requests', s', y, hadvance, hy, hhears⟩ := advance_serve_hears hz
    obtain ⟨rfl, rfl, rfl⟩ : turn = turn' ∧ requests = requests' ∧ t' = s' := by
      simpa using hturn.symm.trans hadvance
    exact ⟨_, [], y, read_begun x, fun _ _ => .join, hy, hhears⟩
  · obtain ⟨turn', requests', s', y, hadvance, hy, hhears⟩ := advance_hear_hears hz cut
    obtain ⟨rfl, rfl, rfl⟩ : turn = turn' ∧ requests = requests' ∧ t' = s' := by
      simpa using hturn.symm.trans hadvance
    exact ⟨z, full, y, hread, fun _ _ => id, hy, hhears⟩

/-- The turns of a handler, from one at which the connection was read so far. -/
theorem Course.settled {u : Connection} (hcourse : Course i job t later others cut z torn turn t')
    (hu : t.connections[i]? = some u)
    (hjob : job = .serve i ∧ x = u ∧ arrived = [] ∧ closes = 0 ∨
      job = .hear i ∧ ∃ full, Read x arrived closes full u) :
    ∃ full taken how y, Answer z cut how taken ∧ t'.connections[i]? = some y ∧
      Left x (arrived ++ later) (closes + others) full taken y ∧
      turn = if torn then .cancelled else Traffic.settled how y.farewell := by
  induction hcourse generalizing arrived closes u with
  | @last job cut t t' z turn requests hbegun hz hturn hends =>
    obtain rfl := Option.some.inj (hu.symm.trans hz)
    obtain ⟨c, full, y, hread, hanswers, hy, hhears⟩ := hears_of_turn hbegun hu hjob hturn
    obtain ⟨full, taken, how, hanswer, hleft, rfl | hlast⟩ := hread.leaves hhears fun gate => hends gate _
    · exact absurd rfl (hends _ _)
    · exact ⟨full, taken, how, y, hanswers how taken hanswer, hy, by simpa using hleft, by simpa using hlast⟩
  | @parts job how cut torn t t₁ t₂ t' v w z turn requests gate n texts later hbegun hz hturn hv hw
      hbetween hlater =>
    obtain rfl := Option.some.inj (hu.symm.trans hz)
    obtain ⟨c, full, y, hread, hanswers, hy, hhears⟩ := hears_of_turn hbegun hu hjob hturn
    obtain rfl := Option.some.inj (hv.symm.trans hy)
    obtain ⟨full, taken, how', hanswer, hleft, hparts | hlast⟩ := hread.leaves hhears (by simp)
    · obtain ⟨-, rfl⟩ : gate = i ∧ how = how' := by simpa using hparts
      obtain ⟨rfl, hleft⟩ := hleft.undergoes hbetween
      obtain ⟨z', hz', hend, hlast⟩ := hlater.left hleft hw
      rw [List.append_assoc] at hend
      exact ⟨full, taken, how, z', hanswers how taken hanswer, hz', hend, hlast⟩
    · exact absurd hlast.symm (settled_ne_waits _ _ _ _)
  | @reads job cut torn t t₁ t₂ t' v w z turn requests gate n others texts later hturn hv hw hbetween
      _ ih =>
    obtain ⟨c, full, y, hread, -, hy, hhears⟩ := hears_of_turn (fun _ => rfl) hu hjob hturn
    obtain rfl := Option.some.inj (hv.symm.trans hy)
    have hnext := (hread.waits hhears).undergoes hbetween
    obtain ⟨full, taken, how, y, hanswer, hy, hleft, hlast⟩ := ih hw (.inr ⟨rfl, _, hnext⟩)
    rw [List.append_assoc, Nat.add_assoc] at hleft
    exact ⟨full, taken, how, y, hanswer, hy, hleft, hlast⟩

/-! ### The other connections -/

theorem undergoes_refl (x : Connection) : Undergoes x [] 0 x := by
  have h := @Undergoes.intro x [] 0 x.ending x.farewell x.hungUp x.gone fun _ => rfl
  simpa using h

theorem undergoes_close (hactive : x.active = true) : Undergoes x [] 1 x.close := by
  have h := @Undergoes.intro x [] 1 x.ending x.farewell x.close.hungUp x.close.gone (by simp [hactive])
  have hsame : x.close = { x with
      acts := x.acts ++ [.closed], hungUp := x.close.hungUp, gone := x.close.gone } := by
    unfold Connection.close
    split <;> rfl
  rw [hsame]
  simpa using h

/-- While a handler waits, no other job on the loop does more to its connection than close it. -/
theorem undergoes_advance (hx : t.connections[i]? = some x) (hother : ¬ job.IsFor i) (cancelled : Bool) :
    ∃ closes y, (advance job cancelled t).2.2.connections[i]? = some y ∧ Undergoes x [] closes y := by
  cases job with
  | closeAll =>
    cases cancelled with
    | true => exact ⟨0, x, hx, undergoes_refl x⟩
    | false =>
      have hclosed := closeAll_connection hx
      cases hactive : x.active with
      | true => exact ⟨1, x.close, hclosed.trans (by simp [hactive]), undergoes_close hactive⟩
      | false => exact ⟨0, x, hclosed.trans (by simp [hactive]), undergoes_refl x⟩
  | serve j =>
    refine ⟨0, x, ?_, undergoes_refl x⟩
    cases hc : t.connections[j]? with
    | none => simp [advance, hc, hx]
    | some c =>
      cases cancelled with
      | true => simp [advance, hc, hx]
      | false =>
        obtain ⟨turn, requests, t', y, hadvance, -, -, -, hset⟩ := advance_serve hc
        rw [hadvance, hset, List.getElem?_set_ne hother, hx]
  | hear j =>
    refine ⟨0, x, ?_, undergoes_refl x⟩
    cases hc : t.connections[j]? with
    | none => simp [advance, hc, hx]
    | some c =>
      obtain ⟨turn, requests, t', y, hadvance, -, -, hset, -⟩ := advance_hear hc cancelled
      rw [hadvance, hset, List.getElem?_set_ne hother, hx]
  | part j how =>
    refine ⟨0, x, ?_, undergoes_refl x⟩
    cases hc : t.connections[j]? with
    | none => simp [advance, hc, hx]
    | some c =>
      obtain ⟨turn, t', hadvance, -, hsame, -⟩ := advance_part hc how cancelled
      rw [hadvance, hsame, hx]

/-- A callback lets go of the connection at most. -/
theorem undergoes_call (hx : t.connections[i]? = some x) (callback : Callback) :
    ∃ y, (call callback t).2.connections[i]? = some y ∧ Undergoes x [] 0 y := by
  cases callback with
  | wish wish => exact ⟨x, hx, undergoes_refl x⟩
  | letGo j =>
    by_cases hj : j = i
    · subst hj
      have h := @Undergoes.intro x [] 0 x.ending x.farewell true true fun _ => rfl
      exact ⟨x.letGo, by simp [call, change, hx], by simpa [Connection.letGo] using h⟩
    · exact ⟨x, (change_of_ne t hj _).trans hx, undergoes_refl x⟩

/-! ### The whole service -/

/-- A turn of the handler of a connection that has not left it: it waits to read on if there is nothing to
read, unless it is told of its cancellation; else it leaves the connection, and waits for the end of that if it
has not come. It leaves the other connections as they are. -/
def TakesReading (i : Nat) (job : Job) (cancelled : Bool) (t : Traffic) (x : Connection) : Prop :=
  ∃ turn requests t' y, advance job cancelled t = (turn, requests, t') ∧ t'.connections[i]? = some y ∧
    ((∃ gate, turn = .waits gate (.hear i)) ↔ cancelled = false ∧ x.Silent) ∧
    ((∃ gate how, turn = .waits gate (.part i how)) ↔
      ¬ (cancelled = false ∧ x.Silent) ∧ y.isGone = false) ∧
    ∀ j, j ≠ i → t'.connections[j]? = t.connections[j]?

/-- A turn of the handler of a connection that has left it: it waits on if the end has not come, unless it is
told of its cancellation, and changes no connection. -/
def TakesParting (i : Nat) (how : ReadEnd) (cancelled : Bool) (t : Traffic) (x : Connection) : Prop :=
  ∃ turn requests t', advance (.part i how) cancelled t = (turn, requests, t') ∧
    ((∃ gate job, turn = .waits gate job) ↔ cancelled = false ∧ x.isGone = false) ∧
    t'.connections = t.connections

theorem Answer.not_silent (h : Answer c cut how taken) (hchunks : c.chunks = full ++ taken ++ rest) :
    ¬ (cut = false ∧ c.Silent) := by
  rintro ⟨hcut, hsilent⟩
  cases h with
  | empty => exact hsilent.1 "" (by simp [hchunks]) rfl
  | stopped hfull hlast => simp [Connection.lastRead, hsilent.2.1, hsilent.2.2] at hlast
  | cancelled => simp at hcut

/-- When a turn waits to read on, and when it waits for the end. -/
theorem Hears.waits_iff (h : Hears i c cut turn y) :
    ((∃ gate, turn = .waits gate (.hear i)) ↔ cut = false ∧ c.Silent) ∧
    ((∃ gate how, turn = .waits gate (.part i how)) ↔ ¬ (cut = false ∧ c.Silent) ∧ y.isGone = false) := by
  cases h with
  | waits hfull hsilent hchunks => simp [hsilent]
  | leaves hfull hanswer hchunks hturn =>
    have hloud := hanswer.not_silent hchunks
    obtain ⟨hthere, rfl⟩ | ⟨hgone, rfl⟩ := hturn
    · simp [hloud, hthere]
    · simp [hloud, hgone, settled_ne_waits]

theorem takes_serve (hx : t.connections[i]? = some x) : TakesReading i (.serve i) false t x := by
  obtain ⟨turn, requests, t', y, hadvance, hy, hhears⟩ := advance_serve_hears hx
  obtain ⟨turn', requests', t'', z, hadvance', -, -, -, hset⟩ := advance_serve hx
  obtain rfl : t' = t'' := congrArg (·.2.2) (hadvance.symm.trans hadvance')
  obtain ⟨hreads, hparts⟩ := hhears.waits_iff
  exact ⟨turn, requests, t', y, hadvance, hy, hreads, hparts, fun j hj => by
    rw [hset, List.getElem?_set_ne (Ne.symm hj)]⟩

theorem takes_hear (hx : t.connections[i]? = some x) (cancelled : Bool) :
    TakesReading i (.hear i) cancelled t x := by
  obtain ⟨turn, requests, t', y, hadvance, hy, hhears⟩ := advance_hear_hears hx cancelled
  obtain ⟨turn', requests', t'', z, hadvance', -, -, hset, -⟩ := advance_hear hx cancelled
  obtain rfl : t' = t'' := congrArg (·.2.2) (hadvance.symm.trans hadvance')
  obtain ⟨hreads, hparts⟩ := hhears.waits_iff
  exact ⟨turn, requests, t', y, hadvance, hy, hreads, hparts, fun j hj => by
    rw [hset, List.getElem?_set_ne (Ne.symm hj)]⟩

theorem takes_part (hx : t.connections[i]? = some x) (how : ReadEnd) (cancelled : Bool) :
    TakesParting i how cancelled t x := by
  obtain ⟨turn, t', hadvance, -, hsame, hturn⟩ := advance_part hx how cancelled
  refine ⟨turn, [], t', hadvance, ?_, hsame⟩
  obtain ⟨hkept, hthere, rfl⟩ | ⟨hover, hends⟩ := hturn
  · simp [hkept, hthere]
  · obtain rfl | hgone := hover
    · simp [hends]
    · simp [hends, hgone]

/-- From the first turn of its handler to the last, with anything in between that the other jobs and callbacks
do to it and more, a connection is read up to the first read that brings no full chunk; then it is taken off
the active ones, closed once by its handler, and waited for once. What the service comes to goes by the
cancellation of that wait if there is one, else by the farewell, and by how reading ended where that raises
nothing. -/
theorem service_settled (hx : t.connections[i]? = some x) :
    TakesReading i (.serve i) false t x ∧ (∀ cancelled, TakesReading i (.hear i) cancelled t x) ∧
      (∀ how cancelled, TakesParting i how cancelled t x) ∧
      (∀ job cancelled, ¬ job.IsFor i → ∃ closes y,
        (advance job cancelled t).2.2.connections[i]? = some y ∧ Undergoes x [] closes y) ∧
      (∀ callback, ∃ y, (call callback t).2.connections[i]? = some y ∧ Undergoes x [] 0 y) ∧
      ∀ arrived others cut z torn turn t', Course i (.serve i) t arrived others cut z torn turn t' →
        ∃ full taken how y, Answer z cut how taken ∧ t'.connections[i]? = some y ∧
          Left x arrived others full taken y ∧
          turn = if torn then .cancelled else settled how y.farewell := by
  refine ⟨takes_serve hx, takes_hear hx, takes_part hx,
    fun job cancelled hother => undergoes_advance hx hother cancelled, undergoes_call hx, ?_⟩
  intro arrived others cut z torn turn t' hcourse
  have hsettled := hcourse.settled hx (.inl ⟨rfl, @rfl _ x, rfl, rfl⟩)
  simpa using hsettled

/-- A connection that stays open, of which the transport lets go later, and whose farewell fails, beside another
one. -/
def pairTraffic : Traffic :=
  ⟨[], [.new true ["ab"] .staysOpen .inputOutput, .new false [] .endOfStream .quiet], []⟩

/-- The connection of that pair as its handler waits to read on, and as it waits for the end: its peer hung up. -/
def readPair : Connection := ⟨[], .staysOpen, .inputOutput, true, false, false, true, [.joined, .asked, .asked]⟩

def partingPair : Connection :=
  ⟨[], .staysOpen, .inputOutput, true, true, false, false,
    [.joined, .asked, .asked, .closed, .left, .closed, .waited]⟩

/-- The first handler reads a chunk and waits; the bus closes its connections and the peer hangs up; the
handler is told of that and waits for the end, which comes. -/
theorem service_settled_pairTraffic : ∃ t' y,
    Course 0 (.serve 0) pairTraffic [] 1 false { readPair.close with hungUp := true } false
      (.ends (.error .inputOutput)) t' ∧
    t'.connections[0]? = some y ∧ y.active = false ∧ y.closes = 2 ∧ y.waits = 1 := by
  let waiting := (advance (.serve 0) false pairTraffic).2.2
  let closed := (advance .closeAll false waiting).2.2
  let hungUp := closed.change 0 fun c => { c with hungUp := true }
  let parting := (advance (.hear 0) false hungUp).2.2
  let gone := (call (.letGo 0) parting).2
  have hclosed : Undergoes readPair [] 1 { readPair.close with hungUp := true } :=
    .intro .staysOpen .inputOutput true false (by simp [readPair])
  have hgone : Undergoes partingPair [] 0 partingPair.letGo :=
    .intro .staysOpen .inputOutput true true fun _ => rfl
  have hends : Awaits 0 .nothingMore gone [] false (.ends (.error .inputOutput)) gone :=
    .last (show advance (.part 0 .nothingMore) false gone = (.ends (.error .inputOutput), [], gone) from rfl)
      (by simp)
  have hparts : Course 0 (.hear 0) hungUp [] 0 false { readPair.close with hungUp := true } false
      (.ends (.error .inputOutput)) gone :=
    .parts (by simp) rfl (show advance (.hear 0) false hungUp =
      (.waits 0 (.part 0 .nothingMore), [.call (.letGo 0)], parting) from rfl)
      (x := partingPair) rfl (y := partingPair.letGo) rfl hgone hends
  have hcourse : Course 0 (.serve 0) pairTraffic [] 1 false { readPair.close with hungUp := true } false
      (.ends (.error .inputOutput)) gone :=
    .reads (show advance (.serve 0) false pairTraffic = (.waits 0 (.hear 0), [], waiting) from rfl)
      (x := readPair) rfl (y := { readPair.close with hungUp := true }) rfl hclosed hparts
  obtain ⟨-, -, -, -, -, hsettled⟩ := @service_settled pairTraffic _ 0 rfl
  obtain ⟨full, taken, how, y, hanswer, hy, hleft, -⟩ := hsettled _ _ _ _ _ _ _ hcourse
  refine ⟨gone, y, hcourse, hy, hleft.active, ?_, ?_⟩ <;>
    obtain rfl := Option.some.inj ((show gone.connections[0]? = some partingPair.letGo from rfl).symm.trans hy)
  · rfl
  · rfl

end MessageBus.Traffic
