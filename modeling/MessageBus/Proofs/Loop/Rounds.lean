import MessageBus.Proofs.Loop.Halts
/-!
The halts that rounds take. Main statement: a loop that stops has taken one halt, and a second one only if
the stop was asked for in the very round in which the end came that was awaited.
-/
namespace MessageBus.Loop

variable {σ J C V : Type}

/-- Among so many rounds is one in which the stop is asked for and the awaited end comes. -/
def coincides (b : Behaviour σ J C V) : Nat → Loop J C V → σ → Bool
  | 0, _, _ => false
  | n + 1, l, s =>
    let (l', s') := round b l s
    !l.stopRequested && l'.stopRequested && l.isDue && !l'.isDue || !l'.stopping && coincides b n l' s'

/-- The loop as a round begins: what was ready is taken out of it, and signals arrived. -/
def begun (l : Loop J C V) (delivered : List Signal) (coming : List (List Signal)) : Loop J C V :=
  { l with ready := [], delivered := delivered, coming := coming }

/-- The account of a loop between two operations. -/
structure Resting (taken : Nat) (l : Loop J C V) : Prop extends Sound taken [] l where
  idle : l.awaited = .nothing
  still : l.stopping = false

variable {b : Behaviour σ J C V} {l l' : Loop J C V} {s s' : σ} {es : List (Entry C)} {taken limit : Nat}

/-! ### Rounds -/

theorem round_eq_performAll (l : Loop J C V) (s : σ) :
    ∃ delivered coming pipe, (pipe = [] ∨ pipe = [.readPipe]) ∧
      round b l s = (l.ready ++ pipe).foldl (perform b) (l.begun delivered coming, s) := by
  obtain ⟨delivered, coming, hreceive, -⟩ := receive_eq l
  obtain ⟨pipe, hpipe, hagenda⟩ := agenda_eq l.receive
  refine ⟨delivered, coming, pipe, hpipe, ?_⟩
  rw [round, hagenda, hreceive]
  rfl

theorem Ran.trim (h : Ran (es ++ [.readPipe]) l l') : Ran es l l' where
  closed := h.closed
  awaited := h.awaited
  groups := h.groups
  outstanding := by rw [h.outstanding, told_append, told_plain rfl, Nat.add_zero]
  stopping := by rw [h.stopping, List.any_append]; simp [Entry.isHalt]
  requested := h.requested
  length := h.length
  tasks := fun i t ht hkept => h.tasks i t ht (hkept.imp id fun h => ⟨h.1, by simpa using h.2⟩)

theorem ran_round (l : Loop J C V) (s : σ) : Ran l.ready l (round b l s).1 := by
  obtain ⟨delivered, coming, pipe, hpipe, hround⟩ := round_eq_performAll (b := b) l s
  rw [hround]
  have hran : Ran (l.ready ++ pipe) l
      ((l.ready ++ pipe).foldl (perform b) (l.begun delivered coming, s)).1 :=
    { ran_performAll (b := b) (l.ready ++ pipe) (l.begun delivered coming) s with }
  obtain rfl | rfl := hpipe
  · simpa using hran
  · exact hran.trim

/-- What was ready is to be run, and the pipe behind it. -/
theorem Sound.begun (h : Sound taken [] l) {pipe : List (Entry C)} (hpipe : pipe = [] ∨ pipe = [.readPipe])
    (delivered : List Signal) (coming : List (List Signal)) :
    Sound taken (l.ready ++ pipe ++ []) (l.begun delivered coming) := by
  have hready : l.ready ++ pipe ++ [] ++ (l.begun delivered coming).ready = l.ready ++ pipe := by
    rw [List.append_nil]
    exact List.append_nil _
  refine ⟨⟨h.opened, ?_, h.newest, ?_, h.members, ?_, ?_⟩, ?_⟩ <;> rw [hready]
  · have htold : told l.groups (l.ready ++ pipe) = told l.groups l.ready := by
      obtain rfl | rfl := hpipe <;> simp [told, Entry.tells]
    exact h.outstanding.trans (by rw [List.nil_append, ← htold]; rfl)
  · intro g hg
    refine h.entries g ?_
    obtain rfl | rfl := hpipe <;> simpa using hg
  · exact fun i t ht hqueued => List.mem_append_left pipe (h.scheduled i t ht hqueued)
  · intro i hi
    refine h.known i ?_
    obtain rfl | rfl := hpipe <;> simpa using hi
  · have hhalts : halts (l.ready ++ pipe) = halts l.ready := by
      obtain rfl | rfl := hpipe <;> simp [halts, Entry.isHalt]
    rw [hhalts]
    exact h.stops

theorem Sound.round (h : Sound taken [] l) (s : σ) :
    Sound (taken + halts l.ready) [] (Loop.round b l s).1 := by
  obtain ⟨delivered, coming, pipe, hpipe, hround⟩ := round_eq_performAll (b := b) l s
  have hnone : halts pipe = 0 := by obtain rfl | rfl := hpipe <;> rfl
  have hend := (h.begun hpipe delivered coming).performAll (b := b) s
  rwa [halts_append, hnone, Nat.add_zero, ← hround] at hend

theorem any_isHalt : es.any Entry.isHalt = decide (0 < halts es) := by
  simp [halts, List.any_eq, List.countP_pos_iff]

theorem round_stopping (h : l.stopping = false) (s : σ) :
    (round b l s).1.stopping = decide (0 < halts l.ready) := by
  rw [(ran_round l s).stopping, h, Bool.false_or, any_isHalt]

theorem stopping_round_of_halt (hstill : l.stopping = false) (hhalt : 0 < halts l.ready) (s : σ) :
    (round b l s).1.stopping = true := by
  rw [round_stopping hstill, decide_eq_true hhalt]

theorem stopping_round_of_no_halt (hstill : l.stopping = false) (hnone : halts l.ready = 0) (s : σ) :
    (round b l s).1.stopping = false := by
  rw [round_stopping hstill, hnone]
  rfl

/-! ### Runs -/

theorem rounds_succ (limit : Nat) (l : Loop J C V) (s : σ) :
    rounds b (limit + 1) l s =
      if (round b l s).1.stopping then round b l s
      else rounds b limit (round b l s).1 (round b l s).2 := rfl

theorem rounds_of_halt (hstill : l.stopping = false) (hhalt : 0 < halts l.ready) (limit : Nat) (s : σ) :
    rounds b (limit + 1) l s = round b l s := by
  rw [rounds_succ, if_pos (stopping_round_of_halt hstill hhalt s)]

theorem rounds_of_no_halt (hstill : l.stopping = false) (hnone : halts l.ready = 0) (limit : Nat) (s : σ) :
    rounds b (limit + 1) l s = rounds b limit (round b l s).1 (round b l s).2 := by
  rw [rounds_succ, if_neg (by simp [stopping_round_of_no_halt hstill hnone s])]

/-- What each round keeps is kept. -/
theorem rounds_induction {P : Loop J C V → Prop} (hround : ∀ l s, P l → P (round b l s).1) (h : P l)
    (limit : Nat) (s : σ) : P (rounds b limit l s).1 := by
  induction limit generalizing l s with
  | zero => exact h
  | succ limit ih =>
    rw [rounds_succ]
    split
    · exact hround l s h
    · exact ih (hround l s h) _

/-- The halts that a round queues are for the request and for the end that it brings. -/
theorem Sound.halts_round (h : Sound taken [] l) (s : σ) :
    halts (Loop.round b l s).1.ready + (Loop.round b l s).1.isDue.toNat + l.stopRequested.toNat =
      l.isDue.toNat + (Loop.round b l s).1.stopRequested.toNat := by
  have hbefore := h.stops
  have hafter := (h.round (b := b) s).stops
  rw [awaits, (ran_round l s).awaited] at hafter
  rw [awaits] at hbefore
  simp only [List.nil_append] at hbefore hafter
  omega

theorem Sound.rounds_of_two (h : Sound taken [] l) (hstill : l.stopping = false) (htwo : halts l.ready = 2)
    (hrounds : Loop.rounds b limit l s = (l', s')) :
    Sound (taken + if l'.stopping then 2 else 0) [] l' := by
  cases limit with
  | zero =>
    cases hrounds
    simpa [hstill] using h
  | succ limit =>
    have hpos : 0 < halts l.ready := by omega
    rw [rounds_of_halt hstill hpos] at hrounds
    have hend := h.round (b := b) s
    have hstopped := stopping_round_of_halt (b := b) hstill hpos s
    rw [hrounds] at hend hstopped
    rw [htwo] at hend
    simpa [show l'.stopping = true from hstopped] using hend

theorem coincides_succ (l : Loop J C V) (s : σ) :
    coincides b (limit + 1) l s =
      (!l.stopRequested && (round b l s).1.stopRequested && l.isDue && !(round b l s).1.isDue ||
        !(round b l s).1.stopping && coincides b limit (round b l s).1 (round b l s).2) := rfl

/-- Rounds that end with a stop take one halt, and a second one if both came in the same round. -/
theorem Sound.rounds (h : Sound taken [] l) (hstill : l.stopping = false) (hone : halts l.ready ≤ 1)
    (hrounds : Loop.rounds b limit l s = (l', s')) :
    Sound (taken + if l'.stopping then 1 + (coincides b limit l s).toNat else 0) [] l' := by
  induction limit generalizing taken l s with
  | zero =>
    cases hrounds
    simpa [hstill] using h
  | succ limit ih =>
    have hround := h.round (b := b) s
    have hhalts := h.halts_round (b := b) s
    rw [coincides_succ]
    generalize hboth : (!l.stopRequested && (Loop.round b l s).1.stopRequested && l.isDue &&
      !(Loop.round b l s).1.isDue) = both
    by_cases hnone : halts l.ready = 0
    · have hstopping := stopping_round_of_no_halt (b := b) hstill hnone s
      rw [hnone] at hround
      rw [rounds_of_no_halt hstill hnone] at hrounds
      cases both with
      | true =>
        simp only [Bool.and_eq_true, Bool.not_eq_true'] at hboth
        obtain ⟨⟨⟨hfirst, hasked⟩, hdue⟩, hover⟩ := hboth
        simp only [hfirst, hasked, hdue, hover, Bool.toNat_true, Bool.toNat_false] at hhalts
        simpa using hround.rounds_of_two hstopping (by omega) hrounds
      | false =>
        have hfew : halts (Loop.round b l s).1.ready ≤ 1 := by
          revert hhalts hboth
          cases l.stopRequested <;> cases (Loop.round b l s).1.stopRequested <;> cases l.isDue <;>
            cases (Loop.round b l s).1.isDue <;> simp <;> omega
        simpa [hstopping] using ih hround hstopping hfew hrounds
    · have hsome : halts l.ready = 1 := by omega
      have hpos : 0 < halts l.ready := by omega
      have hstopping := stopping_round_of_halt (b := b) hstill hpos s
      rw [hsome] at hround
      rw [rounds_of_halt hstill hpos] at hrounds
      obtain rfl : (Loop.round b l s).1 = l' := by rw [hrounds]
      have hapart : both = false := by
        -- the halt that is taken was asked for before this round
        have hstops := h.stops
        have hawaits := Bool.toNat_le l.awaits
        rw [List.nil_append, hsome] at hstops
        rw [← hboth]
        cases hasked : l.stopRequested <;> cases hdue : l.isDue <;> simp
        simp only [hasked, hdue, Bool.toNat_true, Bool.toNat_false] at hstops
        omega
      simpa [hstopping, hapart] using hround

end MessageBus.Loop
