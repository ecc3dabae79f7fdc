import MessageBus.Proofs.Traffic.HangingUp
/-!
How the tasks of a bus are over once its loop is closed. Who is told of its cancellation is over, or it leaves
its connection and waits for the end of that; the transport lets go of the connection in the next round, and in
the round behind that the task is over. Main statement: closing comes to an end within the rounds it is given.
-/
namespace MessageBus.Traffic

/-- If the task is not over, it waits for the end of a connection and is told of no cancellation; the transport
lets go of the connection with one of the entries, or it did, and the task has a turn coming. -/
def Parting (es : List (Loop.Entry Callback)) (l : BusLoop) (s : Traffic) (k : Nat) : Prop :=
  ∀ t : Task, l.tasks[k]? = some t → t.isOpen = true → t.cancelling = false ∧
    ∃ i how x, t.work = .job (.part i how) ∧ s.connections[i]? = some x ∧
      (.call (.letGo i) ∈ es ∨ t.phase = .queued ∧ x.gone = true)

/-- If the task is not over, one of the entries tells it of its cancellation, or it is parting by then. -/
def Dismissed (es : List (Loop.Entry Callback)) (l : BusLoop) (s : Traffic) (k : Nat) : Prop :=
  (∀ t : Task, l.tasks[k]? = some t → t.isOpen = true →
    t.phase = .queued ∧ t.cancelling = true ∧ .resume k ∈ es) ∨ Parting (es ++ l.ready) l s k

variable {l : BusLoop} {s : Traffic} {t t' : Task} {e : Loop.Entry Callback}
  {es fs : List (Loop.Entry Callback)} {i k taken : Nat}

theorem Parting.mono (h : Parting es l s k) (hsub : ∀ e ∈ es, e ∈ fs) : Parting fs l s k := by
  intro t ht hopen
  obtain ⟨hspared, i, how, x, hwork, hx, hends⟩ := h t ht hopen
  exact ⟨hspared, i, how, x, hwork, hx, hends.imp (hsub _) id⟩

/-- A task that waits for the end of a connection is over at a turn at which the connection is gone. -/
theorem Parting.own_turn (h : Parting es l s k)
    (ht' : (Loop.resume behaviour l s k).1.tasks[k]? = some t') (hopen' : t'.isOpen = true) :
    ∃ i how x, t'.work = .job (.part i how) ∧ s.connections[i]? = some x ∧ .call (.letGo i) ∈ es := by
  obtain ⟨t, ht, hopen, -, ⟨n, v, m, hturns, -⟩ | ⟨job, gate, job', hjob, hwaits, hwork', -⟩⟩ :=
    Loop.resume_own ht' hopen'
  all_goals obtain ⟨hspared, i, how, x, hwork, hx, hends⟩ := h t ht hopen
  · simp [hturns] at hwork
  · obtain rfl : job = .part i how := by simpa [hjob] using hwork
    obtain ⟨turn, s', hadvance, -, -, hturn⟩ := advance_part hx how t.cancelling
    have hturn' : turn = .waits gate job' := (congrArg (·.1) hadvance).symm.trans hwaits
    obtain ⟨-, hthere, hagain⟩ | ⟨-, hover⟩ := hturn
    · obtain ⟨-, rfl⟩ := Loop.Turn.waits.inj (hagain.symm.trans hturn')
      refine ⟨i, how, x, hwork', hx, hends.resolve_right fun hgone => ?_⟩
      simp [Connection.isGone, hgone.2] at hthere
    · exact absurd hturn' (hover _ _)

/-- With the callback that lets go of its connection, a task that waits for that has a turn coming. -/
theorem queued_of_letGo (hm : Manned l.tasks s.connections) {how : Connection.ReadEnd}
    (ht' : (Loop.perform behaviour (l, s) (.call (.letGo i))).1.tasks[k]? = some t')
    (hopen' : t'.isOpen = true) (hwork' : t'.work = .job (.part i how)) : t'.phase = .queued := by
  have hopened := Loop.not_waiting_requests (List.mem_singleton_self (Loop.Request.openGate i)) ht'
  cases hphase : t'.phase with
  | queued => rfl
  | waiting g =>
    obtain hgate | ⟨how', hgate⟩ := (hm.perform (.call (.letGo i))).gate k t' g ht' hphase
    · simp [hwork'] at hgate
    · obtain ⟨rfl, -⟩ : i = g ∧ how = how' := by simpa [hwork'] using hgate
      exact absurd hphase hopened
  | ended | cancelled => simp [Loop.Task.isOpen, hphase] at hopen'

theorem Parting.perform (h : Parting (e :: es) l s k) (hm : Manned l.tasks s.connections) :
    Parting es (Loop.perform behaviour (l, s) e).1 (Loop.perform behaviour (l, s) e).2 k := by
  intro t' ht' hopen'
  have hkept := behaviour_keeps.perform l s e
  by_cases he : e = .resume k
  · subst he
    obtain ⟨-, -, -, hspared, -⟩ := Loop.resume_own ht' hopen'
    obtain ⟨i, how, x, hwork', hx, hmem⟩ := h.own_turn ht' hopen'
    obtain ⟨y, hy, -⟩ := hkept.connection i x hx
    exact ⟨hspared, i, how, y, hwork', hy, .inl (by simpa using hmem)⟩
  · obtain ⟨t, ht, hsame⟩ := Loop.perform_before he s ht'
    obtain ⟨hspared, i, how, x, hwork, hx, hends⟩ := h t ht (hsame.isOpen ▸ hopen')
    have hwork' := hsame.work.trans hwork
    obtain ⟨y, hy, hlater⟩ := hkept.connection i x hx
    have hspared' : Loop.IsSpared k l.tasks := by
      intro u hu _
      obtain rfl := Option.some.inj (ht.symm.trans hu)
      exact hspared
    refine ⟨hspared'.perform s e t' ht' hopen', i, how, y, hwork', hy, ?_⟩
    obtain hmem | ⟨hqueued, hgone⟩ := hends
    · obtain rfl | hmem := List.mem_cons.1 hmem
      · have hlet : (s.change i Connection.letGo).connections[i]? = some x.letGo := by simp [change, hx]
        obtain rfl := Option.some.inj (hlet.symm.trans hy)
        exact .inr ⟨queued_of_letGo hm ht' hopen' hwork', rfl⟩
      · exact .inl hmem
    · refine .inr ⟨?_, hlater.gone hgone⟩
      obtain hphase | hphase := hsame.phase
      · exact hphase.trans hqueued
      · exact hphase

theorem Parting.performAll (h : Parting (es ++ fs) l s k) (hm : Manned l.tasks s.connections) :
    Parting fs (es.foldl (Loop.perform behaviour) (l, s)).1
      (es.foldl (Loop.perform behaviour) (l, s)).2 k := by
  induction es generalizing l s with
  | nil => exact h
  | cons e es ih =>
    have hrest : Parting (es ++ fs) (Loop.perform behaviour (l, s) e).1
      (Loop.perform behaviour (l, s) e).2 k := Parting.perform h hm
    exact ih hrest (hm.perform e)

/-! ### Who is told of its cancellation -/

/-- A task that is told of its cancellation and not over behind that waits for the end of a connection, of
which the transport will let go. -/
theorem parting_of_told (hm : Manned l.tasks s.connections) (ht : l.tasks[k]? = some t)
    (htold : t.cancelling = true) :
    Parting (Loop.resume behaviour l s k).1.ready (Loop.resume behaviour l s k).1
      (Loop.resume behaviour l s k).2 k := by
  intro t' ht' hopen'
  obtain ⟨u, hu, hopen, hspared, ⟨n, v, m, -, hkept, -⟩ |
    ⟨job, gate, job', hwork, hwaits, hwork', hready⟩⟩ :=
    Loop.resume_own ht' hopen'
  all_goals obtain rfl := Option.some.inj (ht.symm.trans hu)
  · simp [htold] at hkept
  · rw [htold] at hwaits hready
    have hwaits : (advance job true s).1 = .waits gate job' := hwaits
    cases job with
    | closeAll => simp [advance] at hwaits
    | serve j => cases hx : s.connections[j]? <;> simp [advance, hx] at hwaits
    | part j how => cases hx : s.connections[j]? <;> simp [advance, hx] at hwaits
    | hear j =>
      have hj : connection? t = some j := by simp [connection?, hwork]
      have hx := List.getElem?_eq_getElem (hm.known k t j ht hj)
      obtain ⟨turn, requests, s', y, hadvance, hattends, -, -, hparts⟩ := advance_hear hx true
      have hrequests : requests = (behaviour.advance (.hear j) true s).2.1 :=
        (congrArg (·.2.1) hadvance).symm
      rw [hadvance] at hwaits
      obtain rfl : turn = .waits gate job' := hwaits
      obtain ⟨-, ⟨rfl, -⟩ | ⟨⟨how, rfl⟩, -, hasked, -⟩⟩ := hattends.waiting
      · exact absurd rfl (hparts rfl gate)
      · obtain ⟨z, hz, -⟩ := (behaviour_keeps.resume l s k).connection j _ hx
        refine ⟨hspared, j, how, z, hwork', hz, .inl ?_⟩
        rw [hready, ← hrequests]
        exact Loop.call_mem_ready (by simp [hasked])

theorem Dismissed.perform (h : Dismissed (e :: es) l s k) (hm : Manned l.tasks s.connections) :
    Dismissed es (Loop.perform behaviour (l, s) e).1 (Loop.perform behaviour (l, s) e).2 k := by
  obtain htold | hparts := h
  · by_cases he : e = .resume k
    · subst he
      refine .inr ?_
      cases ht : l.tasks[k]? with
      | none =>
        intro t' ht'
        have hlength := (Loop.ran_resume (b := behaviour) l s k).length
        have hk := (List.getElem?_eq_some_iff.1 ht').1
        simp only [Loop.perform] at hk
        exact absurd (hlength ▸ hk) (by simpa using ht)
      | some t =>
        cases hopen : t.isOpen with
        | true =>
          exact (parting_of_told hm ht (htold t ht hopen).2.1).mono fun _ => List.mem_append_right es
        | false =>
          intro t' ht' hopen'
          have hkept := (Loop.ran_resume (b := behaviour) l s k).tasks k t ht (.inl hopen)
          obtain rfl := Option.some.inj (hkept.symm.trans ht')
          simp [hopen] at hopen'
    · refine .inl fun t' ht' hopen' => ?_
      obtain ⟨t, ht, hkept⟩ := (Loop.ran_perform (b := behaviour) l s e).task ht'
      obtain ⟨u, hu, hsame⟩ := Loop.perform_before he s ht'
      obtain rfl := Option.some.inj (ht.symm.trans hu)
      obtain ⟨hqueued, hcancelling, hmem⟩ := htold t ht (hsame.isOpen ▸ hopen')
      rw [hkept (.inr ⟨hqueued, by simpa using Ne.symm he⟩)]
      exact ⟨hqueued, hcancelling, (List.mem_cons.1 hmem).resolve_left (Ne.symm he)⟩
  · refine .inr ((Parting.perform hparts hm).mono fun f hf => ?_)
    obtain hf | hf := List.mem_append.1 hf
    · exact List.mem_append_left _ hf
    · exact List.mem_append_right _ (Loop.mem_ready_perform hf s e)

theorem Dismissed.performAll (h : Dismissed es l s k) (hm : Manned l.tasks s.connections) :
    Dismissed [] (es.foldl (Loop.perform behaviour) (l, s)).1
      (es.foldl (Loop.perform behaviour) (l, s)).2 k := by
  induction es generalizing l s with
  | nil => exact h
  | cons e es ih => exact ih (h.perform hm) (hm.perform e)

/-! ### Round by round -/

/-- Behind the round in which all are told, who is not over waits for the end of its connection. -/
theorem parting_gathering (h : l.Resting taken) (hm : Manned l.tasks s.connections) (k : Nat) :
    Parting (Loop.round behaviour l.cancelled.gathering s).1.ready
      (Loop.round behaviour l.cancelled.gathering s).1
      (Loop.round behaviour l.cancelled.gathering s).2 k := by
  obtain ⟨delivered, coming, pipe, -, hround⟩ :=
    Loop.round_eq_performAll (b := behaviour) l.cancelled.gathering s
  have hmanned : Manned l.cancelled.tasks s.connections := hm.undisturbed (Loop.undisturbed_cancelled l)
  have hstart : Dismissed (l.cancelled.gathering.ready ++ pipe)
      (l.cancelled.gathering.begun delivered coming) s k := by
    refine .inl fun t ht hopen => ?_
    obtain ⟨hqueued, htold, hmem⟩ := Loop.doomed_cancelled h k t ht hopen
    exact ⟨hqueued, htold, List.mem_append_left pipe hmem⟩
  have hend := hstart.performAll hmanned
  rw [← hround] at hend
  obtain hnone | hparts := hend
  · exact fun t ht hopen => absurd (hnone t ht hopen).2.2 (by simp)
  · simpa using hparts

/-- In the round behind that the connections come to their ends. -/
theorem Parting.round (h : Parting l.ready l s k) (hm : Manned l.tasks s.connections) :
    Parting [] (Loop.round behaviour l s).1 (Loop.round behaviour l s).2 k := by
  obtain ⟨delivered, coming, pipe, -, hround⟩ := Loop.round_eq_performAll (b := behaviour) l s
  have hstart : Parting (l.ready ++ pipe ++ []) (l.begun delivered coming) s k := by
    have hready : Parting l.ready (l.begun delivered coming) s k := h
    exact hready.mono fun f hf => by simp [hf]
  rw [hround]
  exact hstart.performAll hm

/-- The turn of a task whose connection is gone is its last one. -/
theorem finished_of_gone (h : ∀ k, Parting [] l s k) (hm : Manned l.tasks s.connections)
    (hturns : ∀ k t, l.tasks[k]? = some t → t.isOpen = true → .resume k ∈ es) :
    (es.foldl (Loop.perform behaviour) (l, s)).1.Finished := by
  induction es generalizing l s with
  | nil =>
    intro t ht
    obtain ⟨k, hk⟩ := List.getElem?_of_mem ht
    cases hopen : t.isOpen with
    | false => rfl
    | true => exact absurd (hturns k t hk hopen) (by simp)
  | cons e es ih =>
    refine ih (fun k => Parting.perform ((h k).mono (by simp)) hm) (hm.perform e) fun k t' ht' hopen' => ?_
    by_cases he : e = .resume k
    · subst he
      obtain ⟨i, how, x, -, -, hmem⟩ := (h k).own_turn ht' hopen'
      simp at hmem
    · obtain ⟨t, ht, hsame⟩ := Loop.perform_before he s ht'
      exact (List.mem_cons.1 (hturns k t ht (hsame.isOpen ▸ hopen'))).resolve_left (Ne.symm he)

theorem finished_round (h : ∀ k, Parting [] l s k) (hm : Manned l.tasks s.connections)
    (hl : l.Filed []) : (Loop.round behaviour l s).1.Finished := by
  obtain ⟨delivered, coming, pipe, -, hround⟩ := Loop.round_eq_performAll (b := behaviour) l s
  have hstart : ∀ k, Parting [] (l.begun delivered coming) s k := h
  rw [hround]
  refine finished_of_gone hstart hm fun k t ht hopen => ?_
  obtain ⟨-, i, how, x, -, -, hmem | ⟨hqueued, -⟩⟩ := h k t ht hopen
  · simp at hmem
  · exact List.mem_append_left pipe (hl.scheduled k t ht hqueued)

/-- Closing a bus comes to an end: its tasks are over within three rounds, unless a halt comes before. -/
theorem closeWithin_ends (h : l.Resting taken) (hm : Manned l.tasks s.connections) :
    (Loop.closeWithin behaviour closingRounds l s).1 ≠ .error .unfinished := by
  refine h.closeWithin_ends (n := 3) s fun hsome => ?_
  have hfirst := (h.cancelled.1.gathering hsome).round (b := behaviour) s
  have hparting := parting_gathering (s := s) h hm
  have hmanned : Manned l.cancelled.tasks s.connections := hm.undisturbed (Loop.undisturbed_cancelled l)
  have hmanned₁ := preserves_manned.round l.cancelled.gathering s hmanned
  rw [Loop.rounds_succ]
  split
  · exact .inl ‹_›
  · generalize Loop.round behaviour l.cancelled.gathering s = r₁ at hfirst hparting hmanned₁ ⊢
    obtain ⟨l₁, s₁⟩ := r₁
    have hsecond := hfirst.round (b := behaviour) s₁
    have hgone := fun k => (hparting k).round hmanned₁
    have hmanned₂ := preserves_manned.round l₁ s₁ hmanned₁
    rw [Loop.rounds_succ]
    split
    · exact .inl ‹_›
    · rw [Loop.rounds_succ]
      split
      · exact .inl ‹_›
      · exact .inr (finished_round hgone hmanned₂ hsecond.toFiled)

end MessageBus.Traffic
