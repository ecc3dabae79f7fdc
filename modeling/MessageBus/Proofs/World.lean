import MessageBus.Proofs.Listener.Binding
/-!
How the world moves on while the bus works: errors are counted in the log, and no command takes the
place of the program.
-/
namespace MessageBus.World
variable {w w' w₁ : World} {n m : Nat} {r : Log.Record} {a : Address} {path : String}

/-- From one world to a later one so many errors were logged. No command was tried, and what trying one
would come to is as before, as is the platform. -/
structure Proceeds (errors : Nat) (w w' : World) : Prop where
  platform : w'.platform = w.platform
  log : ∃ records, w'.log = w.log ++ records ∧ records.countP (·.level == .error) = errors
  commands : w'.commands = w.commands
  replacing : w'.replacing = w.replacing

theorem Proceeds.refl (w : World) : Proceeds 0 w w := ⟨rfl, ⟨[], by simp, rfl⟩, rfl, rfl⟩

theorem Proceeds.trans (h : Proceeds n w w₁) (h' : Proceeds m w₁ w') : Proceeds (n + m) w w' := by
  obtain ⟨records, hlog, hcount⟩ := h.log
  obtain ⟨more, hlog', hcount'⟩ := h'.log
  constructor
  · rw [h'.platform, h.platform]
  · exact ⟨records ++ more, by rw [hlog', hlog, List.append_assoc],
      by rw [List.countP_append, hcount, hcount']⟩
  · rw [h'.commands, h.commands]
  · rw [h'.replacing, h.replacing]

/-- Nothing but quiet steps behind. -/
theorem Proceeds.quiet (h : Proceeds n w w₁) (h' : Proceeds 0 w₁ w') : Proceeds n w w' := h.trans h'

theorem proceeds_record (w : World) (hr : (r.level == .error) = false) : Proceeds 0 w (w.record r) :=
  ⟨rfl, ⟨[r], rfl, by simp [hr]⟩, rfl, rfl⟩

theorem proceeds_error (w : World) (hr : r.level = .error) : Proceeds 1 w (w.record r) :=
  ⟨rfl, ⟨[r], rfl, by simp [hr]⟩, rfl, rfl⟩

theorem proceeds_files (w : World) (files : Files) : Proceeds 0 w { w with files := files } :=
  ⟨rfl, ⟨[], by simp, rfl⟩, rfl, rfl⟩

theorem proceeds_nextListening (w : World) : Proceeds 0 w w.nextListening.2 := by
  unfold nextListening
  split
  · exact .refl w
  · exact ⟨rfl, ⟨[], by simp, rfl⟩, rfl, rfl⟩

theorem proceeds_port (w : World) (asked : Nat) : Proceeds 0 w (w.port asked).2 := by
  unfold port
  split
  · exact ⟨rfl, ⟨[], by simp, rfl⟩, rfl, rfl⟩
  · exact .refl w

theorem proceeds_write (descriptor : Nat) (text : String) (w : World) :
    Proceeds 0 w (w.write descriptor text).2 := by
  unfold write
  split <;> exact ⟨rfl, ⟨[], by simp, rfl⟩, rfl, rfl⟩

@[simp] theorem flush_record (w : World) (r : Log.Record) : (w.record r).flush = w.flush := rfl

theorem flush_of_platform (h : w'.platform = w.platform) : w'.flush = w.flush := by rw [flush, h, flush]

theorem write_files (descriptor : Nat) (text : String) (w : World) :
    (w.write descriptor text).2.files = w.files := by
  unfold write
  split <;> rfl

/-! ### Binding -/

/-- It cannot be told what stands at a path where a socket is to be made, and that is logged. -/
def UncheckedPath (path : String) (w : World) : Prop :=
  w.collecting = true ∧ Path.hasNull path = false ∧ (∃ foreign, w.platform.sockets = .native foreign) ∧
    ∃ e, w.files.stat path = .error e ∧ e.isNotFound = false

/-- It cannot be told what stands at the path of an address, and that is logged. -/
def Unchecked (a : Address) (w : World) : Prop :=
  a.transport = .unix ∧ UncheckedPath (Listener.socketPath a (w.attempt a)).1 w

theorem proceeds_sweep (h : Listener.sweep path w = .ok w₁) :
    (UncheckedPath path w ∧ Proceeds 1 w w₁ ∧ w₁.files = w.files) ∨
      (¬ UncheckedPath path w ∧ Proceeds 0 w w₁) := by
  unfold Listener.sweep at h
  split at h
  · rename_i hsockets
    cases h
    exact .inr ⟨fun ⟨_, _, ⟨_, hnative⟩, _⟩ => by simp [hsockets] at hnative, .refl w⟩
  · rename_i foreign hsockets
    split at h
    · rename_i habstract
      cases h
      exact .inr ⟨fun ⟨_, hplain, _⟩ => by simp [hasNull_of_isAbstract habstract] at hplain, .refl w⟩
    · split at h
      · cases h
      · rename_i hnull
        split at h
        · rename_i files hswept
          cases h
          refine .inr ⟨fun ⟨_, _, _, e, hstat, _⟩ => ?_, proceeds_files w files⟩
          simp [Files.sweep_of_stat_error hstat] at hswept
        · rename_i e hswept
          have hstat : w.files.stat path = .error e := by
            obtain ⟨files, hok, -⟩ | ⟨e', hstat, hfails⟩ := w.files.sweep_cases path
            · simp [hok] at hswept
            · cases hfails.symm.trans hswept
              exact hstat
          cases h
          split
          · rename_i hlogged
            simp only [Bool.and_eq_true, Bool.not_eq_true'] at hlogged
            exact .inl ⟨⟨hlogged.2, by simpa using hnull, ⟨foreign, hsockets⟩, e, hstat, hlogged.1⟩,
              proceeds_error w rfl, rfl⟩
          · rename_i hsilent
            refine .inr ⟨fun ⟨hcollecting, _, _, e', hstat', he'⟩ => ?_, .refl w⟩
            cases hstat.symm.trans hstat'
            simp [hcollecting, he'] at hsilent

theorem makeSocket_kept (h : Listener.makeSocket path w = .ok w') : ∃ files, w' = { w with files := files } := by
  obtain ⟨files, -, rfl⟩ := map_ok.1 h
  exact ⟨files, rfl⟩

/-- What keeps a path from being looked at keeps a socket from being made there. -/
theorem UncheckedPath.makeSocket (h : UncheckedPath path w) (hfiles : w'.files = w.files)
    (hplatform : w'.platform = w.platform) : ∃ e, Listener.makeSocket path w' = .error (.system e) := by
  obtain ⟨-, hplain, ⟨foreign, hsockets⟩, e, hstat, he⟩ := h
  obtain ⟨e', hmake⟩ := Files.makeSocket_of_stat_error hstat he
  refine ⟨e', ?_⟩
  unfold Listener.makeSocket
  rw [hplatform, hsockets, hfiles]
  simp [isAbstract_of_plain hplain, hmake, mapError_error, Except.map]

/-- Binding a path logs no error, unless it cannot be told what stands there; and then it fails. -/
theorem proceeds_bindPath (path : String) (w : World) :
    (UncheckedPath path w ∧ Proceeds 1 w (Listener.bindPath path w).2 ∧
      ∃ e, (Listener.bindPath path w).1 = .error (.system e)) ∨
      (¬ UncheckedPath path w ∧ Proceeds 0 w (Listener.bindPath path w).2) := by
  unfold Listener.bindPath
  cases hsweep : Listener.sweep path w with
  | error f =>
    refine .inr ⟨fun ⟨_, hplain, _⟩ => ?_, .refl w⟩
    obtain ⟨-, hnull, -⟩ | ⟨files, log, hok, -⟩ := Listener.sweep_cases path w
    · simp [hnull] at hplain
    · simp [hok] at hsweep
  | ok w₁ =>
    have hnext := proceeds_nextListening w₁
    have hfiles := Listener.nextListening_files w₁
    have hplatform := Listener.nextListening_platform w₁
    dsimp only
    generalize w₁.nextListening = listened at hnext hfiles hplatform ⊢
    obtain ⟨outcome, w₂⟩ := listened
    obtain ⟨hunchecked, hsweeps, hsame⟩ | ⟨hchecked, hsweeps⟩ := proceeds_sweep hsweep
    · refine .inl ⟨hunchecked, ?_⟩
      cases outcome with
      | some e => exact ⟨hsweeps.quiet hnext, e, rfl⟩
      | none =>
        obtain ⟨e, hfails⟩ :=
          hunchecked.makeSocket (hfiles.trans hsame) (hplatform.trans hsweeps.platform)
        dsimp only
        rw [hfails]
        exact ⟨hsweeps.quiet hnext, e, rfl⟩
    · refine .inr ⟨hchecked, ?_⟩
      cases outcome with
      | some e => exact hsweeps.trans hnext
      | none =>
        dsimp only
        cases hmake : Listener.makeSocket path w₂ with
        | error f => exact hsweeps.trans hnext
        | ok w₃ =>
          obtain ⟨files, rfl⟩ := makeSocket_kept hmake
          exact (hsweeps.trans hnext).trans (proceeds_files w₂ files)

theorem proceeds_bindPort (host : String) (asked : Nat) (w : World) :
    Proceeds 0 w (Listener.bindPort host asked w).2 := by
  have hnext := proceeds_nextListening w
  unfold Listener.bindPort
  split
  · exact .refl w
  · split
    · rename_i hn
      rwa [hn] at hnext
    · rename_i w₁ hn
      rw [hn] at hnext
      exact hnext.trans (proceeds_port w₁ asked)

/-- Binding an address logs no error, unless it cannot be told what stands at its path; and then it fails. -/
theorem proceeds_bind (a : Address) (w : World) :
    (Unchecked a w ∧ Proceeds 1 w (Listener.bind a w).2 ∧
      ∃ e, (Listener.bind a w).1 = .error (.system e)) ∨
      (¬ Unchecked a w ∧ Proceeds 0 w (Listener.bind a w).2) := by
  have hattempt : Proceeds 0 w (w.attempt a) := ⟨rfl, ⟨[], by simp [attempt], rfl⟩, rfl, rfl⟩
  unfold Listener.bind Unchecked
  dsimp only
  split
  · rename_i hunix
    have hpath : Proceeds 0 (w.attempt a) (Listener.socketPath a (w.attempt a)).2 := by
      unfold Listener.socketPath
      split
      · exact .refl _
      · exact ⟨rfl, ⟨[], by simp [freshName], rfl⟩, rfl, rfl⟩
    have hunchecked : UncheckedPath (Listener.socketPath a (w.attempt a)).1
        (Listener.socketPath a (w.attempt a)).2 ↔ UncheckedPath (Listener.socketPath a (w.attempt a)).1 w := by
      have hcollecting : (Listener.socketPath a (w.attempt a)).2.collecting = w.collecting := by
        unfold Listener.socketPath
        split <;> rfl
      rw [UncheckedPath, hcollecting, Listener.socketPath_platform, Listener.socketPath_files]
      rfl
    have hbound := proceeds_bindPath (Listener.socketPath a (w.attempt a)).1
      (Listener.socketPath a (w.attempt a)).2
    rw [hunchecked] at hbound
    obtain ⟨hun, hproceeds, hfails⟩ | ⟨hchecked, hproceeds⟩ := hbound
    · exact .inl ⟨⟨hunix, hun⟩, (hattempt.trans hpath).trans hproceeds, hfails⟩
    · exact .inr ⟨fun h => hchecked h.2, (hattempt.trans hpath).trans hproceeds⟩
  · rename_i htcp
    refine .inr ⟨fun h => absurd (htcp.symm.trans h.1) (by simp), ?_⟩
    split
    · exact hattempt
    · exact hattempt.trans (proceeds_bindPort _ _ _)

end MessageBus.World
