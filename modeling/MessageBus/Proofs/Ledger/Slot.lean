import MessageBus.Proofs.Ledger.Refusal

/-! A slot as a target. Filing into a slot of the ledger does what filing into a target does: it fails for the
same fault and leaves the ledger as it was, or the slot shows what the target holds then. -/
namespace MessageBus.Report.Ledger

variable {l : Ledger} {s : Nat} {slot : Option Nat} {t : Target} {kind : Kind} {w : Wording} {fs : List Nat}

/-- What a slot shows to one who files a report in it. Where there is no slot, there is no target. -/
inductive Shows (l : Ledger) : Option Nat → Target → Prop
  | absent : Shows l none .absent
  | clear {s : Nat} (hclear : (l.slot s).kind = none) (hleft : ¬ l.Exhausted (l.slot s).allocator) :
      Shows l (some s) .clear
  | exhausted {s : Nat} (hclear : (l.slot s).kind = none) (hleft : l.Exhausted (l.slot s).allocator) :
      Shows l (some s) .exhausted
  | holding {s : Nat} {r : Report} (hread : l.reading s = .ok (some r)) : Shows l (some s) (.holding r)

/-- A slot that can be read shows a target. -/
theorem exists_shows (hk : Kept l fs) (ho : Owned l fs) (s : Nat) : ∃ t, l.Shows (some s) t := by
  by_cases hclear : (l.slot s).kind = none
  · by_cases hleft : l.Exhausted (l.slot s).allocator
    · exact ⟨_, .exhausted hclear hleft⟩
    · exact ⟨_, .clear hclear hleft⟩
  · obtain ⟨r, hread⟩ := hk.exists_reading ho hclear
    exact ⟨_, .holding hread⟩

/-- After a run that gives no buffer back behind its owner, every slot shows a target. -/
theorem run_shows {ops : List Operation} (h : empty.admits ops) (hn : empty.spares ops) (s : Nat) :
    ∃ t, (empty.run ops).Shows (some s) t := by
  obtain ⟨-, ho⟩ := run_books h books_empty owned_empty
  exact exists_shows (run_kept h hn owned_empty kept_empty) ho s

/-- A report that is read off a slot is of the kind that the slot is set to. -/
theorem kind_of_reading {r : Report} (h : l.reading s = .ok (some r)) : (l.slot s).kind = some r.kind := by
  unfold reading held at h
  cases hkind : (l.slot s).kind with
  | none => simp [hkind] at h
  | some kind =>
    cases hmessage : (l.slot s).message with
    | none => simp [hkind, hmessage] at h
    | some message =>
      simp only [hkind, hmessage] at h
      cases htext : l.text message with
      | error fault => simp [htext, Except.map] at h
      | ok text =>
        simp only [htext, Except.map, Except.ok.injEq, Option.some.injEq] at h
        rw [← h]

theorem ofWording_unfilled {fault : Template.Fault} (htext : w.text kind = .error fault)
    (hfault : fault ≠ .outOfMemory) : ofWording kind w = .error fault := by
  cases fault <;> simp_all [ofWording]

/-- Where a slot is starved, a target without memory takes the report of that. -/
theorem file_exhausted_starved (h : l.Starved s kind w) :
    Target.exhausted.file kind w = .ok (.holding noMemory) := by
  obtain hnone | ⟨⟨text, htext⟩, -⟩ := h
  · simp [Target.file, ofWording, hnone]
  · simp [Target.file, ofWording, htext]

theorem fileOwned_starved_shows (hs : s < l.slots.length) (hclear : (l.slot s).kind = none)
    (h : l.Starved s kind w) :
    ∃ l', l.fileOwned s (some kind) w = .ok l' ∧ l'.Shows (some s) (.holding noMemory) :=
  ⟨_, fileOwned_starved hclear h, .holding (reading_report hs)⟩

/-- Filing into a slot ends as filing into the target that it shows does, and the slot shows the target's
end then. -/
theorem fileOwned_shows (hs : s < l.slots.length) (ht : l.Shows (some s) t) :
    match t.file kind w with
    | .ok after => ∃ l', l.fileOwned s (some kind) w = .ok l' ∧ l'.Shows (some s) after
    | .error fault => l.fileOwned s (some kind) w = .error fault := by
  cases ht with
  | holding hread => simp [Target.file, fileOwned, fileable, kind_of_reading hread, bind, Except.bind]
  | clear hclear hleft =>
    obtain hstarved | ⟨fault, htext, hfault⟩ | ⟨text, htext, -⟩ := text_cases l s kind w
    · obtain hnone | ⟨-, hexhausted⟩ := hstarved
      · simp only [Target.file, ofWording, hnone]
        exact fileOwned_starved_shows hs hclear (.inl hnone)
      · exact absurd hexhausted hleft
    · simp only [Target.file, ofWording_unfilled htext hfault]
      exact fileOwned_unfilled hclear htext hfault
    · simp only [Target.file, ofWording, htext]
      exact ⟨_, fileOwned_filled hclear htext hleft, .holding (reading_reportOwned hs)⟩
  | exhausted hclear hexhausted =>
    obtain hstarved | ⟨fault, htext, hfault⟩ | ⟨text, -, hleft⟩ := text_cases l s kind w
    · simp only [file_exhausted_starved hstarved]
      exact fileOwned_starved_shows hs hclear hstarved
    · simp only [Target.file, ofWording_unfilled htext hfault]
      exact fileOwned_unfilled hclear htext hfault
    · exact absurd hexhausted hleft

/-- Filing for a caller who may have given no target does to the ledger what filing into the target that is
shown does. A report that is refused changes nothing. -/
theorem fileIfGiven_shows (hs : l.knows (.fileIfGiven slot (some kind) w) = true) (ht : l.Shows slot t) :
    (l.step (.fileIfGiven slot (some kind) w)).1 = (t.file kind w).map (fun _ => ()) ∧
      (l.step (.fileIfGiven slot (some kind) w)).2.Shows slot ((t.file kind w).toOption.getD t) := by
  cases slot with
  | none =>
    cases ht
    exact ⟨rfl, .absent⟩
  | some s =>
    have hfiled := @fileOwned_shows l s t kind w (by simpa [knows] using hs) ht
    cases hfile : t.file kind w with
    | error fault =>
      simp only [hfile] at hfiled
      simp only [step, hfiled, step.settle]
      exact ⟨rfl, ht⟩
    | ok after =>
      simp only [hfile] at hfiled
      obtain ⟨l', hl', hshows⟩ := hfiled
      simp only [step, hl', step.settle]
      exact ⟨rfl, hshows⟩

end MessageBus.Report.Ledger
