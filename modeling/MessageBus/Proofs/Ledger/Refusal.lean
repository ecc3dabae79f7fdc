import MessageBus.Proofs.Ledger.Accounting
import MessageBus.Proofs.Ledger.Reading

/-! When operations on the ledger fail, and what they leave behind then. -/
namespace MessageBus.Report.Ledger

variable {l : Ledger} {s : Nat} {op : Operation} {f : Fault} {kind : Option Kind} {k : Kind} {w : Wording}
  {ops : List Operation} {r : Except Fault Ledger}

/-- The operation fails. -/
def Fails (l : Ledger) (op : Operation) (f : Fault) : Prop := (l.step op).1 = .error f

/-- The operation fails because it is a misuse. -/
def Misused (l : Ledger) (op : Operation) : Prop := ∃ m, l.Fails op (.misuse m)

/-- The operation is a misuse exactly under a condition, and does not fail otherwise. -/
def RefusedIff (l : Ledger) (op : Operation) (condition : Prop) : Prop :=
  (l.Misused op ↔ condition) ∧ ∀ f, l.Fails op f → ∃ m, f = .misuse m

/-- The slot owns a buffer that was given back behind it. -/
def Spent (l : Ledger) (s : Nat) : Prop := ∃ b, l.Owns s b ∧ (l.buffer b).released = true

/-- The allocator has handed out as many buffers as it may. -/
def Exhausted (l : Ledger) (a : Nat) : Prop :=
  ∃ limit, (l.allocator a).limit = some limit ∧ limit ≤ (l.allocator a).handedOut

/-- No memory is to be had for a report: filling its template runs out of it, or no buffer is left for
its text. -/
def Starved (l : Ledger) (s : Nat) (kind : Kind) (w : Wording) : Prop :=
  w.text kind = .error .outOfMemory ∨
    (∃ text, w.text kind = .ok text) ∧ l.Exhausted (l.slot s).allocator

/-- Operations fail exactly where they break a rule, or a template cannot be filled; one that fails
leaves the ledger as it was, but for a slot that cannot give its buffer back: that one is empty. -/
structure Disciplined (l : Ledger) : Prop where
  refused_fileBorrowed : ∀ s kind text,
    l.RefusedIff (.fileBorrowed s kind text) (kind = none ∨ l.IsSet s)
  /-- A borrowed text is read as it was given, or as the description of the kind. -/
  fileBorrowed : ∀ s < l.slots.length, ∀ kind text l', l.step (.fileBorrowed s kind text) = (.ok (), l') →
    ∃ k, kind = some k ∧ l'.reading s = .ok (some ⟨k, text.getD k.description, false⟩)
  misused_fileOwned : ∀ s kind w, l.Misused (.fileOwned s kind w) ↔ kind = none ∨ l.IsSet s
  fails_fileOwned : ∀ s kind w f, l.Fails (.fileOwned s kind w) f → (∃ m, f = .misuse m) ∨
    ∃ k fault, kind = some k ∧ w.text k = .error fault ∧ fault ≠ .outOfMemory ∧ f = .template fault
  /-- What is filed with a text of its own is read as it was asked for, or as a lack of memory if there
  is such a lack, which takes no buffer. -/
  fileOwned : ∀ s < l.slots.length, ∀ kind w l', l.step (.fileOwned s kind w) = (.ok (), l') →
    ∃ k, kind = some k ∧
      (¬ l.Starved s k w ∧ (∃ text, w.text k = .ok text ∧ l'.reading s = .ok (some ⟨k, text, true⟩)) ∨
        l.Starved s k w ∧ l'.reading s = .ok (some noMemory) ∧ l'.allocators = l.allocators)
  fileIfGiven : ∀ s kind w, l.step (.fileIfGiven (some s) kind w) = l.step (.fileOwned s kind w) ∧
    l.step (.fileIfGiven none kind w) = (.ok (), l)
  fileBorrowedIfGiven : ∀ s kind text,
    l.step (.fileBorrowedIfGiven (some s) kind text) = l.step (.fileBorrowed s kind text) ∧
    l.step (.fileBorrowedIfGiven none kind text) = (.ok (), l)
  move : ∀ s d, l.RefusedIff (.move s (some d)) (l.IsSet d)
  copy : ∀ s, l.RefusedIff (.copy s) (l.IsSet s)
  clear : ∀ s < l.slots.length, ∀ op, op = .clear s ∨ op = .move s none →
    l.RefusedIff op (l.Spent s) ∧
    (l.Spent s → ¬ (l.step op).2.IsSet s ∧ (l.step op).2.buffers = l.buffers ∧
      (l.step op).2.allocators = l.allocators ∧ ∀ t, t ≠ s → (l.step op).2.slot t = l.slot t)
  unchanged : ∀ op f, l.Fails op f → (∀ s, op ≠ .clear s ∧ op ≠ .move s none) → (l.step op).2 = l

/-! ### Settling -/

theorem fails_settle (hop : l.step op = step.settle l r) : l.Fails op f ↔ r = .error f := by
  unfold Fails
  rw [hop]
  cases r <;> simp [step.settle]

theorem settle_ok {l' : Ledger} (h : step.settle l r = (.ok (), l')) : r = .ok l' := by
  cases r <;> cases h
  rfl

theorem unchanged_settle (hop : l.step op = step.settle l r) (h : l.Fails op f) : (l.step op).2 = l := by
  rw [hop, (fails_settle hop).1 h, step.settle]

theorem refusedIff_settle {condition : Prop} (hop : l.step op = step.settle l r)
    (hrefused : condition → ∃ m, r = .error (.misuse m))
    (htaken : ¬ condition → ∃ l', r = .ok l') : l.RefusedIff op condition := by
  have hfails : ∀ f, l.Fails op f → condition ∧ ∃ m, f = .misuse m := by
    intro f hf
    rw [fails_settle hop] at hf
    by_cases hc : condition
    · obtain ⟨m, hm⟩ := hrefused hc
      cases hm.symm.trans hf
      exact ⟨hc, m, rfl⟩
    · obtain ⟨l', hl'⟩ := htaken hc
      cases hl'.symm.trans hf
  refine ⟨⟨fun ⟨m, hm⟩ => (hfails _ hm).1, fun hc => ?_⟩, fun f hf => (hfails f hf).2⟩
  obtain ⟨m, hm⟩ := hrefused hc
  exact ⟨m, (fails_settle hop).2 hm⟩

/-! ### Filing -/

theorem isSet_iff : l.IsSet s ↔ ∃ k, (l.slot s).kind = some k := Option.ne_none_iff_exists'

/-- Without a kind nothing is filed, and nothing into a slot that is set. -/
theorem fileable_misused (h : kind = none ∨ l.IsSet s) :
    ∃ m, l.fileable s kind = .error (.misuse m) := by
  obtain rfl | hs := h
  · exact ⟨_, rfl⟩
  · obtain ⟨k, hk⟩ := isSet_iff.1 hs
    cases kind <;> simp [fileable, hk]

theorem fileable_clear (hc : (l.slot s).kind = none) : l.fileable s (some k) = .ok k := by
  simp [fileable, hc]

theorem allocate_eq_none_iff {a : Nat} {text : String} :
    l.allocate a text = none ↔ l.Exhausted a := by
  unfold allocate Exhausted
  cases hlimit : (l.allocator a).limit <;> simp [hlimit]

theorem fileBorrowed_refused (s : Nat) (kind : Option Kind) (text : Option String) :
    l.RefusedIff (.fileBorrowed s kind text) (kind = none ∨ l.IsSet s) := by
  apply refusedIff_settle rfl
  · intro h
    obtain ⟨m, hm⟩ := fileable_misused h
    exact ⟨m, by simp [Ledger.fileBorrowed, hm, bind, Except.bind]⟩
  · intro h
    obtain ⟨hkind, hs⟩ := not_or.1 h
    obtain ⟨k, rfl⟩ := Option.ne_none_iff_exists'.1 hkind
    have hclear := fileable_clear (k := k) (not_not.1 hs)
    exact ⟨_, by simp only [Ledger.fileBorrowed, hclear, bind, Except.bind]; rfl⟩

theorem fileBorrowed_reading (hs : s < l.slots.length) {text : Option String} {l' : Ledger}
    (h : l.fileBorrowed s kind text = .ok l') :
    ∃ k, kind = some k ∧ l'.reading s = .ok (some ⟨k, text.getD k.description, false⟩) := by
  obtain ⟨k, rfl, -, rfl⟩ := fileBorrowed_ok h
  exact ⟨k, rfl, reading_report hs⟩

/-- What is filed where there is no memory for a text. -/
theorem fileOwned_starved (hc : (l.slot s).kind = none) (h : l.Starved s k w) :
    l.fileOwned s (some k) w =
      .ok (l.hold s (some .noMemory) (some (.borrowed Kind.noMemory.description))) := by
  have hborrowed : l.fileBorrowed s (some .noMemory) none =
      .ok (l.hold s (some .noMemory) (some (.borrowed Kind.noMemory.description))) := by
    simp only [Ledger.fileBorrowed, fileable_clear hc, bind, Except.bind]
    rfl
  obtain htext | ⟨⟨text, htext⟩, hexhausted⟩ := h
  · simp [Ledger.fileOwned, fileable_clear hc, htext, hborrowed, bind, Except.bind]
  · have hnone : l.allocate (l.slot s).allocator text = none := allocate_eq_none_iff.2 hexhausted
    simp [Ledger.fileOwned, fileable_clear hc, htext, hnone, hborrowed, bind, Except.bind]

theorem fileOwned_unfilled {fault : Template.Fault} (hc : (l.slot s).kind = none)
    (htext : w.text k = .error fault) (hfault : fault ≠ .outOfMemory) :
    l.fileOwned s (some k) w = .error (.template fault) := by
  simp only [Ledger.fileOwned, fileable_clear hc, htext, bind, Except.bind]

theorem fileOwned_filled {text : String} (hc : (l.slot s).kind = none) (htext : w.text k = .ok text)
    (hleft : ¬ l.Exhausted (l.slot s).allocator) :
    l.fileOwned s (some k) w = .ok ((l.lend (l.slot s).allocator text).hold s (some k)
      (some (.owned l.buffers.length))) := by
  have hsome : l.allocate (l.slot s).allocator text ≠ none := mt allocate_eq_none_iff.1 hleft
  obtain ⟨⟨b, l'⟩, hb⟩ := Option.ne_none_iff_exists'.1 hsome
  obtain ⟨rfl, rfl⟩ := allocate_some hb
  simp [Ledger.fileOwned, fileable_clear hc, htext, hb, bind, Except.bind, pure, Except.pure]

/-- A report gets its text, or its template cannot be filled, or there is no memory for it. -/
theorem text_cases (l : Ledger) (s : Nat) (k : Kind) (w : Wording) :
    l.Starved s k w ∨ (∃ fault, w.text k = .error fault ∧ fault ≠ .outOfMemory) ∨
      ∃ text, w.text k = .ok text ∧ ¬ l.Exhausted (l.slot s).allocator := by
  cases htext : w.text k with
  | error fault =>
    by_cases hfault : fault = .outOfMemory
    · exact .inl (.inl (hfault ▸ htext))
    · exact .inr (.inl ⟨fault, rfl, hfault⟩)
  | ok text =>
    by_cases hleft : l.Exhausted (l.slot s).allocator
    · exact .inl (.inr ⟨⟨text, htext⟩, hleft⟩)
    · exact .inr (.inr ⟨text, rfl, hleft⟩)

theorem fileOwned_misused (h : kind = none ∨ l.IsSet s) (w : Wording) :
    ∃ m, l.fileOwned s kind w = .error (.misuse m) := by
  obtain ⟨m, hm⟩ := fileable_misused h
  exact ⟨m, by simp [Ledger.fileOwned, hm, bind, Except.bind]⟩

/-- All ends of filing a report with a text of its own. -/
theorem fileOwned_cases (l : Ledger) (s : Nat) (kind : Option Kind) (w : Wording) :
    ((kind = none ∨ l.IsSet s) ∧ ∃ m, l.fileOwned s kind w = .error (.misuse m)) ∨
    ∃ k, kind = some k ∧ (l.slot s).kind = none ∧
      ((∃ fault, w.text k = .error fault ∧ fault ≠ .outOfMemory ∧
          l.fileOwned s kind w = .error (.template fault)) ∨
        ∃ l', l.fileOwned s kind w = .ok l') := by
  by_cases h : kind = none ∨ l.IsSet s
  · exact .inl ⟨h, fileOwned_misused h w⟩
  · obtain ⟨hkind, hs⟩ := not_or.1 h
    obtain ⟨k, rfl⟩ := Option.ne_none_iff_exists'.1 hkind
    have hc : (l.slot s).kind = none := not_not.1 hs
    refine .inr ⟨k, rfl, hc, ?_⟩
    obtain hm | ⟨fault, htext, hfault⟩ | ⟨text, htext, hleft⟩ := text_cases l s k w
    · exact .inr ⟨_, fileOwned_starved hc hm⟩
    · exact .inl ⟨fault, htext, hfault, fileOwned_unfilled hc htext hfault⟩
    · exact .inr ⟨_, fileOwned_filled hc htext hleft⟩

theorem misused_fileOwned_iff (s : Nat) (kind : Option Kind) (w : Wording) :
    l.Misused (.fileOwned s kind w) ↔ kind = none ∨ l.IsSet s := by
  have hfails (f : Fault) : l.Fails (.fileOwned s kind w) f ↔ l.fileOwned s kind w = .error f :=
    fails_settle rfl
  obtain ⟨h, m, hm⟩ | ⟨k, rfl, hc, ⟨fault, -, -, hr⟩ | ⟨l', hr⟩⟩ := fileOwned_cases l s kind w
  · exact ⟨fun _ => h, fun _ => ⟨m, (hfails _).2 hm⟩⟩
  · simp [Misused, hfails, hr, IsSet, hc]
  · simp [Misused, hfails, hr, IsSet, hc]

theorem fails_fileOwned_cases (h : l.Fails (.fileOwned s kind w) f) : (∃ m, f = .misuse m) ∨
    ∃ k fault, kind = some k ∧ w.text k = .error fault ∧ fault ≠ .outOfMemory ∧ f = .template fault := by
  have hf : l.fileOwned s kind w = .error f := (fails_settle rfl).1 h
  obtain ⟨-, m, hm⟩ | ⟨k, hk, -, ⟨fault, htext, hfault, hr⟩ | ⟨l', hr⟩⟩ := fileOwned_cases l s kind w
  · cases hm.symm.trans hf
    exact .inl ⟨m, rfl⟩
  · cases hr.symm.trans hf
    exact .inr ⟨k, fault, hk, htext, hfault, rfl⟩
  · cases hr.symm.trans hf

/-- What is filed with a text of its own is read as it was asked for, unless there is no memory for it. -/
theorem fileOwned_reading (hs : s < l.slots.length) {l' : Ledger}
    (h : l.fileOwned s kind w = .ok l') : ∃ k, kind = some k ∧
      (¬ l.Starved s k w ∧ (∃ text, w.text k = .ok text ∧ l'.reading s = .ok (some ⟨k, text, true⟩)) ∨
        l.Starved s k w ∧ l'.reading s = .ok (some noMemory) ∧ l'.allocators = l.allocators) := by
  obtain ⟨k, rfl, hc, -⟩ := fileOwned_ok h
  refine ⟨k, rfl, ?_⟩
  obtain hm | ⟨fault, htext, hfault⟩ | ⟨text, htext, hleft⟩ := text_cases l s k w
  · cases (fileOwned_starved hc hm).symm.trans h
    exact .inr ⟨hm, reading_report hs, rfl⟩
  · cases (fileOwned_unfilled hc htext hfault).symm.trans h
  · cases (fileOwned_filled hc htext hleft).symm.trans h
    refine .inl ⟨?_, text, htext, reading_reportOwned hs⟩
    rintro (hm | ⟨-, hexhausted⟩)
    · cases htext.symm.trans hm
    · exact hleft hexhausted

/-! ### Dropping -/

theorem clear_spent (hs : l.Spent s) :
    l.clear s = (.error (.misuse .releasedTwice), l.hold s none none) := by
  obtain ⟨b, ho, hb⟩ := hs
  simp [Ledger.clear, show (l.slot s).message = some (.owned b) from ho, release, hb]

theorem clear_unspent (hs : ¬ l.Spent s) : (l.clear s).1 = .ok () := by
  unfold Ledger.clear
  dsimp only
  split
  · rename_i b ho
    have hb : (l.buffer b).released = false := by
      by_contra hb
      exact hs ⟨b, ho, by simpa using hb⟩
    simp [release, hb]
  · rfl

theorem clear_refused (hop : l.step op = l.clear s) : l.RefusedIff op (l.Spent s) := by
  unfold RefusedIff Misused Fails
  rw [hop]
  by_cases hs : l.Spent s
  · rw [clear_spent hs]
    refine ⟨⟨fun _ => hs, fun _ => ⟨_, rfl⟩⟩, fun f hf => ?_⟩
    cases hf
    exact ⟨_, rfl⟩
  · rw [clear_unspent hs]
    refine ⟨⟨?_, fun h => absurd h hs⟩, fun f hf => ?_⟩
    · rintro ⟨m, hm⟩
      cases hm
    · cases hf

/-- The slot that cannot give its buffer back is empty, and nothing else is touched. -/
theorem clear_leaves (hop : l.step op = l.clear s) (hlt : s < l.slots.length) (hs : l.Spent s) :
    ¬ (l.step op).2.IsSet s ∧ (l.step op).2.buffers = l.buffers ∧
      (l.step op).2.allocators = l.allocators ∧ ∀ t, t ≠ s → (l.step op).2.slot t = l.slot t := by
  rw [hop, clear_spent hs]
  refine ⟨?_, rfl, rfl, fun t ht => ?_⟩
  · simp [IsSet, slot_hold l hlt]
  · rw [slot_hold l hlt, if_neg ht]

/-! ### All operations -/

theorem move_refused (s d : Nat) : l.RefusedIff (.move s (some d)) (l.IsSet d) := by
  apply refusedIff_settle rfl
  · intro h
    obtain ⟨k, hk⟩ := isSet_iff.1 h
    exact ⟨.destinationSet k, by simp [Ledger.move, hk]⟩
  · intro h
    exact ⟨_, by rw [Ledger.move, not_not.1 h]⟩

theorem copy_refused (s : Nat) : l.RefusedIff (.copy s) (l.IsSet s) := by
  apply refusedIff_settle rfl
  · intro h
    obtain ⟨k, hk⟩ := isSet_iff.1 h
    exact ⟨.copyOfSet, by simp [Ledger.copy, hk]⟩
  · intro h
    exact ⟨_, by rw [Ledger.copy, not_not.1 h]⟩

/-- An operation that fails changes nothing, unless it drops a report. -/
theorem step_unchanged (h : l.Fails op f) (hop : ∀ s, op ≠ .clear s ∧ op ≠ .move s none) :
    (l.step op).2 = l := by
  cases op with
  | addAllocator | setLimit | addSlot => cases h
  | fileBorrowed | fileOwned | copy | release => exact unchanged_settle rfl h
  | fileIfGiven s | fileBorrowedIfGiven s =>
    cases s with
    | none => cases h
    | some s => exact unchanged_settle rfl h
  | clear s => exact absurd rfl (hop s).1
  | move s d =>
    cases d with
    | none => exact absurd rfl (hop s).2
    | some d => exact unchanged_settle rfl h
  | allocate a text =>
    unfold Fails at h
    cases ha : l.allocate a text with
    | none => simp [step, ha]
    | some r => simp [step, ha] at h

theorem disciplined (l : Ledger) : Disciplined l where
  refused_fileBorrowed := fileBorrowed_refused
  fileBorrowed _ hs _ _ _ h := fileBorrowed_reading hs (settle_ok h)
  misused_fileOwned := misused_fileOwned_iff
  fails_fileOwned _ _ _ _ := fails_fileOwned_cases
  fileOwned _ hs _ _ _ h := fileOwned_reading hs (settle_ok h)
  fileIfGiven _ _ _ := ⟨rfl, rfl⟩
  fileBorrowedIfGiven _ _ _ := ⟨rfl, rfl⟩
  move := move_refused
  copy := copy_refused
  clear s hlt op hop := by
    have hstep : l.step op = l.clear s := by obtain rfl | rfl := hop <;> rfl
    exact ⟨clear_refused hstep, clear_leaves hstep hlt⟩
  unchanged _ _ := step_unchanged

/-- In every ledger that a run comes to, operations fail exactly where they break a rule and change nothing
then. A slot cannot give its buffer back only if one was given back behind its owner. -/
theorem run_disciplined (h : empty.admits ops) :
    Disciplined (empty.run ops) ∧ (empty.spares ops → ∀ s, ¬ (empty.run ops).Spent s) := by
  refine ⟨disciplined _, fun hn s => ?_⟩
  rintro ⟨b, ho, hb⟩
  have hkept := run_kept h hn owned_empty kept_empty
  have hout := hkept.out s b ho
  exact absurd (hb.symm.trans hout) (by decide)

/-- A buffer is given back behind the slot that owns it, beside a slot whose allocator is exhausted. -/
def seized : List Operation :=
  [.addAllocator (some 0), .addSlot 1, .addSlot commonAllocator, .fileOwned 1 (some .failed) .standard,
    .release 0]

theorem run_disciplined_seized :
    empty.admits seized ∧ Disciplined (empty.run seized) ∧ (empty.run seized).Misused (.clear 1) ∧
      empty.admits exchange ∧ empty.spares exchange ∧ ∀ s, ¬ (empty.run exchange).Spent s := by
  have ha : empty.admits seized := by decide
  have hd := (run_disciplined ha).1
  have hspent : (empty.run seized).Spent 1 := ⟨0, by unfold Owns; decide, by decide⟩
  have hclear := (hd.clear 1 (by decide) (.clear 1) (.inl rfl)).1
  have he : empty.admits exchange := by decide
  have hn : empty.spares exchange := by decide
  exact ⟨ha, hd, hclear.1.2 hspent, he, hn, (run_disciplined he).2 hn⟩

end MessageBus.Report.Ledger
