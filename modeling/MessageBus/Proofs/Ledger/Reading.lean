import MessageBus.Report.Target
import MessageBus.Proofs.Ledger.Ownership

/-! What is read off a slot, and what the updates of the ledger do to it. -/
namespace MessageBus.Report.Ledger

variable {l l' : Ledger} {s t : Nat} {fs : List Nat} {kind : Kind} {text : String}

/-- The report that is read off a slot, if it holds one. The text of a buffer that was given back cannot
be read. -/
def reading (l : Ledger) (s : Nat) : Except Fault (Option Report) :=
  match l.held s with
  | none => .ok none
  | some (kind, message) => (l.text message).map fun text => some ⟨kind, text, message.isOwned⟩

/-- The slot holds a report. -/
def IsSet (l : Ledger) (s : Nat) : Prop := (l.slot s).kind ≠ none

theorem reading_of_clear (h : (l.slot s).kind = none) : l.reading s = .ok none := by
  simp [reading, held, h]

/-- Two slots read alike that hold the same, if its buffer is the same as well. -/
theorem reading_congr (hkind : (l'.slot t).kind = (l.slot s).kind)
    (hmessage : (l'.slot t).message = (l.slot s).message)
    (hbuffer : ∀ b, l.Owns s b → l'.buffer b = l.buffer b) : l'.reading t = l.reading s := by
  have hheld : l'.held t = l.held s := by simp [held, hkind, hmessage]
  rw [reading, reading, hheld]
  cases hs : l.held s with
  | none => rfl
  | some r =>
    obtain ⟨kind, message⟩ := r
    have howned : (l.slot s).message = some message := by
      unfold held at hs
      split at hs <;> simp_all
    cases message with
    | borrowed text => rfl
    | owned b => simp [Ledger.text, hbuffer b howned]

/-! ### Updates -/

theorem reading_hold_ne (hs : s < l.slots.length) (ht : t ≠ s) (kind : Option Kind)
    (message : Option Message) : (l.hold s kind message).reading t = l.reading t := by
  have hslot : (l.hold s kind message).slot t = l.slot t := by rw [slot_hold l hs, if_neg ht]
  exact reading_congr (by rw [hslot]) (by rw [hslot]) fun _ _ => rfl

theorem reading_hold_clear (hs : s < l.slots.length) : (l.hold s none none).reading s = .ok none :=
  reading_of_clear (by rw [slot_hold l hs, if_pos rfl])

/-- A report with a borrowed text is read as it was filed. -/
theorem reading_report (hs : s < l.slots.length) :
    (l.hold s (some kind) (some (.borrowed text))).reading s = .ok (some ⟨kind, text, false⟩) := by
  have hslot := slot_hold l hs (some kind) (some (.borrowed text)) s
  rw [if_pos rfl] at hslot
  simp [reading, held, hslot, Ledger.text, Except.map, Message.isOwned]

theorem reading_lend (ho : Owned l fs) (a : Nat) (text : String) :
    (l.lend a text).reading t = l.reading t := by
  refine reading_congr rfl rfl fun b hb => ?_
  rw [buffer_lend, if_neg (Nat.ne_of_lt (ho.known b (ho.mem_filed t b hb)))]

/-- A report with a new buffer is read as it was filed. -/
theorem reading_reportOwned (hs : s < l.slots.length) :
    ((l.lend (l.slot s).allocator text).hold s (some kind) (some (.owned l.buffers.length))).reading s =
      .ok (some ⟨kind, text, true⟩) := by
  have hs' : s < (l.lend (l.slot s).allocator text).slots.length := by simpa using hs
  have hslot := slot_hold _ hs' (some kind) (some (.owned l.buffers.length)) s
  rw [if_pos rfl] at hslot
  simp [reading, held, hslot, Ledger.text, buffer_lend, Except.map, Message.isOwned]

/-- Nothing changes for a slot that does not own the buffer given back. -/
theorem reading_giveBack {b : Nat} (hb : b < l.buffers.length) (ht : ¬ l.Owns t b) :
    (l.giveBack b).reading t = l.reading t := by
  refine reading_congr rfl rfl fun x hx => ?_
  rw [buffer_giveBack l hb, if_neg]
  rintro rfl
  exact ht hx

theorem reading_addSlot (a : Nat) :
    ({ l with slots := l.slots ++ [⟨a, none, none⟩] } : Ledger).reading t = l.reading t := by
  have hslot := @slot_addSlot l ⟨a, none, none⟩ t
  split at hslot
  · rename_i ht
    have hbefore := slot_of_length_le (Nat.le_of_eq ht.symm)
    exact reading_congr (by rw [hslot, hbefore]) (by rw [hslot, hbefore]) fun _ _ => rfl
  · exact reading_congr (by rw [hslot]) (by rw [hslot]) fun _ _ => rfl

/-- Where no buffer was given back behind its owner, a slot that is set reads as a report. -/
theorem Kept.exists_reading (h : Kept l fs) (ho : Owned l fs) (hs : l.IsSet s) :
    ∃ r, l.reading s = .ok (some r) := by
  obtain ⟨kind, hkind⟩ := Option.ne_none_iff_exists'.1 hs
  have hpaired := ho.paired s
  rw [hkind] at hpaired
  obtain ⟨message, hmessage⟩ := Option.isSome_iff_exists.1 hpaired.symm
  have hheld : l.held s = some (kind, message) := by simp [held, hkind, hmessage]
  cases message with
  | borrowed text =>
    exact ⟨⟨kind, text, false⟩, by simp [reading, hheld, Ledger.text, Except.map, Message.isOwned]⟩
  | owned b =>
    have hout := h.out s b hmessage
    exact ⟨⟨kind, (l.buffer b).text, true⟩, by
      simp [reading, hheld, Ledger.text, hout, Except.map, Message.isOwned]⟩

end MessageBus.Report.Ledger
