import Mathlib.Data.List.Basic
import MessageBus.Report.Ledger

/-! What one operation can do to the ledger, said once for all operations. -/
namespace MessageBus.Report.Ledger

variable {l l' : Ledger} {s : Nat} {op : Operation}

/-- The slot owns the buffer: it holds the message that the buffer is. -/
def Owns (l : Ledger) (s b : Nat) : Prop := (l.slot s).message = some (.owned b)

/-- Every allocator, slot and buffer that the operation names is in the ledger. -/
def knows (l : Ledger) : Operation → Bool
  | .addAllocator _ => true
  | .setLimit a _ | .addSlot a | .allocate a _ => a < l.allocators.length
  | .fileBorrowed s _ _ | .fileOwned s _ _ | .clear s | .copy s => s < l.slots.length
  | .fileIfGiven s _ _ | .fileBorrowedIfGiven s _ _ => s.all (· < l.slots.length)
  | .move s d => s < l.slots.length && d.all (· < l.slots.length)
  | .release b => b < l.buffers.length

/-- The operation gives a buffer back behind the slot that owns it. -/
def seizes (l : Ledger) : Operation → Bool
  | .release b => l.slots.any fun slot => slot.message == some (.owned b)
  | _ => false

/-- The buffers that filing obtains in an operation. -/
def obtained (l : Ledger) (op : Operation) : List Nat :=
  match op with
  | .fileOwned .. | .fileIfGiven .. =>
    List.range' l.buffers.length ((l.step op).2.buffers.length - l.buffers.length)
  | _ => []

theorem not_owns_of_not_seizes {b : Nat} (h : l.seizes (.release b) = false) : ¬ l.Owns s b := by
  intro ho
  have hs : s < l.slots.length := by
    by_contra hs
    simp [Owns, slot, List.getElem?_eq_none (Nat.le_of_not_lt hs)] at ho
  simp only [seizes, List.any_eq_false] at h
  apply h l.slots[s] (List.getElem_mem hs)
  simpa [Owns, slot, hs] using ho

/-- The changes that operations make. A buffer is given back by the slot that drops it, or by the
operation itself if that is a release; filing obtains the newest buffer. -/
inductive Change (l : Ledger) (op : Operation) : Ledger → List Nat → Prop
  | nothing : Change l op l []
  | source (limit : Option Nat) :
    Change l op { l with allocators := l.allocators ++ [⟨limit, [], []⟩] } []
  | limit (a : Nat) (limit : Option Nat) :
    Change l op { l with allocators := l.allocators.modify a fun x => { x with limit := limit } } []
  | slot {a : Nat} (ha : a < l.allocators.length) :
    Change l op { l with slots := l.slots ++ [⟨a, none, none⟩] } []
  | copy {s : Nat} (hs : s < l.slots.length) :
    Change l op { l with slots := l.slots ++ [⟨(l.slot s).allocator, none, none⟩] } []
  | report {s : Nat} (hs : s < l.slots.length) (hc : (l.slot s).kind = none) (kind : Kind)
      (text : String) :
    Change l op (l.hold s (some kind) (some (.borrowed text))) []
  | reportOwned {s : Nat} (hs : s < l.slots.length) (hc : (l.slot s).kind = none) (kind : Kind)
      (text : String) :
    Change l op ((l.lend (l.slot s).allocator text).hold s (some kind)
      (some (.owned l.buffers.length))) [l.buffers.length]
  | lend {a : Nat} (ha : a < l.allocators.length) (text : String) : Change l op (l.lend a text) []
  | drop {s : Nat} (hs : s < l.slots.length)
      (hb : ∀ b, l.Owns s b → (l.buffer b).released = true) :
    Change l op (l.hold s none none) []
  | giveUp {s b : Nat} (hs : s < l.slots.length) (ho : l.Owns s b)
      (hb : (l.buffer b).released = false) :
    Change l op ((l.hold s none none).giveBack b) []
  | move {s d : Nat} (hs : s < l.slots.length) (hd : d < l.slots.length)
      (hc : (l.slot d).kind = none) :
    Change l op ((l.hold d (l.slot s).kind (l.slot s).message).hold s none none) []
  | release {b : Nat} (hop : op = .release b) (hb : b < l.buffers.length)
      (hr : (l.buffer b).released = false) :
    Change l op (l.giveBack b) []

/-! ### Filing -/

theorem fileable_ok {kind : Option Kind} {k : Kind} (h : l.fileable s kind = .ok k) :
    kind = some k ∧ (l.slot s).kind = none := by
  cases kind <;> cases hk : (l.slot s).kind <;> simp_all [fileable]

theorem fileBorrowed_ok {kind : Option Kind} {text : Option String}
    (h : l.fileBorrowed s kind text = .ok l') :
    ∃ k, kind = some k ∧ (l.slot s).kind = none ∧
      l' = l.hold s (some k) (some (.borrowed (text.getD k.description))) := by
  cases hk : l.fileable s kind with
  | error f => simp [fileBorrowed, hk, bind, Except.bind] at h
  | ok k =>
    obtain ⟨rfl, hc⟩ := fileable_ok hk
    refine ⟨k, rfl, hc, ?_⟩
    simpa [fileBorrowed, hk, bind, Except.bind, pure, Except.pure, eq_comm] using h

theorem allocate_some {a b : Nat} {text : String} (h : l.allocate a text = some (b, l')) :
    b = l.buffers.length ∧ l' = l.lend a text := by
  simp only [allocate] at h
  split at h <;> simp_all

/-- A report that is filed owns a new buffer, unless there is no memory for its text. -/
theorem fileOwned_ok {kind : Option Kind} {w : Wording} (h : l.fileOwned s kind w = .ok l') :
    ∃ k, kind = some k ∧ (l.slot s).kind = none ∧
      (l' = l.hold s (some .noMemory) (some (.borrowed Kind.noMemory.description)) ∨
        ∃ text, w.text k = .ok text ∧
          l' = (l.lend (l.slot s).allocator text).hold s (some k)
            (some (.owned l.buffers.length))) := by
  cases hk : l.fileable s kind with
  | error f => simp [fileOwned, hk, bind, Except.bind] at h
  | ok k =>
    obtain ⟨rfl, hc⟩ := fileable_ok hk
    refine ⟨k, rfl, hc, ?_⟩
    have noMemory (h : l.fileBorrowed s (some .noMemory) none = .ok l') :
        l' = l.hold s (some .noMemory) (some (.borrowed Kind.noMemory.description)) := by
      obtain ⟨_, hn, _, rfl⟩ := fileBorrowed_ok h
      cases hn
      rfl
    simp only [fileOwned, hk, bind, Except.bind] at h
    cases ht : w.text k with
    | error f =>
      by_cases hf : f = .outOfMemory
      · subst hf
        exact Or.inl (noMemory (by simpa [ht] using h))
      · cases f <;> simp_all
    | ok text =>
      cases ha : l.allocate (l.slot s).allocator text with
      | none => exact Or.inl (noMemory (by simpa [ht, ha] using h))
      | some r =>
        obtain ⟨b, m⟩ := r
        obtain ⟨rfl, rfl⟩ := allocate_some ha
        refine Or.inr ⟨text, rfl, ?_⟩
        simpa [ht, ha, pure, Except.pure, eq_comm] using h

theorem settle_eq {r : Except Fault Ledger} :
    (step.settle l r).2 = l ∧ (∃ f, r = .error f) ∨ r = .ok (step.settle l r).2 := by
  cases r <;> simp [step.settle]

theorem fileBorrowed_change (hs : s < l.slots.length) (kind : Option Kind) (text : Option String) :
    Change l op (step.settle l (l.fileBorrowed s kind text)).2 [] := by
  obtain ⟨he, _⟩ | h := settle_eq (l := l) (r := l.fileBorrowed s kind text)
  · rw [he]
    exact .nothing
  · obtain ⟨k, _, hc, he⟩ := fileBorrowed_ok h
    rw [he]
    exact .report hs hc k _

theorem fileOwned_change (hs : s < l.slots.length) (kind : Option Kind) (w : Wording) :
    Change l op (step.settle l (l.fileOwned s kind w)).2
      (List.range' l.buffers.length
        ((step.settle l (l.fileOwned s kind w)).2.buffers.length - l.buffers.length)) := by
  obtain ⟨he, _⟩ | h := settle_eq (l := l) (r := l.fileOwned s kind w)
  · rw [he]
    simpa using Change.nothing
  · obtain ⟨k, _, hc, he | ⟨text, _, he⟩⟩ := fileOwned_ok h
    · rw [he]
      simpa using Change.report hs hc _ _
    · rw [he]
      simpa using Change.reportOwned hs hc k text

/-! ### The other operations -/

theorem clear_change (hs : s < l.slots.length) : Change l op (l.clear s).2 [] := by
  cases hm : (l.slot s).message with
  | none => simpa [clear, hm] using Change.drop hs (by simp [Owns, hm])
  | some m =>
    cases m with
    | borrowed text => simpa [clear, hm] using Change.drop hs (by simp [Owns, hm])
    | owned b =>
      cases hr : (l.buffer b).released with
      | true => simpa [clear, hm, release, hr] using Change.drop hs (by simp [Owns, hm, hr])
      | false => simpa [clear, hm, release, hr] using Change.giveUp hs hm hr

theorem move_change {d : Nat} (hs : s < l.slots.length) (hd : d < l.slots.length) :
    Change l op (step.settle l (l.move s d)).2 [] := by
  cases hk : (l.slot d).kind with
  | some k => simpa [move, hk, step.settle] using Change.nothing
  | none => simpa [move, hk, step.settle] using Change.move hs hd hk

/-- Every operation makes one of the changes. -/
theorem step_change (h : l.knows op) : Change l op (l.step op).2 (l.obtained op) := by
  cases op with
  | addAllocator limit => exact .source limit
  | setLimit a limit => exact .limit a limit
  | addSlot a => exact .slot (by simpa [knows] using h)
  | fileBorrowed s kind text => exact fileBorrowed_change (by simpa [knows] using h) kind text
  | fileOwned s kind w => exact fileOwned_change (by simpa [knows] using h) kind w
  | fileIfGiven s kind w =>
    cases s with
    | none => simpa [step, obtained] using Change.nothing
    | some s => exact fileOwned_change (by simpa [knows] using h) kind w
  | fileBorrowedIfGiven s kind text =>
    cases s with
    | none => exact .nothing
    | some s => exact fileBorrowed_change (by simpa [knows] using h) kind text
  | clear s => exact clear_change (by simpa [knows] using h)
  | move s d =>
    cases d with
    | none => exact clear_change (by simpa [knows] using h)
    | some d =>
      have h : s < l.slots.length ∧ d < l.slots.length := by simpa [knows] using h
      exact move_change h.1 h.2
  | copy s =>
    cases hk : (l.slot s).kind with
    | some k => simpa [step, copy, hk, step.settle, obtained] using Change.nothing
    | none =>
      simpa [step, copy, hk, step.settle, obtained] using Change.copy (by simpa [knows] using h)
  | allocate a text =>
    cases ha : l.allocate a text with
    | none => simpa [step, ha, obtained] using Change.nothing
    | some r =>
      obtain ⟨b, m⟩ := r
      obtain ⟨rfl, rfl⟩ := allocate_some ha
      simpa [step, ha, obtained] using Change.lend (by simpa [knows] using h) text
  | release b =>
    cases hr : (l.buffer b).released with
    | true => simpa [step, release, hr, step.settle, obtained] using Change.nothing
    | false =>
      simpa [step, release, hr, step.settle, obtained] using
        Change.release rfl (by simpa [knows] using h) hr

end MessageBus.Report.Ledger
