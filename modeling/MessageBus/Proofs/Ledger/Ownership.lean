import Mathlib.Data.List.Nodup
import MessageBus.Proofs.Ledger.Change

/-! Who owns which message buffer: the invariants of the ledger, kept by every change. -/
namespace MessageBus.Report.Ledger

variable {l l' : Ledger} {op : Operation} {fs got : List Nat}

/-- The lists of the allocators agree with what the buffers say of themselves. -/
structure Books (l : Ledger) : Prop where
  lender : ∀ b < l.buffers.length, (l.buffer b).allocator < l.allocators.length
  source : ∀ s < l.slots.length, (l.slot s).allocator < l.allocators.length
  lent : ∀ a b, b ∈ (l.allocator a).lent ↔ b < l.buffers.length ∧ (l.buffer b).allocator = a
  returned : ∀ a b, b ∈ (l.allocator a).returned ↔
    b < l.buffers.length ∧ (l.buffer b).allocator = a ∧ (l.buffer b).released = true
  lent_nodup : ∀ a, (l.allocator a).lent.Nodup
  returned_nodup : ∀ a, (l.allocator a).returned.Nodup

/-- Slots hold whole reports, and own different buffers, all of them filed. -/
structure Owned (l : Ledger) (fs : List Nat) : Prop where
  paired : ∀ s, (l.slot s).kind.isSome = (l.slot s).message.isSome
  unique : ∀ s t b, l.Owns s b → l.Owns t b → s = t
  mem_filed : ∀ s b, l.Owns s b → b ∈ fs
  known : ∀ b ∈ fs, b < l.buffers.length

/-- The filed buffers that are out are those that slots own. -/
structure Kept (l : Ledger) (fs : List Nat) : Prop where
  out : ∀ s b, l.Owns s b → (l.buffer b).released = false
  owner : ∀ b ∈ fs, (l.buffer b).released = false → ∃ s, l.Owns s b

/-! ### What the updates do to ownership -/

theorem owns_hold {s : Nat} (hs : s < l.slots.length) {kind : Option Kind} {message : Option Message}
    {t b : Nat} : (l.hold s kind message).Owns t b ↔
      if t = s then message = some (.owned b) else l.Owns t b := by
  unfold Owns
  rw [slot_hold l hs]
  split <;> rfl

theorem paired_hold {s : Nat} (hs : s < l.slots.length) {kind : Option Kind}
    {message : Option Message} (hk : kind.isSome = message.isSome)
    (h : ∀ t, (l.slot t).kind.isSome = (l.slot t).message.isSome) (t : Nat) :
    ((l.hold s kind message).slot t).kind.isSome =
      ((l.hold s kind message).slot t).message.isSome := by
  rw [slot_hold l hs]
  split
  · exact hk
  · exact h t

/-- A clear slot owns nothing. -/
theorem Owned.not_owns (h : Owned l fs) {s b : Nat} (hc : (l.slot s).kind = none) :
    ¬ l.Owns s b := by
  intro ho
  have hp := h.paired s
  rw [hc, ho] at hp
  simp at hp

theorem slot_addSlot (x : Slot) (t : Nat) :
    ({ l with slots := l.slots ++ [x] } : Ledger).slot t =
      if t = l.slots.length then x else l.slot t :=
  getD_concat ..

theorem slot_of_length_le {t : Nat} (h : l.slots.length ≤ t) :
    l.slot t = ⟨commonAllocator, none, none⟩ := by
  simp [slot, List.getElem?_eq_none h]

/-- A new clear slot changes what no slot owns. -/
theorem owns_addSlot {a t b : Nat} :
    ({ l with slots := l.slots ++ [⟨a, none, none⟩] } : Ledger).Owns t b ↔ l.Owns t b := by
  unfold Owns
  rw [slot_addSlot]
  split
  · simp_all [slot_of_length_le]
  · rfl

/-- Behind a move the destination owns what the source owned, which owns nothing. -/
theorem owns_move {s d t b : Nat} (hs : s < l.slots.length) (hd : d < l.slots.length) :
    ((l.hold d (l.slot s).kind (l.slot s).message).hold s none none).Owns t b ↔
      t ≠ s ∧ if t = d then l.Owns s b else l.Owns t b := by
  rw [owns_hold (by simpa using hs), owns_hold hd]
  by_cases ht : t = s <;> simp [ht, Owns]

/-- A clear slot that gets a borrowed text owns as little as before. -/
theorem Owned.owns_report (h : Owned l fs) {s t b : Nat} (hs : s < l.slots.length)
    (hc : (l.slot s).kind = none) {kind : Kind} {text : String} :
    (l.hold s (some kind) (some (.borrowed text))).Owns t b ↔ l.Owns t b := by
  rw [owns_hold hs]
  by_cases ht : t = s
  · subst ht
    simp [h.not_owns hc]
  · simp [ht]

/-- A clear slot that gets a new buffer owns that one. -/
theorem owns_reportOwned {s t b : Nat} (hs : s < l.slots.length) {kind : Kind} {text : String} :
    ((l.lend (l.slot s).allocator text).hold s (some kind) (some (.owned l.buffers.length))).Owns t b ↔
      if t = s then b = l.buffers.length else l.Owns t b := by
  rw [owns_hold (by simpa using hs)]
  by_cases ht : t = s
  · simp [ht, eq_comm]
  · simp [ht, Owns]

/-! ### Every change keeps the reports whole and their owners apart -/

theorem paired_addSlot {a : Nat} (h : ∀ t, (l.slot t).kind.isSome = (l.slot t).message.isSome)
    (t : Nat) :
    (({ l with slots := l.slots ++ [⟨a, none, none⟩] } : Ledger).slot t).kind.isSome =
      (({ l with slots := l.slots ++ [⟨a, none, none⟩] } : Ledger).slot t).message.isSome := by
  rw [slot_addSlot]
  split
  · rfl
  · exact h t

/-- Where no slot comes to own anything, owners stay apart. -/
theorem Owned.of_owns (h : Owned l fs)
    (hp : ∀ s, (l'.slot s).kind.isSome = (l'.slot s).message.isSome)
    (ho : ∀ s b, l'.Owns s b → l.Owns s b) (hl : l.buffers.length ≤ l'.buffers.length) :
    Owned l' fs where
  paired := hp
  unique s t b hs ht := h.unique s t b (ho s b hs) (ho t b ht)
  mem_filed s b hs := h.mem_filed s b (ho s b hs)
  known b hb := Nat.lt_of_lt_of_le (h.known b hb) hl

theorem Owned.drop (h : Owned l fs) {s : Nat} (hs : s < l.slots.length) :
    Owned (l.hold s none none) fs := by
  refine h.of_owns (paired_hold hs rfl h.paired) ?_ (Nat.le_refl _)
  intro t b ho
  rw [owns_hold hs] at ho
  split at ho
  · simp at ho
  · exact ho

theorem Owned.giveBack (h : Owned l fs) (b : Nat) : Owned (l.giveBack b) fs :=
  h.of_owns h.paired (fun _ _ ho => ho) (by simp)

theorem owned_reportOwned (h : Owned l fs) {s : Nat} (hs : s < l.slots.length) (kind : Kind)
    (text : String) :
    Owned ((l.lend (l.slot s).allocator text).hold s (some kind) (some (.owned l.buffers.length)))
      (fs ++ [l.buffers.length]) := by
  have hnew : ∀ t, ¬ l.Owns t l.buffers.length := fun t ho =>
    Nat.lt_irrefl _ (h.known _ (h.mem_filed t _ ho))
  refine ⟨paired_hold (by simpa using hs) rfl h.paired, ?_, ?_, ?_⟩
  · intro t u b ht hu
    rw [owns_reportOwned hs] at ht hu
    by_cases htu : t = s <;> by_cases hus : u = s <;> simp_all
    exact h.unique t u b ht hu
  · intro t b ht
    rw [owns_reportOwned hs] at ht
    split at ht
    · simp [ht]
    · exact List.mem_append_left _ (h.mem_filed t b ht)
  · intro b hb
    rw [hold_buffers, length_lend_buffers]
    rcases List.mem_append.mp hb with hb | hb
    · exact Nat.lt_succ_of_lt (h.known b hb)
    · simp_all

theorem owned_move (h : Owned l fs) {s d : Nat} (hs : s < l.slots.length)
    (hd : d < l.slots.length) :
    Owned ((l.hold d (l.slot s).kind (l.slot s).message).hold s none none) fs := by
  refine ⟨?_, ?_, ?_, by simpa using h.known⟩
  · exact paired_hold (by simpa using hs) rfl (paired_hold hd (h.paired s) h.paired)
  · intro t u b ht hu
    rw [owns_move hs hd] at ht hu
    have := h.unique (if t = d then s else t) (if u = d then s else u) b
      (by split <;> simp_all) (by split <;> simp_all)
    split at this <;> split at this <;> simp_all
  · intro t b ht
    rw [owns_move hs hd] at ht
    obtain ⟨_, ht⟩ := ht
    split at ht
    · exact h.mem_filed s b ht
    · exact h.mem_filed t b ht

theorem owned_change (hc : Change l op l' got) (h : Owned l fs) : Owned l' (fs ++ got) := by
  cases hc with
  | nothing | source | limit =>
    rw [List.append_nil]
    exact h.of_owns h.paired (fun _ _ ho => ho) (Nat.le_refl _)
  | slot | copy =>
    simpa using h.of_owns (paired_addSlot h.paired) (fun _ _ => owns_addSlot.mp) (Nat.le_refl _)
  | report hs hc =>
    simpa using h.of_owns (paired_hold hs rfl h.paired) (fun _ _ => (h.owns_report hs hc).mp) (Nat.le_refl _)
  | reportOwned hs hc kind text => exact owned_reportOwned h hs kind text
  | @lend a _ text =>
    have : Owned (l.lend a text) fs := h.of_owns h.paired (fun _ _ ho => ho) (by simp)
    simpa using this
  | drop hs => simpa using h.drop hs
  | giveUp hs => simpa using (h.drop hs).giveBack _
  | move hs hd => simpa using owned_move h hs hd
  | release => simpa using h.giveBack _

/-! ### Every change keeps the books -/

theorem books_empty : Books empty := by
  have ha : ∀ a, empty.allocator a = ⟨none, [], []⟩ := by
    intro a
    cases a <;> simp [empty, allocator]
  constructor <;> (try simp only [ha]) <;> simp [empty]

theorem owned_empty : Owned empty [] := by
  constructor <;> simp [empty, slot, Owns]

theorem kept_empty : Kept empty [] := by
  constructor <;> simp [empty, slot, Owns]

/-- Where the lists of the allocators and the buffers stay, the books stay. -/
theorem Books.of_same (h : Books l) (hb : l'.buffers = l.buffers)
    (hn : l.allocators.length ≤ l'.allocators.length)
    (hs : ∀ s < l'.slots.length, (l'.slot s).allocator < l'.allocators.length)
    (ha : ∀ a, (l'.allocator a).lent = (l.allocator a).lent ∧
      (l'.allocator a).returned = (l.allocator a).returned) : Books l' := by
  have hb' : ∀ b, l'.buffer b = l.buffer b := fun b => by simp [buffer, hb]
  refine ⟨?_, hs, ?_, ?_, ?_, ?_⟩
  · intro b hl
    rw [hb'] 
    exact Nat.lt_of_lt_of_le (h.lender b (hb ▸ hl)) hn
  · intro a b
    rw [(ha a).1, hb', hb, h.lent]
  · intro a b
    rw [(ha a).2, hb', hb, h.returned]
  · intro a
    rw [(ha a).1]
    exact h.lent_nodup a
  · intro a
    rw [(ha a).2]
    exact h.returned_nodup a

theorem Books.lend (h : Books l) {a : Nat} (ha : a < l.allocators.length) (text : String) :
    Books (l.lend a text) := by
  refine ⟨?_, ?_, ?_, ?_, ?_, ?_⟩
  · intro b hb
    rw [length_lend_buffers] at hb
    rw [buffer_lend, length_lend_allocators]
    split
    · exact ha
    · exact h.lender b (by omega)
  · simpa using h.source
  · intro x b
    have hx := h.lent x b
    rw [allocator_lend l ha, buffer_lend, length_lend_buffers]
    by_cases hb : b = l.buffers.length <;> by_cases hxa : x = a <;> simp_all
    all_goals omega
  · intro x b
    have hx := h.returned x b
    rw [allocator_lend l ha, buffer_lend, length_lend_buffers]
    by_cases hb : b = l.buffers.length <;> by_cases hxa : x = a <;> simp_all
    all_goals omega
  · intro x
    rw [allocator_lend l ha]
    split
    · have hx : l.buffers.length ∉ (l.allocator a).lent := by simp [h.lent]
      simpa using (h.lent_nodup a).concat hx
    · exact h.lent_nodup x
  · intro x
    rw [allocator_lend l ha]
    split
    · exact h.returned_nodup a
    · exact h.returned_nodup x

theorem Books.giveBack (h : Books l) {b : Nat} (hb : b < l.buffers.length)
    (hr : (l.buffer b).released = false) : Books (l.giveBack b) := by
  have ha := h.lender b hb
  refine ⟨?_, ?_, ?_, ?_, ?_, ?_⟩
  · intro x hx
    rw [length_giveBack_buffers] at hx
    rw [buffer_giveBack l hb, length_giveBack_allocators]
    split
    · exact ha
    · exact h.lender x hx
  · simpa using h.source
  · intro a x
    rw [allocator_giveBack l ha, buffer_giveBack l hb, length_giveBack_buffers]
    have hx := h.lent a x
    by_cases hxb : x = b <;> by_cases hab : a = (l.buffer b).allocator <;> simp_all
  · intro a x
    rw [allocator_giveBack l ha, buffer_giveBack l hb, length_giveBack_buffers]
    have hx := h.returned a x
    by_cases hab : a = (l.buffer b).allocator
    · by_cases hxb : x = b <;> simp_all
    · by_cases hxb : x = b
      · subst hxb
        simp [hab, hx, hr, Ne.symm hab]
      · simp [hab, hxb, hx]
  · intro a
    rw [allocator_giveBack l ha]
    split <;> exact h.lent_nodup a
  · intro a
    rw [allocator_giveBack l ha]
    split
    · have hx : b ∉ (l.allocator a).returned := by simp [h.returned, hr]
      simpa using (h.returned_nodup a).concat hx
    · exact h.returned_nodup a

theorem Books.hold (h : Books l) {s : Nat} (hs : s < l.slots.length) (kind : Option Kind)
    (message : Option Message) : Books (l.hold s kind message) := by
  refine h.of_same rfl (Nat.le_refl _) ?_ (fun _ => ⟨rfl, rfl⟩)
  intro t ht
  rw [slot_hold l hs]
  rw [length_hold_slots] at ht
  split
  · exact h.source s hs
  · exact h.source t ht

theorem Books.addSlot (h : Books l) {a : Nat} (ha : a < l.allocators.length) :
    Books { l with slots := l.slots ++ [⟨a, none, none⟩] } := by
  refine h.of_same rfl (Nat.le_refl _) ?_ (fun _ => ⟨rfl, rfl⟩)
  intro t ht
  rw [slot_addSlot]
  split
  · exact ha
  · exact h.source t (by simp at ht; omega)

theorem books_change (hc : Change l op l' got) (h : Books l) (ho : Owned l fs) : Books l' := by
  cases hc with
  | nothing => exact h
  | source limit =>
    refine h.of_same rfl (by simp) ?_ ?_
    · intro s hs
      have := Nat.lt_succ_of_lt (h.source s hs)
      simpa [slot] using this
    · intro a
      have ha : ({ l with allocators := l.allocators ++ [⟨limit, [], []⟩] } : Ledger).allocator a =
          if a = l.allocators.length then ⟨limit, [], []⟩ else l.allocator a := getD_concat ..
      rw [ha]
      split
      · simp_all [allocator]
      · exact ⟨rfl, rfl⟩
  | limit a limit =>
    refine h.of_same rfl (by simp) (by simpa [slot] using h.source) ?_
    intro x
    simp only [allocator, List.getD_eq_getElem?_getD, List.getElem?_modify]
    cases l.allocators[x]? with
    | none => simp
    | some y => by_cases hx : a = x <;> simp [hx]
  | slot ha => exact h.addSlot ha
  | copy hs => exact h.addSlot (h.source _ hs)
  | report hs => exact h.hold hs _ _
  | reportOwned hs => exact (h.lend (h.source _ hs) _).hold (by simpa using hs) _ _
  | lend ha text => exact h.lend ha text
  | drop hs => exact h.hold hs _ _
  | giveUp hs hw hb => exact (h.hold hs _ _).giveBack (ho.known _ (ho.mem_filed _ _ hw)) hb
  | move hs hd => exact (h.hold hd _ _).hold (by simpa using hs) _ _
  | release _ hb hr => exact h.giveBack hb hr

/-! ### Where nothing is seized, every filed buffer that is out has an owner -/

theorem Kept.of_owns_iff (h : Kept l fs) (hf : Owned l fs)
    (ho : ∀ s b, l'.Owns s b ↔ l.Owns s b)
    (hr : ∀ b ∈ fs, (l'.buffer b).released = (l.buffer b).released) : Kept l' fs where
  out s b hs := by
    have hs := (ho s b).mp hs
    rw [hr b (hf.mem_filed s b hs)]
    exact h.out s b hs
  owner b hb hs := by
    rw [hr b hb] at hs
    obtain ⟨s, hs⟩ := h.owner b hb hs
    exact ⟨s, (ho s b).mpr hs⟩

theorem kept_reportOwned (ho : Owned l fs) (h : Kept l fs) {s : Nat}
    (hs : s < l.slots.length) (hc : (l.slot s).kind = none) (kind : Kind) (text : String) :
    Kept ((l.lend (l.slot s).allocator text).hold s (some kind) (some (.owned l.buffers.length)))
      (fs ++ [l.buffers.length]) := by
  have hb : ∀ b ∈ fs, b ≠ l.buffers.length := fun b hb => Nat.ne_of_lt (ho.known b hb)
  constructor
  · intro t b ht
    rw [owns_reportOwned hs] at ht
    rw [buffer_hold, buffer_lend]
    split at ht
    · simp [ht]
    · rw [if_neg (hb b (ho.mem_filed t b ht))]
      exact h.out t b ht
  · intro b hm hr
    rcases List.mem_append.mp hm with hm | hm
    · rw [buffer_hold, buffer_lend, if_neg (hb b hm)] at hr
      obtain ⟨t, ht⟩ := h.owner b hm hr
      refine ⟨t, (owns_reportOwned hs).mpr ?_⟩
      rw [if_neg]
      · exact ht
      · rintro rfl
        exact ho.not_owns hc ht
    · exact ⟨s, (owns_reportOwned hs).mpr (by simpa using hm)⟩

theorem kept_giveUp (ho : Owned l fs) (h : Kept l fs) {s b : Nat}
    (hs : s < l.slots.length) (hw : l.Owns s b) : Kept ((l.hold s none none).giveBack b) fs := by
  have hb : b < (l.hold s none none).buffers.length := ho.known b (ho.mem_filed s b hw)
  constructor
  · intro t x ht
    have hc : (l.hold s none none).Owns t x := ht
    rw [owns_hold hs] at hc
    split at hc
    · simp at hc
    · rename_i hts
      have hx : x ≠ b := by
        rintro rfl
        exact hts (ho.unique t s x hc hw)
      rw [buffer_giveBack _ hb, if_neg hx]
      exact h.out t x hc
  · intro x hx hr
    rw [buffer_giveBack _ hb] at hr
    split at hr
    · simp at hr
    · rename_i hxb
      obtain ⟨t, ht⟩ := h.owner x hx hr
      refine ⟨t, (owns_hold hs).mpr ?_⟩
      rw [if_neg]
      · exact ht
      · rintro rfl
        have : some (Message.owned b) = some (Message.owned x) := hw.symm.trans ht
        simp_all

theorem kept_move (ho : Owned l fs) (h : Kept l fs) {s d : Nat} (hs : s < l.slots.length)
    (hd : d < l.slots.length) (hc : (l.slot d).kind = none) :
    Kept ((l.hold d (l.slot s).kind (l.slot s).message).hold s none none) fs := by
  constructor
  · intro t b ht
    rw [owns_move hs hd] at ht
    obtain ⟨_, ht⟩ := ht
    split at ht
    · exact h.out s b ht
    · exact h.out t b ht
  · intro b hb hr
    obtain ⟨t, ht⟩ := h.owner b hb hr
    have htd : t ≠ d := by
      rintro rfl
      exact ho.not_owns hc ht
    by_cases hts : t = s
    · subst hts
      exact ⟨d, (owns_move hs hd).mpr ⟨Ne.symm htd, by simpa using ht⟩⟩
    · exact ⟨t, (owns_move hs hd).mpr ⟨hts, by simpa [htd] using ht⟩⟩

theorem kept_change (hc : Change l op l' got) (hn : l.seizes op = false) (ho : Owned l fs)
    (h : Kept l fs) : Kept l' (fs ++ got) := by
  cases hc with
  | nothing | source | limit =>
    rw [List.append_nil]
    exact h.of_owns_iff ho (fun _ _ => Iff.rfl) (fun _ _ => rfl)
  | slot | copy => simpa using h.of_owns_iff ho (fun _ _ => owns_addSlot) (fun _ _ => rfl)
  | report hs hc => simpa using h.of_owns_iff ho (fun _ _ => ho.owns_report hs hc) (fun _ _ => rfl)
  | reportOwned hs hc kind text => exact kept_reportOwned ho h hs hc kind text
  | @lend a _ text =>
    have hr : ∀ b ∈ fs, ((l.lend a text).buffer b).released = (l.buffer b).released := by
      intro b hb
      rw [buffer_lend, if_neg (Nat.ne_of_lt (ho.known b hb))]
    rw [List.append_nil]
    exact h.of_owns_iff ho (fun _ _ => Iff.rfl) hr
  | @drop s hs hb =>
    -- what the slot owned would be out, and given back as well
    have hw : ∀ t b, (l.hold s none none).Owns t b ↔ l.Owns t b := by
      intro t b
      rw [owns_hold hs]
      split
      · rename_i ht
        subst ht
        have hno : ¬ l.Owns t b := by
          intro hw
          have := (h.out t b hw).symm.trans (hb b hw)
          contradiction
        simp [hno]
      · rfl
    simpa using h.of_owns_iff ho hw (fun _ _ => rfl)
  | giveUp hs hw => simpa using kept_giveUp ho h hs hw
  | move hs hd hc => simpa using kept_move ho h hs hd hc
  | @release b hop hb hr =>
    subst hop
    rw [List.append_nil]
    constructor
    · intro s x hs
      have hx : x ≠ b := by
        rintro rfl
        exact not_owns_of_not_seizes hn hs
      rw [buffer_giveBack l hb, if_neg hx]
      exact h.out s x hs
    · intro x hx hs
      rw [buffer_giveBack l hb] at hs
      split at hs
      · simp at hs
      · exact h.owner x hx hs

end MessageBus.Report.Ledger
