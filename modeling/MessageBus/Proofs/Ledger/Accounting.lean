import MessageBus.Proofs.Ledger.Ownership

/-! Accounts of message buffers over every run of operations, failed ones among them. -/
namespace MessageBus.Report.Ledger

variable {l : Ledger} {fs : List Nat}

/-- Every operation of the run names what is in the ledger by then. -/
def admits (l : Ledger) : List Operation → Bool
  | [] => true
  | op :: rest => l.knows op && (l.step op).2.admits rest

/-- No operation of the run gives a buffer back behind the slot that owns it. -/
def spares (l : Ledger) : List Operation → Bool
  | [] => true
  | op :: rest => !l.seizes op && (l.step op).2.spares rest

/-- The buffers that filing obtains in a run. -/
def filed (l : Ledger) : List Operation → List Nat
  | [] => []
  | op :: rest => l.obtained op ++ (l.step op).2.filed rest

/-- The buffers that came back, to whichever allocator. -/
def frees (l : Ledger) : List Nat := l.allocators.flatMap (·.returned)

/-- Reports are whole, every buffer comes back at most once and to its lender, and no two slots own
the same one. -/
structure Accounted (l : Ledger) : Prop where
  paired : ∀ s, (l.slot s).kind.isSome = (l.slot s).message.isSome
  freed_eq : ∀ a, (l.allocator a).freed =
    (l.allocator a).lent.countP fun b => (l.buffer b).released
  frees_nodup : l.frees.Nodup
  freed_by_lender : ∀ a b, b ∈ (l.allocator a).returned →
    b ∈ (l.allocator a).lent ∧ ∀ x, b ∈ (l.allocator x).lent → x = a
  unique : ∀ s t b, l.Owns s b → l.Owns t b → s = t

/-- A buffer is out and has one owner, or it came back once and has none. -/
def Settled (l : Ledger) (b : Nat) : Prop :=
  (l.buffer b).released = false ∧ (∃! s, l.Owns s b) ∧ l.frees.count b = 0 ∨
    (l.buffer b).released = true ∧ (∀ s, ¬ l.Owns s b) ∧ l.frees.count b = 1

theorem run_books {ops : List Operation} {got : List Nat} (h : l.admits ops) (hb : Books l)
    (ho : Owned l got) : Books (l.run ops) ∧ Owned (l.run ops) (got ++ l.filed ops) := by
  induction ops generalizing l got with
  | nil => simpa [run, filed] using And.intro hb ho
  | cons op ops ih =>
    simp only [admits, Bool.and_eq_true] at h
    have hc := step_change h.1
    have := ih h.2 (books_change hc hb ho) (owned_change hc ho)
    simpa [run, filed] using this

theorem run_kept {ops : List Operation} {got : List Nat} (h : l.admits ops) (hn : l.spares ops)
    (ho : Owned l got) (hk : Kept l got) : Kept (l.run ops) (got ++ l.filed ops) := by
  induction ops generalizing l got with
  | nil => simpa [run, filed] using hk
  | cons op ops ih =>
    simp only [admits, spares, Bool.and_eq_true, Bool.not_eq_true'] at h hn
    have hc := step_change h.1
    have := ih h.2 hn.2 (owned_change hc ho) (kept_change hc hn.1 ho hk)
    simpa [run, filed] using this

theorem mem_frees {b : Nat} : b ∈ l.frees ↔ ∃ a, b ∈ (l.allocator a).returned := by
  simp only [frees, List.mem_flatMap]
  constructor
  · rintro ⟨x, hx, hb⟩
    obtain ⟨a, ha, rfl⟩ := List.getElem_of_mem hx
    exact ⟨a, by simpa [allocator, ha] using hb⟩
  · rintro ⟨a, hb⟩
    by_cases ha : a < l.allocators.length
    · exact ⟨l.allocators[a], List.getElem_mem ha, by simpa [allocator, ha] using hb⟩
    · simp [allocator, List.getElem?_eq_none (Nat.le_of_not_lt ha)] at hb

theorem Books.mem_frees (h : Books l) {b : Nat} :
    b ∈ l.frees ↔ b < l.buffers.length ∧ (l.buffer b).released = true := by
  rw [Ledger.mem_frees]
  constructor
  · rintro ⟨a, ha⟩
    obtain ⟨hb, _, hr⟩ := (h.returned a b).mp ha
    exact ⟨hb, hr⟩
  · rintro ⟨hb, hr⟩
    exact ⟨_, (h.returned _ b).mpr ⟨hb, rfl, hr⟩⟩

theorem Books.frees_nodup (h : Books l) : l.frees.Nodup := by
  rw [frees, List.nodup_flatMap, List.pairwise_iff_getElem]
  constructor
  · intro x hx
    obtain ⟨a, ha, rfl⟩ := List.getElem_of_mem hx
    simpa [allocator, ha] using h.returned_nodup a
  · intro i j hi hj hij b hbi hbj
    have hbi : b ∈ (l.allocator i).returned := by simpa [allocator, hi] using hbi
    have hbj : b ∈ (l.allocator j).returned := by simpa [allocator, hj] using hbj
    have hi := ((h.returned i b).mp hbi).2.1
    have hj := ((h.returned j b).mp hbj).2.1
    omega

theorem Books.freed_eq (h : Books l) (a : Nat) :
    (l.allocator a).freed = (l.allocator a).lent.countP fun b => (l.buffer b).released := by
  rw [Allocator.freed, List.countP_eq_length_filter]
  apply List.Perm.length_eq
  rw [List.perm_ext_iff_of_nodup (h.returned_nodup a) ((h.lent_nodup a).filter _)]
  intro b
  rw [List.mem_filter, h.returned, h.lent, and_assoc]

theorem accounted (h : Books l) (ho : Owned l fs) : Accounted l where
  paired := ho.paired
  freed_eq := h.freed_eq
  frees_nodup := h.frees_nodup
  freed_by_lender a b hb := by
    obtain ⟨hl, ha, _⟩ := (h.returned a b).mp hb
    refine ⟨(h.lent a b).mpr ⟨hl, ha⟩, ?_⟩
    intro x hx
    exact ((h.lent x b).mp hx).2.symm.trans ha
  unique := ho.unique

theorem settled (h : Books l) (ho : Owned l fs) (hk : Kept l fs) {b : Nat} (hb : b ∈ fs) :
    Settled l b := by
  cases hr : (l.buffer b).released with
  | false =>
    obtain ⟨s, hs⟩ := hk.owner b hb hr
    refine Or.inl ⟨hr, ⟨s, hs, fun t ht => ho.unique t s b ht hs⟩, ?_⟩
    simp [List.count_eq_zero, h.mem_frees, hr]
  | true =>
    refine Or.inr ⟨hr, ?_, ?_⟩
    · intro s hs
      simp [hk.out s b hs] at hr
    · exact List.count_eq_one_of_mem h.frees_nodup (h.mem_frees.mpr ⟨ho.known b hb, hr⟩)

/-- After every run the ledger is accounted for. Unless a buffer was given back behind its owner, every
filed buffer is settled as well, so that all have come back once the slots own nothing. -/
theorem run_accounted {ops : List Operation} (h : empty.admits ops) :
    Accounted (empty.run ops) ∧
      (empty.spares ops → (∀ b ∈ empty.filed ops, Settled (empty.run ops) b) ∧
        ((∀ s b, ¬ (empty.run ops).Owns s b) →
          ∀ b ∈ empty.filed ops, (empty.run ops).frees.count b = 1)) := by
  obtain ⟨hb, ho⟩ := run_books h books_empty owned_empty
  rw [List.nil_append] at ho
  refine ⟨accounted hb ho, ?_⟩
  intro hn
  have hk := run_kept h hn owned_empty kept_empty
  have hs : ∀ b ∈ empty.filed ops, Settled (empty.run ops) b := fun b hm => settled hb ho hk hm
  refine ⟨hs, ?_⟩
  intro hno b hm
  obtain ⟨_, ⟨s, hw, _⟩, _⟩ | ⟨_, _, hc⟩ := hs b hm
  · exact (hno s b hw).elim
  · exact hc

/-- A report goes to a slot with another allocator, and the slot it leaves finds its own exhausted. -/
def exchange : List Operation :=
  [.addAllocator (some 1), .addSlot 1, .addSlot commonAllocator, .fileOwned 0 (some .failed) .standard,
    .move 0 (some 1), .fileIfGiven (some 0) (some .timeout) .standard, .copy 1, .clear 0,
    .fileOwned 1 (some .timeout) .standard, .clear 1, .setLimit 1 none,
    .fileOwned 0 (some .timeout) .standard, .allocate 1 "", .release 2, .release 2]

theorem run_accounted_exchange :
    empty.admits exchange ∧ empty.spares exchange ∧ empty.filed exchange = [0, 1] ∧
      Accounted (empty.run exchange) ∧ Settled (empty.run exchange) 0 ∧
      Settled (empty.run exchange) 1 := by
  have ha : empty.admits exchange := by decide
  have hn : empty.spares exchange := by decide
  have hf : empty.filed exchange = [0, 1] := by decide
  have h := run_accounted ha
  have hs := (h.2 hn).1
  rw [hf] at hs
  exact ⟨ha, hn, hf, h.1, hs 0 (by simp), hs 1 (by simp)⟩

end MessageBus.Report.Ledger
