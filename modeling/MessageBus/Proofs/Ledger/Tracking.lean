import MessageBus.Proofs.Ledger.Accounting
import MessageBus.Proofs.Ledger.Reading

/-! Where reports go: each one that is filed is followed through the operations behind. -/
namespace MessageBus.Report

/-- What an operation does with reports: it files one into a slot, moves or drops the one of a slot, or
does nothing with them. -/
inductive Effect
  | nothing
  | files (slot : Nat)
  | moves (source destination : Nat)
  | drops (slot : Nat)
  deriving DecidableEq

/-- What an operation that succeeds does with reports. -/
def Operation.effect : Operation → Effect
  | .fileBorrowed s _ _ | .fileOwned s _ _ => .files s
  | .fileIfGiven (some s) _ _ | .fileBorrowedIfGiven (some s) _ _ => .files s
  | .move s (some d) => .moves s d
  | .clear s | .move s none => .drops s
  | _ => .nothing

/-- Where a report is: in a slot, or nowhere since an operation dropped it. -/
inductive Fate
  | held (slot : Nat)
  | dropped (operation : Nat)
  deriving DecidableEq

/-- Where a report is behind the operation with a number. -/
def Fate.behind (n : Nat) (e : Effect) : Fate → Fate
  | .held t =>
    match e with
    | .moves s d => .held (if t = s then d else t)
    | .drops s => if t = s then .dropped n else .held t
    | _ => .held t
  | .dropped m => .dropped m

namespace Ledger

variable {l l' : Ledger} {op : Operation} {ops : List Operation} {e : Effect} {r : Report} {fs : List Nat}
  {s t a b i j m n : Nat}

/-- What an operation does with reports: nothing if it fails. -/
def effect (l : Ledger) (op : Operation) : Effect :=
  match (l.step op).1 with
  | .ok () => op.effect
  | .error _ => .nothing

/-- What an effect makes of what is read off the slots. -/
inductive Alters (l l' : Ledger) : Effect → Prop
  | nothing (hsame : ∀ t, l'.reading t = l.reading t) : Alters l l' .nothing
  | files {s : Nat} {r : Report} (hclear : l.reading s = .ok none) (hfiled : l'.reading s = .ok (some r))
      (hothers : ∀ t, t ≠ s → l'.reading t = l.reading t) : Alters l l' (.files s)
  | moves {s d : Nat} (hclear : l.reading d = .ok none) (hleft : l'.reading s = .ok none)
      (hmoved : s ≠ d → l'.reading d = l.reading s)
      (hothers : ∀ t, t ≠ s → t ≠ d → l'.reading t = l.reading t) : Alters l l' (.moves s d)
  | drops {s : Nat} (hleft : l'.reading s = .ok none)
      (hothers : ∀ t, t ≠ s → l'.reading t = l.reading t) : Alters l l' (.drops s)

/-! ### What one operation does -/

theorem effect_settle {x : Except Fault Ledger} (hop : l.step op = step.settle l x)
    (h : ∀ l', x = .ok l' → Alters l l' op.effect) : Alters l (l.step op).2 (l.effect op) := by
  unfold effect
  rw [hop]
  cases x with
  | ok l' => exact h l' rfl
  | error f => exact .nothing fun t => rfl

theorem alters_report (hs : s < l.slots.length) (hc : (l.slot s).kind = none) (kind : Kind)
    (text : String) :
    Alters l (l.hold s (some kind) (some (.borrowed text))) (.files s) :=
  .files (reading_of_clear hc) (reading_report hs) fun _ ht => reading_hold_ne hs ht _ _

theorem alters_reportOwned (ho : Owned l fs) (hs : s < l.slots.length) (hc : (l.slot s).kind = none)
    (kind : Kind) (text : String) :
    Alters l ((l.lend (l.slot s).allocator text).hold s (some kind) (some (.owned l.buffers.length)))
      (.files s) := by
  refine .files (reading_of_clear hc) (reading_reportOwned hs) fun t ht => ?_
  rw [reading_hold_ne (by simpa using hs) ht, reading_lend ho]

theorem alters_move (hs : s < l.slots.length) (ht : t < l.slots.length)
    (hc : (l.slot t).kind = none) :
    Alters l ((l.hold t (l.slot s).kind (l.slot s).message).hold s none none) (.moves s t) := by
  have hs' : s < (l.hold t (l.slot s).kind (l.slot s).message).slots.length := by simpa using hs
  refine .moves (reading_of_clear hc) (reading_hold_clear hs') (fun hst => ?_) fun u hus hut => ?_
  · rw [reading_hold_ne hs' (Ne.symm hst)]
    have hslot := slot_hold l ht (l.slot s).kind (l.slot s).message t
    rw [if_pos rfl] at hslot
    exact reading_congr (by rw [hslot]) (by rw [hslot]) fun _ _ => rfl
  · rw [reading_hold_ne hs' hus, reading_hold_ne ht hut]

/-- A report that is dropped takes its buffer along, which no other slot owns. -/
theorem alters_clear (ho : Owned l fs) (hk : Kept l fs) (hs : s < l.slots.length) :
    (l.clear s).1 = .ok () ∧ Alters l (l.clear s).2 (.drops s) := by
  have hleft : (l.hold s none none).reading s = .ok none := reading_hold_clear hs
  have hothers : ∀ t, t ≠ s → (l.hold s none none).reading t = l.reading t :=
    fun t ht => reading_hold_ne hs ht _ _
  unfold Ledger.clear
  dsimp only
  split
  · rename_i b hb
    have hout : ((l.hold s none none).buffer b).released = false := hk.out s b hb
    have hlt : b < (l.hold s none none).buffers.length := ho.known b (ho.mem_filed s b hb)
    have hfree : ∀ t, ¬ (l.hold s none none).Owns t b := by
      intro t hw
      rw [owns_hold hs] at hw
      split at hw
      · cases hw
      · rename_i hts
        exact hts (ho.unique t s b hw hb)
    simp only [release, hout, Bool.false_eq_true, if_false]
    exact ⟨trivial, .drops ((reading_giveBack hlt (hfree s)).trans hleft) fun t ht =>
      (reading_giveBack hlt (hfree t)).trans (hothers t ht)⟩
  · exact ⟨rfl, .drops hleft hothers⟩

theorem effect_clear (ho : Owned l fs) (hk : Kept l fs) (hs : s < l.slots.length)
    (hop : l.step op = l.clear s) (heffect : op.effect = .drops s) :
    Alters l (l.step op).2 (l.effect op) := by
  obtain ⟨hok, hclear⟩ := alters_clear ho hk hs
  rw [effect, hop, hok, heffect]
  exact hclear

/-- Unless it gives a buffer back behind its owner, an operation alters what is read as its effect says. -/
theorem step_alters (ho : Owned l fs) (hk : Kept l fs) (h : l.knows op) (hn : l.seizes op = false) :
    Alters l (l.step op).2 (l.effect op) := by
  have filing {s : Nat} (hs : s < l.slots.length) (kind : Option Kind) (w : Wording) (l' : Ledger)
      (hfile : l.fileOwned s kind w = .ok l') : Alters l l' (.files s) := by
    obtain ⟨k, -, hc, rfl | ⟨text, -, rfl⟩⟩ := fileOwned_ok hfile
    · exact alters_report hs hc _ _
    · exact alters_reportOwned ho hs hc k text
  have filingBorrowed {s : Nat} (hs : s < l.slots.length) (kind : Option Kind) (text : Option String)
      (l' : Ledger) (hfile : l.fileBorrowed s kind text = .ok l') : Alters l l' (.files s) := by
    obtain ⟨k, -, hc, rfl⟩ := fileBorrowed_ok hfile
    exact alters_report hs hc _ _
  cases op with
  | addAllocator | setLimit => exact .nothing fun t => rfl
  | addSlot a => exact .nothing fun t => reading_addSlot a
  | fileBorrowed s kind text => exact effect_settle rfl (filingBorrowed (by simpa [knows] using h) kind text)
  | fileOwned s kind w => exact effect_settle rfl (filing (by simpa [knows] using h) kind w)
  | fileIfGiven s kind w =>
    cases s with
    | none => exact .nothing fun t => rfl
    | some s => exact effect_settle rfl (filing (by simpa [knows] using h) kind w)
  | fileBorrowedIfGiven s kind text =>
    cases s with
    | none => exact .nothing fun t => rfl
    | some s => exact effect_settle rfl (filingBorrowed (by simpa [knows] using h) kind text)
  | clear s => exact effect_clear ho hk (by simpa [knows] using h) rfl rfl
  | move s d =>
    cases d with
    | none => exact effect_clear ho hk (by simpa [knows] using h) rfl rfl
    | some d =>
      have h : s < l.slots.length ∧ d < l.slots.length := by simpa [knows] using h
      apply effect_settle rfl
      intro l' hmove
      unfold Ledger.move at hmove
      split at hmove
      · cases hmove
      · rename_i hc
        cases hmove
        exact alters_move h.1 h.2 hc
  | copy s =>
    apply effect_settle rfl
    intro l' hcopy
    unfold Ledger.copy at hcopy
    split at hcopy
    · cases hcopy
    · cases hcopy
      exact .nothing fun t => reading_addSlot _
  | allocate a text =>
    unfold effect
    cases ha : l.allocate a text with
    | none =>
      have hstep : l.step (.allocate a text) = (.error .exhausted, l) := by simp [step, ha]
      rw [hstep]
      exact .nothing fun t => rfl
    | some x =>
      obtain ⟨b, l'⟩ := x
      have hstep : l.step (.allocate a text) = (.ok (), l') := by simp [step, ha]
      obtain ⟨rfl, rfl⟩ := allocate_some ha
      rw [hstep]
      exact .nothing fun t => reading_lend ho a text
  | release b =>
    apply effect_settle rfl
    intro l' hrelease
    unfold release at hrelease
    split at hrelease
    · cases hrelease
    · cases hrelease
      exact .nothing fun t => reading_giveBack (by simpa [knows] using h) (not_owns_of_not_seizes hn)

/-! ### Following one report -/

theorem ne_of_reading (hnone : l.reading s = .ok none) (hr : l.reading t = .ok (some r)) : t ≠ s := by
  rintro rfl
  cases hnone.symm.trans hr

/-- The report of a slot is read where it is behind an operation, unless that drops it. -/
theorem behind_held (h : Alters l l' e) (hr : l.reading t = .ok (some r)) :
    (∃ u, (Fate.held t).behind n e = .held u ∧ l'.reading u = .ok (some r)) ∨
      (Fate.held t).behind n e = .dropped n ∧ e = .drops t := by
  -- what is filed into or moved onto was clear, so it is not the slot of the report
  cases h with
  | nothing hsame => exact .inl ⟨t, rfl, (hsame t).trans hr⟩
  | files hclear _ hothers => exact .inl ⟨t, rfl, (hothers t (ne_of_reading hclear hr)).trans hr⟩
  | @moves s d hclear _ hmoved hothers =>
    have htd := ne_of_reading hclear hr
    by_cases hts : t = s
    · subst hts
      exact .inl ⟨d, by simp [Fate.behind], (hmoved htd).trans hr⟩
    · exact .inl ⟨t, by simp [Fate.behind, hts], (hothers t hts htd).trans hr⟩
  | @drops s _ hothers =>
    by_cases hts : t = s
    · exact .inr ⟨by simp [Fate.behind, hts], by rw [hts]⟩
    · exact .inl ⟨t, by simp [Fate.behind, hts], (hothers t hts).trans hr⟩

/-- The reports of two slots do not come to lie in one. -/
theorem behind_apart {r' : Report} {t' u : Nat} (h : Alters l l' e) (hr : l.reading t = .ok (some r))
    (hr' : l.reading t' = .ok (some r')) (hu : (Fate.held t).behind n e = .held u)
    (hu' : (Fate.held t').behind n e = .held u) : t = t' := by
  cases h with
  | nothing | files => exact (Fate.held.inj hu).trans (Fate.held.inj hu').symm
  | moves hclear =>
    have htd := ne_of_reading hclear hr
    have htd' := ne_of_reading hclear hr'
    simp only [Fate.behind, Fate.held.injEq] at hu hu'
    grind
  | drops =>
    simp only [Fate.behind] at hu hu'
    grind

/-- A slot that reads as a report was filed into just now, or its report lay somewhere before. -/
theorem origin_behind {u : Nat} (h : Alters l l' e) (hr : l'.reading u = .ok (some r)) :
    e = .files u ∨ ∃ t, l.reading t = .ok (some r) ∧ (Fate.held t).behind n e = .held u := by
  cases h with
  | nothing hsame => exact .inr ⟨u, (hsame u).symm.trans hr, rfl⟩
  | @files s _ _ _ hothers =>
    by_cases hus : u = s
    · exact .inl (by rw [hus])
    · exact .inr ⟨u, (hothers u hus).symm.trans hr, rfl⟩
  | @moves s d _ hleft hmoved hothers =>
    have hus := ne_of_reading hleft hr
    by_cases hud : u = d
    · subst hud
      exact .inr ⟨s, (hmoved (Ne.symm hus)).symm.trans hr, by simp [Fate.behind]⟩
    · exact .inr ⟨u, (hothers u hus hud).symm.trans hr, by simp [Fate.behind, hus]⟩
  | drops hleft hothers =>
    have hus := ne_of_reading hleft hr
    exact .inr ⟨u, (hothers u hus).symm.trans hr, by simp [Fate.behind, hus]⟩

/-! ### Runs -/

/-- The ledger after so many operations of a run. -/
def after (ops : List Operation) (n : Nat) : Ledger := empty.run (ops.take n)

/-- What the operation with a number does with reports. -/
def effectAt (ops : List Operation) (n : Nat) : Effect :=
  match ops[n]? with
  | some op => (after ops n).effect op
  | none => .nothing

/-- Where the report that operation `i` files into slot `s` is after so many operations. -/
def fate (ops : List Operation) (i s : Nat) : Nat → Fate
  | 0 => .held s
  | n + 1 => if n ≤ i then .held s else (fate ops i s n).behind n (effectAt ops n)

/-- The report that operation `i` files into slot `s` is read where it is as it was filed, or one operation
dropped it from the slot where it was by then. -/
def Followed (ops : List Operation) (i s n : Nat) : Prop :=
  ∃ r, (after ops (i + 1)).reading s = .ok (some r) ∧
    ((∃ t, fate ops i s n = .held t ∧ (after ops n).reading t = .ok (some r)) ∨
      ∃ m t, i < m ∧ m < n ∧ fate ops i s m = .held t ∧ effectAt ops m = .drops t ∧
        fate ops i s n = .dropped m)

/-- Each report that was filed is followed; no two are in one slot, and no slot holds any other. -/
structure Tracked (ops : List Operation) (n : Nat) : Prop where
  kept : ∀ i < n, ∀ s, effectAt ops i = .files s → Followed ops i s n
  apart : ∀ i < n, ∀ j < n, ∀ s s' t, effectAt ops i = .files s → effectAt ops j = .files s' →
    fate ops i s n = .held t → fate ops j s' n = .held t → i = j
  origin : ∀ t, (after ops n).IsSet t → ∃ i < n, ∃ s, effectAt ops i = .files s ∧ fate ops i s n = .held t

theorem fate_succ {n : Nat} (h : i < n) :
    fate ops i s (n + 1) = (fate ops i s n).behind n (effectAt ops n) := by
  rw [fate, if_neg (by omega)]

theorem fate_filed : fate ops n s (n + 1) = .held s := by
  rw [fate, if_pos (Nat.le_refl n)]

theorem admits_append (xs ys : List Operation) :
    l.admits (xs ++ ys) = (l.admits xs && (l.run xs).admits ys) := by
  induction xs generalizing l with
  | nil => simp [admits, run]
  | cons op xs ih => simp [admits, run, ih, Bool.and_assoc]

theorem spares_append (xs ys : List Operation) :
    l.spares (xs ++ ys) = (l.spares xs && (l.run xs).spares ys) := by
  induction xs generalizing l with
  | nil => simp [spares, run]
  | cons op xs ih => simp [spares, run, ih, Bool.and_assoc]

theorem after_succ (hn : n < ops.length) : after ops (n + 1) = ((after ops n).step ops[n]).2 := by
  rw [after, List.take_succ_eq_append_getElem hn]
  simp only [after, run, List.foldl_append, List.foldl_cons, List.foldl_nil]

/-- Where the report of an earlier filing is now, it was in a slot just before. -/
theorem Tracked.held_before (ht : Tracked ops n) (hi : i < n) (hfiles : effectAt ops i = .files s)
    {u : Nat} (hu : fate ops i s (n + 1) = .held u) : ∃ t r, fate ops i s n = .held t ∧
      (after ops n).reading t = .ok (some r) ∧ (Fate.held t).behind n (effectAt ops n) = .held u := by
  rw [fate_succ hi] at hu
  obtain ⟨r, -, ⟨t, hfate, hheld⟩ | ⟨m, t, -, -, -, -, hfate⟩⟩ := ht.kept i hi s hfiles
  · exact ⟨t, r, hfate, hheld, hfate ▸ hu⟩
  · rw [hfate] at hu
    cases hu

section

variable (h : empty.admits ops) (hn : empty.spares ops)
include h hn

/-- The invariants of the accounts hold after so many operations. -/
theorem after_kept (n : Nat) : ∃ fs, Owned (after ops n) fs ∧ Kept (after ops n) fs := by
  rw [← List.take_append_drop n ops] at h hn
  rw [admits_append, Bool.and_eq_true] at h
  rw [spares_append, Bool.and_eq_true] at hn
  exact ⟨_, (run_books h.1 books_empty owned_empty).2, run_kept h.1 hn.1 owned_empty kept_empty⟩

theorem after_alters (n : Nat) : Alters (after ops n) (after ops (n + 1)) (effectAt ops n) := by
  by_cases hlt : n < ops.length
  · obtain ⟨fs, ho, hk⟩ := after_kept h hn n
    have hsplit : ops.take n ++ ops[n] :: ops.drop (n + 1) = ops := by simp
    rw [← hsplit, admits_append, admits, Bool.and_eq_true, Bool.and_eq_true] at h
    rw [← hsplit, spares_append, spares, Bool.and_eq_true, Bool.and_eq_true, Bool.not_eq_true'] at hn
    rw [effectAt, List.getElem?_eq_getElem hlt, after_succ hlt]
    exact step_alters ho hk h.2.1 hn.2.1
  · have hsame : after ops (n + 1) = after ops n := by
      rw [after, after, List.take_of_length_le (by omega), List.take_of_length_le (by omega)]
    rw [effectAt, List.getElem?_eq_none (by omega), hsame]
    exact .nothing fun t => rfl

theorem followed_succ (ht : Tracked ops n) (hi : i < n + 1) (hfiles : effectAt ops i = .files s) :
    Followed ops i s (n + 1) := by
  have halters := after_alters h hn n
  obtain hi | rfl := Nat.lt_succ_iff_lt_or_eq.1 hi
  · obtain ⟨r, hr, ⟨t, hfate, hheld⟩ | ⟨m, t, him, hmn, hm, hdrops, hfate⟩⟩ := ht.kept i hi s hfiles
    · refine ⟨r, hr, ?_⟩
      rw [fate_succ hi, hfate]
      obtain hu | ⟨hdropped, hdrops⟩ := behind_held (n := n) halters hheld
      · exact .inl hu
      · exact .inr ⟨n, t, hi, by omega, hfate, hdrops, hdropped⟩
    · exact ⟨r, hr, .inr ⟨m, t, him, by omega, hm, hdrops, by rw [fate_succ hi, hfate]; rfl⟩⟩
  · rw [hfiles] at halters
    cases halters with
    | files _ hfiled => exact ⟨_, hfiled, .inl ⟨s, fate_filed, hfiled⟩⟩

/-- A report is not filed where one of an earlier filing is. -/
theorem filed_apart (ht : Tracked ops n) (hj : j < n) (hfiles : effectAt ops n = .files s)
    (hfiles' : effectAt ops j = .files t) : fate ops j t (n + 1) ≠ .held s := by
  intro hu
  obtain ⟨u, r, -, hheld, hbehind⟩ := ht.held_before hj hfiles' hu
  have halters := after_alters h hn n
  rw [hfiles] at halters hbehind
  cases Fate.held.inj hbehind
  cases halters with
  | files hclear => exact ne_of_reading hclear hheld rfl

theorem apart_succ (ht : Tracked ops n) (hi : i < n + 1) (hj : j < n + 1) {u : Nat}
    (hfiles : effectAt ops i = .files s) (hfiles' : effectAt ops j = .files t)
    (hu : fate ops i s (n + 1) = .held u) (hu' : fate ops j t (n + 1) = .held u) : i = j := by
  -- each of the two was filed before, or just now
  obtain hi | rfl := Nat.lt_succ_iff_lt_or_eq.1 hi <;> obtain hj | rfl := Nat.lt_succ_iff_lt_or_eq.1 hj
  · obtain ⟨a, ra, hfate, hheld, hbehind⟩ := ht.held_before hi hfiles hu
    obtain ⟨b, rb, hfate', hheld', hbehind'⟩ := ht.held_before hj hfiles' hu'
    have hab := behind_apart (after_alters h hn n) hheld hheld' hbehind hbehind'
    subst hab
    exact ht.apart i hi j hj s t a hfiles hfiles' hfate hfate'
  · cases fate_filed.symm.trans hu'
    exact absurd hu (filed_apart h hn ht hi hfiles' hfiles)
  · cases fate_filed.symm.trans hu
    exact absurd hu' (filed_apart h hn ht hj hfiles hfiles')
  · rfl

theorem origin_succ (ht : Tracked ops n) {u : Nat} (hu : (after ops (n + 1)).IsSet u) :
    ∃ i < n + 1, ∃ s, effectAt ops i = .files s ∧ fate ops i s (n + 1) = .held u := by
  obtain ⟨fs, ho, hk⟩ := after_kept h hn (n + 1)
  obtain ⟨r, hr⟩ := hk.exists_reading ho hu
  obtain hfiles | ⟨t, hheld, hbehind⟩ := origin_behind (n := n) (after_alters h hn n) hr
  · exact ⟨n, by omega, u, hfiles, fate_filed⟩
  · have hset : (after ops n).IsSet t := fun hc => by cases (reading_of_clear hc).symm.trans hheld
    obtain ⟨i, hi, s, hfiles, hfate⟩ := ht.origin t hset
    exact ⟨i, by omega, s, hfiles, by rw [fate_succ hi, hfate, hbehind]⟩

/-- In a run that gives no buffer back behind its owner, every report that was filed is followed: no move
alters, doubles or loses it. -/
theorem run_tracked (n : Nat) : Tracked ops n := by
  -- the three parts are carried together: that no two reports meet rests on where each of them is read
  induction n with
  | zero => exact ⟨nofun, nofun, fun t ht => absurd rfl ht⟩
  | succ n ih =>
    exact ⟨fun i hi s => followed_succ h hn ih hi, fun i hi j hj s s' t => apart_succ h hn ih hi hj,
      fun t => origin_succ h hn ih⟩

end

/-- A report goes from slot to slot and back, past a clear slot moved onto itself and a move onto a slot that
is set. -/
def relay : List Operation :=
  [.addAllocator (some 1), .addSlot 1, .addSlot commonAllocator, .move 0 (some 0),
    .fileOwned 0 (some .failed) .standard, .move 0 (some 1), .fileIfGiven (some 0) (some .timeout) .standard,
    .move 0 (some 1), .clear 0, .move 1 (some 0), .copy 1, .move 0 none]

theorem run_tracked_relay :
    empty.admits relay ∧ empty.spares relay ∧ (∀ n, Tracked relay n) ∧ effectAt relay 4 = .files 0 ∧
      fate relay 4 0 8 = .held 1 ∧ fate relay 4 0 11 = .held 0 ∧ fate relay 4 0 12 = .dropped 11 ∧
      fate relay 6 0 12 = .dropped 8 := by
  have ha : empty.admits relay := by decide
  have hn : empty.spares relay := by decide
  exact ⟨ha, hn, run_tracked ha hn, by decide, by decide, by decide, by decide, by decide⟩

end Ledger
end MessageBus.Report
