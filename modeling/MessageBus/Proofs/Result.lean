/-!
Results that may be faults, taken apart one step at a time.
-/
namespace MessageBus
variable {ε ε' α β : Type}

theorem bind_ok {x : Except ε α} {f : α → Except ε β} {b : β} :
    x >>= f = .ok b ↔ ∃ a, x = .ok a ∧ f a = .ok b := by
  cases x <;> simp [bind, Except.bind]

theorem bind_error {x : Except ε α} {f : α → Except ε β} {e : ε} :
    x >>= f = .error e ↔ x = .error e ∨ ∃ a, x = .ok a ∧ f a = .error e := by
  cases x <;> simp [bind, Except.bind]

theorem ok_of_toOption {x : Except ε α} {a : α} (h : x.toOption = some a) : x = .ok a := by
  cases x with
  | error e => cases h
  | ok b =>
    cases h
    rfl

theorem map_ok {x : Except ε α} {f : α → β} {b : β} :
    x.map f = .ok b ↔ ∃ a, x = .ok a ∧ f a = b := by
  cases x <;> simp [Except.map]

theorem map_error {x : Except ε α} {f : α → β} {e : ε} : x.map f = .error e ↔ x = .error e := by
  cases x <;> simp [Except.map]

theorem mapError_ok (f : ε → ε') (a : α) : (.ok a : Except ε α).mapError f = .ok a := rfl

theorem mapError_error (f : ε → ε') (e : ε) :
    (.error e : Except ε α).mapError f = .error (f e) := rfl

/-- Items that are each given back as they were. -/
theorem mapM_map_ok {f : β → Except ε α} {g : α → β} {xs : List α} (h : ∀ x ∈ xs, f (g x) = .ok x) :
    (xs.map g).mapM f = .ok xs := by
  induction xs with
  | nil => rfl
  | cons x xs ih =>
    obtain ⟨hx, hxs⟩ := List.forall_mem_cons.1 h
    rw [List.map_cons, List.mapM_cons, hx, ih hxs]
    rfl

theorem mem_of_mapM_ok {f : α → Except ε β} {xs : List α} {ys : List β} (h : xs.mapM f = .ok ys) :
    ∀ y ∈ ys, ∃ x ∈ xs, f x = .ok y := by
  induction xs generalizing ys with
  | nil =>
    cases h
    simp
  | cons x xs ih =>
    rw [List.mapM_cons] at h
    obtain ⟨y, hy, h⟩ := bind_ok.1 h
    obtain ⟨rest, hrest, h⟩ := bind_ok.1 h
    cases h
    intro z hz
    obtain rfl | hz := List.mem_cons.1 hz
    · exact ⟨x, .head _, hy⟩
    · obtain ⟨x', hmem, hx'⟩ := ih hrest z hz
      exact ⟨x', .tail _ hmem, hx'⟩

/-- A traversal fails at the first item that does. -/
theorem mapM_error_iff {f : α → Except ε β} {xs : List α} {e : ε} :
    xs.mapM f = .error e ↔ ∃ before x after, xs = before ++ x :: after ∧
      (∀ y ∈ before, ∃ b, f y = .ok b) ∧ f x = .error e := by
  induction xs with
  | nil => simp [pure, Except.pure]
  | cons x xs ih =>
    rw [List.mapM_cons, bind_error]
    constructor
    · rintro (hx | ⟨b, hb, h⟩)
      · exact ⟨[], x, xs, rfl, by simp, hx⟩
      · obtain hxs | ⟨ys, -, h⟩ := bind_error.1 h
        · obtain ⟨before, x', after, rfl, hbefore, hx'⟩ := ih.1 hxs
          exact ⟨x :: before, x', after, rfl, List.forall_mem_cons.2 ⟨⟨b, hb⟩, hbefore⟩, hx'⟩
        · cases h
    · rintro ⟨before, x', after, hxs, hbefore, hx'⟩
      cases before with
      | nil =>
        cases hxs
        exact .inl hx'
      | cons y before =>
        cases hxs
        obtain ⟨⟨b, hb⟩, hbefore⟩ := List.forall_mem_cons.1 hbefore
        exact .inr ⟨b, hb, bind_error.2 (.inl (ih.2 ⟨before, x', after, rfl, hbefore, hx'⟩))⟩

end MessageBus
