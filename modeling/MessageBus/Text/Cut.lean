/-!
Cutting text at marks. `cut` cuts at the first mark, `split` at every one; joining the pieces with the
mark gives the text back.
-/
namespace MessageBus.Text

/-- What stands before and after the first mark, if there is one. -/
def cut (mark : Char) : List Char → Option (List Char × List Char)
  | [] => none
  | c :: rest =>
    if c = mark then some ([], rest)
    else (cut mark rest).map fun (before, after) => (c :: before, after)

/-- The pieces between marks. -/
def split (mark : Char) : List Char → List (List Char)
  | [] => [[]]
  | c :: rest =>
    if c = mark then [] :: split mark rest
    else
      match split mark rest with
      | [] => [[c]]
      | piece :: pieces => (c :: piece) :: pieces

/-- Some pieces with a mark between each two. -/
def join (mark : Char) : List (List Char) → List Char
  | [] => []
  | [piece] => piece
  | piece :: pieces => piece ++ mark :: join mark pieces

theorem cut_append {mark : Char} {before : List Char} (after : List Char) (h : mark ∉ before) :
    cut mark (before ++ mark :: after) = some (before, after) := by
  induction before with
  | nil => simp [cut]
  | cons c r ih =>
    simp at h
    simp [cut, ih h.2, Ne.symm h.1]

theorem eq_append_of_cut {mark : Char} {cs before after : List Char}
    (h : cut mark cs = some (before, after)) : cs = before ++ mark :: after ∧ mark ∉ before := by
  induction cs generalizing before with
  | nil => simp [cut] at h
  | cons c r ih =>
    by_cases hc : c = mark
    · simp [cut, hc] at h
      simp [h.1, h.2, hc]
    · simp [cut, hc] at h
      obtain ⟨b, hb, rfl⟩ := h
      have := ih hb
      simp [← this.1, this.2, Ne.symm hc]

theorem split_ne_nil (mark : Char) (cs : List Char) : split mark cs ≠ [] := by
  induction cs with
  | nil => simp [split]
  | cons c r ih =>
    simp only [split]
    split
    · simp
    · split <;> simp

theorem split_append {mark : Char} {piece : List Char} (rest : List Char) (h : mark ∉ piece) :
    split mark (piece ++ mark :: rest) = piece :: split mark rest := by
  induction piece with
  | nil => simp [split]
  | cons c r ih =>
    simp at h
    simp [split, ih h.2, Ne.symm h.1]

theorem split_of_notMem {mark : Char} {piece : List Char} (h : mark ∉ piece) :
    split mark piece = [piece] := by
  induction piece with
  | nil => simp [split]
  | cons c r ih =>
    simp at h
    simp [split, ih h.2, Ne.symm h.1]

theorem notMem_of_mem_split {mark : Char} {cs piece : List Char} (h : piece ∈ split mark cs) :
    mark ∉ piece := by
  induction cs generalizing piece with
  | nil => simp_all [split]
  | cons c r ih =>
    by_cases hc : c = mark
    · simp [split, hc] at h
      obtain rfl | h := h
      · simp
      · exact ih h
    · obtain ⟨first, pieces, hpieces⟩ := List.exists_cons_of_ne_nil (split_ne_nil mark r)
      simp [split, hc, hpieces] at h ih
      obtain rfl | h := h
      · simp [Ne.symm hc, ih.1]
      · exact ih.2 piece h

theorem split_join {mark : Char} {pieces : List (List Char)} (hne : pieces ≠ [])
    (h : ∀ piece ∈ pieces, mark ∉ piece) : split mark (join mark pieces) = pieces := by
  induction pieces with
  | nil => contradiction
  | cons piece rest ih =>
    obtain ⟨hpiece, hrest⟩ := List.forall_mem_cons.1 h
    cases rest with
    | nil => exact split_of_notMem hpiece
    | cons next rest => rw [join, split_append _ hpiece, ih (by simp) hrest]; simp

theorem join_split (mark : Char) (cs : List Char) : join mark (split mark cs) = cs := by
  induction cs with
  | nil => rfl
  | cons c r ih =>
    obtain ⟨first, pieces, hpieces⟩ := List.exists_cons_of_ne_nil (split_ne_nil mark r)
    by_cases hc : c = mark
    · rw [split, if_pos hc, hpieces, join, ← hpieces, ih, hc, List.nil_append]
      simp
    · rw [hpieces] at ih
      rw [split, if_neg hc, hpieces]
      cases pieces <;> simp [join] at ih ⊢ <;> exact ih

/-- Text is split into the pieces that it is made of with marks between them, and only into those. -/
theorem split_eq_iff {mark : Char} {cs : List Char} {pieces : List (List Char)} :
    split mark cs = pieces ↔
      pieces ≠ [] ∧ (∀ piece ∈ pieces, mark ∉ piece) ∧ cs = join mark pieces := by
  constructor
  · rintro rfl
    exact ⟨split_ne_nil mark cs, fun _ => notMem_of_mem_split, (join_split mark cs).symm⟩
  · rintro ⟨hne, hfree, rfl⟩
    exact split_join hne hfree

theorem mem_join {mark c : Char} {pieces : List (List Char)} (h : c ∈ join mark pieces) :
    c = mark ∨ ∃ piece ∈ pieces, c ∈ piece := by
  induction pieces with
  | nil => simp [join] at h
  | cons piece rest ih =>
    cases rest with
    | nil => exact .inr ⟨piece, by simp, h⟩
    | cons next rest =>
      simp only [join, List.mem_append, List.mem_cons] at h
      obtain h | rfl | h := h
      · exact .inr ⟨piece, by simp, h⟩
      · exact .inl rfl
      · obtain hmark | ⟨p, hp, hc⟩ := ih h
        · exact .inl hmark
        · exact .inr ⟨p, .tail _ hp, hc⟩

end MessageBus.Text
