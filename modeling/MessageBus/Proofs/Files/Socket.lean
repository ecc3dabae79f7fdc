import MessageBus.Proofs.Files.Place
/-!
Sockets in the file tree. One that was left at a path is swept away before a new one is made there. Main
statement: what is placed in the tree stands where its path leads, and everything else is as it was.
-/
namespace MessageBus.Files

/-- What is found at a path, if that is a socket, was removed; nothing else was touched. -/
def Swept (f : Files) (text : String) (g : Files) : Prop :=
  g = f ∨ ∃ p, f.Leads text p ∧ f.find? p = some .socket ∧ g = f.erase p

/-- Nodes of one kind were placed in a tree that was another one before: each stands where its path leads,
none where a directory was, and everything else is as it was. -/
structure Placed (f g : Files) (node : FileNode) (sockets : List (String × Place)) : Prop where
  home : g.home = f.home
  plain : ∀ s ∈ sockets, Path.hasNull s.1 = false
  leads : ∀ s ∈ sockets, g.Leads s.1 s.2
  free : ∀ s ∈ sockets, f.find? s.2 ≠ some .directory
  stands : ∀ s ∈ sockets, g.find? s.2 = some node
  other : ∀ p, p ∉ sockets.map (·.2) → g.find? p = f.find? p

variable {f g : Files} {sockets : List (String × Place)} {text : String} {p : Place} {node : FileNode}
  {e : SystemError}

/-! ### Sweeping -/

theorem stat_socket (h : f.stat text = .ok .socket) : ∃ p, f.Leads text p ∧ f.find? p = some .socket := by
  unfold stat at h
  split at h
  · cases h
  · rename_i hfilled
    obtain ⟨⟨d, name?⟩, hlocate, h⟩ := bind_ok.1 h
    cases name? with
    | none => cases h
    | some name =>
      obtain ⟨node, hchild, h⟩ := bind_ok.1 h
      obtain ⟨hname, rfl⟩ := child_ok.1 hchild
      split at h
      · cases h
      · cases h
      · rename_i node _ hnode
        split at h
        · cases h
        · rename_i hshape
          cases h
          exact ⟨d ++ [name], ⟨hfilled, by simpa using hshape, d, name, hlocate, hname, rfl⟩, hnode⟩

/-- What is found at a path is what stands where it leads. -/
theorem Leads.stat (hl : f.Leads text p) :
    f.stat text =
      match f.find? p with
      | some n => .ok n
      | none => .error .notFound := by
  obtain ⟨d, name, hd, hname, rfl⟩ := hl.located
  unfold Files.stat
  rw [if_neg hl.filled, hd]
  cases hp : f.find? (d ++ [name]) with
  | none => simp [child_ok.2 ⟨hname, rfl⟩, hp, bind, Except.bind]
  | some n => cases n <;> simp [child_ok.2 ⟨hname, rfl⟩, hp, hl.shape, bind, Except.bind, pure, Except.pure]

theorem sweep_of_stat_error (h : f.stat text = .error e) : f.sweep text = .error e := by
  simp [sweep, h, bind, Except.bind]

/-- Sweeping removes a socket that was left at the path, and nothing else; it fails only if it cannot be
told what is there. -/
theorem sweep_cases (f : Files) (text : String) :
    (∃ g, f.sweep text = .ok g ∧ Swept f text g) ∨ ∃ e, f.stat text = .error e ∧ f.sweep text = .error e := by
  cases hstat : f.stat text with
  | error e => exact .inr ⟨e, rfl, sweep_of_stat_error hstat⟩
  | ok node =>
    by_cases hsocket : node = .socket
    · subst hsocket
      obtain ⟨p, hleads, hp⟩ := stat_socket hstat
      refine .inl ⟨f.erase p, ?_, .inr ⟨p, hleads, hp, rfl⟩⟩
      simp [sweep, hstat, hleads.remove_node hp (by simp), bind, Except.bind]
    · exact .inl ⟨f, by simp [sweep, hstat, hsocket, bind, Except.bind, pure, Except.pure], .inl rfl⟩

theorem Swept.keeps (h : Swept f text g) : f.Keeps g := by
  obtain rfl | ⟨p, -, hp, rfl⟩ := h
  · exact .refl g
  · exact keeps_erase (by simp [hp])

/-- A place is as it was, or a socket was removed from it. -/
theorem Swept.find? (h : Swept f text g) (q : Place) :
    g.find? q = f.find? q ∨ f.find? q = some .socket ∧ g.find? q = none ∧ f.Leads text q := by
  obtain rfl | ⟨p, hleads, hp, rfl⟩ := h
  · exact .inl rfl
  · by_cases hq : q = p
    · subst hq
      exact .inr ⟨hp, find?_erase f hleads.ne_nil, hleads⟩
    · exact .inl (find?_erase_of_ne f hq)

/-! ### Making -/

/-- A socket is made where its path leads and nothing stands. -/
theorem makeSocket_ok (h : f.makeSocket text = .ok g) :
    ∃ p, f.Leads text p ∧ f.find? p = none ∧ g = f.put p .socket := by
  unfold makeSocket at h
  split at h
  · cases h
  · obtain ⟨⟨d, name?⟩, hlocate, h⟩ := bind_ok.1 h
    cases name? with
    | none => cases h
    | some name =>
      obtain ⟨node, hchild, h⟩ := bind_ok.1 h
      obtain ⟨hname, rfl⟩ := child_ok.1 hchild
      split at h
      · cases h
      · split at h <;> cases h
      · rename_i hnone
        split at h
        · cases h
        · rename_i hshape
          cases h
          have hfilled : text ≠ "" := by
            rintro rfl
            have hlast := (locate_ok.1 hlocate).2.1
            cases hlast
          exact ⟨d ++ [name], ⟨hfilled, by simpa using hshape, d, name, hlocate, hname, rfl⟩, hnone, rfl⟩

/-- Where it cannot be told what stands at a path, no socket can be made. -/
theorem makeSocket_of_stat_error (h : f.stat text = .error e) (he : e.isNotFound = false) :
    ∃ e', f.makeSocket text = .error e' := by
  cases hmake : f.makeSocket text with
  | error e' => exact ⟨e', rfl⟩
  | ok g =>
    obtain ⟨p, hleads, hp, -⟩ := makeSocket_ok hmake
    have hstat := hleads.stat
    rw [h, hp] at hstat
    cases hstat
    simp [SystemError.isNotFound, SystemError.notFound, SystemError.numbered] at he

/-- What is put where a socket was swept away takes the place of that. -/
theorem Swept.put (h : Swept f text g) (hleads : g.Leads text p) (hp : g.find? p ≠ some .directory)
    (node : FileNode) :
    f.Leads text p ∧ f.find? p ≠ some .directory ∧ g.put p node = f.put p node := by
  have hkeeps := h.keeps
  obtain rfl | ⟨q, hq, hsocket, rfl⟩ := h
  · exact ⟨hleads, hp, rfl⟩
  · obtain rfl := (hq.keeps hkeeps).unique hleads
    exact ⟨hq, by simp [hsocket], put_erase f q node⟩

/-! ### One after the other -/

theorem Placed.refl (f : Files) (node : FileNode) : Placed f f node [] := by
  constructor <;> simp

theorem Placed.keeps (h : Placed f g node sockets) : f.Keeps g := by
  refine ⟨h.home, fun p hp => ?_⟩
  rw [h.other p, hp]
  intro hmem
  obtain ⟨s, hsocket, rfl⟩ := List.mem_map.1 hmem
  exact h.free s hsocket hp

/-- One node more. -/
theorem Placed.put (h : Placed f g node sockets) (hplain : Path.hasNull text = false)
    (hl : g.Leads text p) (hp : g.find? p ≠ some .directory) :
    Placed f (g.put p node) node (sockets ++ [(text, p)]) := by
  have hk : g.Keeps (g.put p node) := keeps_put _ hp
  have hnew := find?_put g node hl.ne_nil
  constructor
  · exact h.home
  · intro s hmem
    obtain hmem | hmem := List.mem_append.1 hmem
    · exact h.plain s hmem
    · simp at hmem
      simpa [hmem] using hplain
  · intro s hmem
    obtain hmem | hmem := List.mem_append.1 hmem
    · exact (h.leads s hmem).keeps hk
    · simp at hmem
      subst hmem
      exact hl.keeps hk
  · intro s hmem
    obtain hmem | hmem := List.mem_append.1 hmem
    · exact h.free s hmem
    · simp at hmem
      subst hmem
      exact fun hdirectory => hp (h.keeps.directory _ hdirectory)
  · intro s hmem
    by_cases hsame : s.2 = p
    · rw [hsame, hnew]
    · rw [find?_put_of_ne _ _ hsame]
      obtain hmem | hmem := List.mem_append.1 hmem
      · exact h.stands s hmem
      · simp at hmem
        simp [hmem] at hsame
  · intro q hq
    simp at hq
    rw [find?_put_of_ne _ _ hq.2]
    exact h.other q (by simpa using hq.1)

end MessageBus.Files
