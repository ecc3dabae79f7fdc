import MessageBus.Proofs.Context.Standing
/-!
Removing the files of a context. That fails only over a file that is still recorded then. As long as no
directory takes the place of one of them it fails over an abstract socket only; main statement: without one
they are gone, and everything else is as it was.
-/
namespace MessageBus.Context

/-- A file of the context cannot be removed. -/
def Obstructed (c : Context) (f : Files) : Prop := ∃ name ∈ c.paths, ∃ failure, unlink name f = .error failure

variable {f g : Files} {names : List String} {name : String} {sockets : List (String × Place)}
  {w w' : World} {c c' : Context} {ls : List Listener} {failure : Failure}

/-! ### Where it fails -/

theorem unlink_fails (h : unlink name f = .error failure) : failure ≠ .overReleased := by
  unfold unlink at h
  split at h
  · cases h
    simp
  · split at h
    · cases h
    · split at h <;> cases h
      simp

/-- Removing sockets fails over one that cannot be removed from what it left. -/
theorem removeSockets_error (h : removeSockets ls f = (.error failure, g)) :
    failure ≠ .overReleased ∧
      ∃ name ∈ socketNames ls, ∃ cause, unlink name g = .error cause := by
  induction ls generalizing f with
  | nil => cases h
  | cons l ls ih =>
    rw [removeSockets] at h
    split at h
    · rename_i hnone
      rw [socketNames, List.filterMap_cons_none hnone]
      exact ih h
    · rename_i name hsome
      rw [socketNames, List.filterMap_cons_some hsome]
      split at h
      · obtain ⟨hfailure, name', hname', hunlink⟩ := ih h
        exact ⟨hfailure, name', .tail _ hname', hunlink⟩
      · rename_i hunlink
        cases h
        exact ⟨by simp, name, .head _, _, hunlink⟩
      · rename_i hunlink
        cases h
        exact ⟨unlink_fails hunlink, name, .head _, _, hunlink⟩

theorem removePidFile_error (h : c.removePidFile w = (.error failure, c', w')) :
    failure ≠ .overReleased ∧ Obstructed c' w'.files := by
  unfold removePidFile at h
  split at h
  · cases h
  · rename_i name hpid
    have hname : name ∈ c.paths := by simp [paths, hpid]
    split at h
    · cases h
    · rename_i hunlink
      cases h
      exact ⟨by simp, name, hname, _, hunlink⟩
    · rename_i hunlink
      cases h
      exact ⟨unlink_fails hunlink, name, hname, _, hunlink⟩

/-- Removing the files fails over one that cannot be removed, and that stays recorded. -/
theorem removeFiles_error (h : c.removeFiles w = (.error failure, c', w')) :
    failure ≠ .overReleased ∧ Obstructed c' w'.files := by
  unfold removeFiles at h
  split at h
  · rename_i hsockets
    cases h
    obtain ⟨hfailure, name, hname, hunlink⟩ := removeSockets_error hsockets
    exact ⟨hfailure, name, List.mem_append_left _ hname, hunlink⟩
  · exact removePidFile_error h

/-! ### Where it succeeds -/

/-- What stands in the tree can be removed. -/
theorem removable_of_standing (hs : Standing f names) :
    ∃ sockets : List (String × Place), grounded names = sockets.map (·.1) ∧ Removable f sockets := by
  induction names with
  | nil => exact ⟨[], rfl, by simp [Removable]⟩
  | cons name names ih =>
    obtain ⟨sockets, hnames, hr⟩ := ih fun path hpath => hs path (.tail _ hpath)
    cases habstract : Path.isAbstract name with
    | true => exact ⟨sockets, by rw [← hnames]; simp [grounded, habstract], hr⟩
    | false =>
      obtain ⟨hplain, p, node, hleads, hp, hnode⟩ := hs name (.head _) habstract
      refine ⟨(name, p) :: sockets, by rw [List.map_cons, ← hnames]; simp [grounded, habstract],
        fun s hs => ?_⟩
      obtain rfl | hs := List.mem_cons.1 hs
      · exact ⟨hplain, hleads, by simpa [hp] using hnode⟩
      · exact hr s hs

/-- One file more is removed. It may have been removed through another path before. -/
theorem unlink_removed {p : Place} (hr : Removable f (sockets ++ [(name, p)]))
    (hremoved : Removed f g sockets) :
    ∃ h, unlink name g = .ok h ∧ Removed f h (sockets ++ [(name, p)]) := by
  obtain ⟨hplain, hleads, hp⟩ := hr (name, p) (by simp)
  have hkeeps : f.Keeps g := hremoved.keeps fun s hs => hr s (List.mem_append_left _ hs)
  have hfree : g.find? p ≠ some .directory := by
    by_cases hmem : p ∈ sockets.map (·.2)
    · obtain ⟨s, hs, rfl⟩ := List.mem_map.1 hmem
      simp [hremoved.gone s hs]
    · rwa [hremoved.other p hmem]
  obtain ⟨h, hunlink, hhome, hgone, -, hother⟩ := unlink_ok hplain (hleads.keeps hkeeps) hfree
  refine ⟨h, hunlink, hhome.trans hremoved.home, fun s hs => ?_, fun q hq => ?_⟩
  · by_cases hsame : s.2 = p
    · rw [hsame, hgone]
    · rw [hother _ hsame]
      obtain hs | hs := List.mem_append.1 hs
      · exact hremoved.gone s hs
      · obtain rfl := List.mem_singleton.1 hs
        exact absurd rfl hsame
  · simp only [List.map_append, List.map_cons, List.map_nil, List.mem_append, List.mem_singleton,
      not_or] at hq
    rw [hother q hq.2, hremoved.other q hq.1]

/-- The files of a context are removed, if each is where its path leads or is gone already. -/
theorem removeFiles_removed {all : List (String × Place)} (hall : c.paths = all.map (·.1))
    (hr : Removable w.files all) :
    ∃ g, c.removeFiles w =
        (.ok (), { c with listeners := [], pidFile := none }, { w with files := g }) ∧
      Removed w.files g all := by
  cases hpid : c.pidFile with
  | none =>
    have hnames : socketNames c.listeners = all.map (·.1) := by
      rw [← hall, paths, hpid]
      simp
    obtain ⟨g, hremove, hremoved⟩ := removeSockets_ok hr hnames
    refine ⟨g, ?_, hremoved⟩
    obtain ⟨settings, listeners, pidFile, references, shutDown, loop, connections, wishes⟩ := c
    cases hpid
    simp only [removeFiles, hremove, removePidFile]
  | some name =>
    obtain ⟨sockets, last, rfl, hnames, hlast⟩ :=
      List.map_eq_append_iff.1 (show all.map (·.1) = socketNames c.listeners ++ [name] by
        rw [← hall, paths, hpid]; rfl)
    obtain ⟨⟨_, p⟩, rfl, rfl⟩ : ∃ s, last = [s] ∧ s.1 = name := by
      obtain ⟨s, rest, rfl, hs, hrest⟩ := List.map_eq_cons_iff.1 hlast
      obtain rfl := List.map_eq_nil_iff.1 hrest
      exact ⟨s, rfl, hs⟩
    obtain ⟨g, hremove, hremoved⟩ :=
      removeSockets_ok (fun s hs => hr s (List.mem_append_left _ hs)) hnames.symm
    obtain ⟨h, hunlink, hgone⟩ := unlink_removed hr hremoved
    refine ⟨h, ?_, hgone⟩
    simp only [removeFiles, hremove, removePidFile, hpid, hunlink]

/-- Removing the files breaks off over the first abstract socket, with all of them still recorded. -/
theorem removeFiles_abstract {before after : List Listener} {l : Listener}
    (hlisteners : c.listeners = before ++ l :: after) (hr : Removable w.files sockets)
    (hbefore : socketNames before = sockets.map (·.1)) (hsocket : l.socket = some name)
    (habstract : Path.isAbstract name = true) :
    ∃ g, c.removeFiles w = (.error .nullCharacter, c, { w with files := g }) ∧
      TakenAway (socketNames before) w.files g := by
  obtain ⟨g, hremove, hremoved⟩ := removeSockets_abstract after hr hbefore hsocket habstract
  refine ⟨g, ?_, hremoved.takenAway hr hbefore⟩
  unfold removeFiles
  rw [hlisteners, hremove]

/-- The files of a context are removed, or that breaks off over an abstract socket, if each is where its path
leads or is gone already. -/
theorem removeFiles_cases {all : List (String × Place)} (hall : grounded c.paths = all.map (·.1))
    (hr : Removable w.files all) (hpid : ∀ name, c.pidFile = some name → Path.isAbstract name = false) :
    (Grounded c.paths ∧ ∃ g, c.removeFiles w =
        (.ok (), { c with listeners := [], pidFile := none }, { w with files := g }) ∧
      TakenAway c.paths w.files g) ∨
    ∃ before name after, c.paths = before ++ name :: after ∧ Path.isAbstract name = true ∧
      ∃ g, c.removeFiles w = (.error .nullCharacter, c, { w with files := g }) ∧
        TakenAway before w.files g := by
  obtain hgrounded | ⟨before, l, after, name, hlisteners, hbefore, hsocket, habstract⟩ :=
    grounded_or_abstract c.listeners
  · have hpaths : Grounded c.paths := by
      intro name hname
      obtain hname | hname := List.mem_append.1 hname
      · exact hgrounded name hname
      · exact hpid name (by simpa using hname)
    rw [grounded_of_grounded hpaths] at hall
    obtain ⟨g, hremove, hremoved⟩ := removeFiles_removed hall hr
    exact .inl ⟨hpaths, g, hremove, hremoved.takenAway hr hall⟩
  · have hsplit : c.paths = socketNames before ++ name :: (socketNames after ++ c.pidFile.toList) := by
      rw [paths, hlisteners]
      simp [socketNames, hsocket]
    rw [hsplit, grounded_append, grounded_of_grounded hbefore] at hall
    obtain ⟨first, rest, rfl, hfirst, -⟩ := List.map_eq_append_iff.1 hall.symm
    obtain ⟨g, hremove, htaken⟩ := removeFiles_abstract hlisteners
      (fun s hs => hr s (List.mem_append_left _ hs)) hfirst.symm hsocket habstract
    exact .inr ⟨_, name, _, hsplit, habstract, g, hremove, htaken⟩

end MessageBus.Context
