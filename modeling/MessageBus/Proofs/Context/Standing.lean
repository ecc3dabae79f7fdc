import MessageBus.Proofs.Context.Failure
/-!
What a start puts into the file tree: the sockets of its listeners and its pid file. Each of them stands
where its path leads, but for abstract sockets.
-/
namespace MessageBus.Context
variable {path name : String} {names more : List String} {w w' w₁ w₂ : World} {c : Context}
  {f g h : Files} {p : Place} {settings : Settings} {ls : List Listener} {addresses : List Address}
  {sockets : List (String × Place)} {node : FileNode} {platform : Platform}

/-- The paths of the files that a context has: its sockets, and its pid file. -/
def paths (c : Context) : List String := socketNames c.listeners ++ c.pidFile.toList

/-- Files or sockets stand where the paths lead, but for abstract ones. -/
def Standing (f : Files) (paths : List String) : Prop :=
  ∀ path ∈ paths, Path.isAbstract path = false → Path.hasNull path = false ∧
    ∃ p node, f.Leads path p ∧ f.find? p = some node ∧ node ≠ .directory

theorem standing_append (hs : Standing f names) (hm : Standing f more) :
    Standing f (names ++ more) := by
  intro path hpath
  obtain hpath | hpath := List.mem_append.1 hpath
  · exact hs path hpath
  · exact hm path hpath

theorem standing_sockets (hs : Files.Placed f g node sockets) (hnode : node ≠ .directory)
    (hnames : grounded names = sockets.map (·.1)) : Standing g names := by
  intro path hpath hgrounded
  have hmem : path ∈ sockets.map (·.1) := hnames ▸ mem_grounded.2 ⟨hpath, hgrounded⟩
  obtain ⟨s, hs', rfl⟩ := List.mem_map.1 hmem
  exact ⟨hs.plain s hs', s.2, node, hs.leads s hs', hs.stands s hs', hnode⟩

theorem Standing.grows {at_ : Path} (hs : Standing f names) (hg : f.Grows g at_) :
    Standing g names := by
  intro path hpath hgrounded
  obtain ⟨hplain, p, node, hleads, hp, hnode⟩ := hs path hpath hgrounded
  exact ⟨hplain, p, node, hleads.keeps hg.keeps, hg.stays p _ hp, hnode⟩

/-- A file that is written takes the place of another one at most. -/
theorem Standing.put {content : List UInt8} (hs : Standing f names) (hplain : Path.hasNull name = false)
    (hleads : f.Leads name p) (hp : f.find? p ≠ some .directory) :
    Standing (f.put p (.file content)) (names ++ [name]) := by
  have hkeeps : f.Keeps (f.put p (.file content)) := Files.keeps_put _ hp
  have hnew := Files.find?_put f (.file content) hleads.ne_nil
  apply standing_append
  · intro path hpath hgrounded
    obtain ⟨hpath, q, old, hq, hstands, hold⟩ := hs path hpath hgrounded
    by_cases hsame : q = p
    · subst hsame
      exact ⟨hpath, q, .file content, hq.keeps hkeeps, hnew, by simp⟩
    · exact ⟨hpath, q, old, hq.keeps hkeeps, by rw [Files.find?_put_of_ne f _ hsame, hstands], hold⟩
  · intro path hpath _
    obtain rfl := List.mem_singleton.1 hpath
    exact ⟨hplain, p, .file content, hleads.keeps hkeeps, hnew, by simp⟩

/-- What can be written without an error is written to its end. -/
theorem fit_eq {content : List UInt8} (h : (platform.fit content).2 = none) :
    (platform.fit content).1 = content := by
  unfold Platform.fit at h ⊢
  split at h
  · rfl
  · split at h
    · cases h
    · rename_i hroom
      rw [if_neg hroom]

/-- A pid file that was written is where its path leads once the missing directories are made. -/
theorem makePidFile_ok (hm : makePidFile platform name f = (.ok (), g)) :
    Path.hasNull name = false ∧ ∃ h p, f.Grows h (Path.ofText name).parent ∧ h.Leads name p ∧
      h.find? p ≠ some .directory ∧ h.find? p ≠ some .socket ∧
      g = h.put p (.file (pidContent platform.process)) := by
  unfold makePidFile at hm
  split at hm
  · cases hm
  · rename_i hnull
    dsimp only at hm
    split at hm
    · cases hm
    · rename_i files hmade
      split at hm
      · cases hm
      · rename_i written hwrite
        cases hshort : (platform.fit (pidContent platform.process)).2 with
        | some e =>
          rw [hshort] at hm
          cases hm
        | none =>
          rw [hshort] at hm
          cases hm
          rw [fit_eq hshort] at hwrite
          obtain ⟨p, hleads, hp, hsocket, rfl⟩ := Files.write_ok hwrite
          exact ⟨by simpa using hnull, files, p, Files.makeDirectories_grows hmade, hleads, hp, hsocket, rfl⟩

theorem makePidFile_standing (hs : Standing f names) (hm : makePidFile platform name f = (.ok (), g)) :
    Standing g (names ++ [name]) := by
  obtain ⟨hplain, h, p, hgrows, hleads, hp, -, rfl⟩ := makePidFile_ok hm
  exact (hs.grows hgrows).put hplain hleads hp

theorem bound_standing {texts : List String} (hload : Loaded path w settings w₁)
    (hbound : Bound texts w₁ addresses ls w₂) : Standing w₂.files (socketNames ls) := by
  obtain ⟨-, -, sockets, hls, hsockets⟩ := bound_kept hload hbound
  exact standing_sockets hsockets w.platform.sockets.node_ne_directory hls

/-- A context that was built is a new one with its listeners and its pid file. -/
theorem built_fresh (hb : Built path w c w') :
    ∃ settings listeners pidFile, c = { new settings with listeners := listeners, pidFile := pidFile } := by
  obtain ⟨settings, w₁, addresses, ls, w₂, -, -, hpid⟩ := hb
  have hpid := hpid .absent
  unfold writePidFile at hpid
  split at hpid
  · cases hpid
    exact ⟨settings, ls, none, rfl⟩
  · dsimp only at hpid
    split at hpid <;> cases hpid
    exact ⟨settings, ls, _, rfl⟩

/-- The files of a context that was built stand in the tree. -/
theorem built_standing (hb : Built path w c w') : Standing w'.files c.paths := by
  obtain ⟨settings, w₁, addresses, ls, w₂, hload, hbound, hpid⟩ := hb
  have hsockets := bound_standing hload hbound
  have hpid := hpid .absent
  unfold writePidFile at hpid
  split at hpid
  · cases hpid
    simpa [paths, listeningOn, new] using hsockets
  · dsimp only at hpid
    split at hpid
    · rename_i files hmade
      cases hpid
      have hstanding := makePidFile_standing hsockets hmade
      simpa [paths, listeningOn, new, World.record] using hstanding
    · cases hpid
    · cases hpid

/-- The name of a pid file is not that of an abstract socket. -/
theorem built_pidFile (hb : Built path w c w') (hname : c.pidFile = some name) :
    Path.isAbstract name = false := by
  obtain ⟨settings, w₁, addresses, ls, w₂, -, -, hpid⟩ := hb
  have hpid := hpid .absent
  unfold writePidFile at hpid
  split at hpid
  · cases hpid
    cases hname
  · dsimp only at hpid
    split at hpid
    · rename_i files hmade
      cases hpid
      obtain ⟨hplain, -⟩ := makePidFile_ok hmade
      cases hname
      exact isAbstract_of_plain hplain
    · cases hpid
    · cases hpid

/-- The files of a context at which a start stopped stand in the tree, but for what the failing step did. -/
theorem stops_standing {out : StepEnd} (hstops : Stops path w out addresses ls (some c) w') :
    ∃ f, Standing f c.paths ∧ Residue w out f w'.files := by
  obtain ⟨-, ⟨f, sockets, hleft⟩, ⟨hnone, -⟩ | ⟨settings, hmade⟩⟩ := stops_left hstops
  · cases hnone
  · cases hmade
    have hpaths : (listeningOn settings ls).paths = socketNames ls := by
      simp [paths, listeningOn, new]
    have hsockets := standing_sockets hleft.placed w.platform.sockets.node_ne_directory hleft.bound
    exact ⟨f, hpaths ▸ hsockets, hleft.residue⟩

end MessageBus.Context
