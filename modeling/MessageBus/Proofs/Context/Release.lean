import MessageBus.Proofs.Context.Course
import MessageBus.Proofs.Files.Directory
import MessageBus.Proofs.World
/-!
Taking a context down that was set up and nothing more. Its sockets are removed and its loop is closed; that
fails only over an abstract socket, which has no place in the file tree.
-/
namespace MessageBus.Context
variable {f g : Files} {w w' : World} {settings : Settings} {ls before after : List Listener}
  {sockets : List (String × Place)} {l : Listener} {name : String} {names : List String}

/-- The sockets are gone from the tree, and everything else is as it was. -/
structure Removed (f g : Files) (sockets : List (String × Place)) : Prop where
  home : g.home = f.home
  gone : ∀ s ∈ sockets, g.find? s.2 = none
  other : ∀ p, p ∉ sockets.map (·.2) → g.find? p = f.find? p

/-- The files at some paths were taken away, and nothing else was touched. -/
structure TakenAway (names : List String) (f g : Files) : Prop where
  keeps : f.Keeps g
  gone : ∀ name ∈ names, g.look (.ofText name) = .error .notFound
  others : ∀ p, (∀ name ∈ names, ¬ f.Leads name p) → g.find? p = f.find? p

/-- The paths of the sockets can be removed, or are gone already. -/
def Removable (f : Files) (sockets : List (String × Place)) : Prop :=
  ∀ s ∈ sockets, Path.hasNull s.1 = false ∧ f.Leads s.1 s.2 ∧
    f.find? s.2 ≠ some .directory

theorem Removed.keeps (hr : Removable f sockets) (h : Removed f g sockets) : f.Keeps g := by
  refine ⟨h.home, fun p hp => ?_⟩
  rw [h.other p, hp]
  intro hmem
  obtain ⟨s, hs, rfl⟩ := List.mem_map.1 hmem
  exact (hr s hs).2.2 hp

theorem removed_gone (hr : Removable f sockets) (hremoved : Removed f g sockets)
    (hname : name ∈ sockets.map (·.1)) : g.look (.ofText name) = .error .notFound := by
  obtain ⟨s, hs, rfl⟩ := List.mem_map.1 hname
  rw [((hr s hs).2.1.keeps (hremoved.keeps hr)).look, hremoved.gone s hs]

theorem Removed.takenAway (h : Removed f g sockets) (hr : Removable f sockets)
    (hnames : names = sockets.map (·.1)) : TakenAway names f g where
  keeps := h.keeps hr
  gone := fun name hname => removed_gone hr h (hnames ▸ hname)
  others := by
    refine fun p hp => h.other p fun hmem => ?_
    obtain ⟨s, hs, rfl⟩ := List.mem_map.1 hmem
    exact hp s.1 (hnames ▸ List.mem_map_of_mem hs) (hr s hs).2.1

/-- What is there behind that was there before, and none of the paths led to it. -/
theorem TakenAway.find? (h : TakenAway names f g) {p : Place} {node : FileNode} (hp : g.find? p = some node) :
    (∀ name ∈ names, ¬ f.Leads name p) ∧ f.find? p = some node := by
  have hfree : ∀ name ∈ names, ¬ f.Leads name p := by
    intro name hname hleads
    have hgone := h.gone name hname
    rw [(hleads.keeps h.keeps).look, hp] at hgone
    cases hgone
  exact ⟨hfree, (h.others p hfree).symm.trans hp⟩

theorem unlink_ok {path : String} {p : Place} (hplain : Path.hasNull path = false)
    (hleads : f.Leads path p) (hp : f.find? p ≠ some .directory) :
    ∃ g, unlink path f = .ok g ∧ g.home = f.home ∧ g.find? p = none ∧ f.Keeps g ∧
      ∀ q, q ≠ p → g.find? q = f.find? q := by
  unfold unlink
  rw [if_neg (by rw [hplain]; exact Bool.false_ne_true)]
  cases hnode : f.find? p with
  | none =>
    rw [hleads.remove_none hnode]
    exact ⟨f, rfl, rfl, hnode, .refl f, fun _ _ => rfl⟩
  | some node =>
    have hnot : node ≠ .directory := fun h => hp (h ▸ hnode)
    rw [hleads.remove_node hnode hnot]
    exact ⟨f.erase p, rfl, rfl, Files.find?_erase f hleads.ne_nil, Files.keeps_erase hp,
      fun q hq => Files.find?_erase_of_ne f hq⟩

theorem removeSockets_ok (hr : Removable f sockets)
    (hls : socketNames ls = sockets.map (·.1)) :
    ∃ g, removeSockets ls f = (.ok (), g) ∧ Removed f g sockets := by
  induction ls generalizing f sockets with
  | nil =>
    have hnil : sockets = [] := List.map_eq_nil_iff.1 hls.symm
    subst hnil
    exact ⟨f, rfl, rfl, by simp, fun _ _ => rfl⟩
  | cons l ls ih =>
    cases hsocket : l.socket with
    | none =>
      rw [socketNames, List.filterMap_cons, hsocket] at hls
      rw [removeSockets, hsocket]
      exact ih hr hls
    | some path =>
      rw [socketNames, List.filterMap_cons, hsocket] at hls
      cases sockets with
      | nil => simp at hls
      | cons s sockets =>
        obtain ⟨rfl, hrest⟩ := List.cons.inj hls
        obtain ⟨hplain, hleads, hfree⟩ := hr s (.head _)
        obtain ⟨f₁, hunlink, hhome, hgone, hkeeps, hother⟩ := unlink_ok hplain hleads hfree
        have hr₁ : Removable f₁ sockets := by
          intro t ht
          obtain ⟨htplain, htleads, htfree⟩ := hr t (.tail _ ht)
          refine ⟨htplain, htleads.keeps hkeeps, ?_⟩
          by_cases hsame : t.2 = s.2
          · simp [hsame, hgone]
          · rwa [hother _ hsame]
        obtain ⟨g, hremove, hremoved⟩ := ih hr₁ hrest
        refine ⟨g, ?_, hremoved.home.trans hhome, ?_, ?_⟩
        · rw [removeSockets, hsocket]
          simp only [hunlink, hremove]
        · intro t ht
          obtain rfl | ht := List.mem_cons.1 ht
          · by_cases hmem : t.2 ∈ sockets.map (·.2)
            · obtain ⟨u, hu, hsame⟩ := List.mem_map.1 hmem
              rw [← hsame, hremoved.gone u hu]
            · rw [hremoved.other _ hmem, hgone]
          · exact hremoved.gone t ht
        · intro q hq
          simp only [List.map_cons, List.mem_cons, not_or] at hq
          rw [hremoved.other q hq.2, hother q hq.1]

theorem unlink_abstract (h : Path.isAbstract name = true) (f : Files) :
    unlink name f = .error .nullCharacter := by
  rw [unlink, if_pos (hasNull_of_isAbstract h)]

theorem removeSockets_append (h : removeSockets before f = (.ok (), g)) (more : List Listener) :
    removeSockets (before ++ more) f = removeSockets more g := by
  induction before generalizing f with
  | nil =>
    cases h
    rfl
  | cons l ls ih =>
    rw [List.cons_append]
    cases hsocket : l.socket with
    | none =>
      rw [removeSockets, hsocket] at h ⊢
      exact ih h
    | some path =>
      simp only [removeSockets, hsocket] at h ⊢
      cases hunlink : unlink path f with
      | ok f₁ =>
        rw [hunlink] at h
        exact ih h
      | error failure =>
        rw [hunlink] at h
        cases failure <;> cases h

/-- Sockets are removed up to the first abstract one. -/
theorem removeSockets_abstract (after : List Listener) (hr : Removable f sockets)
    (hls : socketNames before = sockets.map (·.1)) (hsocket : l.socket = some name)
    (habstract : Path.isAbstract name = true) :
    ∃ g, removeSockets (before ++ l :: after) f = (.error .nullCharacter, g) ∧ Removed f g sockets := by
  obtain ⟨g, hremove, hremoved⟩ := removeSockets_ok hr hls
  refine ⟨g, ?_, hremoved⟩
  rw [removeSockets_append hremove, removeSockets, hsocket]
  simp only [unlink_abstract habstract]

/-- All sockets have their places in the file tree, or there is a first one that is abstract. -/
theorem grounded_or_abstract (ls : List Listener) :
    Grounded (socketNames ls) ∨ ∃ before l after name, ls = before ++ l :: after ∧
      Grounded (socketNames before) ∧ l.socket = some name ∧ Path.isAbstract name = true := by
  induction ls with
  | nil => exact .inl (by simp [Grounded, socketNames])
  | cons l ls ih =>
    cases hsocket : l.socket with
    | none =>
      have hnames : ∀ more, socketNames (l :: more) = socketNames more := fun more =>
        List.filterMap_cons_none hsocket
      obtain hgrounded | ⟨before, m, after, name, rfl, hbefore, hm, habstract⟩ := ih
      · exact .inl (hnames ls ▸ hgrounded)
      · exact .inr ⟨l :: before, m, after, name, rfl, hnames before ▸ hbefore, hm, habstract⟩
    | some name =>
      cases habstract : Path.isAbstract name with
      | true => exact .inr ⟨[], l, ls, name, rfl, by simp [Grounded, socketNames], hsocket, habstract⟩
      | false =>
        have hnames : ∀ more, socketNames (l :: more) = name :: socketNames more := fun more =>
          List.filterMap_cons_some hsocket
        have hcons : ∀ more, Grounded (socketNames more) → Grounded (socketNames (l :: more)) := by
          intro more hmore name' hname'
          rw [hnames] at hname'
          obtain rfl | hname' := List.mem_cons.1 hname'
          · exact habstract
          · exact hmore name' hname'
        obtain hgrounded | ⟨before, m, after, name', rfl, hbefore, hm, habstract'⟩ := ih
        · exact .inl (hcons ls hgrounded)
        · exact .inr ⟨l :: before, m, after, name', rfl, hcons before hbefore, hm, habstract'⟩

/-! ### The loop of a context without connections -/

/-- The loop of a context without connections, once it hung up on all of them. -/
def hungUp : Loop Traffic.Job Traffic.Callback Traffic.Outcome :=
  { (Loop.empty : Loop Traffic.Job Traffic.Callback Traffic.Outcome) with
    tasks := [⟨.job .closeAll, .ended (.ok ()), true, false, none⟩] }

theorem complete_closeAll (log : List Log.Record) (wishes : List Wish) :
    Loop.empty.complete Traffic.behaviour (.job .closeAll) ⟨log, [], wishes⟩ =
      (.ok (.ok ()), hungUp, ⟨log, [], wishes⟩) := rfl

theorem close_hungUp (t : Traffic) :
    ∃ l, hungUp.closeWithin Traffic.behaviour Traffic.closingRounds t = (.ok (), l, t) ∧
      l.closed = true := ⟨_, rfl, rfl⟩

/-- A context with nothing but its listeners, as its last reference is given back. -/
def givenUp (settings : Settings) (ls : List Listener) : Context :=
  { listeningOn settings ls with references := 0, shutDown := true }

theorem complete_givenUp (settings : Settings) (ls : List Listener) (w : World) :
    complete (.job .closeAll) (givenUp settings ls) w =
      (.ok (), { givenUp settings ls with loop := hungUp }, w) := by
  have hcomplete := complete_closeAll w.log []
  simp only [complete, traffic, givenUp, listeningOn, new, hcomplete]
  rfl

theorem closeLoop_givenUp (settings : Settings) (w : World) :
    ∃ c w', closeLoop { givenUp settings [] with loop := hungUp } w = (.ok (), c, w') ∧
      c.loop.closed = true ∧ w'.files = w.files ∧ w'.attempts = w.attempts ∧ w.Proceeds 0 w' := by
  obtain ⟨l, hclose, hclosed⟩ := close_hungUp
    ⟨w.log ++ [⟨.debug, "busd.bus.loop", "Closing event loop"⟩], [], []⟩
  have hopen : hungUp.closed = false := rfl
  unfold closeLoop
  simp only [givenUp, listeningOn, new, traffic, hopen, World.record, hclose, if_false,
    Bool.false_eq_true]
  exact ⟨_, _, rfl, hclosed, rfl, rfl, w.proceeds_record rfl⟩

/-- What comes of removing the sockets of a context decides how shutting it down ends. -/
theorem shutdown_givenUp (settings : Settings) (ls : List Listener) (w : World) :
    ({ listeningOn settings ls with references := 0 } : Context).shutdown w =
      removeFiles { givenUp settings ls with loop := hungUp }
        (w.record ⟨.info, part, "Shutting down message bus"⟩) := by
  have hcomplete := complete_givenUp settings ls (w.record ⟨.info, part, "Shutting down message bus"⟩)
  unfold shutdown
  rw [if_neg (by simp [listeningOn, new])]
  dsimp only
  split
  · rename_i hfailed
    cases hcomplete.symm.trans hfailed
  · rename_i hdone
    cases hcomplete.symm.trans hdone
    rfl

/-- A context that was set up and nothing more can be released, if none of its sockets is abstract. -/
theorem release_grounded (settings : Settings) (hr : Removable w.files sockets)
    (hls : socketNames ls = sockets.map (·.1)) :
    ∃ c w', (listeningOn settings ls).release w = (.ok (), c, w') ∧ c.loop.closed = true ∧
      w'.attempts = w.attempts ∧ Removed w.files w'.files sockets ∧ w.Proceeds 0 w' := by
  obtain ⟨g, hremove, hremoved⟩ := removeSockets_ok hr hls
  have hshutdown : ({ listeningOn settings ls with references := 0 } : Context).shutdown w =
      (.ok (), { givenUp settings [] with loop := hungUp },
        { w.record ⟨.info, part, "Shutting down message bus"⟩ with files := g }) := by
    rw [shutdown_givenUp]
    simp only [removeFiles, givenUp, listeningOn, World.record, hremove]
    rfl
  obtain ⟨c, w', hclose, hclosed, hfiles, hattempts, hproceeds⟩ := closeLoop_givenUp settings
    { w.record ⟨.info, part, "Shutting down message bus"⟩ with files := g }
  have hshut := (w.proceeds_record (r := ⟨.info, part, "Shutting down message bus"⟩) rfl).trans
    (World.proceeds_files _ g)
  refine ⟨c, w', ?_, hclosed, hattempts, hfiles ▸ hremoved, hshut.trans hproceeds⟩
  simp only [release, show (listeningOn settings ls).references = 0 + 1 from rfl, if_true, hshutdown,
    hclose]

/-- Releasing it breaks off over the first abstract socket, with the loop left open. -/
theorem release_abstract (settings : Settings) (after : List Listener) (hr : Removable w.files sockets)
    (hbefore : socketNames before = sockets.map (·.1)) (hsocket : l.socket = some name)
    (habstract : Path.isAbstract name = true) :
    ∃ c w', (listeningOn settings (before ++ l :: after)).release w = (.error .nullCharacter, c, w') ∧
      c.loop.closed = false ∧ c.listeners = before ++ l :: after ∧ c.pidFile = none ∧
      Removed w.files w'.files sockets ∧ w.Proceeds 0 w' := by
  obtain ⟨g, hremove, hremoved⟩ := removeSockets_abstract after hr hbefore hsocket habstract
  have hshutdown : ({ listeningOn settings (before ++ l :: after) with references := 0 } : Context).shutdown w =
      (.error .nullCharacter, { givenUp settings (before ++ l :: after) with loop := hungUp },
        { w.record ⟨.info, part, "Shutting down message bus"⟩ with files := g }) := by
    rw [shutdown_givenUp]
    simp only [removeFiles, givenUp, listeningOn, World.record, hremove]
  refine ⟨{ givenUp settings (before ++ l :: after) with loop := hungUp },
    { w.record ⟨.info, part, "Shutting down message bus"⟩ with files := g },
    ?_, rfl, rfl, rfl, hremoved, ?_⟩
  · simp only [release, show (listeningOn settings (before ++ l :: after)).references = 0 + 1 from rfl,
      if_true, hshutdown]
  · exact (w.proceeds_record (r := ⟨.info, part, "Shutting down message bus"⟩) rfl).trans
      (World.proceeds_files _ g)

/-- Either way a context that was set up and nothing more is released, or that breaks off. -/
theorem release_listeningOn (settings : Settings) (hr : Removable w.files sockets)
    (hls : grounded (socketNames ls) = sockets.map (·.1)) :
    (Grounded (socketNames ls) ∧ ∃ c w', (listeningOn settings ls).release w = (.ok (), c, w') ∧
      c.loop.closed = true ∧ w'.attempts = w.attempts ∧ Removed w.files w'.files sockets ∧
      w.Proceeds 0 w') ∨
    (∃ before name after, socketNames ls = before ++ name :: after ∧ Path.isAbstract name = true ∧
      ∃ c w', (listeningOn settings ls).release w = (.error .nullCharacter, c, w') ∧
        c.loop.closed = false ∧ c.listeners = ls ∧ c.pidFile = none ∧
        TakenAway before w.files w'.files ∧ w.Proceeds 0 w') := by
  obtain hgrounded | ⟨before, l, after, name, rfl, hbefore, hsocket, habstract⟩ := grounded_or_abstract ls
  · rw [grounded_of_grounded hgrounded] at hls
    exact .inl ⟨hgrounded, release_grounded settings hr hls⟩
  · have hnames : socketNames (before ++ l :: after) = socketNames before ++ name :: socketNames after := by
      simp [socketNames, hsocket]
    rw [hnames, grounded_append, grounded_of_grounded hbefore] at hls
    obtain ⟨first, rest, rfl, hfirst, -⟩ := List.map_eq_append_iff.1 hls.symm
    have hremovable : Removable w.files first := fun s hs => hr s (List.mem_append_left _ hs)
    obtain ⟨c, w', hrelease, hopen, hlisteners, hpid, hremoved, hproceeds⟩ :=
      release_abstract settings after hremovable hfirst.symm hsocket habstract
    exact .inr ⟨_, name, _, hnames, habstract, c, w', hrelease, hopen, hlisteners, hpid,
      hremoved.takenAway hremovable hfirst.symm, hproceeds⟩

end MessageBus.Context
