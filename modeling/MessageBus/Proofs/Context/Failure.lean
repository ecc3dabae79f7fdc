import MessageBus.Proofs.Context.Release
/-!
A start that ends without a context. Main statement: it reports the first step that did not succeed,
tries no address after it, and takes away again what was set up before it.
-/
namespace MessageBus.Context
variable {path : String} {target after : Report.Target} {w w' w₁ : World} {out : StepEnd}
  {addresses : List Address} {ls : List Listener} {made : Option Context} {settings : Settings}
  {sockets : List (String × Place)} {f g h : Files}

theorem loadEnvironment_kept (w : World) :
    (loadEnvironment w).2.files = w.files ∧ (loadEnvironment w).2.attempts = w.attempts ∧
      (loadEnvironment w).2.platform = w.platform := by
  unfold loadEnvironment
  split
  · exact ⟨rfl, rfl, rfl⟩
  · split <;> exact ⟨rfl, rfl, rfl⟩

theorem loaded_kept (h : Loaded path w settings w₁) :
    w₁.files = w.files ∧ w₁.attempts = w.attempts ∧ w₁.platform = w.platform := by
  obtain ⟨w₀, entries, henvironment, -, -, rfl⟩ := h
  have hkept := loadEnvironment_kept w
  rwa [henvironment] at hkept

theorem bound_kept {texts : List String} {w₂ : World} (hload : Loaded path w settings w₁)
    (hbound : Bound texts w₁ addresses ls w₂) :
    w₂.attempts = w.attempts ++ addresses ∧ w₂.platform = w.platform ∧
    ∃ sockets, grounded (socketNames ls) = sockets.map (·.1) ∧
      Files.Placed w.files w₂.files w.platform.sockets.node sockets := by
  obtain ⟨hfiles, hattempts, hplatform⟩ := loaded_kept hload
  have hsame := (bound_platform hbound).trans hplatform
  have hnone : Files.Placed w.files w₁.files w₁.platform.sockets.node [] := hfiles ▸ .refl w₁.files _
  have hsockets := bound_sockets hbound hnone
  rw [hsame] at hsockets
  exact ⟨hattempts ▸ bound_attempts hbound, hsame, hsockets⟩

/-! ### What a step leaves that fails -/

/-- The pid file was cut short: the beginning of its content stands where its path leads. -/
structure CutShort (platform : Platform) (name : String) (g : Files) (p : Place) : Prop where
  leads : g.Leads name p
  stands : ∃ room e, platform.shortage = some (room, e) ∧ room < (pidContent platform.process).length ∧
    g.find? p = some (.file ((pidContent platform.process).take room))

/-- A pid file that was cut short stays one where nothing happens to it. -/
theorem CutShort.keeps {platform : Platform} {name : String} {p : Place} (h : CutShort platform name f p)
    (hkeeps : f.Keeps g) (hsame : g.find? p = f.find? p) : CutShort platform name g p := by
  obtain ⟨room, e, hshortage, hroom, hp⟩ := h.stands
  exact ⟨h.leads.keeps hkeeps, room, e, hshortage, hroom, hsame.trans hp⟩

/-- What a pid file leaves that could not be written: nothing, directories above it, or its beginning. -/
theorem makePidFile_error {platform : Platform} {name : String} {failure : Failure}
    (hm : makePidFile platform name f = (.error failure, g)) :
    (failure = .nullCharacter ∧ Path.hasNull name = true ∧ g = f) ∨
    ∃ e h, failure = .system e ∧ f.Grows h (Path.ofText name).parent ∧
      (g = h ∨ ∃ p content, CutShort platform name g p ∧ h.find? p ≠ some .directory ∧
        g = h.put p (.file content)) := by
  unfold makePidFile at hm
  split at hm
  · rename_i hnull
    cases hm
    exact .inl ⟨rfl, hnull, rfl⟩
  · dsimp only at hm
    split at hm
    · rename_i e files hmade
      cases hm
      exact .inr ⟨e, _, rfl, Files.makeDirectories_grows hmade, .inl rfl⟩
    · rename_i files hmade
      have hgrows := Files.makeDirectories_grows hmade
      split at hm
      · rename_i e hwrite
        cases hm
        exact .inr ⟨e, _, rfl, hgrows, .inl rfl⟩
      · rename_i written hwrite
        unfold Platform.fit at hm hwrite
        cases hshortage : platform.shortage with
        | none =>
          rw [hshortage] at hm
          cases hm
        | some shortage =>
          obtain ⟨room, e⟩ := shortage
          rw [hshortage] at hm hwrite
          by_cases hroom : room < (pidContent platform.process).length
          · simp only [hroom, if_true] at hm hwrite
            cases hm
            obtain ⟨p, hleads, hp, -, rfl⟩ := Files.write_ok hwrite
            exact .inr ⟨e, files, rfl, hgrows, .inr ⟨p, _, ⟨hleads.keeps (Files.keeps_put _ hp), room, e,
              hshortage, hroom, Files.find?_put _ _ hleads.ne_nil⟩, hp, rfl⟩⟩
          · simp only [hroom, if_false] at hm
            cases hm

/-- What the step itself at which a start stops did to the tree: nothing, or it removed a socket that was left
at a path where listening failed, or it made directories above a pid file and the beginning of that. -/
inductive Residue (w : World) (out : StepEnd) (f : Files) : Files → Prop
  | nothing : Residue w out f f
  | swept {text socket : String} {e : SystemError} {a : Address} {w₂ : World} {g : Files}
      (hout : out = .ok (.listening text e)) (hparse : Address.parse text = .ok a)
      (hsocket : (Listener.socketPath a w₂).1 = socket) (hswept : f.Swept socket g) : Residue w out f g
  | pidFile {name : String} {e : SystemError} {h : Files} (hout : out = .ok (.pidFile name e))
      (hgrows : f.Grows h (Path.ofText name).parent) : Residue w out f h
  | cutShort {name : String} {e : SystemError} {h : Files} {p : Place} {content : List UInt8}
      (hout : out = .ok (.pidFile name e)) (hgrows : f.Grows h (Path.ofText name).parent)
      (hcut : CutShort w.platform name (h.put p (.file content)) p) (hp : h.find? p ≠ some .directory) :
      Residue w out f (h.put p (.file content))

theorem Residue.keeps (hr : Residue w out f g) : f.Keeps g := by
  cases hr with
  | nothing => exact .refl f
  | swept _ _ _ hswept => exact hswept.keeps
  | pidFile _ hgrows => exact hgrows.keeps
  | cutShort _ hgrows _ hp => exact hgrows.keeps.trans (Files.keeps_put _ hp)

/-- A step that fails without a report did nothing. -/
theorem Residue.of_failure {failure : Failure} (hr : Residue w (.error failure) f g) : g = f := by
  cases hr with
  | nothing => rfl
  | swept hout | pidFile hout | cutShort hout => cases hout

/-- A place of the tree behind the failing step: it is as it was, or a socket was removed from it, or it has
a new directory above the pid file, or the beginning of the pid file. -/
theorem Residue.find? (hr : Residue w out f g) (p : Place) :
    g.find? p = f.find? p ∨
    (f.find? p = some .socket ∧ g.find? p = none ∧ ∃ text e a w₂, out = .ok (.listening text e) ∧
      Address.parse text = .ok a ∧ f.Leads (Listener.socketPath a w₂).1 p) ∨
    (f.find? p = none ∧ g.find? p = some .directory ∧
      ∃ name e, out = .ok (.pidFile name e) ∧ g.Above (Path.ofText name).parent p) ∨
    (f.find? p ≠ some .directory ∧ ∃ name e, out = .ok (.pidFile name e) ∧ CutShort w.platform name g p) := by
  cases hr with
  | nothing => exact .inl rfl
  | @swept text socket e a w₂ _ hout hparse hsocket hswept =>
    obtain hsame | ⟨hwas, hgone, hleads⟩ := hswept.find? p
    · exact .inl hsame
    · exact .inr (.inl ⟨hwas, hgone, text, e, a, w₂, hout, hparse, hsocket ▸ hleads⟩)
  | @pidFile name e _ hout hgrows =>
    obtain hsame | ⟨hnone, hnew, habove⟩ := hgrows.find? p
    · exact .inl hsame
    · exact .inr (.inr (.inl ⟨hnone, hnew, name, e, hout, habove⟩))
  | @cutShort name e h q content hout hgrows hcut hq =>
    by_cases hpq : p = q
    · subst hpq
      refine .inr (.inr (.inr ⟨fun hwas => hq (hgrows.stays p _ hwas), name, e, hout, hcut⟩))
    · have hlater : (h.put q (.file content)).find? p = h.find? p := Files.find?_put_of_ne h _ hpq
      obtain hsame | ⟨hnone, hnew, habove⟩ := hgrows.find? p
      · exact .inl (hlater.trans hsame)
      · exact .inr (.inr (.inl ⟨hnone, hlater.trans hnew, name, e, hout,
          habove.keeps (Files.keeps_put _ hq)⟩))

/-- What a start left in the tree up to the point where it stops: its sockets, and what the failing step
did. -/
structure Left (w : World) (out : StepEnd) (ls : List Listener) (f : Files)
    (sockets : List (String × Place)) (w₁ : World) : Prop where
  bound : grounded (socketNames ls) = sockets.map (·.1)
  placed : Files.Placed w.files f w.platform.sockets.node sockets
  residue : Residue w out f w₁.files

theorem stops_left (h : Stops path w out addresses ls made w₁) :
    w₁.attempts = w.attempts ++ addresses ∧ (∃ f sockets, Left w out ls f sockets w₁) ∧
    ((made = none ∧ ls = []) ∨ ∃ settings, made = some (listeningOn settings ls)) := by
  have hkept := loadEnvironment_kept w
  cases h with
  | environment henvironment | reading henvironment | settings henvironment =>
    rw [henvironment] at hkept
    exact ⟨by simpa using hkept.2.1, ⟨w.files, [], rfl, .refl _ _, hkept.1 ▸ .nothing⟩, .inl ⟨rfl, rfl⟩⟩
  | address hload _ hbound =>
    obtain ⟨hattempts, -, sockets, hls, hsockets⟩ := bound_kept hload hbound
    exact ⟨hattempts, ⟨_, sockets, hls, hsockets, .nothing⟩, .inr ⟨_, rfl⟩⟩
  | listening hload _ hbound hparse hbind =>
    obtain ⟨hattempts, -, sockets, hls, hsockets⟩ := bound_kept hload hbound
    obtain ⟨htried, hfiles⟩ := Listener.bind_error_kept hbind
    refine ⟨?_, ⟨_, sockets, hls, hsockets, ?_⟩, .inr ⟨_, rfl⟩⟩
    · rw [htried, hattempts, List.append_assoc]
    · obtain hsame | ⟨e, rfl, hswept⟩ := hfiles
      · exact hsame ▸ .nothing
      · exact .swept rfl hparse rfl hswept
  | pidFile hload hbound _ hmake =>
    obtain ⟨hattempts, hplatform, sockets, hls, hsockets⟩ := bound_kept hload hbound
    refine ⟨hattempts, ⟨_, sockets, hls, hsockets, ?_⟩, .inr ⟨_, rfl⟩⟩
    rw [hplatform] at hmake
    obtain ⟨-, -, rfl⟩ | ⟨e, h, rfl, hgrows, rfl | ⟨p, content, hcut, hp, rfl⟩⟩ := makePidFile_error hmake
    · exact .nothing
    · exact .pidFile rfl hgrows
    · exact .cutShort rfl hgrows hcut hp

/-- The tree after a start that was taken down again. The sockets are gone, there is no new file, and what
stood elsewhere is as it was; only directories above the pid file can be new, and a socket can be gone that
was left at a path where listening failed. A pid file that was cut short is as writing left it. -/
structure CleanedUp (w : World) (obstacle : Obstacle) (ls : List Listener) (g : Files) : Prop where
  keeps : w.files.Keeps g
  gone : ∀ l ∈ ls, ∀ socket, l.socket = some socket → g.look (.ofText socket) = .error .notFound
  new : ∀ p node, g.find? p = some node → w.files.find? p = some node ∨
    (node = .directory ∧ w.files.find? p = none ∧
      ∃ name e, obstacle = .pidFile name e ∧ g.Above (Path.ofText name).parent p) ∨
    ∃ name e, obstacle = .pidFile name e ∧ CutShort w.platform name g p
  stays : ∀ p node, w.files.find? p = some node → g.find? p = some node ∨
    (∃ l ∈ ls, ∃ socket, l.socket = some socket ∧ g.Leads socket p) ∨
    (node = .socket ∧ ∃ text e a w₂, obstacle = .listening text e ∧ Address.parse text = .ok a ∧
      g.Leads (Listener.socketPath a w₂).1 p) ∨
    ∃ name e, obstacle = .pidFile name e ∧ CutShort w.platform name g p

variable {obstacle : Obstacle}

theorem Left.removable (hl : Left w out ls f sockets w₁) : Removable w₁.files sockets := by
  intro s hs
  refine ⟨hl.placed.plain s hs, (hl.placed.leads s hs).keeps hl.residue.keeps, fun hdirectory => ?_⟩
  have hstands := hl.placed.stands s hs
  have hnode := w.platform.sockets.node_ne_directory
  obtain hsame | ⟨-, hgone, -⟩ | ⟨hnone, -⟩ | ⟨-, name, e, -, hcut⟩ := hl.residue.find? s.2
  · rw [hsame, hstands] at hdirectory
    exact hnode (Option.some.inj hdirectory)
  · simp [hgone] at hdirectory
  · simp [hnone] at hstands
  · obtain ⟨room, e', -, -, hfile⟩ := hcut.stands
    simp [hfile] at hdirectory

theorem Left.cleanedUp (hl : Left w (.ok obstacle) ls f sockets w₁) (hgrounded : Grounded (socketNames ls))
    (hr : Removed w₁.files g sockets) : CleanedUp w obstacle ls g := by
  have hbound : socketNames ls = sockets.map (·.1) := by
    rw [← hl.bound, grounded_of_grounded hgrounded]
  have hkeeps := hr.keeps hl.removable
  have hplace : ∀ p node, g.find? p = some node → p ∉ sockets.map (·.2) := by
    intro p node hp hmem
    obtain ⟨s, hs, rfl⟩ := List.mem_map.1 hmem
    simp [hr.gone s hs] at hp
  constructor
  · exact (hl.placed.keeps.trans hl.residue.keeps).trans hkeeps
  · intro l hmem socket hsocket
    have hpath : socket ∈ sockets.map (·.1) := hbound ▸ List.mem_filterMap.2 ⟨l, hmem, hsocket⟩
    exact removed_gone hl.removable hr hpath
  · intro p node hp
    have hmem := hplace p _ hp
    have hbefore := hl.placed.other p hmem
    rw [hr.other p hmem] at hp
    obtain hsame | ⟨-, hgone, -⟩ | ⟨hnone, hnew, name, e, hobstacle, habove⟩ |
      ⟨-, name, e, hobstacle, hshort⟩ := hl.residue.find? p
    · exact .inl (by rw [← hbefore, ← hsame, hp])
    · simp [hgone] at hp
    · refine .inr (.inl ⟨?_, hbefore ▸ hnone, name, e, Except.ok.inj hobstacle, habove.keeps hkeeps⟩)
      exact Option.some.inj (hp.symm.trans hnew)
    · exact .inr (.inr ⟨name, e, Except.ok.inj hobstacle, hshort.keeps hkeeps (hr.other p hmem)⟩)
  · intro p node hp
    by_cases hmem : p ∈ sockets.map (·.2)
    · obtain ⟨s, hs, rfl⟩ := List.mem_map.1 hmem
      have hpath : s.1 ∈ socketNames ls := hbound ▸ List.mem_map_of_mem hs
      obtain ⟨l, hl', hsocket⟩ := List.mem_filterMap.1 hpath
      exact .inr (.inl ⟨l, hl', s.1, hsocket, (hl.removable s hs).2.1.keeps hkeeps⟩)
    · rw [← hl.placed.other p hmem] at hp
      rw [hr.other p hmem]
      obtain hsame | ⟨hwas, -, text, e, a, w₂, hobstacle, hparse, hleads⟩ | ⟨hnone, -⟩ |
        ⟨-, name, e, hobstacle, hshort⟩ := hl.residue.find? p
      · exact .inl (hsame.trans hp)
      · refine .inr (.inr (.inl ⟨?_, text, e, a, w₂, Except.ok.inj hobstacle, hparse,
          (hleads.keeps hl.residue.keeps).keeps hkeeps⟩))
        exact Option.some.inj (hp.symm.trans hwas)
      · simp [hnone] at hp
      · exact .inr (.inr (.inr ⟨name, e, Except.ok.inj hobstacle, hshort.keeps hkeeps (hr.other p hmem)⟩))

/-- A start that stops at an obstacle ends without a context, and cleans up; or taking it down breaks off over
an abstract socket. -/
theorem attempt_of_obstacle (ht : target.Open)
    (h : Stops path w (.ok obstacle) addresses ls made w₁) :
    (Grounded (socketNames ls) ∧ ∃ made' w', attempt path target w =
        (.ok (none, target.taking (obstacle.report path)), made', w') ∧
      w'.attempts = w.attempts ++ addresses ∧ (∀ c, made' = some c → c.loop.closed = true) ∧
      CleanedUp w obstacle ls w'.files ∧ w₁.Proceeds 0 w') ∨
    ∃ before name after c w', socketNames ls = before ++ name :: after ∧ Path.isAbstract name = true ∧
      attempt path target w = (.error .nullCharacter, some c, w') ∧ c.loop.closed = false ∧
      c.listeners = ls ∧ c.pidFile = none ∧ TakenAway before w₁.files w'.files ∧ w₁.Proceeds 0 w' := by
  obtain ⟨hattempts, ⟨f, sockets, hleft⟩, ⟨rfl, rfl⟩ | ⟨settings, rfl⟩⟩ := stops_left h
  · have hnil : sockets = [] := List.map_eq_nil_iff.1 hleft.bound.symm
    subst hnil
    have hnone : Grounded (socketNames []) := by simp [Grounded, socketNames]
    have hremoved : Removed w₁.files w₁.files [] := ⟨rfl, by simp, fun _ _ => rfl⟩
    exact .inl ⟨hnone, none, w₁, attempt_of_stops ht h, hattempts, by simp,
      hleft.cleanedUp hnone hremoved, .refl w₁⟩
  · obtain ⟨hgrounded, c, w', hrelease, hclosed, htried, hremoved, hproceeds⟩ |
      ⟨before, name, after, hnames, habstract, c, w', hrelease, hopen, hlisteners, hpid, htaken,
        hproceeds⟩ := release_listeningOn settings hleft.removable hleft.bound
    · refine .inl ⟨hgrounded, some c, w', ?_, htried.trans hattempts, ?_, hleft.cleanedUp hgrounded hremoved,
        hproceeds⟩
      · rw [attempt_of_stops ht h, takenDown, hrelease]
      · rintro c' ⟨rfl⟩
        exact hclosed
    · refine .inr ⟨before, name, after, c, w', hnames, habstract, ?_, hopen, hlisteners, hpid, htaken,
        hproceeds⟩
      rw [attempt_of_stops ht h, takenDown, hrelease]

theorem report_owned (path : String) (obstacle : Obstacle) : (obstacle.report path).owned = true := by
  cases obstacle <;> rfl

/-- An attempt without a context stopped at an obstacle, and was taken down again. -/
theorem stops_of_attempt_none {made' : Option Context} (ht : target.Open)
    (h : attempt path target w = (.ok (none, after), made', w')) :
    ∃ obstacle addresses ls made w₁, Stops path w (.ok obstacle) addresses ls made w₁ ∧
      Grounded (socketNames ls) ∧ after = target.taking (obstacle.report path) ∧
      w'.attempts = w.attempts ++ addresses ∧ (∀ c, made' = some c → c.loop.closed = true) ∧
      CleanedUp w obstacle ls w'.files ∧ w₁.Proceeds 0 w' := by
  obtain ⟨c, w₁, hbuilt⟩ | ⟨out, addresses, ls, made, w₁, hstops⟩ := built_or_stops path w
  · have hattempt := @attempt_of_built _ target _ _ _ hbuilt
    rw [h] at hattempt
    split at hattempt <;> cases hattempt
  · cases out with
    | error failure =>
      have hattempt := attempt_of_stops ht hstops
      rw [h] at hattempt
      cases hattempt
    | ok obstacle =>
      obtain ⟨hgrounded, _, _, hattempt, htried, hclosed, hclean, hproceeds⟩ |
        ⟨_, _, _, _, _, -, -, hattempt, -⟩ := attempt_of_obstacle ht hstops
      · rw [h] at hattempt
        cases hattempt
        exact ⟨obstacle, addresses, ls, made, w₁, hstops, hgrounded, rfl, htried, hclosed, hclean,
          hproceeds⟩
      · rw [h] at hattempt
        cases hattempt

/-- A world in which the only listen address is refused. -/
def refusing : World :=
  { World.empty with
    files := Files.empty.put ["work", "bus.yaml"] (.file [])
    environment := ⟨[(Settings.listenVariable, "unix:path=bus.sock")]⟩
    listening := [some (.numbered 98 "Address already in use")] }

/-- The world in which the only listen address is refused, with a socket that was left at its path. -/
def refusingOccupied : World :=
  { refusing with files := refusing.files.put ["work", "bus.sock"] .socket }

end MessageBus.Context
