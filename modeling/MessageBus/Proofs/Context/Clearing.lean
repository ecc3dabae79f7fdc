import MessageBus.Proofs.Context.Furnishing
import MessageBus.Proofs.Context.Removing
import MessageBus.Proofs.Context.ShutDown
/-!
What becomes of the files that a start made. Until the context is shut down nobody touches the file tree but
others. Main statement: unless others rearrange the tree, the first shut down succeeds and takes away what
the start made, and nothing else, or it breaks off over an abstract socket.
-/
namespace MessageBus.Context

/-- Others do more to the file tree than to remove a file. -/
def Operation.rearranges : Operation → Bool
  | .rearrange _ => true
  | _ => false

variable {path : String} {target after : Report.Target} {c c' : Context} {w w₀ w' : World} {f g : Files}
  {op : Operation} {ops : List Operation} {answers : List (Except Failure Unit)}
  {sockets : List (String × Place)} {names : List String}

/-! ### Other hands -/

/-- What can be removed can still be, or is gone, after others removed a file. -/
theorem Removable.byOthers (h : Removable f sockets) (hop : op.rearranges = false) :
    Removable (op.byOthers f) sockets := by
  cases op with
  | remove name =>
    unfold Operation.byOthers
    dsimp only
    split
    · rename_i g hremove
      obtain ⟨p, node, -, hp, hnode, rfl⟩ := Files.remove_ok hremove
      have hfile : f.find? p ≠ some .directory := by simpa [hp] using hnode
      intro s hs
      obtain ⟨hplain, hleads, hfree⟩ := h s hs
      refine ⟨hplain, hleads.keeps (Files.keeps_erase hfile), ?_⟩
      by_cases hsame : s.2 = p
      · rw [hsame, Files.find?_erase f (hsame ▸ hleads.ne_nil)]
        simp
      · rwa [Files.find?_erase_of_ne f hsame]
    · exact h
  | rearrange g => simp [Operation.rearranges] at hop
  | _ => exact h

theorem Removable.byAllOthers (h : Removable f sockets) (hops : ∀ op ∈ ops, op.rearranges = false) :
    Removable (ops.foldl (fun f op => op.byOthers f) f) sockets :=
  List.foldlRecOn (motive := fun g => Removable g sockets) ops _ h
    fun _ hf op hmem => Removable.byOthers hf (hops op hmem)

/-! ### Before the shut down -/

theorem Tended.shut_carryOutAll (h : Tended c) (hshut : c.shutDown = true) (ops : List Operation)
    (w : World) : (Context.carryOutAll ops c w).2.1.shutDown = true := by
  induction ops generalizing c w with
  | nil => exact hshut
  | cons op ops ih =>
    have hbegins : ¬ Begins op c := fun hbegins => by simp [hbegins.1] at hshut
    exact ih (h.carryOut op w) ((h.recorded_carryOut hbegins w).shutDown.trans hshut) _

/-- Until it is shut down a context has the same recorded, and leaves the file tree to others. -/
theorem Tended.unshut_carryOutAll (h : Tended c) (ops : List Operation) (w : World)
    (hlast : (Context.carryOutAll ops c w).2.1.shutDown = false) :
    Recorded c (Context.carryOutAll ops c w).2.1 ∧
      (Context.carryOutAll ops c w).2.2.files = ops.foldl (fun f op => op.byOthers f) w.files := by
  induction ops generalizing c w with
  | nil => exact ⟨.refl c, rfl⟩
  | cons op ops ih =>
    rw [carryOutAll_cons] at hlast ⊢
    have hbegins : ¬ Begins op c := fun hbegins => by
      have hshut := (h.carryOut op w).shut_carryOutAll (h.owes_carryOut hbegins w).1 ops
        (Context.carryOut op c w).2.2
      exact absurd (hshut.symm.trans hlast) (by simp)
    obtain ⟨hrecorded, hfiles⟩ := ih (h.carryOut op w) _ hlast
    obtain ⟨n, htouched⟩ := h.unbegun_carryOut hbegins w
    obtain ⟨more, hworld, -⟩ := htouched.world
    refine ⟨(h.recorded_carryOut hbegins w).trans hrecorded, hfiles.trans ?_⟩
    rw [hworld]
    rfl

theorem Recorded.paths (h : Recorded c c') : c'.paths = c.paths := by
  rw [Context.paths, h.listeners, h.pidFile, Context.paths]

theorem Recorded.address (h : Recorded c c') : c'.address = c.address := by
  rw [Context.address, h.listeners, Context.address]

/-! ### The shut down -/

/-- The first shut down takes away the files of a context, if they can be removed or are gone already, or
it breaks off over an abstract socket. -/
theorem Tended.shutdown_takesAway (h : Tended c) (hfirst : c.shutDown = false)
    (hall : grounded c.paths = sockets.map (·.1)) (hr : Removable w.files sockets)
    (hpid : ∀ name, c.pidFile = some name → Path.isAbstract name = false) :
    (Grounded c.paths ∧ ∃ c' w', c.shutdown w = (.ok (), c', w') ∧ TakenAway c.paths w.files w'.files) ∨
    ∃ before name after, c.paths = before ++ name :: after ∧ Path.isAbstract name = true ∧
      ∃ c' w', c.shutdown w = (.error .nullCharacter, c', w') ∧ c'.paths = c.paths ∧
        TakenAway before w.files w'.files := by
  obtain ⟨c₁, w₁, -, hdriven, -, -, hshutdown⟩ := shutdown_first h hfirst w
  obtain ⟨more, hworld, -⟩ := hdriven.world
  have hfiles : w₁.files = w.files := by
    rw [hworld]
    rfl
  have hrecorded := hdriven.toTouched.recorded
  have hpaths : c₁.paths = c.paths := by
    rw [paths, hrecorded.listeners, hrecorded.pidFile, paths]
  have hremoves := removeFiles_cases (c := c₁) (w := w₁) (hpaths ▸ hall) (hfiles ▸ hr)
    (hrecorded.pidFile ▸ hpid)
  rw [hfiles, hpaths] at hremoves
  obtain ⟨hgrounded, g, hremove, htaken⟩ | ⟨before, name, after, hsplit, habstract, g, hremove, htaken⟩ :=
    hremoves
  · exact .inl ⟨hgrounded, _, _, hshutdown.trans hremove, htaken⟩
  · exact .inr ⟨before, name, after, hsplit, habstract, _, _, hshutdown.trans hremove, hpaths, htaken⟩

/-- A start that ends with a context leaves the target as it was and has the context furnished. Until it is
shut down its address stays, and the file tree is left to others. Unless these rearrange the tree, the first
shut down succeeds, and takes away the sockets and the pid file and nothing else; but with an abstract socket
it breaks off, with the files behind that left where they are and all of them still recorded. -/
theorem start_some_furnished (hstart : start path target w = (.ok (some c, after), w₀)) :
    after = target ∧ Furnished path w c w₀ ∧
    ∀ ops answers c' w', carryOutAll ops c w₀ = (answers, c', w') → c'.shutDown = false →
      c'.address = c.address ∧ w'.files = ops.foldl (fun f op => op.byOthers f) w₀.files ∧
      ((∀ op ∈ ops, op.rearranges = false) →
        (Grounded c.paths → ∃ c'' w'', c'.shutdown w' = (.ok (), c'', w'') ∧
          TakenAway c.paths w'.files w''.files) ∧
        (¬ Grounded c.paths → ∃ before name rest c'' w'', c.paths = before ++ name :: rest ∧
          Path.isAbstract name = true ∧ c'.shutdown w' = (.error .nullCharacter, c'', w'') ∧
          c''.paths = c.paths ∧ TakenAway before w'.files w''.files)) := by
  have hfresh := tended_of_start hstart
  refine ⟨start_target_of_some hstart, furnished_of_start hstart, fun ops answers c' w' hrun hfirst => ?_⟩
  have htended := hfresh.carryOutAll ops w₀
  have hkept := hfresh.unshut_carryOutAll ops w₀
  rw [hrun] at htended hkept
  obtain ⟨hrecorded, hfiles⟩ := hkept hfirst
  refine ⟨hrecorded.address, hfiles, fun hops => ?_⟩
  obtain ⟨w₁, hbuilt, -, hstanding⟩ := built_of_start hstart
  obtain ⟨sockets, hall, hr⟩ := removable_of_standing hstanding
  have hstill : Removable w'.files sockets := hfiles ▸ hr.byAllOthers hops
  have hends := htended.shutdown_takesAway hfirst (hrecorded.paths ▸ hall) hstill
    fun name hname => built_pidFile hbuilt (hrecorded.pidFile ▸ hname)
  rw [hrecorded.paths] at hends
  obtain ⟨hgrounded, hends⟩ | ⟨before, name, rest, hsplit, habstract, c'', w'', hends⟩ := hends
  · exact ⟨fun _ => hends, fun hnot => absurd hgrounded hnot⟩
  · exact ⟨fun hgrounded => absurd hgrounded (not_grounded_of_split hsplit habstract),
      fun _ => ⟨before, name, rest, c'', w'', hsplit, habstract, hends⟩⟩

/-- A connection comes and hangs up, a stop is asked for, and somebody removes a socket. -/
def amongOthers : List Operation :=
  [.retain, .takeIn false ["hello"] .staysOpen .quiet, .run 2, .remove "a.sock", .hangUp 0, .requestStop]

theorem start_some_furnished_others : ∃ c answers c' w' c'' w'',
    start "bus.yaml" .clear furnished =
      (.ok (some c, .clear), (start "bus.yaml" .clear furnished).2) ∧
    Furnished "bus.yaml" furnished c (start "bus.yaml" .clear furnished).2 ∧
    carryOutAll amongOthers c (start "bus.yaml" .clear furnished).2 = (answers, c', w') ∧
    c'.shutDown = false ∧ c'.shutdown w' = (.ok (), c'', w'') ∧
    TakenAway ["a.sock", "b.sock", "bus.pid"] w'.files w''.files := by
  obtain ⟨c, answers, c', w', hstart, hrun, hc⟩ := carryOutAll_furnished amongOthers
    (f := fun c r => (c.paths, r.2.1.shutDown)) (a := (["a.sock", "b.sock", "bus.pid"], false))
    (by decide +kernel)
  simp only [Prod.mk.injEq] at hc
  obtain ⟨hpaths, hfirst⟩ := hc
  have hgrounded : Grounded c.paths := hpaths ▸ by simp [Grounded, Path.isAbstract]
  obtain ⟨-, hfurnished, hlater⟩ := start_some_furnished hstart
  obtain ⟨-, -, hshut⟩ := hlater amongOthers answers c' w' hrun hfirst
  obtain ⟨c'', w'', hshutdown, htaken⟩ := (hshut (by simp [amongOthers, Operation.rearranges])).1 hgrounded
  exact ⟨c, answers, c', w', c'', w'', hstart, hfurnished, hrun, hfirst, hshutdown, hpaths ▸ htaken⟩

/-- A world with one abstract listen address and a pid file. -/
def abstracted : World :=
  { World.empty with
    files := Files.empty.put ["work", "bus.yaml"]
      (.file (Text.Utf8.encode "listen: unix:path=%00abc\npidfile: bus.pid\n".toList)) }

/-- A start with an abstract socket ends with a context, but nothing is at the path of its socket; and the
first shut down fails, with the pid file still there. -/
theorem start_abstracted_owes : ∃ c,
    start "bus.yaml" .clear abstracted = (.ok (some c, .clear), (start "bus.yaml" .clear abstracted).2) ∧
    c.listeners.map (·.socket) = [some "\x00abc"] ∧
    ((start "bus.yaml" .clear abstracted).2.files.look (.ofText "\x00abc")).isOk = false ∧
    (c.shutdown (start "bus.yaml" .clear abstracted).2).1.isOk = false ∧
    ((c.shutdown (start "bus.yaml" .clear abstracted).2).2.2.files.look (.ofText "bus.pid")).isOk = true := by
  have hcomputed : ((start "bus.yaml" .clear abstracted).1.toOption.bind (·.1)).map (fun c =>
      (c.listeners.map (·.socket), (c.shutdown (start "bus.yaml" .clear abstracted).2).1.isOk,
        ((c.shutdown (start "bus.yaml" .clear abstracted).2).2.2.files.look (.ofText "bus.pid")).isOk)) =
      some ([some "\x00abc"], false, true) := by decide +kernel
  obtain ⟨c, hc, hends⟩ := Option.map_eq_some_iff.1 hcomputed
  simp only [Prod.mk.injEq] at hends
  exact ⟨c, started_of_some hc, hends.1, by decide +kernel, hends.2.1, hends.2.2⟩

end MessageBus.Context
