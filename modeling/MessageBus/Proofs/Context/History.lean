import MessageBus.Proofs.Context.Driving
import MessageBus.Proofs.Context.Making
/-!
The history of a context: what is done with it and what happens around it, one thing after the other, from
the start that made it. Main statement: its loop is in order all the time, and it is not closed before the
context is shut down.
-/
namespace MessageBus.Context

/-- What is done with a context, or happens around it. Runs are given the rounds that they may take. -/
inductive Operation
  | retain
  | release
  | shutdown
  /-- A connection comes in. -/
  | takeIn (deferred : Bool) (chunks : List String) (ending : StreamEnd) (farewell : Farewell)
  /-- A connection comes in, and the loop goes round for it: until it was served if that takes no waiting. -/
  | accept (deferred : Bool) (chunks : List String) (ending : StreamEnd) (farewell : Farewell)
  | receive (connection : Nat) (chunk : String)
  | lose (connection : Nat) (ending : StreamEnd)
  | hangUp (connection : Nat)
  | run (limit : Nat)
  | pause
  | requestStop
  /-- A callback with a wish is queued. -/
  | wish (wish : Wish)
  /-- Somebody removes a file. -/
  | remove (path : String)
  /-- Somebody changes the file tree. -/
  | rearrange (files : Files)

def carryOut (op : Operation) (c : Context) (w : World) : Except Failure Unit × Context × World :=
  match op with
  | .retain => (.ok (), c.retain, w)
  | .release => c.release w
  | .shutdown => c.shutdown w
  | .takeIn deferred chunks ending farewell => c.takeIn (.new deferred chunks ending farewell) w
  | .accept deferred chunks ending farewell =>
    if deferred = true ∨ ending = .staysOpen then c.acceptOpen (.new deferred chunks ending farewell) w
    else c.accept (.new deferred chunks ending farewell) w
  | .receive i chunk => (.ok (), c.receive i chunk, w)
  | .lose i ending => (.ok (), c.lose i ending, w)
  | .hangUp i => c.hangUp i w
  | .run limit =>
    let (ending, c, w) := c.run limit w
    (ending.map fun _ => (), c, w)
  | .pause => c.pause w
  | .requestStop => (.ok (), { c with loop := c.loop.requestStop }, w)
  | .wish wish =>
    match c.loop.queue (.wish wish) with
    | .ok l => (.ok (), { c with loop := l }, w)
    | .error fault => (.error (.loop fault), c, w)
  | .remove path =>
    match w.files.remove path with
    | .ok files => (.ok (), c, { w with files := files })
    | .error e => (.error (.system e), c, w)
  | .rearrange files => (.ok (), c, { w with files := files })

/-- Carries out operations in order, whatever they answer. -/
def carryOutAll : List Operation → Context → World → List (Except Failure Unit) × Context × World
  | [], c, w => ([], c, w)
  | op :: ops, c, w =>
    let (answer, c, w) := carryOut op c w
    let (answers, c, w) := carryOutAll ops c w
    (answer :: answers, c, w)

/-- What is logged first as a context is shut down. -/
def shuttingDown : Log.Record := ⟨.info, part, "Shutting down message bus"⟩

/-- A context between two operations: its loop is in order, and open unless the context is shut down. -/
structure Tended (c : Context) : Prop extends Orderly c where
  shut : c.loop.closed = true → c.shutDown = true
  spared : Loop.Spared c.loop.tasks

variable {c c' c₁ : Context} {w w' w₁ : World} {answers : List (Except Failure Unit)}
  {path : String} {target after : Report.Target}

theorem carryOutAll_cons (op : Operation) (ops : List Operation) (c : Context) (w : World) :
    carryOutAll (op :: ops) c w =
      ((carryOut op c w).1 :: (carryOutAll ops (carryOut op c w).2.1 (carryOut op c w).2.2).1,
        (carryOutAll ops (carryOut op c w).2.1 (carryOut op c w).2.2).2) := rfl

/-- The references have nothing to do with it. -/
theorem Tended.withReferences (h : Tended c) (n : Nat) : Tended { c with references := n } :=
  ⟨h.toOrderly.of_loop rfl rfl, h.shut, h.spared⟩

/-! ### Shutting down -/

theorem removePidFile_kept (c : Context) (w : World) :
    ∃ pidFile files, (c.removePidFile w).2 = ({ c with pidFile := pidFile }, { w with files := files }) := by
  unfold removePidFile
  split
  · exact ⟨_, _, rfl⟩
  · split <;> exact ⟨_, _, rfl⟩

/-- Removing its files changes nothing of a context but that it has them. -/
theorem removeFiles_kept (c : Context) (w : World) :
    ∃ listeners pidFile files, (c.removeFiles w).2 =
      ({ c with listeners := listeners, pidFile := pidFile }, { w with files := files }) := by
  unfold removeFiles
  split
  · exact ⟨_, _, _, rfl⟩
  · rename_i files _
    obtain ⟨pidFile, files', hkept⟩ :=
      removePidFile_kept { c with listeners := [] } { w with files := files }
    exact ⟨_, pidFile, files', hkept⟩

theorem shutdown_eq (hfirst : c.shutDown = false) (w : World) :
    c.shutdown w =
      match complete (.job .closeAll) { c with shutDown := true } (w.record shuttingDown) with
      | (.error f, c, w) => (.error f, c, w)
      | (.ok (), c, w) => c.removeFiles w := by
  rw [shutdown, hfirst]
  rfl

/-- The first time a context is shut down all its connections are hung up, and then its files are removed. -/
theorem shutdown_first (h : Tended c) (hfirst : c.shutDown = false) (w : World) :
    ∃ c₁ w₁, complete (.job .closeAll) { c with shutDown := true } (w.record shuttingDown) =
        (.ok (), c₁, w₁) ∧
      Driven { c with shutDown := true } (w.record shuttingDown) c₁ w₁ ∧ Orderly c₁ ∧
      c₁.loop.closed = false ∧ c.shutdown w = c₁.removeFiles w₁ := by
  have hopen : c.loop.closed = false := by
    cases hclosed : c.loop.closed with
    | false => rfl
    | true => exact absurd (hfirst.symm.trans (h.shut hclosed)) (by simp)
  have hdriven := complete_driven (.job .closeAll) { c with shutDown := true } (w.record shuttingDown)
  have horderly : Orderly { c with shutDown := true } := h.toOrderly.of_loop rfl rfl
  have hafter := horderly.closeAll (w.record shuttingDown)
  obtain ⟨n, hresting⟩ := h.resting hopen
  have hresult := (resting_closeAll (c := { c with shutDown := true }) hresting
    (w.record shuttingDown)).1
  have hok : (complete (.job .closeAll) { c with shutDown := true } (w.record shuttingDown)).1 =
      .ok () := by simp [complete, hresult]
  rw [shutdown_eq hfirst]
  generalize complete (.job .closeAll) { c with shutDown := true } (w.record shuttingDown) = completed
    at hdriven hafter hok ⊢
  obtain ⟨result, c₁, w₁⟩ := completed
  obtain rfl : result = .ok () := hok
  exact ⟨c₁, w₁, rfl, hdriven, hafter, hdriven.closed.trans hopen, rfl⟩

theorem Tended.shutdown (h : Tended c) (w : World) :
    Tended (c.shutdown w).2.1 ∧ (c.shutdown w).2.1.shutDown = true ∧
      (c.shutdown w).2.1.references = c.references ∧
      (c.shutdown w).2.1.loop.closed = c.loop.closed := by
  cases hfirst : c.shutDown with
  | true =>
    rw [shutdown_of_shutDown hfirst]
    exact ⟨h, hfirst, rfl, rfl⟩
  | false =>
    obtain ⟨c₁, w₁, -, hdriven, horderly, -, hshutdown⟩ := shutdown_first h hfirst w
    obtain ⟨listeners, pidFile, files, hkept⟩ := removeFiles_kept c₁ w₁
    have hclosed := hdriven.closed
    have hspared := hdriven.spared h.spared
    obtain ⟨l, connections, wishes, rfl⟩ := hdriven.context
    rw [hshutdown, hkept]
    exact ⟨⟨horderly.of_loop rfl rfl, fun _ => rfl, hspared⟩, rfl, rfl, hclosed⟩

/-! ### Releasing -/

theorem release_last (h : c.references = 1) (w : World) :
    c.release w =
      match ({ c with references := 0 } : Context).shutdown w with
      | (.error f, c, w) => (.error f, c, w)
      | (.ok (), c, w) => c.closeLoop w := by
  rw [release, h]
  rfl

/-- All that a release can be: it is refused, or not the last one, or the last one. -/
theorem release_cases (c : Context) (w : World) :
    (c.references = 0 ∧ c.release w = (.error .overReleased, c, w)) ∨
    (∃ n, c.references = n + 2 ∧ c.release w = (.ok (), { c with references := n + 1 }, w)) ∨
    c.references = 1 := by
  match hreferences : c.references with
  | 0 => exact .inl ⟨rfl, release_of_no_references hreferences w⟩
  | 1 => exact .inr (.inr rfl)
  | n + 2 => exact .inr (.inl ⟨n, rfl, by simp [release, hreferences]⟩)

/-- The last reference is given back: if that succeeds, the loop is closed with its tasks over. -/
theorem Tended.release_last (h : Tended c) (hlast : c.references = 1) (w : World) :
    Tended (c.release w).2.1 ∧ (c.release w).2.1.shutDown = true ∧
      (c.release w).2.1.references = 0 ∧
      ((c.release w).1 = .ok () →
        (c.release w).2.1.loop.closed = true ∧ (c.release w).2.1.loop.Finished) := by
  obtain ⟨htended, hshut, hreferences, -⟩ := (h.withReferences 0).shutdown w
  rw [Context.release_last hlast]
  generalize ({ c with references := 0 } : Context).shutdown w = result at htended hshut hreferences ⊢
  obtain ⟨result, c₁, w₁⟩ := result
  cases result with
  | error failure => exact ⟨htended, hshut, hreferences, by simp⟩
  | ok done =>
    obtain ⟨horderly, hspared, hover⟩ := htended.toOrderly.closeLoop htended.spared w₁
    obtain ⟨l, connections, wishes, hkept⟩ := (closeLoop_touched c₁ w₁).context
    dsimp only at hshut hreferences ⊢
    refine ⟨⟨horderly, fun _ => ?_, hspared⟩, ?_, ?_, hover⟩ <;> rw [hkept]
    · exact hshut
    · exact hshut
    · exact hreferences

theorem Tended.release (h : Tended c) (w : World) : Tended (c.release w).2.1 := by
  obtain ⟨-, hrefused⟩ | ⟨n, -, hmore⟩ | hlast := release_cases c w
  · rwa [hrefused]
  · rw [hmore]
    exact h.withReferences (n + 1)
  · exact (h.release_last hlast w).1

/-! ### One operation after the other -/

/-- What drives the loop leaves it as open as it was. -/
theorem Tended.driven (h : Tended c) (horderly : Orderly c') (hdriven : Driven c w c' w') : Tended c' := by
  refine ⟨horderly, fun hclosed => ?_, hdriven.spared h.spared⟩
  have hshut := h.shut (hdriven.closed.symm.trans hclosed)
  obtain ⟨l, connections, wishes, rfl⟩ := hdriven.context
  exact hshut

/-- A callback is queued. -/
theorem Orderly.queue (h : Orderly c) (callback : Traffic.Callback) (hopen : c.loop.closed = false) :
    Orderly { c with loop := c.loop.push (.call callback) } where
  manned := h.manned
  resting := by
    intro _
    obtain ⟨n, hresting⟩ := h.resting hopen
    exact ⟨n, { hresting with toSound := hresting.toSound.push rfl (by simp) }⟩
  finished := fun hclosed => absurd (hopen.symm.trans hclosed) (by simp)

/-- The operation is about the references or shuts the context down. -/
def Operation.settles : Operation → Bool
  | .retain | .release | .shutdown => true
  | _ => false

/-- The operation changes the file tree by other hands. -/
def Operation.isForeign : Operation → Bool
  | .remove _ | .rearrange _ => true
  | _ => false

/-- What is done to the file tree by other hands. -/
def Operation.byOthers (op : Operation) (f : Files) : Files :=
  match op with
  | .remove path =>
    match f.remove path with
    | .ok g => g
    | .error _ => f
  | .rearrange g => g
  | _ => f

/-- All other operations drive the loop, and leave it in order. -/
theorem Orderly.carryOut (h : Orderly c) {op : Operation} (hsettles : op.settles = false)
    (hforeign : op.isForeign = false) (w : World) :
    Orderly (Context.carryOut op c w).2.1 ∧
      Driven c w (Context.carryOut op c w).2.1 (Context.carryOut op c w).2.2 := by
  cases op with
  | retain | release | shutdown => simp [Operation.settles] at hsettles
  | remove | rearrange => simp [Operation.isForeign] at hforeign
  | takeIn deferred chunks ending farewell =>
    exact ⟨h.takeIn deferred chunks ending farewell w, takeIn_driven _ c w⟩
  | accept deferred chunks ending farewell =>
    by_cases hwaits : deferred = true ∨ ending = .staysOpen
    · rw [Context.carryOut, if_pos hwaits]
      exact ⟨h.acceptOpen deferred chunks ending farewell w, acceptOpen_driven _ c w⟩
    · obtain ⟨hprompt, hends⟩ := not_or.1 hwaits
      obtain rfl : deferred = false := by simpa using hprompt
      rw [Context.carryOut, if_neg hwaits]
      exact ⟨h.accept chunks hends farewell w, accept_driven _ c w⟩
  | receive i chunk => exact ⟨h.meet i fun _ => rfl, meet_driven i _ c w⟩
  | lose i ending => exact ⟨h.meet i fun _ => rfl, meet_driven i _ c w⟩
  | hangUp i =>
    have hmet : Orderly (c.meet i fun x => { x with hungUp := true }) := h.meet i fun _ => rfl
    exact ⟨hmet.pauses 3 w, hangUp_driven i c w⟩
  | run limit => exact ⟨h.run limit w, run_driven limit c w⟩
  | pause => exact ⟨h.pause w, pause_driven c w⟩
  | requestStop =>
    exact ⟨h.request .stop, driven_of_loop w c.connections (Loop.ran_requestStop c.loop).closed
      fun hspared => hspared.serveRequest .stop⟩
  | wish wish =>
    cases hclosed : c.loop.closed with
    | true => simpa [Context.carryOut, Loop.queue, hclosed] using ⟨h, Driven.refl c w⟩
    | false =>
      have hqueued := h.queue (.wish wish) hclosed
      simpa [Context.carryOut, Loop.queue, hclosed] using
        ⟨hqueued, driven_of_loop (c := c) (l := c.loop.push (.call (.wish wish))) w c.connections rfl id⟩

theorem byOthers_of_not_foreign {op : Operation} (h : op.isForeign = false) (f : Files) :
    op.byOthers f = f := by
  cases op <;> first | rfl | simp [Operation.isForeign] at h

theorem carryOut_foreign {op : Operation} (h : op.isForeign = true) (c : Context) (w : World) :
    (carryOut op c w).2 = (c, { w with files := op.byOthers w.files }) := by
  cases op with
  | remove path =>
    unfold carryOut Operation.byOthers
    dsimp only
    cases w.files.remove path <;> rfl
  | rearrange files => rfl
  | _ => simp [Operation.isForeign] at h

/-- What settles nothing drives the loop at most, among the files as others leave them. -/
theorem Orderly.unsettled (h : Orderly c) {op : Operation} (hsettles : op.settles = false) (w : World) :
    Orderly (Context.carryOut op c w).2.1 ∧ Driven c { w with files := op.byOthers w.files }
      (Context.carryOut op c w).2.1 (Context.carryOut op c w).2.2 := by
  cases hforeign : op.isForeign with
  | true =>
    rw [carryOut_foreign hforeign]
    exact ⟨h, .refl c _⟩
  | false =>
    rw [byOthers_of_not_foreign hforeign]
    exact h.carryOut hsettles hforeign w

theorem Tended.carryOut (h : Tended c) (op : Operation) (w : World) :
    Tended (Context.carryOut op c w).2.1 := by
  cases hsettles : op.settles with
  | true =>
    cases op with
    | retain => exact h.withReferences (c.references + 1)
    | release => exact h.release w
    | shutdown => exact (h.shutdown w).1
    | _ => simp [Operation.settles] at hsettles
  | false =>
    obtain ⟨horderly, hdriven⟩ := h.toOrderly.unsettled hsettles w
    exact h.driven horderly hdriven

theorem Tended.carryOutAll (h : Tended c) (ops : List Operation) (w : World) :
    Tended (Context.carryOutAll ops c w).2.1 := by
  induction ops generalizing c w with
  | nil => exact h
  | cons op ops ih => exact ih (h.carryOut op w) _

/-! ### From the start -/

/-- What a start that ends with a context made. -/
theorem built_of_start (h : start path target w = (.ok (some c, after), w')) :
    ∃ w₁, Built path w c w₁ ∧ c.announceReady w₁ = .ok w' ∧ Standing w'.files c.paths := by
  obtain ⟨made, hattempt⟩ := attempt_of_start h
  obtain ⟨w₁, hbuilt, hready, hstanding, -⟩ := attempt_some hattempt
  exact ⟨w₁, hbuilt, hready, hstanding⟩

/-- A context as it is started. -/
theorem fresh_of_start (h : start path target w = (.ok (some c, after), w')) :
    c.references = 1 ∧ c.shutDown = false ∧ c.loop = .empty ∧ c.connections = [] := by
  obtain ⟨w₁, hbuilt, -⟩ := built_of_start h
  obtain ⟨settings, listeners, pidFile, rfl⟩ := built_fresh hbuilt
  exact ⟨rfl, rfl, rfl, rfl⟩

theorem tended_of_start (h : start path target w = (.ok (some c, after), w')) : Tended c := by
  obtain ⟨-, -, hloop, hconnections⟩ := fresh_of_start h
  refine ⟨⟨?_, ?_, ?_⟩, ?_, ?_⟩ <;> rw [hloop]
  · rw [hconnections]
    exact Traffic.manned_nil
  · exact fun _ => ⟨0, Loop.resting_empty⟩
  · simp [Loop.empty]
  · simp [Loop.empty]
  · exact fun i t ht => by simp [Loop.empty] at ht

/-! ### A start with two sockets and a pid file -/

/-- A world with settings for two sockets and a pid file. -/
def furnished : World :=
  { World.empty with
    files := Files.empty.put ["work", "bus.yaml"] (.file (Text.Utf8.encode
      "listen: [unix:path=a.sock, unix:path=b.sock]\npidfile: bus.pid\n".toList)) }

/-- The context that is started there. -/
def furnished? : Option Context := (start "bus.yaml" .clear furnished).1.toOption.bind (·.1)

/-- A history of that context, as far as it is computed. -/
theorem carryOutAll_furnished {α : Type} (ops : List Operation)
    {f : Context → List (Except Failure Unit) × Context × World → α} {a : α}
    (h : furnished?.map (fun c => f c (carryOutAll ops c (start "bus.yaml" .clear furnished).2)) = some a) :
    ∃ c answers c' w', start "bus.yaml" .clear furnished =
        (.ok (some c, .clear), (start "bus.yaml" .clear furnished).2) ∧
      carryOutAll ops c (start "bus.yaml" .clear furnished).2 = (answers, c', w') ∧
      f c (answers, c', w') = a := by
  obtain ⟨c, hc, hf⟩ := Option.map_eq_some_iff.1 h
  exact ⟨c, _, _, _, started_of_some hc, rfl, hf⟩

end MessageBus.Context
