import MessageBus.Proofs.Context.History
/-!
The accounts of connections. Main statement: the connections that are counted are those that are read, one
leaves the others as they are, a shut down that nothing cuts short closes all and leaves those alone that are
let go of later, and a last release leaves none.
-/
namespace MessageBus.Context
open Traffic (connection? coming? reading? IsRead Deserted)

variable {path : String} {target after : Report.Target} {c c₀ c' : Context} {w w₀ w' : World}
  {ops : List Operation} {answers : List (Except Failure Unit)}

instance (x : Connection) : Decidable (IsRead x) := inferInstanceAs (Decidable (_ ∧ _))

/-- Some task reads the connection, or is on its way to it. -/
def Served (c : Context) (i : Nat) : Prop :=
  ∃ t ∈ c.loop.tasks, coming? t = some i ∨ reading? t = some i

/-! ### Counting -/

/-- The connections that are counted are those that are read. -/
theorem Orderly.connectionCount (h : Orderly c) :
    c.connectionCount = c.connections.countP fun x => decide (IsRead x) := by
  refine List.countP_congr fun x hx => ?_
  obtain ⟨i, hi⟩ := List.getElem?_of_mem hx
  rw [decide_eq_true_iff]
  exact h.manned.tidy i x hi

theorem Orderly.active_iff (h : Orderly c) {i : Nat} {x : Connection} (hx : c.connections[i]? = some x) :
    x.active = true ↔ ∃ t ∈ c.loop.tasks, reading? t = some i := by
  rw [h.manned.active i x hx]
  constructor
  · rintro ⟨k, t, ht, hreads⟩
    exact ⟨t, List.mem_of_getElem? ht, hreads⟩
  · rintro ⟨t, ht, hreads⟩
    obtain ⟨k, hk⟩ := List.getElem?_of_mem ht
    exact ⟨k, t, hk, hreads⟩

/-! ### Taking down -/

/-- All connections are let go of as they are closed: the read that is pending at one comes back with nothing,
and waiting for its end does not block. -/
def Prompt (c : Context) : Prop := ∀ x ∈ c.connections, x.deferred = false

instance (c : Context) : Decidable c.Prompt := inferInstanceAs (Decidable (∀ x ∈ c.connections, _))

/-- The first time a context is shut down all that is served is closed. What is still counted behind that is
let go of later. -/
theorem Tended.shutdown_first_connections (h : Tended c) (hfirst : c.shutDown = false)
    (hcalm : .halt ∉ c.loop.ready) (w : World) :
    (∀ (i : Nat) (x : Connection), c.connections[i]? = some x → c.Served i →
      ∃ y, (c.shutdown w).2.1.connections[i]? = some y ∧ x.closes < y.closes) ∧
    (∀ y ∈ (c.shutdown w).2.1.connections, y.active = true → y.deferred = true) ∧
    (c.Prompt → (c.shutdown w).2.1.connectionCount = 0 ∧ Deserted (c.shutdown w).2.1.loop) := by
  obtain ⟨c₁, w₁, hcomplete, -, horderly, hopen, hshutdown⟩ := shutdown_first h hfirst w
  obtain ⟨listeners, pidFile, files, hkept⟩ := removeFiles_kept c₁ w₁
  rw [hshutdown, hkept]
  have hloop : c₁.loop = _ := (congrArg (·.2.1.loop) hcomplete).symm
  have hconnections : c₁.connections = _ := (congrArg (·.2.1.connections) hcomplete).symm
  have hclosed : c.loop.closed = false := by
    have hdriven := complete_driven (.job .closeAll) { c with shutDown := true } (w.record shuttingDown)
    rw [hcomplete] at hdriven
    exact hdriven.closed.symm.trans hopen
  obtain ⟨n, hresting⟩ := h.resting hclosed
  have hmanned : Traffic.Manned c.loop.tasks (c.traffic (w.record shuttingDown)).connections := h.manned
  have hfollows := Traffic.behaviour_keeps.complete (.job .closeAll) c.loop (c.traffic (w.record shuttingDown))
  have hleft : Traffic.LeftPromptly c₁.loop (c₁.traffic w₁) := by
    have hleft := Traffic.left_closeAll hresting hmanned hcalm
    unfold Traffic.LeftPromptly at hleft ⊢
    rw [hloop]
    dsimp only [traffic]
    rw [hconnections]
    exact hleft
  have hmanned₁ : Traffic.Manned c₁.loop.tasks (c₁.traffic w₁).connections := horderly.manned
  have hdeferred : ∀ y ∈ c₁.connections, y.active = true → y.deferred = true :=
    fun _ hy => hmanned₁.deferred_of_left hleft hy
  refine ⟨?_, hdeferred, fun hprompt => ?_⟩
  · rintro i x hx ⟨t, ht, hserves⟩
    obtain ⟨k, hk⟩ := List.getElem?_of_mem ht
    dsimp only
    rw [hconnections]
    exact Traffic.closed_closeAll hresting hmanned h.spared hk hserves hx
  · have hstill : ∀ y ∈ c₁.connections, y.deferred = false := by
      intro y hy
      rw [hconnections] at hy
      exact hfollows.prompt hprompt hy
    refine ⟨?_, hmanned₁.deserted hleft hstill⟩
    rw [Context.connectionCount, List.countP_eq_zero]
    intro y hy hactive
    have hlater := hdeferred y hy hactive
    simp [hstill y hy] at hlater

theorem Tended.release_connections (h : Tended c) (hlast : c.references = 1)
    (hreleased : c.release w = (.ok (), c', w')) : c'.connectionCount = 0 := by
  obtain ⟨htended, -, -, hover⟩ := h.release_last hlast w
  rw [hreleased] at htended hover
  exact htended.manned.active_of_finished (hover rfl).2

/-! ### From the start -/

/-- A connection is read, another one is not yet. -/
def twoConnections (deferred : Bool) : List Operation :=
  [.takeIn deferred ["hello"] .staysOpen .quiet, .pause, .takeIn deferred [] .staysOpen .reset]

/-- Connections that are let go of later are still counted behind the shut down that closed them. -/
example : furnished?.map (fun c =>
    let (_, c, w) := carryOutAll (twoConnections true) c (start "bus.yaml" .clear furnished).2
    (c.connectionCount, (c.shutdown w).2.1.connectionCount,
      (c.shutdown w).2.1.connections.map (·.closes))) = some (1, 2, [1, 1]) := by decide +kernel

end MessageBus.Context
