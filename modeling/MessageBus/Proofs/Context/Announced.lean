import MessageBus.Proofs.Context.Furnishing
/-!
The address of a context that was started, as it is announced. Main statement: it makes one line of
printable ASCII, and is read as the place where the first listener is bound.
-/
namespace MessageBus.Context

/-- The first listener of a context that was started is what came of binding the first listen address, in
the world in which the settings were read. -/
structure FirstBound (path : String) (w : World) (c : Context) (a : Address) (w₁ : World) (l : Listener) :
    Prop where
  loaded : Loaded path w c.settings w₁
  parsed : ∃ text rest, c.settings.listen = text :: rest ∧ Address.parse text = .ok a
  bound : ∃ w₂, Listener.bind a w₁ = (.ok l, w₂)
  first : ∃ rest, c.listeners = l :: rest

variable {path : String} {target after : Report.Target} {w w' w₁ : World} {c : Context} {a : Address}
  {l : Listener}

theorem Built.bound (h : Built path w c w') : ∃ w₁ addresses w₂, Loaded path w c.settings w₁ ∧
    Bound c.settings.listen w₁ addresses c.listeners w₂ := by
  obtain ⟨settings, w₁, addresses, ls, w₂, hload, hbound, hpid⟩ := h
  obtain ⟨rfl, -⟩ := writePidFile_made (hpid .absent)
  exact ⟨w₁, addresses, w₂, hload, hbound⟩

theorem firstBound_of_built (h : Built path w c w') : ∃ a w₁ l, FirstBound path w c a w₁ l := by
  obtain ⟨w₁, addresses, w₂, hload, hbound⟩ := h.bound
  have hlisten := (furnished_of_built h).listens
  generalize htexts : c.settings.listen = texts at hbound hlisten
  generalize hlisteners : c.listeners = ls at hbound
  cases hbound with
  | nil => exact absurd rfl hlisten
  | cons hparse hbind _ =>
    exact ⟨_, w₁, _, hload, ⟨_, _, htexts, hparse⟩, ⟨_, hbind⟩, ⟨_, hlisteners⟩⟩

theorem FirstBound.address (h : FirstBound path w c a w₁ l) : c.address = .ok l.address := by
  obtain ⟨rest, hfirst⟩ := h.first
  rw [Context.address, hfirst]

/-- The address of a context makes one line of printable ASCII, whatever was configured. It is read as the
place where the first listener is bound, unless the port that is reported is larger than ports are; a
socket stands at its path unless that is abstract. -/
theorem start_announced (h : start path target w = (.ok (some c, after), w')) :
    ∃ a w₁ l place, FirstBound path w c a w₁ l ∧ Listener.BoundTo a w₁ l place ∧
      c.address = .ok l.address ∧ Announcement.Framed l.address ∧
      (place.Nameable → Address.Names l.address place) ∧
      ∀ socket, place = .path socket → l.socket = some socket ∧
        (Path.isAbstract socket = false →
          ∃ node, w'.files.look (.ofText socket) = .ok node ∧ node ≠ .directory) := by
  obtain ⟨w₂, hbuilt, -⟩ := built_of_start h
  obtain ⟨a, w₁, l, hfirst⟩ := firstBound_of_built hbuilt
  obtain ⟨_, hbind⟩ := hfirst.bound
  obtain ⟨place, hbound⟩ := Listener.boundTo_of_bind hbind
  refine ⟨a, w₁, l, place, hfirst, hbound, hfirst.address, hbound.framed, hbound.names, ?_⟩
  rintro socket rfl
  have hsocket : l.socket = some socket := by
    cases hbound
    rfl
  obtain ⟨rest, hlisteners⟩ := hfirst.first
  exact ⟨hsocket, (furnished_of_start h).sockets l (by simp [hlisteners]) socket hsocket⟩

/-- A world with settings for a socket whose name has a newline and a comma. -/
def broken : World :=
  { World.empty with
    files := Files.empty.put ["work", "bus.yaml"] (.file (Text.Utf8.encode
      "listen: [\"unix:path=a%0Ab%2Cé\"]\n".toList)) }

theorem start_announced_broken : ∃ c a w₁ l,
    start "bus.yaml" .clear broken = (.ok (some c, .clear), (start "bus.yaml" .clear broken).2) ∧
      FirstBound "bus.yaml" broken c a w₁ l ∧ c.address = .ok "unix:path=a%0Ab%2C%C3%A9" ∧
      Announcement.Framed "unix:path=a%0Ab%2C%C3%A9" ∧
      Address.Names "unix:path=a%0Ab%2C%C3%A9" (.path "a\nb,é") := by
  have hcomputed : ((start "bus.yaml" .clear broken).1.toOption.bind (·.1)).map (·.listeners) =
      some [⟨"unix:path=a%0Ab%2C%C3%A9", some "a\nb,é"⟩] := by decide +kernel
  obtain ⟨c, hc, hlisteners⟩ := Option.map_eq_some_iff.1 hcomputed
  have hstart := started_of_some hc
  obtain ⟨a, w₁, l, place, hfirst, hbound, haddress, hframed, hnames, -⟩ := start_announced hstart
  have hl : l = ⟨"unix:path=a%0Ab%2C%C3%A9", some "a\nb,é"⟩ := by
    obtain ⟨rest, hrest⟩ := hfirst.first
    exact (List.cons.inj (hrest.symm.trans hlisteners)).1
  have hplace : place = .path "a\nb,é" := by
    cases hbound with
    | unix => rw [Option.some.inj (congrArg Listener.socket hl)]
    | tcp => cases congrArg Listener.socket hl
  subst hplace
  rw [hl] at haddress hframed hnames
  exact ⟨c, a, w₁, l, hstart, hfirst, haddress, hframed, hnames trivial⟩

end MessageBus.Context
