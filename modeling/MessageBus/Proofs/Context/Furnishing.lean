import Mathlib.Data.List.Forall2
import MessageBus.Proofs.Context.History
import MessageBus.Proofs.Listener.Endpoint
/-!
What a start makes that ends with a context. Main statement: each listen address is bound, in order, the
sockets and the pid file stand in the tree, but for abstract sockets, and everything else is as it was, up to
directories above the pid file.
-/
namespace MessageBus

/-- The listener is what came of binding the address: at a socket path, or at a port of a host. -/
structure Listener.Serves (a : Address) (l : Listener) : Prop where
  bound : ∃ w w', Listener.bind a w = (.ok l, w')
  unix : a.transport = .unix → ∃ path, l = .atPath path
  tcp : a.transport = .tcp → ∃ host port, l = .atPort host port

namespace Context

/-- What a start made that ended with a context, in the world that it was in before. -/
structure Furnished (path : String) (w : World) (c : Context) (w' : World) : Prop where
  read : ∃ w₁, Loaded path w c.settings w₁
  listens : c.settings.listen ≠ []
  /-- The listen addresses were tried in order, and no other. -/
  tried : ∃ addresses, w'.attempts = w.attempts ++ addresses ∧
    List.Forall₂ (fun text a => Address.parse text = .ok a) c.settings.listen addresses ∧
    List.Forall₂ Listener.Serves addresses c.listeners
  address : ∃ l rest, c.listeners = l :: rest ∧ c.address = .ok l.address
  /-- Each socket is there, unless its name is abstract. -/
  sockets : ∀ l ∈ c.listeners, ∀ name, l.socket = some name → Path.isAbstract name = false →
    ∃ node, w'.files.look (.ofText name) = .ok node ∧ node ≠ .directory
  recorded : c.pidFile = c.settings.pidFile?.map Path.normal
  pidFile : ∀ name, c.pidFile = some name →
    w'.files.look (.ofText name) = .ok (.file (pidContent w.platform.process))
  /-- No other place was touched, but for directories above the pid file. -/
  others : ∀ p, (∀ name ∈ c.paths, ¬ w'.files.Leads name p) →
    w'.files.find? p = w.files.find? p ∨
    w.files.find? p = none ∧ w'.files.find? p = some .directory ∧
      ∃ name, c.pidFile = some name ∧ w'.files.Above (Path.ofText name).parent p

variable {path : String} {target after : Report.Target} {w w' w₀ w₁ : World} {c : Context}
  {settings : Settings} {texts : List String} {addresses : List Address} {ls : List Listener}
  {a : Address} {l : Listener} {f g : Files} {names : List String}

/-! ### Listeners -/

theorem serves_of_bind (hb : Listener.bind a w = (.ok l, w')) : l.Serves a := by
  obtain ⟨place, hbound⟩ := Listener.boundTo_of_bind hb
  refine ⟨⟨w, w', hb⟩, fun hunix => ?_, fun htcp => ?_⟩
  · cases hbound with
    | unix => exact ⟨_, rfl⟩
    | tcp htcp => cases hunix.symm.trans htcp
  · cases hbound with
    | unix hunix => cases htcp.symm.trans hunix
    | tcp => exact ⟨_, _, rfl⟩

theorem Bound.serves (h : Bound texts w addresses ls w') :
    List.Forall₂ (fun text a => Address.parse text = .ok a) texts addresses ∧
      List.Forall₂ Listener.Serves addresses ls := by
  induction h with
  | nil => exact ⟨.nil, .nil⟩
  | cons hparse hbind _ ih => exact ⟨.cons hparse ih.1, .cons (serves_of_bind hbind) ih.2⟩

/-! ### Files -/

theorem Standing.look (hs : Standing f names) {name : String} (hname : name ∈ names)
    (hgrounded : Path.isAbstract name = false) :
    ∃ node, f.look (.ofText name) = .ok node ∧ node ≠ .directory := by
  obtain ⟨-, p, node, hleads, hp, hnode⟩ := hs name hname hgrounded
  exact ⟨node, by rw [hleads.look, hp], hnode⟩

/-- A place where no socket stands is as it was. -/
theorem bound_others {w₂ : World} (hload : Loaded path w settings w₁)
    (hbound : Bound texts w₁ addresses ls w₂) (hk : w₂.files.Keeps g) {p : Place}
    (hp : ∀ name ∈ socketNames ls, ¬ g.Leads name p) :
    w₂.files.find? p = w.files.find? p := by
  obtain ⟨-, -, sockets, hls, hsockets⟩ := bound_kept hload hbound
  refine hsockets.other p fun hmem => ?_
  obtain ⟨s, hs, rfl⟩ := List.mem_map.1 hmem
  have hname : s.1 ∈ grounded (socketNames ls) := hls ▸ List.mem_map_of_mem hs
  exact hp s.1 (mem_grounded.1 hname).1 ((hsockets.leads s hs).keeps hk)

/-- The pid file is there as it is configured, with the directories above it, and nothing else is new. -/
theorem writePidFile_made (h : writePidFile target (listeningOn settings ls) w = (none, c, w')) :
    c = { listeningOn settings ls with pidFile := settings.pidFile?.map Path.normal } ∧
    w'.attempts = w.attempts ∧ w.files.Keeps w'.files ∧
    (∀ name, c.pidFile = some name →
      w'.files.look (.ofText name) = .ok (.file (pidContent w.platform.process))) ∧
    ∀ p, (∀ name, c.pidFile = some name → ¬ w'.files.Leads name p) →
      w'.files.find? p = w.files.find? p ∨ w.files.find? p = none ∧ w'.files.find? p = some .directory ∧
        ∃ name, c.pidFile = some name ∧ w'.files.Above (Path.ofText name).parent p := by
  cases hname : settings.pidFile? with
  | none =>
    rw [writePidFile_of_none hname] at h
    cases h
    refine ⟨rfl, rfl, .refl _, fun name hsome => ?_, fun p _ => .inl rfl⟩
    cases hsome
  | some text =>
    rcases hmake : makePidFile w.platform (Path.normal text) w.files with ⟨failure | done, files⟩
    · unfold writePidFile at h
      rw [listeningOn_settings, hname] at h
      simp only [hmake] at h
      cases failure <;> cases h
    · rw [writePidFile_of_ok hname hmake] at h
      cases h
      obtain ⟨-, g, q, hgrows, hleads, hq, -, rfl⟩ := makePidFile_ok hmake
      have hput : g.Keeps (g.put q (.file (pidContent w.platform.process))) := Files.keeps_put _ hq
      have hthere := hleads.keeps hput
      refine ⟨rfl, rfl, hgrows.keeps.trans hput, fun name hsome => ?_, fun p hp => ?_⟩
      · obtain rfl := Option.some.inj hsome
        exact hthere.look.trans (by rw [Files.find?_put g _ hleads.ne_nil])
      · have hpq : p ≠ q := by
          rintro rfl
          exact hp _ rfl hthere
        have hlater : (g.put q (.file (pidContent w.platform.process))).find? p = g.find? p :=
          Files.find?_put_of_ne g _ hpq
        obtain hsame | ⟨hnone, hnew, habove⟩ := hgrows.find? p
        · exact .inl (hlater.trans hsame)
        · exact .inr ⟨hnone, hlater.trans hnew, _, rfl, habove.keeps hput⟩

/-- What was built is furnished. -/
theorem furnished_of_built (hb : Built path w c w') : Furnished path w c w' := by
  have hstanding := built_standing hb
  obtain ⟨l, rest, hfirst⟩ := List.exists_cons_of_ne_nil (built_listeners hb)
  obtain ⟨settings, w₁, addresses, ls, w₂, hload, hbound, hpid⟩ := hb
  have hlisten : settings.listen ≠ [] := by
    obtain ⟨_, _, _, _, hmake, _⟩ := hload
    exact listen_ne_nil hmake
  obtain ⟨htried, hplatform, -⟩ := bound_kept hload hbound
  obtain ⟨hc, hattempts, hkeeps, hcontent, hothers⟩ := writePidFile_made (hpid .absent)
  have hsettings : c.settings = settings := by
    rw [hc]
    rfl
  have hlisteners : c.listeners = ls := by
    rw [hc]
    rfl
  exact {
    read := ⟨w₁, hsettings ▸ hload⟩
    listens := hsettings ▸ hlisten
    tried := ⟨addresses, hattempts.trans htried, hsettings ▸ hbound.serves.1,
      hlisteners ▸ hbound.serves.2⟩
    address := ⟨l, rest, hfirst, by simp [Context.address, hfirst]⟩
    sockets := fun l hl name hname hgrounded =>
      hstanding.look (List.mem_append_left _ (List.mem_filterMap.2 ⟨l, hl, hname⟩)) hgrounded
    recorded := by rw [hsettings, hc]
    pidFile := hplatform ▸ hcontent
    others := by
      intro p hp
      have hbefore := bound_others hload hbound hkeeps (p := p) fun name hname =>
        hp name (List.mem_append_left _ (hlisteners ▸ hname))
      rw [← hbefore]
      exact hothers p fun name hname => hp name (List.mem_append_right _ (by simp [hname])) }

/-- What a start made that ended with a context. -/
theorem furnished_of_start (h : start path target w = (.ok (some c, after), w')) : Furnished path w c w' := by
  obtain ⟨w₁, hbuilt, hready, -⟩ := built_of_start h
  obtain ⟨-, r, -, rfl⟩ := announceReady_ok hready
  have hfurnished := furnished_of_built hbuilt
  exact {
    read := hfurnished.read
    listens := hfurnished.listens
    tried := hfurnished.tried
    address := hfurnished.address
    sockets := hfurnished.sockets
    recorded := hfurnished.recorded
    pidFile := hfurnished.pidFile
    others := hfurnished.others }

end Context
end MessageBus
