import MessageBus.Context.Start
import MessageBus.Proofs.Address.Reporting
import MessageBus.Proofs.World
/-!
Binding listen addresses one after the other. The texts in front of the first one that fails are bound,
each leaves its socket in the tree unless its name is abstract, and none behind it is tried.
-/
namespace MessageBus.Context

/-- None of the names is that of an abstract socket. -/
def Grounded (names : List String) : Prop := ∀ name ∈ names, Path.isAbstract name = false

/-- The names but for those of abstract sockets. -/
def grounded (names : List String) : List String := names.filter fun name => !Path.isAbstract name

/-- The names of the sockets of listeners. -/
def socketNames (ls : List Listener) : List String := ls.filterMap (·.socket)

/-- The world after a listener was bound. -/
def heard (l : Listener) (w : World) : World := w.record ⟨.info, part, "Listening on " ++ l.address⟩

/-- The texts write addresses that are bound one after the other. -/
inductive Bound : List String → World → List Address → List Listener → World → Prop
  | nil (w : World) : Bound [] w [] [] w
  | cons {text : String} {texts : List String} {w w₁ w' : World} {a : Address} {l : Listener}
      {addresses : List Address} {ls : List Listener} (hparse : Address.parse text = .ok a)
      (hbind : Listener.bind a w = (.ok l, w₁)) (hrest : Bound texts (heard l w₁) addresses ls w') :
      Bound (text :: texts) w (a :: addresses) (l :: ls) w'

variable {target : Report.Target} {text : String} {texts : List String} {w w' w₁ : World}
  {addresses : List Address} {ls : List Listener} {a : Address} {l : Listener}

theorem not_grounded_of_split {names before after : List String} {name : String}
    (hsplit : names = before ++ name :: after) (habstract : Path.isAbstract name = true) : ¬ Grounded names := by
  intro hgrounded
  have hname := hgrounded name (hsplit ▸ List.mem_append_right _ (.head _))
  simp [habstract] at hname

/-- A text cannot be bound: it writes no address, or binding that fails. -/
def Stuck (text : String) (w : World) : Prop :=
  (∃ fault, Address.parse text = .error fault) ∨
  ∃ a failure w₁, Address.parse text = .ok a ∧ Listener.bind a w = (.error failure, w₁)

theorem bound_or_stuck (texts : List String) (w : World) :
    (∃ addresses ls w', Bound texts w addresses ls w') ∨
    ∃ before text rest addresses ls w₁, texts = before ++ text :: rest ∧
      Bound before w addresses ls w₁ ∧ Stuck text w₁ := by
  induction texts generalizing w with
  | nil => exact .inl ⟨[], [], w, .nil w⟩
  | cons text texts ih =>
    cases hparse : Address.parse text with
    | error fault =>
      exact .inr ⟨[], text, texts, [], [], w, rfl, .nil w, .inl ⟨fault, hparse⟩⟩
    | ok a =>
      cases hbind : Listener.bind a w with
      | mk r w₁ =>
        cases r with
        | error failure =>
          exact .inr ⟨[], text, texts, [], [], w, rfl, .nil w, .inr ⟨a, failure, w₁, hparse, hbind⟩⟩
        | ok l =>
          obtain ⟨addresses, ls, w', h⟩ |
            ⟨before, stuck, rest, addresses, ls, w₂, rfl, h, hstuck⟩ := ih (heard l w₁)
          · exact .inl ⟨_, _, _, .cons hparse hbind h⟩
          · exact .inr ⟨text :: before, stuck, rest, _, _, _, rfl, .cons hparse hbind h, hstuck⟩

theorem not_stuck_of_bind (hparse : Address.parse text = .ok a) (hbind : Listener.bind a w = (.ok l, w₁)) :
    ¬ Stuck text w := by
  rintro (⟨fault, hfault⟩ | ⟨a', failure, w₂, hparse', hbind'⟩)
  · cases hparse.symm.trans hfault
  · cases hparse.symm.trans hparse'
    cases hbind.symm.trans hbind'

/-- There is one text at which binding gets stuck, if it does. -/
theorem Bound.stuck_unique {before before' rest rest' : List String} {text' : String} {w₂ : World}
    {addresses' : List Address} {ls' : List Listener} (h : Bound before w addresses ls w₁)
    (h' : Bound before' w addresses' ls' w₂) (hsame : before ++ text :: rest = before' ++ text' :: rest')
    (hstuck : Stuck text w₁) (hstuck' : Stuck text' w₂) : text = text' ∧ w₁ = w₂ := by
  induction h generalizing before' addresses' ls' with
  | nil w =>
    cases h' with
    | nil => exact ⟨(List.cons.inj hsame).1, rfl⟩
    | cons hparse hbind =>
      obtain ⟨rfl, -⟩ := List.cons.inj hsame
      exact absurd hstuck (not_stuck_of_bind hparse hbind)
  | cons hparse hbind _ ih =>
    cases h' with
    | nil =>
      obtain ⟨rfl, -⟩ := List.cons.inj hsame
      exact absurd hstuck' (not_stuck_of_bind hparse hbind)
    | cons hparse' hbind' hrest' =>
      obtain ⟨rfl, htail⟩ := List.cons.inj hsame
      cases hparse.symm.trans hparse'
      cases hbind.symm.trans hbind'
      exact ih hrest' htail hstuck

/-- Binding does not get stuck if all texts are bound. -/
theorem Bound.not_stuck {before rest : List String} {w₂ : World} {addresses' : List Address}
    {ls' : List Listener} (h : Bound texts w addresses ls w₁) (h' : Bound before w addresses' ls' w₂)
    (hsame : texts = before ++ text :: rest) : ¬ Stuck text w₂ := by
  induction h generalizing before addresses' ls' with
  | nil => simp at hsame
  | cons hparse hbind _ ih =>
    cases h' with
    | nil =>
      obtain ⟨rfl, -⟩ := List.cons.inj hsame
      exact not_stuck_of_bind hparse hbind
    | cons hparse' hbind' hrest' =>
      obtain ⟨rfl, htail⟩ := List.cons.inj hsame
      cases hparse.symm.trans hparse'
      cases hbind.symm.trans hbind'
      exact ih hrest' htail

theorem listen_bound (hparse : Address.parse text = .ok a)
    (hbind : Listener.bind a w = (.ok l, w₁)) : listen text target w = (.ok l, heard l w₁) := by
  simp [listen, Address.parseInto, hparse, hbind, heard]

/-- What is bound is added to the context, and the texts behind it come next. -/
theorem listenAll_bound {before : List String} (h : Bound before w addresses ls w')
    (rest : List String) (c : Context) :
    listenAll target (before ++ rest) c w =
      listenAll target rest { c with listeners := c.listeners ++ ls } w' := by
  induction h generalizing c with
  | nil => simp
  | cons hparse hbind _ ih =>
    rw [List.cons_append, listenAll, listen_bound hparse hbind]
    simp [ih]

theorem grounded_append (names more : List String) :
    grounded (names ++ more) = grounded names ++ grounded more := List.filter_append ..

theorem grounded_of_grounded {names : List String} (h : Grounded names) : grounded names = names :=
  List.filter_eq_self.2 fun name hname => by simp [h name hname]

theorem mem_grounded {names : List String} {name : String} :
    name ∈ grounded names ↔ name ∈ names ∧ Path.isAbstract name = false := by
  simp [grounded, List.mem_filter]

/-- Binding leaves the platform as it is. -/
theorem bind_platform (hbind : Listener.bind a w = (.ok l, w₁)) : w₁.platform = w.platform := by
  have hproceeds := World.proceeds_bind a w
  rw [hbind] at hproceeds
  obtain ⟨-, h, -⟩ | ⟨-, h⟩ := hproceeds <;> exact h.platform

theorem bind_sockets (hbind : Listener.bind a w = (.ok l, w₁)) {f : Files}
    {sockets : List (String × Place)} (hs : Files.Placed f w.files w.platform.sockets.node sockets) :
    ∃ more, grounded l.socket.toList = more.map (·.1) ∧
      Files.Placed f w₁.files w₁.platform.sockets.node (sockets ++ more) := by
  rw [bind_platform hbind]
  obtain ⟨-, hend⟩ := Listener.bind_end hbind
  generalize w₁.files = g at hend ⊢
  cases hend with
  | port _ hsocket => exact ⟨[], by simp [hsocket, grounded], by simpa using hs⟩
  | abstract _ path hsocket habstract =>
    exact ⟨[], by simp [hsocket, grounded, habstract], by simpa using hs⟩
  | path _ path p hsocket hplain hleads hfree =>
    exact ⟨[(path, p)], by simp [hsocket, grounded, isAbstract_of_plain hplain],
      hs.put hplain hleads hfree⟩

/-- Each socket of the listeners stands where its path leads, unless its name is abstract. -/
theorem bound_sockets (h : Bound texts w addresses ls w') {f : Files}
    {sockets : List (String × Place)} (hs : Files.Placed f w.files w.platform.sockets.node sockets) :
    ∃ more, grounded (socketNames ls) = more.map (·.1) ∧
      Files.Placed f w'.files w'.platform.sockets.node (sockets ++ more) := by
  induction h generalizing sockets with
  | nil => exact ⟨[], rfl, by simpa using hs⟩
  | @cons _ _ w w₁ _ _ l _ ls _ hbind _ ih =>
    obtain ⟨first, hfirst, hsfirst⟩ := bind_sockets hbind hs
    obtain ⟨more, hmore, hsmore⟩ := @ih (sockets ++ first) hsfirst
    refine ⟨first ++ more, ?_, by rwa [← List.append_assoc]⟩
    rw [List.map_append, ← hfirst, ← hmore, ← grounded_append]
    cases hsocket : l.socket <;> simp [socketNames, hsocket]

theorem bound_platform (h : Bound texts w addresses ls w') : w'.platform = w.platform := by
  induction h with
  | nil => rfl
  | cons _ hbind _ ih =>
    have hfirst := bind_platform hbind
    exact ih.trans hfirst

/-- Every address that was bound was tried, and no other. -/
theorem bound_attempts (h : Bound texts w addresses ls w') :
    w'.attempts = w.attempts ++ addresses := by
  induction h with
  | nil => simp
  | cons _ hbind _ ih =>
    obtain ⟨hattempts, -⟩ := Listener.bind_end hbind
    rw [ih]
    simp [heard, World.record, hattempts]

end MessageBus.Context
