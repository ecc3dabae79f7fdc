import MessageBus.Proofs.Context.History
import MessageBus.Proofs.Settings.Listen
/-!
Checking settings and reading them agree. Main statement: settings are made if and only if addresses are named, and
then they listen at those, whatever a context that has them is put through.
-/
namespace MessageBus

namespace Context
variable {c c' : Context} {w w' : World}

/-- A context after operations, each of them in a world of its own: what is around the context may become anything
in between. -/
def through (steps : List (Operation × World)) (c : Context) : Context :=
  steps.foldl (fun c step => (carryOut step.1 c step.2).2.1) c

theorem Touched.settings (h : Touched c w c' w') : c'.settings = c.settings := by
  obtain ⟨l, connections, wishes, rfl⟩ := h.context
  rfl

theorem removeFiles_settings (c : Context) (w : World) : (c.removeFiles w).2.1.settings = c.settings := by
  obtain ⟨listeners, pidFile, files, hkept⟩ := removeFiles_kept c w
  rw [hkept]

theorem shutdown_settings (c : Context) (w : World) : (c.shutdown w).2.1.settings = c.settings := by
  cases hfirst : c.shutDown with
  | true => rw [shutdown_of_shutDown hfirst]
  | false =>
    have htouched := (complete_driven (.job .closeAll) { c with shutDown := true }
      (w.record shuttingDown)).toTouched.settings
    rw [shutdown_eq hfirst]
    generalize complete (.job .closeAll) { c with shutDown := true } (w.record shuttingDown) = completed
      at htouched ⊢
    obtain ⟨result, c₁, w₁⟩ := completed
    cases result with
    | error failure => exact htouched
    | ok done => exact (removeFiles_settings c₁ w₁).trans htouched

theorem release_settings (c : Context) (w : World) : (c.release w).2.1.settings = c.settings := by
  obtain ⟨-, hrefused⟩ | ⟨n, -, hmore⟩ | hlast := release_cases c w
  · rw [hrefused]
  · rw [hmore]
  · have hshutdown := shutdown_settings { c with references := 0 } w
    rw [release_last hlast]
    generalize ({ c with references := 0 } : Context).shutdown w = result at hshutdown ⊢
    obtain ⟨result, c₁, w₁⟩ := result
    cases result with
    | error failure => exact hshutdown
    | ok done => exact (closeLoop_touched c₁ w₁).settings.trans hshutdown

/-- No operation changes the settings. -/
theorem carryOut_settings (op : Operation) (c : Context) (w : World) :
    (carryOut op c w).2.1.settings = c.settings := by
  cases op with
  | retain | requestStop => rfl
  | release => exact release_settings c w
  | shutdown => exact shutdown_settings c w
  | takeIn => exact (takeIn_driven _ c w).toTouched.settings
  | accept =>
    unfold carryOut
    dsimp only
    split
    · exact (acceptOpen_driven _ c w).toTouched.settings
    · exact (accept_driven _ c w).toTouched.settings
  | receive i | lose i => exact (meet_driven i _ c w).toTouched.settings
  | hangUp i => exact (hangUp_driven i c w).toTouched.settings
  | run limit => exact (run_driven limit c w).toTouched.settings
  | pause => exact (pause_driven c w).toTouched.settings
  | wish =>
    unfold carryOut
    dsimp only
    split <;> rfl
  | remove | rearrange => rw [carryOut_foreign rfl]

theorem through_settings (steps : List (Operation × World)) (c : Context) :
    (c.through steps).settings = c.settings := by
  induction steps generalizing c with
  | nil => rfl
  | cons step steps ih => exact (ih _).trans (carryOut_settings step.1 c step.2)

end Context

namespace Settings

/-- Settings are made if and only if the environment or the entries name addresses, and no pid file but by a text.
They listen at those addresses, in order and without the blanks around them, and go on doing so whatever a context
that has them is put through. The first item that is no address is told by its place. -/
theorem make_agrees (entries : List (Value × Value)) (e : Environment) :
    ((∃ s, make entries (e.get listenVariable) = .ok s) ↔
      (∃ texts, Names (effective entries e) texts) ∧ NamesPidFile entries) ∧
    (∀ s, make entries (e.get listenVariable) = .ok s →
      (∃ texts, Names (effective entries e) texts ∧ List.Forall₂ Text.Trims texts s.listen) ∧
      ∀ (c : Context) steps, c.settings = s → (c.through steps).settings.listen = s.listen) ∧
    (∀ before bad after, effective entries e = some (.list (before ++ bad :: after)) →
      (∀ v ∈ before, IsAddress v) → ¬ IsAddress bad →
      ∃ fault, make entries (e.get listenVariable) = .error fault ∧ fault.code = "invalid_listen_item" ∧
        fault.details = [("index", .int before.length)]) ∧
    (∀ text, effective entries e = some (.text text) → Text.Blank text →
      ∃ fault, make entries (e.get listenVariable) = .error fault ∧ fault.code = "invalid_listen_item" ∧
        fault.details = [("index", .int 0)]) := by
  refine ⟨exists_make, fun s hmake => ⟨?_, fun c steps hc => ?_⟩, ?_, ?_⟩
  · obtain ⟨rfl, hlisten, -⟩ := make_ok.1 hmake
    rw [source_eq_effective] at hlisten
    obtain ⟨texts, hnames⟩ := listenFault_none.1 hlisten
    refine ⟨texts, hnames, listen_of_names ?_⟩
    rw [source_eq_effective]
    cases heffective : effective entries e with
    | none =>
      rw [heffective] at hnames
      cases hnames
    | some v => exact heffective ▸ hnames
  · rw [Context.through_settings, hc]
  · intro before bad after heffective hbefore hbad
    refine ⟨.invalidItem before.length, make_of_listenFault ?_, rfl, rfl⟩
    rw [source_eq_effective, heffective]
    exact listenFault_item hbefore hbad
  · intro text heffective hblank
    refine ⟨.invalidItem 0, make_of_listenFault ?_, rfl, rfl⟩
    rw [source_eq_effective, heffective]
    exact listenFault_text hblank

/-- Two addresses with blanks around them, and no pid file. -/
def blankedEntries : List (Value × Value) :=
  [(.text "listen", .list [.text " unix:path=a\n", .text "tcp:"]), (.text "pidfile", .null)]

/-- The second of three items is no text. -/
def mixedEntries : List (Value × Value) := [(.text "listen", .list [.text "tcp:", .int 5, .text ""])]

/-- An empty variable leaves the entry in place, and a later one that is not empty does so too; an item that is no
text is told, and so is a variable of blanks. -/
theorem make_agrees_blanks :
    (∃ s, make blankedEntries (Environment.get ⟨[(listenVariable, "")]⟩ listenVariable) = .ok s ∧
      s.listen = ["unix:path=a", "tcp:"] ∧
      ((Context.new s).through
        [(.retain, { World.empty with environment := ⟨[(listenVariable, "tcp:port=1")]⟩ })]).settings.listen =
          ["unix:path=a", "tcp:"]) ∧
    (∃ fault, make mixedEntries (Environment.get ⟨[]⟩ listenVariable) = .error fault ∧
      fault.code = "invalid_listen_item" ∧ fault.details = [("index", .int 1)]) ∧
    ∃ fault, make mixedEntries (Environment.get ⟨[(listenVariable, "\t ")]⟩ listenVariable) = .error fault ∧
      fault.code = "invalid_listen_item" ∧ fault.details = [("index", .int 0)] := by
  refine ⟨⟨⟨blankedEntries, ""⟩, ?_, ?_, ?_⟩, ?_, ?_⟩
  · rfl
  · decide +kernel
  · have hkept := ((make_agrees blankedEntries ⟨[(listenVariable, "")]⟩).2.1 ⟨blankedEntries, ""⟩ rfl).2
    rw [hkept (.new ⟨blankedEntries, ""⟩) _ rfl]
    decide +kernel
  · have hfirst : ∀ v ∈ [Value.text "tcp:"], IsAddress v := by
      simpa using isFilled_iff.1 (show isFilled (.text "tcp:") = true by decide +kernel)
    exact (make_agrees mixedEntries ⟨[]⟩).2.2.1 [.text "tcp:"] (.int 5) [.text ""] rfl hfirst
      (fun h => absurd (isFilled_iff.2 h) (by decide))
  · exact (make_agrees mixedEntries ⟨[(listenVariable, "\t ")]⟩).2.2.2 "\t " rfl
      (Text.blank_iff.1 (by decide +kernel))

end Settings
end MessageBus
