import MessageBus.Proofs.Address.Fault
import MessageBus.Proofs.Address.Reporting
/-!
What becomes of a text that is read with an open target. Main statement: reading breaks off if and only if
the text is well formed and its port is made of digits that cannot be read; otherwise it returns an address
and leaves the target alone, or reports a bad address in words that have the text in them.
-/
namespace MessageBus.Address
variable {a : Address} {text : String} {fault : Fault} {target : Report.Target}

/-- The text lists an address for tcp whose first port is made of digits and cannot be read. -/
def Unreadable (text : String) : Prop :=
  ∃ a port, Lists text a ∧ a.transport = .tcp ∧ First a.options "port" port ∧ Misdigited port

/-! ### Unreadable ports -/

/-- A port is looked at once the text lists an address, and not before. -/
theorem parse_unreadable_iff :
    (∃ fault, parse text = .error (.unreadablePort fault)) ↔ Unreadable text := by
  simp only [parse_error_iff]
  constructor
  · rintro ⟨fault, hrefused⟩
    cases hrefused with
    | unreadablePort hlists htcp hfirst hmis => exact ⟨_, _, hlists, htcp, hfirst, hmis⟩
  · rintro ⟨a, port, hlists, htcp, hfirst, hmis⟩
    obtain ⟨fault, hread⟩ := hmis.readInteger
    exact ⟨fault, .unreadablePort hlists htcp hfirst hmis hread⟩

/-! ### Sentences -/

/-- What is said about a text has the text in it. -/
theorem infix_sentence (h : fault.unreadable? = none) : text.toList <:+: (fault.sentence text).toList := by
  have hbetween (front back : String) : text.toList <:+: (front ++ text ++ back).toList :=
    ⟨front.toList, back.toList, by simp⟩
  cases fault with
  | unreadablePort => cases h
  | _ => exact hbetween _ _

theorem unreadable?_eq_some_iff {f : Number.Fault} :
    fault.unreadable? = some f ↔ fault = .unreadablePort f := by
  cases fault <;> simp [Fault.unreadable?]

/-- With an open target, reading breaks off if and only if the port cannot be read. Otherwise it returns an
address and leaves the target alone, or reports a bad address in words that have the text in them. -/
theorem parseInto_error_iff (ht : target.Open) (text : String) :
    ((∃ failure, parseInto target text = .error failure) ↔ Unreadable text) ∧
      ∀ outcome, parseInto target text = .ok outcome →
        (∃ a, outcome = (some a, target)) ∨
        ∃ message, outcome = (none, target.taking ⟨.badAddress, message, true⟩) ∧
          text.toList <:+: message.toList := by
  rw [← parse_unreadable_iff]
  cases hparse : parse text with
  | ok a =>
    have hread : parseInto target text = .ok (some a, target) := by rw [parseInto, hparse]
    simp [hread]
  | error fault =>
    have hread := parseInto_fault ht hparse
    cases hfault : fault.unreadable? with
    | some f =>
      rw [hfault] at hread
      simp [hread, unreadable?_eq_some_iff.1 hfault]
    | none =>
      rw [hfault] at hread
      have hother : ¬ ∃ f, fault = .unreadablePort f := by
        rintro ⟨f, rfl⟩
        cases hfault
      rw [hread]
      refine ⟨by simpa using hother, ?_⟩
      rintro outcome houtcome
      cases houtcome
      exact .inr ⟨fault.sentence text, rfl, infix_sentence hfault⟩

/-- A superscript is a digit that has no decimal value: as a port it is not read, and nothing is reported. As
a path it is reported like any other, unless there is no memory left for that. -/
theorem parseInto_error_iff_superscript :
    Report.Target.clear.Open ∧
      parseInto .clear "tcp:port=²" = .error (.port (.notInteger 10 "²")) ∧ Unreadable "tcp:port=²" ∧
      ∃ message, parseInto .clear "unix:path=²,tmpdir=%2F" =
          .ok (none, Report.Target.clear.taking ⟨.badAddress, message, true⟩) ∧
        "unix:path=²,tmpdir=%2F".toList <:+: message.toList ∧
        parseInto .exhausted "unix:path=²,tmpdir=%2F" = .ok (none, .holding Report.noMemory) := by
  have hopen : Report.Target.clear.Open := Report.open_clear
  have hfailed : parseInto .clear "tcp:port=²" = .error (.port (.notInteger 10 "²")) := rfl
  have hfault : parse "unix:path=²,tmpdir=%2F" = .error .notOnePath := rfl
  have hread : parseInto .clear "unix:path=²,tmpdir=%2F" =
      .ok (none, .holding ⟨.badAddress, Fault.notOnePath.sentence "unix:path=²,tmpdir=%2F", true⟩) :=
    parseInto_fault hopen hfault
  refine ⟨hopen, hfailed, (parseInto_error_iff hopen _).1.1 ⟨_, hfailed⟩, ?_⟩
  obtain ⟨a, ha⟩ | ⟨message, hmessage, hmem⟩ := (parseInto_error_iff hopen _).2 _ hread
  · cases ha
  · exact ⟨message, by rw [hread, hmessage], hmem, parseInto_fault Report.open_exhausted hfault⟩

/-- A bad port for which reading neither returns nor reports. -/
theorem parseInto_superscript_breaks :
    ¬ ((∃ a, parseInto .clear "tcp:port=²" = .ok (some a, .clear)) ∨
      ∃ report, parseInto .clear "tcp:port=²" = .ok (none, .holding report)) := by
  have hfailed : parseInto .clear "tcp:port=²" = .error (.port (.notInteger 10 "²")) := rfl
  rw [hfailed]
  simp

end MessageBus.Address
