import MessageBus.Proofs.Address.Grammar
/-!
Why a text is no listen address. Main statement: reading fails with a fault if and only if the grammar refuses
the text for it. The fault carries what stands in the text: the name in front of the first colon, the first
entry that writes no option, or the first port.
-/
namespace MessageBus.Address

/-- The text is refused for the fault. What stands further on is not looked at: the transport comes first, then
the entries in order, then what the transport asks for. -/
inductive Refused (text : String) : Fault → Prop
  | noTransport (h : ':' ∉ text.toList ∨ text.toList.head? = some ':') : Refused text .noTransport
  | unknownTransport {name rest : List Char} (htext : text.toList = name ++ ':' :: rest)
      (hfirst : ':' ∉ name) (hfilled : name ≠ []) (hunknown : ∀ t : Transport, name ≠ t.name.toList) :
      Refused text (.unknownTransport (String.ofList name))
  | malformedEntry {t : Transport} {entries before after : List (List Char)} {entry : List Char}
      (htext : text.toList = t.name.toList ++ ':' :: Text.join ',' entries) (hne : entries ≠ [])
      (hfree : ∀ entry ∈ entries, ',' ∉ entry) (hentries : entries.filter (· ≠ []) = before ++ entry :: after)
      (hbefore : ∀ entry ∈ before, ∃ o, Writes entry o) (hentry : ∀ o, ¬ Writes entry o) :
      Refused text (.malformedEntry (String.ofList entry))
  | notOnePath {a : Address} (hlists : Lists text a) (hunix : a.transport = .unix) (hasked : ¬ Asked a) :
      Refused text .notOnePath
  | invalidPort {a : Address} {port : String} (hlists : Lists text a) (htcp : a.transport = .tcp)
      (hfirst : First a.options "port" port) (hport : ¬ IsPort port) (hmis : ¬ Misdigited port) :
      Refused text (.invalidPort port)
  | unreadablePort {a : Address} {port : String} {fault : Number.Fault} (hlists : Lists text a)
      (htcp : a.transport = .tcp) (hfirst : First a.options "port" port) (hmis : Misdigited port)
      (hread : Number.readInteger 10 port = .error fault) : Refused text (.unreadablePort fault)

variable {a : Address} {text port : String} {fault : Fault} {entry cs name : List Char}

/-! ### Entries -/

theorem readOption_error_iff :
    readOption entry = .error fault ↔ fault = .malformedEntry (String.ofList entry) ∧ ∀ o, ¬ Writes entry o := by
  cases hread : readOption entry with
  | ok o =>
    simp only [reduceCtorEq, false_iff]
    exact fun h => h.2 o (readOption_ok_iff.1 hread)
  | error f =>
    have hnone : ∀ o, ¬ Writes entry o := by
      intro o ho
      rw [readOption_ok_iff.2 ho] at hread
      cases hread
    have hf : f = .malformedEntry (String.ofList entry) := by
      unfold readOption at hread
      split at hread <;> cases hread
      rfl
    rw [hf, Except.error.injEq, eq_comm]
    exact (and_iff_left hnone).symm

theorem readOptions_error_iff :
    readOptions cs = .error fault ↔ ∃ entries before entry after, entries ≠ [] ∧
      (∀ entry ∈ entries, ',' ∉ entry) ∧ cs = Text.join ',' entries ∧
      entries.filter (· ≠ []) = before ++ entry :: after ∧ (∀ entry ∈ before, ∃ o, Writes entry o) ∧
      fault = .malformedEntry (String.ofList entry) ∧ ∀ o, ¬ Writes entry o := by
  simp only [readOptions, mapM_error_iff, readOption_ok_iff, readOption_error_iff]
  constructor
  · rintro ⟨before, entry, after, hentries, hbefore, hentry⟩
    obtain ⟨hne, hfree, hjoin⟩ := Text.split_eq_iff.1 (Eq.refl (Text.split ',' cs))
    exact ⟨_, before, entry, after, hne, hfree, hjoin, hentries, hbefore, hentry⟩
  · rintro ⟨entries, before, entry, after, hne, hfree, hjoin, hentries, hbefore, hentry⟩
    rw [Text.split_eq_iff.2 ⟨hne, hfree, hjoin⟩]
    exact ⟨before, entry, after, hentries, hbefore, hentry⟩

/-! ### What a transport asks for -/

theorem readPort_error_iff :
    readPort port = .error fault ↔
      (fault = .invalidPort port ∧ ¬ IsPort port ∧ ¬ Misdigited port) ∨
        Misdigited port ∧ ∃ f, Number.readInteger 10 port = .error f ∧ fault = .unreadablePort f := by
  obtain hport | hmis | hinvalid := readPort_cases port
  · have hnot : ¬ Misdigited port := fun hmis => hmis.not_isPort hport
    obtain ⟨n, hn⟩ := hport.readPort
    simp [hn, hport, hnot]
  · obtain ⟨f, hf⟩ := hmis.readInteger
    simp [readPort_of_digits hmis.filled hmis.digits, hf, hmis.not_isPort, hmis, eq_comm]
  · have hport : ¬ IsPort port := by
      rw [← readPort_ok_iff, hinvalid]
      simp
    have hmis : ¬ Misdigited port := by
      rw [← readPort_unreadable_iff, hinvalid]
      simp
    simp [hinvalid, hport, hmis, eq_comm]

theorem check_error_iff :
    a.check = .error fault ↔
      (a.transport = .unix ∧ ¬ Asked a ∧ fault = .notOnePath) ∨
        (a.transport = .tcp ∧ ∃ port, First a.options "port" port ∧ readPort port = .error fault) := by
  rw [← check_ok_iff]
  cases htransport : a.transport with
  | unix =>
    simp only [check, htransport, true_and, reduceCtorEq, false_and, or_false]
    split <;> simp [eq_comm]
  | tcp =>
    simp only [check, htransport, map_error, ← get?_eq_some_iff, true_and, reduceCtorEq, false_and, false_or]
    cases hport : a.get? "port" with
    | none =>
      -- the port of an address that names none is read
      have hzero : readPort "0" = .ok 0 := rfl
      simp [hzero]
    | some port => simp

/-! ### Texts -/

theorem parse_of_unnamed (h : ':' ∉ text.toList ∨ text.toList.head? = some ':') :
    parse text = .error .noTransport := by
  rw [parse]
  cases hcut : Text.cut ':' text.toList with
  | none => rfl
  | some parts =>
    obtain ⟨name, rest⟩ := parts
    obtain ⟨htext, hfirst⟩ := Text.eq_append_of_cut hcut
    cases name with
    | nil => rfl
    | cons c name =>
      obtain hnone | hhead := h
      · exact absurd (by simp [htext]) hnone
      · rw [htext] at hhead
        cases hhead
        exact absurd (.head _) hfirst

theorem parse_of_named {rest : List Char} (htext : text.toList = name ++ ':' :: rest) (hfirst : ':' ∉ name)
    (hfilled : name ≠ []) :
    parse text =
      match Transport.ofName? name with
      | none => .error (.unknownTransport (String.ofList name))
      | some t => readOptions rest >>= fun options => (check ⟨t, options⟩).map fun _ => ⟨t, options⟩ := by
  obtain ⟨c, name, rfl⟩ := List.exists_cons_of_ne_nil hfilled
  rw [parse, htext, Text.cut_append rest hfirst]
  dsimp only
  cases Transport.ofName? (c :: name) with
  | none => rfl
  | some t =>
    cases readOptions rest with
    | error fault => rfl
    | ok options =>
      cases hcheck : check ⟨t, options⟩ <;>
        simp [hcheck, bind, Except.bind, Except.map, pure, Except.pure]

theorem unnamed_or_named (text : String) :
    (':' ∉ text.toList ∨ text.toList.head? = some ':') ∨
      ∃ name rest, text.toList = name ++ ':' :: rest ∧ ':' ∉ name ∧ name ≠ [] := by
  by_cases hcolon : ':' ∈ text.toList
  · obtain ⟨name, rest, htext, hfirst⟩ := List.eq_append_cons_of_mem hcolon
    cases name with
    | nil => exact .inl (.inr (by rw [htext]; rfl))
    | cons c name => exact .inr ⟨c :: name, rest, htext, hfirst, by simp⟩
  · exact .inl (.inl hcolon)

theorem refused_of_check {t : Transport} {options : List (String × String)} (hlists : Lists text ⟨t, options⟩)
    (h : check ⟨t, options⟩ = .error fault) : Refused text fault := by
  obtain ⟨hunix, hasked, rfl⟩ | ⟨htcp, port, hfirst, hread⟩ := check_error_iff.1 h
  · exact .notOnePath hlists hunix hasked
  · obtain ⟨rfl, hport, hmis⟩ | ⟨hmis, f, hf, rfl⟩ := readPort_error_iff.1 hread
    · exact .invalidPort hlists htcp hfirst hport hmis
    · exact .unreadablePort hlists htcp hfirst hmis hf

theorem refused_of_parse (h : parse text = .error fault) : Refused text fault := by
  obtain hunnamed | ⟨name, rest, htext, hfirst, hfilled⟩ := unnamed_or_named text
  · rw [parse_of_unnamed hunnamed] at h
    cases h
    exact .noTransport hunnamed
  · rw [parse_of_named htext hfirst hfilled] at h
    cases hname : Transport.ofName? name with
    | none =>
      rw [hname] at h
      cases h
      refine .unknownTransport htext hfirst hfilled fun t ht => ?_
      rw [ofName?_eq_some_iff.2 ht] at hname
      cases hname
    | some t =>
      obtain rfl := ofName?_eq_some_iff.1 hname
      rw [hname] at h
      obtain hoptions | ⟨options, hoptions, hcheck⟩ := bind_error.1 h
      · obtain ⟨entries, before, entry, after, hne, hfree, rfl, hentries, hbefore, rfl, hentry⟩ :=
          readOptions_error_iff.1 hoptions
        exact .malformedEntry htext hne hfree hentries hbefore hentry
      · exact refused_of_check (lists_iff.2 ⟨rest, by rw [htext, Text.cut_append rest hfirst], hoptions⟩)
          (map_error.1 hcheck)

theorem parse_of_check (hlists : Lists text a) (h : a.check = .error fault) : parse text = .error fault := by
  rw [parse_of_lists hlists, map_error, h]

/-- A text is refused for one fault or for none, and reading fails with that one. -/
theorem parse_error_iff : parse text = .error fault ↔ Refused text fault := by
  refine ⟨refused_of_parse, fun h => ?_⟩
  cases h with
  | noTransport hunnamed => exact parse_of_unnamed hunnamed
  | @unknownTransport name rest htext hfirst hfilled hunknown =>
    have hname : Transport.ofName? name = none := by
      cases hname : Transport.ofName? name with
      | none => rfl
      | some t => exact absurd (ofName?_eq_some_iff.1 hname) (hunknown t)
    rw [parse_of_named htext hfirst hfilled, hname]
  | @malformedEntry t entries before after entry htext hne hfree hentries hbefore hentry =>
    have hoptions := readOptions_error_iff.2
      ⟨entries, before, entry, after, hne, hfree, rfl, hentries, hbefore, rfl, hentry⟩
    rw [parse_of_named htext (colon_notMem_name t) (name_ne_nil t), ofName?_eq_some_iff.2 rfl, hoptions]
    rfl
  | notOnePath hlists hunix hasked =>
    exact parse_of_check hlists (check_error_iff.2 (.inl ⟨hunix, hasked, rfl⟩))
  | invalidPort hlists htcp hfirst hport hmis =>
    have hread := readPort_error_iff.2 (.inl ⟨rfl, hport, hmis⟩)
    exact parse_of_check hlists (check_error_iff.2 (.inr ⟨htcp, _, hfirst, hread⟩))
  | unreadablePort hlists htcp hfirst hmis hread =>
    have hport := readPort_error_iff.2 (.inr ⟨hmis, _, hread, rfl⟩)
    exact parse_of_check hlists (check_error_iff.2 (.inr ⟨htcp, _, hfirst, hport⟩))

end MessageBus.Address
