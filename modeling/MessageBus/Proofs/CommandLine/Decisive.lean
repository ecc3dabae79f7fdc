import MessageBus.Proofs.CommandLine.Refusal
/-!
Flags that decide. A request for help or for the version, a second configuration and a second descriptor end the
reading of a command line where they stand. Main statement: such a flag decides once all before it was carried out,
and whatever is appended to a command line that was decided so, it ends in the same way.
-/
namespace MessageBus.CommandLine
variable {r : Request} {f : Flag} {fault : Fault} {ts ts' : List Token} {argv : List String} {items : List Item}

/-- The faults that a flag brings about by itself, or against flags before it. -/
inductive Fault.Decisive : Fault → Prop
  | help : Decisive .helpRequested
  | version : Decisive .versionRequested
  | source (earlier : Source) (path : String) (later : Source) : Decisive (.sourceConflict earlier path later)
  | target (earlier later : String) : Decisive (.targetConflict earlier later)

/-! ### More tokens -/

/-- Tokens of a command line, and what they are once more follows: tokens that are there stay, but for what is
left over behind two dashes. -/
inductive Continues : List Token → List Token → Prop
  | ends (more : List Token) : Continues [] more
  | leftOver (texts more : List String) : Continues [.leftOver texts] [.leftOver more]
  | cons (token : Token) {ts ts' : List Token} (h : Continues ts ts') : Continues (token :: ts) (token :: ts')

theorem continues_append (argv more : List String) : Continues (tokens argv) (tokens (argv ++ more)) := by
  induction argv with
  | nil => exact .ends _
  | cons text rest ih =>
    rw [List.cons_append, tokens, tokens]
    split
    · exact .leftOver _ _
    · exact .cons _ ih

theorem bind_error_continues {α β : Type} {x : Except Fault α} {k k' : α → Except Fault β}
    (h : x >>= k = .error fault) (hk : ∀ a, k a = .error fault → k' a = .error fault) :
    x >>= k' = .error fault := by
  obtain hstep | ⟨a, ha, hrest⟩ := bind_error.1 h
  · exact bind_error.2 (.inl hstep)
  · exact bind_error.2 (.inr ⟨a, ha, hk a hrest⟩)

/-- A flag that may take the next argument is not decisive as long as there is none. -/
theorem switch_decisive (h : r.switch f = .error fault) (hdecisive : fault.Decisive) :
    f ≠ .configFile ∧ f ≠ .printAddress := by
  constructor <;> rintro rfl
  · cases h
    cases hdecisive
  · obtain ⟨earlier, later, -, hvalue, -⟩ := announce_error.1 (show r.announce none = .error fault from h)
    cases hvalue

/-- A flag in a token of its own, with nothing for it to take. -/
theorem read_bare_continues (h : r.read (.flag f none :: ts) = .error fault) (hdecisive : fault.Decisive)
    (hnone : ∀ argument rest, ts = .argument argument :: rest → f ≠ .configFile ∧ f ≠ .printAddress)
    (hc : Continues ts ts')
    (ih : ∀ r : Request, r.read ts = .error fault → r.read ts' = .error fault) :
    r.read (.flag f none :: ts') = .error fault := by
  rw [read_bare hnone] at h
  have hnone' : ∀ argument rest, ts' = .argument argument :: rest → f ≠ .configFile ∧ f ≠ .printAddress := by
    rintro argument rest rfl
    cases hc with
    | ends =>
      obtain hstep | ⟨r', -, hend⟩ := bind_error.1 h
      · exact switch_decisive hstep hdecisive
      · cases hend
    | cons token hrest => exact hnone _ _ rfl
  rw [read_bare hnone']
  exact bind_error_continues h ih

/-- A decisive fault stands with the tokens that were read for it. -/
theorem read_continues (h : r.read ts = .error fault) (hdecisive : fault.Decisive) (hc : Continues ts ts') :
    r.read ts' = .error fault := by
  fun_induction Request.read r ts generalizing ts' with
  | case1 => cases h
  | case2 r text rest ih | case3 r text rest ih =>
    obtain - | - | ⟨_, hc⟩ := hc
    obtain - | - | ⟨_, hc⟩ := hc
    exact bind_error_continues h fun r' hrest => ih r' hrest hc
  | case4 r f rest hconfig hprint ih =>
    obtain - | - | ⟨_, hc⟩ := hc
    have hnone : ∀ argument after, rest = .argument argument :: after → f ≠ .configFile ∧ f ≠ .printAddress :=
      fun argument after hrest => ⟨hconfig argument after hrest, hprint argument after hrest⟩
    rw [← read_bare hnone] at h
    exact read_bare_continues h hdecisive hnone hc fun r' hrest => ih r' hrest hc
  | case5 r f value rest ih =>
    obtain - | - | ⟨_, hc⟩ := hc
    rw [Request.read]
    exact bind_error_continues h fun r' hrest => ih r' hrest hc
  | case6 | case7 =>
    obtain - | - | ⟨_, hc⟩ := hc
    exact h
  | case8 r text rest ih | case9 r text rest ih =>
    obtain - | - | ⟨_, hc⟩ := hc
    exact ih h hc
  | case10 r texts rest ih =>
    cases hc with
    | leftOver => cases h
    | cons token hc => exact ih h hc

/-! ### Command lines -/

/-- What a request makes of its descriptor, or of having no configuration, is not decisive. -/
theorem resolve_not_decisive (h : r.resolve = .error fault) : ¬ fault.Decisive := by
  rintro hdecisive
  cases hunused : r.unused with
  | cons first rest =>
    simp only [Request.resolve, hunused] at h
    cases h
    cases hdecisive
  | nil =>
    cases hconfig : r.config with
    | none =>
      simp only [Request.resolve, hunused, hconfig] at h
      cases h
      cases hdecisive
    | some config =>
      rw [resolve_configured hunused hconfig, map_error, Request.target] at h
      split at h
      · cases h
      · split at h
        · cases h
        · rename_i text _
          obtain ⟨n, hn⟩ | hlong | hinvalid := readDescriptor_cases text
          · simp [hn, Except.map] at h
          · rw [map_error, readDescriptor_overlong hlong] at h
            cases h
            cases hdecisive
          · rw [map_error, hinvalid] at h
            cases h
            cases hdecisive

/-- A flag ends the reading of the items before it, whatever stands behind it. -/
theorem parse_of_switch (hsplits : Splits argv items) (hfold : items.foldlM Item.carry .empty = .ok r)
    (h : r.switch f = .error fault) (hdecisive : fault.Decisive) (more : List String) :
    parse (argv ++ f.text :: more) = .error fault := by
  obtain ⟨rfl, hfits⟩ := splits_iff.1 hsplits
  have hflag : ∀ next ∈ (f.text :: more).head?, ¬ isArgument next := by
    intro next hnext
    cases hnext
    exact not_isArgument_text f
  have hother : ∀ argument rest, tokens more = .argument argument :: rest →
      f ≠ .configFile ∧ f ≠ .printAddress := fun _ _ _ => switch_decisive h hdecisive
  refine bind_error.2 (.inl ?_)
  rw [read_items_append hfits hflag, hfold, tokens_text]
  exact (read_bare hother).trans (bind_error.2 (.inl h))

/-- The first flag that decides wins. What is appended to a command line that was decided changes nothing; and
behind items that were carried out, a flag that decides does so whatever follows it. -/
theorem parse_append_of_decisive (argv : List String) :
    (∀ fault, parse argv = .error fault → fault.Decisive →
      ∀ more, parse (argv ++ more) = .error fault) ∧
    ∀ items r f fault, Splits argv items → items.foldlM Item.carry .empty = .ok r →
      r.switch f = .error fault → fault.Decisive →
      ∀ more, parse (argv ++ f.text :: more) = .error fault := by
  refine ⟨fun fault h hdecisive more => ?_, fun items r f fault hsplits hfold h hdecisive more =>
    parse_of_switch hsplits hfold h hdecisive more⟩
  obtain hread | ⟨r, -, hresolve⟩ := bind_error.1 h
  · exact bind_error.2 (.inl (read_continues hread hdecisive (continues_append argv more)))
  · exact absurd hdecisive (resolve_not_decisive hresolve)

/-- Two descriptors decide before anything is said about them, and the version before help. -/
theorem parse_append_of_decisive_early :
    parse ["--print-address", "5", "--print-address=6"] = .error (.targetConflict "5" "6") ∧
      parse ["--print-address", "5", "--print-address=6", "--config-file", "--", "--help"] =
        .error (.targetConflict "5" "6") ∧
      Splits ["--print-address", "5"] [.announceNext "5"] ∧
      parse ["--print-address", "5", "--version", "--help", "-x"] = .error .versionRequested := by
  have htargets : parse ["--print-address", "5", "--print-address=6"] = .error (.targetConflict "5" "6") := rfl
  have hargument : ArgumentToken "5" := isArgument_iff.1 (by decide)
  have hsplits : Splits ["--print-address", "5"] [.announceNext "5"] := .announceNext hargument .nil
  exact ⟨htargets,
    (parse_append_of_decisive _).1 _ htargets (.target "5" "6") ["--config-file", "--", "--help"], hsplits,
    (parse_append_of_decisive _).2 _ _ .version _ hsplits rfl rfl .version ["--help", "-x"]⟩

end MessageBus.CommandLine
