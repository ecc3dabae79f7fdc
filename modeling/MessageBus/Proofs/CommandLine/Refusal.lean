import MessageBus.Proofs.CommandLine.Grammar
/-!
How command lines are refused. Main statement: a command line gives options or a usage fault, unless it asks
for one configuration and for a descriptor of more digits than can be read; any other value that denotes no
descriptor is refused as such.
-/
namespace MessageBus.CommandLine
variable {r r' : Request} {f : Flag} {fault : Fault} {ts : List Token} {argv : List String}
  {items : List Item} {source : Source} {path text : String} {n : Nat}

/-- A descriptor in ASCII digits that has more of them than can be read. -/
structure Overlong (text : String) : Prop where
  digits : ∀ c ∈ text.toList, Text.isAsciiDigit c = true
  long : 4300 < text.toList.length

/-- The command line splits into items that name one configuration, and a descriptor that is too long. -/
def Overruns (argv : List String) : Prop :=
  ∃ items source path text, Splits argv items ∧ Configures items source path ∧
    descriptors items = [text] ∧ Overlong text

/-! ### Faults of tokens -/

theorem configure_usage {path : Option String} (h : r.configure source path = .error fault) :
    fault.code? ≠ none := by
  obtain ⟨earlier, named, -, rfl⟩ := configure_error.1 h
  simp [Fault.code?]

theorem announce_usage {value : Option String} (h : r.announce value = .error fault) :
    fault.code? ≠ none := by
  obtain ⟨earlier, later, -, -, rfl⟩ := announce_error.1 h
  simp [Fault.code?]

theorem switch_usage (h : r.switch f = .error fault) : fault.code? ≠ none := by
  cases f with
  | system | session => exact configure_usage h
  | printAddress => exact announce_usage (show r.announce none = .error fault from h)
  | help | version | configFile =>
    cases h
    simp [Fault.code?]

theorem assign_usage {value : String} (h : r.assign value f = .error fault) : fault.code? ≠ none := by
  cases f with
  | configFile => exact configure_usage h
  | printAddress => exact announce_usage h
  | _ =>
    cases h
    simp [Fault.code?]

theorem letters_usage (rest : String) : (letters rest).code? ≠ none := by
  unfold letters
  dsimp only
  split <;> simp [Fault.code?]

theorem usage_of_bind {α β : Type} {x : Except Fault α} {k : α → Except Fault β}
    (hx : ∀ fault, x = .error fault → fault.code? ≠ none)
    (hk : ∀ a, k a = .error fault → fault.code? ≠ none) (h : x >>= k = .error fault) :
    fault.code? ≠ none := by
  obtain hstep | ⟨a, -, hrest⟩ := bind_error.1 h
  · exact hx fault hstep
  · exact hk a hrest

/-- Nothing but a usage fault ends the reading of tokens. -/
theorem read_usage (h : r.read ts = .error fault) : fault.code? ≠ none := by
  fun_induction Request.read r ts with
  | case1 => cases h
  | case2 r text rest ih => exact usage_of_bind (fun _ => configure_usage) ih h
  | case3 r text rest ih => exact usage_of_bind (fun _ => announce_usage) ih h
  | case4 r f rest _ _ ih => exact usage_of_bind (fun _ => switch_usage) ih h
  | case5 r f value rest ih => exact usage_of_bind (fun _ => assign_usage) ih h
  | case6 =>
    cases h
    simp [Fault.code?]
  | case7 r text rest =>
    cases h
    exact letters_usage text
  | case8 r text rest ih | case9 r text rest ih | case10 r text rest ih => exact ih h

/-! ### Descriptors -/

theorem Overlong.ne_empty (h : Overlong text) : text ≠ "" := by
  rintro rfl
  simpa using h.long

theorem readDescriptor_overlong (h : Overlong text) :
    readDescriptor text = .error (.unreadableDescriptor (.tooLongToRead text.toList.length)) := by
  have hlong : Number.digitLimit < text.toList.length := h.long
  rw [readDescriptor_of_digits h.ne_empty h.digits, if_pos hlong]

/-- A text is read as a descriptor, or too long to be read, or refused. -/
theorem readDescriptor_cases (text : String) :
    (∃ n, readDescriptor text = .ok n) ∨ Overlong text ∨
      readDescriptor text = .error (.invalidDescriptor text) := by
  by_cases hdigits : text ≠ "" ∧ ∀ c ∈ text.toList, Text.isAsciiDigit c = true
  · obtain ⟨hne, hall⟩ := hdigits
    rw [readDescriptor_of_digits hne hall]
    split
    · rename_i hlong
      exact .inr (.inl ⟨hall, hlong⟩)
    · split
      · exact .inl ⟨_, rfl⟩
      · exact .inr (.inr rfl)
  · exact .inr (.inr (if_neg (by simpa using hdigits)))

/-! ### Requests -/

theorem announces_of_descriptors (h : descriptors items = [text]) : announces items = true := by
  by_contra hsilent
  rw [descriptors_of_silent (by simpa using hsilent)] at h
  cases h

/-- With one configuration and one descriptor, the descriptor decides. -/
theorem parse_of_descriptor (hsplits : Splits argv items) (hconfigures : Configures items source path)
    (hvalue : descriptors items = [text]) :
    parse argv = (readDescriptor text).map fun n => ⟨path, source, some n⟩ := by
  let r : Request := ⟨some (source, path), true, some text, []⟩
  have hannounces := announces_of_descriptors hvalue
  have hfold : items.foldlM Item.carry .empty = .ok r :=
    foldlM_carry_ok.2 ⟨named_some.2 hconfigures, given_some.2 hvalue, by simp [r, hannounces], rfl⟩
  rw [parse_of_splits hsplits, hfold]
  cases hread : readDescriptor text <;>
    simp [resolve_configured (r := r) rfl rfl, r, Request.target, hread, Except.map, bind, Except.bind]

/-- Nothing but a descriptor that cannot be read keeps a request from an answer or a usage fault. -/
theorem resolve_unusual (h : r.resolve = .error fault) (hcode : fault.code? = none) :
    ∃ source path text, r.unused = [] ∧ r.config = some (source, path) ∧ r.descriptor = some text ∧
      readDescriptor text = .error fault := by
  cases hunused : r.unused with
  | cons first rest =>
    simp only [Request.resolve, hunused] at h
    cases h
    cases hcode
  | nil =>
    cases hconfig : r.config with
    | none =>
      simp only [Request.resolve, hunused, hconfig] at h
      cases h
      cases hcode
    | some config =>
      obtain ⟨source, path⟩ := config
      rw [resolve_configured hunused hconfig, map_error, Request.target] at h
      split at h
      · cases h
      · split at h
        · cases h
        · rename_i text hdescriptor
          exact ⟨source, path, text, rfl, rfl, hdescriptor, map_error.1 h⟩

theorem overruns_of_parse (h : parse argv = .error fault) (hcode : fault.code? = none) : Overruns argv := by
  obtain hread | ⟨r, hread, hresolve⟩ := bind_error.1 h
  · exact absurd hcode (read_usage hread)
  · obtain ⟨source, path, text, hunused, hconfig, hdescriptor, htext⟩ := resolve_unusual hresolve hcode
    obtain ⟨items, hargv, hfits, hfold⟩ := exists_items hread hunused
    obtain ⟨hnamed, hgiven, -, -⟩ := foldlM_carry_ok.1 hfold
    refine ⟨items, source, path, text, splits_iff.2 ⟨hargv, hfits⟩, named_some.1 (hconfig ▸ hnamed),
      given_some.1 (hdescriptor ▸ hgiven), ?_⟩
    obtain ⟨n, hn⟩ | hlong | hinvalid := readDescriptor_cases text
    · rw [hn] at htext
      cases htext
    · exact hlong
    · rw [hinvalid] at htext
      cases htext
      cases hcode

theorem parse_of_overruns (h : Overruns argv) :
    ∃ digits, parse argv = .error (.unreadableDescriptor (.tooLongToRead digits)) := by
  obtain ⟨items, source, path, text, hsplits, hconfigures, hvalue, hlong⟩ := h
  refine ⟨text.toList.length, ?_⟩
  rw [parse_of_descriptor hsplits hconfigures hvalue, map_error, readDescriptor_overlong hlong]

/-- A command line gives options or a usage fault if and only if it is not one whose descriptor is too long to
be read. A value that denotes no descriptor and is not too long is refused as an invalid one. -/
theorem parse_error_usage (argv : List String) :
    (((∃ o, parse argv = .ok o) ∨ ∃ fault, parse argv = .error fault ∧ fault.code? ≠ none) ↔
        ¬ Overruns argv) ∧
      ∀ items source path text, Splits argv items → Configures items source path →
        descriptors items = [text] → ¬ Overlong text → (∀ n, ¬ Denotes text n) →
        parse argv = .error (.invalidDescriptor text) := by
  refine ⟨⟨?_, ?_⟩, ?_⟩
  · intro h hoverruns
    obtain ⟨digits, hparse⟩ := parse_of_overruns hoverruns
    simp [hparse, Fault.code?] at h
  · intro h
    cases hparse : parse argv with
    | ok o => exact .inl ⟨o, rfl⟩
    | error fault => exact .inr ⟨fault, rfl, fun hcode => h (overruns_of_parse hparse hcode)⟩
  · intro items source path text hsplits hconfigures hvalue hshort hnone
    rw [parse_of_descriptor hsplits hconfigures hvalue, map_error]
    obtain ⟨n, hn⟩ | hlong | hinvalid := readDescriptor_cases text
    · exact absurd (readDescriptor_ok.1 hn).2 (hnone n)
    · exact absurd hlong hshort
    · exact hinvalid

/-- A descriptor with a sign in front is refused, however it is written. -/
theorem parse_error_usage_signed :
    Splits ["--print-address", "-7", "--session"] [.announceNext "-7", .session] ∧
      Configures [.announceNext "-7", .session] .session sessionPath ∧
      descriptors [.announceNext "-7", .session] = ["-7"] ∧ ¬ Overlong "-7" ∧ (∀ n, ¬ Denotes "-7" n) ∧
      parse ["--print-address", "-7", "--session"] = .error (.invalidDescriptor "-7") := by
  have hargument : ArgumentToken "-7" := isArgument_iff.1 (by decide)
  have hsplits : Splits ["--print-address", "-7", "--session"] [.announceNext "-7", .session] :=
    .announceNext hargument (.session .nil)
  have hconfigures : Configures [.announceNext "-7", .session] .session sessionPath := ⟨[], rfl, by simp⟩
  have hsign : ¬ ∀ c ∈ "-7".toList, Text.isAsciiDigit c = true := by
    rw [← List.all_eq_true]
    decide
  have hshort : ¬ Overlong "-7" := fun h => hsign h.digits
  have hnone : ∀ n, ¬ Denotes "-7" n := fun n h => hsign h.digits
  exact ⟨hsplits, hconfigures, rfl, hshort, hnone,
    (parse_error_usage _).2 _ _ _ _ hsplits hconfigures rfl hshort hnone⟩

theorem overlong_replicate (h : 4300 < n) : Overlong (String.ofList (List.replicate n '1')) := by
  constructor
  · intro c hc
    rw [String.toList_ofList] at hc
    rw [List.eq_of_mem_replicate hc]
    rfl
  · rwa [String.toList_ofList, List.length_replicate]

/-- A number that is far too large for a descriptor, and too long to be read. -/
def ones : String := String.ofList (List.replicate 4301 '1')

theorem overlong_ones : Overlong ones := overlong_replicate (by omega)

/-- A command line that is neither accepted nor refused by a usage fault. -/
theorem parse_ones_breaks :
    ¬ ((∃ o, parse ["--session", "--print-address=" ++ ones] = .ok o) ∨
      ∃ fault, parse ["--session", "--print-address=" ++ ones] = .error fault ∧ fault.code? ≠ none) := by
  have hsplits : Splits ["--session", "--print-address=" ++ ones] [.session, .announceEquals ones] :=
    .session (.announceEquals .nil)
  have hconfigures : Configures [.session, .announceEquals ones] .session sessionPath := ⟨[], rfl, by simp⟩
  have hgiven : given ones = some ones := by
    have hdashes : ones ≠ "--" := by
      intro h
      have hlong := overlong_ones.long
      rw [h] at hlong
      simp at hlong
    simp [given, overlong_ones.ne_empty, hdashes]
  have hvalue : descriptors [.session, .announceEquals ones] = [ones] := by
    simp [descriptors, Item.source?, Item.value, hgiven]
  rw [parse_of_descriptor hsplits hconfigures hvalue, readDescriptor_overlong overlong_ones]
  simp [Except.map, Fault.code?]

end MessageBus.CommandLine
