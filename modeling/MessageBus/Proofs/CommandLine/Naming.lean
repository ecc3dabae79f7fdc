import MessageBus.Proofs.CommandLine.Refusal
/-!
Command lines that name the configuration more than once. Main statement: they give options only if every
naming but the last has no value; the first that has one conflicts with the naming behind it.
-/
namespace MessageBus.CommandLine
variable {r : Request} {argv : List String} {items : List Item} {o : Options} {earlier later : Source}
  {path : String} {named : List (Source × Option String)}

/-- The first naming that gives a path, with a naming behind it. -/
def Clashes (items : List Item) (earlier : Source) (path : String) (later : Source) : Prop :=
  ∃ before value after, namings items = before ++ (earlier, some path) :: (later, value) :: after ∧
    ∀ naming ∈ before, naming.2 = none

/-- Some namings meet a configuration that is there, or that one of them gives. -/
def Meets (earlier : Source) (path : String) (later : Source) :
    Option (Source × String) → List (Source × Option String) → Prop
  | _, [] => False
  | some config, (source, _) :: _ => config = (earlier, path) ∧ source = later
  | none, (source, value) :: rest => Meets earlier path later (value.map (source, ·)) rest

theorem meets_of_clash {value : Option String} {after before : List (Source × Option String)}
    (h : ∀ naming ∈ before, naming.2 = none) :
    Meets earlier path later none (before ++ (earlier, some path) :: (later, value) :: after) := by
  induction before with
  | nil => exact ⟨rfl, rfl⟩
  | cons naming before ih =>
    obtain ⟨hnone, hbefore⟩ := List.forall_mem_cons.1 h
    obtain ⟨source, value'⟩ := naming
    obtain rfl : value' = none := hnone
    exact ih hbefore

/-! ### Items in front -/

theorem namings_cons {item : Item} {source : Source} (h : item.source? = some source) :
    namings (item :: items) = (source, item.value) :: namings items := by
  simp [namings, h]

theorem namings_cons_announcement {item : Item} (h : item.source? = none) :
    namings (item :: items) = namings items := by
  simp [namings, h]

theorem descriptors_cons {item : Item} (h : item.source? = none) :
    descriptors (item :: items) = item.value.toList ++ descriptors items := by
  cases hvalue : item.value <;> simp [descriptors, h, hvalue]

theorem descriptors_cons_naming {item : Item} {source : Source} (h : item.source? = some source) :
    descriptors (item :: items) = descriptors items := by
  simp [descriptors, h]

/-! ### Conflicts -/

/-- Where a naming meets a configuration, carrying the items out ends with that conflict, or before it with
one of two descriptors. -/
theorem foldlM_meets (h : Meets earlier path later r.config (namings items)) :
    items.foldlM Item.carry r = .error (.sourceConflict earlier path later) ∨
      2 ≤ r.descriptor.toList.length + (descriptors items).length ∧
        ∃ first second, items.foldlM Item.carry r = .error (.targetConflict first second) := by
  induction items generalizing r with
  | nil => cases hconfig : r.config <;> simp [hconfig, namings, Meets] at h
  | cons item items ih =>
    rw [List.foldlM_cons]
    cases hsource : item.source? with
    | some source =>
      rw [namings_cons hsource] at h
      rw [descriptors_cons_naming hsource]
      cases hconfig : r.config with
      | some config =>
        rw [hconfig] at h
        obtain ⟨rfl, rfl⟩ := h
        have hcarry : item.carry r = .error (.sourceConflict earlier path source) := by
          simp only [Item.carry, hsource]
          exact configure_error.2 ⟨earlier, path, hconfig, rfl⟩
        rw [hcarry]
        exact .inl rfl
      | none =>
        rw [hconfig] at h
        rw [(carry_configures hsource).2 ⟨hconfig, rfl⟩]
        exact @ih { r with config := item.value.map (source, ·) } h
    | none =>
      rw [namings_cons_announcement hsource] at h
      rw [descriptors_cons hsource]
      by_cases hfree : item.value = none ∨ r.descriptor = none
      · have hcount : r.descriptor.toList.length + (item.value.toList ++ descriptors items).length =
            (item.value.or r.descriptor).toList.length + (descriptors items).length := by
          obtain hvalue | hdescriptor := hfree
          · simp [hvalue]
          · simp [hdescriptor]
        rw [hcount, (carry_announces hsource).2 ⟨hfree, rfl⟩]
        exact @ih { r with announced := true, descriptor := item.value.or r.descriptor } h
      · obtain ⟨hvalue, hdescriptor⟩ := not_or.1 hfree
        obtain ⟨second, hsecond⟩ := Option.ne_none_iff_exists'.1 hvalue
        obtain ⟨first, hfirst⟩ := Option.ne_none_iff_exists'.1 hdescriptor
        have hcarry : item.carry r = .error (.targetConflict first second) := by
          simp only [Item.carry, hsource]
          exact announce_error.2 ⟨first, second, hfirst, hsecond, rfl⟩
        rw [hcarry]
        exact .inr ⟨by simp [hfirst, hsecond]; omega, first, second, rfl⟩

/-- What items ask for is given if they name one configuration and agree about the announcement. -/
theorem parse_ok_of_splits (h : Splits argv items) :
    parse argv = .ok o ↔ Configures items o.source o.path ∧ Announces items o.target := by
  rw [parse_of_splits h, bind_ok]
  constructor
  · rintro ⟨r, hfold, hresolve⟩
    obtain ⟨hnamed, hgiven, hannounced, -⟩ := foldlM_carry_ok.1 hfold
    obtain ⟨-, hconfig, htarget⟩ := resolve_ok.1 hresolve
    exact ⟨named_some.1 (hconfig ▸ hnamed),
      (target_ok hgiven (by simpa [Request.empty] using hannounced)).1 htarget⟩
  · rintro ⟨hconfigures, hannounces⟩
    obtain ⟨descriptor, hgiven⟩ := hannounces.exists_given
    have hfold : items.foldlM Item.carry .empty =
        .ok ⟨some (o.source, o.path), announces items, descriptor, []⟩ :=
      foldlM_carry_ok.2 ⟨named_some.2 hconfigures, hgiven, by simp [Request.empty], rfl⟩
    exact ⟨_, hfold, resolve_ok.2 ⟨rfl, rfl, (target_ok hgiven rfl).2 hannounces⟩⟩

/-- Items that name the configuration twice give options if and only if nothing but empty namings stand
before the last, which is not. A naming that gives a path conflicts with the next one, and both flags are
told, unless two descriptors conflict before. -/
theorem parse_named_again (hsplits : Splits argv items) (htwo : 2 ≤ (namings items).length) :
    ((∃ o, parse argv = .ok o) ↔
      (∃ before source path, before ≠ [] ∧ namings items = before ++ [(source, some path)] ∧
        ∀ naming ∈ before, naming.2 = none) ∧ ∃ target, Announces items target) ∧
    ∀ earlier path later, Clashes items earlier path later →
      parse argv = .error (.sourceConflict earlier path later) ∨
        2 ≤ (descriptors items).length ∧
          ∃ first second, parse argv = .error (.targetConflict first second) := by
  refine ⟨⟨?_, ?_⟩, ?_⟩
  · rintro ⟨o, ho⟩
    obtain ⟨⟨before, hnamings, hnone⟩, hannounces⟩ := (parse_ok_of_splits hsplits).1 ho
    have hbefore : before ≠ [] := by
      rintro rfl
      simp [hnamings] at htwo
    exact ⟨⟨before, o.source, o.path, hbefore, hnamings, hnone⟩, o.target, hannounces⟩
  · rintro ⟨⟨before, source, path, -, hnamings, hnone⟩, target, hannounces⟩
    exact ⟨⟨path, source, target⟩,
      (parse_ok_of_splits hsplits).2 ⟨⟨before, hnamings, hnone⟩, hannounces⟩⟩
  · rintro earlier path later ⟨before, value, after, hnamings, hnone⟩
    have hmeets : Meets earlier path later Request.empty.config (namings items) :=
      hnamings ▸ meets_of_clash hnone
    rw [parse_of_splits hsplits]
    obtain hfold | ⟨hcount, first, second, hfold⟩ := foldlM_meets hmeets
    · exact .inl (by rw [hfold]; rfl)
    · exact .inr ⟨by simpa [Request.empty] using hcount, first, second, by rw [hfold]; rfl⟩

theorem splits_configEquals_empty (h : Splits argv items) :
    Splits ("--config-file=" :: argv) (.configEquals "" :: items) := by
  rw [← String.append_empty (s := "--config-file=")]
  exact .configEquals h

/-- An empty path is passed over, and the path behind it conflicts with the flag that follows. -/
theorem parse_named_again_thrice :
    Splits ["--config-file=", "--config-file", "a b", "--print-address", "--system"]
        [.configEquals "", .configNext "a b", .announce, .system] ∧
      2 ≤ (namings [.configEquals "", .configNext "a b", .announce, .system]).length ∧
      Clashes [.configEquals "", .configNext "a b", .announce, .system] .configFile "a b" .system ∧
      parse ["--config-file=", "--config-file", "a b", "--print-address", "--system"] =
        .error (.sourceConflict .configFile "a b" .system) := by
  have hargument : ArgumentToken "a b" := isArgument_iff.1 (by decide)
  have hflag : ∀ next ∈ ["--system"].head?, ¬ ArgumentToken next := by
    intro next hnext
    cases hnext
    exact fun h => absurd (isArgument_iff.2 h) (by decide)
  have hsplits : Splits ["--config-file=", "--config-file", "a b", "--print-address", "--system"]
      [.configEquals "", .configNext "a b", .announce, .system] :=
    splits_configEquals_empty (.configNext hargument (.announce hflag (.system .nil)))
  have htwo : 2 ≤ (namings [.configEquals "", .configNext "a b", .announce, .system]).length := by decide
  have hclashes : Clashes [.configEquals "", .configNext "a b", .announce, .system]
      .configFile "a b" .system :=
    ⟨[(.configFile, none)], some systemPath, [], rfl, by simp⟩
  refine ⟨hsplits, htwo, hclashes, ?_⟩
  obtain h | ⟨hcount, -⟩ := (parse_named_again hsplits htwo).2 _ _ _ hclashes
  · exact h
  · exact absurd hcount (by decide)

/-- Two flags that name the configuration, and options that are given all the same. -/
theorem parse_empty_naming_given :
    Splits ["--config-file=", "--session"] [.configEquals "", .session] ∧
      2 ≤ (namings [.configEquals "", .session]).length ∧
      parse ["--config-file=", "--session"] = .ok ⟨sessionPath, .session, none⟩ :=
  ⟨splits_configEquals_empty (.session .nil), by decide, rfl⟩

end MessageBus.CommandLine
