import MessageBus.CommandLine.Restart
import MessageBus.Proofs.CommandLine.Item
/-!
The command line of a restart. Main statement: the next run asks for the same configuration, and for
the announcement only if its descriptor is still open.
-/
namespace MessageBus.CommandLine
variable {r r' : Request} {f : Flag} {o : Options} {argv : List String} {items : List Item}
  {text : String}

/-- The item asks for the announcement. -/
def Item.isAnnouncement (item : Item) : Bool := item.source?.isNone

/-- The request without what it says about the announcement. -/
def Request.silenced (r : Request) : Request :=
  { r with announced := false, descriptor := none }

theorem printAddress_text : Flag.printAddress.text = "--print-address" := by decide

theorem isPrefixOf_text :
    "--print-address=".toList.isPrefixOf text.toList = true ↔
      ∃ value, text = Flag.printAddress.textWith value := by
  rw [List.isPrefixOf_iff_prefix]
  constructor
  · rintro ⟨value, hvalue⟩
    refine ⟨String.ofList value, String.toList_inj.1 ?_⟩
    rw [← hvalue]
    simp [Flag.textWith, Flag.long, Flag.name]
  · rintro ⟨value, rfl⟩
    exact ⟨value.toList, by simp [Flag.textWith, Flag.long, Flag.name]⟩

/-- What is no request for an announcement stays. -/
theorem withoutAnnouncement_other (h : ∀ value, classify text ≠ .flag .printAddress value)
    (rest : List String) :
    withoutAnnouncement (text :: rest) = text :: withoutAnnouncement rest := by
  have hequals : ¬ "--print-address=".toList.isPrefixOf text.toList = true := by
    rw [isPrefixOf_text]
    rintro ⟨value, rfl⟩
    exact h _ (classify_textWith _ _)
  have hname : text ≠ "--print-address" := by
    rintro rfl
    exact h none (printAddress_text ▸ classify_text _)
  rw [withoutAnnouncement.eq_def]
  simp only [if_neg hequals, if_neg hname]

theorem withoutAnnouncement_text (hf : f ≠ .printAddress) (rest : List String) :
    withoutAnnouncement (f.text :: rest) = f.text :: withoutAnnouncement rest :=
  withoutAnnouncement_other (by simp [classify_text, hf]) rest

theorem withoutAnnouncement_argument (h : isArgument text) (rest : List String) :
    withoutAnnouncement (text :: rest) = text :: withoutAnnouncement rest :=
  withoutAnnouncement_other (by simp [h.2]) rest

theorem withoutAnnouncement_textWith (value : String) (rest : List String) :
    withoutAnnouncement (Flag.printAddress.textWith value :: rest) = withoutAnnouncement rest := by
  have hequals := isPrefixOf_text.2 ⟨value, rfl⟩
  rw [withoutAnnouncement.eq_def]
  simp only [if_pos hequals]

/-- The bare flag takes the text after it along, unless that looks like a flag. -/
theorem withoutAnnouncement_bare (rest : List String) :
    withoutAnnouncement (Flag.printAddress.text :: rest) =
      withoutAnnouncement (if rest.head?.any (!looksLikeFlag ·) then rest.tail else rest) := by
  have hequals : ¬ "--print-address=".toList.isPrefixOf "--print-address".toList = true := by decide
  rw [printAddress_text, withoutAnnouncement.eq_def]
  simp only [if_neg hequals, if_true]
  cases rest with
  | nil => simp [withoutAnnouncement]
  | cons value after => cases h : looksLikeFlag value <;> simp [h]

theorem looksLikeFlag_long (rest : List Char) :
    looksLikeFlag (String.ofList ('-' :: '-' :: rest)) = true := by
  have hdash : isDecimalDigit '-' = false := by decide
  simp [looksLikeFlag, isNumeral, hdash]

/-- The first text of an item looks like a flag. -/
theorem looksLikeFlag_head {rest : List String} (h : items.flatMap Item.texts = text :: rest) :
    looksLikeFlag text = true := by
  cases items with
  | nil => simp at h
  | cons item items =>
    cases item <;> simp [Item.texts] at h <;> rw [← h.1] <;> exact looksLikeFlag_long _

/-- The scan for the announcement sees the same items as the reading. -/
theorem withoutAnnouncement_items (h : ∀ item ∈ items, item.Fits)
    (hvalues : ∀ argument, .announceNext argument ∈ items → looksLikeFlag argument = false) :
    withoutAnnouncement (items.flatMap Item.texts) =
      (items.filter (!·.isAnnouncement)).flatMap Item.texts := by
  induction items with
  | nil => rfl
  | cons item items ih =>
    have hfits := h item (.head _)
    have hrest := ih (fun i hi => h i (.tail _ hi)) fun a ha => hvalues a (.tail _ ha)
    rw [List.flatMap_cons]
    cases item with
    | system | session =>
      simp [Item.texts, Item.isAnnouncement, Item.source?, withoutAnnouncement_text, hrest]
    | configEquals value =>
      have hother := fun v : Option String => show classify (Flag.configFile.textWith value) ≠
        .flag .printAddress v by simp [classify_textWith]
      simp [Item.texts, Item.isAnnouncement, Item.source?, withoutAnnouncement_other hother, hrest]
    | configNext argument =>
      simp [Item.texts, Item.isAnnouncement, Item.source?, withoutAnnouncement_text,
        withoutAnnouncement_argument hfits, hrest]
    | announceEquals value =>
      simp [Item.texts, Item.isAnnouncement, Item.source?, withoutAnnouncement_textWith, hrest]
    | announceNext argument =>
      have hvalue := hvalues argument (.head _)
      simp [Item.texts, Item.isAnnouncement, Item.source?, withoutAnnouncement_bare, hvalue, hrest]
    | announce =>
      have hnone : (items.flatMap Item.texts).head?.any (!looksLikeFlag ·) = false := by
        cases htexts : items.flatMap Item.texts with
        | nil => rfl
        | cons text rest => simp [looksLikeFlag_head htexts]
      simp only [Item.texts, List.singleton_append, withoutAnnouncement_bare, hnone]
      simp [Item.isAnnouncement, Item.source?, hrest]

/-- An item says what it says about the configuration whatever was said about the announcement. -/
theorem carry_silenced {item : Item} (h : item.carry r = .ok r') :
    if item.isAnnouncement then r'.silenced = r.silenced
    else item.carry r.silenced = .ok r'.silenced := by
  unfold Item.carry at h ⊢
  unfold Item.isAnnouncement
  cases hsource : item.source? with
  | none =>
    rw [hsource] at h
    obtain ⟨-, rfl⟩ := announce_ok.1 h
    rfl
  | some source =>
    rw [hsource] at h
    obtain ⟨hnone, rfl⟩ := configure_ok.1 h
    exact configure_ok.2 ⟨hnone, rfl⟩

theorem foldlM_silenced (h : items.foldlM Item.carry r = .ok r') :
    (items.filter (!·.isAnnouncement)).foldlM Item.carry r.silenced = .ok r'.silenced := by
  induction items generalizing r with
  | nil =>
    have : r = r' := by simpa [pure, Except.pure] using h
    simp [this]; rfl
  | cons item items ih =>
    rw [List.foldlM_cons] at h
    obtain ⟨r₁, hstep, hrest⟩ := bind_ok.1 h
    have hsilenced := carry_silenced hstep
    by_cases hitem : item.isAnnouncement
    · simp only [hitem, if_true] at hsilenced
      simpa [hitem, hsilenced] using ih hrest
    · simp only [hitem, if_false, Bool.false_eq_true] at hsilenced
      simpa [hitem, bind_ok] using ⟨_, hsilenced, ih hrest⟩

/-- What was said about the announcement is not taken back. -/
theorem carry_announced {item : Item} {value : String} (h : item.carry r = .ok r')
    (hr : r.announced = true ∧ r.descriptor = some value) :
    r'.announced = true ∧ r'.descriptor = some value := by
  unfold Item.carry at h
  split at h
  · obtain ⟨-, rfl⟩ := configure_ok.1 h
    exact hr
  · obtain ⟨hnone | hnone, rfl⟩ := announce_ok.1 h
    · simp [hnone, hr]
    · simp [hr] at hnone

theorem foldlM_announced {value : String} (h : items.foldlM Item.carry r = .ok r')
    (hr : r.announced = true ∧ r.descriptor = some value) :
    r'.announced = true ∧ r'.descriptor = some value := by
  induction items generalizing r with
  | nil =>
    have : r = r' := by simpa [pure, Except.pure] using h
    exact this ▸ hr
  | cons item items ih =>
    rw [List.foldlM_cons] at h
    obtain ⟨r₁, hstep, hrest⟩ := bind_ok.1 h
    exact ih hrest (carry_announced hstep hr)

/-- A value that was given for the descriptor is the one that is kept. -/
theorem foldlM_descriptor {argument value : String} (h : items.foldlM Item.carry r = .ok r')
    (hmem : .announceNext argument ∈ items) (hvalue : given argument = some value) :
    r'.announced = true ∧ r'.descriptor = some value := by
  induction items generalizing r with
  | nil => simp at hmem
  | cons item items ih =>
    rw [List.foldlM_cons] at h
    obtain ⟨r₁, hstep, hrest⟩ := bind_ok.1 h
    obtain rfl | hmem := List.mem_cons.1 hmem
    · obtain ⟨-, rfl⟩ := announce_ok.1 hstep
      exact foldlM_announced hrest ⟨rfl, by simp [Item.value, hvalue]⟩
    · exact ih hrest hmem

theorem readDescriptor_digits {n : Nat} (h : readDescriptor text = .ok n) :
    text.toList.all Text.isAsciiDigit = true := by
  unfold readDescriptor at h
  split at h
  · simp_all
  · simp at h

/-- The value of a descriptor on an accepted command line does not look like a flag. -/
theorem looksLikeFlag_value {argument : String} (h : items.foldlM Item.carry r = .ok r')
    (hresolve : r'.resolve = .ok o) (hmem : .announceNext argument ∈ items)
    (hfits : isArgument argument) : looksLikeFlag argument = false := by
  cases hvalue : given argument with
  | none =>
    have hempty : argument = "" := by
      simpa [given, hfits.1] using hvalue
    subst hempty
    decide
  | some value =>
    obtain ⟨hannounced, hdescriptor⟩ := foldlM_descriptor h hmem hvalue
    have hsame : argument = value := by
      simp [given] at hvalue
      exact hvalue.2
    subst hsame
    have hread : ∃ n, readDescriptor argument = .ok n := by
      have htarget := (resolve_ok.1 hresolve).2.2
      simp only [Request.target, hannounced, hdescriptor, Bool.not_true, if_false,
        Bool.false_eq_true] at htarget
      obtain ⟨n, hn, -⟩ := map_ok.1 htarget
      exact ⟨n, hn⟩
    obtain ⟨n, hn⟩ := hread
    have hdigits := readDescriptor_digits hn
    unfold looksLikeFlag
    split
    · next rest htext =>
      have hdash : Text.isAsciiDigit '-' = false := by decide
      simp [htext, hdash] at hdigits
    · rfl

theorem resolve_silenced (h : r.resolve = .ok o) :
    r.silenced.resolve = .ok { o with target := none } := by
  obtain ⟨hunused, hconfig, -⟩ := resolve_ok.1 h
  exact resolve_ok.2 ⟨hunused, hconfig, rfl⟩

/-- Without the requests for an announcement a command line is accepted as before. -/
theorem parse_withoutAnnouncement (h : parse argv = .ok o) :
    parse (withoutAnnouncement argv) = .ok { o with target := none } := by
  obtain ⟨items, r, rfl, hfits, hfold, hresolve⟩ := parse_ok.1 h
  have hvalues : ∀ argument, .announceNext argument ∈ items → looksLikeFlag argument = false :=
    fun argument hmem => looksLikeFlag_value hfold hresolve hmem (hfits _ hmem)
  refine parse_ok.2 ⟨items.filter (!·.isAnnouncement), r.silenced, ?_, ?_, ?_, ?_⟩
  · exact withoutAnnouncement_items hfits hvalues
  · intro item hmem
    exact hfits item (List.mem_filter.1 hmem).1
  · exact foldlM_silenced hfold
  · exact resolve_silenced hresolve

/-- The launcher is what stands before the arguments. -/
theorem launcher_append (before argv : List String) (name : String) :
    launcher (before ++ argv) (name :: argv) = before := by
  have hindex : ((before ++ argv).length : Int) - (name :: argv).length + 1 = before.length := by
    simp only [List.length_append, List.length_cons]
    omega
  rw [launcher, hindex, upTo, if_pos (by omega)]
  simp

/-- A restart asks for what was asked before, but for an announcement whose descriptor was closed.
Restarting the restarted run asks for the same again. -/
theorem restartCommand_faithful (h : parse argv = .ok o) :
    ∃ (again : List String) (o' : Options),
      (∀ whole visible,
        restartCommand argv o.target whole visible = launcher whole visible ++ again) ∧
      parse again = .ok o' ∧ o'.path = o.path ∧ o'.source = o.source ∧
      (o.target.all (· ≤ lastStandardStream) = true → o'.target = o.target) ∧
      (o.target.any (lastStandardStream < ·) = true → o'.target = none) ∧
      (∀ whole visible,
        restartCommand again o'.target whole visible = launcher whole visible ++ again) ∧
      ∀ before name,
        launcher (before ++ argv) (name :: argv) = before := by
  by_cases htarget : o.target.any (lastStandardStream < ·) = true
  · have hagain : restartArguments argv o.target = withoutAnnouncement argv := if_pos htarget
    refine ⟨withoutAnnouncement argv, { o with target := none }, ?_, parse_withoutAnnouncement h,
      rfl, rfl, ?_, fun _ => rfl, fun _ _ => rfl, fun before => launcher_append before argv⟩
    · intro whole visible
      rw [restartCommand, hagain]
    · intro hall
      cases htext : o.target with
      | none => rfl
      | some n =>
        simp [htext] at htarget hall
        omega
  · have hagain : restartArguments argv o.target = argv := if_neg htarget
    have hsame : ∀ whole visible,
        restartCommand argv o.target whole visible = launcher whole visible ++ argv := by
      intro whole visible
      rw [restartCommand, hagain]
    exact ⟨argv, o, hsame, h, rfl, rfl, fun _ => rfl, fun htrue => absurd htrue htarget, hsame,
      fun before => launcher_append before argv⟩

/-- The path has a dash in front, and the descriptor is closed after the announcement. -/
theorem restartCommand_faithful_dashed :
    parse ["--print-address", "7", "--config-file", "-1 x"] =
      .ok ⟨"-1 x", .configFile, some 7⟩ ∧
    ∃ (again : List String) (o' : Options),
      (∀ whole visible,
        restartCommand ["--print-address", "7", "--config-file", "-1 x"] (some 7) whole visible =
          launcher whole visible ++ again) ∧
      parse again = .ok o' ∧ o'.path = "-1 x" ∧ o'.source = .configFile ∧
      ((some 7).all (· ≤ lastStandardStream) = true → o'.target = some 7) ∧
      ((some 7).any (lastStandardStream < ·) = true → o'.target = none) ∧
      (∀ whole visible,
        restartCommand again o'.target whole visible = launcher whole visible ++ again) ∧
      ∀ before name,
        launcher (before ++ ["--print-address", "7", "--config-file", "-1 x"])
          (name :: ["--print-address", "7", "--config-file", "-1 x"]) = before := by
  have hparse : parse ["--print-address", "7", "--config-file", "-1 x"] =
      .ok ⟨"-1 x", .configFile, some 7⟩ := by
    rfl
  exact ⟨hparse, restartCommand_faithful hparse⟩

end MessageBus.CommandLine
