import MessageBus.CommandLine.Options
import MessageBus.Proofs.Result
/-!
The grammar of command lines. An accepted command line is a list of items, each of them a flag with
the value that belongs to it, and reading it carries the items out in order.
-/
namespace MessageBus.CommandLine
variable {r r' : Request} {f : Flag} {cs : List Char} {argv : List String}

/-- The flag as a whole token. -/
def Flag.text (f : Flag) : String := String.ofList f.long

/-- The flag and a value in one token. -/
def Flag.textWith (f : Flag) (value : String) : String :=
  String.ofList (f.long ++ '=' :: value.toList)

theorem flagOf?_long (f : Flag) : flagOf? f.long = some f := by
  cases f <;> decide

theorem eq_long (h : flagOf? cs = some f) : cs = f.long := by
  have hlong := List.find?_some h
  exact (beq_iff_eq.1 hlong).symm

theorem equals_notMem_long (f : Flag) : '=' ∉ f.long := by
  cases f <;> decide

theorem flagOf?_equals (f : Flag) (cs : List Char) : flagOf? (f.long ++ '=' :: cs) = none := by
  refine Option.eq_none_iff_forall_ne_some.2 fun g hg => ?_
  apply equals_notMem_long g
  simp [← eq_long hg]

theorem classify_text (f : Flag) : classify f.text = .flag f none := by
  have hflag := flagOf?_long f
  simp only [Flag.long] at hflag
  simp [classify, Flag.text, Flag.long, classifyDashed, hflag]

theorem classify_textWith (f : Flag) (value : String) :
    classify (f.textWith value) = .flag f (some value) := by
  have hnone := flagOf?_equals f value.toList
  have hcut := Text.cut_append value.toList (equals_notMem_long f)
  have hflag := flagOf?_long f
  have hname : f.name.toList ≠ [] := by cases f <;> decide
  obtain ⟨c, name, hc⟩ := List.exists_cons_of_ne_nil hname
  simp only [Flag.long, List.cons_append, hc] at hnone hcut hflag
  simp [classify, Flag.textWith, Flag.long, classifyDashed, hc, hnone, hcut, hflag, isHelpLetter]

/-- Every class of a token, with what it says about the text. -/
theorem classify_cases (text : String) :
    (∃ f, classify text = .flag f none ∧ text = f.text) ∨
    (∃ f value, classify text = .flag f (some value) ∧ text = f.textWith value) ∨
    (∃ rest, classify text = .letter rest) ∨
    classify text = .argument text ∨ classify text = .unknown text := by
  unfold classify
  split
  case h_2 => simp
  case h_1 rest heq =>
    unfold classifyDashed
    split
    case h_1 f hflag =>
      have htext : text = f.text := by
        rw [Flag.text, ← eq_long hflag, ← heq, String.ofList_toList]
      exact .inl ⟨f, rfl, htext⟩
    case h_3 => simp
    case h_2 c after _ _ =>
      split
      · simp
      · dsimp only
        split
        · rename_i token hnamed
          obtain ⟨⟨before, value⟩, hcut, hnamed⟩ := Option.bind_eq_some_iff.1 hnamed
          dsimp only at hnamed
          split at hnamed
          · split at hnamed <;> simp at hnamed
            exact .inr (.inr (.inl ⟨_, hnamed.symm⟩))
          · obtain ⟨f, hflag, rfl⟩ := Option.map_eq_some_iff.1 hnamed
            have htext : text = f.textWith (String.ofList value) := by
              rw [Flag.textWith, String.toList_ofList, ← eq_long hflag,
                ← (Text.eq_append_of_cut hcut).1, ← heq, String.ofList_toList]
            exact .inr (.inl ⟨f, _, rfl, htext⟩)
        · split
          · simp
          · split <;> simp

/-- A text that a flag takes as its value. -/
def isArgument (text : String) : Prop :=
  text ≠ "--" ∧ classify text = .argument text

instance : DecidablePred isArgument := fun _ => inferInstanceAs (Decidable (_ ∧ _))

/-- One request of a command line, with the value that it is given. -/
inductive Item
  | system
  | session
  | configEquals (value : String)
  | configNext (argument : String)
  | announceEquals (value : String)
  | announceNext (argument : String)
  | announce
  deriving DecidableEq

namespace Item

/-- The item as it is written. -/
def texts : Item → List String
  | system => [Flag.system.text]
  | session => [Flag.session.text]
  | configEquals value => [Flag.configFile.textWith value]
  | configNext argument => [Flag.configFile.text, argument]
  | announceEquals value => [Flag.printAddress.textWith value]
  | announceNext argument => [Flag.printAddress.text, argument]
  | announce => [Flag.printAddress.text]

/-- What stands in a token of its own can be an argument. -/
def Fits : Item → Prop
  | configNext argument | announceNext argument => isArgument argument
  | _ => True

/-- The flag that the item names the configuration with; the others ask for the announcement. -/
def source? : Item → Option Source
  | system => some .system
  | session => some .session
  | configEquals _ | configNext _ => some .configFile
  | announceEquals _ | announceNext _ | announce => none

/-- The value that the item gives. -/
def value : Item → Option String
  | system => some systemPath
  | session => some sessionPath
  | configEquals text | configNext text | announceEquals text | announceNext text => given text
  | announce => none

/-- What the item does to the request. -/
def carry (r : Request) (item : Item) : Except Fault Request :=
  match item.source? with
  | some source => r.configure source item.value
  | none => r.announce item.value

end Item

theorem not_isArgument_text (f : Flag) : ¬ isArgument f.text := by
  simp [isArgument, classify_text]

theorem not_isArgument_textWith (f : Flag) (value : String) : ¬ isArgument (f.textWith value) := by
  simp [isArgument, classify_textWith]

theorem text_ne_dashes (f : Flag) : f.text ≠ "--" := by
  cases f <;> decide

theorem textWith_ne_dashes (f : Flag) (value : String) : f.textWith value ≠ "--" := by
  intro h
  have hlist := congrArg String.toList h
  cases f <;> simp [Flag.textWith, Flag.long, Flag.name] at hlist

@[simp] theorem tokens_text (f : Flag) (rest : List String) :
    tokens (f.text :: rest) = .flag f none :: tokens rest := by
  simp [tokens, text_ne_dashes, classify_text]

@[simp] theorem tokens_textWith (f : Flag) (value : String) (rest : List String) :
    tokens (f.textWith value :: rest) = .flag f (some value) :: tokens rest := by
  simp [tokens, textWith_ne_dashes, classify_textWith]

theorem tokens_argument {text : String} (h : isArgument text) (rest : List String) :
    tokens (text :: rest) = .argument text :: tokens rest := by
  simp [tokens, h.1, h.2]

/-- A token that is read as an argument is one. -/
theorem isArgument_of_tokens {argument : String} {rest : List Token}
    (h : tokens argv = .argument argument :: rest) :
    ∃ after, argv = argument :: after ∧ isArgument argument ∧ rest = tokens after := by
  cases argv with
  | nil => simp [tokens] at h
  | cons text after =>
    unfold tokens at h
    split at h
    · simp at h
    · rename_i hdashes
      injection h with hclass hrest
      obtain ⟨f, hf, -⟩ | ⟨f, value, hf, -⟩ | ⟨letters, hf⟩ | hf | hf := classify_cases text <;>
        simp [hf] at hclass
      subst hclass
      exact ⟨after, rfl, ⟨hdashes, hf⟩, hrest.symm⟩

/-- The first text of an item is no argument, nor is what stands behind the last item if that is none. -/
theorem not_isArgument_head {items : List Item} {text : String} {after rest : List String}
    (hafter : ∀ next ∈ after.head?, ¬ isArgument next)
    (h : items.flatMap Item.texts ++ after = text :: rest) : ¬ isArgument text := by
  cases items with
  | nil => exact hafter text (by simpa using congrArg List.head? h)
  | cons item items =>
    cases item <;> simp [Item.texts] at h <;> rw [← h.1] <;>
      simp [not_isArgument_text, not_isArgument_textWith]

/-- A flag that takes nothing from the tokens after it. -/
theorem read_bare {ts : List Token}
    (h : ∀ argument rest, ts = .argument argument :: rest → f ≠ .configFile ∧ f ≠ .printAddress) :
    r.read (.flag f none :: ts) = r.switch f >>= fun r => r.read ts := by
  cases ts with
  | nil => cases f <;> rfl
  | cons token rest =>
    cases token with
    | argument argument =>
      have hother := h argument rest rfl
      cases f <;> simp at hother <;> rfl
    | _ => cases f <;> rfl

/-- Items are read by carrying them out in order, and then what stands behind them, if that is no argument. -/
theorem read_items_append {items : List Item} {after : List String} (h : ∀ item ∈ items, item.Fits)
    (hafter : ∀ next ∈ after.head?, ¬ isArgument next) (r : Request) :
    r.read (tokens (items.flatMap Item.texts ++ after)) =
      items.foldlM Item.carry r >>= fun r => r.read (tokens after) := by
  induction items generalizing r with
  | nil => rfl
  | cons item items ih =>
    have hrest := ih fun i hi => h i (.tail _ hi)
    have hfits := h item (.head _)
    rw [List.foldlM_cons, List.flatMap_cons, List.append_assoc, bind_assoc]
    cases item with
    | announce =>
      have hbare : ∀ argument rest,
          tokens (items.flatMap Item.texts ++ after) ≠ .argument argument :: rest := by
        intro argument rest hts
        obtain ⟨texts, htexts, harg, -⟩ := isArgument_of_tokens hts
        exact not_isArgument_head hafter htexts harg
      rw [Item.texts, List.singleton_append, tokens_text,
        read_bare fun argument rest hts => absurd hts (hbare argument rest)]
      simp [Request.switch, Item.carry, Item.source?,
        Item.value, hrest]
    | configNext argument =>
      simp [Item.texts, tokens_argument hfits, Request.read, Item.carry, Item.source?,
        Item.value, hrest]
    | announceNext argument =>
      simp [Item.texts, tokens_argument hfits, Request.read, Item.carry, Item.source?,
        Item.value, hrest]
    | _ =>
      simp [Item.texts, Request.read, Request.switch, Request.assign, Item.carry, Item.source?,
        Item.value, hrest]

theorem read_items {items : List Item} (h : ∀ item ∈ items, item.Fits) (r : Request) :
    r.read (tokens (items.flatMap Item.texts)) = items.foldlM Item.carry r := by
  have happend := @read_items_append _ [] h (by simp) r
  rw [List.append_nil] at happend
  rw [happend]
  exact bind_pure _

theorem configure_ok {source : Source} {path : Option String} :
    r.configure source path = .ok r' ↔
      r.config = none ∧ r' = { r with config := path.map (source, ·) } := by
  unfold Request.configure
  split <;> simp_all [eq_comm]

theorem configure_error {fault : Fault} {source : Source} {path : Option String} :
    r.configure source path = .error fault ↔
      ∃ earlier named, r.config = some (earlier, named) ∧ fault = .sourceConflict earlier named source := by
  unfold Request.configure
  split <;> simp_all [eq_comm, and_assoc]

/-- A second value is refused. -/
theorem announce_ok {value : Option String} :
    r.announce value = .ok r' ↔ (value = none ∨ r.descriptor = none) ∧
      r' = { r with announced := true, descriptor := value.or r.descriptor } := by
  unfold Request.announce
  dsimp only
  split <;> simp_all [eq_comm]

theorem announce_error {fault : Fault} {value : Option String} :
    r.announce value = .error fault ↔
      ∃ earlier later, r.descriptor = some earlier ∧ value = some later ∧
        fault = .targetConflict earlier later := by
  unfold Request.announce
  dsimp only
  split <;> simp_all [eq_comm]

theorem switch_unused (h : r.switch f = .ok r') : r'.unused = r.unused := by
  cases f with
  | system | session => simp [(configure_ok.1 h).2]
  | printAddress => simp [(announce_ok.1 (show r.announce none = .ok r' from h)).2]
  | help | version | configFile => simp [Request.switch] at h

theorem assign_unused {value : String} (h : r.assign value f = .ok r') : r'.unused = r.unused := by
  cases f with
  | configFile => simp [(configure_ok.1 h).2]
  | printAddress => simp [(announce_ok.1 h).2]
  | _ => simp [Request.assign] at h

/-- What was left unused stays so. -/
theorem read_unused {ts : List Token} (h : r.read ts = .ok r') : r.unused <+: r'.unused := by
  fun_induction Request.read r ts with
  | case1 => simp_all
  | case2 r text rest ih =>
    obtain ⟨r₁, hstep, hrest⟩ := bind_ok.1 h
    simpa [(configure_ok.1 hstep).2] using ih r₁ hrest
  | case3 r text rest ih =>
    obtain ⟨r₁, hstep, hrest⟩ := bind_ok.1 h
    simpa [(announce_ok.1 hstep).2] using ih r₁ hrest
  | case4 r f rest _ _ ih =>
    obtain ⟨r₁, hstep, hrest⟩ := bind_ok.1 h
    exact switch_unused hstep ▸ ih r₁ hrest
  | case5 r f value rest ih =>
    obtain ⟨r₁, hstep, hrest⟩ := bind_ok.1 h
    exact assign_unused hstep ▸ ih r₁ hrest
  | case6 | case7 => simp at h
  | case8 r text rest ih | case9 r text rest ih | case10 r text rest ih =>
    exact (List.prefix_append _ _).trans (ih h)

/-- A flag in a token of its own begins an item. -/
theorem read_flag (h : r.read (.flag f none :: tokens argv) = .ok r') :
    ∃ (item : Item) (rest : List String) (r₁ : Request),
      f.text :: argv = item.texts ++ rest ∧ item.Fits ∧ item.carry r = .ok r₁ ∧
      r₁.read (tokens rest) = .ok r' := by
  by_cases hvalue : ∃ argument rest, tokens argv = .argument argument :: rest ∧
      (f = .configFile ∨ f = .printAddress)
  · obtain ⟨argument, rest, hts, hf⟩ := hvalue
    obtain ⟨after, rfl, harg, rfl⟩ := isArgument_of_tokens hts
    rw [hts] at h
    obtain rfl | rfl := hf <;> obtain ⟨r₁, hstep, hrest⟩ := bind_ok.1 h
    · exact ⟨.configNext argument, after, r₁, rfl, harg, hstep, hrest⟩
    · exact ⟨.announceNext argument, after, r₁, rfl, harg, hstep, hrest⟩
  · rw [read_bare fun argument rest hts => by
      simpa using fun hf => hvalue ⟨argument, rest, hts, hf⟩] at h
    obtain ⟨r₁, hstep, hrest⟩ := bind_ok.1 h
    cases f with
    | system => exact ⟨.system, argv, r₁, rfl, trivial, hstep, hrest⟩
    | session => exact ⟨.session, argv, r₁, rfl, trivial, hstep, hrest⟩
    | printAddress => exact ⟨.announce, argv, r₁, rfl, trivial, hstep, hrest⟩
    | help | version | configFile => simp [Request.switch] at hstep

/-- A command line that is read to its end, with nothing left unused, begins with an item. -/
theorem read_cons {text : String} (h : r.read (tokens (text :: argv)) = .ok r')
    (hunused : r'.unused = []) :
    ∃ (item : Item) (rest : List String) (r₁ : Request),
      text :: argv = item.texts ++ rest ∧ item.Fits ∧ item.carry r = .ok r₁ ∧
      r₁.read (tokens rest) = .ok r' := by
  by_cases hdashes : text = "--"
  · simp [tokens, hdashes, Request.read] at h
    simp [← h] at hunused
  rw [tokens, if_neg hdashes] at h
  obtain ⟨f, hf, rfl⟩ | ⟨f, value, hf, rfl⟩ | ⟨letters, hf⟩ | hf | hf := classify_cases text <;>
    rw [hf] at h
  · exact read_flag h
  · rw [Request.read] at h
    obtain ⟨r₁, hstep, hrest⟩ := bind_ok.1 h
    cases f with
    | configFile => exact ⟨.configEquals value, argv, r₁, rfl, trivial, hstep, hrest⟩
    | printAddress => exact ⟨.announceEquals value, argv, r₁, rfl, trivial, hstep, hrest⟩
    | _ => simp [Request.assign] at hstep
  · cases letters <;> simp [Request.read] at h
  · rw [Request.read] at h
    have hkept := read_unused h
    simp [hunused] at hkept
  · rw [Request.read] at h
    have hkept := read_unused h
    simp [hunused] at hkept

theorem texts_ne_nil (item : Item) : item.texts ≠ [] := by
  cases item <;> simp [Item.texts]

/-- Every command line that is read with nothing left unused is a list of items. -/
theorem exists_items (h : r.read (tokens argv) = .ok r') (hunused : r'.unused = []) :
    ∃ items : List Item, argv = items.flatMap Item.texts ∧ (∀ item ∈ items, item.Fits) ∧
      items.foldlM Item.carry r = .ok r' := by
  induction hn : argv.length using Nat.strongRecOn generalizing r argv with
  | _ n ih =>
    cases argv with
    | nil =>
      have : r = r' := by simpa [tokens, Request.read] using h
      exact ⟨[], rfl, by simp, by simp [this]; rfl⟩
    | cons text argv =>
      obtain ⟨item, rest, r₁, heq, hfits, hstep, hrest⟩ := read_cons h hunused
      have hshorter : rest.length < n := by
        have hlength := congrArg List.length heq
        have hpos := List.length_pos_iff.2 (texts_ne_nil item)
        rw [List.length_append] at hlength
        omega
      obtain ⟨items, rfl, hall, hfold⟩ := ih rest.length hshorter hrest rfl
      refine ⟨item :: items, heq, by simp [hfits]; exact hall, ?_⟩
      rw [List.foldlM_cons]
      exact bind_ok.2 ⟨r₁, hstep, hfold⟩

/-- What a request makes of its descriptor. -/
def Request.target (r : Request) : Except Fault (Option Nat) :=
  if !r.announced then .ok none
  else
    match r.descriptor with
    | none => .ok (some outputDescriptor)
    | some text => (readDescriptor text).map some

theorem resolve_configured {source : Source} {path : String} (hunused : r.unused = [])
    (hconfig : r.config = some (source, path)) :
    r.resolve = r.target.map fun target => ⟨path, source, target⟩ := by
  unfold Request.resolve Request.target
  rw [hunused, hconfig]
  cases r.announced with
  | false => rfl
  | true =>
    cases r.descriptor with
    | none => rfl
    | some text => cases hread : readDescriptor text <;> simp [hread, Except.map]

theorem resolve_ok {o : Options} :
    r.resolve = .ok o ↔
      r.unused = [] ∧ r.config = some (o.source, o.path) ∧ r.target = .ok o.target := by
  cases hunused : r.unused with
  | cons => simp [Request.resolve, hunused]
  | nil =>
    cases hconfig : r.config with
    | none => simp [Request.resolve, hunused, hconfig]
    | some config =>
      obtain ⟨source, path⟩ := config
      obtain ⟨path', source', target'⟩ := o
      rw [resolve_configured hunused hconfig, map_ok]
      simp [and_comm, and_assoc]

/-- The accepted command lines are those whose items can be carried out and resolved. -/
theorem parse_ok {o : Options} :
    parse argv = .ok o ↔ ∃ (items : List Item) (r : Request),
      argv = items.flatMap Item.texts ∧ (∀ item ∈ items, item.Fits) ∧
      items.foldlM Item.carry .empty = .ok r ∧ r.resolve = .ok o := by
  unfold parse
  rw [bind_ok]
  constructor
  · rintro ⟨r, hread, hresolve⟩
    have hunused := (resolve_ok.1 hresolve).1
    obtain ⟨items, hargv, hfits, hfold⟩ := exists_items hread hunused
    exact ⟨items, r, hargv, hfits, hfold, hresolve⟩
  · rintro ⟨items, r, rfl, hfits, hfold, hresolve⟩
    exact ⟨r, (read_items hfits _).trans hfold, hresolve⟩

end MessageBus.CommandLine
