import MessageBus.Proofs.CommandLine.Argument
import MessageBus.Proofs.Number.Digits
/-!
The grammar of accepted command lines. Main statement: a command line gives options if and only if it
splits into items of which the last that concerns the configuration is the only one to name it, and at
most one names a descriptor; the options are what those two say.
-/
namespace MessageBus.CommandLine
/-- A command line split into items from left to right. A flag for the announcement takes the next text
along whenever that can be its value. -/
inductive Splits : List String → List Item → Prop
  | nil : Splits [] []
  | system {argv items} (h : Splits argv items) : Splits ("--system" :: argv) (.system :: items)
  | session {argv items} (h : Splits argv items) : Splits ("--session" :: argv) (.session :: items)
  | configEquals {argv items value} (h : Splits argv items) :
    Splits (("--config-file=" ++ value) :: argv) (.configEquals value :: items)
  | configNext {argv items value} (hvalue : ArgumentToken value) (h : Splits argv items) :
    Splits ("--config-file" :: value :: argv) (.configNext value :: items)
  | announceEquals {argv items value} (h : Splits argv items) :
    Splits (("--print-address=" ++ value) :: argv) (.announceEquals value :: items)
  | announceNext {argv items value} (hvalue : ArgumentToken value) (h : Splits argv items) :
    Splits ("--print-address" :: value :: argv) (.announceNext value :: items)
  | announce {argv items} (hnone : ∀ next ∈ argv.head?, ¬ ArgumentToken next) (h : Splits argv items) :
    Splits ("--print-address" :: argv) (.announce :: items)

/-- What the items for the configuration say, in order. -/
def namings (items : List Item) : List (Source × Option String) :=
  items.filterMap fun item => item.source?.map (·, item.value)

/-- Some item asks for the announcement. -/
def announces (items : List Item) : Bool := items.any (·.source?.isNone)

/-- The values that items give to the announcement, in order. -/
def descriptors (items : List Item) : List String :=
  (items.filter (·.source?.isNone)).filterMap Item.value

/-- The last item for the configuration is the only one that gives a path. -/
def Configures (items : List Item) (source : Source) (path : String) : Prop :=
  ∃ before, namings items = before ++ [(source, some path)] ∧ ∀ naming ∈ before, naming.2 = none

/-- The text writes a descriptor in digits of ASCII. -/
structure Denotes (text : String) (n : Nat) : Prop where
  digits : ∀ c ∈ text.toList, Text.isAsciiDigit c = true
  short : text.toList.length ≤ 4300
  value : n = Number.ofDigits 10 (text.toList.map Text.asciiDigitValue)
  small : n ≤ 2147483647

/-- At most one item gives the announcement a value, and that is a descriptor. -/
inductive Announces (items : List Item) : Option Nat → Prop
  | silent (h : announces items = false) : Announces items none
  | standard (h : announces items = true) (hnone : descriptors items = []) :
    Announces items (some outputDescriptor)
  | given {text n} (hvalue : descriptors items = [text]) (h : Denotes text n) : Announces items (some n)

variable {argv : List String} {items : List Item} {o : Options} {r r' : Request} {text : String} {n : Nat}

/-! ### Splitting -/

theorem textWith_configFile (value : String) :
    Flag.configFile.textWith value = "--config-file=" ++ value := by
  apply String.toList_inj.1
  simp [Flag.textWith, Flag.long, Flag.name]

theorem textWith_printAddress (value : String) :
    Flag.printAddress.textWith value = "--print-address=" ++ value := by
  apply String.toList_inj.1
  simp [Flag.textWith, Flag.long, Flag.name]

theorem eq_texts_of_splits (h : Splits argv items) :
    argv = items.flatMap Item.texts ∧ ∀ item ∈ items, item.Fits := by
  induction h with
  | nil => simp
  | system _ ih | session _ ih | announce _ _ ih =>
    obtain ⟨rfl, hfits⟩ := ih
    exact ⟨rfl, List.forall_mem_cons.2 ⟨trivial, hfits⟩⟩
  | configEquals _ ih =>
    obtain ⟨rfl, hfits⟩ := ih
    exact ⟨by rw [← textWith_configFile]; rfl, List.forall_mem_cons.2 ⟨trivial, hfits⟩⟩
  | announceEquals _ ih =>
    obtain ⟨rfl, hfits⟩ := ih
    exact ⟨by rw [← textWith_printAddress]; rfl, List.forall_mem_cons.2 ⟨trivial, hfits⟩⟩
  | configNext hvalue _ ih | announceNext hvalue _ ih =>
    obtain ⟨rfl, hfits⟩ := ih
    exact ⟨rfl, List.forall_mem_cons.2 ⟨isArgument_iff.2 hvalue, hfits⟩⟩

theorem splits_texts (h : ∀ item ∈ items, item.Fits) : Splits (items.flatMap Item.texts) items := by
  induction items with
  | nil => exact .nil
  | cons item items ih =>
    obtain ⟨hfits, hall⟩ := List.forall_mem_cons.1 h
    have hrest := ih hall
    cases item with
    | system => exact .system hrest
    | session => exact .session hrest
    | configEquals value =>
      rw [List.flatMap_cons, Item.texts, textWith_configFile]
      exact .configEquals hrest
    | announceEquals value =>
      rw [List.flatMap_cons, Item.texts, textWith_printAddress]
      exact .announceEquals hrest
    | configNext value => exact .configNext (isArgument_iff.1 hfits) hrest
    | announceNext value => exact .announceNext (isArgument_iff.1 hfits) hrest
    | announce =>
      refine .announce (fun next hnext hargument => ?_) hrest
      -- every item begins with a flag, so nothing behind this one can be its value
      obtain ⟨rest, htexts⟩ := List.head?_eq_some_iff.1 hnext
      exact @not_isArgument_head _ _ [] _ (by simp) (by rwa [List.append_nil])
        (isArgument_iff.2 hargument)

theorem splits_iff :
    Splits argv items ↔ argv = items.flatMap Item.texts ∧ ∀ item ∈ items, item.Fits := by
  constructor
  · exact eq_texts_of_splits
  · rintro ⟨rfl, hfits⟩
    exact splits_texts hfits

/-- A command line that splits into items is carried out in their order. -/
theorem parse_of_splits (h : Splits argv items) :
    parse argv = items.foldlM Item.carry .empty >>= Request.resolve := by
  obtain ⟨rfl, hfits⟩ := splits_iff.1 h
  rw [parse, read_items hfits]

/-! ### Descriptors -/

/-- ASCII digits are read as a descriptor, unless there are too many of them or their number is too large. -/
theorem readDescriptor_of_digits (hne : text ≠ "")
    (h : ∀ c ∈ text.toList, Text.isAsciiDigit c = true) :
    readDescriptor text =
      if Number.digitLimit < text.toList.length then
        .error (.unreadableDescriptor (.tooLongToRead text.toList.length))
      else if Number.ofDigits 10 (text.toList.map Text.asciiDigitValue) ≤ 2147483647 then
        .ok (Number.ofDigits 10 (text.toList.map Text.asciiDigitValue))
      else .error (.invalidDescriptor text) := by
  have hmax : (maxDescriptor : Int) = (2147483647 : Nat) := rfl
  rw [readDescriptor, if_pos (by simpa [hne] using h), Number.readInteger_asciiDigits hne h]
  by_cases hlong : Number.digitLimit < text.toList.length
  · rw [if_pos hlong, if_pos hlong]
  · simp only [if_neg hlong, hmax, Int.ofNat_le, Int.toNat_natCast]

theorem readDescriptor_ok : readDescriptor text = .ok n ↔ text ≠ "" ∧ Denotes text n := by
  by_cases hdigits : text ≠ "" ∧ ∀ c ∈ text.toList, Text.isAsciiDigit c = true
  · obtain ⟨hne, hall⟩ := hdigits
    rw [readDescriptor_of_digits hne hall]
    constructor
    · intro h
      split at h
      · cases h
      · rename_i hshort
        split at h
        · rename_i hsmall
          cases h
          exact ⟨hne, hall, Nat.not_lt.1 hshort, rfl, hsmall⟩
        · cases h
    · rintro ⟨-, h⟩
      have hshort : ¬ Number.digitLimit < text.toList.length := Nat.not_lt.2 h.short
      rw [if_neg hshort, ← h.value, if_pos h.small]
  · rw [readDescriptor, if_neg (by simpa using hdigits)]
    exact ⟨fun h => by simp at h, fun ⟨hne, h⟩ => absurd ⟨hne, h.digits⟩ hdigits⟩

/-! ### Carrying out -/

/-- The configuration after some namings, each of which has to find none. -/
def Named (config : Option (Source × String)) : List (Source × Option String) →
    Option (Source × String) → Prop
  | [], config' => config' = config
  | (source, path) :: rest, config' => config = none ∧ Named (path.map (source, ·)) rest config'

/-- The descriptor after some values, each of which has to find none. -/
def Given (descriptor : Option String) : List String → Option String → Prop
  | [], descriptor' => descriptor' = descriptor
  | text :: rest, descriptor' => descriptor = none ∧ Given (some text) rest descriptor'

theorem carry_configures {item : Item} {source : Source} (h : item.source? = some source) :
    item.carry r = .ok r' ↔
      r.config = none ∧ r' = { r with config := item.value.map (source, ·) } := by
  simp only [Item.carry, h]
  exact configure_ok

theorem carry_announces {item : Item} (h : item.source? = none) :
    item.carry r = .ok r' ↔ (item.value = none ∨ r.descriptor = none) ∧
      r' = { r with announced := true, descriptor := item.value.or r.descriptor } := by
  simp only [Item.carry, h]
  exact announce_ok

/-- Items are carried out in order if each finds what it needs. -/
theorem foldlM_carry_ok :
    items.foldlM Item.carry r = .ok r' ↔
      Named r.config (namings items) r'.config ∧ Given r.descriptor (descriptors items) r'.descriptor ∧
      r'.announced = (r.announced || announces items) ∧ r'.unused = r.unused := by
  induction items generalizing r with
  | nil =>
    have hfold : ([] : List Item).foldlM Item.carry r = .ok r := rfl
    obtain ⟨config, announced, descriptor, unused⟩ := r
    obtain ⟨config', announced', descriptor', unused'⟩ := r'
    simp [hfold, namings, descriptors, announces, Named, Given, @eq_comm _ config', @eq_comm _ announced',
      @eq_comm _ descriptor', @eq_comm _ unused', and_left_comm]
  | cons item items ih =>
    rw [List.foldlM_cons, bind_ok]
    cases hsource : item.source? with
    | some source =>
      simp [carry_configures hsource, ih, namings, descriptors, announces, hsource, Named, and_assoc]
    | none =>
      cases hvalue : item.value with
      | none =>
        simp [carry_announces hsource, hvalue, ih, namings, descriptors, announces, hsource]
      | some text =>
        simp [carry_announces hsource, hvalue, ih, namings, descriptors, announces, hsource, Given, and_assoc,
          and_left_comm]

theorem named_some {named : List (Source × Option String)} {source : Source} {path : String} :
    Named none named (some (source, path)) ↔
      ∃ before, named = before ++ [(source, some path)] ∧ ∀ naming ∈ before, naming.2 = none := by
  induction named with
  | nil => simp [Named]
  | cons naming rest ih =>
    obtain ⟨source', path'⟩ := naming
    cases path' with
    | none =>
      simp only [Named, Option.map_none, true_and, ih]
      constructor
      · rintro ⟨before, rfl, hnone⟩
        exact ⟨(source', none) :: before, rfl, List.forall_mem_cons.2 ⟨rfl, hnone⟩⟩
      · rintro ⟨before, heq, hnone⟩
        cases before with
        | nil => simp at heq
        | cons first before =>
          obtain ⟨rfl, rfl⟩ := List.cons.inj heq
          exact ⟨before, rfl, (List.forall_mem_cons.1 hnone).2⟩
    | some path' =>
      -- whatever follows finds a configuration
      simp only [Named, Option.map_some, true_and]
      constructor
      · intro h
        cases rest with
        | nil =>
          simp only [Named, Option.some.injEq, Prod.mk.injEq] at h
          exact ⟨[], by simp [h.1, h.2], by simp⟩
        | cons => simp [Named] at h
      · rintro ⟨before, heq, hnone⟩
        cases before with
        | nil =>
          simp only [List.nil_append, List.cons.injEq, Prod.mk.injEq, Option.some.injEq] at heq
          simp [heq.1.1, heq.1.2, heq.2, Named]
        | cons first before =>
          obtain ⟨rfl, -⟩ := List.cons.inj heq
          simpa using (List.forall_mem_cons.1 hnone).1

theorem given_none {texts : List String} : Given none texts none ↔ texts = [] := by
  obtain - | ⟨text, - | ⟨later, rest⟩⟩ := texts <;> simp [Given]

theorem given_some {texts : List String} : Given none texts (some text) ↔ texts = [text] := by
  obtain - | ⟨first, - | ⟨later, rest⟩⟩ := texts <;> simp [Given, eq_comm]

theorem ne_empty_of_mem_descriptors (h : text ∈ descriptors items) : text ≠ "" := by
  simp only [descriptors, List.mem_filterMap, List.mem_filter] at h
  obtain ⟨item, ⟨-, hsource⟩, hvalue⟩ := h
  rintro rfl
  cases item <;> simp [Item.source?, Item.value, given] at hsource hvalue <;> exact hvalue.1.1 hvalue.2

theorem descriptors_of_silent (h : announces items = false) : descriptors items = [] := by
  have hfilter : items.filter (·.source?.isNone) = [] := by simpa [announces] using h
  rw [descriptors, hfilter, List.filterMap_nil]

theorem announces_silent {target : Option Nat} (h : announces items = false) :
    Announces items target ↔ target = none := by
  constructor
  · rintro (_ | ⟨hasked, _⟩ | ⟨hvalue, _⟩)
    · rfl
    · simp [h] at hasked
    · simp [descriptors_of_silent h] at hvalue
  · rintro rfl
    exact .silent h

theorem announces_standard {target : Option Nat} (h : announces items = true)
    (hnone : descriptors items = []) : Announces items target ↔ target = some outputDescriptor := by
  constructor
  · rintro (hsilent | _ | ⟨hvalue, _⟩)
    · simp [h] at hsilent
    · rfl
    · simp [hnone] at hvalue
  · rintro rfl
    exact .standard h hnone

theorem announces_given {target : Option Nat} (h : descriptors items = [text]) :
    Announces items target ↔ ∃ n, Denotes text n ∧ target = some n := by
  constructor
  · rintro (hsilent | ⟨_, hnone⟩ | ⟨hvalue, hdenotes⟩)
    · simp [descriptors_of_silent hsilent] at h
    · simp [hnone] at h
    · obtain rfl := List.singleton_inj.1 (h.symm.trans hvalue)
      exact ⟨_, hdenotes, rfl⟩
  · rintro ⟨n, hdenotes, rfl⟩
    exact .given h hdenotes

/-- What the request makes of its descriptor is what the items say about it. -/
theorem target_ok {target : Option Nat} (hgiven : Given none (descriptors items) r.descriptor)
    (hannounced : r.announced = announces items) : r.target = .ok target ↔ Announces items target := by
  unfold Request.target
  rw [hannounced]
  cases hasked : announces items with
  | false => simp [announces_silent hasked, eq_comm]
  | true =>
    cases hdescriptor : r.descriptor with
    | none =>
      rw [hdescriptor, given_none] at hgiven
      simp [announces_standard hasked hgiven, eq_comm]
    | some text =>
      rw [hdescriptor, given_some] at hgiven
      have hne : text ≠ "" := ne_empty_of_mem_descriptors (hgiven ▸ List.mem_singleton_self text)
      simp [announces_given hgiven, map_ok, readDescriptor_ok, hne, @eq_comm _ target]

/-- Items that agree about the announcement leave a request at most one descriptor. -/
theorem Announces.exists_given {target : Option Nat} (h : Announces items target) :
    ∃ descriptor, Given none (descriptors items) descriptor := by
  cases h with
  | silent h => exact ⟨none, given_none.2 (descriptors_of_silent h)⟩
  | standard _ hnone => exact ⟨none, given_none.2 hnone⟩
  | given hvalue _ => exact ⟨_, given_some.2 hvalue⟩

/-- A command line gives options if and only if it splits into items that name them. -/
theorem parse_ok_iff_splits :
    parse argv = .ok o ↔
      ∃ items, Splits argv items ∧ Configures items o.source o.path ∧ Announces items o.target := by
  rw [parse_ok]
  constructor
  · rintro ⟨items, r, hargv, hfits, hfold, hresolve⟩
    obtain ⟨hnamed, hgiven, hannounced, -⟩ := foldlM_carry_ok.1 hfold
    obtain ⟨-, hconfig, htarget⟩ := resolve_ok.1 hresolve
    refine ⟨items, splits_iff.2 ⟨hargv, hfits⟩, named_some.1 (hconfig ▸ hnamed), ?_⟩
    exact (target_ok hgiven (by simpa [Request.empty] using hannounced)).1 htarget
  · rintro ⟨items, hsplits, hconfigures, hannounces⟩
    obtain ⟨hargv, hfits⟩ := splits_iff.1 hsplits
    obtain ⟨descriptor, hgiven⟩ := hannounces.exists_given
    let r : Request := ⟨some (o.source, o.path), announces items, descriptor, []⟩
    have hfold : items.foldlM Item.carry .empty = .ok r :=
      foldlM_carry_ok.2 ⟨named_some.2 hconfigures, hgiven, by simp [r, Request.empty], rfl⟩
    have htarget : r.target = .ok o.target := (target_ok hgiven rfl).2 hannounces
    exact ⟨items, r, hargv, hfits, hfold, resolve_ok.2 ⟨rfl, rfl, htarget⟩⟩

end MessageBus.CommandLine
