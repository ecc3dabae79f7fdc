import MessageBus.Proofs.CommandLine.Item
/-!
What a flag may take as its value, told without the classification of tokens.
-/
namespace MessageBus.CommandLine
variable {text name : String} {cs number : List Char} {f : Flag} {c : Char}

/-- The names that flags go by, the letters of help among them. -/
def optionNames : List String :=
  ["--help", "-h", "-?", "--version", "--system", "--session", "--config-file", "--print-address"]

/-- One decimal digit or more, of any script. -/
def Digits (cs : List Char) : Prop := cs ≠ [] ∧ ∀ c ∈ cs, isDecimalDigit c = true

/-- Digits, or a point with digits behind it and perhaps some before. -/
def Magnitude (cs : List Char) : Prop :=
  Digits cs ∨ ∃ whole part, cs = whole ++ '.' :: part ∧
    (∀ c ∈ whole, isDecimalDigit c = true) ∧ Digits part

/-- A dash and a magnitude, perhaps with a line feed behind. -/
def NegativeNumber (cs : List Char) : Prop :=
  ∃ number, Magnitude number ∧ (cs = '-' :: number ∨ cs = '-' :: (number ++ ['\n']))

/-- The text has this in front. -/
def Begins (text front : String) : Prop := front.toList <+: text.toList

/-- A text that a flag may take as its value: it is not taken for a flag, and if a dash stands in
front of it, it is a number or has a space. -/
def ArgumentToken (text : String) : Prop :=
  text = "" ∨ ¬ Begins text "-" ∨ text = "-" ∨
    text ≠ "--" ∧ text ∉ optionNames ∧ (∀ name ∈ optionNames, ¬ Begins text (name ++ "=")) ∧
      ¬ Begins text "-h" ∧ ¬ Begins text "-?" ∧ (NegativeNumber text.toList ∨ ' ' ∈ text.toList)

/-! ### Negative numbers -/

theorem dropLineFeed_append (cs : List Char) : Text.dropLineFeed (cs ++ ['\n']) = cs := by
  simp [Text.dropLineFeed]

theorem dropLineFeed_of_notMem (h : '\n' ∉ cs) : Text.dropLineFeed cs = cs := by
  unfold Text.dropLineFeed
  split
  · rename_i rest hrest
    exact absurd (List.mem_reverse.1 (hrest ▸ List.mem_cons_self)) h
  · rfl

/-- At most one line feed is dropped. -/
theorem eq_dropLineFeed (cs : List Char) :
    cs = Text.dropLineFeed cs ∨ cs = Text.dropLineFeed cs ++ ['\n'] := by
  unfold Text.dropLineFeed
  split
  · rename_i rest hrest
    right
    rw [← List.reverse_reverse cs, hrest, List.reverse_cons]
  · exact .inl rfl

theorem isNumeral_iff : isNumeral cs = true ↔ Digits cs := by
  simp [isNumeral, Digits]

theorem not_isDecimalDigit_lineFeed : isDecimalDigit '\n' = false := by decide

theorem not_isDecimalDigit_point : isDecimalDigit '.' = false := by decide

theorem lineFeed_notMem_digits (h : ∀ c ∈ cs, isDecimalDigit c = true) : '\n' ∉ cs := by
  intro hmem
  have hdigit := h _ hmem
  rw [not_isDecimalDigit_lineFeed] at hdigit
  cases hdigit

theorem lineFeed_notMem_magnitude (h : Magnitude number) : '\n' ∉ number := by
  obtain hdigits | ⟨whole, part, rfl, hwhole, hpart⟩ := h
  · exact lineFeed_notMem_digits hdigits.2
  · simp [lineFeed_notMem_digits hwhole, lineFeed_notMem_digits hpart.2]

/-- What stands behind the dash is read as a magnitude, a line feed left out. -/
theorem isNegativeNumber_dash (rest : List Char) :
    isNegativeNumber ('-' :: rest) = true ↔ Magnitude (Text.dropLineFeed rest) := by
  change (isNumeral (Text.dropLineFeed rest) || _) = true ↔ _
  generalize Text.dropLineFeed rest = number
  rw [Bool.or_eq_true, isNumeral_iff, Magnitude]
  refine or_congr_right ?_
  constructor
  · intro h
    split at h
    · rename_i whole part hcut
      rw [Bool.and_eq_true, List.all_eq_true, isNumeral_iff] at h
      exact ⟨whole, part, (Text.eq_append_of_cut hcut).1, h.1, h.2⟩
    · cases h
  · rintro ⟨whole, part, rfl, hwhole, hpart⟩
    have hpoint : '.' ∉ whole := by
      intro hmem
      have hdigit := hwhole _ hmem
      rw [not_isDecimalDigit_point] at hdigit
      cases hdigit
    rw [Text.cut_append part hpoint]
    simpa [isNumeral_iff, hpart] using hwhole

theorem isNegativeNumber_iff : isNegativeNumber cs = true ↔ NegativeNumber cs := by
  by_cases hdash : ∃ rest, cs = '-' :: rest
  · obtain ⟨rest, rfl⟩ := hdash
    rw [isNegativeNumber_dash]
    constructor
    · intro h
      obtain heq | heq := eq_dropLineFeed rest
      · exact ⟨_, h, .inl (congrArg _ heq)⟩
      · exact ⟨_, h, .inr (congrArg _ heq)⟩
    · rintro ⟨number, hnumber, heq | heq⟩ <;> obtain rfl := (List.cons.inj heq).2
      · rwa [dropLineFeed_of_notMem (lineFeed_notMem_magnitude hnumber)]
      · rwa [dropLineFeed_append]
  · have hnone : isNegativeNumber cs = false := by
      unfold isNegativeNumber
      split
      · exact absurd ⟨_, rfl⟩ hdash
      · rfl
    rw [hnone]
    simp only [Bool.false_eq_true, false_iff]
    rintro ⟨number, -, heq | heq⟩ <;> exact hdash ⟨_, heq⟩

/-! ### Arguments -/

theorem long_mem_optionNames (f : Flag) : f.text ∈ optionNames := by
  cases f <;> decide

/-- A name is a dash and a letter of help, or the long name of a flag. -/
theorem mem_optionNames (h : name ∈ optionNames) :
    (∃ c, isHelpLetter c = true ∧ name = String.ofList ['-', c]) ∨ ∃ f : Flag, name = f.text := by
  simp only [optionNames, List.mem_cons, List.not_mem_nil, or_false] at h
  obtain rfl | rfl | rfl | rfl | rfl | rfl | rfl | rfl := h
  · exact .inr ⟨.help, by decide⟩
  · exact .inl ⟨'h', by decide⟩
  · exact .inl ⟨'?', by decide⟩
  · exact .inr ⟨.version, by decide⟩
  · exact .inr ⟨.system, by decide⟩
  · exact .inr ⟨.session, by decide⟩
  · exact .inr ⟨.configFile, by decide⟩
  · exact .inr ⟨.printAddress, by decide⟩

theorem isHelpLetter_iff : isHelpLetter c = true ↔ c = 'h' ∨ c = '?' := by
  simp [isHelpLetter]

theorem begins_equals :
    Begins text (name ++ "=") ↔ ∃ value, text.toList = name.toList ++ '=' :: value := by
  simp only [Begins, String.toList_append]
  constructor
  · rintro ⟨value, hvalue⟩
    exact ⟨value, by simpa using hvalue.symm⟩
  · rintro ⟨value, hvalue⟩
    exact ⟨value, by simp [hvalue]⟩

theorem flagOf?_short (d : Char) : flagOf? ['-', d] = none := by
  refine Option.eq_none_iff_forall_ne_some.2 fun f hf => ?_
  have hlong := congrArg List.length (eq_long hf)
  cases f <;> simp [Flag.long, Flag.name] at hlong

/-- A longer text with a dash in front is an argument if it is taken for none of the flags, and is a
number or has a space. -/
theorem classifyDashed_argument (text : String) (cs : List Char) :
    classifyDashed text ('-' :: c :: cs) = .argument text ↔
      flagOf? ('-' :: c :: cs) = none ∧ isHelpLetter c = false ∧
      (∀ before after, Text.cut '=' ('-' :: c :: cs) = some (before, after) → flagOf? before = none) ∧
      (isNegativeNumber ('-' :: c :: cs) = true ∨ ' ' ∈ '-' :: c :: cs) := by
  unfold classifyDashed
  cases hflag : flagOf? ('-' :: c :: cs) with
  | some f => simp
  | none =>
    dsimp only [List.drop]
    split
    · rename_i hhelp
      rw [Bool.and_eq_true] at hhelp
      simp [hhelp.1]
    · split
      · rename_i token hnamed
        obtain ⟨⟨before, after⟩, hcut, hnamed⟩ := Option.bind_eq_some_iff.1 hnamed
        dsimp only at hnamed
        split at hnamed
        · rename_i d
          have happend := (Text.eq_append_of_cut hcut).1
          simp at happend
          split at hnamed <;> simp at hnamed
          rename_i hhelp
          simp [← hnamed, happend.1, hhelp]
        · obtain ⟨f, hbefore, rfl⟩ := Option.map_eq_some_iff.1 hnamed
          simp only [reduceCtorEq, true_and, false_iff]
          intro h
          have hnone := h.2.1 before after hcut
          simp [hnone] at hbefore
      · rename_i hnamed
        have hall : ∀ before after, Text.cut '=' ('-' :: c :: cs) = some (before, after) →
            flagOf? before = none := by
          intro before after hcut
          have hnone := Option.bind_eq_none_iff.1 hnamed _ hcut
          dsimp only at hnone
          split at hnone
          · exact flagOf?_short _
          · exact Option.map_eq_none_iff.1 hnone
        split
        · rename_i hhelp
          simp [hhelp]
        · rename_i hhelp
          split
          · rename_i hvalue
            exact iff_of_true rfl ⟨rfl, by simpa using hhelp, hall, by simpa using hvalue⟩
          · rename_i hvalue
            exact iff_of_false (by simp) fun h => hvalue (by simpa using h.2.2.2)

/-- Nothing in front of an equals sign names a flag if the text does not begin with such a name. -/
theorem unnamed_iff {cs : List Char} (hletter : isHelpLetter c = false)
    (htext : text.toList = '-' :: c :: cs) :
    (∀ before after, Text.cut '=' ('-' :: c :: cs) = some (before, after) → flagOf? before = none) ↔
      ∀ name ∈ optionNames, ¬ Begins text (name ++ "=") := by
  constructor
  · intro h name hname hbegins
    obtain ⟨value, hvalue⟩ := begins_equals.1 hbegins
    obtain ⟨letter, hl, rfl⟩ | ⟨f, rfl⟩ := mem_optionNames hname
    · rw [htext] at hvalue
      simp at hvalue
      simp [hvalue.1, hl] at hletter
    · have hcut := Text.cut_append value (equals_notMem_long f)
      rw [htext, Flag.text, String.toList_ofList] at hvalue
      have hnone := h f.long value (by rw [hvalue, hcut])
      rw [flagOf?_long] at hnone
      cases hnone
  · intro h before after hcut
    refine Option.eq_none_iff_forall_ne_some.2 fun f hf => ?_
    apply h _ (long_mem_optionNames f)
    refine begins_equals.2 ⟨after, ?_⟩
    rw [htext, (Text.eq_append_of_cut hcut).1, eq_long hf, Flag.text, String.toList_ofList]

theorem begins_help (htext : text.toList = '-' :: c :: cs) :
    (Begins text "-h" ∨ Begins text "-?") ↔ isHelpLetter c = true := by
  have hh : Begins text "-h" ↔ c = 'h' := by simp [Begins, htext, eq_comm (a := c)]
  have hq : Begins text "-?" ↔ c = '?' := by simp [Begins, htext, eq_comm (a := c)]
  rw [hh, hq, isHelpLetter_iff]

theorem mem_optionNames_iff (hletter : isHelpLetter c = false) (htext : text.toList = '-' :: c :: cs) :
    text ∈ optionNames ↔ flagOf? ('-' :: c :: cs) ≠ none := by
  constructor
  · intro h hnone
    obtain ⟨letter, hl, rfl⟩ | ⟨f, rfl⟩ := mem_optionNames h
    · simp at htext
      simp [← htext.1, hl] at hletter
    · rw [← htext, Flag.text, String.toList_ofList, flagOf?_long] at hnone
      cases hnone
  · intro h
    obtain ⟨f, hf⟩ := Option.ne_none_iff_exists'.1 h
    have heq : text = f.text := by
      rw [Flag.text, ← eq_long hf, ← htext, String.ofList_toList]
    exact heq ▸ long_mem_optionNames f

/-- The texts that are classified as arguments are those that are described as such. -/
theorem isArgument_iff : isArgument text ↔ ArgumentToken text := by
  unfold isArgument ArgumentToken
  by_cases hdash : Begins text "-"
  · obtain ⟨rest, htext⟩ := hdash
    have htext : text.toList = '-' :: rest := htext.symm
    have hclassify : classify text = classifyDashed text ('-' :: rest) := by
      simp [classify, htext]
    cases rest with
    | nil =>
      obtain rfl : text = "-" := String.toList_inj.1 htext
      exact iff_of_true ⟨by decide, by decide⟩ (.inr (.inr (.inl rfl)))
    | cons c cs =>
      have hfilled : text ≠ "" := by
        rintro rfl
        cases htext
      have hlong : text ≠ "-" := by
        rintro rfl
        cases htext
      have hbegins : Begins text "-" := ⟨c :: cs, htext.symm⟩
      rw [hclassify, classifyDashed_argument, isNegativeNumber_iff]
      simp only [hfilled, hbegins, hlong, not_true_eq_false, false_or]
      cases hletter : isHelpLetter c with
      | true =>
        obtain hhelp | hhelp := (begins_help htext).2 hletter <;> simp [hhelp]
      | false =>
        obtain ⟨hh, hq⟩ := not_or.1 (mt (begins_help htext).1 (by simp [hletter]))
        rw [unnamed_iff hletter htext, mem_optionNames_iff hletter htext, htext, ne_eq, Decidable.not_not]
        simp only [hh, hq, not_false_eq_true, true_and]
  · have hclassify : classify text = .argument text := by
      unfold classify
      split
      · rename_i rest htext
        exact absurd ⟨rest, htext.symm⟩ hdash
      · rfl
    have hdashes : text ≠ "--" := by
      rintro rfl
      exact hdash ⟨['-'], rfl⟩
    exact iff_of_true ⟨hdashes, hclassify⟩ (.inr (.inl hdash))

end MessageBus.CommandLine
