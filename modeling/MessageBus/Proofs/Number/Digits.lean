import Mathlib.Data.List.Forall2
import MessageBus.Number.Integer
/-!
Numbers in decimal digits. A text that is made of them, in the digits of any script, and is not too long
is read as the number that its digits write; other digits are never read. A machine word is never too
long to be written.
-/
namespace MessageBus.Number
variable {c : Char} {d : Nat} {cs rest : List Char} {ds : List Nat} {text : String} {gap : Bool}

/-- Every machine word can be written. -/
theorem tooLong_of_word {i : Int} (h : i.natAbs < Nat.pow 2 64) : tooLong i = false := by
  have hword : Nat.pow 2 64 < Nat.pow 10 20 := by decide
  have hlimit : Nat.pow 10 20 ≤ Nat.pow 10 digitLimit := by
    rw [Nat.pow_eq, Nat.pow_eq]
    exact Nat.pow_le_pow_right (by decide) (by decide)
  rw [tooLong, decide_eq_false_iff_not, Nat.not_le]
  exact Nat.lt_of_lt_of_le (Nat.lt_trans h hword) hlimit

/-- The text is made of decimal digits of any script, which have these values. -/
def Decimals (cs : List Char) (ds : List Nat) : Prop :=
  List.Forall₂ (fun c d => Text.decimalValue? c = some d) cs ds

/-- No digit has its number between two that all classes of digits leave free. -/
theorem not_isDigit_of_free (low high : Nat) (hzeros : ∀ z ∈ Text.decimalZeros, high < z ∨ z + 10 ≤ low)
    (hothers : ∀ r ∈ Text.otherDigits, high < r.1 ∨ r.2 < low) (hlow : low ≤ c.toNat)
    (hhigh : c.toNat ≤ high) : Text.isDigit c = false := by
  have hdecimal : Text.decimalValue? c = none := by
    rw [Text.decimalValue?, Option.map_eq_none_iff, List.find?_eq_none]
    intro z hz
    have hfree := hzeros z hz
    simp only [Bool.and_eq_true, decide_eq_true_eq]
    omega
  have hother : (Text.otherDigits.any fun r => r.1 ≤ c.toNat && c.toNat ≤ r.2) = false := by
    refine List.any_eq_false.2 fun r hr => ?_
    have hfree := hothers r hr
    simp only [Bool.and_eq_true, decide_eq_true_eq]
    omega
  simp [Text.isDigit, hdecimal, hother]

theorem not_isDigit_of_lt (h : c.toNat < 0x30) : Text.isDigit c = false :=
  not_isDigit_of_free 0 0x2F (by decide) (by decide) (by omega) (by omega)

theorem not_isDigit_of_letter (hlow : 0x3A ≤ c.toNat) (hhigh : c.toNat ≤ 0xB1) : Text.isDigit c = false :=
  not_isDigit_of_free 0x3A 0xB1 (by decide) (by decide) hlow hhigh

theorem not_isDigit_of_isMargin (h : isMargin c = true) : Text.isDigit c = false := by
  have hranges : c.toNat < 0x30 ∨ (0x3A ≤ c.toNat ∧ c.toNat ≤ 0xB1) ∨
      (0x1680 ≤ c.toNat ∧ c.toNat ≤ 0x1680) ∨ (0x2000 ≤ c.toNat ∧ c.toNat ≤ 0x206F) ∨
      (0x3000 ≤ c.toNat ∧ c.toNat ≤ 0x3000) := by
    simp only [isMargin, Text.isBlank, Bool.and_eq_true, Bool.or_eq_true, beq_iff_eq,
      decide_eq_true_eq] at h
    omega
  obtain hlt | ⟨hlow, hhigh⟩ | ⟨hlow, hhigh⟩ | ⟨hlow, hhigh⟩ | ⟨hlow, hhigh⟩ := hranges
  · exact not_isDigit_of_lt hlt
  · exact not_isDigit_of_letter hlow hhigh
  all_goals exact not_isDigit_of_free _ _ (by decide) (by decide) hlow hhigh

/-- What a digit is to a reader of numbers: no margin, no gap and no sign. -/
structure Reads (c : Char) : Prop where
  margin : isMargin c = false
  noGap : c ≠ '_'
  noMinus : c ≠ '-'
  noPlus : c ≠ '+'

theorem reads_of_isDigit (h : Text.isDigit c = true) : Reads c := by
  refine ⟨?_, ?_, ?_, ?_⟩
  · refine Bool.eq_false_iff.2 fun hmargin => ?_
    rw [not_isDigit_of_isMargin hmargin] at h
    cases h
  all_goals
    rintro rfl
    revert h
    decide

theorem isDigit_of_decimalValue? (h : Text.decimalValue? c = some d) : Text.isDigit c = true := by
  simp [Text.isDigit, h]

theorem decimalValue?_letter (hlow : 0x3A ≤ c.toNat) (hhigh : c.toNat ≤ 0xB1) :
    Text.decimalValue? c = none := by
  refine Option.eq_none_iff_forall_ne_some.2 fun d hd => ?_
  have hdigit := isDigit_of_decimalValue? hd
  rw [not_isDigit_of_letter hlow hhigh] at hdigit
  cases hdigit

/-- No letter is a digit of base ten. -/
theorem digitValue?_ten (c : Char) : digitValue? 10 c = Text.decimalValue? c := by
  unfold digitValue?
  dsimp only
  split
  · rename_i hlower
    have hlow : 97 ≤ c.toNat := by simp at hlower; exact hlower.1
    have hhigh : c.toNat ≤ 122 := by simp at hlower; exact hlower.2
    rw [decimalValue?_letter (by omega) (by omega)]
    simp [Option.filter]
    omega
  · split
    · rename_i hupper
      have hlow : 65 ≤ c.toNat := by simp at hupper; exact hupper.1
      have hhigh : c.toNat ≤ 90 := by simp at hupper; exact hupper.2
      rw [decimalValue?_letter (by omega) (by omega)]
      simp [Option.filter]
      omega
    · cases hd : Text.decimalValue? c with
      | none => rfl
      | some d => simp [Option.filter, Text.decimalValue?_lt hd]

theorem Decimals.exists_value (h : Decimals cs ds) : ∀ c ∈ cs, ∃ d, Text.decimalValue? c = some d := by
  induction h with
  | nil => simp
  | cons hc _ ih => exact List.forall_mem_cons.2 ⟨⟨_, hc⟩, ih⟩

theorem Decimals.isDigit (h : Decimals cs ds) : ∀ c ∈ cs, Text.isDigit c = true := by
  intro c hc
  obtain ⟨d, hd⟩ := h.exists_value c hc
  exact isDigit_of_decimalValue? hd

/-- Decimal digits are taken up to the first character that is none. -/
theorem takeDigits_go_append (h : Decimals cs ds)
    (hrest : ∀ c ∈ rest.head?, Text.decimalValue? c = none ∧ c ≠ '_') (hgap : gap = true ∨ cs ≠ []) :
    takeDigits.go 10 gap (cs ++ rest) = some (ds, rest) := by
  induction h generalizing gap with
  | nil =>
    obtain rfl : gap = true := by simpa using hgap
    cases rest with
    | nil => rfl
    | cons c rest =>
      obtain ⟨hnone, hmark⟩ := hrest c rfl
      rw [List.nil_append, takeDigits.go, digitValue?_ten, hnone]
      · rfl
      · exact hmark
  | @cons c d cs ds hc _ ih =>
    rw [List.cons_append, takeDigits.go, digitValue?_ten, hc]
    · simp [ih (.inl rfl)]
    · exact (reads_of_isDigit (isDigit_of_decimalValue? hc)).noGap

theorem takeSign_digits (h : ∀ c ∈ cs, Text.isDigit c = true) : takeSign cs = (false, cs) := by
  cases cs with
  | nil => rfl
  | cons c cs =>
    have hreads := reads_of_isDigit (h c (.head _))
    rw [takeSign]
    · exact fun _ hc => hreads.noMinus (List.cons.inj hc).1
    · exact fun _ hc => hreads.noPlus (List.cons.inj hc).1

theorem dropWhile_margin (h : ∀ c ∈ cs, Text.isDigit c = true) : cs.dropWhile isMargin = cs := by
  cases cs with
  | nil => rfl
  | cons c cs => simp [(reads_of_isDigit (h c (.head _))).margin]

/-- Nothing but the digits themselves is looked at in a text that is made of digits. -/
theorem readInteger_eq (h : ∀ c ∈ text.toList, Text.isDigit c = true) :
    readInteger 10 text =
      match takeDigits 10 text.toList with
      | none => .error (.notInteger 10 text)
      | some (ds, rest) =>
        if digitLimit < ds.length then .error (.tooLongToRead ds.length)
        else if rest.all isMargin then .ok (ofDigits 10 ds)
        else .error (.notInteger 10 text) := by
  have hbase : dropBaseMark 10 text.toList = text.toList := by simp [dropBaseMark]
  rw [readInteger, dropWhile_margin h, takeSign_digits h]
  dsimp only
  rw [hbase]
  cases takeDigits 10 text.toList with
  | none => rfl
  | some taken => simp

/-- Decimal digits are read as the number they write, unless there are too many of them. -/
theorem readInteger_decimals (hne : text ≠ "") (h : Decimals text.toList ds) :
    readInteger 10 text =
      if digitLimit < ds.length then .error (.tooLongToRead ds.length) else .ok (ofDigits 10 ds) := by
  have htake : takeDigits 10 text.toList = some (ds, []) := by
    rw [← List.append_nil text.toList]
    exact takeDigits_go_append h (by simp) (.inr (by simpa using hne))
  rw [readInteger_eq h.isDigit, htake]
  rfl

/-- A text is made of decimal digits, or there is a first character that is none. -/
theorem decimals_or_other (cs : List Char) :
    (∃ ds, Decimals cs ds) ∨
      ∃ front ds c rest, cs = front ++ c :: rest ∧ Decimals front ds ∧ Text.decimalValue? c = none := by
  induction cs with
  | nil => exact .inl ⟨[], .nil⟩
  | cons c cs ih =>
    cases hc : Text.decimalValue? c with
    | none => exact .inr ⟨[], [], c, cs, rfl, .nil, hc⟩
    | some d =>
      obtain ⟨ds, hds⟩ | ⟨front, ds, other, rest, rfl, hds, hnone⟩ := ih
      · exact .inl ⟨d :: ds, .cons hc hds⟩
      · exact .inr ⟨c :: front, d :: ds, other, rest, rfl, .cons hc hds, hnone⟩

/-- Digits of which one has no decimal value are no number. -/
theorem readInteger_other {front : List Char} (htext : text.toList = front ++ c :: rest)
    (h : ∀ c ∈ text.toList, Text.isDigit c = true) (hfront : Decimals front ds)
    (hnone : Text.decimalValue? c = none) : ∃ fault, readInteger 10 text = .error fault := by
  have hreads := reads_of_isDigit (h c (by simp [htext]))
  rw [readInteger_eq h, htext]
  by_cases hfilled : front = []
  · subst hfilled
    cases hfront
    have htake : takeDigits 10 ([] ++ c :: rest) = none := by
      rw [List.nil_append, takeDigits, takeDigits.go, digitValue?_ten, hnone]
      · rfl
      · exact hreads.noGap
    rw [htake]
    exact ⟨_, rfl⟩
  · have htake : takeDigits 10 (front ++ c :: rest) = some (ds, c :: rest) :=
      takeDigits_go_append hfront (by simpa [hnone] using hreads.noGap) (.inr hfilled)
    rw [htake]
    dsimp only
    split
    · exact ⟨_, rfl⟩
    · rw [if_neg (by simp [hreads.margin])]
      exact ⟨_, rfl⟩

/-! ### ASCII digits -/

theorem decimalValue?_ascii (h : Text.isAsciiDigit c = true) :
    Text.decimalValue? c = some (Text.asciiDigitValue c) := by
  have htable : ∀ n < 58, 48 ≤ n →
      Text.decimalValue? (.ofNat n) = some (Text.asciiDigitValue (.ofNat n)) := by decide
  simp only [Text.isAsciiDigit, Bool.and_eq_true, decide_eq_true_eq] at h
  have hlow : 48 ≤ c.toNat := h.1
  have hhigh : c.toNat ≤ 57 := h.2
  have hrow := htable c.toNat (by omega) hlow
  rwa [Char.ofNat_toNat] at hrow

theorem decimals_ascii (h : ∀ c ∈ cs, Text.isAsciiDigit c = true) :
    Decimals cs (cs.map Text.asciiDigitValue) := by
  induction cs with
  | nil => exact .nil
  | cons c cs ih =>
    obtain ⟨hc, hcs⟩ := List.forall_mem_cons.1 h
    exact .cons (decimalValue?_ascii hc) (ih hcs)

/-- ASCII digits are read as the number they write, unless there are too many of them. -/
theorem readInteger_asciiDigits (hne : text ≠ "")
    (h : ∀ c ∈ text.toList, Text.isAsciiDigit c = true) :
    readInteger 10 text =
      if digitLimit < text.toList.length then .error (.tooLongToRead text.toList.length)
      else .ok (ofDigits 10 (text.toList.map Text.asciiDigitValue)) := by
  rw [readInteger_decimals hne (decimals_ascii h), List.length_map]

theorem readInteger_digits (hne : text ≠ "") (h : ∀ c ∈ text.toList, Text.isAsciiDigit c = true)
    (hshort : text.toList.length ≤ digitLimit) :
    readInteger 10 text = .ok (ofDigits 10 (text.toList.map Text.asciiDigitValue)) := by
  rw [readInteger_asciiDigits hne h, if_neg (by omega)]

/-! ### Numbers as they are written -/

theorem isAsciiDigit_of_mem_toDigits {n : Nat} (h : c ∈ Nat.toDigits 10 n) : Text.isAsciiDigit c = true :=
  Nat.isDigit_of_mem_toDigits (by decide) (by decide) h

theorem exists_digitChar_of_mem_toDigits {base n : Nat} (hbase : 1 < base) (h : c ∈ Nat.toDigits base n) :
    ∃ d < base, c = Nat.digitChar d := by
  induction n using Nat.strongRecOn with
  | ind n ih =>
    rw [Nat.toDigits_eq_if hbase] at h
    split at h
    · rename_i hlt
      exact ⟨n, hlt, by simpa using h⟩
    · rename_i hle
      obtain h | h := List.mem_append.1 h
      · exact ih (n / base) (Nat.div_lt_self (by omega) hbase) h
      · exact ⟨n % base, Nat.mod_lt _ (by omega), by simpa using h⟩

/-- The digits that a number is written with write that number. -/
theorem ofDigits_toDigits (n : Nat) :
    ofDigits 10 ((Nat.toDigits 10 n).map Text.asciiDigitValue) = n := by
  have hfold := @Nat.ofDigitChars_ten_toDigits n
  rw [Nat.ofDigitChars_eq_foldl] at hfold
  rw [ofDigits, List.foldl_map]
  simpa [Nat.mul_comm, Text.asciiDigitValue] using hfold

end MessageBus.Number
