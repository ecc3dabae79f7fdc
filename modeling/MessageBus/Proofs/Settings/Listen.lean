import Mathlib.Data.List.Forall2
import Mathlib.Data.List.TakeWhile
import MessageBus.Environment
import MessageBus.Settings
/-!
What a configuration says about listening. One value says it: a variable of the environment, or the listen entry. Main
statement: there is something wrong with that value if and only if it is no list of addresses, and what is listened
at are those addresses without the blanks around them.
-/
namespace MessageBus

namespace Text

/-- The text has nothing but blanks. -/
def Blank (text : String) : Prop := ∀ c ∈ text.toList, isBlank c = true

/-- The text without the blanks around it, which is not empty and has no blank at its ends. -/
structure Trims (text trimmed : String) : Prop where
  around : ∃ front back, text.toList = front ++ trimmed.toList ++ back ∧
    (∀ c ∈ front, isBlank c = true) ∧ ∀ c ∈ back, isBlank c = true
  filled : trimmed ≠ ""
  front : ∀ c ∈ trimmed.toList.head?, isBlank c = false
  back : ∀ c ∈ trimmed.toList.getLast?, isBlank c = false

variable {text : String} {cs : List Char}

theorem blank_iff : blank text = true ↔ Blank text := by
  simp [blank, Blank]

/-- Only blanks are dropped at the end. -/
theorem exists_append_dropEndBlanks (cs : List Char) :
    ∃ back, cs = dropEndBlanks cs ++ back ∧ ∀ c ∈ back, isBlank c = true := by
  refine ⟨(cs.reverse.takeWhile isBlank).reverse, ?_, fun c hc => ?_⟩
  · rw [dropEndBlanks, ← List.reverse_append, List.takeWhile_append_dropWhile, List.reverse_reverse]
  · exact List.mem_takeWhile_imp (List.mem_reverse.1 hc)

theorem exists_append_stripBlanks (cs : List Char) :
    ∃ front back, cs = front ++ stripBlanks cs ++ back ∧
      (∀ c ∈ front, isBlank c = true) ∧ ∀ c ∈ back, isBlank c = true := by
  obtain ⟨back, hback, hblank⟩ := exists_append_dropEndBlanks (cs.dropWhile isBlank)
  refine ⟨cs.takeWhile isBlank, back, ?_, fun c hc => List.mem_takeWhile_imp hc, hblank⟩
  rw [List.append_assoc, stripBlanks, ← hback, List.takeWhile_append_dropWhile]

theorem stripBlanks_ne_nil (h : ∃ c ∈ cs, isBlank c = false) : stripBlanks cs ≠ [] := by
  intro hnone
  obtain ⟨front, back, heq, hfront, hback⟩ := exists_append_stripBlanks cs
  obtain ⟨c, hc, hfilled⟩ := h
  rw [hnone, List.append_nil] at heq
  rw [heq] at hc
  obtain hc | hc := List.mem_append.1 hc
  · simp [hfront c hc] at hfilled
  · simp [hback c hc] at hfilled

/-- What stands first once the blanks are gone stood first behind the blanks in front. -/
theorem head_stripBlanks {c : Char} (h : (stripBlanks cs).head? = some c) : isBlank c = false := by
  obtain ⟨back, hback, -⟩ := exists_append_dropEndBlanks (cs.dropWhile isBlank)
  obtain ⟨rest, hrest⟩ := List.head?_eq_some_iff.1 h
  refine @head_dropWhile_isBlank cs _ ?_
  rw [hback, ← stripBlanks, hrest]
  rfl

theorem strip_trims (h : ¬ Blank text) : Trims text (strip text) := by
  have hfilled : ∃ c ∈ text.toList, isBlank c = false := by
    simpa [Blank] using h
  constructor
  · rw [strip, String.toList_ofList]
    exact exists_append_stripBlanks text.toList
  · intro hempty
    apply stripBlanks_ne_nil hfilled
    simpa [strip] using congrArg String.toList hempty
  · intro c hc
    rw [strip, String.toList_ofList] at hc
    exact head_stripBlanks hc
  · intro c hc
    rw [strip, String.toList_ofList] at hc
    exact getLast_dropEndBlanks hc

end Text

namespace Settings
variable {entries : List (Value × Value)} {e : Environment} {s : Settings} {v bad : Value} {text : String}
  {texts : List String} {before after items : List Value}

/-- The value that says where to listen: a variable of the environment that is not empty goes before the entry. -/
def effective (entries : List (Value × Value)) (e : Environment) : Option Value :=
  match e.get? listenVariable with
  | some address => if address = "" then Value.lookup? entries (.text "listen") else some (.text address)
  | none => Value.lookup? entries (.text "listen")

/-- The value is an address, as far as that is checked: a text that is not blank. -/
def IsAddress (v : Value) : Prop := ∃ text, v = .text text ∧ ¬ Text.Blank text

/-- The value names addresses: it is one, or it is a list of them that is not empty. -/
inductive Names : Option Value → List String → Prop
  | one {text : String} (h : ¬ Text.Blank text) : Names (some (.text text)) [text]
  | many {texts : List String} (hne : texts ≠ []) (h : ∀ text ∈ texts, ¬ Text.Blank text) :
    Names (some (.list (texts.map .text))) texts

/-- A path for the pid file is a text, if there is one. -/
def NamesPidFile (entries : List (Value × Value)) : Prop :=
  ∀ v, Value.lookup? entries (.text "pidfile") = some v → v = .null ∨ ∃ path, v = .text path

/-! ### One value says it -/

theorem source_eq_effective :
    source ⟨entries, e.get listenVariable⟩ = (effective entries e).getD .null := by
  unfold source effective Environment.get
  cases hvariable : e.get? listenVariable with
  | none => simp [ entry?]
  | some address => by_cases hempty : address = "" <;> simp [hempty, entry?]

theorem isFilled_iff : isFilled v = true ↔ IsAddress v := by
  cases v <;> simp [isFilled, IsAddress, ← Text.blank_iff]

/-- Values that are all texts. -/
theorem exists_texts (h : ∀ v ∈ items, IsAddress v) :
    ∃ texts : List String, items = texts.map .text ∧ ∀ text ∈ texts, ¬ Text.Blank text := by
  induction items with
  | nil => exact ⟨[], rfl, by simp⟩
  | cons v items ih =>
    obtain ⟨⟨text, rfl, hfilled⟩, hall⟩ := List.forall_mem_cons.1 h
    obtain ⟨texts, rfl, hrest⟩ := ih hall
    exact ⟨text :: texts, rfl, List.forall_mem_cons.2 ⟨hfilled, hrest⟩⟩

theorem isAddress_of_mem (h : ∀ text ∈ texts, ¬ Text.Blank text) :
    ∀ v ∈ texts.map Value.text, IsAddress v := by
  intro v hv
  obtain ⟨text, htext, rfl⟩ := List.mem_map.1 hv
  exact ⟨text, rfl, h text htext⟩

/-! ### What is wrong with it -/

theorem firstBad_none : firstBad items = none ↔ ∀ v ∈ items, IsAddress v := by
  simp [firstBad, isFilled_iff]

theorem firstBad_append (hbefore : ∀ v ∈ before, IsAddress v) (hbad : ¬ IsAddress bad) :
    firstBad (before ++ bad :: after) = some before.length := by
  have hnone := firstBad_none.2 hbefore
  have hfilled : isFilled bad = false := Bool.eq_false_iff.2 (mt isFilled_iff.1 hbad)
  unfold firstBad at hnone ⊢
  simp [List.findIdx?_append, hnone, List.findIdx?_cons, hfilled]

theorem names_list {texts : List String} :
    Names (some (.list items)) texts ↔ texts ≠ [] ∧ items = texts.map .text ∧ ∀ v ∈ items, IsAddress v := by
  constructor
  · rintro (_ | ⟨hne, h⟩)
    exact ⟨hne, rfl, isAddress_of_mem h⟩
  · rintro ⟨hne, rfl, h⟩
    refine .many hne fun text htext => ?_
    obtain ⟨_, heq, hfilled⟩ := h (.text text) (List.mem_map_of_mem htext)
    cases heq
    exact hfilled

/-- Nothing is wrong with a value that names addresses, and with no other. -/
theorem listenFault_none {o : Option Value} :
    listenFault (o.getD .null) = none ↔ ∃ texts, Names o texts := by
  constructor
  · intro h
    cases o with
    | none => cases h
    | some v =>
      cases v with
      | text text =>
        obtain ⟨_, heq, hfilled⟩ := firstBad_none.1 (Option.map_eq_none_iff.1 h) _ (List.mem_singleton_self _)
        cases heq
        exact ⟨[text], .one hfilled⟩
      | list items =>
        cases items with
        | nil => cases h
        | cons v rest =>
          have hall := firstBad_none.1 (Option.map_eq_none_iff.1 h)
          obtain ⟨texts, htexts, -⟩ := exists_texts hall
          have hne : texts ≠ [] := by
            rintro rfl
            cases htexts
          exact ⟨texts, names_list.2 ⟨hne, htexts, hall⟩⟩
      | _ => cases h
  · rintro ⟨texts, _ | ⟨hne, h⟩⟩
    · rename_i text hfilled
      exact Option.map_eq_none_iff.2 (firstBad_none.2 (by simpa using ⟨text, rfl, hfilled⟩))
    · obtain ⟨text, rest, rfl⟩ := List.exists_cons_of_ne_nil hne
      exact Option.map_eq_none_iff.2 (firstBad_none.2 (isAddress_of_mem h))

theorem pidFileFault_none :
    pidFileFault (Value.lookup? entries (.text "pidfile")) = none ↔ NamesPidFile entries := by
  unfold NamesPidFile
  cases Value.lookup? entries (.text "pidfile") with
  | none => simp [pidFileFault]
  | some v => cases v <;> simp [pidFileFault]

/-- An item that is no address is told by its place. -/
theorem listenFault_item (hbefore : ∀ v ∈ before, IsAddress v) (hbad : ¬ IsAddress bad) :
    listenFault (.list (before ++ bad :: after)) = some (.invalidItem before.length) := by
  have hfirst : firstBad (before ++ bad :: after) = some before.length := firstBad_append hbefore hbad
  cases before with
  | nil => simpa [listenFault] using hfirst
  | cons => simpa [listenFault] using hfirst

theorem listenFault_text (h : Text.Blank text) : listenFault (.text text) = some (.invalidItem 0) := by
  have hbad : ¬ IsAddress (.text text) := by
    rintro ⟨_, heq, hfilled⟩
    cases heq
    exact hfilled h
  have hfirst : firstBad [.text text] = some 0 := @firstBad_append _ [] [] (by simp) hbad
  rw [listenFault, hfirst]
  rfl

/-! ### What is listened at -/

/-- With the settings made, the addresses stand in order, without blanks around them. -/
theorem listen_of_names (h : Names (some s.source) texts) : List.Forall₂ Text.Trims texts s.listen := by
  unfold listen
  generalize s.source = v at h
  cases h with
  | one h => exact .cons (Text.strip_trims h) .nil
  | many hne h =>
    simp only [List.map_map]
    rw [List.forall₂_map_right_iff, List.forall₂_same]
    exact fun text htext => Text.strip_trims (h text htext)

theorem make_ok {override : String} : make entries override = .ok s ↔
    s = ⟨entries, override⟩ ∧ listenFault (source ⟨entries, override⟩) = none ∧
      pidFileFault (Value.lookup? entries (.text "pidfile")) = none := by
  unfold make fault?
  dsimp only [ entry?]
  cases hlisten : listenFault (source ⟨entries, override⟩) with
  | some fault => simp
  | none =>
    cases hpid : pidFileFault (Value.lookup? entries (.text "pidfile")) with
    | some fault => simp
    | none => simp [eq_comm]

theorem make_of_listenFault {override : String} {fault : Fault}
    (h : listenFault (source ⟨entries, override⟩) = some fault) : make entries override = .error fault := by
  simp [make, fault?, h]

/-- Settings are made if and only if addresses are named, and no pid file but by a text. -/
theorem exists_make : (∃ s, make entries (e.get listenVariable) = .ok s) ↔
    (∃ texts, Names (effective entries e) texts) ∧ NamesPidFile entries := by
  simp only [make_ok, source_eq_effective, listenFault_none, pidFileFault_none, exists_eq_left]

end Settings
end MessageBus
