import MessageBus.Proofs.Address.Check
import MessageBus.Proofs.Text.Percent
/-!
Writing addresses and reading them again. An address whose options can be written and are what its
transport asks for is read from the text that it is written as. Main statement: so it is for every
address that is made in that way or was read from a text, unless an option goes by the name of the
transport.
-/
namespace MessageBus.Address
variable {a : Address} {text key value : String} {options : List (String × String)}

/-- A key that can be written: it is not empty, and has neither a comma nor an equals sign. -/
def IsKey (key : String) : Prop := key ≠ "" ∧ ',' ∉ key.toList ∧ '=' ∉ key.toList

/-- The option is there and not empty. -/
def Gives (a : Address) (key : String) : Prop := ∃ value, a.get? key = some value ∧ value ≠ ""

/-- A port in the ten digits of ASCII, no larger than ports are and no longer than numbers may be. -/
structure IsAsciiPort (port : String) : Prop where
  filled : port ≠ ""
  digits : ∀ c ∈ port.toList, Text.isAsciiDigit c = true
  short : port.toList.length ≤ Number.digitLimit
  small : Number.ofDigits 10 (port.toList.map Text.asciiDigitValue) ≤ maxPort

/-- The options are what the transport asks for: one of a path and a directory, or an ASCII port if any. -/
def Suits (a : Address) : Prop :=
  match a.transport with
  | .unix => ¬ (a.Gives "path" ↔ a.Gives "tmpdir")
  | .tcp => ∀ port, a.get? "port" = some port → IsAsciiPort port

/-- No option goes by the name of the transport. -/
def Named (a : Address) : Prop := ∀ o ∈ a.options, o.1 ≠ transportKey

/-- The text that an address is written as, its options handed over by their keys. -/
def write (a : Address) : Except WriteFault String :=
  renderValues a.transport.name (a.options.map fun o => (o.1, .text o.2))

theorem write_eq (h : a.Named) : a.write = .ok a.format := by
  have htaken : (a.options.map fun o => (o.1, Value.text o.2)).any (·.1 == transportKey) = false := by
    simpa using fun key value hmem => h (key, value) hmem
  unfold write renderValues
  rw [htaken, mapM_map_ok]
  · rfl
  · exact fun o _ => rfl

theorem plain_safe : Text.Percent.Plain safe := by
  intro c hc
  obtain rfl | rfl : c = '/' ∨ c = '*' := by simpa [safe] using hc
  · decide
  · decide

theorem comma_notMem_renderOption (h : IsKey key) (value : String) :
    ',' ∉ renderOption key value := by
  intro hmem
  simp only [renderOption, List.mem_append, List.mem_cons] at hmem
  obtain hmem | hmem | hmem := hmem
  · exact h.2.1 hmem
  · exact absurd hmem (by decide)
  · obtain hmem | hmem | hmem := Text.Percent.mem_escape hmem
    · exact absurd hmem (by decide)
    · exact absurd hmem (by decide)
    · exact absurd hmem (by decide)

theorem readOption_renderOption (h : IsKey key) (value : String) :
    readOption (renderOption key value) = .ok (key, value) :=
  readOption_ok_iff.2 ⟨_, rfl, h.1, h.2.2, by simp [Text.Percent.unescape_escape plain_safe]⟩

theorem readOptions_join (h : ∀ o ∈ options, IsKey o.1) :
    readOptions (Text.join ',' (options.map fun o => renderOption o.1 o.2)) = .ok options := by
  have hpieces : (Text.split ',' (Text.join ',' (options.map fun o => renderOption o.1 o.2))).filter
      (· ≠ []) = options.map fun o => renderOption o.1 o.2 := by
    by_cases hnone : options = []
    · subst hnone
      rfl
    · rw [Text.split_join (by simpa using hnone), List.filter_eq_self]
      · intro piece hpiece
        obtain ⟨o, -, rfl⟩ := List.mem_map.1 hpiece
        simp [renderOption]
      · intro piece hpiece
        obtain ⟨o, ho, rfl⟩ := List.mem_map.1 hpiece
        exact comma_notMem_renderOption (h o ho) o.2
  rw [readOptions, hpieces]
  exact mapM_map_ok fun o ho => readOption_renderOption (h o ho) o.2

/-- What is written is read as the options it was made of, and checked. -/
theorem parse_format (h : ∀ o ∈ a.options, IsKey o.1) (hcheck : a.check = .ok ()) :
    parse a.format = .ok a := by
  refine parse_ok_iff.2 ⟨lists_iff.2 ⟨_, ?_, readOptions_join h⟩, hcheck⟩
  rw [format, render, String.toList_ofList]
  exact Text.cut_append _ (colon_notMem_name a.transport)

theorem isKey_of_readOption {entry : List Char} {o : String × String} (hcomma : ',' ∉ entry)
    (h : readOption entry = .ok o) : IsKey o.1 := by
  obtain ⟨value, rfl, hne, hequals, -⟩ := readOption_ok_iff.1 h
  exact ⟨hne, fun hmem => hcomma (List.mem_append_left _ hmem), hequals⟩

/-- The keys of an address that was read can be written. -/
theorem isKey_of_parse (h : parse text = .ok a) : ∀ o ∈ a.options, IsKey o.1 := by
  obtain ⟨rest, -, hoptions⟩ := lists_iff.1 (lists_of_parse h)
  intro o ho
  obtain ⟨entry, hentry, hread⟩ := mem_of_mapM_ok hoptions o ho
  exact isKey_of_readOption (Text.notMem_of_mem_split (List.mem_filter.1 hentry).1) hread

theorem gives_iff_fills : a.Gives key ↔ Fills a.options key := by
  simp only [Gives, Fills, get?_eq_some_iff]

theorem isPort_of_ascii {port : String} (h : IsAsciiPort port) : IsPort port := by
  refine ⟨_, Number.decimals_ascii h.digits, ?_, ?_, h.small⟩
  · rw [List.length_map, Nat.one_le_iff_ne_zero]
    simpa using h.filled
  · rw [List.length_map]
    exact h.short

theorem check_of_suits (h : a.Suits) : a.check = .ok () := by
  refine check_ok_iff.2 ?_
  unfold Suits at h
  unfold Asked
  split <;> rename_i htransport <;> simp only [htransport] at h
  · rwa [← gives_iff_fills, ← gives_iff_fills]
  · intro port hfirst
    exact isPort_of_ascii (h port (get?_eq_some_iff.2 hfirst))

theorem parseInto_format (hkeys : ∀ o ∈ a.options, IsKey o.1) (hcheck : a.check = .ok ())
    (target : Report.Target) : parseInto target a.format = .ok (some a, target) := by
  rw [parseInto, parse_format hkeys hcheck]

/-- An address that is fit to be written, or that was read from a text, is read again from the text that
it is written as, unless an option goes by the name of the transport. -/
theorem parseInto_write :
    (∀ a : Address, (a.options.map (·.1)).Nodup → (∀ o ∈ a.options, IsKey o.1) → a.Suits → a.Named →
      ∃ text, a.write = .ok text ∧ ∀ target, parseInto target text = .ok (some a, target)) ∧
    (∀ (before : Report.Target) (written : String) (a : Address) (after : Report.Target),
      parseInto before written = .ok (some a, after) → (a.options.map (·.1)).Nodup → a.Named →
      ∃ text, a.write = .ok text ∧ ∀ target, parseInto target text = .ok (some a, target)) := by
  constructor
  · intro a _ hkeys hsuits hnamed
    exact ⟨a.format, write_eq hnamed, parseInto_format hkeys (check_of_suits hsuits)⟩
  · intro before written a after hread _ hnamed
    have hparse : parse written = .ok a := by
      unfold parseInto at hread
      split at hread
      · cases hread
        assumption
      · split at hread
        · cases hread
        · split at hread <;> cases hread
    exact ⟨a.format, write_eq hnamed, parseInto_format (isKey_of_parse hparse) (check_of_parse hparse)⟩

/-- An address whose host has all the marks that addresses are cut at. -/
def marked : Address := ⟨.tcp, [("host", "é:a,b=%2C"), ("port", "0080"), ("a:b", "")]⟩

theorem parseInto_write_marked :
    ((marked.options.map (·.1)).Nodup ∧ (∀ o ∈ marked.options, IsKey o.1) ∧ marked.Suits ∧
      marked.Named ∧ ∃ text, marked.write = .ok text ∧
        ∀ target, parseInto target text = .ok (some marked, target)) ∧
    (∃ a : Address, parseInto .clear "unix:,path=+%2fb%zz,,k=" = .ok (some a, .clear) ∧
      (a.options.map (·.1)).Nodup ∧ a.Named ∧ ∃ text, a.write = .ok text ∧
        ∀ target, parseInto target text = .ok (some a, target)) := by
  constructor
  · have hdistinct : (marked.options.map (·.1)).Nodup := by decide
    have hkeys : ∀ o ∈ marked.options, IsKey o.1 := by
      unfold IsKey
      decide
    have hsuits : marked.Suits := by
      intro port hport
      cases hport
      exact ⟨by decide, List.all_eq_true.1 (by decide), by decide, by decide⟩
    have hnamed : marked.Named := by
      unfold Named
      decide
    exact ⟨hdistinct, hkeys, hsuits, hnamed, parseInto_write.1 marked hdistinct hkeys hsuits hnamed⟩
  · have hread : parseInto .clear "unix:,path=+%2fb%zz,,k=" =
        .ok (some ⟨.unix, [("path", "+/b%zz"), ("k", "")]⟩, .clear) := by rfl
    have hnamed : Named ⟨.unix, [("path", "+/b%zz"), ("k", "")]⟩ := by
      unfold Named
      decide
    exact ⟨_, hread, by decide, hnamed, parseInto_write.2 _ _ _ _ hread (by decide) hnamed⟩

/-- An address with an option that goes by the name of the transport. -/
def clashing : Address := ⟨.unix, [("path", "/run/bus"), ("transport", "local")]⟩

/-- An address that is fit to be written and is read from a text, and yet is not written. -/
theorem write_clashing :
    (clashing.options.map (·.1)).Nodup ∧ (∀ o ∈ clashing.options, IsKey o.1) ∧ clashing.Suits ∧
      parseInto .absent "unix:path=/run/bus,transport=local" = .ok (some clashing, .absent) ∧
      clashing.write = .error .transportTwice := by
  refine ⟨by decide, ?_, ?_, rfl, rfl⟩
  · unfold IsKey
    decide
  · intro hboth
    have hpath : clashing.Gives "path" := ⟨"/run/bus", rfl, by decide⟩
    obtain ⟨directory, hdirectory, -⟩ := hboth.1 hpath
    cases hdirectory

end MessageBus.Address
