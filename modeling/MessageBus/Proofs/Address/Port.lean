import MessageBus.Address
import MessageBus.Proofs.Number.Digits
/-!
Ports as they are written. A port is read from decimal digits of any script; digits that have no decimal
value are taken for a port as well, and no number is read from them.
-/
namespace MessageBus.Address
variable {port : String} {ds : List Nat}

/-- One to 4300 decimal digits of any script, which write a number no larger than ports are. -/
def IsPort (port : String) : Prop :=
  ∃ digits, Number.Decimals port.toList digits ∧ 1 ≤ digits.length ∧ digits.length ≤ 4300 ∧
    Number.ofDigits 10 digits ≤ 65535

/-- The port is made of digits and no number is read from it: one of them has no decimal value, or they
are too many. -/
structure Misdigited (port : String) : Prop where
  filled : port ≠ ""
  digits : ∀ c ∈ port.toList, Text.isDigit c = true
  unread : (∃ c ∈ port.toList, Text.decimalValue? c = none) ∨ 4300 < port.toList.length

theorem readPort_of_digits (hne : port ≠ "") (h : ∀ c ∈ port.toList, Text.isDigit c = true) :
    readPort port =
      match Number.readInteger 10 port with
      | .error fault => .error (.unreadablePort fault)
      | .ok n => if n ≤ maxPort then .ok n.toNat else .error (.invalidPort port) :=
  if_pos (by simpa [hne] using h)

theorem readPort_decimals (hne : port ≠ "") (h : Number.Decimals port.toList ds) :
    readPort port =
      if Number.digitLimit < ds.length then .error (.unreadablePort (.tooLongToRead ds.length))
      else if Number.ofDigits 10 ds ≤ maxPort then .ok (Number.ofDigits 10 ds)
      else .error (.invalidPort port) := by
  rw [readPort_of_digits hne h.isDigit, Number.readInteger_decimals hne h]
  by_cases hlong : Number.digitLimit < ds.length
  · simp [hlong]
  · simp only [if_neg hlong, Int.ofNat_le, Int.toNat_natCast]

theorem IsPort.ne_empty (h : IsPort port) : port ≠ "" := by
  obtain ⟨digits, hdigits, hsome, -⟩ := h
  rintro rfl
  cases hdigits
  cases hsome

/-- The number of a port is the same whether it is checked or just read. -/
theorem IsPort.exists_number (h : IsPort port) :
    ∃ digits, Number.Decimals port.toList digits ∧ Number.ofDigits 10 digits ≤ maxPort ∧
      readPort port = .ok (Number.ofDigits 10 digits) ∧
      Number.readInteger 10 port = .ok (Number.ofDigits 10 digits) := by
  have hne := h.ne_empty
  obtain ⟨digits, hdigits, -, hshort, hsmall⟩ := h
  have hread : ¬ Number.digitLimit < digits.length := Nat.not_lt.2 hshort
  have hport : Number.ofDigits 10 digits ≤ maxPort := hsmall
  refine ⟨digits, hdigits, hport, ?_, ?_⟩
  · rw [readPort_decimals hne hdigits, if_neg hread, if_pos hport]
  · rw [Number.readInteger_decimals hne hdigits, if_neg hread]

theorem IsPort.readInteger (h : IsPort port) :
    ∃ n : Nat, Number.readInteger 10 port = .ok n ∧ n ≤ maxPort := by
  obtain ⟨digits, -, hsmall, -, hread⟩ := h.exists_number
  exact ⟨_, hread, hsmall⟩

theorem IsPort.readPort (h : IsPort port) : ∃ n, readPort port = .ok n := by
  obtain ⟨digits, -, -, hread, -⟩ := h.exists_number
  exact ⟨_, hread⟩

theorem Misdigited.readInteger (h : Misdigited port) : ∃ fault, Number.readInteger 10 port = .error fault := by
  obtain ⟨ds, hds⟩ | ⟨front, ds, c, rest, htext, hfront, hnone⟩ := Number.decimals_or_other port.toList
  · have hlong : Number.digitLimit < ds.length := by
      obtain ⟨c, hc, hnone⟩ | hlong := h.unread
      · obtain ⟨d, hd⟩ := hds.exists_value c hc
        simp [hnone] at hd
      · exact hds.length_eq ▸ hlong
    rw [Number.readInteger_decimals h.filled hds, if_pos hlong]
    exact ⟨_, rfl⟩
  · exact Number.readInteger_other htext h.digits hfront hnone

theorem Misdigited.readPort (h : Misdigited port) : ∃ fault, readPort port = .error (.unreadablePort fault) := by
  obtain ⟨fault, hfault⟩ := h.readInteger
  rw [readPort_of_digits h.filled h.digits, hfault]
  exact ⟨fault, rfl⟩

theorem Misdigited.not_isPort (h : Misdigited port) : ¬ IsPort port := by
  intro hport
  obtain ⟨fault, hfault⟩ := h.readInteger
  obtain ⟨n, hn, -⟩ := hport.readInteger
  rw [hfault] at hn
  cases hn

/-- A text is a port, or it is taken for one that cannot be read, or it is refused. -/
theorem readPort_cases (port : String) :
    IsPort port ∨ Misdigited port ∨ readPort port = .error (.invalidPort port) := by
  by_cases hdigits : port ≠ "" ∧ ∀ c ∈ port.toList, Text.isDigit c = true
  · obtain ⟨hne, hall⟩ := hdigits
    obtain ⟨ds, hds⟩ | ⟨front, ds, c, rest, htext, hfront, hnone⟩ := Number.decimals_or_other port.toList
    · by_cases hlong : Number.digitLimit < ds.length
      · exact .inr (.inl ⟨hne, hall, .inr (hds.length_eq ▸ hlong)⟩)
      · by_cases hsmall : Number.ofDigits 10 ds ≤ maxPort
        · have hsome : 1 ≤ ds.length := by
            rw [← hds.length_eq, Nat.one_le_iff_ne_zero]
            simpa using hne
          exact .inl ⟨ds, hds, hsome, Nat.not_lt.1 hlong, hsmall⟩
        · right; right
          rw [readPort_decimals hne hds, if_neg hlong, if_neg hsmall]
    · exact .inr (.inl ⟨hne, hall, .inl ⟨c, by simp [htext], hnone⟩⟩)
  · exact .inr (.inr (if_neg (by simpa using hdigits)))

theorem readPort_ok_iff : (∃ n, readPort port = .ok n) ↔ IsPort port := by
  refine ⟨fun ⟨n, hn⟩ => ?_, IsPort.readPort⟩
  obtain hport | hmis | hinvalid := readPort_cases port
  · exact hport
  · obtain ⟨fault, hfault⟩ := hmis.readPort
    rw [hfault] at hn
    cases hn
  · rw [hinvalid] at hn
    cases hn

theorem readPort_unreadable_iff :
    (∃ fault, readPort port = .error (.unreadablePort fault)) ↔ Misdigited port := by
  refine ⟨fun ⟨fault, hfault⟩ => ?_, Misdigited.readPort⟩
  obtain hport | hmis | hinvalid := readPort_cases port
  · obtain ⟨n, hn⟩ := hport.readPort
    rw [hfault] at hn
    cases hn
  · exact hmis
  · rw [hinvalid] at hfault
    cases hfault

end MessageBus.Address
