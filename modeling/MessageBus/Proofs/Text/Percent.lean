import MessageBus.Text.Percent
/-!
Percent escapes read back. Each escaped character is read as the bytes it has, so that escaped text
gives the text it was made of, and nothing but unreserved characters and percent signs stands in it.
-/
namespace MessageBus.Text

/-- A printable character of ASCII, the blank among them. -/
def PrintableAscii (c : Char) : Prop := 0x20 ≤ c.toNat ∧ c.toNat < 0x7f

namespace Percent
variable {also cs : List Char} {c : Char}

/-- Characters that may stand for themselves: of ASCII, and no percent sign. -/
def Plain (also : List Char) : Prop := ∀ c ∈ also, c.toNat < 0x80 ∧ c ≠ '%'

theorem hexValue?_hexDigit : ∀ n < 16, hexValue? (hexDigit n) = some n := by decide

theorem isUnreserved_hexDigit : ∀ n < 16, isUnreserved (hexDigit n) = true := by decide

theorem printable_of_isUnreserved (h : isUnreserved c = true) : PrintableAscii c := by
  simp only [isUnreserved, Bool.or_eq_true, beq_iff_eq] at h
  obtain (((h | rfl) | rfl) | rfl) | rfl := h
  · delta Char.isAlphanum Char.isAlpha Char.isUpper Char.isLower Char.isDigit at h
    simp only [Bool.or_eq_true, Bool.and_eq_true, decide_eq_true_eq] at h
    obtain (⟨hlow, hhigh⟩ | ⟨hlow, hhigh⟩) | ⟨hlow, hhigh⟩ := h <;>
      exact ⟨Nat.le_trans (by decide) hlow, Nat.lt_of_le_of_lt hhigh (by decide)⟩
  all_goals exact ⟨by decide, by decide⟩

theorem isUnreserved_plain (h : isUnreserved c = true) : c.toNat < 0x80 ∧ c ≠ '%' := by
  refine ⟨Nat.lt_trans (printable_of_isUnreserved h).2 (by decide), ?_⟩
  rintro rfl
  revert h
  decide

theorem parts_escapeByte (b : UInt8) (rest : List Char) :
    parts (escapeByte b ++ rest) = .byte b :: parts rest := by
  have hb := b.toNat_lt
  have hvalue : 16 * (b.toNat / 16) + b.toNat % 16 = b.toNat := by omega
  rw [escapeByte, List.cons_append, List.cons_append, List.cons_append, List.nil_append, parts,
    hexValue?_hexDigit _ (by omega), hexValue?_hexDigit _ (by omega)]
  simp [hvalue]

theorem parts_escapeBytes (bs : List UInt8) (rest : List Char) :
    parts (bs.flatMap escapeByte ++ rest) = bs.map .byte ++ parts rest := by
  induction bs with
  | nil => rfl
  | cons b bs ih => simp [parts_escapeByte, ih]

theorem parts_plain (hc : c ≠ '%') (rest : List Char) :
    parts (c :: rest) = Part.ofChar c :: parts rest := by
  rw [parts]
  rintro a b rest rfl
  exact absurd rfl hc

theorem parts_escapeChar (halso : Plain also) (c : Char) (rest : List Char) :
    parts (escapeChar also c ++ rest) = (Utf8.encodeChar c).map .byte ++ parts rest := by
  unfold escapeChar
  split
  · rename_i hself
    have hplain : c.toNat < 0x80 ∧ c ≠ '%' := by
      obtain hself | hself := Bool.or_eq_true_iff.1 hself
      · exact isUnreserved_plain hself
      · exact halso c (List.contains_iff_mem.1 hself)
    have hbytes : Utf8.encodeChar c = [UInt8.ofNat c.toNat] := if_pos (Nat.le_of_lt_succ hplain.1)
    rw [List.cons_append, List.nil_append, parts_plain hplain.2, hbytes, Part.ofChar, if_pos hplain.1]
    rfl
  · exact parts_escapeBytes _ rest

theorem parts_escape (halso : Plain also) (cs : List Char) :
    parts (escape also cs) = (Utf8.encode cs).map .byte := by
  induction cs with
  | nil => rfl
  | cons c cs ih =>
    have hchar := parts_escapeChar halso c (escape also cs)
    rw [ih, ← List.map_append] at hchar
    exact hchar

theorem assemble_bytes (run bs : List UInt8) :
    assemble run (bs.map .byte) = Utf8.decodeLenient (run.reverse ++ bs) := by
  induction bs generalizing run with
  | nil => simp [assemble]
  | cons b bs ih => simp [assemble, ih]

/-- Escaped text reads as what it was made of. -/
theorem unescape_escape (halso : Plain also) (cs : List Char) : unescape (escape also cs) = cs := by
  rw [unescape, parts_escape halso, assemble_bytes]
  exact Utf8.decodeLenient_encode cs

/-- What stands in escaped text stands for itself, or is a percent sign. -/
theorem mem_escape (h : c ∈ escape also cs) : isUnreserved c = true ∨ c ∈ also ∨ c = '%' := by
  obtain ⟨d, -, hc⟩ := List.mem_flatMap.1 h
  unfold escapeChar at hc
  split at hc
  · rename_i hself
    obtain rfl := List.mem_singleton.1 hc
    obtain hself | hself := Bool.or_eq_true_iff.1 hself
    · exact .inl hself
    · exact .inr (.inl (List.contains_iff_mem.1 hself))
  · obtain ⟨b, -, hc⟩ := List.mem_flatMap.1 hc
    have hb := b.toNat_lt
    simp only [escapeByte, List.mem_cons, List.not_mem_nil, or_false] at hc
    obtain rfl | rfl | rfl := hc
    · exact .inr (.inr rfl)
    · exact .inl (isUnreserved_hexDigit _ (by omega))
    · exact .inl (isUnreserved_hexDigit _ (by omega))

end Percent
end MessageBus.Text
