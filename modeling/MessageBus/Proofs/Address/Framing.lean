import MessageBus.Announcement
import MessageBus.Proofs.Address.Codec
/-!
The line that an address is announced by. However an address is escaped, it is printable ASCII, so that
nothing in its options can end the line or split it.
-/
namespace MessageBus

/-- The address is announced by one line, with as many bytes as characters. -/
structure Announcement.Framed (address : String) : Prop where
  printable : ∀ c ∈ address.toList, Text.PrintableAscii c
  ends : (line address).toList.getLast? = some '\n'
  oneNewline : (line address).toList.count '\n' = 1
  bytes : (line address).utf8ByteSize = (line address).length

open Text

variable {c : Char} {cs : List Char} {key address : String} {a : Address}

namespace Address

theorem printable_escape (h : c ∈ Percent.escape safe cs) : PrintableAscii c := by
  obtain h | h | rfl := Percent.mem_escape h
  · exact Percent.printable_of_isUnreserved h
  · obtain rfl | rfl : c = '/' ∨ c = '*' := by simpa [safe] using h
    · exact ⟨by decide, by decide⟩
    · exact ⟨by decide, by decide⟩
  · exact ⟨by decide, by decide⟩

/-- An address whose keys are printable is so as a whole, whatever the values are. -/
theorem printable_format (hkeys : ∀ o ∈ a.options, ∀ c ∈ o.1.toList, PrintableAscii c) :
    ∀ c ∈ a.format.toList, PrintableAscii c := by
  intro c hc
  simp only [format, render, String.toList_ofList, List.mem_append, List.mem_cons] at hc
  obtain hname | rfl | hoptions := hc
  · revert c
    cases a.transport <;> simp [Transport.name, PrintableAscii]
  · exact ⟨by decide, by decide⟩
  · obtain rfl | ⟨piece, hpiece, hc⟩ := mem_join hoptions
    · exact ⟨by decide, by decide⟩
    · obtain ⟨o, ho, rfl⟩ := List.mem_map.1 hpiece
      simp only [renderOption, List.mem_append, List.mem_cons] at hc
      obtain hkey | rfl | hvalue := hc
      · exact hkeys o ho c hkey
      · exact ⟨by decide, by decide⟩
      · exact printable_escape hvalue

end Address

/-! ### Lines -/

/-- Text of ASCII has as many bytes as characters. -/
theorem utf8ByteSize_ascii (h : ∀ c ∈ cs, c.toNat < 0x80) : (String.ofList cs).utf8ByteSize = cs.length := by
  induction cs with
  | nil => rfl
  | cons c cs ih =>
    obtain ⟨hc, hcs⟩ := List.forall_mem_cons.1 h
    have hone : c.utf8Size = 1 := Char.utf8Size_eq_one_iff.2 (Nat.le_of_lt_succ hc)
    rw [String.ofList_cons, String.utf8ByteSize_append, String.utf8ByteSize_singleton, ih hcs, hone,
      List.length_cons, Nat.add_comm]

theorem Announcement.framed_of_printable (h : ∀ c ∈ address.toList, PrintableAscii c) : Framed address := by
  have hline : (line address).toList = address.toList ++ ['\n'] := by simp [line]
  have hnone : '\n' ∉ address.toList := fun hmem => absurd (h _ hmem).1 (by decide)
  refine ⟨h, by simp [hline], ?_, ?_⟩
  · rw [hline, List.count_append, List.count_eq_zero_of_not_mem hnone]
    rfl
  · rw [← String.ofList_toList (s := line address), String.length_ofList]
    apply utf8ByteSize_ascii
    intro c hc
    obtain hc | hc := List.mem_append.1 (hline ▸ hc)
    · exact Nat.lt_trans (h c hc).2 (by decide)
    · obtain rfl := List.mem_singleton.1 hc
      decide

end MessageBus
