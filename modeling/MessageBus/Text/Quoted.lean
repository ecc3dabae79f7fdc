import MessageBus.Text.Printable
/-!
Text and bytes written between quotes. Single quotes are used unless the content has a single quote
and no double quote. Backslash, the quote in use and every unprintable character are escaped.
-/
namespace MessageBus.Text

/-- The lower-case hexadecimal digits of a number, at least `width` of them. -/
def hex (width n : Nat) : List Char :=
  let ds := Nat.toDigits 16 n
  List.replicate (width - ds.length) '0' ++ ds

/-- The numeric escape of a character: two, four or eight hexadecimal digits. -/
def numericEscape (c : Char) : List Char :=
  let n := c.toNat
  if n < 0x100 then '\\' :: 'x' :: hex 2 n
  else if n < 0x10000 then '\\' :: 'u' :: hex 4 n
  else '\\' :: 'U' :: hex 8 n

/-- One character of quoted text, where `keep` tells which characters stand for themselves. -/
def escapeChar (keep : Char → Bool) (quoteMark c : Char) : List Char :=
  if c == quoteMark || c == '\\' then ['\\', c]
  else match c with
    | '\t' => ['\\', 't']
    | '\n' => ['\\', 'n']
    | '\r' => ['\\', 'r']
    | c => if keep c then [c] else numericEscape c

/-- The quote mark for a content. -/
def quoteMark (cs : List Char) : Char :=
  if cs.contains '\'' && !cs.contains '"' then '"' else '\''

/-- The characters between quotes. -/
def quoteChars (keep : Char → Bool) (cs : List Char) : List Char :=
  let q := quoteMark cs
  q :: cs.flatMap (escapeChar keep q) ++ [q]

/-- Quoted text in which printable characters stand for themselves. -/
def quoted (s : String) : String :=
  String.ofList (quoteChars isPrintable s.toList)

/-- Any text with its characters beyond ASCII replaced by numeric escapes. -/
def asciiOnly (s : String) : String :=
  String.ofList (s.toList.flatMap fun c => if c.toNat < 0x80 then [c] else numericEscape c)

/-- Bytes between quotes, after the letter b; only printable ASCII stands for itself. -/
def quotedBytes (bs : List UInt8) : String :=
  let printable (c : Char) : Bool := 0x20 ≤ c.toNat && c.toNat < 0x7F
  String.ofList ('b' :: quoteChars printable (bs.map fun b => Char.ofNat b.toNat))

end MessageBus.Text
