import MessageBus.Text.Utf8
/-!
Percent escapes. A character that may not stand for itself is written as the UTF-8 bytes it has,
each as a percent sign and two upper-case hexadecimal digits. Reading is lenient: a percent sign
without two hexadecimal digits stands for itself, and bytes that are no UTF-8 read as the
replacement character.
-/
namespace MessageBus.Text.Percent

/-- The characters that always stand for themselves. -/
def isUnreserved (c : Char) : Bool :=
  c.isAlphanum || c == '_' || c == '.' || c == '-' || c == '~'

/-- The upper-case hexadecimal digit of a number below sixteen. -/
def hexDigit (n : Nat) : Char :=
  if n < 10 then Char.ofNat (48 + n) else Char.ofNat (55 + n)

def escapeByte (b : UInt8) : List Char :=
  ['%', hexDigit (b.toNat / 16), hexDigit (b.toNat % 16)]

/-- One character of escaped text, where `also` names further characters that stand for themselves. -/
def escapeChar (also : List Char) (c : Char) : List Char :=
  if isUnreserved c || also.contains c then [c]
  else (Utf8.encodeChar c).flatMap escapeByte

def escape (also : List Char) (cs : List Char) : List Char :=
  cs.flatMap (escapeChar also)

/-- The value of a hexadecimal digit of either case. -/
def hexValue? (c : Char) : Option Nat :=
  if '0' ≤ c && c ≤ '9' then some (c.toNat - 48)
  else if 'A' ≤ c && c ≤ 'F' then some (c.toNat - 55)
  else if 'a' ≤ c && c ≤ 'f' then some (c.toNat - 87)
  else none

/-- A part of escaped text: a byte, or a character beyond ASCII. -/
inductive Part
  | byte (b : UInt8)
  | char (c : Char)

def Part.ofChar (c : Char) : Part :=
  if c.toNat < 0x80 then .byte (UInt8.ofNat c.toNat) else .char c

/-- The parts of a text, its escapes read. -/
def parts : List Char → List Part
  | [] => []
  | '%' :: a :: b :: rest =>
    match hexValue? a, hexValue? b with
    | some h, some l => .byte (UInt8.ofNat (16 * h + l)) :: parts rest
    | _, _ => Part.ofChar '%' :: parts (a :: b :: rest)
  | c :: rest => Part.ofChar c :: parts rest

/-- The characters of some parts: each longest run of bytes is decoded as one. -/
def assemble (run : List UInt8) : List Part → List Char
  | [] => Utf8.decodeLenient run.reverse
  | .byte b :: rest => assemble (b :: run) rest
  | .char c :: rest => Utf8.decodeLenient run.reverse ++ c :: assemble [] rest

def unescape (cs : List Char) : List Char :=
  assemble [] (parts cs)

end MessageBus.Text.Percent
