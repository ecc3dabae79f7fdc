import MessageBus.Number.Integer
import MessageBus.Value.Literal
/-!
A place in a YAML text: what is still to be read, with line and column. The byte order mark takes no
column. What can go wrong while a text is read stands here too: most faults only say that the text is
malformed, the others come from a scalar whose text is no value of its type.
-/
namespace MessageBus.Yaml

/-- A part of a point of time that is out of its range. -/
inductive CalendarFault
  | year (n : Nat)
  | month
  | day
  | hour
  | minute
  | second
  | offset (seconds : Int)
  deriving DecidableEq

def CalendarFault.message : CalendarFault → String
  | .year n => "year " ++ toString n ++ " is out of range"
  | .month => "month must be in 1..12"
  | .day => "day is out of range for month"
  | .hour => "hour must be in 0..23"
  | .minute => "minute must be in 0..59"
  | .second => "second must be in 0..59"
  | .offset seconds =>
    "offset must be a timedelta strictly between -timedelta(hours=24) and timedelta(hours=24), not " ++
      spanLiteral seconds ++ "."

inductive Fault
  | malformed
  | number (fault : Number.Fault)
  | calendar (fault : CalendarFault)
  | codePoint (wide : Bool)
  /-- An escape writes half of a character: no text has it. -/
  | surrogate (code : Nat)
  | emptyNumber
  | scaleTooLarge
  | notBoolean (text : String)
  | notTimestamp
  | mappedTimestamp
  deriving DecidableEq

/-- What is said about a fault. What is said about a text that is no document is for the reader to say. -/
def Fault.message? : Fault → Option String
  | .malformed => none
  | .number fault => some fault.message
  | .calendar fault => some fault.message
  | .codePoint wide =>
    some (if wide then "Python int too large to convert to C int" else "chr() arg not in range(0x110000)")
  | .surrogate code => some ("surrogates not allowed: U+" ++ String.ofList (Text.hex 4 code))
  | .emptyNumber => some "string index out of range"
  | .scaleTooLarge => some "int too large to convert to float"
  | .notBoolean text => some (Text.quoted text)
  | .notTimestamp => some "'NoneType' object has no attribute 'groupdict'"
  | .mappedTimestamp => some "expected string or bytes-like object, got 'list'"

structure Cursor where
  rest : List Char
  index : Nat
  line : Nat
  column : Nat

namespace Cursor

def ofText (cs : List Char) : Cursor := ⟨cs, 0, 0, 0⟩

/-- A character that ends a line. -/
def isBreak (c : Char) : Bool :=
  c == '\n' || c == '\u0085' || c == '\u2028' || c == '\u2029'

def isSpaceOrTab (c : Char) : Bool :=
  c == ' ' || c == '\t'

def peek (c : Cursor) : Option Char := c.rest.head?

/-- The character some places ahead. -/
def ahead (c : Cursor) (n : Nat) : Option Char := c.rest[n]?

/-- The next character is a given one. -/
def starts (c : Cursor) (ch : Char) : Bool := c.peek == some ch

/-- The text ends here, or a line does. -/
def endsLine (ch : Option Char) : Bool := ch.all isBreak

/-- The text ends here, or a line or a word does. -/
def endsWord (ch : Option Char) : Bool := ch.all fun c => isBreak c || c == ' '

/-- As `endsWord`, a tab counting as the end of a word. -/
def endsTabbed (ch : Option Char) : Bool := ch.all fun c => isBreak c || isSpaceOrTab c

def step (c : Cursor) : Cursor :=
  match c.rest with
  | [] => c
  | ch :: rest =>
    if isBreak ch then ⟨rest, c.index + 1, c.line + 1, 0⟩
    else ⟨rest, c.index + 1, c.line, if ch == '\uFEFF' then c.column else c.column + 1⟩

def skip : Nat → Cursor → Cursor
  | 0, c => c
  | n + 1, c => skip n c.step

/-- The characters at the front that have a property. -/
def front (p : Char → Bool) (c : Cursor) : List Char := c.rest.takeWhile p

def skipWhile (p : Char → Bool) (c : Cursor) : Cursor := c.skip (c.front p).length

def skipBlanks (c : Cursor) : Cursor := c.skipWhile (· == ' ')

/-- The cursor behind a comment, if one begins here. -/
def skipComment (c : Cursor) : Cursor :=
  if c.starts '#' then c.skipWhile (!isBreak ·) else c

/-- What a line end reads as, and the cursor behind it, if there is one here. The usual line ends
read as a line feed, the two separators of Unicode as themselves. -/
def lineBreak? (c : Cursor) : Option (Char × Cursor) :=
  match c.peek with
  | some ch =>
    if ch == '\n' || ch == '\u0085' then some ('\n', c.step)
    else if ch == '\u2028' || ch == '\u2029' then some (ch, c.step)
    else none
  | none => none

/-- Three equal marks stand here, and behind them a word ends. -/
def atMark (mark : Char) (c : Cursor) : Bool :=
  c.rest.take 3 == [mark, mark, mark] && endsTabbed (c.ahead 3)

/-- A mark between documents stands here. -/
def atSeparator (c : Cursor) : Bool :=
  c.atMark '-' || c.atMark '.'

end Cursor

/-- A letter, a digit, a dash or an underscore, all of ASCII. -/
def isNameChar (c : Char) : Bool :=
  c.isAlphanum || c == '-' || c == '_'

end MessageBus.Yaml
