import MessageBus.Text.Cut
import MessageBus.Text.Lines
import MessageBus.Text.Percent
import MessageBus.Yaml.Cursor
/-!
Types of YAML nodes. A plain scalar without a tag gets its type from its text.
-/
namespace MessageBus.Yaml

inductive Tag
  | text
  | null
  | boolean
  | integer
  | real
  | binary
  | timestamp
  | orderedMap
  | pairs
  | set
  | sequence
  | mapping
  | merge
  | value
  | unknown
  deriving DecidableEq

namespace Tag

def base : String := "tag:yaml.org,2002:"

/-- The types by the end of their full name. -/
def names : List (String × Tag) := [
  ("str", text), ("null", null), ("bool", boolean), ("int", integer), ("float", real),
  ("binary", binary), ("timestamp", timestamp), ("omap", orderedMap), ("pairs", pairs),
  ("set", set), ("seq", sequence), ("map", mapping), ("merge", merge), ("value", value)]

/-- The type with a full name. -/
def ofName (name : String) : Tag :=
  ((names.find? fun e => base ++ e.1 == name).map (·.2)).getD unknown

end Tag

/-! ### Texts of scalars -/

/-- The text without a sign in front. -/
def unsigned (cs : List Char) : List Char :=
  match cs with
  | '-' :: rest | '+' :: rest => rest
  | cs => cs

def isDigit (c : Char) : Bool := Text.isAsciiDigit c

def isDigitOrGap (c : Char) : Bool := isDigit c || c == '_'

/-- Digits with gaps between and behind them. -/
def isGapped (cs : List Char) : Bool :=
  cs.head?.any isDigit && cs.all isDigitOrGap

/-- A part of a number in base sixty. -/
def isSixtieth (cs : List Char) : Bool :=
  match cs with
  | [a] => isDigit a
  | [a, b] => '0' ≤ a && a ≤ '5' && isDigit b
  | _ => false

/-- An exponent, which must have a sign, or nothing. -/
def isExponent (cs : List Char) : Bool :=
  match cs with
  | [] => true
  | e :: sign :: ds =>
    (e == 'e' || e == 'E') && (sign == '-' || sign == '+') && !ds.isEmpty && ds.all isDigit
  | _ => false

def isBooleanText (cs : List Char) : Bool :=
  ["yes", "Yes", "YES", "no", "No", "NO", "true", "True", "TRUE", "false", "False", "FALSE",
    "on", "On", "ON", "off", "Off", "OFF"].contains (String.ofList cs)

def isNullText (cs : List Char) : Bool :=
  ["", "~", "null", "Null", "NULL"].contains (String.ofList cs)

def isRealText (cs : List Char) : Bool :=
  let ds := unsigned cs
  let decimal :=
    match Text.cut '.' ds with
    | some (whole, part) =>
      isGapped whole && isExponent (part.dropWhile isDigitOrGap) ||
        ((Text.split ':' whole).length > 1 && part.all isDigitOrGap &&
          match Text.split ':' whole with
          | first :: rest => isGapped first && rest.all isSixtieth
          | [] => false)
    | none => false
  let pointFirst :=
    match cs with
    | '.' :: d :: rest => isDigit d && isExponent (rest.dropWhile isDigitOrGap)
    | _ => false
  decimal || pointFirst || [".inf", ".Inf", ".INF"].contains (String.ofList ds) ||
    [".nan", ".NaN", ".NAN"].contains (String.ofList cs)

def isIntegerText (cs : List Char) : Bool :=
  let isHex (c : Char) : Bool := (Text.Percent.hexValue? c).isSome || c == '_'
  match unsigned cs with
  | '0' :: 'b' :: rest =>
    !rest.isEmpty && rest.all fun c => c == '0' || c == '1' || c == '_'
  | '0' :: 'x' :: rest => !rest.isEmpty && rest.all isHex
  | '0' :: rest => rest.all fun c => ('0' ≤ c && c ≤ '7') || c == '_'
  | ds =>
    isGapped ds ||
      match Text.split ':' ds with
      | first :: rest => !rest.isEmpty && isGapped first && rest.all isSixtieth
      | [] => false

/-- The texts of the parts of a point of time. A part that is not given is empty. -/
structure TimeText where
  year : List Char
  month : List Char
  day : List Char
  clock : Option (List Char × List Char × List Char × List Char)
  zone : Option (Option (Bool × List Char × List Char))

/-- Digits at the front of a text, between `least` and `most` of them. -/
def takeDigits (least most : Nat) (cs : List Char) : Option (List Char × List Char) :=
  let ds := (cs.takeWhile isDigit).take most
  if least ≤ ds.length then some (ds, cs.drop ds.length) else none

def takeMark (mark : Char) (cs : List Char) : Option (List Char) :=
  match cs with
  | c :: rest => if c = mark then some rest else none
  | [] => none

/-- The zone behind a point of time: none, universal time, or hours and minutes from it. -/
def takeZone (cs : List Char) : Option (Option (Option (Bool × List Char × List Char))) :=
  match cs, cs.dropWhile Cursor.isSpaceOrTab with
  | [], _ => some none
  | _, ['Z'] => some (some none)
  | _, sign :: rest =>
    if sign == '-' || sign == '+' then do
      let (hours, rest) ← takeDigits 1 2 rest
      match rest with
      | [] => some (some (some (sign == '-', hours, [])))
      | ':' :: rest => do
        let (minutes, rest) ← takeDigits 2 2 rest
        if rest.isEmpty then some (some (some (sign == '-', hours, minutes))) else none
      | _ => none
    else none
  | _, [] => none

/-- The parts of a point of time. -/
def timeText? (cs : List Char) : Option TimeText := do
  let (year, rest) ← takeDigits 4 4 cs
  let (month, rest) ← takeDigits 1 2 (← takeMark '-' rest)
  let (day, rest) ← takeDigits 1 2 (← takeMark '-' rest)
  if rest.isEmpty then return ⟨year, month, day, none, none⟩
  else do
    let rest ←
      match rest with
      | 'T' :: rest | 't' :: rest => some rest
      | c :: rest =>
        if Cursor.isSpaceOrTab c then some (rest.dropWhile Cursor.isSpaceOrTab) else none
      | [] => none
    let (hour, rest) ← takeDigits 1 2 rest
    let (minute, rest) ← takeDigits 2 2 (← takeMark ':' rest)
    let (second, rest) ← takeDigits 2 2 (← takeMark ':' rest)
    let (fraction, rest) :=
      match rest with
      | '.' :: rest => (rest.takeWhile isDigit, rest.dropWhile isDigit)
      | rest => ([], rest)
    return ⟨year, month, day, some (hour, minute, second, fraction), ← takeZone rest⟩

/-- A point of time, or a day whose month and day have two digits each. -/
def isTimeText (cs : List Char) : Bool :=
  match timeText? cs with
  | some t => t.clock.isSome || (t.month.length == 2 && t.day.length == 2)
  | none => false

/-- The type of a plain scalar without a tag. A line feed behind the text does not count, but a line
feed alone is a text. -/
def Tag.ofText (s : String) : Tag :=
  let cs := Text.dropLineFeed s.toList
  if isBooleanText cs then .boolean
  else if isRealText cs then .real
  else if isIntegerText cs then .integer
  else if cs = "<<".toList then .merge
  else if isNullText cs && (s = "" || !cs.isEmpty) then .null
  else if isTimeText cs then .timestamp
  else if cs = "=".toList then .value
  else .text

end MessageBus.Yaml
