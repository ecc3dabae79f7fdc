import MessageBus.Value.Literal
/-!
Days and moments written by a pattern. A directive is a percent sign, flags that say how it is padded
and in which case it is written, a width, and the letter of what is written. A directive that is not
known stands for itself, and so does all other text.
-/
namespace MessageBus.Template.Calendar

def weekdays : List String :=
  ["Sunday", "Monday", "Tuesday", "Wednesday", "Thursday", "Friday", "Saturday"]

def months : List String :=
  ["January", "February", "March", "April", "May", "June", "July", "August", "September", "October",
    "November", "December"]

def shortened (s : String) : String := String.ofList (s.toList.take 3)

/-- The day of the week, where Sunday is zero. -/
def weekday (d : Date) : Nat := d.ordinal % 7

/-- The day of the year, where the first is zero. -/
def yearDay (d : Date) : Nat := d.ordinal - Date.ordinal ⟨d.year, 1, 1⟩

/-- The year and the week that a day belongs to where weeks begin on Monday and belong to the year
of their Thursday. -/
def weekOf (d : Date) : Nat × Nat :=
  let thursday := d.ordinal + 3 - (weekday d + 6) % 7
  let year :=
    if thursday < Date.ordinal ⟨d.year, 1, 1⟩ then d.year - 1
    else if Date.ordinal ⟨d.year + 1, 1, 1⟩ ≤ thursday then d.year + 1
    else d.year
  let first := if year = 0 then -365 else (Date.ordinal ⟨year, 1, 1⟩ : Int)
  (year, ((thursday - first) / 7).toNat + 1)

/-- The hour on a clock of twelve. -/
def clockHour (m : Moment) : Nat :=
  if m.hour % 12 = 0 then 12 else m.hour % 12

/-- The offset of a moment, without a mark between hours and minutes. -/
def offsetDigits (offset : Int) : List Char :=
  (offsetText offset).toList.filter (· != ':')

/-- The directives that know the zone or the microseconds are filled in first. -/
def fillZone (m : Moment) : List Char → List Char
  | '%' :: 'z' :: rest => m.offset.elim [] offsetDigits ++ fillZone m rest
  | '%' :: 'Z' :: rest => m.offset.elim [] (fun o => (zoneText o).toList) ++ fillZone m rest
  | '%' :: 'f' :: rest => (MessageBus.padded 6 m.microsecond).toList ++ fillZone m rest
  | '%' :: c :: rest => '%' :: c :: fillZone m rest
  | c :: rest => c :: fillZone m rest
  | [] => []

/-- How a directive is written: its padding, its case, its width, and a letter that changes it. -/
structure Manner where
  padding : Option Char := none
  upper : Bool := false
  swapped : Bool := false
  width : Nat := 0
  modifier : Option Char := none

/-- The flags at the front of a directive. -/
def takeFlags (manner : Manner) : List Char → Manner × List Char
  | '_' :: rest => takeFlags { manner with padding := some '_' } rest
  | '-' :: rest => takeFlags { manner with padding := some '-' } rest
  | '0' :: rest => takeFlags { manner with padding := some '0' } rest
  | '^' :: rest => takeFlags { manner with upper := true } rest
  | '#' :: rest => takeFlags { manner with swapped := true } rest
  | cs => (manner, cs)

/-- The manner of a directive, up to its letter. -/
def takeManner (cs : List Char) : Manner × List Char :=
  let (manner, cs) := takeFlags {} cs
  let ds := cs.takeWhile Text.isAsciiDigit
  let manner := { manner with width := Number.ofDigits 10 (ds.map Text.asciiDigitValue) }
  match cs.drop ds.length with
  | 'E' :: rest => ({ manner with modifier := some 'E' }, rest)
  | 'O' :: rest => ({ manner with modifier := some 'O' }, rest)
  | cs => (manner, cs)

/-- A text in the width of its directive. -/
def Manner.text (manner : Manner) (cs : List Char) : List Char :=
  let filler := if manner.padding = some '0' then '0' else ' '
  List.replicate (manner.width - cs.length) filler ++ (if manner.upper then cs.map Char.toUpper else cs)

/-- A name, in capitals if the case is swapped. -/
def Manner.name (manner : Manner) (s : String) : List Char :=
  { manner with upper := manner.upper || manner.swapped }.text s.toList

/-- A number in at least so many digits. -/
def Manner.number (manner : Manner) (digits : Nat) (n : Int) : List Char :=
  let ds := Nat.toDigits 10 n.natAbs
  let sign := Number.signText (n < 0)
  let gap := max digits manner.width - (sign.length + ds.length)
  match manner.padding with
  | some '-' => manner.text (sign ++ ds)
  | some '_' => List.replicate gap ' ' ++ sign ++ ds
  | _ => sign ++ List.replicate gap '0' ++ ds

/-- A number with blanks before it, unless zeros are asked for. -/
def Manner.blankNumber (manner : Manner) (digits : Nat) (n : Int) : List Char :=
  { manner with padding := some (manner.padding.getD '_') }.number digits n

/-- Seconds since the first day of 1970. -/
def seconds (m : Moment) : Int :=
  (m.instant 0 - m.microsecond) / 1000000 -
    (Date.ordinal ⟨1970, 1, 1⟩ : Int) * 86400

/-- What a letter stands for in terms of others. -/
def compound (c : Char) : Option String :=
  match c with
  | 'c' => some "%a %b %e %H:%M:%S %Y"
  | 'x' | 'D' => some "%m/%d/%y"
  | 'F' => some "%Y-%m-%d"
  | 'R' => some "%H:%M"
  | 'r' => some "%I:%M:%S %p"
  | 'X' | 'T' => some "%H:%M:%S"
  | _ => none

/-- The letter may have the modifier. None that a letter may have changes what is written. -/
def allows (letter : Char) (modifier : Option Char) : Bool :=
  match modifier with
  | none => true
  | some 'E' => !"abdeghjklmwABDFGHIMSUVW".toList.contains letter
  | _ => !"acxADFXY".toList.contains letter

/-- What a letter writes by itself. -/
def single (m : Moment) (manner : Manner) (c : Char) : Option (List Char) :=
  let d := m.date
  let half := if m.hour < 12 then "AM" else "PM"
  let lowered (s : String) : List Char := { manner with upper := false }.text (s.toList.map Char.toLower)
  match c with
  | '%' => some (manner.text ['%'])
  | 'n' => some (manner.text ['\n'])
  | 't' => some (manner.text ['\t'])
  | 'a' => some (manner.name (shortened (weekdays.getD (weekday d) "")))
  | 'A' => some (manner.name (weekdays.getD (weekday d) ""))
  | 'b' | 'h' => some (manner.name (shortened (months.getD (d.month - 1) "")))
  | 'B' => some (manner.name (months.getD (d.month - 1) ""))
  | 'p' => some (if manner.swapped then lowered half else manner.text half.toList)
  | 'P' => some (lowered half)
  | 'C' => some (manner.number 1 (d.year / 100 : Nat))
  | 'd' => some (manner.number 2 d.day)
  | 'e' => some (manner.blankNumber 2 d.day)
  | 'H' => some (manner.number 2 m.hour)
  | 'I' => some (manner.number 2 (clockHour m))
  | 'k' => some (manner.blankNumber 2 m.hour)
  | 'l' => some (manner.blankNumber 2 (clockHour m))
  | 'j' => some (manner.number 3 (yearDay d + 1 : Nat))
  | 'M' => some (manner.number 2 m.minute)
  | 'm' => some (manner.number 2 d.month)
  | 'S' => some (manner.number 2 m.second)
  | 's' => some (manner.number 1 (seconds m))
  | 'u' => some (manner.number 1 ((weekday d + 6) % 7 + 1 : Nat))
  | 'w' => some (manner.number 1 (weekday d))
  | 'U' => some (manner.number 2 ((yearDay d + 7 - weekday d) / 7 : Nat))
  | 'W' => some (manner.number 2 ((yearDay d + 7 - (weekday d + 6) % 7) / 7 : Nat))
  | 'V' => some (manner.number 2 (weekOf d).2)
  | 'g' => some (manner.number 2 ((weekOf d).1 % 100 : Nat))
  | 'G' => some (manner.number 1 (weekOf d).1)
  | 'Y' => some (manner.number 1 d.year)
  | 'y' => some (manner.number 2 (d.year % 100 : Nat))
  | 'z' => some []
  | 'Z' => some (manner.text [])
  | _ => none

/-- The text of a pattern. A letter may stand for others, which are then written at a depth below;
the steps bound the characters that are read. -/
def fill (m : Moment) : (depth steps : Nat) → List Char → List Char
  | 0, _, _ | _, 0, _ | _, _, [] => []
  | depth + 1, steps + 1, '%' :: cs =>
    let (manner, rest) := takeManner cs
    let known (c : Char) : Option (List Char) :=
      if !allows c manner.modifier then none
      else
        match compound c with
        | some s => some (manner.text (fill m depth (s.length + 1) s.toList))
        | none => single m manner c
    match rest with
    | [] => manner.text ('%' :: cs)
    | c :: rest =>
      match known c with
      | some text => text ++ fill m (depth + 1) steps rest
      | none =>
        manner.text ('%' :: cs.take (cs.length - rest.length)) ++ fill m (depth + 1) steps rest
  | depth + 1, steps + 1, c :: rest => c :: fill m (depth + 1) steps rest

/-- A moment written by a pattern. -/
def write (m : Moment) (pattern : List Char) : List Char :=
  let filled := fillZone m (pattern.takeWhile (· != '\x00'))
  fill m 2 (filled.length + 1) filled

/-- The beginning of a day. -/
def startOf (d : Date) : Moment := ⟨d, 0, 0, 0, 0, none⟩

end MessageBus.Template.Calendar
