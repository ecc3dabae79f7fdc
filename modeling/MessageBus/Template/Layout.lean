import MessageBus.Template
import MessageBus.Template.Calendar
/-!
How a value is laid out in a field: a fill character, a side, a sign, a base mark, a width, marks
between groups of digits, a precision, and a form.
-/
namespace MessageBus.Template

/-- Where the blanks of a field go: behind, before, on both sides, or between sign and digits. -/
inductive Side
  | left
  | right
  | middle
  | inside
  deriving DecidableEq

/-- A layout as it is written. -/
structure Layout where
  filler : Char
  side : Side
  sign : Option Char
  positiveZero : Bool
  full : Bool
  width : Nat
  separator : Option Char
  precision : Option Nat
  form : Option Char

namespace Layout

/-- Why a value cannot be laid out. -/
inductive Fault
  | tooManyDigits
  | twoSeparators
  | precisionMissing
  | invalid (layout kind : String)
  | separatorForm (separator form : Char)
  | unknownForm (form : Char) (kind : String)
  | textSign (blank : Bool)
  | textZero
  | textFull
  | textInside
  | integerPrecision
  | integerZero
  | characterSign
  | characterFull
  | characterOutOfRange
  | characterTooLarge
  | realTooLarge
  | precisionTooBig
  | outOfMemory
  | unsupported (kind : String)
  | unwritable (fault : Number.Fault)
  deriving DecidableEq

/-- A character as messages show it: as itself between the blank and a limit. -/
def shown (limit : Nat) (c : Char) : String :=
  if 32 < c.toNat && c.toNat < limit then c.toString
  else "\\x" ++ String.ofList (Nat.toDigits 16 c.toNat)

def Fault.message : Fault → String
  | .tooManyDigits => "Too many decimal digits in format string"
  | .twoSeparators => "Cannot specify both ',' and '_'."
  | .precisionMissing => "Format specifier missing precision"
  | .invalid layout kind =>
    "Invalid format specifier '" ++ layout ++ "' for object of type '" ++ kind ++ "'"
  | .separatorForm separator form =>
    "Cannot specify '" ++ separator.toString ++ "' with '" ++ shown 128 form ++ "'."
  | .unknownForm form kind =>
    "Unknown format code '" ++ shown 128 form ++ "' for object of type '" ++ kind ++ "'"
  | .textSign true => "Space not allowed in string format specifier"
  | .textSign false => "Sign not allowed in string format specifier"
  | .textZero => "Negative zero coercion (z) not allowed in string format specifier"
  | .textFull => "Alternate form (#) not allowed in string format specifier"
  | .textInside => "'=' alignment not allowed in string format specifier"
  | .integerPrecision => "Precision not allowed in integer format specifier"
  | .integerZero => "Negative zero coercion (z) not allowed in integer format specifier"
  | .characterSign => "Sign not allowed with integer format specifier 'c'"
  | .characterFull => "Alternate form (#) not allowed with integer format specifier 'c'"
  | .characterOutOfRange => "%c arg not in range(0x110000)"
  | .characterTooLarge => "Python int too large to convert to C long"
  | .realTooLarge => "int too large to convert to float"
  | .precisionTooBig => "precision too big"
  | .outOfMemory => ""
  | .unsupported kind => "unsupported format string passed to " ++ kind ++ ".__format__"
  | .unwritable fault => fault.message

def Side.ofChar? (c : Char) : Option Side :=
  match c with
  | '<' => some .left
  | '>' => some .right
  | '^' => some .middle
  | '=' => some .inside
  | _ => none

/-- Digits of any script at the front of a text, as a number; none if there are none. -/
def takeNumber (cs : List Char) : Except Fault (Option Nat × List Char) :=
  let ds := cs.takeWhile fun c => (Text.decimalValue? c).isSome
  if ds.isEmpty then .ok (none, cs)
  else
    let n := Number.ofDigits 10 (ds.filterMap Text.decimalValue?)
    if maxWidth < n then .error .tooManyDigits else .ok (some n, cs.drop ds.length)

/-- The fill character and the side at the front of a text. -/
def takeSide (cs : List Char) : Option Char × Option Side × List Char :=
  match cs with
  | c :: d :: rest =>
    match Side.ofChar? d with
    | some side => (some c, some side, rest)
    | none =>
      match Side.ofChar? c with
      | some side => (none, some side, d :: rest)
      | none => (none, none, cs)
  | [c] =>
    match Side.ofChar? c with
    | some side => (none, some side, [])
    | none => (none, none, cs)
  | [] => (none, none, [])

/-- Is the character at the front of the text, and what is behind it? -/
def takeMark (mark : Char) (cs : List Char) : Bool × List Char :=
  match cs with
  | c :: rest => if c = mark then (true, rest) else (false, cs)
  | [] => (false, [])

/-- The mark between groups of digits at the front of a text. -/
def takeSeparator (cs : List Char) : Except Fault (Option Char × List Char) :=
  match cs with
  | ',' :: '_' :: _ | '_' :: ',' :: _ => .error .twoSeparators
  | ',' :: rest => .ok (some ',', rest)
  | '_' :: rest => .ok (some '_', rest)
  | cs => .ok (none, cs)

/-- The precision at the front of a text. -/
def takePlaces (cs : List Char) : Except Fault (Option Nat × List Char) :=
  match cs with
  | '.' :: rest => do
    match ← takeNumber rest with
    | (none, _) => .error .precisionMissing
    | found => .ok found
  | cs => .ok (none, cs)

/-- Forms whose digits can be grouped. -/
def groups (separator : Char) (form : Option Char) : Bool :=
  match form with
  | none => true
  | some c => ['d', 'e', 'f', 'g', 'E', 'G', '%', 'F'].contains c ||
      (separator == '_' && ['b', 'o', 'x', 'X'].contains c)

/-- The layout that a text writes for a kind of value. A number stands on the right unless a side is
named, and zeros go inside. -/
def read (numeric : Bool) (standard : Option Char) (kind : String) (cs : List Char) :
    Except Fault Layout := do
  let (filler, side, rest) := takeSide cs
  let (sign, rest) : Option Char × List Char :=
    match rest with
    | c :: r => if c = ' ' || c = '+' || c = '-' then (some c, r) else (none, rest)
    | [] => (none, [])
  let (positiveZero, rest) := takeMark 'z' rest
  let (full, rest) := takeMark '#' rest
  let (zero, rest) := if filler.isNone then takeMark '0' rest else (false, rest)
  let (width, rest) ← takeNumber rest
  let (separator, rest) ← takeSeparator rest
  let (precision, rest) ← takePlaces rest
  let form ←
    match rest with
    | [] => .ok standard
    | [c] => .ok (some c)
    | _ => .error (.invalid (String.ofList cs) kind)
  match separator, form with
  | some separator, some c =>
    if !groups separator (some c) then throw (.separatorForm separator c)
  | _, _ => pure ()
  return {
    filler := if zero then '0' else filler.getD ' '
    side := side.getD (if !numeric then .left else if zero then .inside else .right)
    sign := sign
    positiveZero := positiveZero
    full := full
    width := width.getD 0
    separator := separator
    precision := precision
    form := form }

/-- A body in the field, with what stands before the place for inner blanks. -/
def place (l : Layout) (front body : List Char) : List Char :=
  let gap := l.width - (front.length + body.length)
  let blanks (n : Nat) : List Char := List.replicate n l.filler
  match l.side with
  | .left => front ++ body ++ blanks gap
  | .right => blanks gap ++ front ++ body
  | .middle => blanks (gap / 2) ++ front ++ body ++ blanks (gap - gap / 2)
  | .inside => front ++ blanks gap ++ body

/-- Digits in groups from the right, as many as there are. -/
def grouped (separator : Char) (size : Nat) (ds : List Char) : List Char :=
  let n := ds.length
  ds.zipIdx.flatMap fun (d, i) =>
    if i ≠ 0 && (n - i) % size == 0 then [separator, d] else [d]

/-- The fewest digits that fill a width together with the marks between their groups. -/
def digitsFor (size width : Nat) : Nat :=
  width - width / (size + 1) + (if width % (size + 1) = 0 then 1 else 0)

/-- Digits in groups, with zeros before them up to a width. -/
def groupedTo (separator : Char) (size width : Nat) (ds : List Char) : List Char :=
  grouped separator size (List.replicate (digitsFor size width - ds.length) '0' ++ ds)

/-- A number in the field: its sign, its base mark, its digits, and what is behind them. -/
def number (l : Layout) (negative : Bool) (mark digits tail : List Char) : List Char :=
  let sign : List Char :=
    if negative then ['-']
    else
      match l.sign with
      | some '+' => ['+']
      | some ' ' => [' ']
      | _ => []
  let front := sign ++ mark
  let size := if (l.form.map fun c => ['b', 'o', 'x', 'X'].contains c) == some true then 4 else 3
  let digits :=
    match l.separator with
    | none => digits
    | some separator =>
      if digits.isEmpty then []
      else if l.filler = '0' && l.side = .inside then
        groupedTo separator size (l.width - (front.length + tail.length)) digits
      else grouped separator size digits
  l.place front (digits ++ tail)

/-- The field can be laid out. -/
def checkField (l : Layout) : Except Fault Unit :=
  if maxField < l.width then .error .outOfMemory else .ok ()

/-- A text in the field. -/
def text (l : Layout) (s : List Char) : Except Fault (List Char) := do
  match l.form with
  | some 's' => pure ()
  | form => throw (.unknownForm (form.getD 's') "str")
  if l.sign.isSome then throw (.textSign (l.sign == some ' '))
  if l.positiveZero then throw .textZero
  if l.full then throw .textFull
  if l.side = .inside then throw .textInside
  l.checkField
  return l.place [] (l.precision.elim s s.take)

/-- The base of a form, and the mark in front of its digits. -/
def base (form : Char) : Nat × List Char :=
  match form with
  | 'b' => (2, ['0', 'b'])
  | 'o' => (8, ['0', 'o'])
  | 'x' => (16, ['0', 'x'])
  | 'X' => (16, ['0', 'X'])
  | _ => (10, [])

/-- An integer in the field. -/
def integer (l : Layout) (form : Char) (i : Int) : Except Fault (List Char) := do
  if l.precision.isSome then throw .integerPrecision
  if l.positiveZero then throw .integerZero
  if form = 'c' then
    if l.sign.isSome then throw .characterSign
    if l.full then throw .characterFull
    if i < -(maxWidth + 1 : Nat) || maxWidth < i then throw .characterTooLarge
    if i < 0 || 0x110000 ≤ i then throw .characterOutOfRange
    l.checkField
    return l.place [] [Char.ofNat i.toNat]
  else
    let (base, mark) := base form
    if base = 10 && Number.tooLong i then throw (.unwritable .tooLongToWrite)
    l.checkField
    let ds := Nat.toDigits base i.natAbs
    let ds := if form = 'X' then ds.map Char.toUpper else ds
    return l.number (i < 0) (if l.full then mark else []) ds []

/-- The hundredfold of a floating-point number. -/
def hundredfold : Number.Binary64 → Number.Binary64
  | .finite negative m q =>
    let (n, d) := Number.Binary64.fraction m q
    .ofFraction negative (100 * n) d
  | x => x

/-- A plain form with a point in front of its exponent, if it has none elsewhere. -/
def withPlainPoint (cs : List Char) : List Char :=
  let head := cs.takeWhile (· != 'e')
  if cs.contains '.' || head.length = cs.length then cs else head ++ '.' :: cs.drop head.length

/-- Forms that write an integer as a floating-point number. -/
def realForms : List Char := ['e', 'E', 'f', 'F', 'g', 'G', '%']

/-- What a form writes for a floating-point number, in lower case. -/
def realBody (l : Layout) (x : Number.Binary64) : List Char :=
  match l.form with
  | none =>
    match l.precision with
    | none => if l.full then withPlainPoint x.plain.toList else x.plain.toList
    | some p => x.styled .pointed p l.full
  | some c =>
    let p := l.precision.getD 6
    match c with
    | 'e' | 'E' => x.styled .exponent p l.full
    | 'f' | 'F' => x.styled .fixed p l.full
    | '%' => (hundredfold x).styled .fixed p l.full ++ ['%']
    | _ => x.styled .general p l.full

/-- A floating-point number in the field. -/
def real (l : Layout) (kind : String) (x : Number.Binary64) : Except Fault (List Char) := do
  match l.form with
  | some c => if !(realForms.contains c || c = 'n') then throw (.unknownForm c kind)
  | none => pure ()
  if l.precision.any (maxPrecision < ·) then throw .precisionTooBig
  l.checkField
  if l.precision.any (maxField < ·) then throw .outOfMemory
  let body := l.realBody x
  let body := if l.form.any Char.isUpper then body.map Char.toUpper else body
  let negative := body.head? == some '-'
  let body := if negative then body.drop 1 else body
  let digits := body.takeWhile Text.isAsciiDigit
  let isZero := body.any Char.isDigit && body.all fun c => !c.isDigit || c == '0'
  let negative := negative && !(l.positiveZero && isZero)
  return l.number negative [] digits (body.drop digits.length)

/-- Forms that write an integer as one. -/
def integerForms : List Char := ['b', 'c', 'd', 'o', 'x', 'X', 'n']

def wholeNumber (cs : List Char) (kind : String) (i : Int) : Except Fault (List Char) := do
  let l ← read true (some 'd') kind cs
  let form := l.form.getD 'd'
  if integerForms.contains form then l.integer form i
  else if realForms.contains form then
    match Number.Binary64.ofInt? i with
    | some x => l.real kind x
    | none => throw .realTooLarge
  else throw (.unknownForm form kind)

/-- A value in the field that a text describes. -/
def lay (cs : List Char) (v : Value) : Except Fault (List Char) :=
  if cs.isEmpty then (v.plain?.mapError .unwritable).map String.toList
  else
    match v with
    | .text s => do (← read false (some 's') "str" cs).text s.toList
    | .int i => wholeNumber cs "int" i
    | .bool b => wholeNumber cs "bool" (if b then 1 else 0)
    | .real x => do (← read true none "float" cs).real "float" x
    | .date d => .ok (Calendar.write (Calendar.startOf d) cs)
    | .moment m => .ok (Calendar.write m cs)
    | v => .error (.unsupported v.kindName)

end Layout
end MessageBus.Template
