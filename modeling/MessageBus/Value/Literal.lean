import MessageBus.Value
/-!
Values as text: the literal form, in which text is quoted, and the plain form, in which a text stands
for itself. Neither is written for a value that holds an integer with too many digits.
-/
namespace MessageBus

/-- Decimal digits, zeros in front up to a width. -/
def padded (width n : Nat) : String :=
  let ds := Nat.toDigits 10 n
  String.ofList (List.replicate (width - ds.length) '0' ++ ds)

def Date.iso (d : Date) : String :=
  padded 4 d.year ++ "-" ++ padded 2 d.month ++ "-" ++ padded 2 d.day

/-- An offset from universal time as hours and minutes, with seconds if there are any. -/
def offsetText (offset : Int) : String :=
  let n := offset.natAbs
  let seconds := if n % 60 == 0 then "" else ":" ++ padded 2 (n % 60)
  (if offset < 0 then "-" else "+") ++ padded 2 (n / 3600) ++ ":" ++ padded 2 (n / 60 % 60) ++ seconds

/-- Day and time with a separator between them. -/
def Moment.iso (separator : String) (m : Moment) : String :=
  let fraction := if m.microsecond == 0 then "" else "." ++ padded 6 m.microsecond
  m.date.iso ++ separator ++ padded 2 m.hour ++ ":" ++ padded 2 m.minute ++ ":" ++
    padded 2 m.second ++ fraction ++ (m.offset.elim "" offsetText)

/-- A span of seconds as a literal: whole days, and the seconds beyond them, which are never
negative. -/
def spanLiteral (seconds : Int) : String :=
  let days := Int.fdiv seconds 86400
  let rest := Int.fmod seconds 86400
  let parts := (if days == 0 then [] else ["days=" ++ Number.decimal days]) ++
    (if rest == 0 then [] else ["seconds=" ++ Number.decimal rest])
  "datetime.timedelta(" ++ (if parts.isEmpty then "0" else String.intercalate ", " parts) ++ ")"

/-- The literal of the zone with an offset. -/
def zoneLiteral (offset : Int) : String :=
  if offset == 0 then "datetime.timezone.utc" else "datetime.timezone(" ++ spanLiteral offset ++ ")"

/-- The name of the zone with an offset. -/
def zoneText (offset : Int) : String :=
  if offset == 0 then "UTC" else "UTC" ++ offsetText offset

def Date.literal (d : Date) : String :=
  "datetime.date(" ++ toString d.year ++ ", " ++ toString d.month ++ ", " ++ toString d.day ++ ")"

def Moment.literal (m : Moment) : String :=
  let fields := [m.date.year, m.date.month, m.date.day, m.hour, m.minute] ++
    (if m.microsecond != 0 then [m.second, m.microsecond]
      else if m.second != 0 then [m.second] else [])
  let zone := m.offset.elim "" fun o => ", tzinfo=" ++ zoneLiteral o
  "datetime.datetime(" ++ String.intercalate ", " (fields.map toString) ++ zone ++ ")"

namespace Value

mutual
/-- The value holds an integer with too many digits to be written. -/
def tooLong : Value → Bool
  | .int i => Number.tooLong i
  | .list xs | .tuple xs | .set xs => anyTooLong xs
  | .map es => anyEntryTooLong es
  | _ => false

def anyTooLong : List Value → Bool
  | [] => false
  | x :: xs => tooLong x || anyTooLong xs

def anyEntryTooLong : List (Value × Value) → Bool
  | [] => false
  | (k, v) :: es => tooLong k || tooLong v || anyEntryTooLong es
end

mutual
/-- The literal form of a value whose integers are all short enough. -/
def literal : Value → String
  | .null => "None"
  | .bool b => if b then "True" else "False"
  | .int i => Number.decimal i
  | .real x => x.plain
  | .text s => Text.quoted s
  | .bytes bs => Text.quotedBytes bs
  | .list xs => "[" ++ String.intercalate ", " (literals xs) ++ "]"
  | .tuple [x] => "(" ++ literal x ++ ",)"
  | .tuple xs => "(" ++ String.intercalate ", " (literals xs) ++ ")"
  | .set [] => "set()"
  | .set xs => "\x7b" ++ String.intercalate ", " (literals xs) ++ "\x7d"
  | .map es => "\x7b" ++ String.intercalate ", " (entryLiterals es) ++ "\x7d"
  | .date d => d.literal
  | .moment m => m.literal

def literals : List Value → List String
  | [] => []
  | x :: xs => literal x :: literals xs

def entryLiterals : List (Value × Value) → List String
  | [] => []
  | (k, v) :: es => (literal k ++ ": " ++ literal v) :: entryLiterals es
end

/-- The plain form of a value whose integers are all short enough. -/
def plain : Value → String
  | .text s => s
  | .date d => d.iso
  | .moment m => m.iso " "
  | v => v.literal

/-- The literal form of a value. -/
def literal? (v : Value) : Except Number.Fault String :=
  if v.tooLong then .error .tooLongToWrite else .ok v.literal

/-- The plain form of a value. -/
def plain? (v : Value) : Except Number.Fault String :=
  if v.tooLong then .error .tooLongToWrite else .ok v.plain

theorem plain?_text (s : String) : plain? (.text s) = .ok s := rfl

end Value
end MessageBus
