import MessageBus.Number.Real
/-!
Values: what a configuration document holds and what a message template is filled with.
-/
namespace MessageBus

/-- A day of the calendar. -/
structure Date where
  year : Nat
  month : Nat
  day : Nat
  deriving DecidableEq

/-- A point of time on a day. `offset` is the distance to universal time in seconds, if it is known. -/
structure Moment where
  date : Date
  hour : Nat
  minute : Nat
  second : Nat
  microsecond : Nat
  offset : Option Int
  deriving DecidableEq

inductive Value
  | null
  | bool (b : Bool)
  | int (i : Int)
  | real (x : Number.Binary64)
  | text (s : String)
  | bytes (bs : List UInt8)
  | list (items : List Value)
  | tuple (items : List Value)
  | set (items : List Value)
  | map (entries : List (Value × Value))
  | date (d : Date)
  | moment (m : Moment)
  deriving Inhabited

/-- Days before a year, and days of a year before a month, in the calendar without beginning. -/
def Date.ordinal (d : Date) : Nat :=
  let y := d.year - 1
  let leap := d.year % 4 == 0 && (d.year % 100 != 0 || d.year % 400 == 0)
  let before := [0, 31, 59, 90, 120, 151, 181, 212, 243, 273, 304, 334].getD (d.month - 1) 0
  y * 365 + y / 4 - y / 100 + y / 400 + before + (if leap && 2 < d.month then 1 else 0) + d.day

/-- Microseconds on one scale for all moments with a known offset. -/
def Moment.instant (m : Moment) (offset : Int) : Int :=
  ((((m.date.ordinal * 24 + m.hour) * 60 + m.minute) * 60 + m.second : Nat) - offset) * 1000000 +
    m.microsecond

def Moment.equals (a b : Moment) : Bool :=
  match a.offset, b.offset with
  | some o, some o' => a.instant o == b.instant o'
  | none, none => a == b
  | _, _ => false

namespace Value

/-- The number that a value counts as. -/
def number? : Value → Option (Int ⊕ Number.Binary64)
  | .bool b => some (.inl (if b then 1 else 0))
  | .int i => some (.inl i)
  | .real x => some (.inr x)
  | _ => none

/-- Equality as the key of a map: numbers by value whatever their kind, the number that is no
number equal to itself. -/
def sameKey : Value → Value → Bool
  | .null, .null => true
  | .text s, .text s' => s == s'
  | .bytes b, .bytes b' => b == b'
  | .date d, .date d' => d == d'
  | .moment m, .moment m' => m.equals m'
  | .tuple xs, .tuple ys => go xs ys
  | a, b =>
    match a.number?, b.number? with
    | some (.inl i), some (.inl j) => i == j
    | some (.inl i), some (.inr x) | some (.inr x), some (.inl i) => x.equalsInt i
    | some (.inr x), some (.inr y) => x.equals y || (x == .nan && y == .nan)
    | _, _ => false
where
  go : List Value → List Value → Bool
    | [], [] => true
    | x :: xs, y :: ys => sameKey x y && go xs ys
    | _, _ => false

/-- The value can be the key of a map. -/
def isKey : Value → Bool
  | .list _ | .set _ | .map _ => false
  | .tuple xs => go xs
  | _ => true
where
  go : List Value → Bool
    | [] => true
    | x :: xs => isKey x && go xs

/-- What a map holds under a key. -/
def lookup? (entries : List (Value × Value)) (key : Value) : Option Value :=
  (entries.find? fun e => e.1.sameKey key).map (·.2)

/-- A map with a value put under a key: a key already there keeps its place. -/
def insert : List (Value × Value) → Value → Value → List (Value × Value)
  | [], key, v => [(key, v)]
  | (k, w) :: rest, key, v => if k.sameKey key then (k, v) :: rest else (k, w) :: insert rest key v

/-- A map of entries given in order, later ones replacing earlier ones. -/
def ofEntries (entries : List (Value × Value)) : List (Value × Value) :=
  entries.foldl (fun es e => insert es e.1 e.2) []

/-- Members of a set with a new one at its place: in front of the first larger integer if it is an
integer, and last otherwise. -/
def placeMember : List Value → Value → List Value
  | .int j :: rest, .int i =>
    if i < j then .int i :: .int j :: rest else .int j :: placeMember rest (.int i)
  | x :: rest, v => x :: placeMember rest v
  | [], v => [v]

/-- A set with a member added. A member that is there already stays as it is. -/
def addMember (members : List Value) (v : Value) : List Value :=
  if members.any (·.sameKey v) then members else placeMember members v

/-- Neither empty nor zero nor false nor absent. -/
def isTruthy : Value → Bool
  | .null => false
  | .bool b => b
  | .int i => i != 0
  | .real x => !x.equalsInt 0
  | .text s => s != ""
  | .bytes bs => !bs.isEmpty
  | .list xs | .tuple xs | .set xs => !xs.isEmpty
  | .map es => !es.isEmpty
  | .date _ | .moment _ => true

/-- The name of a value's kind. -/
def kindName : Value → String
  | .null => "NoneType"
  | .bool _ => "bool"
  | .int _ => "int"
  | .real _ => "float"
  | .text _ => "str"
  | .bytes _ => "bytes"
  | .list _ => "list"
  | .tuple _ => "tuple"
  | .set _ => "set"
  | .map _ => "dict"
  | .date _ => "date"
  | .moment _ => "datetime"

end Value
end MessageBus
