import MessageBus.Number.Real
import MessageBus.Text.Lower
import MessageBus.Yaml.Node
/-!
The value of a YAML document. Values are made outside in: the members of a collection come after all
nodes that are less deep, so of several faults the least deep one is reported, and of equally deep
ones the first.
-/
namespace MessageBus.Yaml

/-- Makes something, or gives a fault with the depth at which it lies. -/
abbrev Making (α : Type) := Except (Nat × Fault) α

namespace Making

/-- Both results, or of two faults the less deep one, the first if they are equally deep. -/
def both (a : Making α) (b : Making β) : Making (α × β) :=
  match a, b with
  | .ok a, .ok b => .ok (a, b)
  | .ok _, .error f => .error f
  | .error f, .ok _ => .error f
  | .error f, .error g => .error (if g.1 < f.1 then g else f)

def all : List (Making α) → Making (List α)
  | [] => .ok []
  | x :: xs => (both x (all xs)).map fun (x, xs) => x :: xs

end Making

/-! ### Scalars -/

/-- The bytes that the letters of base 64 write. Other characters are passed over; the last group has
to be whole. -/
def base64 : (group : List Nat) → (padding : Nat) → List Char → Option (List UInt8)
  | group, _, [] => if group.isEmpty then some [] else none
  | group, padding, c :: rest =>
    if c == '=' then
      if 2 ≤ group.length && 4 ≤ group.length + padding + 1 then some []
      else base64 group (if 2 ≤ group.length then padding + 1 else padding) rest
    else
      match value? c with
      | none => base64 group padding rest
      | some n =>
        match group with
        | [] => base64 [n] 0 rest
        | [a] => (base64 [a, n] 0 rest).map (UInt8.ofNat (a * 4 + n / 16) :: ·)
        | [a, b] => (base64 [a, b, n] 0 rest).map (UInt8.ofNat (b % 16 * 16 + n / 4) :: ·)
        | _ :: _ :: b :: _ => (base64 [] 0 rest).map (UInt8.ofNat (b % 4 * 64 + n) :: ·)
where
  value? (c : Char) : Option Nat :=
    if 'A' ≤ c && c ≤ 'Z' then some (c.toNat - 65)
    else if 'a' ≤ c && c ≤ 'z' then some (c.toNat - 71)
    else if '0' ≤ c && c ≤ '9' then some (c.toNat + 4)
    else if c == '+' then some 62
    else if c == '/' then some 63
    else none

def binary (s : String) : Except Fault Value :=
  if s.toList.all (·.toNat < 0x80) then
    match base64 [] 0 s.toList with
    | some bs => .ok (.bytes bs)
    | none => .error .malformed
  else .error .malformed

def boolean (s : String) : Except Fault Value :=
  let word := String.ofList (Text.lower s.toList)
  if ["yes", "true", "on"].contains word then .ok (.bool true)
  else if ["no", "false", "off"].contains word then .ok (.bool false)
  else .error (.notBoolean word)

/-- The sign in front of a number and the rest. Numbers are not empty. -/
def signed (cs : List Char) : Except Fault (Bool × List Char) :=
  match cs with
  | [] => .error .emptyNumber
  | '-' :: rest => .ok (true, rest)
  | '+' :: rest => .ok (false, rest)
  | cs => .ok (false, cs)

def dropGaps (cs : List Char) : List Char := cs.filter (· ≠ '_')

def readInteger (base : Nat) (cs : List Char) : Except Fault Int :=
  (Number.readInteger base (String.ofList cs)).mapError .number

def readReal (cs : List Char) : Except Fault Number.Binary64 :=
  (Number.readReal (String.ofList cs)).mapError .number

/-- An integer in base 2, 8, 10, 16 or 60. -/
def integer (s : String) : Except Fault Int := do
  let (negative, cs) ← signed (dropGaps s.toList)
  let n ←
    match cs with
    | [] => .error .emptyNumber
    | ['0'] => .ok 0
    | '0' :: 'b' :: rest => readInteger 2 rest
    | '0' :: 'x' :: rest => readInteger 16 rest
    | '0' :: rest => readInteger 8 ('0' :: rest)
    | cs =>
      if cs.contains ':' then do
        let parts ← (Text.split ':' cs).mapM (readInteger 10)
        pure (parts.foldl (fun n part => n * 60 + part) 0)
      else readInteger 10 cs
  return if negative then -n else n

/-- The sum of parts in base 60, the last one first, on top of a total. -/
def sexagesimal (total : Number.Binary64) (scale : Int) :
    List Number.Binary64 → Except Fault Number.Binary64
  | [] => .ok total
  | part :: rest =>
    match Number.Binary64.ofInt? scale with
    | some unit => sexagesimal (total.add (part.mul unit)) (scale * 60) rest
    | none => .error .scaleTooLarge

/-- A floating-point number in base 10 or 60. -/
def real (s : String) : Except Fault Number.Binary64 := do
  let (negative, cs) ← signed (Text.lower (dropGaps s.toList))
  let x ←
    if cs = ".inf".toList then pure (.infinity false)
    else if cs = ".nan".toList then pure .nan
    else if cs.contains ':' then do
      let parts ← (Text.split ':' cs).mapM readReal
      sexagesimal (.zero false) 1 parts.reverse
    else readReal cs
  return if negative then x.neg else x

def daysIn (year month : Nat) : Nat :=
  match month with
  | 2 => if year % 4 == 0 && (year % 100 != 0 || year % 400 == 0) then 29 else 28
  | 4 | 6 | 9 | 11 => 30
  | _ => 31

/-- A day of the calendar, if there is one with these numbers. -/
def checkDate (d : Date) : Except CalendarFault Date :=
  if d.year = 0 then .error (.year d.year)
  else if d.month = 0 || 12 < d.month then .error .month
  else if d.day = 0 || daysIn d.year d.month < d.day then .error .day
  else .ok d

def ofAscii (cs : List Char) : Nat :=
  Number.ofDigits 10 (cs.map Text.asciiDigitValue)

/-- The distance of a zone from universal time, which is less than a day. -/
def zoneOffset (zone : Option (Option (Bool × List Char × List Char))) :
    Except CalendarFault (Option Int) :=
  match zone with
  | none => .ok none
  | some none => .ok (some 0)
  | some (some (negative, hours, minutes)) =>
    let span : Int := ofAscii hours * 3600 + ofAscii minutes * 60
    let offset := if negative then -span else span
    if span < 86400 then .ok (some offset) else .error (.offset offset)

def point (t : TimeText) : Except CalendarFault Value :=
  let date : Date := ⟨ofAscii t.year, ofAscii t.month, ofAscii t.day⟩
  match t.clock with
  | none => (checkDate date).map .date
  | some (hour, minute, second, fraction) => do
    let micro := ofAscii ((fraction ++ List.replicate 6 '0').take 6)
    let offset ← zoneOffset t.zone
    let date ← checkDate date
    let m : Moment := ⟨date, ofAscii hour, ofAscii minute, ofAscii second, micro, offset⟩
    if 24 ≤ m.hour then .error .hour
    else if 60 ≤ m.minute then .error .minute
    else if 60 ≤ m.second then .error .second
    else return .moment m

def timestamp (s : String) : Except Fault Value :=
  match timeText? (Text.dropLineFeed s.toList) with
  | none => .error .notTimestamp
  | some t => (point t).mapError .calendar

/-- The value of a scalar of some type. -/
def scalarValue (tag : Tag) (s : String) : Except Fault Value :=
  match tag with
  | .text => .ok (.text s)
  | .null => .ok .null
  | .boolean => boolean s
  | .integer => (integer s).map .int
  | .real => (real s).map .real
  | .binary => binary s
  | .timestamp => timestamp s
  | _ => .error .malformed

/-! ### Collections -/

mutual
/-- How many collections are nested in a node. -/
def Node.height : Node → Nat
  | .scalar .. => 0
  | .sequence _ items => heightOfItems items + 1
  | .mapping _ entries => heightOfEntries entries + 1

def Node.heightOfItems : List Node → Nat
  | [] => 0
  | n :: ns => max n.height (heightOfItems ns)

def Node.heightOfEntries : List (Node × Node) → Nat
  | [] => 0
  | (k, v) :: es => max (max k.height v.height) (heightOfEntries es)
end

/-- The entries of a mapping, the merged ones in front of its own. -/
def Node.joined (entries : List (Node × Node) × List (Node × Node)) : List (Node × Node) :=
  entries.1 ++ entries.2

mutual
/-- What merging a node in gives. -/
def Node.merged : Node → Except Fault (List (Node × Node))
  | .mapping _ entries => (splitEntries entries).map joined
  | .sequence _ items => mergedItems items
  | .scalar .. => .error .malformed

/-- The entries that are merged in, and those that are the mapping's own. -/
def Node.splitEntries : List (Node × Node) →
    Except Fault (List (Node × Node) × List (Node × Node))
  | [] => .ok ([], [])
  | (k, v) :: rest =>
    if k.tag = .merge then do
      let first ← v.merged
      let (later, own) ← splitEntries rest
      return (first ++ later, own)
    else do
      let (merged, own) ← splitEntries rest
      return (merged, (k, v) :: own)

/-- The entries of several mappings, those of the last one first. -/
def Node.mergedItems : List Node → Except Fault (List (Node × Node))
  | [] => .ok []
  | .mapping _ entries :: ns => do
    let first ← splitEntries entries
    let later ← mergedItems ns
    return later ++ joined first
  | _ :: _ => .error .malformed
end

/-- The entries of a mapping with the merged ones in front. -/
def Node.mergedEntries (entries : List (Node × Node)) : Except Fault (List (Node × Node)) :=
  (Node.splitEntries entries).map Node.joined

/-- The text that a mapping stands for as a scalar: that of its value mark. -/
def markedText : (fuel : Nat) → List (Node × Node) → Option String
  | 0, _ => none
  | fuel + 1, entries =>
    match entries.find? fun e => e.1.tag = .value with
    | some (_, .scalar _ s) => some s
    | some (_, .mapping _ entries) => markedText fuel entries
    | _ => none

/-- The value of a node at some depth, for nodes no higher than the fuel. -/
def Node.value : (fuel : Nat) → (depth : Nat) → Node → Making Value
  | _, depth, .scalar tag s =>
    match tag with
    | .sequence | .mapping | .set | .orderedMap | .pairs => .error (depth + 1, .malformed)
    | tag => (scalarValue tag s).mapError fun f => (depth, f)
  | 0, depth, _ => .error (depth, .malformed)
  | fuel + 1, depth, .sequence tag items =>
    match tag with
    | .sequence =>
      (Making.all (items.map fun n => n.value fuel (depth + 1))).map .list
    | .orderedMap | .pairs =>
      let entries := Making.all (items.map fun n =>
        match n with
        | .mapping _ [(k, v)] => Making.both (k.value fuel (depth + 1)) (v.value fuel (depth + 1))
        | _ => .error (depth + 1, .malformed))
      entries.map fun es => .list (es.map fun e => .tuple [e.1, e.2])
    | .mapping | .set => .error (depth + 1, .malformed)
    | _ => .error (depth, .malformed)
  | fuel + 1, depth, .mapping tag entries =>
    let keyed : Making (List (Value × Value)) :=
      match Node.mergedEntries entries with
      | .error f => .error (depth + 1, f)
      | .ok entries =>
        Making.all (entries.map fun (k, v) =>
          let key : Making Value :=
            match k with
            | .scalar .value s => .ok (.text s)
            | k =>
              match k.tag with
              | .sequence | .mapping | .set | .orderedMap | .pairs => .error (depth + 1, .malformed)
              | _ => k.value fuel (depth + 1)
          Making.both key (v.value fuel (depth + 1)))
    match tag with
    | .mapping => keyed.map fun es => .map (Value.ofEntries es)
    | .set => keyed.map fun es => .set (es.foldl (fun xs e => Value.addMember xs e.1) [])
    | .sequence | .orderedMap | .pairs => .error (depth + 1, .malformed)
    | tag =>
      match markedText (fuel + 1) entries with
      | some s =>
        if tag = .timestamp then .error (depth, .mappedTimestamp)
        else (scalarValue tag s).mapError fun f => (depth, f)
      | none => .error (depth, .malformed)

/-- A character that may stand in a YAML text. -/
def isAllowed (c : Char) : Bool :=
  let n := c.toNat
  n == 9 || n == 10 || n == 13 || (0x20 ≤ n && n ≤ 0x7E) || n == 0x85 ||
    (0xA0 ≤ n && n ≤ 0xD7FF) || (0xE000 ≤ n && n ≤ 0xFFFD) || 0x10000 ≤ n

/-- The value of the only document of a text, nothing if it has none. -/
def load (cs : List Char) : Except Fault (Option Value) :=
  if !cs.all isAllowed then .error .malformed
  else do
    match ← Parse.document (tokens cs) with
    | none => return none
    | some n => (n.value (n.height + 1) 0).mapError (·.2) |>.map some

end MessageBus.Yaml
