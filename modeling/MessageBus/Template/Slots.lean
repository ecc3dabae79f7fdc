import MessageBus.Template.Layout
import MessageBus.Text.Cut
/-!
Templates with slots in braces. A slot takes an argument by its number, or the next one if it has none,
may go into the argument's items and attributes, and may say how the value is converted and laid out. A brace that is
written twice stands for itself.
-/
namespace MessageBus.Template.Slots

/-- Why a template cannot be filled. -/
inductive Fault
  | loneOpen
  | loneClose
  | braceInName
  | unclosed
  | conversionMissing
  | conversionTail
  | unmatched
  | tooDeep
  | unknownConversion (conversion : Char)
  | toAutomatic
  | toManual
  | noArgument (index : Nat)
  | noSuchName (name : String)
  | bracketTail
  | bracketUnclosed
  | emptyPart
  | noAttribute (owner name : String)
  | notSubscriptable (owner : String)
  | textIndex (kind : String)
  | outOfRange (kind : String)
  | noEntry (key : Value)
  | layout (fault : Layout.Fault)

def Fault.message : Fault → String
  | .loneOpen => "Single '\x7b' encountered in format string"
  | .loneClose => "Single '\x7d' encountered in format string"
  | .braceInName => "unexpected '\x7b' in field name"
  | .unclosed => "expected '\x7d' before end of string"
  | .conversionMissing => "end of string while looking for conversion specifier"
  | .conversionTail => "expected ':' after conversion specifier"
  | .unmatched => "unmatched '\x7b' in format spec"
  | .tooDeep => "Max string recursion exceeded"
  | .unknownConversion c =>
    "Unknown conversion specifier " ++ Layout.shown 127 c
  | .toAutomatic =>
    "cannot switch from manual field specification to automatic field numbering"
  | .toManual =>
    "cannot switch from automatic field numbering to manual field specification"
  | .noArgument index =>
    "Replacement index " ++ toString index ++ " out of range for positional args tuple"
  | .noSuchName name => Text.quoted name
  | .bracketTail => "Only '.' or '[' may follow ']' in format field specifier"
  | .bracketUnclosed => "Missing ']' in format string"
  | .emptyPart => "Empty attribute in format string"
  | .noAttribute owner name => owner ++ " has no attribute '" ++ name ++ "'"
  | .notSubscriptable owner => owner ++ " is not subscriptable"
  | .textIndex kind =>
    if kind = "str" then "string indices must be integers, not 'str'"
    else if kind = "bytes" then "byte indices must be integers or slices, not str"
    else kind ++ " indices must be integers or slices, not str"
  | .outOfRange kind =>
    if kind = "str" then "string index out of range"
    else if kind = "bytes" then "index out of range"
    else kind ++ " index out of range"
  | .noEntry key => key.literal
  | .layout fault => fault.message

/-- A slot as it is written. -/
structure Slot where
  name : List Char
  conversion : Option Char
  layout : List Char

/-- The name at the front of a slot, with the character that ends it. -/
def takeName (inBracket : Bool) : List Char → Except Fault (List Char × Char × List Char)
  | [] => .error .unclosed
  | c :: rest =>
    if inBracket then more c (takeName (c ≠ ']') rest)
    else
      match c with
      | '\x7b' => .error .braceInName
      | '\x7d' | ':' | '!' => .ok ([], c, rest)
      | c => more c (takeName (c = '[') rest)
where
  more (c : Char) (r : Except Fault (List Char × Char × List Char)) :
      Except Fault (List Char × Char × List Char) :=
    r.map fun (name, stop, rest) => (c :: name, stop, rest)

/-- The layout at the front of a text, up to the brace that closes the slot; `depth` more are open. -/
def takeLayout (depth : Nat) : List Char → Except Fault (List Char × List Char)
  | [] => .error .unmatched
  | '\x7b' :: rest => (takeLayout (depth + 1) rest).map fun (l, rest) => ('\x7b' :: l, rest)
  | '\x7d' :: rest =>
    match depth with
    | 0 => .ok ([], rest)
    | depth + 1 => (takeLayout depth rest).map fun (l, rest) => ('\x7d' :: l, rest)
  | c :: rest => (takeLayout depth rest).map fun (l, rest) => (c :: l, rest)

/-- The slot whose opening brace was read. -/
def takeSlot (cs : List Char) : Except Fault (Slot × List Char) := do
  let (name, stop, rest) ← takeName false cs
  match stop with
  | '\x7d' => return (⟨name, none, []⟩, rest)
  | ':' => do
    let (layout, rest) ← takeLayout 0 rest
    return (⟨name, none, layout⟩, rest)
  | _ =>
    match rest with
    | [] => .error .conversionMissing
    | c :: '\x7d' :: rest => return (⟨name, some c, []⟩, rest)
    | c :: ':' :: rest => do
      let (layout, rest) ← takeLayout 0 rest
      return (⟨name, some c, layout⟩, rest)
    | [_] => .error .unmatched
    | _ => .error .conversionTail

/-- How slots are numbered so far. -/
inductive Numbering
  | open
  | automatic (next : Nat)
  | manual

/-- The argument that the first part of a slot's name takes. -/
def takeArgument (arguments : List Value) (first : List Char) (n : Numbering) :
    Except Fault (Value × Numbering) := do
  let at? (i : Nat) : Except Fault Value :=
    match arguments[i]? with
    | some v => .ok v
    | none => .error (.noArgument i)
  if first.isEmpty then
    match n with
    | .open => return (← at? 0, .automatic 1)
    | .automatic i => return (← at? i, .automatic (i + 1))
    | .manual => .error .toAutomatic
  else
    match ← (Layout.takeNumber first).mapError Fault.layout with
    | (some i, []) =>
      match n with
      | .automatic _ => .error .toManual
      | _ => return (← at? i, .manual)
    | _ => .error (.noSuchName (String.ofList first))

/-- What a slot's name leads to: a value, the kind of one under its full name, or the zone of a
moment. -/
inductive Subject
  | value (v : Value)
  | kind (name : String)
  | zone (offset : Int)

/-- The full name of the kind of a subject. -/
def Subject.kindName : Subject → String
  | .value v => Template.kindName v
  | .kind _ => "type"
  | .zone _ => "datetime.timezone"

/-- How messages call a subject. -/
def Subject.owner (word : String) : Subject → String
  | .kind name => word ++ " '" ++ name ++ "'"
  | s => "'" ++ s.kindName ++ "' object"

/-- An item of a value by its number. -/
def itemAt (v : Value) (i : Nat) : Except Fault Value :=
  let find (kind : String) (found : Option Value) : Except Fault Value :=
    match found with
    | some v => .ok v
    | none => .error (.outOfRange kind)
  match v with
  | .list xs => find "list" xs[i]?
  | .tuple xs => find "tuple" xs[i]?
  | .text s => find "str" (s.toList[i]?.map fun c => .text c.toString)
  | .bytes bs => find "bytes" (bs[i]?.map fun b => .int b.toNat)
  | .map entries =>
    match Value.lookup? entries (.int i) with
    | some v => .ok v
    | none => .error (.noEntry (.int i))
  | v => .error (.notSubscriptable ((Subject.value v).owner ""))

/-- An item of a value by its name. -/
def itemNamed (v : Value) (name : String) : Except Fault Value :=
  match v with
  | .list _ | .tuple _ | .text _ | .bytes _ => .error (.textIndex v.kindName)
  | .map entries =>
    match Value.lookup? entries (.text name) with
    | some v => .ok v
    | none => .error (.noEntry (.text name))
  | v => .error (.notSubscriptable ((Subject.value v).owner ""))

/-- An item of a subject by its number, or by its name if it has none. -/
def Subject.item (number : Option Nat) (name : String) : Subject → Except Fault Subject
  | .value v =>
    match number with
    | some i => (itemAt v i).map .value
    | none => (itemNamed v name).map .value
  | s => .error (.notSubscriptable (s.owner "type"))

/-- The attributes that integers and floating-point numbers have. -/
def numberAttribute? (name : String) : Value → Option Value
  | .int i =>
    match name with
    | "real" | "numerator" => some (.int i)
    | "imag" => some (.int 0)
    | "denominator" => some (.int 1)
    | _ => none
  | .real x =>
    match name with
    | "real" => some (.real x)
    | "imag" => some (.real (.zero false))
    | _ => none
  | _ => none

def dateAttribute? (name : String) (d : Date) : Option Nat :=
  match name with
  | "year" => some d.year
  | "month" => some d.month
  | "day" => some d.day
  | _ => none

def clockAttribute? (name : String) (m : Moment) : Option Nat :=
  match name with
  | "hour" => some m.hour
  | "minute" => some m.minute
  | "second" => some m.second
  | "microsecond" => some m.microsecond
  | "fold" => some 0
  | name => dateAttribute? name m.date

def firstDate : Date := ⟨1, 1, 1⟩
def lastDate : Date := ⟨9999, 12, 31⟩

/-- What a value has under a name. -/
def valueAttribute? (name : String) (v : Value) : Option Subject :=
  match v, name with
  | v, "__class__" => some (.kind (Template.kindName v))
  | .bool b, name => (numberAttribute? name (.int (if b then 1 else 0))).map .value
  | .date _, "min" => some (.value (.date firstDate))
  | .date _, "max" => some (.value (.date lastDate))
  | .date d, name => (dateAttribute? name d).map fun n => .value (.int n)
  | .moment _, "min" => some (.value (.moment (Calendar.startOf firstDate)))
  | .moment _, "max" => some (.value (.moment ⟨lastDate, 23, 59, 59, 999999, none⟩))
  | .moment m, "tzinfo" => some (m.offset.elim (.value .null) .zone)
  | .moment m, name => (clockAttribute? name m).map fun n => .value (.int n)
  | v, name => (numberAttribute? name v).map .value

/-- What a kind has under a name. -/
def kindAttribute? (name : String) (kind : String) : Option Subject :=
  let (home, short) := (Text.cut '.' kind.toList).getD ("builtins".toList, kind.toList)
  match name with
  | "__class__" => some (.kind "type")
  | "__name__" | "__qualname__" => some (.value (.text (String.ofList short)))
  | "__module__" => some (.value (.text (String.ofList home)))
  | _ => none

/-- What a subject has under a name. -/
def Subject.attribute (name : String) (s : Subject) : Except Fault Subject :=
  let found :=
    match s with
    | .value v => valueAttribute? name v
    | .kind owner => kindAttribute? name owner
    | .zone _ => if name = "__class__" then some (.kind s.kindName) else none
  match found with
  | some s => .ok s
  | none => .error (.noAttribute (s.owner "type object") name)

/-- Goes into a subject by the parts behind the first one of a slot's name, in at most so many
steps. -/
def goInto : (steps : Nat) → Subject → List Char → Except Fault Subject
  | 0, s, _ | _, s, [] => .ok s
  | steps + 1, s, '.' :: rest => do
    let name := rest.takeWhile fun c => c != '.' && c != '['
    if name.isEmpty then .error .emptyPart
    else goInto steps (← s.attribute (String.ofList name)) (rest.drop name.length)
  | steps + 1, s, '[' :: rest => do
    let name := rest.takeWhile (· != ']')
    match rest.drop name.length with
    | [] => .error .bracketUnclosed
    | _ :: rest =>
      match ← (Layout.takeNumber name).mapError Fault.layout with
      | (some i, []) => goInto steps (← s.item (some i) "") rest
      | _ =>
        if name.isEmpty then .error .emptyPart
        else goInto steps (← s.item none (String.ofList name)) rest
  | _ + 1, _, _ => .error .bracketTail

def Subject.plain? : Subject → Except Number.Fault String
  | .value v => v.plain?
  | .kind name => .ok ("<class '" ++ name ++ "'>")
  | .zone offset => .ok (zoneText offset)

def Subject.literal? : Subject → Except Number.Fault String
  | .value v => v.literal?
  | .kind name => .ok ("<class '" ++ name ++ "'>")
  | .zone offset => .ok (zoneLiteral offset)

/-- A subject as its conversion makes it. -/
def convert (conversion : Option Char) (s : Subject) : Except Fault Subject :=
  let written (s : Except Number.Fault String) : Except Fault Subject :=
    (s.map fun s => .value (.text s)).mapError fun f => .layout (.unwritable f)
  match conversion with
  | none => .ok s
  | some 's' => written s.plain?
  | some 'r' => written s.literal?
  | some 'a' => written (s.literal?.map Text.asciiOnly)
  | some c => .error (.unknownConversion c)

/-- A subject in the field that a layout describes. Only values can be laid out. -/
def Subject.lay (layout : List Char) (s : Subject) : Except Fault (List Char) :=
  match s with
  | .value v => (Layout.lay layout v).mapError Fault.layout
  | s =>
    if layout.isEmpty then (s.plain?.map String.toList).mapError fun f => .layout (.unwritable f)
    else .error (.layout (.unsupported s.kindName))

/-- The text of a template. Slots stand in layouts at most `depth` deep, the template counted; the
steps bound the characters that are read. -/
def write (arguments : List Value) :
    (depth steps : Nat) → List Char → Numbering → Except Fault (List Char × Numbering)
  | 0, _, _, _ => .error .tooDeep
  | _, 0, _, n | _, _, [], n => .ok ([], n)
  | depth + 1, steps + 1, '\x7b' :: '\x7b' :: rest, n => do
    let (text, n) ← write arguments (depth + 1) steps rest n
    return ('\x7b' :: text, n)
  | depth + 1, steps + 1, '\x7d' :: '\x7d' :: rest, n => do
    let (text, n) ← write arguments (depth + 1) steps rest n
    return ('\x7d' :: text, n)
  | _ + 1, _ + 1, '\x7d' :: _, _ => .error .loneClose
  | _ + 1, _ + 1, ['\x7b'], _ => .error .loneOpen
  | depth + 1, steps + 1, '\x7b' :: rest, n => do
    let (slot, rest) ← takeSlot rest
    let first := slot.name.takeWhile fun c => c != '.' && c != '['
    let (v, n) ← takeArgument arguments first n
    let subject ← goInto slot.name.length (.value v) (slot.name.drop first.length)
    let subject ← convert slot.conversion subject
    let (layout, n) ←
      if slot.layout.contains '\x7b' then write arguments depth (slot.layout.length + 1) slot.layout n
      else .ok (slot.layout, n)
    let body ← subject.lay layout
    let (text, n) ← write arguments (depth + 1) steps rest n
    return (body ++ text, n)
  | depth + 1, steps + 1, c :: rest, n => do
    let (text, n) ← write arguments (depth + 1) steps rest n
    return (c :: text, n)
termination_by depth steps => (depth, steps)

/-- How deep slots may stand in layouts. -/
def deepest : Nat := 2

/-- The template filled with arguments. -/
def fill (template : String) (arguments : List Value) : Except Fault String :=
  (write arguments deepest (template.length + 1) template.toList .open).map fun r =>
    String.ofList r.1

end MessageBus.Template.Slots
