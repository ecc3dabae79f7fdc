import MessageBus.Value.Literal
/-!
Message templates. A directive begins with a percent sign and may have a key, flags, a width, a
precision and a size letter before the letter that names its form. Directives take the arguments in
order, and all arguments have to be taken. Text outside directives stands for itself, and so does the
text of an argument.
-/
namespace MessageBus.Template

/-- Why a template cannot be filled. -/
inductive Fault
  | incomplete
  | incompleteKey
  | mappingRequired
  | noSuchKey (key : String)
  | tooFewArguments
  | tooManyArguments
  | starNotInteger
  | starWidthTooLarge
  | starPrecisionTooLarge
  | widthTooBig
  | precisionTooBig
  | precisionTooLarge
  | integerRequired (form : Char) (kind : String)
  | realRequired (form : Char) (kind : String)
  | floatRequired (kind : String)
  | floatTooLarge
  | characterRequired
  | characterOutOfRange
  | notFinite (infinite : Bool)
  | unsupported (form : Char) (position : Nat)
  | unwritable (fault : Number.Fault)
  | outOfMemory
  deriving DecidableEq

def Fault.message : Fault → String
  | .incomplete => "incomplete format"
  | .incompleteKey => "incomplete format key"
  | .mappingRequired => "format requires a mapping"
  | .noSuchKey key => Text.quoted key
  | .tooFewArguments => "not enough arguments for format string"
  | .tooManyArguments => "not all arguments converted during string formatting"
  | .starNotInteger => "* wants int"
  | .starWidthTooLarge => "Python int too large to convert to C ssize_t"
  | .starPrecisionTooLarge => "Python int too large to convert to C int"
  | .widthTooBig => "width too big"
  | .precisionTooBig => "precision too big"
  | .precisionTooLarge => "precision too large"
  | .integerRequired form kind =>
    "%" ++ form.toString ++ " format: an integer is required, not " ++ kind
  | .realRequired form kind =>
    "%" ++ form.toString ++ " format: a real number is required, not " ++ kind
  | .floatRequired kind => "must be real number, not " ++ kind
  | .floatTooLarge => "int too large to convert to float"
  | .characterRequired => "%c requires int or char"
  | .characterOutOfRange => "%c arg not in range(0x110000)"
  | .notFinite infinite =>
    if infinite then "cannot convert float infinity to integer"
    else "cannot convert float NaN to integer"
  | .unsupported form position =>
    let shown := if 31 ≤ form.toNat && form.toNat ≤ 126 then form else '?'
    "unsupported format character '" ++ shown.toString ++ "' (0x" ++
      String.ofList (Nat.toDigits 16 form.toNat) ++ ") at index " ++ toString position
  | .unwritable fault => fault.message
  | .outOfMemory => ""

structure Flags where
  left : Bool := false
  plus : Bool := false
  space : Bool := false
  full : Bool := false
  zero : Bool := false

/-- A width or precision: none, a number, the next argument, or a number beyond the limit. -/
inductive Measure
  | none
  | given (n : Nat)
  | star
  | tooBig

/-- The key in front of a directive: none, a name, or one whose parenthesis is not closed. -/
inductive Key
  | none
  | named (key : String)
  | unclosed

/-- A directive. It has no form if the template ends before one. -/
structure Directive where
  key : Key
  flags : Flags
  width : Measure
  precision : Measure
  form : Option Char
  position : Nat

inductive Piece
  | text (c : Char)
  | directive (d : Directive)

/-- The largest width a template may name. -/
def maxWidth : Nat := Nat.pow 2 63 - 1

/-- The largest precision a template may name. -/
def maxPrecision : Nat := Nat.pow 2 31 - 1

/-- The longest field that is laid out. -/
def maxField : Nat := Nat.pow 2 30

/-- The key up to the parenthesis that closes it, where `depth` more are open inside. -/
def takeKey (depth : Nat) : List Char → Option (List Char × List Char)
  | [] => none
  | ')' :: rest =>
    match depth with
    | 0 => some ([], rest)
    | depth + 1 => (takeKey depth rest).map fun (k, rest) => (')' :: k, rest)
  | '(' :: rest => (takeKey (depth + 1) rest).map fun (k, rest) => ('(' :: k, rest)
  | c :: rest => (takeKey depth rest).map fun (k, rest) => (c :: k, rest)

def takeFlags (flags : Flags) : List Char → Flags × List Char
  | '-' :: rest => takeFlags { flags with left := true } rest
  | '+' :: rest => takeFlags { flags with plus := true } rest
  | ' ' :: rest => takeFlags { flags with space := true } rest
  | '#' :: rest => takeFlags { flags with full := true } rest
  | '0' :: rest => takeFlags { flags with zero := true } rest
  | cs => (flags, cs)

/-- A measure at the front of a text, where `absent` stands for one without digits. -/
def takeMeasure (absent : Measure) (limit : Nat) (cs : List Char) : Measure × List Char :=
  match cs with
  | '*' :: rest => (.star, rest)
  | cs =>
    let ds := cs.takeWhile Text.isAsciiDigit
    if ds.isEmpty then (absent, cs)
    else
      let n := Number.ofDigits 10 (ds.map Text.asciiDigitValue)
      (if limit < n then .tooBig else .given n, cs.drop ds.length)

def takePrecision (cs : List Char) : Measure × List Char :=
  match cs with
  | '.' :: rest => takeMeasure (.given 0) maxPrecision rest
  | cs => (.none, cs)

def dropSizeLetter (cs : List Char) : List Char :=
  match cs with
  | 'h' :: rest | 'l' :: rest | 'L' :: rest => rest
  | cs => cs

/-- The directive whose percent sign stands before `cs`, in a template of `length` characters. -/
def takeDirective (length : Nat) (cs : List Char) : Directive × List Char :=
  let keyed : Option (Key × List Char) :=
    match cs with
    | '(' :: rest => (takeKey 0 rest).map fun (k, rest) => (.named (String.ofList k), rest)
    | cs => some (.none, cs)
  match keyed with
  | none => (⟨.unclosed, {}, .none, .none, none, length⟩, [])
  | some (key, cs) =>
    let (flags, cs) := takeFlags {} cs
    let (width, cs) := takeMeasure .none maxWidth cs
    let (precision, cs) := takePrecision cs
    let cs := dropSizeLetter cs
    (⟨key, flags, width, precision, cs.head?, length - cs.length⟩, cs.tail)

/-- The pieces of a template, read within as many steps as it has characters. -/
def pieces (length : Nat) : (steps : Nat) → List Char → List Piece
  | 0, _ | _, [] => []
  | steps + 1, '%' :: '%' :: rest => .text '%' :: pieces length steps rest
  | steps + 1, '%' :: rest =>
    let (d, rest) := takeDirective length rest
    .directive d :: pieces length steps rest
  | steps + 1, c :: rest => .text c :: pieces length steps rest

/-- What directives still take: arguments in order, and the map that keys are looked up in. -/
structure Supply where
  queue : List Value
  mapping : Option (List (Value × Value))

def Supply.next (s : Supply) : Except Fault (Value × Supply) :=
  match s.queue with
  | [] => .error .tooFewArguments
  | v :: rest => .ok (v, { s with queue := rest })

/-- After a key the value it names is the only argument. -/
def Supply.select (s : Supply) : Key → Except Fault Supply
  | .none => .ok s
  | .named key =>
    match s.mapping with
    | none => .error .mappingRequired
    | some entries =>
      match Value.lookup? entries (.text key) with
      | none => .error (.noSuchKey key)
      | some v => .ok { s with queue := [v] }
  | .unclosed => .error (if s.mapping.isNone then .mappingRequired else .incompleteKey)

/-- The argument that a star takes. -/
def Supply.nextInteger (s : Supply) : Except Fault (Int × Supply) := do
  let (v, s) ← s.next
  match v with
  | .int i => .ok (i, s)
  | .bool b => .ok (if b then 1 else 0, s)
  | _ => .error .starNotInteger

/-- The width of a field and its flags: a negative width is one of a field set to the left. -/
def Supply.width (s : Supply) (flags : Flags) : Measure → Except Fault (Nat × Flags × Supply)
  | .none => .ok (0, flags, s)
  | .given n => .ok (n, flags, s)
  | .tooBig => .error .widthTooBig
  | .star => do
    let (i, s) ← s.nextInteger
    if i.natAbs ≤ maxWidth then
      .ok (i.natAbs, if i < 0 then { flags with left := true } else flags, s)
    else .error .starWidthTooLarge

/-- The precision of a directive, zero for a negative argument. -/
def Supply.precision (s : Supply) : Measure → Except Fault (Option Nat × Supply)
  | .none => .ok (none, s)
  | .given n => .ok (some n, s)
  | .tooBig => .error .precisionTooBig
  | .star => do
    let (i, s) ← s.nextInteger
    if i.natAbs ≤ maxPrecision then .ok (some i.toNat, s) else .error .starPrecisionTooLarge

/-- The name of a value's kind as directives give it. -/
def kindName : Value → String
  | .date _ => "datetime.date"
  | .moment _ => "datetime.datetime"
  | v => v.kindName

/-- The text of a value, cut to a precision. -/
def textBody (precision : Option Nat) (s : String) : List Char :=
  precision.elim s.toList s.toList.take

/-- The integer that a value counts as. -/
def integerOf (form : Char) (v : Value) : Except Fault Int :=
  match v.number? with
  | some (.inl i) => .ok i
  | some (.inr x) =>
    if form == 'o' || form == 'x' || form == 'X' then .error (.integerRequired form (kindName v))
    else x.toInt?.mapError .notFinite
  | none =>
    if form == 'o' || form == 'x' || form == 'X' then .error (.integerRequired form (kindName v))
    else .error (.realRequired form (kindName v))

/-- An integer as sign, base mark and digits. -/
def integerBody (form : Char) (full : Bool) (precision : Option Nat) (i : Int) :
    Except Fault (List Char) :=
  if precision.any (maxPrecision - 3 < ·) then .error .precisionTooLarge
  else if precision.any (maxField < ·) then .error .outOfMemory
  else
    let (base, mark) : Nat × List Char :=
      match form with
      | 'o' => (8, ['0', 'o'])
      | 'x' => (16, ['0', 'x'])
      | 'X' => (16, ['0', 'X'])
      | _ => (10, [])
    if base == 10 && Number.tooLong i then .error (.unwritable .tooLongToWrite)
    else
      let ds := Nat.toDigits base i.natAbs
      let ds := List.replicate (precision.getD 0 - ds.length) '0' ++ ds
      let ds := if form == 'X' then ds.map Char.toUpper else ds
      .ok (Number.signText (i < 0) ++ (if full then mark else []) ++ ds)

/-- The floating-point number that a value counts as. -/
def realOf (v : Value) : Except Fault Number.Binary64 :=
  match v.number? with
  | some (.inr x) => .ok x
  | some (.inl i) =>
    match Number.Binary64.ofInt? i with
    | some x => .ok x
    | none => .error .floatTooLarge
  | none => .error (.floatRequired (kindName v))

def realBody (form : Char) (full : Bool) (precision : Option Nat) (x : Number.Binary64) :
    Except Fault (List Char) :=
  let precision := precision.getD 6
  if maxField < precision then .error .outOfMemory
  else
    let style : Number.Style :=
      match form.toLower with
      | 'f' => .fixed
      | 'e' => .exponent
      | _ => .general
    let body := x.styled style precision full
    .ok (if form.isUpper then body.map Char.toUpper else body)

/-- The character that a value counts as. -/
def characterOf (v : Value) : Except Fault Char :=
  match v with
  | .text s =>
    match s.toList with
    | [c] => .ok c
    | _ => .error .characterRequired
  | v =>
    match v.number? with
    | some (.inl i) =>
      if 0 ≤ i && i < 0x110000 then .ok (Char.ofNat i.toNat) else .error .characterOutOfRange
    | _ => .error .characterRequired

/-- What a directive writes for a value before it is laid out, and whether it is a number. -/
def body (form : Char) (position : Nat) (full : Bool) (precision : Option Nat) (v : Value) :
    Except Fault (Bool × List Char) :=
  match form with
  | 's' => (v.plain?.mapError .unwritable).map fun s => (false, textBody precision s)
  | 'r' => (v.literal?.mapError .unwritable).map fun s => (false, textBody precision s)
  | 'a' =>
    (v.literal?.mapError .unwritable).map fun s => (false, textBody precision (Text.asciiOnly s))
  | 'd' | 'i' | 'u' | 'o' | 'x' | 'X' => do
    let i ← integerOf form v
    return (true, ← integerBody form full precision i)
  | 'e' | 'E' | 'f' | 'F' | 'g' | 'G' => do
    let x ← realOf v
    return (true, ← realBody form full precision x)
  | 'c' => (characterOf v).map fun c => (false, [c])
  | form => .error (.unsupported form position)

/-- The sign of a number as written, and the rest. -/
def splitSign (flags : Flags) (body : List Char) : List Char × List Char :=
  match body with
  | '-' :: rest => (['-'], rest)
  | '+' :: rest => (['+'], rest)
  | body => (if flags.plus then ['+'] else if flags.space then [' '] else [], body)

/-- The base mark in front of a number, and the rest. -/
def splitMark (form : Char) (full : Bool) (body : List Char) : List Char × List Char :=
  if full && (form == 'o' || form == 'x' || form == 'X') then (body.take 2, body.drop 2)
  else ([], body)

/-- A body in a field of some width. Zeros go between the mark and the digits of a number, blanks on
one side of all. -/
def layOut (form : Char) (flags : Flags) (width : Nat) (numeric : Bool) (body : List Char) :
    List Char :=
  let (sign, body) := if numeric then splitSign flags body else ([], body)
  let (mark, body) := if numeric then splitMark form flags.full body else ([], body)
  let gap := width - (sign.length + mark.length + body.length)
  if flags.left then sign ++ mark ++ body ++ List.replicate gap ' '
  else if numeric && flags.zero then sign ++ mark ++ List.replicate gap '0' ++ body
  else List.replicate gap ' ' ++ sign ++ mark ++ body

/-- What a directive writes, and what it leaves for those after it. -/
def Directive.fill (d : Directive) (s : Supply) : Except Fault (List Char × Supply) := do
  let s ← s.select d.key
  let (width, flags, s) ← s.width d.flags d.width
  let (precision, s) ← s.precision d.precision
  match d.form with
  | none => .error .incomplete
  | some form => do
    let (v, s) ← s.next
    let (numeric, body) ← body form d.position flags.full precision v
    if maxField < width then .error .outOfMemory
    else .ok (layOut form flags width numeric body, s)

/-- The text of some pieces. -/
def fillPieces : List Piece → Supply → Except Fault (List Char)
  | [], s => if s.queue.isEmpty || s.mapping.isSome then .ok [] else .error .tooManyArguments
  | .text c :: rest, s => (fillPieces rest s).map (c :: ·)
  | .directive d :: rest, s => do
    let (text, s) ← d.fill s
    let tail ← fillPieces rest s
    return text ++ tail

def fillWith (template : String) (s : Supply) : Except Fault String :=
  let cs := template.toList
  (fillPieces (pieces cs.length cs.length cs) s).map String.ofList

/-- The template filled with arguments in order. -/
def fill (template : String) (arguments : List Value) : Except Fault String :=
  fillWith template ⟨arguments, none⟩

/-- The template filled from a map: a directive with a key takes what the map holds under it, the
first one without a key takes the map. -/
def fillFromMap (template : String) (entries : List (Value × Value)) : Except Fault String :=
  fillWith template ⟨[.map entries], some entries⟩

end MessageBus.Template
