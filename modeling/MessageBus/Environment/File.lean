import MessageBus.Environment
import MessageBus.Text.Blank
import MessageBus.Text.Lines
/-!
Environment files: statements that give values to variables, one to a line, with quotes, comments and
references to other variables. A statement that cannot be read is passed over. A variable that is set
already keeps its value.
-/
namespace MessageBus.Environment.File

/-- A statement: the name and value it gives, or that it cannot be read, with the line it begins on. -/
structure Statement where
  name : Option String
  value : Option String
  readable : Bool
  line : Nat

/-- A blank within a line. -/
def isInlineBlank (c : Char) : Bool :=
  Text.isBlank c && c != '\n' && c != '\r'

def isLineEnd (c : Char) : Bool :=
  c == '\n' || c == '\r'

/-- The text behind the word that may stand in front of a name. -/
def dropExport (cs : List Char) : List Char :=
  if "export".toList.isPrefixOf cs then
    let rest := cs.drop 6
    if rest.head?.any isInlineBlank then rest.dropWhile isInlineBlank else cs
  else cs

/-- A name, between single quotes or not. A comment in its place is no name. -/
def takeName (cs : List Char) : Option (Option (List Char) × List Char) :=
  match cs with
  | '#' :: _ => some (none, cs)
  | '\'' :: rest =>
    let name := rest.takeWhile (· != '\'')
    match name, rest.drop name.length with
    | [], _ | _, [] => none
    | name, _ :: rest => some (some name, rest)
  | cs =>
    let name := cs.takeWhile fun c => !(c == '=' || c == '#' || Text.isBlank c)
    if name.isEmpty then none else some (some name, cs.drop name.length)

/-- The content between quote marks and the text behind. The first mark without a backslash closes
it; if all have one, the last mark does. -/
def takeQuoted (quoteMark : Char) : List Char → Option (List Char × List Char)
  | [] => none
  | '\\' :: c :: rest =>
    if c = quoteMark then
      match takeQuoted quoteMark rest with
      | some (content, after) => some ('\\' :: c :: content, after)
      | none => some (['\\'], rest)
    else (takeQuoted quoteMark (c :: rest)).map fun (content, after) => ('\\' :: content, after)
  | c :: rest =>
    if c = quoteMark then some ([], rest)
    else (takeQuoted quoteMark rest).map fun (content, after) => (c :: content, after)

/-- What a letter behind a backslash stands for between double quotes. -/
def doubleEscapes : List (Char × Char) := [
  ('\\', '\\'), ('\'', '\''), ('"', '"'), ('a', '\x07'), ('b', '\x08'), ('f', '\x0C'),
  ('n', '\n'), ('r', '\r'), ('t', '\t'), ('v', '\x0B')]

def singleEscapes : List (Char × Char) := [('\\', '\\'), ('\'', '\'')]

/-- The content with its escapes read; a backslash before any other character stands for itself. -/
def unescape (escapes : List (Char × Char)) : List Char → List Char
  | '\\' :: c :: rest =>
    match escapes.lookup c with
    | some d => d :: unescape escapes rest
    | none => '\\' :: unescape escapes (c :: rest)
  | c :: rest => c :: unescape escapes rest
  | [] => []

/-- The text in front of a comment that stands behind a blank. -/
def dropComment : List Char → List Char
  | [] => []
  | c :: rest =>
    if Text.isBlank c && (rest.dropWhile Text.isBlank).head? == some '#' then []
    else c :: dropComment rest

/-- A value, which blanks may stand in front of, and the text behind it. Without quotes it is what stands
in front of a comment, and the blanks in front of it are enough for a comment to begin. -/
def takeValue (cs : List Char) : Option (List Char × List Char) :=
  match cs.dropWhile isInlineBlank with
  | '\'' :: rest =>
    (takeQuoted '\'' rest).map fun (content, after) => (unescape singleEscapes content, after)
  | '"' :: rest =>
    (takeQuoted '"' rest).map fun (content, after) => (unescape doubleEscapes content, after)
  | _ =>
    let line := cs.takeWhile (!isLineEnd ·)
    some (Text.dropEndBlanks ((dropComment line).dropWhile isInlineBlank), cs.drop line.length)

/-- The text behind the rest of a line that may hold a comment and nothing else. -/
def takeLineEnd (cs : List Char) : Option (List Char) :=
  let rest := cs.dropWhile isInlineBlank
  let rest :=
    match rest with
    | '#' :: _ => rest.dropWhile (!isLineEnd ·)
    | _ => rest
  match rest.dropWhile isInlineBlank with
  | [] => some []
  | '\r' :: '\n' :: rest => some rest
  | c :: rest => if isLineEnd c then some rest else none

/-- The text behind the line in which reading stopped. -/
def dropLine (cs : List Char) : List Char :=
  (cs.dropWhile (!isLineEnd ·)).drop 1

/-- What a statement gives with the text behind it, or the text where it cannot be read further. -/
def takeStatement (cs : List Char) :
    Except (List Char) (Option (List Char) × Option (List Char) × List Char) :=
  let cs := dropExport cs
  match takeName cs with
  | none => .error cs
  | some (name, rest) =>
    let rest := rest.dropWhile isInlineBlank
    let valued : Except (List Char) (Option (List Char) × List Char) :=
      match rest with
      | '=' :: rest =>
        match takeValue rest with
        | some (value, rest) => .ok (some value, rest)
        | none => .error rest
      | rest => .ok (none, rest)
    match valued with
    | .error rest => .error rest
    | .ok (value, rest) =>
      match takeLineEnd rest with
      | some after => .ok (name, value, after)
      | none => .error (rest.dropWhile isInlineBlank)

def countLines (cs : List Char) : Nat := cs.count '\n'

/-- The statements of a text that begins on a line. -/
def statements : (fuel : Nat) → (line : Nat) → List Char → List Statement
  | 0, _, _ | _, _, [] => []
  | fuel + 1, line, cs =>
    let begun := cs.dropWhile Text.isBlank
    if begun.isEmpty then []
    else
      let (s, rest) : Statement × List Char :=
        match takeStatement begun with
        | .ok (name, value, rest) =>
          (⟨name.map String.ofList, value.map String.ofList, true, line⟩, rest)
        | .error rest => (⟨none, none, false, line⟩, dropLine rest)
      s :: statements fuel (line + (countLines cs - countLines rest)) rest

/-- The statements of a file's text. -/
def parse (text : String) : List Statement :=
  let cs := Text.plainLines text.toList
  statements (cs.length + 1) 1 cs

/-- The name and the default of a reference whose opening brace was read, with the text behind it. -/
def takeReference (cs : List Char) : Option (String × String × List Char) :=
  let name := cs.takeWhile fun c => c != '\x7d' && c != ':'
  match cs.drop name.length with
  | '\x7d' :: rest => some (String.ofList name, "", rest)
  | ':' :: '-' :: rest =>
    let default := rest.takeWhile (· != '\x7d')
    match rest.drop default.length with
    | _ :: rest => some (String.ofList name, String.ofList default, rest)
    | [] => none
  | _ => none

/-- A value with its references to variables replaced, in as many steps as it has characters. -/
def resolve (lookup : String → Option String) : (fuel : Nat) → List Char → List Char
  | 0, cs => cs
  | _, [] => []
  | fuel + 1, '$' :: '\x7b' :: rest =>
    match takeReference rest with
    | some (name, default, after) =>
      ((lookup name).getD default).toList ++ resolve lookup fuel after
    | none => '$' :: resolve lookup fuel ('\x7b' :: rest)
  | fuel + 1, c :: rest => c :: resolve lookup fuel rest

/-- The values that statements give, in order of their names' first statements. A reference is to the
environment first, then to the statements before. -/
def values (e : Environment) (statements : List Statement) : List (String × Option String) :=
  statements.foldl (fun given s =>
    match s.name with
    | none => given
    | some name =>
      let lookup (n : String) : Option String :=
        match e.get? n with
        | some v => some v
        | none => (given.lookup n).map (·.getD "")
      let value := s.value.map fun v => String.ofList (resolve lookup (v.length + 1) v.toList)
      if given.any (·.1 == name) then
        given.map fun g => if g.1 == name then (name, value) else g
      else given ++ [(name, value)]) []

/-- Why a variable cannot be set. -/
inductive Fault
  | nullCharacter
  | illegalName
  deriving DecidableEq

def Fault.message : Fault → String
  | .nullCharacter => "embedded null byte"
  | .illegalName => "illegal environment variable name"

/-- Sets variables in order, up to the first that cannot be set. -/
def assign (e : Environment) : List (String × Option String) → Option Fault × Environment
  | [] => (none, e)
  | (_, none) :: rest => assign e rest
  | (name, some value) :: rest =>
    if e.has name then assign e rest
    else if name.toList.contains '\x00' || value.toList.contains '\x00' then (some .nullCharacter, e)
    else if name.contains '=' then (some .illegalName, e)
    else assign (e.set name value) rest

/-- The variable that turns environment files off. -/
def switchVariable : String := "PYTHON_DOTENV_DISABLED"

/-- The environment after a file was loaded, with the lines of the statements that cannot be read and
with the fault that ended it. -/
def load (e : Environment) (text : String) : List Nat × Option Fault × Environment :=
  let all := parse text
  let unreadable := (all.filter (!·.readable)).map (·.line)
  let (fault, e) := assign e (values e all)
  (unreadable, fault, e)

/-- A letter without regard to case: small letters for the capital ones of ASCII, and for the long s,
whose capital is in ASCII. -/
def folded (c : Char) : Char := if c = 'ſ' then 's' else c.toLower

/-- Environment files are turned off. -/
def isOff (e : Environment) : Bool :=
  let value := String.ofList ((e.get switchVariable).toList.map folded)
  ["1", "true", "t", "yes", "y"].contains value

end MessageBus.Environment.File
