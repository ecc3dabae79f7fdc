import MessageBus.Text.Utf8
import MessageBus.Yaml.Scalar
/-!
Tokens of a YAML text. Indentation opens and closes collections. What may turn out to be a key is
remembered until a colon makes it one, a line ends, or 1024 characters have passed; the marks for the
key and for the collection it opens are then put in front of its token.
-/
namespace MessageBus.Yaml

open Cursor (isBreak endsLine endsWord endsTabbed)

/-- A directive in front of a document. -/
inductive Directive
  | version (major : Int)
  | handle (name resolved : String)
  | other
  deriving DecidableEq

/-- A token; a text that cannot be read further ends with the fault. -/
inductive Token
  | streamEnd
  | broken (fault : Fault)
  | directive (d : Directive)
  | documentStart
  | documentEnd
  | blockSequenceStart
  | blockMappingStart
  | blockEnd
  | flowSequenceStart
  | flowMappingStart
  | flowSequenceEnd
  | flowMappingEnd
  | key
  | value
  | blockEntry
  | flowEntry
  | reference (name : String)
  | anchor (name : String)
  | tag (handle : Option String) (suffix : String)
  | scalar (text : String) (plain : Bool)
  deriving DecidableEq

/-- A token that a colon may turn into a key: how many tokens stand before it, where it begins, and
whether only a key may stand there. -/
structure KeyCandidate where
  before : Nat
  required : Bool
  index : Nat
  line : Nat
  column : Nat

/-- The state of reading. Tokens are kept with the last one first. Candidates are kept by the depth of
flow collections, the innermost first. -/
structure Scan where
  cursor : Cursor
  depth : Nat
  tokens : List Token
  indent : Int
  indents : List Int
  keyAllowed : Bool
  candidates : List (Nat × KeyCandidate)

namespace Scan

/-- The longest key that needs no mark of its own. -/
def longestKey : Nat := 1024

def ofText (cs : List Char) : Scan := ⟨.ofText cs, 0, [], -1, [], true, []⟩

def push (s : Scan) (t : Token) : Scan := { s with tokens := t :: s.tokens }

/-- Puts a token behind the first `before` ones. -/
def insert (s : Scan) (before : Nat) (t : Token) : Scan :=
  let later := s.tokens.length - before
  { s with tokens := s.tokens.take later ++ t :: s.tokens.drop later }

/-- Drops the candidate of this depth, which must not be one that has to be a key. -/
def dropCandidate (s : Scan) : Except Fault Scan :=
  match s.candidates.lookup s.depth with
  | some k =>
    if k.required then .error .malformed
    else .ok { s with candidates := s.candidates.filter (·.1 != s.depth) }
  | none => .ok s

/-- Drops the candidates that are too far behind. -/
def dropStale (s : Scan) : Except Fault Scan :=
  let stale (k : KeyCandidate) : Bool :=
    k.line != s.cursor.line || longestKey < s.cursor.index - k.index
  if s.candidates.any fun e => stale e.2 && e.2.required then .error .malformed
  else .ok { s with candidates := s.candidates.filter fun e => !stale e.2 }

/-- Remembers the next token as a candidate, if a key may stand here. -/
def addCandidate (s : Scan) : Except Fault Scan :=
  if s.keyAllowed then do
    let s ← s.dropCandidate
    let k : KeyCandidate :=
      ⟨s.tokens.length, s.depth == 0 && s.indent == s.cursor.column,
        s.cursor.index, s.cursor.line, s.cursor.column⟩
    return { s with candidates := (s.depth, k) :: s.candidates }
  else .ok s

/-- Closes the collections that are indented beyond a column. -/
def closeTo (column : Int) (s : Scan) : Scan :=
  if s.depth ≠ 0 then s
  else
    let rec go : List Int → Int → List Token → List Int × Int × List Token
      | outer :: rest, indent, ts =>
        if column < indent then go rest outer (.blockEnd :: ts) else (outer :: rest, indent, ts)
      | [], indent, ts => ([], indent, ts)
    let (indents, indent, tokens) := go s.indents s.indent s.tokens
    { s with indents := indents, indent := indent, tokens := tokens }

/-- Opens a collection at a column, if that is further in; tells whether it did. -/
def openAt (s : Scan) (column : Nat) : Bool × Scan :=
  if s.indent < column then
    (true, { s with indents := s.indent :: s.indents, indent := column })
  else (false, s)

def advance (s : Scan) (n : Nat) : Scan := { s with cursor := s.cursor.skip n }

def allowKey (s : Scan) (allowed : Bool) : Scan := { s with keyAllowed := allowed }

/-- Skips blanks, comments and line ends. A line end outside flow collections allows a key. -/
def toNextToken : (fuel : Nat) → Scan → Scan
  | 0, s => s
  | fuel + 1, s =>
    let c := s.cursor.skipBlanks.skipComment
    match c.lineBreak? with
    | none => { s with cursor := c }
    | some (_, c) =>
      toNextToken fuel { s with cursor := c, keyAllowed := s.keyAllowed || s.depth == 0 }

/-! ### Names, tags and directives -/

/-- Escaped bytes at the front of a text: the characters they make, and how much was read. -/
def uriEscapes : (fuel : Nat) → Cursor → List UInt8 → Except Fault (List Char × Cursor)
  | 0, _, _ => .error .malformed
  | fuel + 1, c, bytes =>
    if c.starts '%' then
      match (c.ahead 1).bind Text.Percent.hexValue?, (c.ahead 2).bind Text.Percent.hexValue? with
      | some h, some l => uriEscapes fuel (c.skip 3) (bytes ++ [UInt8.ofNat (16 * h + l)])
      | _, _ => .error .malformed
    else
      match Text.Utf8.decode bytes with
      | .ok cs => .ok (cs, c)
      | .error _ => .error .malformed

def isUriChar (c : Char) : Bool :=
  c.isAlphanum || "-;/?:@&=+$,_.!~*'()[]%".toList.contains c

def uriRest : (fuel : Nat) → Cursor → Except Fault (List Char × Cursor)
  | 0, c => .ok ([], c)
  | fuel + 1, c =>
    match c.peek with
    | some ch =>
      if ch == '%' then do
        let (head, c) ← uriEscapes (c.rest.length + 1) c []
        let (text, c) ← uriRest fuel c
        return (head ++ text, c)
      else if isUriChar ch then do
        let (text, c) ← uriRest fuel c.step
        return (ch :: text, c)
      else .ok ([], c)
    | none => .ok ([], c)

/-- The name of a tag, which may have escapes. -/
def uri (c : Cursor) : Except Fault (String × Cursor) :=
  if c.peek.any isUriChar then do
    let (text, c) ← uriRest (c.rest.length + 1) c
    return (String.ofList text, c)
  else .error .malformed

/-- The handle in front of a tag: a name between two marks, or one mark alone. -/
def handle (c : Cursor) : Except Fault (String × Cursor) :=
  if !c.starts '!' then .error .malformed
  else if c.ahead 1 == some ' ' then .ok ("!", c.step)
  else
    let name := c.step.front isNameChar
    let n := name.length + 1
    if c.ahead n == some '!' then .ok (String.ofList (c.rest.take (n + 1)), c.skip (n + 1))
    else .error .malformed

/-- A tag; the cursor stands at its mark. -/
def tag (c : Cursor) : Except Fault (Token × Cursor) := do
  let (t, c) ←
    if c.ahead 1 == some '<' then do
      let (suffix, c) ← uri (c.skip 2)
      if c.starts '>' then pure (Token.tag none suffix, c.step) else .error .malformed
    else if endsTabbed (c.ahead 1) then pure (Token.tag none "!", c.step)
    else
      let word := c.step.front fun ch => !(isBreak ch || ch == ' ')
      if word.contains '!' then do
        let (name, c) ← handle c
        let (suffix, c) ← uri c
        pure (Token.tag (some name) suffix, c)
      else do
        let (suffix, c) ← uri c.step
        pure (Token.tag (some "!") suffix, c)
  if endsWord c.peek then return (t, c) else .error .malformed

/-- The name behind the mark of an anchor or an alias. -/
def anchorName (c : Cursor) : Except Fault (String × Cursor) :=
  let name := c.step.front isNameChar
  let c := c.skip (name.length + 1)
  let ends := c.peek.all fun ch => endsTabbed (some ch) || "?:,]\x7d%@`".toList.contains ch
  if !name.isEmpty && ends then .ok (String.ofList name, c) else .error .malformed

/-- A number of a version. -/
def versionNumber (c : Cursor) : Except Fault (Int × Cursor) :=
  let digits := c.front Text.isAsciiDigit
  if digits.isEmpty then .error .malformed
  else do
    let n ← (Number.readInteger 10 (String.ofList digits)).mapError .number
    return (n, c.skip digits.length)

/-- A directive; the cursor stands at its mark. -/
def directive (c : Cursor) : Except Fault (Token × Cursor) := do
  let name := c.step.front isNameChar
  let c := c.skip (name.length + 1)
  if name.isEmpty || !endsWord c.peek then .error .malformed
  else
    let (d, c) ←
      if name = "YAML".toList then do
        let (major, c) ← versionNumber c.skipBlanks
        if !c.starts '.' then .error .malformed
        else do
          let (_, c) ← versionNumber c.step
          if endsWord c.peek then pure (Directive.version major, c) else .error .malformed
      else if name = "TAG".toList then do
        let (name, c) ← handle c.skipBlanks
        if !c.starts ' ' then .error .malformed
        else do
          let (resolved, c) ← uri c.skipBlanks
          if endsWord c.peek then pure (Directive.handle name resolved, c) else .error .malformed
      else pure (Directive.other, c.skipWhile (!isBreak ·))
    let c := c.skipBlanks.skipComment
    match c.peek, c.lineBreak? with
    | none, _ => return (.directive d, c)
    | _, some (_, c) => return (.directive d, c)
    | _, none => .error .malformed

/-! ### The next token -/

/-- A mark between documents. It closes everything that is open. -/
def documentMark (s : Scan) (t : Token) : Except Fault Scan := do
  let s ← (s.closeTo (-1)).dropCandidate
  return (s.advance 3).allowKey false |>.push t

def flowStart (s : Scan) (t : Token) : Except Fault Scan := do
  let s ← s.addCandidate
  return ({ s with depth := s.depth + 1 }.advance 1).allowKey true |>.push t

def flowEnd (s : Scan) (t : Token) : Except Fault Scan := do
  let s ← s.dropCandidate
  if s.depth = 0 then .error .malformed
  else return ({ s with depth := s.depth - 1 }.advance 1).allowKey false |>.push t

def flowEntry (s : Scan) : Except Fault Scan := do
  let s ← (s.allowKey true).dropCandidate
  return (s.advance 1).push .flowEntry

/-- The mark of an item or of a key. Outside flow collections it may open a collection. -/
def entryMark (s : Scan) (start t : Token) (keyNext : Bool) : Except Fault Scan := do
  let s ←
    if s.depth ≠ 0 then pure s
    else if !s.keyAllowed then .error .malformed
    else
      let (opened, s) := s.openAt s.cursor.column
      pure (if opened then s.push start else s)
  let s ← (s.allowKey keyNext).dropCandidate
  return (s.advance 1).push t

/-- The mark of a value. It makes a key of the candidate of this depth, if there is one. -/
def valueMark (s : Scan) : Except Fault Scan :=
  match s.candidates.lookup s.depth with
  | some k =>
    let s := { s with candidates := s.candidates.filter (·.1 != s.depth) }
    let s := s.insert k.before .key
    let s :=
      if s.depth ≠ 0 then s
      else
        let (opened, s) := s.openAt k.column
        if opened then s.insert k.before .blockMappingStart else s
    .ok (((s.allowKey false).advance 1).push .value)
  | none => s.entryMark .blockMappingStart .value (s.depth == 0)

/-- A token that may be a key and takes its text from where the cursor stands. -/
def keyLike (s : Scan) (read : Cursor → Except Fault (Token × Cursor)) : Except Fault Scan := do
  let s ← s.addCandidate
  let (t, c) ← read s.cursor
  return ({ s with cursor := c }.allowKey false).push t

def quotedScalar (quoteMark : Char) (c : Cursor) : Except Fault (Token × Cursor) := do
  let (text, c) ← Scalar.quoted quoteMark c
  return (.scalar (String.ofList text) false, c)

def blockScalar (s : Scan) (folded : Bool) : Except Fault Scan := do
  let s ← (s.allowKey true).dropCandidate
  let (text, c) ← Scalar.block folded s.indent s.cursor
  return { s with cursor := c }.push (.scalar (String.ofList text) false)

def plainScalar (s : Scan) : Except Fault Scan := do
  let s ← s.addCandidate
  let (text, ended, c) := Scalar.plain (s.depth ≠ 0) (s.indent + 1) s.cursor
  return ({ s with cursor := c }.allowKey ended).push (.scalar (String.ofList text) true)

/-- A plain scalar may begin here. -/
def startsPlain (s : Scan) (ch : Char) : Bool :=
  !(Cursor.isSpaceOrTab ch || isBreak ch || "-?:,[]\x7b\x7d#&*!|>'\"%@`".toList.contains ch) ||
    (!endsTabbed (s.cursor.ahead 1) &&
      (ch == '-' || (s.depth == 0 && (ch == '?' || ch == ':'))))

/-- Reads the token that begins with a character. -/
def readToken (s : Scan) (ch : Char) : Except Fault Scan :=
  let c := s.cursor
  let atStart := c.column == 0
  let wordEnds := endsTabbed (c.ahead 1)
  let inFlow := s.depth ≠ 0
  if ch == '%' && atStart then do
    let s ← (s.closeTo (-1)).dropCandidate
    let (t, c) ← directive s.cursor
    return ({ s with cursor := c }.allowKey false).push t
  else if atStart && c.atMark '-' then s.documentMark .documentStart
  else if atStart && c.atMark '.' then s.documentMark .documentEnd
  else if ch == '[' then s.flowStart .flowSequenceStart
  else if ch == '\x7b' then s.flowStart .flowMappingStart
  else if ch == ']' then s.flowEnd .flowSequenceEnd
  else if ch == '\x7d' then s.flowEnd .flowMappingEnd
  else if ch == ',' then s.flowEntry
  else if ch == '-' && wordEnds then s.entryMark .blockSequenceStart .blockEntry true
  else if ch == '?' && (inFlow || wordEnds) then
    s.entryMark .blockMappingStart .key (s.depth == 0)
  else if ch == ':' && (inFlow || wordEnds) then s.valueMark
  else if ch == '*' then
    s.keyLike fun c => (anchorName c).map fun (name, c) => (.reference name, c)
  else if ch == '&' then
    s.keyLike fun c => (anchorName c).map fun (name, c) => (.anchor name, c)
  else if ch == '!' then s.keyLike tag
  else if ch == '|' && !inFlow then s.blockScalar false
  else if ch == '>' && !inFlow then s.blockScalar true
  else if ch == '\'' || ch == '"' then s.keyLike (quotedScalar ch)
  else if s.startsPlain ch then s.plainScalar
  else .error .malformed

/-- Reads tokens up to the end of the text or to a fault. -/
def readAll : (fuel : Nat) → Scan → List Token
  | 0, s => .broken .malformed :: s.tokens
  | fuel + 1, s =>
    let c := s.cursor
    let c := if c.index = 0 && c.starts '\uFEFF' then c.step else c
    let s := toNextToken (c.rest.length + 1) { s with cursor := c }
    match s.dropStale with
    | .error fault => .broken fault :: s.tokens
    | .ok s =>
      let s := s.closeTo s.cursor.column
      match s.cursor.peek with
      | none =>
        match (s.closeTo (-1)).dropCandidate with
        | .error fault => .broken fault :: s.tokens
        | .ok s => .streamEnd :: s.tokens
      | some ch =>
        match s.readToken ch with
        | .error fault => .broken fault :: s.tokens
        | .ok s => readAll fuel s

end Scan

/-- The tokens of a text. -/
def tokens (cs : List Char) : List Token :=
  (Scan.readAll (cs.length + 2) (.ofText cs)).reverse

end MessageBus.Yaml
