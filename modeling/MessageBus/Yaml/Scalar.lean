import MessageBus.Text.Percent
import MessageBus.Yaml.Cursor
/-!
The three ways a scalar is written: plain, between quotes, and as a block of lines under a mark. Lines
are folded: a single line end reads as a blank, of several all but the first are kept.
-/
namespace MessageBus.Yaml.Scalar

open Cursor (isBreak isSpaceOrTab endsLine endsWord endsTabbed)

/-- The text of folded line ends, where the first one reads as `first`. -/
def fold (first : Char) (others : List Char) : List Char :=
  if first ≠ '\n' then first :: others
  else if others.isEmpty then [' ']
  else others

/-! ### Between quotes -/

/-- What the letter after a backslash stands for. -/
def escapes : List (Char × Char) := [
  ('0', '\x00'), ('a', '\x07'), ('b', '\x08'), ('t', '\t'), ('\t', '\t'), ('n', '\n'),
  ('v', '\x0B'), ('f', '\x0C'), ('r', '\x0D'), ('e', '\x1B'), (' ', ' '), ('"', '"'),
  ('\\', '\\'), ('/', '/'), ('N', '\u0085'), ('_', '\u00A0'), ('L', '\u2028'), ('P', '\u2029')]

/-- How many hexadecimal digits follow a letter. -/
def codeLengths : List (Char × Nat) := [('x', 2), ('u', 4), ('U', 8)]

/-- The line ends and blanks between two lines of a quoted scalar, the first line end excepted. -/
def quotedBreaks : (fuel : Nat) → Cursor → Except Fault (List Char × Cursor)
  | 0, c => .ok ([], c)
  | fuel + 1, c =>
    if c.atSeparator then .error .malformed
    else
      let c := c.skipWhile isSpaceOrTab
      match c.lineBreak? with
      | none => .ok ([], c)
      | some (ch, c) => do
        let (others, c) ← quotedBreaks fuel c
        return (ch :: others, c)

/-- The character of a numeric escape. -/
def codeChar (digits : List Char) : Except Fault Char :=
  match digits.mapM Text.Percent.hexValue? with
  | none => .error .malformed
  | some ds =>
    let code := Number.ofDigits 16 ds
    if h : code.isValidChar then .ok (Char.ofNatAux code h)
    else if code < 0x110000 then .error (.surrogate code)
    else .error (.codePoint (Nat.pow 2 31 ≤ code))

/-- What a backslash with all that belongs to it stands for; the cursor stands behind the backslash. -/
def escaped (c : Cursor) : Except Fault (List Char × Cursor) :=
  match c.peek with
  | none => .error .malformed
  | some ch =>
    match escapes.lookup ch, codeLengths.lookup ch with
    | some d, _ => .ok ([d], c.step)
    | none, some n => do
      let c := c.step
      let digits := c.rest.take n
      if digits.length < n then .error .malformed
      else
        let d ← codeChar digits
        return ([d], c.skip n)
    | none, none =>
      match c.lineBreak? with
      | some (_, c) => quotedBreaks (c.rest.length + 1) c
      | none => .error .malformed

/-- The blanks and line ends between two words of a quoted scalar. -/
def quotedSpaces (c : Cursor) : Except Fault (List Char × Cursor) :=
  let blanks := c.front isSpaceOrTab
  let c := c.skip blanks.length
  match c.peek, c.lineBreak? with
  | none, _ => .error .malformed
  | _, some (first, c) => do
    let (others, c) ← quotedBreaks (c.rest.length + 1) c
    return (fold first others, c)
  | _, none => .ok (blanks, c)

/-- The rest of a quoted scalar, up to the mark that closes it. -/
def quotedRest (quoteMark : Char) : (fuel : Nat) → Cursor → Except Fault (List Char × Cursor)
  | 0, _ => .error .malformed
  | fuel + 1, c =>
    let double := quoteMark == '"'
    match c.peek with
    | none => .error .malformed
    | some ch =>
      if ch == '\'' && !double && c.ahead 1 == some '\'' then do
        let (text, c) ← quotedRest quoteMark fuel (c.skip 2)
        return (ch :: text, c)
      else if ch == quoteMark then .ok ([], c.step)
      else if ch == '\\' && double then do
        let (head, c) ← escaped c.step
        let (text, c) ← quotedRest quoteMark fuel c
        return (head ++ text, c)
      else if isBreak ch || isSpaceOrTab ch then do
        let (head, c) ← quotedSpaces c
        let (text, c) ← quotedRest quoteMark fuel c
        return (head ++ text, c)
      else do
        let (text, c) ← quotedRest quoteMark fuel c.step
        return (ch :: text, c)

/-- A quoted scalar; the cursor stands at its first mark. -/
def quoted (quoteMark : Char) (c : Cursor) : Except Fault (List Char × Cursor) :=
  quotedRest quoteMark (c.rest.length + 1) c.step

/-! ### Plain -/

/-- What stands between the lines of a plain scalar: nothing more of it if a document ends there. -/
def plainBreaks : (fuel : Nat) → Cursor → Option (List Char) × Cursor
  | 0, c => (some [], c)
  | fuel + 1, c =>
    let c := c.skipBlanks
    match c.lineBreak? with
    | none => (some [], c)
    | some (ch, c) =>
      if c.atSeparator then (none, c)
      else
        let (others, c) := plainBreaks fuel c
        (others.map (ch :: ·), c)

/-- The blanks and line ends after a word of a plain scalar, and whether a line ended. No text means
that the scalar ends. -/
def plainSpaces (c : Cursor) : List Char × Bool × Cursor :=
  let blanks := c.front (· == ' ')
  let c := c.skip blanks.length
  match c.lineBreak? with
  | none => (blanks, false, c)
  | some (first, c) =>
    if c.atSeparator then ([], true, c)
    else
      let (others, c) := plainBreaks (c.rest.length + 1) c
      ((others.map (fold first)).getD [], true, c)

def isFlowMark (c : Char) : Bool :=
  c == ',' || c == '[' || c == ']' || c == '\x7b' || c == '\x7d'

/-- The length of the word of a plain scalar at the front of a text. -/
def wordLength (inFlow : Bool) : List Char → Nat
  | [] => 0
  | ch :: rest =>
    let ends :=
      endsTabbed (some ch) ||
      (ch == ':' && (endsTabbed rest.head? || (inFlow && rest.head?.any isFlowMark))) ||
      (inFlow && (ch == '?' || isFlowMark ch))
    if ends then 0 else wordLength inFlow rest + 1

/-- A plain scalar with whether it ends behind a line end. It goes on over lines that are indented by
`indent` or more. -/
def plainRest (inFlow : Bool) (indent : Int) :
    (fuel : Nat) → Cursor → (spaces : List Char) → (ended : Bool) → List Char × Bool × Cursor
  | 0, c, _, ended => ([], ended, c)
  | fuel + 1, c, spaces, ended =>
    let n := wordLength inFlow c.rest
    if c.starts '#' || n = 0 then ([], ended, c)
    else
      let word := spaces ++ c.rest.take n
      let (spaces, ended, c) := plainSpaces (c.skip n)
      if spaces.isEmpty || c.starts '#' || (!inFlow && (c.column : Int) < indent) then
        (word, ended, c)
      else
        let (text, ended, c) := plainRest inFlow indent fuel c spaces ended
        (word ++ text, ended, c)

def plain (inFlow : Bool) (indent : Int) (c : Cursor) : List Char × Bool × Cursor :=
  plainRest inFlow indent (c.rest.length + 1) c [] false

/-! ### Blocks -/

/-- Which line ends at the end of a block are kept. -/
inductive Chomping
  | clip
  | strip
  | keep
  deriving DecidableEq

def chomping? (ch : Option Char) : Option Chomping :=
  if ch == some '+' then some .keep
  else if ch == some '-' then some .strip
  else none

/-- The indentation that a header names: a digit other than zero. -/
def increment? (ch : Option Char) : Except Fault (Option Nat) :=
  match ch with
  | some d =>
    if d == '0' then .error .malformed
    else if '1' ≤ d && d ≤ '9' then .ok (some (d.toNat - 48))
    else .ok none
  | none => .ok none

/-- The header of a block: chomping and indentation in either order, and no more on the line than a
comment. -/
def header (c : Cursor) : Except Fault (Chomping × Option Nat × Cursor) := do
  let (chomp, increment, c) ←
    match chomping? c.peek with
    | some chomp => do
      let increment ← increment? (c.ahead 1)
      pure (chomp, increment, c.skip (if increment.isSome then 2 else 1))
    | none => do
      match ← increment? c.peek with
      | none => pure (Chomping.clip, none, c)
      | some n =>
        match chomping? (c.ahead 1) with
        | some chomp => pure (chomp, some n, c.skip 2)
        | none => pure (Chomping.clip, some n, c.skip 1)
  if !endsWord c.peek then .error .malformed
  else
    let c := c.skipBlanks.skipComment
    match c.peek, c.lineBreak? with
    | none, _ => return (chomp, increment, c)
    | _, some (_, c) => return (chomp, increment, c)
    | _, none => .error .malformed

/-- Empty lines in front of a block, with the largest column that their blanks reach. -/
def leading : (fuel : Nat) → (reach : Nat) → Cursor → List Char × Nat × Cursor
  | 0, reach, c => ([], reach, c)
  | fuel + 1, reach, c =>
    let c := c.skipBlanks
    let reach := max reach c.column
    match c.lineBreak? with
    | none => ([], reach, c)
    | some (ch, c) =>
      let (others, reach, c) := leading fuel reach c
      (ch :: others, reach, c)

/-- The cursor behind blanks, but not beyond a column. -/
def indentTo (indent : Nat) (c : Cursor) : Cursor :=
  c.skip (min (indent - c.column) (c.front (· == ' ')).length)

/-- Empty lines between the lines of a block. -/
def blockBreaks (indent : Nat) : (fuel : Nat) → Cursor → List Char × Cursor
  | 0, c => ([], c)
  | fuel + 1, c =>
    let c := indentTo indent c
    match c.lineBreak? with
    | none => ([], c)
    | some (ch, c) =>
      let (others, c) := blockBreaks indent fuel c
      (ch :: others, c)

/-- The lines of a block, with the line end of the last one and the empty lines behind it. -/
def blockLines (folded : Bool) (indent : Nat) :
    (fuel : Nat) → (breaks : List Char) → Cursor → List Char × Option Char × List Char × Cursor
  | 0, breaks, c => ([], none, breaks, c)
  | fuel + 1, breaks, c =>
    if c.column ≠ indent || c.peek.isNone then ([], none, breaks, c)
    else
      let flush := !c.peek.any isSpaceOrTab
      let line := c.front (!isBreak ·)
      let text := breaks ++ line
      let c := c.skip line.length
      match c.lineBreak? with
      | none => (text, none, [], c)
      | some (ch, c) =>
        let (breaks, c) := blockBreaks indent (c.rest.length + 1) c
        if c.column ≠ indent || c.peek.isNone then (text, some ch, breaks, c)
        else
          let joint :=
            if folded && ch == '\n' && flush && !c.peek.any isSpaceOrTab then
              if breaks.isEmpty then [' '] else []
            else [ch]
          let (more, last, breaks, c) := blockLines folded indent fuel breaks c
          (text ++ joint ++ more, last, breaks, c)

/-- A block scalar; the cursor stands at its mark, and the lines around it are indented by
`parent`. -/
def block (folded : Bool) (parent : Int) (c : Cursor) : Except Fault (List Char × Cursor) := do
  let (chomp, increment, c) ← header c.step
  let least := (max 1 (parent + 1)).toNat
  let fuel := c.rest.length + 1
  let (indent, breaks, c) :=
    match increment with
    | none =>
      let (breaks, reach, c) := leading fuel 0 c
      (max least reach, breaks, c)
    | some n =>
      let indent := least + n - 1
      let (breaks, c) := blockBreaks indent fuel c
      (indent, breaks, c)
  let (text, last, breaks, c) := blockLines folded indent fuel breaks c
  let tail :=
    match chomp with
    | .strip => []
    | .clip => last.toList
    | .keep => last.toList ++ breaks
  return (text ++ tail, c)

end MessageBus.Yaml.Scalar
