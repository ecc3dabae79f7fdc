import MessageBus.Yaml.Tag
import MessageBus.Yaml.Token
/-!
The nodes of a YAML document. Every anchor is defined once, and an alias stands for the node of an
anchor before it.
-/
namespace MessageBus.Yaml

inductive Node
  | scalar (tag : Tag) (text : String)
  | sequence (tag : Tag) (items : List Node)
  | mapping (tag : Tag) (entries : List (Node × Node))

def Node.tag : Node → Tag
  | .scalar tag _ | .sequence tag _ | .mapping tag _ => tag

/-- What is known while nodes are read: the tokens to come, the anchors with their nodes once these
are complete, and what the handles of tags stand for. -/
structure Parse where
  tokens : List Token
  anchors : List (String × Option Node)
  handles : List (String × String)

namespace Parse

/-- Handles that every document knows. -/
def standardHandles : List (String × String) := [("!", "!"), ("!!", Tag.base)]

/-- The fault that stops reading here. -/
def fault (p : Parse) : Fault :=
  match p.tokens with
  | .broken fault :: _ => fault
  | _ => .malformed

def next (p : Parse) : Parse := { p with tokens := p.tokens.tail }

def peek (p : Parse) : Option Token := p.tokens.head?

/-- The next token is one of some. -/
def isAt (p : Parse) (ts : List Token) : Bool :=
  p.peek.any ts.contains

/-- Takes a token that has to stand here. -/
def expect (p : Parse) (t : Token) : Except Fault Parse :=
  if p.peek == some t then .ok p.next else .error p.fault

def emptyScalar : Node := .scalar .null ""

def takeAnchor (p : Parse) : Option String × Parse :=
  match p.tokens with
  | .anchor name :: rest => (some name, { p with tokens := rest })
  | _ => (none, p)

/-- The full name of a tag at the front. -/
def takeTag (p : Parse) : Except Fault (Option String × Parse) :=
  match p.tokens with
  | .tag none suffix :: rest => .ok (some suffix, { p with tokens := rest })
  | .tag (some handle) suffix :: rest =>
    match p.handles.lookup handle with
    | some resolved => .ok (some (resolved ++ suffix), { p with tokens := rest })
    | none => .error .malformed
  | _ => .ok (none, p)

/-- An anchor and a tag in front of a node, in either order. -/
def properties (p : Parse) : Except Fault (Option String × Option String × Parse) := do
  let (anchor, p) := p.takeAnchor
  let (tag, p) ← p.takeTag
  let (anchor, p) := if anchor.isSome then (anchor, p) else p.takeAnchor
  return (anchor, tag, p)

/-- The type of a collection with a tag or none. -/
def collectionTag (tag : Option String) (standard : Tag) : Tag :=
  match tag with
  | none | some "!" => standard
  | some name => .ofName name

/-- The type of a scalar with a tag or none. -/
def scalarTag (tag : Option String) (plain : Bool) (text : String) : Tag :=
  match tag with
  | none => if plain then .ofText text else .text
  | some "!" => .ofText text
  | some name => .ofName name

/-- Marks an anchor as begun. -/
def begin (p : Parse) (anchor : Option String) : Except Fault Parse :=
  match anchor with
  | none => .ok p
  | some name =>
    if (p.anchors.lookup name).isSome then .error .malformed
    else .ok { p with anchors := (name, none) :: p.anchors }

/-- Gives an anchor its node. -/
def close (p : Parse) (anchor : Option String) (n : Node) : Parse :=
  match anchor with
  | none => p
  | some name => { p with anchors := (name, some n) :: p.anchors }

mutual
/-- A node. Block collections may begin where `block` says so; items of a sequence that is not
indented may begin where `flush` does. -/
def node (block flush : Bool) : (fuel : Nat) → Parse → Except Fault (Node × Parse)
  | 0, _ => .error .malformed
  | fuel + 1, p =>
    match p.tokens with
    | .reference name :: rest =>
      match p.anchors.lookup name with
      | some (some n) => .ok (n, { p with tokens := rest })
      | _ => .error .malformed
    | _ => do
      let (anchor, tag, p) ← p.properties
      let seqTag := collectionTag tag .sequence
      let mapTag := collectionTag tag .mapping
      match p.tokens with
      | .scalar text plain :: rest => do
        let p ← { p with tokens := rest }.begin anchor
        let n := Node.scalar (scalarTag tag plain text) text
        return (n, p.close anchor n)
      | .flowSequenceStart :: rest => do
        let p ← { p with tokens := rest }.begin anchor
        let (items, p) ← flowItems true fuel p
        return (.sequence seqTag items, p.close anchor (.sequence seqTag items))
      | .flowMappingStart :: rest => do
        let p ← { p with tokens := rest }.begin anchor
        let (entries, p) ← flowEntries true fuel p
        return (.mapping mapTag entries, p.close anchor (.mapping mapTag entries))
      | t :: rest =>
        if t == .blockEntry && flush then do
          let p ← p.begin anchor
          let (items, p) ← flushItems fuel p
          return (.sequence seqTag items, p.close anchor (.sequence seqTag items))
        else if t == .blockSequenceStart && block then do
          let p ← { p with tokens := rest }.begin anchor
          let (items, p) ← blockItems fuel p
          return (.sequence seqTag items, p.close anchor (.sequence seqTag items))
        else if t == .blockMappingStart && block then do
          let p ← { p with tokens := rest }.begin anchor
          let (entries, p) ← blockEntries fuel p
          return (.mapping mapTag entries, p.close anchor (.mapping mapTag entries))
        else if anchor.isSome || tag.isSome then do
          let p ← p.begin anchor
          let n := Node.scalar (scalarTag tag true "") ""
          return (n, p.close anchor n)
        else .error p.fault
      | [] => .error .malformed

/-- A node, or the empty scalar where one of some tokens follows. -/
def nodeUnless (ts : List Token) (block flush : Bool) : (fuel : Nat) → Parse →
    Except Fault (Node × Parse)
  | 0, _ => .error .malformed
  | fuel + 1, p => if p.isAt ts then .ok (emptyScalar, p) else node block flush fuel p

/-- A value behind its mark, or the empty scalar where no mark stands. -/
def valueUnless (ts : List Token) (block flush : Bool) : (fuel : Nat) → Parse →
    Except Fault (Node × Parse)
  | 0, _ => .error .malformed
  | fuel + 1, p =>
    if p.isAt [.value] then nodeUnless ts block flush fuel p.next else .ok (emptyScalar, p)

/-- The items of an indented sequence. -/
def blockItems : (fuel : Nat) → Parse → Except Fault (List Node × Parse)
  | 0, _ => .error .malformed
  | fuel + 1, p =>
    if p.isAt [.blockEntry] then do
      let (n, p) ← nodeUnless [.blockEntry, .blockEnd] true false fuel p.next
      let (ns, p) ← blockItems fuel p
      return (n :: ns, p)
    else do
      return ([], ← p.expect .blockEnd)

/-- The items of a sequence that is not indented. -/
def flushItems : (fuel : Nat) → Parse → Except Fault (List Node × Parse)
  | 0, _ => .error .malformed
  | fuel + 1, p =>
    if p.isAt [.blockEntry] then do
      let (n, p) ← nodeUnless [.blockEntry, .key, .value, .blockEnd] true false fuel p.next
      let (ns, p) ← flushItems fuel p
      return (n :: ns, p)
    else .ok ([], p)

/-- The entries of a block mapping. -/
def blockEntries : (fuel : Nat) → Parse → Except Fault (List (Node × Node) × Parse)
  | 0, _ => .error .malformed
  | fuel + 1, p =>
    if p.isAt [.key] then do
      let (k, p) ← nodeUnless [.key, .value, .blockEnd] true true fuel p.next
      let (v, p) ← valueUnless [.key, .value, .blockEnd] true true fuel p
      let (es, p) ← blockEntries fuel p
      return ((k, v) :: es, p)
    else do
      return ([], ← p.expect .blockEnd)

/-- The items of a sequence in brackets. A key among them makes a mapping of one entry. -/
def flowItems (first : Bool) : (fuel : Nat) → Parse → Except Fault (List Node × Parse)
  | 0, _ => .error .malformed
  | fuel + 1, p =>
    if p.isAt [.flowSequenceEnd] then .ok ([], p.next)
    else do
      let p ← if first then pure p else p.expect .flowEntry
      if p.isAt [.key] then do
        let (k, p) ← nodeUnless [.value, .flowEntry, .flowSequenceEnd] false false fuel p.next
        let (v, p) ← valueUnless [.flowEntry, .flowSequenceEnd] false false fuel p
        let (ns, p) ← flowItems false fuel p
        return (.mapping .mapping [(k, v)] :: ns, p)
      else if p.isAt [.flowSequenceEnd] then return ([], p.next)
      else do
        let (n, p) ← node false false fuel p
        let (ns, p) ← flowItems false fuel p
        return (n :: ns, p)

/-- The entries of a mapping in braces. A node without a mark is a key without a value. -/
def flowEntries (first : Bool) : (fuel : Nat) → Parse → Except Fault (List (Node × Node) × Parse)
  | 0, _ => .error .malformed
  | fuel + 1, p =>
    if p.isAt [.flowMappingEnd] then .ok ([], p.next)
    else do
      let p ← if first then pure p else p.expect .flowEntry
      if p.isAt [.key] then do
        let (k, p) ← nodeUnless [.value, .flowEntry, .flowMappingEnd] false false fuel p.next
        let (v, p) ← valueUnless [.flowEntry, .flowMappingEnd] false false fuel p
        let (es, p) ← flowEntries false fuel p
        return ((k, v) :: es, p)
      else if p.isAt [.flowMappingEnd] then return ([], p.next)
      else do
        let (k, p) ← node false false fuel p
        let (es, p) ← flowEntries false fuel p
        return ((k, emptyScalar) :: es, p)
end

/-- Takes the directives in front of a document. -/
def directives (versioned : Bool) (handles : List (String × String)) :
    List Token → Except Fault (List (String × String) × List Token)
  | .directive (.version major) :: rest =>
    if versioned || major ≠ 1 then .error .malformed else directives true handles rest
  | .directive (.handle name resolved) :: rest =>
    if (handles.lookup name).isSome then .error .malformed
    else directives versioned ((name, resolved) :: handles) rest
  | .directive .other :: rest => directives versioned handles rest
  | ts => .ok (handles ++ standardHandles, ts)

/-- The only document of some tokens, if they have one. -/
def document (ts : List Token) : Except Fault (Option Node) := do
  let fuel := 6 * ts.length + 16
  let finish (n : Node) (p : Parse) : Except Fault (Option Node) :=
    match p.tokens.dropWhile (· == .documentEnd) with
    | .streamEnd :: _ => .ok (some n)
    | ts => .error { p with tokens := ts }.fault
  let explicit (ts : List Token) : Except Fault (Option Node) := do
    let (handles, ts) ← directives false [] ts
    let p ← (⟨ts, [], handles⟩ : Parse).expect .documentStart
    let content : List Token := [.documentStart, .documentEnd, .streamEnd]
    let isDirective : Bool :=
      match p.tokens with
      | .directive _ :: _ => true
      | _ => false
    if isDirective then finish emptyScalar p
    else do
      let (n, p) ← nodeUnless content true false fuel p
      finish n p
  match ts with
  | .streamEnd :: _ => return none
  | .directive _ :: _ | .documentStart :: _ => explicit ts
  | ts => do
    let (n, p) ← node true false fuel ⟨ts, [], standardHandles⟩
    finish n p

end Parse
end MessageBus.Yaml
