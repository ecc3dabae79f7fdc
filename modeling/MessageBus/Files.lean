import MessageBus.SystemError
import MessageBus.Text.Cut
import MessageBus.Text.Lines
import MessageBus.Text.Utf8
/-!
The file tree that the bus works in: directories, files and sockets under the root, one of the
directories being the working directory. Paths are resolved from left to right; every part but the last has to be
a directory. Main statement: what is written to a path is what is then found there.
-/
namespace MessageBus

/-- A path as it is written, cut at its slashes. -/
structure Path where
  absolute : Bool
  parts : List String
  deriving DecidableEq

namespace Path

/-- The parts that count: neither empty nor a single point. -/
def counts (part : List Char) : Bool := part ≠ [] && part ≠ ['.']

def ofText (text : String) : Path :=
  ⟨text.toList.head? == some '/', ((Text.split '/' text.toList).filter counts).map String.ofList⟩

/-- The text has a null character, so that it names nothing. -/
def hasNull (text : String) : Bool := text.toList.contains '\x00'

/-- The path in normal form. Exactly two slashes in front stay two. -/
def normal (text : String) : String :=
  let p := ofText text
  let front :=
    match text.toList with
    | '/' :: '/' :: '/' :: _ => "/"
    | '/' :: '/' :: _ => "//"
    | '/' :: _ => "/"
    | _ => ""
  let whole := front ++ String.intercalate "/" p.parts
  if whole = "" then "." else whole

/-- The number of bytes of the path, slashes between its parts counted. -/
def size (p : Path) : Nat :=
  p.parts.foldl (fun n part => n + part.utf8ByteSize + 1) 0 - (if p.absolute then 0 else 1)

/-- The path without its last part. -/
def parent (p : Path) : Path := { p with parts := p.parts.dropLast }

/-- The text ends with a slash or with a point, so that it can only name a directory. -/
def namesDirectory (text : String) : Bool :=
  match (Text.split '/' text.toList).getLast? with
  | some [] | some ['.'] | some ['.', '.'] => true
  | _ => false

/-- The text ends with a slash. -/
def endsWithSlash (text : String) : Bool :=
  text.toList.getLast? == some '/'

/-- The text names a socket outside the file tree: it begins with a null character. -/
def isAbstract (text : String) : Bool := text.toList.head? == some '\x00'

/-- The text without the slashes at its end. -/
def dropSlashes (text : String) : String :=
  String.ofList (text.toList.reverse.dropWhile (· == '/')).reverse

/-- A file's path under a directory's. -/
def join (directory name : String) : String :=
  if directory = "" || endsWithSlash directory then directory ++ name
  else directory ++ "/" ++ name

end Path

inductive FileNode
  | directory
  | file (content : List UInt8)
  | socket
  deriving DecidableEq

/-- A place in the tree: the names on the way from the root. -/
abbrev Place := List String

/-- The tree, by place. The root is always there. -/
structure Files where
  nodes : List (Place × FileNode)
  home : Place

namespace Files

/-- An empty working directory, beside the directory for temporary files. -/
def empty : Files := ⟨[(["work"], .directory), (["tmp"], .directory)], ["work"]⟩

def find? (f : Files) (p : Place) : Option FileNode :=
  if p = [] then some .directory else f.nodes.lookup p

def erase (f : Files) (p : Place) : Files :=
  { f with nodes := f.nodes.filter (·.1 != p) }

def put (f : Files) (p : Place) (n : FileNode) : Files :=
  { f with nodes := (p, n) :: (f.erase p).nodes }

/-- The longest name that a part of a path may have, in bytes. -/
def longestName : Nat := 255

/-- The longest path, in bytes. -/
def longestPath : Nat := 4095

/-- The node at a name in a directory. -/
def child (f : Files) (p : Place) (name : String) : Except SystemError (Option FileNode) :=
  if longestName < name.utf8ByteSize then .error .nameTooLong else .ok (f.find? (p ++ [name]))

/-- The directory that names lead to from a place. -/
def enter (f : Files) (p : Place) : List String → Except SystemError Place
  | [] => .ok p
  | name :: rest =>
    if name = ".." then enter f p.dropLast rest
    else do
      match ← f.child p name with
      | some .directory => enter f (p ++ [name]) rest
      | some _ => .error .notDirectory
      | none => .error .notFound

def start (f : Files) (p : Path) : Place := if p.absolute then [] else f.home

/-- Where a path leads whose text has so many bytes: the directory of its last part and that part, or
a directory alone if the path ends on the way. -/
def locate (f : Files) (size : Nat) (p : Path) : Except SystemError (Place × Option String) :=
  if longestPath < size then .error .nameTooLong
  else
    match p.parts.getLast? with
    | none => .ok (f.start p, none)
    | some ".." => do return (← f.enter (f.start p) p.parts, none)
    | some name => do return (← f.enter (f.start p) p.parts.dropLast, some name)

/-- What stands at a path. -/
def look (f : Files) (p : Path) : Except SystemError FileNode := do
  match ← f.locate p.size p with
  | (_, none) => return .directory
  | (d, some name) =>
    match ← f.child d name with
    | some n => return n
    | none => .error .notFound

/-- The content of the file at a path. -/
def read (f : Files) (p : Path) : Except SystemError (List UInt8) := do
  match ← f.look p with
  | .directory => .error .isDirectory
  | .file content => return content
  | .socket => .error .noDevice

/-- Writes the file at a path, a new one if there is none. -/
def write (f : Files) (text : String) (content : List UInt8) : Except SystemError Files :=
  if text = "" then .error .notFound
  else do
    match ← f.locate text.utf8ByteSize (.ofText text) with
    | (_, none) => .error .isDirectory
    | (d, some name) =>
      let whole := Path.dropSlashes text
      if Path.endsWithSlash text && !Path.namesDirectory whole then .error .isDirectory
      else
        match ← f.child d name with
        | some .directory => .error .isDirectory
        | found =>
          if Path.namesDirectory whole then
            .error (if found.isSome then .notDirectory else .notFound)
          else if found = some .socket then .error .noDevice
          else return f.put (d ++ [name]) (.file content)

/-- Makes the directory at a path, whose parent has to be there. -/
def makeDirectory (f : Files) (p : Path) : Except SystemError Files := do
  match ← f.locate p.size p with
  | (_, none) => .error .alreadyExists
  | (d, some name) =>
    match ← f.child d name with
    | some _ => .error .alreadyExists
    | none => return f.put (d ++ [name]) .directory

/-- Makes the directory at a path with all that are missing above it. It may be there already. The
tree after a failure has those that were made before it. -/
def makeDirectories (f : Files) : (fuel : Nat) → Path → Option SystemError × Files
  | 0, _ => (some .notFound, f)
  | fuel + 1, p =>
    match f.makeDirectory p with
    | .ok f => (none, f)
    | .error e =>
      if e.isNotFound then
        if p.parts.isEmpty then (some e, f)
        else
          match makeDirectories f fuel p.parent with
          | (some e, f) => (some e, f)
          | (none, f) => settle f p (f.makeDirectory p)
      else settle f p (.error e)
where
  /-- A directory that is there already is as good as a new one. -/
  settle (f : Files) (p : Path) : Except SystemError Files → Option SystemError × Files
    | .ok f => (none, f)
    | .error e =>
      match f.look p with
      | .ok .directory => (none, f)
      | _ => (some e, f)

/-- Removes the file or the socket at a path. -/
def remove (f : Files) (text : String) : Except SystemError Files :=
  if text = "" then .error .notFound
  else do
    match ← f.locate text.utf8ByteSize (.ofText text) with
    | (_, none) => .error .isDirectory
    | (d, some name) =>
      match ← f.child d name with
      | none => .error .notFound
      | some .directory => .error .isDirectory
      | some _ =>
        if Path.namesDirectory text then .error .notDirectory
        else return f.erase (d ++ [name])

/-- What stands at the path that a text writes. -/
def stat (f : Files) (text : String) : Except SystemError FileNode :=
  if text = "" then .error .notFound
  else do
    match ← f.locate text.utf8ByteSize (.ofText text) with
    | (_, none) => return .directory
    | (d, some name) =>
      match ← f.child d name with
      | none => .error .notFound
      | some .directory => return .directory
      | some node => if Path.namesDirectory text then .error .notDirectory else return node

/-- Removes a socket that was left at a path. What else stands there is let alone. -/
def sweep (f : Files) (text : String) : Except SystemError Files := do
  if (← f.stat text) = .socket then f.remove text else return f

/-- The longest path of a socket, in bytes. -/
def longestSocketPath : Nat := 107

/-- Makes a socket at a path where nothing stands. -/
def makeSocket (f : Files) (text : String) : Except SystemError Files :=
  if longestSocketPath < text.utf8ByteSize then .error .socketPathTooLong
  else do
    match ← f.locate text.utf8ByteSize (.ofText text) with
    | (_, none) => .error (.addressInUse text)
    | (d, some name) =>
      match ← f.child d name with
      | some .directory => .error (.addressInUse text)
      | some _ =>
        .error (if Path.namesDirectory (Path.dropSlashes text) then .notDirectory
          else .addressInUse text)
      | none =>
        if Path.namesDirectory text then .error .notFound
        else return f.put (d ++ [name]) .socket

/-- How many bytes of a file are taken at once. -/
def blockSize : Nat := 8192

/-- The bytes may be the beginning of a longer sequence: they end too early, or they are the first two
of a surrogate. -/
def isCutOff (flaw : Text.Utf8.Flaw) (bs : List UInt8) : Bool :=
  flaw == .unexpectedEnd ||
    match bs with
    | [first, second] => first == 0xED && 0xA0 ≤ second && second ≤ 0xBF
    | _ => false

/-- The first fault of some bytes that are taken in so many blocks. Places are counted from the
beginning of the block, or of a sequence that the end of the block before cut off. -/
def faultInBlocks (pending : List UInt8) : (blocks : Nat) → List UInt8 → Option Text.Utf8.Fault
  | 0, _ =>
    match Text.Utf8.decode pending with
    | .ok _ => none
    | .error fault => some fault
  | blocks + 1, bs =>
    let data := pending ++ bs.take blockSize
    match Text.Utf8.decode data with
    | .ok _ => faultInBlocks [] blocks (bs.drop blockSize)
    | .error fault =>
      if isCutOff fault.flaw (data.drop fault.start) then
        faultInBlocks (data.drop fault.start) blocks (bs.drop blockSize)
      else some fault

/-- The characters of a file. -/
def decode (content : List UInt8) : Except Text.Utf8.Fault (List Char) :=
  match Text.Utf8.decode content with
  | .ok cs => .ok (Text.plainLines cs)
  | .error fault =>
    .error ((faultInBlocks [] (content.length / blockSize + 1) content).getD fault)

/-- The nodes in the working directory, by their path from there. -/
def listing (f : Files) : List (String × FileNode) :=
  f.nodes.filterMap fun (p, n) =>
    if f.home.isPrefixOf p && p ≠ f.home then
      let path := String.intercalate "/" (p.drop f.home.length)
      some (match n with
        | .directory => (path ++ "/", n)
        | _ => (path, n))
    else none

theorem find?_put (f : Files) {p : Place} (n : FileNode) (hp : p ≠ []) :
    (f.put p n).find? p = some n := by
  simp [find?, put, hp]

theorem find?_erase (f : Files) {p : Place} (hp : p ≠ []) : (f.erase p).find? p = none := by
  simp [find?, erase, hp, List.lookup_eq_none_iff]
  exact fun _ _ _ h => Ne.symm h

end Files
end MessageBus
