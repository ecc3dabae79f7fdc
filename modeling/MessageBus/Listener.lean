import MessageBus.Failure
import MessageBus.World
/-!
Listeners: an address is bound, either to a socket path, which then stands in the file tree unless its name
is abstract, or to a port of a host. A socket that was left at a path is removed first; what else stands
there keeps the path.
-/
namespace MessageBus

/-- A bound address, with the path of its socket if it has one. -/
structure Listener where
  address : String
  socket : Option String
  deriving DecidableEq

namespace Listener

def atPath (path : String) : Listener :=
  ⟨(Address.mk .unix [("path", path)]).format, some path⟩

def atPort (host : String) (port : Nat) : Listener :=
  ⟨(Address.mk .tcp [("host", host), ("port", toString port)]).format, none⟩

/-- The socket path of an address: the one it names, or a fresh name in the directory it names. -/
def socketPath (a : Address) (w : World) : String × World :=
  match a.given? "path" with
  | some path => (path, w)
  | none =>
    let (name, w) := w.freshName
    (Path.join ((a.given? "tmpdir").getD Address.fallbackDirectory) ("busd-" ++ name), w)

/-! ### Socket paths -/

/-- What is logged where it cannot be told whether a socket was left at a path. -/
def complaint (path : String) (e : SystemError) : Log.Record :=
  ⟨.error, Log.watchedLibrary,
    "Unable to check or remove stale UNIX socket " ++ Text.quoted path ++ ": " ++ e.literal⟩

/-- Clears a path of a socket that was left there. An error of the system but that nothing is there is
logged, and no more comes of it. -/
def sweep (path : String) (w : World) : Except Failure World :=
  match w.platform.sockets with
  | .standIn => .ok w
  | .native _ =>
    if Path.isAbstract path then .ok w
    else if Path.hasNull path then .error .nullCharacter
    else
      match w.files.sweep path with
      | .ok files => .ok { w with files := files }
      | .error e =>
        .ok (if !e.isNotFound && w.collecting then w.record (complaint path e) else w)

/-- The longest abstract name of a socket, in bytes. -/
def longestAbstractName : Nat := 108

/-- Makes the socket at a path. One with an abstract name has no place in the file tree; a stand-in is a
plain file, which replaces what stands there. -/
def makeSocket (path : String) (w : World) : Except Failure World :=
  let made : Except Failure Files :=
    match w.platform.sockets with
    | .standIn =>
      if Path.hasNull path then .error .nullCharacter
      else (w.files.write path []).mapError .system
    | .native _ =>
      if Path.isAbstract path then
        if longestAbstractName < path.utf8ByteSize then .error (.system .socketPathTooLong)
        else .ok w.files
      else (w.files.makeSocket path).mapError .system
  made.map fun files => { w with files := files }

def bindPath (path : String) (w : World) : Except Failure Listener × World :=
  match sweep path w with
  | .error f => (.error f, w)
  | .ok w =>
    match w.nextListening with
    | (some e, w) => (.error (.system e), w)
    | (none, w) =>
      match makeSocket path w with
      | .error f => (.error f, w)
      | .ok w => (.ok (atPath path), w)

/-! ### Hosts -/

/-- The longest label of a host, in characters. -/
def longestLabel : Nat := 63

/-- What keeps a host of ASCII characters from being looked up: a label that is empty or too long. The
last one may be empty. -/
def labelFault? (host : String) : Option String :=
  let labels := (Text.split '.' host.toList).map List.length
  if labels.dropLast.any fun n => n = 0 || longestLabel < n then some "label empty or too long"
  else if labels.getLast?.any (longestLabel < ·) then some "label too long"
  else none

/-- What the system's own sockets find wrong with a host before it is looked up. A zone behind a percent
sign keeps the host from being taken for a number with a null character in it. -/
def lookupFault? (foreign : String → Option String) (host : String) : Option String :=
  if Path.hasNull host && !host.toList.contains '%' then some "embedded null character"
  else if host.toList.all (·.toNat < 0x80) then
    (labelFault? host).map fun words => "encoding with 'idna' codec failed (UnicodeError: " ++ words ++ ")"
  else foreign host

/-- What is wrong with a host on a platform. A stand-in takes any. -/
def hostFault? (host : String) : Sockets → Option String
  | .standIn => none
  | .native foreign => lookupFault? foreign host

def bindPort (host : String) (asked : Nat) (w : World) : Except Failure Listener × World :=
  match hostFault? host w.platform.sockets with
  | some words => (.error (.host words), w)
  | none =>
    match w.nextListening with
    | (some e, w) => (.error (.system e), w)
    | (none, w) =>
      let (port, w) := w.port asked
      (.ok (atPort host port), w)

/-- The port that an address asks for: any if it names none. -/
def askedPort (a : Address) : Except Number.Fault Nat :=
  match a.given? "port" with
  | some port => (Number.readInteger 10 port).map Int.toNat
  | none => .ok 0

/-- Binds an address. -/
def bind (a : Address) (w : World) : Except Failure Listener × World :=
  let w := w.attempt a
  match a.transport with
  | .unix =>
    let (path, w) := socketPath a w
    bindPath path w
  | .tcp =>
    match askedPort a with
    | .error fault => (.error (.number fault), w)
    | .ok asked => bindPort ((a.given? "host").getD Address.fallbackHost) asked w

end Listener
end MessageBus
