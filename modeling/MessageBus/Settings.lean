import MessageBus.Log
import MessageBus.Text.Blank
import MessageBus.Value.Literal
/-!
The settings of a bus: its listen addresses, its type and the path of its pid file. They are the
entries of a configuration document; an address from the environment takes the place of the listen
entry. The entries are checked when settings are made.
-/
namespace MessageBus

/-- Settings: the entries of the document, and the address from the environment, empty if none. -/
structure Settings where
  entries : List (Value × Value)
  override : String

namespace Settings

/-- The environment variable that takes the place of the listen entry. -/
def listenVariable : String := "BUSD_LISTEN_ADDRESS"

/-- Why entries are no settings. -/
inductive Fault
  | notMapping (kind : String)
  | missingListen
  | invalidListen (kind : String)
  | invalidItem (index : Nat)
  | invalidPidFile
  deriving DecidableEq

def Fault.message : Fault → String
  | .notMapping _ => "top level must be a mapping"
  | .missingListen => "no listen address configured"
  | .invalidListen _ => "listen must be an address or a non-empty list of addresses"
  | .invalidItem index => "listen[" ++ toString index ++ "] must be a non-empty string"
  | .invalidPidFile => "pidfile must be a path"

def Fault.code : Fault → String
  | .notMapping _ => "invalid_structure"
  | .missingListen => "missing_listen"
  | .invalidListen _ => "invalid_listen"
  | .invalidItem _ => "invalid_listen_item"
  | .invalidPidFile => "invalid_pidfile"

def Fault.details : Fault → List (String × Value)
  | .notMapping kind | .invalidListen kind => [("type", .text kind)]
  | .invalidItem index => [("index", .int index)]
  | _ => []

/-- The value of an entry. -/
def entry? (s : Settings) (key : String) : Option Value :=
  Value.lookup? s.entries (.text key)

/-- The value that names the listen addresses. -/
def source (s : Settings) : Value :=
  if s.override ≠ "" then .text s.override else (s.entry? "listen").getD .null

/-- A text that is not blank. -/
def isFilled : Value → Bool
  | .text s => !Text.blank s
  | _ => false

/-- The place of the first item that is no text or blank. -/
def firstBad (items : List Value) : Option Nat :=
  items.findIdx? (!isFilled ·)

/-- What is wrong with the value that names the listen addresses. -/
def listenFault : Value → Option Fault
  | .null => some .missingListen
  | .text s => (firstBad [.text s]).map .invalidItem
  | .list [] => some (.invalidListen "list")
  | .list items => (firstBad items).map .invalidItem
  | v => some (.invalidListen v.kindName)

/-- What is wrong with the value that names the pid file. -/
def pidFileFault : Option Value → Option Fault
  | none | some .null | some (.text _) => none
  | some _ => some .invalidPidFile

/-- The first thing that is wrong with the settings. -/
def fault? (s : Settings) : Option Fault :=
  listenFault s.source <|> pidFileFault (s.entry? "pidfile")

/-- The listen addresses in order. The first one is the address that is announced. -/
def listen (s : Settings) : List String :=
  match s.source with
  | .text address => [Text.strip address]
  | .list items => items.map fun v => Text.strip v.plain
  | _ => []

/-- The type of the bus. -/
def busType (s : Settings) : Except Number.Fault String :=
  ((s.entry? "type").getD (.text "custom")).plain?

/-- The path of the pid file, if one is named that is not blank. -/
def pidFile? (s : Settings) : Option String :=
  match s.entry? "pidfile" with
  | some (.text path) => if Text.blank path then none else some (Text.strip path)
  | _ => none

/-- What is logged about settings. -/
def record (s : Settings) : Log.Record :=
  ⟨.debug, "busd.config.schema",
    "Config: " ++ toString s.listen.length ++ " listen address(es)"⟩

/-- Settings, whatever their entries, unless a listen address cannot be written. -/
def unchecked (entries : List (Value × Value)) (override : String) :
    Except Number.Fault Settings :=
  let s : Settings := ⟨entries, override⟩
  match s.source with
  | .list items => if Value.anyTooLong items then .error .tooLongToWrite else .ok s
  | _ => .ok s

/-- Settings with nothing wrong. -/
def make (entries : List (Value × Value)) (override : String) : Except Fault Settings :=
  let s : Settings := ⟨entries, override⟩
  match s.fault? with
  | some fault => .error fault
  | none => .ok s

/-- The entries of a document: none if it is empty, and only a map has any. -/
def entriesOf : Option Value → Except Fault (List (Value × Value))
  | none | some .null => .ok []
  | some (.map entries) => .ok entries
  | some v => .error (.notMapping v.kindName)

end Settings
end MessageBus
