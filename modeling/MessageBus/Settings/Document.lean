import MessageBus.Files
import MessageBus.Settings
import MessageBus.Yaml.Document
/-!
The document that settings are read from: a file whose text is one YAML map.
-/
namespace MessageBus.Settings

/-- Why a path gives no entries. -/
inductive ReadFault
  | nullCharacter
  | system (error : SystemError)
  | encoding (fault : Text.Utf8.Fault)
  /-- The text is no document. -/
  | malformed (text : List Char)
  | document (fault : Yaml.Fault)
  | settings (fault : Fault)

/-- The fault of a text. -/
def ReadFault.ofDocument (text : List Char) : Yaml.Fault → ReadFault
  | .malformed => .malformed text
  | fault => .document fault

/-- The value that a file holds, if it holds one. -/
def readValue (files : Files) (path : String) : Except ReadFault (Option Value) := do
  if Path.hasNull path then throw .nullCharacter
  let content ← (files.read (.ofText path)).mapError ReadFault.system
  let text ← (Files.decode content).mapError ReadFault.encoding
  (Yaml.load text).mapError (ReadFault.ofDocument text)

/-- The entries in the file at a path. -/
def readEntries (files : Files) (path : String) : Except ReadFault (List (Value × Value)) := do
  (entriesOf (← readValue files path)).mapError ReadFault.settings

/-- What is logged when reading failed, where the reader says something of a text that is no document: only
that is worth a record. -/
def ReadFault.records (flaw : List Char → String) (path : String) : ReadFault → List Log.Record
  | .malformed text =>
    [⟨.debug, "busd.config.loader", "Failed to parse config " ++ Path.normal path ++ ": " ++ flaw text⟩]
  | _ => []

end MessageBus.Settings
