import MessageBus.Log.Sink
import MessageBus.Template.Slots
/-!
Records that are made from a template and arguments. A library's record has a number for its level and a
template with percent signs; the program's own records have a template with slots.
-/
namespace MessageBus.Log

/-- Why the program's own record is not made. -/
inductive EntryFault
  | unknownLevel (name : String)
  | negativeLevel (number : Int)
  | template (fault : Template.Slots.Fault)

def EntryFault.message : EntryFault → String
  | .unknownLevel name => "Level '" ++ name ++ "' does not exist"
  | .negativeLevel number =>
    "Invalid level value, it should be a positive integer, not: " ++ toString number
  | .template fault => fault.message

/-- The level that is written for a library's number. -/
def libraryLevel (number : Int) : Level :=
  ([Level.debug, .info, .warning, .error, .critical].find? (·.severity == number)).getD
    (.numbered number)

/-- Is the part the watched library or inside it? Its records are kept under the threshold before they are
made, too. -/
def isWatched (part : String) : Bool :=
  part = watchedLibrary || (watchedLibrary ++ ".").toList.isPrefixOf part.toList

/-- The message of a library's record. A single map that is not empty is looked up by keys. -/
def libraryMessage (template : String) (arguments : List Value) : Except Template.Fault String :=
  match arguments with
  | [] => .ok template
  | [.map (e :: es)] => Template.fillFromMap template (e :: es)
  | arguments => Template.fill template arguments

/-- The record of a library under a threshold, if it is made. -/
def ofLibrary (least : Level) (part : String) (number : Int) (template : String)
    (arguments : List Value) : Except Template.Fault (Option Record) :=
  if number ≤ 0 || (isWatched part && number < least.severity) then .ok none
  else
    (libraryMessage template arguments).map fun message =>
      some ⟨libraryLevel number, if part = "" then "root" else part, message⟩

/-- The level that a name or a number stands for. -/
def level (wanted : String ⊕ Int) : Except EntryFault Level :=
  match wanted with
  | .inl name =>
    match Level.ofName? name with
    | some level => .ok level
    | none => .error (.unknownLevel name)
  | .inr number => if number < 0 then .error (.negativeLevel number) else .ok (.numbered number)

/-- The program's own record under a threshold, if it is made. -/
def ofProgram (least : Level) (part : String) (wanted : String ⊕ Int) (template : String)
    (arguments : List Value) : Except EntryFault (Option Record) := do
  let level ← level wanted
  if level.severity < least.severity then return none
  else if arguments.isEmpty then return some ⟨level, part, template⟩
  else
    let message ← (Template.Slots.fill template arguments).mapError .template
    return some ⟨level, part, message⟩

end MessageBus.Log
