import MessageBus.Environment
import MessageBus.Log
/-!
Where records are written: one line each, if they are severe enough. The least severe level that is
written comes from the environment.
-/
namespace MessageBus.Log

/-- The environment variable that names the threshold. -/
def levelVariable : String := "LOG_LEVEL"

/-- The levels that can be a threshold. -/
def thresholds : List Level := [.debug, .info, .warning, .error]

/-- Capital letters for the small ones of ASCII, and for the small letter without a dot, whose capital
is in ASCII. -/
def capital (c : Char) : Char := if c = 'ı' then 'I' else c.toUpper

/-- The threshold that an environment sets. -/
def threshold (e : Environment) : Level :=
  let wanted := String.ofList ((e.get levelVariable).toList.map capital)
  (thresholds.find? (·.name == wanted)).getD .info

/-- Is the record written under a threshold? -/
def Record.passes (least : Level) (r : Record) : Bool := least.severity ≤ r.level.severity

/-- A text with blanks behind it up to a width. -/
def padded (width : Nat) (s : String) : String :=
  s ++ String.ofList (List.replicate (width - s.length) ' ')

/-- The line of a record that was made at some time of day. -/
def Record.line (clock : String) (r : Record) : String :=
  clock ++ " | " ++ padded 8 r.level.name ++ " | " ++ r.part ++ " | " ++ r.message ++ "\n"

/-- What is written for records. -/
def written (clock : String) (least : Level) (records : List Record) : String :=
  String.join ((records.filter (·.passes least)).map (·.line clock))

end MessageBus.Log
