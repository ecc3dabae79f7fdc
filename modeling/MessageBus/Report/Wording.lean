import MessageBus.Report.Kind
import MessageBus.Template
/-!
The wording of a report, and what can go wrong when a report is filed: the target is used against its
rules, or the wording's template cannot be filled.
-/
namespace MessageBus.Report

/-- The message of a report: the description of its kind, or a template with its arguments. -/
inductive Wording
  | standard
  | filled (template : String) (arguments : List Value)

/-- The text of a wording for some kind. -/
def Wording.text (kind : Kind) : Wording → Except Template.Fault String
  | .standard => .ok kind.description
  | .filled template arguments => Template.fill template arguments

/-- A use of a report or of a message buffer that its rules forbid. -/
inductive Misuse
  | kindRequired
  | comparisonRequired
  | alreadySet (kind : Kind)
  | destinationSet (kind : Kind)
  | copyOfSet
  | usedAfterRelease
  | releasedTwice
  deriving DecidableEq

def Misuse.message : Misuse → String
  | .kindRequired => "an error kind is required"
  | .comparisonRequired => "has_kind() needs a kind to compare against"
  | .alreadySet kind => "error already set to " ++ kind.name ++ "; clear or move it first"
  | .destinationSet kind => "destination error already set to " ++ kind.name
  | .copyOfSet => "cannot copy a set error; use move_into()"
  | .usedAfterRelease => "message used after release"
  | .releasedTwice => "message released twice"

/-- Why a report was not filed. -/
inductive Fault
  | misuse (m : Misuse)
  | template (f : Template.Fault)
  | exhausted
  deriving DecidableEq

def Fault.message : Fault → String
  | .misuse m => m.message
  | .template f => f.message
  | .exhausted => ""

end MessageBus.Report
