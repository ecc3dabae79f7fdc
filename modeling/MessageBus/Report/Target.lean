import MessageBus.Report.Wording
/-!
Where a failure is reported. A caller gives no target, one that is clear, or one that already holds a
report; only a clear one takes a report. The one that an exhausted allocator is to give the memory to takes
no other report than that there is none. Filing into no target does nothing at all.
-/
namespace MessageBus

/-- A report: its kind, its text, and whether the text is a buffer of its own. -/
structure Report where
  kind : Report.Kind
  text : String
  owned : Bool
  deriving DecidableEq

namespace Report

inductive Target
  | absent
  | clear
  /-- A clear one, whose allocator has no memory left. -/
  | exhausted
  | holding (report : Report)
  deriving DecidableEq

/-- The report of a failure to get memory for a message. -/
def noMemory : Report :=
  ⟨.noMemory, Kind.noMemory.description, false⟩

/-- The report with a wording. If there is no memory for its text, that is reported instead. -/
def ofWording (kind : Kind) (w : Wording) : Except Template.Fault Report :=
  match w.text kind with
  | .ok text => .ok ⟨kind, text, true⟩
  | .error .outOfMemory => .ok noMemory
  | .error fault => .error fault

/-- The target after a report was filed. -/
def Target.file (kind : Kind) (w : Wording) : Target → Except Fault Target
  | .absent => .ok .absent
  | .holding r => .error (.misuse (.alreadySet r.kind))
  | .clear =>
    match ofWording kind w with
    | .ok r => .ok (.holding r)
    | .error fault => .error (.template fault)
  | .exhausted =>
    match ofWording kind w with
    | .ok _ => .ok (.holding noMemory)
    | .error fault => .error (.template fault)

def Target.report? : Target → Option Report
  | .holding r => some r
  | _ => none

theorem file_holding (kind : Kind) (w : Wording) (r : Report) :
    (Target.holding r).file kind w = .error (.misuse (.alreadySet r.kind)) := rfl

end Report
end MessageBus
