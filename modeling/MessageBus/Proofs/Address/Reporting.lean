import MessageBus.Address
import MessageBus.Proofs.Report.Filing
/-!
What is reported about a text that is no listen address. An open target takes the sentence about the
first fault; only a port of digits that cannot be read breaks off.
-/
namespace MessageBus.Address
variable {target : Report.Target} {text : String} {fault : Fault}

/-- What is said about a fault of a text. -/
def Fault.sentence (text : String) : Fault → String
  | .noTransport => "Address does not contain a transport: \"" ++ text ++ "\""
  | .unknownTransport name => "Unknown address transport \"" ++ name ++ "\" in \"" ++ text ++ "\""
  | .malformedEntry entry => "Malformed address entry \"" ++ entry ++ "\" in \"" ++ text ++ "\""
  | .notOnePath => "unix address needs exactly one of path= or tmpdir=: \"" ++ text ++ "\""
  | .invalidPort port => "Invalid port \"" ++ port ++ "\" in \"" ++ text ++ "\""
  | .unreadablePort fault => fault.message

/-- The number of a port that is made of digits but cannot be read. -/
def Fault.unreadable? : Fault → Option Number.Fault
  | .unreadablePort fault => some fault
  | _ => none

theorem file_wording (ht : target.Open) {wording : Report.Wording}
    (hw : fault.wording text = .ok wording) :
    target.file .badAddress wording =
      .ok (target.taking ⟨.badAddress, fault.sentence text, true⟩) := by
  cases fault <;> cases hw
  case noTransport => exact Report.file_quoted "Address does not contain a transport:" ht (by decide) text
  case unknownTransport name =>
    exact Report.file_quoted_in "Unknown address transport" ht (by decide) name text
  case malformedEntry entry =>
    exact Report.file_quoted_in "Malformed address entry" ht (by decide) entry text
  case notOnePath =>
    exact Report.file_quoted "unix address needs exactly one of path= or tmpdir=:" ht (by decide) text
  case invalidPort port => exact Report.file_quoted_in "Invalid port" ht (by decide) port text

/-- A fault is reported, unless it is a port that cannot be read. -/
theorem parseInto_fault (ht : target.Open) (hp : parse text = .error fault) :
    parseInto target text =
      match fault.unreadable? with
      | some f => .error (.port f)
      | none => .ok (none, target.taking ⟨.badAddress, fault.sentence text, true⟩) := by
  cases hw : fault.wording text with
  | error f =>
    have hf : fault = .unreadablePort f := by
      cases fault <;> simp [Fault.wording] at hw
      rw [hw]
    subst hf
    simp [parseInto, hp, Fault.wording, Fault.unreadable?]
  | ok wording =>
    have hf : fault.unreadable? = none := by
      cases fault <;> simp [Fault.wording] at hw <;> rfl
    rw [parseInto, hp, hf]
    simp [hw, file_wording ht hw]

end MessageBus.Address
