import MessageBus.Loop.Round
/-!
A loop with tags: a callback leaves its tag and may ask for a stop, or it raises a signal; a job waits
for ever and leaves its tag when it is cancelled.
-/
namespace MessageBus.Loop.Tagged

inductive Callback
  | leave (tag : String) (stops : Bool)
  | raise (signal : Signal)

/-- A job that waits at a gate which nothing opens. -/
structure Waiting where
  tag : String

/-- The tag that is left when a job ends. -/
def endTag (tag : String) : String := "end " ++ tag

def advance (j : Waiting) (cancelled : Bool) (seen : List String) :
    Turn Waiting (Option V) × List (Request Callback) × List String :=
  if cancelled then (.cancelled, [], seen ++ [endTag j.tag])
  else (.waits 0 j, [], seen)

def call : Callback → List String → List (Request Callback) × List String
  | .leave tag stops, seen => (if stops then [.stop] else [], seen ++ [tag])
  | .raise signal, seen => ([.deliver signal], seen)

/-- How tagged jobs and callbacks go on; the state is what was seen. -/
def behaviour (V : Type) : Behaviour (List String) Waiting Callback (Option V) :=
  ⟨advance, call, none⟩

end MessageBus.Loop.Tagged
