/-!
The environment of the bus: variables with their values.
-/
namespace MessageBus

structure Environment where
  bindings : List (String × String)

namespace Environment

def get? (e : Environment) (name : String) : Option String :=
  e.bindings.lookup name

/-- The value of a variable, empty if it is not set. -/
def get (e : Environment) (name : String) : String :=
  (e.get? name).getD ""

def has (e : Environment) (name : String) : Bool :=
  (e.get? name).isSome

def unset (e : Environment) (name : String) : Environment :=
  ⟨e.bindings.filter (·.1 != name)⟩

def set (e : Environment) (name value : String) : Environment :=
  ⟨(name, value) :: (e.unset name).bindings⟩

end Environment
end MessageBus
