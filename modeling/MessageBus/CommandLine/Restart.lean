import MessageBus.CommandLine.Options
/-!
The command line of a restart. It has the arguments of the run before, without those that ask for the
announcement if its descriptor was closed after the first one.
-/
namespace MessageBus.CommandLine

/-- The token would not be taken as the value of the flag before it: it begins with a dash and is no
negative whole number. -/
def looksLikeFlag (text : String) : Bool :=
  match text.toList with
  | '-' :: rest => !isNumeral rest
  | _ => false

/-- The arguments without the requests for an announcement and their values. -/
def withoutAnnouncement : List String → List String
  | [] => []
  | text :: rest =>
    if "--print-address=".toList.isPrefixOf text.toList then withoutAnnouncement rest
    else if text = "--print-address" then
      match rest with
      | [] => []
      | value :: after =>
        if looksLikeFlag value then withoutAnnouncement (value :: after)
        else withoutAnnouncement after
    else text :: withoutAnnouncement rest

/-- The first items of a list up to an index; one below zero counts from the end. -/
def upTo (xs : List α) (index : Int) : List α :=
  if 0 ≤ index then xs.take index.toNat else xs.take (xs.length + index).toNat

/-- The part of a whole command line that stands before the arguments of the program, where `visible`
is the program's name with its arguments. -/
def launcher (whole visible : List String) : List String :=
  upTo whole (whole.length - visible.length + 1)

/-- The arguments that the next run gets. -/
def restartArguments (arguments : List String) (target : Option Nat) : List String :=
  if target.any (lastStandardStream < ·) then withoutAnnouncement arguments else arguments

/-- The whole command line of the next run. -/
def restartCommand (arguments : List String) (target : Option Nat) (whole visible : List String) :
    List String :=
  launcher whole visible ++ restartArguments arguments target

end MessageBus.CommandLine
