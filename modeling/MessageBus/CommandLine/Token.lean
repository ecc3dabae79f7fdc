import MessageBus.Text.Cut
import MessageBus.Text.Digit
import MessageBus.Text.Lines
/-!
Tokens of a command line. Each token is classified by itself: it is a flag, perhaps with a value after
an equals sign, an argument for the flag before it, or unknown. Two dashes end the tokens: they and
all that follow are left over.
-/
namespace MessageBus.CommandLine

/-- The flags, each known by its long name. -/
inductive Flag
  | help
  | version
  | system
  | session
  | configFile
  | printAddress
  deriving DecidableEq

def Flag.name : Flag → String
  | .help => "help"
  | .version => "version"
  | .system => "system"
  | .session => "session"
  | .configFile => "config-file"
  | .printAddress => "print-address"

def Flag.all : List Flag := [.help, .version, .system, .session, .configFile, .printAddress]

/-- The flag as it is written on the command line. -/
def Flag.long (f : Flag) : List Char :=
  '-' :: '-' :: f.name.toList

/-- How messages call the flag: by all its names. -/
def Flag.title : Flag → String
  | .help => "--help/-h/-?"
  | f => "--" ++ f.name

/-- The letters that ask for help behind a single dash. -/
def isHelpLetter (c : Char) : Bool :=
  c == 'h' || c == '?'

/-- A token: a flag by its long name, a dash and a help letter, an argument, or anything else. What
stands behind an equals sign, or behind a help letter, comes with the flag. -/
inductive Token
  | flag (f : Flag) (value : Option String)
  | letter (rest : Option String)
  | argument (text : String)
  | unknown (text : String)
  | leftOver (texts : List String)
  deriving DecidableEq

/-- The flag whose long name this is. -/
def flagOf? (cs : List Char) : Option Flag :=
  Flag.all.find? fun f => f.long == cs

def isDecimalDigit (c : Char) : Bool :=
  (Text.decimalValue? c).isSome

/-- One digit or more, of any script. -/
def isNumeral (cs : List Char) : Bool :=
  !cs.isEmpty && cs.all isDecimalDigit

/-- A dash and a number, with or without a point, perhaps followed by a line feed. -/
def isNegativeNumber (cs : List Char) : Bool :=
  match cs with
  | '-' :: rest =>
    let rest := Text.dropLineFeed rest
    isNumeral rest ||
      match Text.cut '.' rest with
      | some (whole, part) => whole.all isDecimalDigit && isNumeral part
      | none => false
  | _ => false

/-- The class of a token that begins with a dash and is longer than that. -/
def classifyDashed (text : String) (cs : List Char) : Token :=
  match flagOf? cs, cs.drop 1 with
  | some f, _ => .flag f none
  | none, c :: rest =>
    if isHelpLetter c && rest.isEmpty then .letter none
    else
      let named :=
        (Text.cut '=' cs).bind fun (before, after) =>
          match before with
          | ['-', d] => if isHelpLetter d then some (.letter (String.ofList after)) else none
          | before => (flagOf? before).map fun f => .flag f (String.ofList after)
      match named with
      | some token => token
      | none =>
        if isHelpLetter c then .letter (String.ofList rest)
        else if isNegativeNumber cs || cs.contains ' ' then .argument text
        else .unknown text
  | none, [] => .argument text

def classify (text : String) : Token :=
  match text.toList with
  | '-' :: rest => classifyDashed text ('-' :: rest)
  | _ => .argument text

/-- The tokens of a command line. -/
def tokens : List String → List Token
  | [] => []
  | text :: rest =>
    if text = "--" then [.leftOver (text :: rest)] else classify text :: tokens rest

end MessageBus.CommandLine
