import MessageBus.Text.Blank
import MessageBus.Text.Digit
import MessageBus.Text.Quoted
/-!
Integers as text. Reading takes the decimal digits of every script, blanks at both ends, a sign and
single underscores between digits. Decimal text of more than 4300 digits is neither read nor
written; other bases that are powers of two have no limit.
-/
namespace MessageBus.Number

/-- The most digits that decimal text of an integer may have. -/
def digitLimit : Nat := 4300

/-- Why a text is no number, or a number has no text. -/
inductive Fault
  | notInteger (base : Nat) (text : String)
  | tooLongToRead (digits : Nat)
  | tooLongToWrite
  | notReal (text : String)
  deriving DecidableEq

def Fault.message : Fault → String
  | .notInteger base text =>
    "invalid literal for int() with base " ++ toString base ++ ": " ++
      String.ofList ((Text.quoted text).toList.take 200)
  | .tooLongToRead digits =>
    "Exceeds the limit (" ++ toString digitLimit ++ " digits) for integer string conversion: value has " ++
      toString digits ++ " digits; use sys.set_int_max_str_digits() to increase the limit"
  | .tooLongToWrite =>
    "Exceeds the limit (" ++ toString digitLimit ++
      " digits) for integer string conversion; use sys.set_int_max_str_digits() to increase the limit"
  | .notReal text => "could not convert string to float: " ++ Text.quoted text

/-- The decimal text of an integer. -/
def decimal (i : Int) : String :=
  match i with
  | .ofNat n => String.ofList (Nat.toDigits 10 n)
  | .negSucc n => String.ofList ('-' :: Nat.toDigits 10 (n + 1))

/-- The integer has more decimal digits than may be written. -/
def tooLong (i : Int) : Bool :=
  Nat.pow 10 digitLimit ≤ i.natAbs

/-- Blanks that may stand around a number: those of text but for the information separators. -/
def isMargin (c : Char) : Bool :=
  Text.isBlank c && !(28 ≤ c.toNat && c.toNat ≤ 31)

/-- The value of a digit in some base: a decimal digit of any script, or a letter of ASCII. -/
def digitValue? (base : Nat) (c : Char) : Option Nat :=
  let value? :=
    if 'a' ≤ c && c ≤ 'z' then some (c.toNat - 87)
    else if 'A' ≤ c && c ≤ 'Z' then some (c.toNat - 55)
    else Text.decimalValue? c
  value?.filter (· < base)

/-- Digits at the front of a text, single underscores between them left out, with what follows.
There is none if an underscore stands first, last or beside another. -/
def takeDigits (base : Nat) (cs : List Char) : Option (List Nat × List Char) :=
  go false cs
where
  /-- Here `gap` says that an underscore may stand next. -/
  go (gap : Bool) : List Char → Option (List Nat × List Char)
    | [] => if gap then some ([], []) else none
    | '_' :: rest =>
      if gap then go false rest else none
    | c :: rest =>
      match digitValue? base c with
      | some d => (go true rest).map fun (ds, rest) => (d :: ds, rest)
      | none => if gap then some ([], c :: rest) else none

/-- The number that some digits write. -/
def ofDigits (base : Nat) (ds : List Nat) : Nat :=
  ds.foldl (fun n d => n * base + d) 0

/-- The sign in front of a number, and what follows it. -/
def takeSign : List Char → Bool × List Char
  | '-' :: rest => (true, rest)
  | '+' :: rest => (false, rest)
  | cs => (false, cs)

/-- A base mark in front of the digits, with an underscore after it or none. -/
def dropBaseMark (base : Nat) (cs : List Char) : List Char :=
  let dropGap : List Char → List Char
    | '_' :: rest => rest
    | cs => cs
  match base, cs with
  | 16, '0' :: 'x' :: rest | 16, '0' :: 'X' :: rest
  | 8, '0' :: 'o' :: rest | 8, '0' :: 'O' :: rest
  | 2, '0' :: 'b' :: rest | 2, '0' :: 'B' :: rest => dropGap rest
  | _, cs => cs

/-- The integer that a text writes in some base. -/
def readInteger (base : Nat) (text : String) : Except Fault Int :=
  let (negative, cs) := takeSign (text.toList.dropWhile isMargin)
  match takeDigits base (dropBaseMark base cs) with
  | none => .error (.notInteger base text)
  | some (ds, rest) =>
    if base == 10 && digitLimit < ds.length then .error (.tooLongToRead ds.length)
    else if rest.all isMargin then
      let n : Int := ofDigits base ds
      .ok (if negative then -n else n)
    else .error (.notInteger base text)

end MessageBus.Number
