import MessageBus.Number.Integer
import MessageBus.Number.Places
/-!
Floating-point numbers as text. The plain form has the fewest digits that read back, positional from
`1e-4` below `1e16`, with a point in every case. The fixed, exponent and general styles round to a
precision. Reading takes what these write, the digits of every script, single underscores between
digits, and blanks at both ends.
-/
namespace MessageBus.Number

/-- An exponent with its sign and at least two digits, after its letter. -/
def exponentText (letter : Char) (e : Int) : List Char :=
  let ds := Nat.toDigits 10 e.natAbs
  letter :: (if e < 0 then '-' else '+') :: (List.replicate (2 - ds.length) '0' ++ ds)

/-- Digits with a point after the first `whole`, zeros added where digits are missing. -/
def positional (ds : List Char) (whole : Int) : List Char × List Char :=
  if whole ≤ 0 then (['0'], List.replicate (-whole).toNat '0' ++ ds)
  else
    let n := whole.toNat
    (ds.take n ++ List.replicate (n - ds.length) '0', ds.drop n)

/-- The magnitude of a finite number in its plain form. -/
def plainMagnitude (m : Nat) (q : Int) : List Char :=
  let ds : Digits := if m = 0 then ⟨['0'], 0⟩ else Binary64.shortest m q
  if -4 ≤ ds.exponent && ds.exponent < 16 then
    let (whole, part) := positional ds.digits (ds.exponent + 1)
    whole ++ '.' :: (if part.isEmpty then ['0'] else part)
  else
    ds.digits.take 1 ++ (if ds.digits.length ≤ 1 then [] else '.' :: ds.digits.drop 1) ++
      exponentText 'e' ds.exponent

def signText (negative : Bool) : List Char :=
  if negative then ['-'] else []

/-- The plain form of a number. -/
def Binary64.plain : Binary64 → String
  | .nan => "nan"
  | .infinity negative => String.ofList (signText negative ++ "inf".toList)
  | .finite negative m q => String.ofList (signText negative ++ plainMagnitude m q)

/-- How a number is written with a precision: with places behind the point, with an exponent, or the
shorter of the two for its significant digits. A pointed number has a digit behind its point unless it
has an exponent. -/
inductive Style
  | fixed
  | exponent
  | general
  | pointed
  deriving DecidableEq

/-- Whole part, point and places; without places the point is written only if it must be kept. -/
def withPoint (keepPoint : Bool) (whole part : List Char) : List Char :=
  whole ++ (if part.isEmpty && !keepPoint then [] else '.' :: part)

def dropZeros (ds : List Char) : List Char :=
  (ds.reverse.dropWhile (· == '0')).reverse

/-- The magnitude of a finite number in some style. If `full`, the point and the zeros at the end
are always kept. -/
def styledMagnitude (style : Style) (precision : Nat) (full : Bool) (m : Nat) (q : Int) : List Char :=
  let (n, d) := Binary64.fraction m q
  match style with
  | .fixed =>
    let (whole, part) := places precision n d
    withPoint full whole part
  | .exponent =>
    let ds := significant (precision + 1) n d
    withPoint full (ds.digits.take 1) (ds.digits.drop 1) ++ exponentText 'e' ds.exponent
  | .general | .pointed =>
    let precision := max precision 1
    let ds := significant precision n d
    let trim (ds : List Char) : List Char := if full then ds else dropZeros ds
    let pointed := style == .pointed
    if -4 ≤ ds.exponent && ds.exponent < (if pointed then precision - 1 else precision : Nat) then
      let (whole, part) := positional ds.digits (ds.exponent + 1)
      let part := trim part
      withPoint full whole (if pointed && part.isEmpty then ['0'] else part)
    else
      withPoint full (ds.digits.take 1) (trim (ds.digits.drop 1)) ++ exponentText 'e' ds.exponent

/-- A number in some style, in lower case. -/
def Binary64.styled (style : Style) (precision : Nat) (full : Bool) : Binary64 → List Char
  | .nan => "nan".toList
  | .infinity negative => signText negative ++ "inf".toList
  | .finite negative m q => signText negative ++ styledMagnitude style precision full m q

/-- The integer part of a number, or whether it is infinite rather than no number. -/
def Binary64.toInt? : Binary64 → Except Bool Int
  | .nan => .error false
  | .infinity _ => .error true
  | .finite negative m q => .ok (truncate negative m q)

/-- The floating-point number for an integer, unless it is beyond all of them. -/
def Binary64.ofInt? (i : Int) : Option Binary64 :=
  match ofInt i with
  | .finite s m q => some (.finite s m q)
  | _ => none

/-- Digits at the front of a text if there are any, single underscores between them left out. -/
def takeSomeDigits (cs : List Char) : Option (List Nat × List Char) :=
  match cs with
  | [] => some ([], [])
  | c :: _ => if (digitValue? 10 c).isSome then takeDigits 10 cs else some ([], cs)

/-- Digits, a point and digits, at least one digit in all. -/
def takeDecimal (cs : List Char) : Option (List Nat × List Nat × List Char) := do
  let (whole, rest) ← takeSomeDigits cs
  match rest with
  | '.' :: rest =>
    let (part, rest) ← takeSomeDigits rest
    if whole.isEmpty && part.isEmpty then none else some (whole, part, rest)
  | rest => if whole.isEmpty then none else some (whole, [], rest)

/-- An exponent at the front of a text, zero if there is none. -/
def takeExponent (cs : List Char) : Option (Int × List Char) :=
  match cs with
  | c :: rest =>
    if c == 'e' || c == 'E' then do
      let (negative, rest) := takeSign rest
      let (ds, rest) ← takeSomeDigits rest
      if ds.isEmpty then none
      else
        let e : Int := ofDigits 10 ds
        some (if negative then -e else e, rest)
    else some (0, cs)
  | [] => some (0, [])

/-- The number nearest to some digits times a power of ten. Exponents so large or small that the
result is certain are not worked out. -/
def ofDecimal (negative : Bool) (ds : List Nat) (e : Int) : Binary64 :=
  let n := ofDigits 10 ds
  if n = 0 then .zero negative
  else
    let top := e + (Nat.toDigits 10 n).length
    if 400 < top then .infinity negative
    else if top < -400 then .zero negative
    else
      let (n, d) := scale n 10 e
      .ofFraction negative n d

/-- The word of a number that is not finite. -/
def specialNumber? (negative : Bool) (cs : List Char) : Option Binary64 :=
  match String.ofList (cs.map Char.toLower) with
  | "inf" | "infinity" => some (.infinity negative)
  | "nan" => some .nan
  | _ => none

/-- The floating-point number that a text writes. -/
def readReal (text : String) : Except Fault Binary64 :=
  let trimmed := ((text.toList.dropWhile isMargin).reverse.dropWhile isMargin).reverse
  let (negative, cs) := takeSign trimmed
  let number? : Option Binary64 := do
    let (whole, part, rest) ← takeDecimal cs
    let (e, rest) ← takeExponent rest
    if rest.isEmpty then some (ofDecimal negative (whole ++ part) (e - part.length)) else none
  match number? <|> specialNumber? negative cs with
  | some x => .ok x
  | none => .error (.notReal text)

end MessageBus.Number
