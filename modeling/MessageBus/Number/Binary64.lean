/-!
Floating-point numbers of 53 significant bits, exactly: a finite one is a sign, a natural number and
a power of two. Every operation gives the number nearest to the exact result, of two equally near
ones the one with the even significand.
-/
namespace MessageBus.Number

inductive Binary64
  | nan
  | infinity (negative : Bool)
  | finite (negative : Bool) (significand : Nat) (exponent : Int)
  deriving DecidableEq

/-- The quotient of two numbers rounded to the nearest integer, a half to the even neighbour. -/
def roundDiv (n d : Nat) : Nat :=
  let q := n / d
  let r := n % d
  if 2 * r < d then q
  else if d < 2 * r then q + 1
  else if q % 2 = 0 then q else q + 1

/-- A number times a power, over a denominator: `scale n b e` is `n * b ^ e` as a fraction. -/
def scale (n base : Nat) (e : Int) : Nat × Nat :=
  if 0 ≤ e then (n * Nat.pow base e.toNat, 1) else (n, Nat.pow base (-e).toNat)

namespace Binary64

/-- The smallest exponent of a significand. -/
def minExponent : Int := -1074

/-- The largest exponent of a significand. -/
def maxExponent : Int := 971

def zero (negative : Bool) : Binary64 :=
  .finite negative 0 minExponent

/-- The number nearest to a positive fraction. -/
def ofFraction (negative : Bool) (n d : Nat) : Binary64 :=
  if n = 0 then zero negative
  else
    let l : Int := (n.log2 : Int) - d.log2
    let atLeast : Bool :=
      if 0 ≤ l then d * Nat.pow 2 l.toNat ≤ n else d ≤ n * Nat.pow 2 (-l).toNat
    let q := max minExponent (if atLeast then l - 52 else l - 53)
    let m := if 0 ≤ q then roundDiv n (d * Nat.pow 2 q.toNat) else roundDiv (n * Nat.pow 2 (-q).toNat) d
    let (m, q) := if m = Nat.pow 2 53 then (Nat.pow 2 52, q + 1) else (m, q)
    if maxExponent < q then .infinity negative else .finite negative m q

/-- The number nearest to an integer. -/
def ofInt (i : Int) : Binary64 :=
  ofFraction (i < 0) i.natAbs 1

/-- The magnitude of a finite number as a fraction. -/
def fraction (significand : Nat) (exponent : Int) : Nat × Nat :=
  scale significand 2 exponent

/-- The integer part of a finite number. -/
def truncate (negative : Bool) (significand : Nat) (exponent : Int) : Int :=
  let (n, d) := fraction significand exponent
  let i : Int := n / d
  if negative then -i else i

/-- The number equals an integer. -/
def equalsInt (x : Binary64) (i : Int) : Bool :=
  match x with
  | .finite negative m q =>
    let (n, d) := fraction m q
    n % d == 0 && (if negative then -((n / d : Nat) : Int) else ((n / d : Nat) : Int)) == i
  | _ => false

/-- Equality of value: the two zeros are equal. -/
def equals : Binary64 → Binary64 → Bool
  | .finite s m q, .finite s' m' q' => (m == 0 && m' == 0) || (s == s' && m == m' && q == q')
  | .infinity s, .infinity s' => s == s'
  | _, _ => false

def neg : Binary64 → Binary64
  | .nan => .nan
  | .infinity s => .infinity !s
  | .finite s m q => .finite (!s) m q

def mul : Binary64 → Binary64 → Binary64
  | .nan, _ | _, .nan => .nan
  | .infinity s, .infinity s' => .infinity (s != s')
  | .infinity s, .finite s' m _ | .finite s' m _, .infinity s =>
    if m = 0 then .nan else .infinity (s != s')
  | .finite s m q, .finite s' m' q' =>
    let (n, d) := scale (m * m') 2 (q + q')
    ofFraction (s != s') n d

def add : Binary64 → Binary64 → Binary64
  | .nan, _ | _, .nan => .nan
  | .infinity s, .infinity s' => if s == s' then .infinity s else .nan
  | .infinity s, .finite .. | .finite .., .infinity s => .infinity s
  | .finite s m q, .finite s' m' q' =>
    let low := min q q'
    let signed (s : Bool) (m : Nat) (q : Int) : Int :=
      let a : Int := m * Nat.pow 2 (q - low).toNat
      if s then -a else a
    let total := signed s m q + signed s' m' q'
    let (n, d) := scale total.natAbs 2 low
    ofFraction (if total = 0 then s && s' else total < 0) n d

end Binary64
end MessageBus.Number
