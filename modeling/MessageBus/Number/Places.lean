import MessageBus.Number.Binary64
/-!
Positive fractions in decimal: the power of ten below a fraction, its digits rounded to a number of
places or of significant digits, and the shortest digits that read back as the same floating-point
number.
-/
namespace MessageBus.Number

/-- The fraction `n / d` is at least the power `10 ^ e`. -/
def reaches (n d : Nat) (e : Int) : Bool :=
  if 0 ≤ e then d * Nat.pow 10 e.toNat ≤ n else d ≤ n * Nat.pow 10 (-e).toNat

/-- The exponent of the largest power of ten that a positive fraction reaches. -/
def magnitude (n d : Nat) : Int :=
  if d ≤ n then ((Nat.toDigits 10 (n / d)).length : Int) - 1
  else
    let guess : Int := -(((d.log2 - n.log2 + 1) * 30103 / 100000 : Nat) : Int) - 1
    climb 4 guess
where
  /-- The last of the next few exponents that the fraction still reaches. -/
  climb : Nat → Int → Int
    | 0, e => e
    | fuel + 1, e => if reaches n d (e + 1) then climb fuel (e + 1) else e

/-- The fraction in units of `10 ^ e`, as a fraction. -/
def inUnits (n d : Nat) (e : Int) : Nat × Nat :=
  if 0 ≤ e then (n, d * Nat.pow 10 e.toNat) else (n * Nat.pow 10 (-e).toNat, d)

/-- Decimal digits with the exponent of the first one: `⟨[1, 5], 2⟩` is 150. -/
structure Digits where
  digits : List Char
  exponent : Int

/-- The fraction rounded to a number of significant digits. -/
def significant (count n d : Nat) : Digits :=
  if n = 0 then ⟨List.replicate count '0', 0⟩
  else
    let e := magnitude n d
    let (a, b) := inUnits n d (e - count + 1)
    let r := roundDiv a b
    if r = Nat.pow 10 count then ⟨Nat.toDigits 10 (Nat.pow 10 (count - 1)), e + 1⟩
    else ⟨Nat.toDigits 10 r, e⟩

/-- The fraction rounded to a number of places after the point: whole digits and places. -/
def places (count n d : Nat) : List Char × List Char :=
  let ds := Nat.toDigits 10 (roundDiv (n * Nat.pow 10 count) d)
  let ds := List.replicate (count + 1 - ds.length) '0' ++ ds
  (ds.take (ds.length - count), ds.drop (ds.length - count))

namespace Binary64

/-- The reals that round to a positive finite number, in units of a quarter of its last place:
lower end, upper end, and whether the ends belong to it. -/
def interval (m : Nat) (q : Int) : Nat × Nat × Bool :=
  let lower := if m = Nat.pow 2 52 && minExponent < q then 4 * m - 1 else 4 * m - 2
  (lower, 4 * m + 2, m % 2 == 0)

/-- The digits of a positive finite number in units of `10 ^ e`, if a neighbour of it on that grid
rounds to it; of two such neighbours the nearer one. -/
def onGrid (m : Nat) (q : Int) (e : Int) : Option Nat :=
  let (lower, upper, closed) := interval m q
  let side (x : Nat) : Nat × Nat :=
    let (n, d) := scale x 2 (q - 2)
    inUnits n d e
  let (a, b) := side (4 * m)
  let (la, lb) := side lower
  let (ua, ub) := side upper
  let floor := a / b
  let fits (k : Nat) : Bool :=
    if closed then la ≤ k * lb && k * ub ≤ ua else la < k * lb && k * ub < ua
  let below := fits floor
  let above := fits (floor + 1)
  if below && above then
    let rest := a - floor * b
    if 2 * rest < b then some floor
    else if b < 2 * rest then some (floor + 1)
    else some (if floor % 2 = 0 then floor else floor + 1)
  else if below then some floor
  else if above then some (floor + 1)
  else none

/-- The fewest digits that read back as the positive finite number. -/
def shortest (m : Nat) (q : Int) : Digits :=
  let (n, d) := fraction m q
  let e := magnitude n d
  let found := (List.range 17).findSome? fun (i : Nat) =>
    (onGrid m q (e - i)).map fun k => (i, k)
  match found with
  | some (i, k) =>
    let ds := Nat.toDigits 10 k
    let trimmed := (ds.reverse.dropWhile (· == '0')).reverse
    ⟨trimmed, e + (ds.length - (i + 1))⟩
  | none => significant 17 n d

end Binary64
end MessageBus.Number
