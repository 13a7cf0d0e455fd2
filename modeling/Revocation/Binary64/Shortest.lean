import Revocation.Binary64

/-!
The fewest decimal digits that read back as the same double. A grid of `k` digits is tried at the
two points next to the value; the first grid with a point inside the rounding interval wins.
-/
namespace Revocation.Binary64

/-- A decimal number `digits * 10 ^ exponent`. -/
structure Decimal where
  digits : Nat
  exponent : Int
deriving DecidableEq

/-- The reals that round to a finite double, and the double itself, all as numerators over one
denominator; `closed` tells whether the ends belong. -/
structure Interval where
  low : Nat
  value : Nat
  high : Nat
  den : Nat
  closed : Bool

def interval (m : Nat) (e : Int) : Interval :=
  let narrow := m = 1 <<< 52 ∧ leastExponent < e
  let up := if 0 ≤ e - 2 then 1 <<< (e - 2).toNat else 1
  let den := if 0 ≤ e - 2 then 1 else 1 <<< (2 - e).toNat
  ⟨(4 * m - if narrow then 1 else 2) * up, 4 * m * up, (4 * m + 2) * up, den, m % 2 = 0⟩

/-- Whether `d * 10 ^ k` lies in the interval. -/
def Interval.has (i : Interval) (d : Nat) (k : Int) : Bool :=
  let p := if 0 ≤ k then d * Nat.pow 10 k.toNat * i.den else d * i.den
  let q := if 0 ≤ k then 1 else Nat.pow 10 (-k).toNat
  if i.closed then i.low * q ≤ p && p ≤ i.high * q else i.low * q < p && p < i.high * q

/-- The number of digits before the point; not positive for values below one tenth. -/
def magnitude (num den : Nat) : Int :=
  let n : Int := (digitCount num : Int) - digitCount den
  let reached := if 0 ≤ n then den * Nat.pow 10 n.toNat ≤ num else den ≤ num * Nat.pow 10 (-n).toNat
  if reached then n + 1 else n

/-- The nearer point of the grid `10 ^ k` that lies in the interval, if one does. -/
def Interval.nearest? (i : Interval) (k : Int) : Option Decimal :=
  let num := if 0 ≤ k then i.value else i.value * Nat.pow 10 (-k).toNat
  let den := if 0 ≤ k then i.den * Nat.pow 10 k.toNat else i.den
  let d := num / den
  let below := i.has d k
  let above := i.has (d + 1) k
  let r := 2 * (num % den)
  let upwards := den < r || (den == r && d % 2 == 1)
  if below && !(above && upwards) then some ⟨d, k⟩
  else if above then some ⟨d + 1, k⟩
  else none

/-- Every double reads back from seventeen digits, so the search ends there. -/
def shortest (m : Nat) (e : Int) : Decimal :=
  let i := interval m e
  let n := magnitude i.value i.den
  ((List.range 17).findSome? fun p => i.nearest? (n - (p + 1 : Nat))).getD ⟨m, 0⟩

/-- How a decimal is laid out: positional for values from `10 ^ (least - 1)` up to `10 ^ most`,
otherwise one digit before the point and an exponent of at least two digits. -/
structure Layout where
  least : Int
  most : Int
  nan : String
  infinity : String

def zerosText (n : Nat) : List Char := List.replicate n '0'

def exponentText (x : Int) : List Char :=
  let ds := Nat.toDigits 10 x.natAbs
  (if x < 0 then '-' else '+') :: (if ds.length < 2 then '0' :: ds else ds)

def Layout.positional (ds : List Char) (point : Int) : List Char :=
  if point ≤ 0 then '0' :: '.' :: zerosText (-point).toNat ++ ds
  else if ds.length ≤ point.toNat then ds ++ zerosText (point.toNat - ds.length) ++ ['.', '0']
  else ds.take point.toNat ++ '.' :: ds.drop point.toNat

def Layout.scientific (ds : List Char) (point : Int) : List Char :=
  let fraction := ds.drop 1
  ds.take 1 ++ (if fraction.isEmpty then [] else '.' :: fraction) ++ 'e' :: exponentText (point - 1)

/-- Trailing zeros of the digits carry nothing and are dropped first. -/
def Layout.unsigned (l : Layout) (m : Nat) (e : Int) : List Char :=
  if m = 0 then ['0', '.', '0']
  else
    let d := shortest m e
    let all := Nat.toDigits 10 d.digits
    let ds := (all.reverse.dropWhile (· == '0')).reverse
    let point := d.exponent + all.length
    if l.least ≤ point ∧ point ≤ l.most then Layout.positional ds point
    else Layout.scientific ds point

def Layout.text (l : Layout) : Binary64 → String
  | .nan _ => l.nan
  | .infinity negative => (if negative then "-" else "") ++ l.infinity
  | .finite negative m e =>
    String.ofList ((if negative then ['-'] else []) ++ l.unsigned m e)

end Revocation.Binary64
