/-!
Double-precision numbers as exact values. A finite one is a sign, a mantissa and a power of two,
kept in the one normal form: the exponent is the least there is, or the mantissa has all 53 bits.
Conversions round to the nearest value, a tie to the even mantissa, and go through no machine
arithmetic, so every step can be reasoned about.
-/
namespace Revocation

inductive Binary64
  | nan (negative : Bool)
  | infinity (negative : Bool)
  | finite (negative : Bool) (mantissa : Nat) (exponent : Int)
deriving DecidableEq, Inhabited

namespace Binary64

def leastExponent : Int := -1074

def greatestExponent : Int := 971

def zero (negative : Bool) : Binary64 := .finite negative 0 leastExponent

def isZero : Binary64 → Bool
  | .finite _ m _ => m == 0
  | _ => false

/-- `num / den` rounded to the nearest integer, a tie to the even one. -/
def roundHalfEven (num den : Nat) : Nat :=
  let q := num / den
  let r := 2 * (num % den)
  if r < den then q else if den < r then q + 1 else q + q % 2

/-- The value `num / den` in units of `2 ^ e`, rounded. -/
def scaled (num den : Nat) (e : Int) : Nat :=
  if 0 ≤ e then roundHalfEven num (den <<< e.toNat) else roundHalfEven (num <<< (-e).toNat) den

/-- The exponent at which `num / den` has 53 bits before the point, or the least exponent. -/
def exponentFor (num den : Nat) : Int :=
  let e : Int := (Nat.log2 num : Int) - Nat.log2 den - 52
  let e := if 0 ≤ e then (if num < den <<< (e.toNat + 52) then e - 1 else e)
    else if num <<< (-e).toNat < den <<< 52 then e - 1 else e
  max e leastExponent

/-- The double nearest to `num / den`. -/
def ofRatio (negative : Bool) (num den : Nat) : Binary64 :=
  if num = 0 then zero negative
  else
    let e := exponentFor num den
    let m := scaled num den e
    let (m, e) := if m = 1 <<< 53 then (1 <<< 52, e + 1) else (m, e)
    if greatestExponent < e then .infinity negative else .finite negative m e

def digitCount (n : Nat) : Nat := (Nat.toDigits 10 n).length

/-- The double nearest to `n * 10 ^ k`. Powers that no double comes near are not worked out. -/
def ofDecimal (negative : Bool) (n : Nat) (k : Int) : Binary64 :=
  if n = 0 then zero negative
  else
    let size := k + digitCount n
    if 400 < size then .infinity negative
    else if size < -400 then zero negative
    else if 0 ≤ k then ofRatio negative (n * Nat.pow 10 k.toNat) 1
    else ofRatio negative n (Nat.pow 10 (-k).toNat)

def ofInt (n : Int) : Binary64 := ofRatio (n < 0) n.natAbs 1

/-- The integer part, towards zero; nothing for the values that have none. -/
def truncate? : Binary64 → Option Int
  | .finite negative m e =>
    let n := if 0 ≤ e then m <<< e.toNat else m >>> (-e).toNat
    some (if negative then -n else n)
  | _ => none

/-- The 64 bits of the interchange format. -/
def toBits : Binary64 → Nat
  | .nan negative => (if negative then 1 <<< 63 else 0) + 0x7ff8000000000000
  | .infinity negative => (if negative then 1 <<< 63 else 0) + 0x7ff0000000000000
  | .finite negative m e =>
    (if negative then 1 <<< 63 else 0) +
      (if m < 1 <<< 52 then m else (e + 1075).toNat <<< 52 + (m - 1 <<< 52))

def toFloat (x : Binary64) : Float := Float.ofBits (UInt64.ofNat x.toBits)

end Binary64
end Revocation
