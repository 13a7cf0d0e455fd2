import Revocation.Bytes

/-!
Hexadecimal text. Writing gives two lower-case digits a byte; reading takes either case, with blanks
allowed before, between and after the pairs. Main statement: `read_write`.
-/
namespace Revocation.Hex

/-- The place of the first character that does not continue a row of digit pairs. -/
structure Fault where
  position : Nat
deriving DecidableEq

def digits : List Char := "0123456789abcdef".toList

def digit (n : Nat) : Char := digits.getD n '0'

def value? (c : Char) : Option Nat :=
  if '0' ≤ c ∧ c ≤ '9' then some (c.toNat - '0'.toNat)
  else if 'a' ≤ c ∧ c ≤ 'f' then some (c.toNat - 'a'.toNat + 10)
  else if 'A' ≤ c ∧ c ≤ 'F' then some (c.toNat - 'A'.toNat + 10)
  else none

def isBlank (c : Char) : Bool := c = ' ' || (9 ≤ c.toNat && c.toNat ≤ 13)

def pair (b : UInt8) : List Char := [digit (b.toNat / 16), digit (b.toNat % 16)]

def write (bs : Bytes) : List Char := bs.flatMap pair

def encode (bs : Bytes) : String := String.ofList (write bs)

/-- A failure tells how many characters were left where reading stopped. -/
def read : List Char → Except Nat Bytes
  | [] => .ok []
  | c :: rest =>
    if isBlank c then read rest
    else match value? c with
      | none => .error (rest.length + 1)
      | some high => match rest with
        | [] => .error 0
        | d :: rest => match value? d with
          | none => .error (rest.length + 1)
          | some low => match read rest with
            | .ok bs => .ok (UInt8.ofNat (16 * high + low) :: bs)
            | .error left => .error left

/-- A character outside ASCII is reported before any other fault. -/
def decode (s : String) : Except Fault Bytes :=
  let cs := s.toList
  match cs.findIdx? (127 < ·.toNat) with
  | some i => .error ⟨i⟩
  | none => match read cs with
    | .ok bs => .ok bs
    | .error left => .error ⟨cs.length - left⟩

theorem value?_digit {n : Nat} (h : n < 16) : value? (digit n) = some n := by
  revert n
  decide

theorem isBlank_digit {n : Nat} (h : n < 16) : isBlank (digit n) = false := by
  revert n
  decide

theorem digit_toNat_lt {n : Nat} (h : n < 16) : (digit n).toNat ≤ 127 := by
  revert n
  decide

theorem read_write (bs : Bytes) : read (write bs) = .ok bs := by
  induction bs with
  | nil => rfl
  | cons b bs ih =>
    have hb := b.toNat_lt
    have hh : b.toNat / 16 < 16 := by omega
    have hl : b.toNat % 16 < 16 := by omega
    rw [write, List.flatMap_cons, ← write, pair, List.cons_append, List.cons_append,
      List.nil_append, read]
    simp only [isBlank_digit hh, value?_digit hh, value?_digit hl, ih, Bool.false_eq_true, if_false]
    rw [show 16 * (b.toNat / 16) + b.toNat % 16 = b.toNat by omega, UInt8.ofNat_toNat]

theorem length_write (bs : Bytes) : (write bs).length = 2 * bs.length := by
  induction bs with
  | nil => rfl
  | cons b bs ih =>
    rw [write, List.flatMap_cons, ← write, List.length_append, ih, List.length_cons]
    simp only [pair, List.length_cons, List.length_nil]
    omega

end Revocation.Hex
