import Revocation.Hex
import Revocation.Text.Printable

/-!
Quoted text, as it is shown inside a message: on one line, every character that would not show
written as an escape.
-/
namespace Revocation.Text

/-- Hexadecimal digits of `n`, exactly `count` of them. -/
def hexDigits : (count : Nat) → (n : Nat) → List Char
  | 0, _ => []
  | k + 1, n => hexDigits k (n / 16) ++ [Hex.digit (n % 16)]

/-- The mark to quote with: the double one only around text that holds just single ones. -/
def quoteMark (cs : List Char) : Char :=
  if cs.contains '\'' && !cs.contains '"' then '"' else '\''

def escaped (mark c : Char) : List Char :=
  if c = mark || c = '\\' then ['\\', c]
  else if c = '\t' then ['\\', 't']
  else if c = '\n' then ['\\', 'n']
  else if c = '\r' then ['\\', 'r']
  else if isPrintable c then [c]
  else if c.toNat < 0x100 then '\\' :: 'x' :: hexDigits 2 c.toNat
  else if c.toNat < 0x10000 then '\\' :: 'u' :: hexDigits 4 c.toNat
  else '\\' :: 'U' :: hexDigits 8 c.toNat

def quoted (s : String) : String :=
  let cs := s.toList
  let mark := quoteMark cs
  String.ofList (mark :: cs.flatMap (escaped mark) ++ [mark])

/-- A code point in capital hexadecimal digits, four or more of them. -/
def codePointName (c : Char) : String :=
  let ds := (Nat.toDigits 16 c.toNat).map Char.toUpper
  String.ofList ('U' :: '+' :: List.replicate (4 - ds.length) '0' ++ ds)

/-- At most the first `n` characters. -/
def cut (n : Nat) (s : String) : String := String.ofList (s.toList.take n)

end Revocation.Text
