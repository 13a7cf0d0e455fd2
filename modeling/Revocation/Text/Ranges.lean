import Revocation.Hex
import Revocation.Text.Words

/-!
Sets of characters given as ascending ranges of code points, both ends included. Long ones are
written as text: hexadecimal code points and pairs of them joined by a hyphen.
-/
namespace Revocation.Text

abbrev Ranges := List (Nat × Nat)

/-- The first range that does not end before `n` decides. -/
def Ranges.has (n : Nat) : Ranges → Bool
  | [] => false
  | (low, high) :: rest => if n ≤ high then low ≤ n else Ranges.has n rest

def codePoint (digits : List Char) : Nat :=
  digits.foldl (fun n c => 16 * n + (Hex.value? c).getD 0) 0

/-- What stands before and after the first mark, the latter empty without one. -/
def splitAtMark (mark : Char) (cs : List Char) : List Char × List Char :=
  (cs.takeWhile (· ≠ mark), (cs.dropWhile (· ≠ mark)).drop 1)

def rangeOf (cs : List Char) : Nat × Nat :=
  match splitAtMark '-' cs with
  | (low, []) => (codePoint low, codePoint low)
  | (low, high) => (codePoint low, codePoint high)

def Ranges.ofText (s : String) : Ranges := (words s.toList).map (rangeOf ·.toList)

end Revocation.Text
