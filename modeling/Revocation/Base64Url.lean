import Revocation.Bytes

/-!
Base64 in the alphabet that is safe in file names and addresses, without padding.
-/
namespace Revocation.Base64Url

def alphabet : List Char :=
  "ABCDEFGHIJKLMNOPQRSTUVWXYZabcdefghijklmnopqrstuvwxyz0123456789-_".toList

/-- The `count` leading characters of 24 bits. -/
def quartet (count n : Nat) : List Char :=
  ([n >>> 18, (n >>> 12) % 64, (n >>> 6) % 64, n % 64].take count).map fun i => alphabet.getD i 'A'

def write : Bytes → List Char
  | [] => []
  | [a] => quartet 2 (a.toNat <<< 16)
  | [a, b] => quartet 3 (a.toNat <<< 16 + b.toNat <<< 8)
  | a :: b :: c :: rest =>
    quartet 4 (a.toNat <<< 16 + b.toNat <<< 8 + c.toNat) ++ write rest

def encode (bs : Bytes) : String := String.ofList (write bs)

end Revocation.Base64Url
